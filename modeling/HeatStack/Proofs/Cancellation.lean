import HeatStack.Proofs.CallProtocol

/-! # Cancellation at any moment

`Honours` says how a run has to end whose token is cancelled at a moment, by what the run waits for then.
From the cancellation on nothing is asked of the service (`Quiet`), except for the outputs if the answer
in flight completes the stack. -/
set_option autoImplicit false
namespace HeatStack.Lifecycle
namespace Setting
variable {s : Setting} {token : Bool} {started : Nat} {p : Progress} {m m' : Moment} {o : Outcome}

/-- The run has been cancelled and ends at this time, with no call after those it had made. -/
structure Stops (calls : List (Nat × Call)) (time : Nat) (o : Outcome) : Prop where
  state : o.state = .aborted
  status : o.status = .aborted
  calls : o.calls = calls
  elapsed : o.elapsed = time

/-- How a run ends whose token is cancelled at a moment.  A question in flight is waited for, and its
answer counts if it is the last one; the rest between two questions is not slept out. -/
def Honours (s : Setting) (m : Moment) (o : Outcome) : Prop :=
  match m.phase with
  | .entering => Stops [] m.progress.now o
  | .refused _ => False
  | .submitting since =>
    (s.service.submission.result = .ok () →
      Stops m.progress.calls (since + s.service.submission.delay) o) ∧
    ∀ e, s.service.submission.result = .error e → o.state = .failed
  | .asking _ since =>
    (∀ state, s.Decides m.progress.polls state → o.state = state ∧ ∀ o', s.Ends m o' → o' = o) ∧
    ((∀ state, ¬ s.Decides m.progress.polls state) →
      Stops m.progress.calls (since + (s.service.status m.progress.polls).delay) o)
  | .resting _ _ => Stops m.progress.calls m.progress.now o
  | .fetching _ _ => o.state = .complete ∧ ∀ o', s.Ends m o' → o' = o
  | .ended o' => o = o'

/-! ## The last outcome -/

theorem finish_stops (under : p.trail.state.isTerminal = false) (reason : String) :
    Stops p.calls p.now (s.finish p .aborted reason) := by
  have finished := finish_plain (s := s) .aborted reason under (.inl State.noConfusion)
  refine ⟨finished.state, finished.status, ?_, ?_⟩
  · rw [finish_eq, if_pos (.inl State.noConfusion)]
    rfl
  · rw [finish_eq, if_pos (.inl State.noConfusion)]
    rfl

theorem state_finish (under : p.trail.state.isTerminal = false) (state : State) (reason : String) :
    (s.finish p state reason).state = state := by
  have settled : (s.settle p state reason).trail.state = state :=
    Trail.state_transition _ _ state reason under
  rw [finish_eq]
  split
  · exact settled
  · exact (s.fetched_course _ reason).2.trans settled

/-- An answer that decides gives its state; any other leaves the run to its cancellation. -/
theorem afterAnswer_cases (counts : s.Counts p) (inProgress : p.trail.state = .inProgress) :
    (∀ state, s.Decides p.polls state → (s.afterAnswer p).state = state) ∧
    ((∀ state, ¬ s.Decides p.polls state) → Stops p.calls p.now (s.afterAnswer p)) := by
  obtain ⟨now, -, calls, state⟩ := s.heeded_course p
  have decides := heeded_decides counts
  unfold afterAnswer
  cases answer : s.heeded p with
  | mk q verdict =>
      rw [answer] at now calls state decides
      dsimp only at now calls state decides
      have under := q.trail.not_terminal_of_eq (state.trans inProgress) rfl
      cases verdict with
      | none =>
          have undecided : ∀ last, ¬ s.Decides p.polls last := fun last decided => by
            obtain ⟨reason, found⟩ := (decides last).mpr decided
            cases found
          have stops := finish_stops (s := s) under "aborted while waiting"
          refine ⟨fun last decided => absurd decided (undecided last), fun _ => ?_⟩
          exact ⟨stops.state, stops.status, stops.calls.trans calls, stops.elapsed.trans now⟩
      | some verdict =>
          obtain ⟨last, reason⟩ := verdict
          refine ⟨fun other decided => ?_, fun undecided => ?_⟩
          · obtain ⟨reason', found⟩ := (decides other).mpr decided
            cases found
            exact state_finish under last reason
          · exact absurd ((decides last).mp ⟨reason, rfl⟩) (undecided last)

theorem Decides.inTime {k : Nat} {state : State} (decides : s.Decides k state) : state ≠ .timedOut := by
  cases decides with
  | final status state reads final =>
      generalize classify s.options.action status = observed at final
      cases final <;> exact State.noConfusion
  | exhausted => exact State.noConfusion

/-! ## Nothing changes a decision -/

/-- The run waits for an answer after which nothing else can happen. -/
def Fixed (s : Setting) (m : Moment) : Prop :=
  match m.phase with
  | .asking _ _ => ∃ state, s.Decides m.progress.polls state
  | .fetching _ _ | .ended _ => True
  | _ => False

theorem fixed_conclude (s : Setting) (token : Bool) (p : Progress) (state : State) (reason : String) :
    s.Fixed (s.conclude token p state reason) :=
  conclude_cases (P := s.Fixed) (fun _ => trivial) (fun _ _ => trivial)

theorem fixed_move (placed : s.Placed m) (fixed : s.Fixed m) (move : s.Moves m m') :
    s.Fixed m' ∧ s.finally? m' = s.finally? m := by
  cases move with
  | cancel => exact ⟨fixed, rfl⟩
  | pass phase p token due time ends =>
      cases phase with
      | asking started since => exact ⟨fixed, rfl⟩
      | fetching reason since => exact ⟨trivial, rfl⟩
      | ended o => cases ends
      | _ => cases fixed
  | hear started since p token answered =>
      -- The answer decides whatever the token says, so that the loop is left before the next look.
      obtain ⟨state, decided⟩ := fixed
      obtain ⟨reason, found⟩ := (heeded_decides placed.counts state).mpr decided
      have answer : s.heeded p = ((s.heeded p).1, some (state, reason)) := Prod.ext rfl found
      have concludes : s.hear token started p = s.conclude token (s.heeded p).1 state reason := by
        unfold hear
        rw [answer]
      have after : s.afterAnswer p = s.finish (s.heeded p).1 state reason := by
        unfold afterAnswer
        rw [answer]
      rw [concludes, finally?_conclude]
      refine ⟨s.fixed_conclude _ _ _ _, ?_⟩
      change _ = some (s.afterAnswer (p.until (since + (s.service.status p.polls).delay)))
      rw [← answered, Progress.until_now, after]
  | fetch reason since p token answered =>
      refine ⟨trivial, ?_⟩
      change some (s.fetched p reason) =
        some (s.fetched (p.until (since + s.service.outputs.delay)) reason)
      rw [← answered, Progress.until_now]
  | _ => cases fixed

theorem fixed_reaches (occurs : s.Occurs m) (fixed : s.Fixed m) (reaches : s.Reaches m m') :
    s.Fixed m' ∧ s.finally? m' = s.finally? m := by
  induction reaches with
  | refl => exact ⟨fixed, rfl⟩
  | tail before move ih =>
      obtain ⟨fixed', same⟩ := ih
      obtain ⟨fixed'', same'⟩ := fixed_move (Occurs.placed (occurs.trans before)) fixed' move
      exact ⟨fixed'', same'.trans same⟩

theorem ends_of_fixed (occurs : s.Occurs m) (fixed : s.Fixed m) (ends : s.Ends m o) :
    s.finally? m = some o := by
  obtain ⟨p, token, reaches⟩ := ends
  exact (fixed_reaches occurs fixed reaches).2.symm

/-! ## The outcome of a cancellation -/

theorem beforeSubmission_stops (last : s.beforeSubmission? = some o) :
    Stops [] 0 o := by
  unfold beforeSubmission? at last
  split at last
  · cases last
    exact finish_stops s.running_start _
  · cases last

theorem afterSubmission_cases (submitting : p.trail.state = .submitting) :
    (s.service.submission.result = .ok () → Stops p.calls p.now (s.afterSubmission p)) ∧
    ∀ e, s.service.submission.result = .error e → (s.afterSubmission p).state = .failed := by
  have under := p.trail.not_terminal_of_eq submitting rfl
  unfold afterSubmission
  refine ⟨fun answer => ?_, fun e answer => ?_⟩
  · have settled : (s.settle p .inProgress "submitted").trail.state = .inProgress :=
      Trail.state_transition _ _ .inProgress "submitted" under
    have under' : (s.settle p .inProgress "submitted").trail.state.isTerminal = false := by
      rw [settled]
      rfl
    rw [answer]
    exact finish_stops under' _
  · rw [answer]
    exact state_finish under _ _

theorem honours_of_finally? (occurs : s.Occurs m) (last : s.finally? m = some o) : s.Honours m o := by
  have placed := occurs.placed
  have unique : s.Fixed m → ∀ o', s.Ends m o' → o' = o := fun fixed o' ends =>
    Option.some.inj ((ends_of_fixed occurs fixed ends).symm.trans last)
  obtain ⟨phase, p, token⟩ := m
  cases phase with
  | entering =>
      have start : p = Progress.start s := placed
      subst start
      exact beforeSubmission_stops last
  | refused e => cases last
  | submitting since =>
      cases last
      exact afterSubmission_cases (p := p.until (since + s.service.submission.delay)) placed.1.state
  | asking started since =>
      cases last
      obtain ⟨decided, undecided⟩ := afterAnswer_cases
        (p := p.until (since + (s.service.status p.polls).delay)) placed.counts placed.state
      exact ⟨fun state decides => ⟨decided state decides, unique ⟨state, decides⟩⟩, undecided⟩
  | resting started since =>
      cases last
      exact finish_stops (by rw [show p.trail.state = .inProgress from placed.state]; rfl) _
  | fetching reason since =>
      cases last
      exact ⟨(s.fetched_course _ reason).2.trans placed.state, unique trivial⟩
  | ended o' =>
      cases last
      exact rfl

/-- A cancellation comes before a timeout. -/
theorem inTime_of_honours (honours : s.Honours m o) (running : ∀ o', m.phase ≠ .ended o') :
    o.state ≠ .timedOut := by
  obtain ⟨phase, p, token⟩ := m
  intro late
  cases phase with
  | entering => cases late.symm.trans honours.state
  | refused e => exact honours
  | submitting since =>
      cases answer : s.service.submission.result with
      | ok => cases late.symm.trans (honours.1 answer).state
      | error e => cases late.symm.trans (honours.2 e answer)
  | asking started since =>
      by_cases decided : ∃ state, s.Decides p.polls state
      · obtain ⟨state, decides⟩ := decided
        exact decides.inTime ((honours.1 state decides).1.symm.trans late)
      · have undecided : ∀ state, ¬ s.Decides p.polls state := fun state decides =>
          decided ⟨state, decides⟩
        cases late.symm.trans (honours.2 undecided).state
  | resting started since => cases late.symm.trans honours.state
  | fetching reason since => cases late.symm.trans honours.1
  | ended o' => exact running o' rfl

/-! ## No call after the cancellation -/

/-- The answer in flight has completed the stack, and the outputs have been asked for. -/
def Fetches (s : Setting) (m m' : Moment) : Prop :=
  ∃ started since time, m.phase = .asking started since ∧ s.Decides m.progress.polls .complete ∧
    s.options.action ≠ .delete ∧
    m'.progress.calls = m.progress.calls ++ [(time, .outputs s.options.stack)]

def Moment.Closed (m : Moment) : Prop :=
  match m.phase with
  | .fetching _ _ | .ended _ => True
  | _ => False

/-- No call has been made since a moment, but for the outputs.  A question in flight was so before. -/
inductive Quiet (s : Setting) (m m' : Moment) : Prop
  | silent :
      m'.progress.calls = m.progress.calls →
      (∀ started since, m'.phase = .asking started since →
        m.phase = .asking started since ∧ m'.progress.polls = m.progress.polls) → Quiet s m m'
  | fetches : s.Fetches m m' → Moment.Closed m' → Quiet s m m'

theorem quiet_conclude {state : State} {reason : String} (same : p.calls = m.progress.calls)
    (other : state ≠ .complete) : s.Quiet m (s.conclude token p state reason) := by
  unfold conclude
  rw [if_pos (.inl other)]
  refine .silent same fun started since asking => ?_
  cases asking

theorem quiet_abort (same : p.calls = m.progress.calls) (reason : String) :
    s.Quiet m (s.conclude true p .aborted reason) := quiet_conclude same State.noConfusion

theorem quiet_hear {since : Nat} (counts : s.Counts p) (asking : m.phase = .asking started since)
    (same : p.calls = m.progress.calls) (polls : p.polls = m.progress.polls) :
    s.Quiet m (s.hear token started p) := by
  obtain ⟨-, -, calls, -⟩ := s.heeded_course p
  have decides := heeded_decides counts
  rw [same] at calls
  refine hear_cases (P := s.Quiet m) (fun q state reason answer => ?_) (fun q answer => ?_)
  · rw [answer] at calls decides
    have decided : s.Decides m.progress.polls state := by
      rw [← polls]
      exact (decides state).mp ⟨reason, rfl⟩
    refine conclude_cases (P := s.Quiet m) (fun _ => ?_) (fun complete kept => ?_)
    · refine .silent calls fun started since asking' => ?_
      cases asking'
    · subst complete
      refine .fetches ⟨started, since, q.now, asking, decided, kept, ?_⟩ trivial
      change q.calls ++ [(q.now, Call.outputs s.options.stack)] = _
      rw [calls]
  · rw [answer] at calls
    refine .silent calls fun started since asking' => ?_
    cases asking'

theorem quiet_accept (same : p.calls = m.progress.calls) : s.Quiet m (s.accept true p) :=
  accept_cases (P := s.Quiet m) (fun _ _ => quiet_conclude same State.noConfusion)
    (fun _ => quiet_abort (p := s.settle p .inProgress "submitted") same _)

theorem quiet_enter (same : (Progress.start s).calls = m.progress.calls) :
    s.Quiet m (s.enter true) := by
  refine enter_cases (P := s.Quiet m) (fun e _ => ?_) (fun _ => quiet_abort same _) (fun running => ?_)
  · refine .silent same fun started since asking => ?_
    cases asking
  · cases running

theorem quiet_move {later : Moment} (placed : s.Placed m') (cancelled : m'.cancelled = true)
    (quiet : s.Quiet m m') (move : s.Moves m' later) : s.Quiet m later := by
  cases quiet with
  | silent same asking =>
      cases move with
      | cancel => exact .silent same asking
      | pass phase p token due time => exact .silent same asking
      | enter token =>
          cases cancelled
          exact quiet_enter same
      | accept since p token =>
          cases cancelled
          exact quiet_accept same
      | hear started since p token =>
          obtain ⟨asking', polls⟩ := asking started since rfl
          exact quiet_hear placed.counts asking' same polls
      | sleep started since p token =>
          cases cancelled
          exact quiet_abort same _
      | wake started since p => exact quiet_abort same _
      | fetch reason since p token =>
          refine .silent same fun started since asking' => ?_
          cases asking'
  | fetches fetched closed =>
      cases move with
      | cancel => exact .fetches fetched closed
      | pass phase p token due time => exact .fetches fetched closed
      | fetch reason since p token => exact .fetches fetched trivial
      | _ => cases closed

theorem quiet_reaches (occurs : s.Occurs m) (reaches : s.Reaches m.cancel m') : s.Quiet m m' := by
  have there : s.Occurs m.cancel := occurs.tail (.cancel m)
  -- Every moment behind the cancellation is a cancelled one, so that no step asks a question.
  induction reaches with
  | refl => exact .silent rfl fun started since asking => ⟨asking, rfl⟩
  | tail before move ih =>
      have cancelled := cancelled_of_reaches before rfl
      exact quiet_move (Occurs.placed (there.trans before)) cancelled ih move

/-! ## The two ends of a wait -/

/-- It makes no difference to a cancelled run whether it is the time or the token that ends its wait. -/
theorem wait_ends {since : Nat} (resting : m.phase = .resting started since)
    (move : s.Moves m.cancel m') :
    m' = m.cancel ∨ m' = s.conclude true m.progress .aborted "aborted while waiting" := by
  obtain ⟨phase, p, token⟩ := m
  cases resting
  unfold Moment.cancel at move
  cases move with
  | cancel => exact .inl rfl
  | pass _ _ _ due time ends later inTime asleep => exact absurd rfl asleep
  | sleep => exact .inr rfl
  | wake => exact .inr rfl

/-- Only a run that is refused has no outcome once it is cancelled. -/
theorem exists_finally? (occurs : s.Occurs m) :
    (∃ e, s.Fault e ∧ (m.phase = .entering ∨ m.phase = .refused e)) ∨ ∃ o, s.finally? m = some o := by
  have placed := occurs.placed
  obtain ⟨phase, p, token⟩ := m
  cases phase with
  | entering =>
      cases profile : s.profile.check with
      | error e => exact .inl ⟨e, .profile profile, .inl rfl⟩
      | ok =>
          cases parameters : s.parameters.checkFor s.bundle with
          | error e => exact .inl ⟨e, .parameters profile parameters, .inl rfl⟩
          | ok =>
              refine .inr ⟨s.finish (Progress.start s) .aborted "aborted before submission", ?_⟩
              change s.beforeSubmission? = _
              unfold beforeSubmission?
              rw [profile, parameters]
  | refused e => exact .inl ⟨e, placed.2, .inr rfl⟩
  | _ => exact .inr ⟨_, rfl⟩

/-- Cancellation at any moment of any run, each step between two waits taken as one.  No call is made
after it, but for the outputs if the question in flight completes the stack.  Unless the run is refused,
it has one outcome whatever happens then, and it has it also if it is told of the moment beforehand. -/
theorem cancellation_honoured (occurs : s.Occurs m) (running : m.cancelled = false) :
    (∀ m', s.Reaches m.cancel m' → m'.progress.calls = m.progress.calls ∨ s.Fetches m m') ∧
    (∀ started since, m.phase = .resting started since → ∀ m', s.Moves m.cancel m' →
      m' = m.cancel ∨ m' = s.conclude true m.progress .aborted "aborted while waiting") ∧
    ((∃ e, s.Fault e ∧ (m.phase = .entering ∨ m.phase = .refused e)) ∨
      ∃ o, s.Honours m o ∧ ((∀ o', m.phase ≠ .ended o') → o.state ≠ .timedOut) ∧
        (∀ m', s.Reaches m.cancel m' → ∀ o', s.Ends m' o' ↔ o' = o) ∧
        ∃ fuel, (s.told (momentAt m)).run fuel = .ok (some o)) := by
  have there : s.Occurs m.cancel := occurs.tail (.cancel m)
  refine ⟨fun m' reaches => ?_, fun started since resting m' => wait_ends resting, ?_⟩
  · cases quiet_reaches occurs reaches with
    | silent same => exact .inl same
    | fetches fetched => exact .inr fetched
  · rcases exists_finally? occurs with fault | ⟨o, last⟩
    · exact .inl fault
    · have honours := honours_of_finally? occurs last
      refine .inr ⟨o, honours, inTime_of_honours honours, fun m' reaches o' => ?_, ?_⟩
      · rw [ends_iff_finally? (there.trans reaches) (cancelled_of_reaches reaches rfl),
          finally?_reaches reaches rfl]
        exact ⟨fun same => (Option.some.inj (last.symm.trans same)).symm, fun same => same ▸ last⟩
      · exact (run_told_iff occurs running o).mpr ((ends_iff_finally? there rfl o).mpr last)

/-- Five seconds after a question that has failed, with five more to wait. -/
def interrupted : Moment :=
  ⟨.resting 0 0, (lateOutputs.heeded (lateOutputs.asked lateOutputs.begun)).1.until 5000, false⟩

theorem occurs_interrupted : lateOutputs.Occurs interrupted := by
  have enters := Moves.enter (s := lateOutputs) false
  rw [enter_of_checked check_localProfile rfl, if_neg Bool.false_ne_true] at enters
  have submitted : lateOutputs.Occurs ⟨.submitting 0, lateOutputs.submitted, false⟩ := .single enters
  have asking : lateOutputs.Occurs (lateOutputs.look false 0 lateOutputs.begun) :=
    submitted.tail (.accept 0 lateOutputs.submitted false rfl)
  have heard : lateOutputs.Occurs (lateOutputs.hear false 0 (lateOutputs.asked lateOutputs.begun)) :=
    asking.trans (reaches_hear rfl)
  exact heard.trans (reaches_until rfl Bool.false_ne_true (by decide) (by decide))

theorem cancellation_honoured_interrupted :
    lateOutputs.Occurs interrupted ∧ interrupted.cancelled = false ∧
    ∃ o, Stops [(0, .create lateOutputs.request), (0, .status "web")] 5000 o ∧
      (∀ o', lateOutputs.Ends interrupted.cancel o' ↔ o' = o) ∧
      ∃ fuel, (lateOutputs.told (.atTime 5000)).run fuel = .ok (some o) := by
  refine ⟨occurs_interrupted, rfl, ?_⟩
  obtain ⟨-, -, fault | ⟨o, honours, -, ends, ran⟩⟩ := cancellation_honoured occurs_interrupted rfl
  · obtain ⟨e, -, entering | refused⟩ := fault
    · cases entering
    · cases refused
  · exact ⟨o, honours, ends _ .refl, ran⟩

end Setting
end HeatStack.Lifecycle
