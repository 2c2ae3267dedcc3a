import HeatStack.Proofs.RunSteps

/-! # Runs with a moment of cancellation

`Setting.run` is told beforehand when it is cancelled; a run of `Moves` is cancelled at any moment.
`ends_of_run` turns a run of the first kind into one of the second.  The other way a moment is told as
`momentAt`, and `run_told_iff` says that the run that is told so ends just as the run does that is
cancelled then. -/
set_option autoImplicit false
namespace HeatStack.Lifecycle

theorem Progress.until_now (p : Progress) : p.until p.now = p := rfl

namespace Cancellation
variable {c : Cancellation} {now later answered more due : Nat}

theorem holds_mono (time : now ≤ later) (calls : answered ≤ more)
    (holds : c.holds now answered = true) : c.holds later more = true := by
  cases c with
  | never => cases holds
  | atTime t => exact decide_eq_true (Nat.le_trans (of_decide_eq_true holds) time)
  | duringCall n => exact decide_eq_true (Nat.le_trans (of_decide_eq_true holds) calls)

theorem unheld_mono (time : now ≤ later) (calls : answered ≤ more)
    (unheld : c.holds later more = false) : c.holds now answered = false := by
  cases holds : c.holds now answered with
  | false => rfl
  | true =>
      rw [holds_mono time calls holds] at unheld
      cases unheld

theorem le_wake (answered : Nat) (le : now ≤ due) :
    now ≤ c.wake now answered due ∧ c.wake now answered due ≤ due := by
  unfold wake
  split
  · exact ⟨Nat.le_refl _, le⟩
  · next unheld =>
    cases c with
    | never => exact ⟨le, Nat.le_refl _⟩
    | duringCall n => exact ⟨le, Nat.le_refl _⟩
    | atTime t =>
        have after : ¬ t ≤ now := fun early => unheld (decide_eq_true early)
        dsimp only
        omega

/-- Only a cancellation cuts a wait short. -/
theorem wake_eq_due (le : now ≤ due) (unheld : c.holds (c.wake now answered due) answered = false) :
    c.wake now answered due = due := by
  have still := unheld_mono (c.le_wake answered le).1 (Nat.le_refl answered) unheld
  unfold wake at unheld ⊢
  rw [still, if_neg Bool.false_ne_true] at unheld ⊢
  cases c with
  | never => rfl
  | duringCall n => rfl
  | atTime t =>
      have after : ¬ t ≤ min t due := fun early => by
        rw [holds, decide_eq_true early] at unheld
        cases unheld
      dsimp only
      omega

end Cancellation

namespace Setting
variable {s : Setting} {token : Bool} {started : Nat} {p : Progress} {m m' : Moment} {o : Outcome}

/-! ## From a run that is told -/

theorem Ends.of_reaches (reaches : s.Reaches m m') (ends : s.Ends m' o) : s.Ends m o := by
  obtain ⟨p, token, later⟩ := ends
  exact ⟨p, token, reaches.trans later⟩

theorem Ends.of_move (move : s.Moves m m') (ends : s.Ends m' o) : s.Ends m o :=
  ends.of_reaches (.single move)

theorem reaches_until {phase : Phase} {due time : Nat} (ends : s.due? p phase = some due)
    (asleep : ¬ Roused phase token) (later : p.now ≤ time) (inTime : time ≤ due) :
    s.Reaches ⟨phase, p, token⟩ ⟨phase, p.until time, token⟩ := by
  by_cases same : p.now = time
  · subst same
    exact .refl
  · exact .single (.pass phase p token due time ends (by omega) inTime asleep)

theorem ends_conclude (s : Setting) (token : Bool) (p : Progress) (state : State) (reason : String) :
    s.Ends (s.conclude token p state reason) (s.finish p state reason) := by
  rw [finish_eq]
  unfold conclude
  split
  · exact ⟨_, _, .refl⟩
  · let asking := (s.settle p state reason).issue (.outputs s.options.stack)
    have waits : s.Reaches ⟨.fetching reason p.now, asking, token⟩
        ⟨.fetching reason p.now, asking.until (p.now + s.service.outputs.delay), token⟩ :=
      reaches_until rfl id (Nat.le_add_right _ _) (Nat.le_refl _)
    exact ⟨_, _, waits.tail (.fetch reason p.now _ token rfl)⟩

/-- The rest after a question, which a cancellation may cut short. -/
theorem reaches_rest (s : Setting) (started : Nat) (q : Progress) :
    s.Reaches ⟨.resting started q.now, q, false⟩
      (s.look (s.cancelled (s.rest q)) started (s.rest q)) := by
  have le := Nat.le_add_right q.now s.options.effectiveInterval
  obtain ⟨later, inTime⟩ := s.cancellation.le_wake (q.polls + 1) le
  have waits : s.Reaches ⟨.resting started q.now, q, false⟩ ⟨.resting started q.now, s.rest q, false⟩ :=
    reaches_until rfl Bool.false_ne_true later inTime
  refine waits.trans ?_
  -- If the token holds at the end of the rest, it is cancelled just then, and the run is woken.
  cases cancelled : s.cancelled (s.rest q) with
  | true =>
      have roused := Moves.cancel (s := s) ⟨.resting started q.now, s.rest q, false⟩
      exact .tail (.single roused) (.wake started q.now (s.rest q))
  | false =>
      have slept : (s.rest q).now = q.now + s.options.effectiveInterval :=
        Cancellation.wake_eq_due le cancelled
      exact .single (.sleep started q.now (s.rest q) false slept)

/-- How the loop comes to an end. -/
inductive Polls (s : Setting) (started : Nat) : Progress → Outcome → Prop
  | cancelled (p : Progress) :
      s.cancelled p = true → Polls s started p (s.finish p .aborted "aborted while waiting")
  | expired (p : Progress) (limit : Timeout) :
      s.cancelled p = false → s.expired? started p = some limit →
      Polls s started p
        (s.finish p .timedOut (s.subject ++ " timed out after " ++ toString limit ++ "s"))
  | decided (p q : Progress) (state : State) (reason : String) :
      s.cancelled p = false → s.expired? started p = none →
      s.heeded (s.asked p) = (q, some (state, reason)) → Polls s started p (s.finish q state reason)
  | undecided (p q : Progress) (o : Outcome) :
      s.cancelled p = false → s.expired? started p = none →
      s.heeded (s.asked p) = (q, none) → Polls s started (s.rest q) o → Polls s started p o

theorem polls_of_poll (started : Nat) : ∀ (fuel : Nat) (p q : Progress) (state : State)
    (reason : String), s.poll started fuel p = some (q, state, reason) →
      s.Polls started p (s.finish q state reason) := by
  intro fuel
  -- Each turn takes one unit; only one that decides nothing needs the next.
  induction fuel with
  | zero => intro p q state reason ended; cases ended
  | succ fuel ih =>
      intro p q state reason ended
      rw [poll, turn_eq] at ended
      cases running : s.cancelled p with
      | true =>
          rw [running] at ended
          cases ended
          exact .cancelled p running
      | false =>
          cases inTime : s.expired? started p with
          | some limit =>
              rw [running, inTime] at ended
              cases ended
              exact .expired p limit running inTime
          | none =>
              cases answer : s.heeded (s.asked p) with
              | mk q' verdict =>
                  rw [running, inTime, answer] at ended
                  cases verdict with
                  | some verdict =>
                      cases ended
                      exact .decided p q _ _ running inTime answer
                  | none => exact .undecided p q' _ running inTime answer (ih _ _ _ _ ended)

theorem poll_of_polls (polls : s.Polls started p o) :
    ∃ fuel q state reason, s.poll started fuel p = some (q, state, reason) ∧
      s.finish q state reason = o := by
  induction polls with
  | cancelled p running =>
      refine ⟨1, p, _, _, ?_, rfl⟩
      rw [poll, turn_eq, running]
      rfl
  | expired p limit running inTime =>
      refine ⟨1, p, _, _, ?_, rfl⟩
      rw [poll, turn_eq, running, inTime]
      rfl
  | decided p q state reason running inTime answer =>
      refine ⟨1, q, _, _, ?_, rfl⟩
      rw [poll, turn_eq, running, inTime, answer]
      rfl
  | undecided p q o running inTime answer _ ih =>
      obtain ⟨fuel, q', state, reason, ended, finished⟩ := ih
      refine ⟨fuel + 1, q', state, reason, ?_, finished⟩
      rw [poll, turn_eq, running, inTime, answer]
      exact ended

inductive Submits (s : Setting) (p : Progress) : Outcome → Prop
  | rejected (e : ServiceError) :
      s.service.submission.result = .error e →
      Submits s p (s.finish p .failed (s.subject ++ " rejected: " ++ e.message))
  | accepted (o : Outcome) :
      s.service.submission.result = .ok () →
      s.Polls p.now (s.settle p .inProgress "submitted") o → Submits s p o

def submitted (s : Setting) : Progress :=
  (Progress.start s).call s.submission s.service.submission.delay

/-- How a run comes to an end. -/
inductive Runs (s : Setting) : Outcome → Prop
  | cancelled :
      s.cancellation.holds 0 0 = true →
      Runs s (s.finish (Progress.start s) .aborted "aborted before submission")
  | entered (o : Outcome) :
      s.cancellation.holds 0 0 = false → s.Submits s.submitted o → Runs s o

theorem drive_eq (s : Setting) (fuel : Nat) :
    s.drive fuel =
      if s.cancellation.holds 0 0 then
        some (s.finish (Progress.start s) .aborted "aborted before submission")
      else match s.service.submission.result with
        | .error e => some (s.finish s.submitted .failed (s.subject ++ " rejected: " ++ e.message))
        | .ok () =>
          (s.poll s.submitted.now fuel (s.settle s.submitted .inProgress "submitted")).map
            fun (p, state, reason) => s.finish p state reason := rfl

theorem runs_iff (s : Setting) (o : Outcome) : s.Runs o ↔ ∃ fuel, s.drive fuel = some o := by
  constructor
  · intro runs
    cases runs with
    | cancelled early => exact ⟨0, by rw [drive_eq, early, if_pos rfl]⟩
    | entered o early submits =>
        cases submits with
        | rejected e answer =>
            refine ⟨0, ?_⟩
            rw [drive_eq, early, answer]
            rfl
        | accepted o answer polls =>
            obtain ⟨fuel, q, state, reason, ended, finished⟩ := poll_of_polls polls
            refine ⟨fuel, ?_⟩
            rw [drive_eq, early, answer, if_neg Bool.false_ne_true]
            dsimp only
            rw [ended, ← finished]
            rfl
  · rintro ⟨fuel, driven⟩
    rw [drive_eq] at driven
    cases early : s.cancellation.holds 0 0 with
    | true =>
        rw [early] at driven
        cases driven
        exact .cancelled early
    | false =>
        rw [early, if_neg Bool.false_ne_true] at driven
        refine .entered o early ?_
        cases answer : s.service.submission.result with
        | error e =>
            rw [answer] at driven
            cases driven
            exact .rejected e answer
        | ok =>
            rw [answer] at driven
            obtain ⟨⟨q, state, reason⟩, ended, rfl⟩ := Option.map_eq_some_iff.mp driven
            exact .accepted _ answer (polls_of_poll _ fuel _ q state reason ended)

theorem look_of_asking (inTime : s.expired? started p = none) :
    s.look false started p = ⟨.asking started p.now, p.issue (.status s.options.stack), false⟩ := by
  unfold look
  rw [inTime]
  rfl

theorem reaches_hear (inTime : s.expired? started p = none) :
    s.Reaches (s.look false started p) (s.hear false started (s.asked p)) := by
  rw [look_of_asking inTime]
  have waits : s.Reaches ⟨.asking started p.now, p.issue (.status s.options.stack), false⟩
      ⟨.asking started p.now, s.asked p, false⟩ :=
    reaches_until rfl id (Nat.le_add_right _ _) (Nat.le_refl _)
  exact waits.tail (.hear started p.now (s.asked p) false rfl)

theorem Polls.ends (polls : s.Polls started p o) : s.Ends (s.look (s.cancelled p) started p) o := by
  induction polls with
  | cancelled p early =>
      unfold look
      rw [early, if_pos rfl]
      exact s.ends_conclude _ _ _ _
  | expired p limit running late =>
      unfold look
      rw [running, if_neg Bool.false_ne_true, late]
      exact s.ends_conclude _ _ _ _
  | decided p q state reason running inTime answer =>
      rw [running]
      refine Ends.of_reaches (reaches_hear inTime) ?_
      unfold hear
      rw [answer]
      exact s.ends_conclude _ _ _ _
  | undecided p q o running inTime answer _ ih =>
      rw [running]
      refine Ends.of_reaches (reaches_hear inTime) ?_
      unfold hear
      rw [answer]
      exact ih.of_reaches (s.reaches_rest started q)

theorem Submits.ends (submits : s.Submits p o) : s.Ends (s.accept (s.cancelled p) p) o := by
  unfold accept
  cases submits with
  | rejected e answer =>
      rw [answer]
      exact s.ends_conclude _ _ _ _
  | accepted o answer polls =>
      rw [answer]
      exact polls.ends

theorem run_of_checked (profile : s.profile.check = .ok ())
    (parameters : s.parameters.checkFor s.bundle = .ok ()) (fuel : Nat) :
    s.run fuel = .ok (s.drive fuel) := by
  unfold run
  rw [profile]
  dsimp only
  rw [parameters]

theorem checked_of_run {fuel : Nat} {result : Option Outcome} (ran : s.run fuel = .ok result) :
    s.profile.check = .ok () ∧ s.parameters.checkFor s.bundle = .ok () := by
  unfold run at ran
  cases profile : s.profile.check with
  | error e =>
      rw [profile] at ran
      cases ran
  | ok =>
      cases parameters : s.parameters.checkFor s.bundle with
      | error e =>
          rw [profile] at ran
          dsimp only at ran
          rw [parameters] at ran
          cases ran
      | ok => exact ⟨rfl, rfl⟩

theorem enter_of_checked (profile : s.profile.check = .ok ())
    (parameters : s.parameters.checkFor s.bundle = .ok ()) (token : Bool) :
    s.enter token =
      if token then s.conclude token (Progress.start s) .aborted "aborted before submission"
      else ⟨.submitting 0, (Progress.start s).issue s.submission, token⟩ := by
  unfold enter
  rw [profile]
  dsimp only
  rw [parameters]

/-- A cancellation during the submission is noticed when the answer has come. -/
theorem Submits.ends_submitting (submits : s.Submits s.submitted o) :
    s.Ends ⟨.submitting 0, (Progress.start s).issue s.submission, false⟩ o := by
  have waits : s.Reaches ⟨.submitting 0, (Progress.start s).issue s.submission, false⟩
      ⟨.submitting 0, s.submitted, false⟩ :=
    reaches_until rfl id (Nat.zero_le _) (Nat.le_refl _)
  refine Ends.of_reaches waits ?_
  have accepts := Moves.accept (s := s) 0 s.submitted (s.cancelled s.submitted) rfl
  have ends := Ends.of_move accepts submits.ends
  cases noticed : s.cancelled s.submitted with
  | true =>
      rw [noticed] at ends
      exact Ends.of_move (.cancel _) ends
  | false =>
      rw [noticed] at ends
      exact ends

/-- Every run that ends is one of the runs of `Moves`. -/
theorem ends_of_run {fuel : Nat} (ran : s.run fuel = .ok (some o)) : s.Ends s.beginning o := by
  obtain ⟨profile, parameters⟩ := checked_of_run ran
  rw [run_of_checked profile parameters] at ran
  have runs := (s.runs_iff o).mpr ⟨fuel, Except.ok.inj ran⟩
  cases runs with
  | cancelled =>
      refine Ends.of_move (.cancel s.beginning) (Ends.of_move (.enter true) ?_)
      rw [enter_of_checked profile parameters, if_pos rfl]
      exact s.ends_conclude _ _ _ _
  | entered o early submits =>
      refine Ends.of_move (.enter false) ?_
      rw [enter_of_checked profile parameters, if_neg Bool.false_ne_true]
      exact submits.ends_submitting

/-- A run of either kind comes to a moment at which it has ended. -/
theorem occurs_of_end (ended : s.Ends s.beginning o ∨ ∃ fuel, s.run fuel = .ok (some o)) :
    ∃ p token, s.Occurs ⟨.ended o, p, token⟩ := by
  rcases ended with ends | ⟨fuel, ran⟩
  · exact ends
  · exact ends_of_run ran

/-! ## Once the token is cancelled -/

def abandoned (s : Setting) (p : Progress) : Outcome := s.finish p .aborted "aborted while waiting"

def afterSubmission (s : Setting) (p : Progress) : Outcome :=
  match s.service.submission.result with
  | .error e => s.finish p .failed (s.subject ++ " rejected: " ++ e.message)
  | .ok () => s.abandoned (s.settle p .inProgress "submitted")

def afterAnswer (s : Setting) (p : Progress) : Outcome :=
  match s.heeded p with
  | (q, some (state, reason)) => s.finish q state reason
  | (q, none) => s.abandoned q

def beforeSubmission? (s : Setting) : Option Outcome :=
  match s.profile.check, s.parameters.checkFor s.bundle with
  | .ok (), .ok () => some (s.finish (Progress.start s) .aborted "aborted before submission")
  | _, _ => none

/-- The outcome of a run whose token is cancelled by now. -/
def finally? (s : Setting) (m : Moment) : Option Outcome :=
  match m.phase with
  | .entering => s.beforeSubmission?
  | .refused _ => none
  | .submitting since => s.afterSubmission (m.progress.until (since + s.service.submission.delay))
  | .asking _ since =>
    s.afterAnswer (m.progress.until (since + (s.service.status m.progress.polls).delay))
  | .resting _ _ => s.abandoned m.progress
  | .fetching reason since => s.fetched (m.progress.until (since + s.service.outputs.delay)) reason
  | .ended o => o

theorem finally?_conclude (s : Setting) (token : Bool) (p : Progress) (state : State) (reason : String) :
    s.finally? (s.conclude token p state reason) = s.finish p state reason := by
  rw [finish_eq]
  unfold conclude
  split <;> rfl

theorem look_cancelled (s : Setting) (started : Nat) (p : Progress) :
    s.look true started p = s.conclude true p .aborted "aborted while waiting" := rfl

theorem finally?_look (s : Setting) (started : Nat) (p : Progress) :
    s.finally? (s.look true started p) = s.abandoned p := by
  rw [look_cancelled, finally?_conclude, abandoned]

theorem finally?_enter (s : Setting) : s.finally? (s.enter true) = s.beforeSubmission? := by
  unfold enter beforeSubmission?
  cases s.profile.check with
  | error e => rfl
  | ok =>
      cases s.parameters.checkFor s.bundle with
      | error e => rfl
      | ok =>
          dsimp only
          rw [if_pos rfl]
          exact s.finally?_conclude true _ _ _

theorem finally?_accept (s : Setting) (p : Progress) :
    s.finally? (s.accept true p) = s.afterSubmission p := by
  unfold accept afterSubmission
  cases s.service.submission.result with
  | error e => exact s.finally?_conclude true _ _ _
  | ok => exact s.finally?_look _ _

theorem finally?_hear (s : Setting) (started : Nat) (p : Progress) :
    s.finally? (s.hear true started p) = s.afterAnswer p := by
  unfold hear afterAnswer
  cases s.heeded p with
  | mk q verdict =>
      cases verdict with
      | none => rfl
      | some verdict => exact s.finally?_conclude true _ _ _

/-- Nothing that happens after the cancellation changes the outcome. -/
theorem finally?_move (move : s.Moves m m') (cancelled : m.cancelled = true) :
    s.finally? m' = s.finally? m := by
  cases move with
  | cancel => rfl
  | enter token =>
      cases cancelled
      exact s.finally?_enter
  | accept since p token answered =>
      cases cancelled
      change s.finally? (s.accept true p) =
        some (s.afterSubmission (p.until (since + s.service.submission.delay)))
      rw [← answered, Progress.until_now, finally?_accept]
  | hear started since p token answered =>
      cases cancelled
      change s.finally? (s.hear true started p) =
        some (s.afterAnswer (p.until (since + (s.service.status p.polls).delay)))
      rw [← answered, Progress.until_now, finally?_hear]
  | sleep started since p token =>
      cases cancelled
      exact s.finally?_look started p
  | wake started since p => exact s.finally?_look started p
  | fetch reason since p token answered =>
      change some (s.fetched p reason) =
        some (s.fetched (p.until (since + s.service.outputs.delay)) reason)
      rw [← answered, Progress.until_now]
  | pass phase p token due time ends later inTime asleep =>
      -- A cancelled run does not rest.  In the other waits it is the time of the answer that counts.
      cases cancelled
      cases phase with
      | resting => exact absurd rfl asleep
      | _ => rfl

theorem cancelled_of_reaches (reaches : s.Reaches m m') (already : m.cancelled = true) :
    m'.cancelled = true := by
  induction reaches with
  | refl => exact already
  | tail _ move ih => exact move.cancelled ih

theorem finally?_reaches (reaches : s.Reaches m m') (cancelled : m.cancelled = true) :
    s.finally? m' = s.finally? m := by
  induction reaches with
  | refl => rfl
  | tail before move ih =>
      exact (finally?_move move (cancelled_of_reaches before cancelled)).trans ih

def Settles (s : Setting) (m : Moment) : Prop := ∀ o, s.finally? m = some o → s.Ends m o

theorem Settles.of_reaches (reaches : s.Reaches m m') (cancelled : m.cancelled = true)
    (settles : s.Settles m') : s.Settles m := by
  intro o last
  rw [← finally?_reaches reaches cancelled] at last
  exact (settles o last).of_reaches reaches

theorem settles_conclude (s : Setting) (token : Bool) (p : Progress) (state : State) (reason : String) :
    s.Settles (s.conclude token p state reason) := by
  intro o last
  rw [finally?_conclude] at last
  cases last
  exact s.ends_conclude token p state reason

theorem settles_look (s : Setting) (started : Nat) (p : Progress) :
    s.Settles (s.look true started p) := by
  rw [look_cancelled]
  exact s.settles_conclude true p _ _

theorem settles_resting (s : Setting) (started since : Nat) (p : Progress) :
    s.Settles ⟨.resting started since, p, true⟩ :=
  Settles.of_reaches (.single (.wake started since p)) rfl (s.settles_look started p)

theorem settles_hear (s : Setting) (started : Nat) (p : Progress) :
    s.Settles (s.hear true started p) :=
  hear_cases (P := s.Settles) (fun _ _ _ _ => s.settles_conclude true _ _ _)
    (fun _ _ => s.settles_resting started _ _)

theorem settles_accept (s : Setting) (p : Progress) : s.Settles (s.accept true p) :=
  accept_cases (P := s.Settles) (fun _ _ => s.settles_conclude true _ _ _)
    (fun _ => s.settles_look _ _)

theorem settles_enter (s : Setting) : s.Settles (s.enter true) := by
  refine enter_cases (P := s.Settles) (fun e _ o last => ?_) (fun _ => ?_) (fun running => ?_)
  · cases last
  · exact s.settles_conclude true _ _ _
  · cases running

theorem settles_of_placed (placed : s.Placed m) (cancelled : m.cancelled = true) : s.Settles m := by
  obtain ⟨phase, p, token⟩ := m
  cases cancelled
  cases phase with
  | entering =>
      cases (show p = Progress.start s from placed)
      exact Settles.of_reaches (.single (.enter true)) rfl s.settles_enter
  | refused e => intro o last; cases last
  | submitting since =>
      have waits : s.Reaches ⟨.submitting since, p, true⟩ ⟨.submitting since, p.until _, true⟩ :=
        reaches_until rfl id placed.1.le_due (Nat.le_refl _)
      exact Settles.of_reaches (waits.tail (.accept since _ true rfl)) rfl (s.settles_accept _)
  | asking started since =>
      have waits : s.Reaches ⟨.asking started since, p, true⟩ ⟨.asking started since, p.until _, true⟩ :=
        reaches_until rfl id placed.le_due (Nat.le_refl _)
      exact Settles.of_reaches (waits.tail (.hear started since _ true rfl)) rfl (s.settles_hear _ _)
  | resting started since => exact s.settles_resting started since p
  | fetching reason since =>
      have waits : s.Reaches ⟨.fetching reason since, p, true⟩
          ⟨.fetching reason since, p.until _, true⟩ :=
        reaches_until rfl id placed.le_due (Nat.le_refl _)
      refine Settles.of_reaches (waits.tail (.fetch reason since _ true rfl)) rfl fun o last => ?_
      cases last
      exact ⟨_, _, .refl⟩
  | ended o' =>
      intro o last
      cases last
      exact ⟨p, true, .refl⟩

/-- From the cancellation on a run ends in one way. -/
theorem ends_iff_finally? (occurs : s.Occurs m) (cancelled : m.cancelled = true) (o : Outcome) :
    s.Ends m o ↔ s.finally? m = some o := by
  constructor
  · rintro ⟨p, token, reaches⟩
    exact (finally?_reaches reaches cancelled).symm
  · exact settles_of_placed occurs.placed cancelled o

/-! ## To a run that is told -/

theorem polls_of_cancelled (early : s.cancelled p = true) :
    s.Polls started p o ↔ o = s.abandoned p := by
  constructor
  · intro polls
    cases polls with
    | cancelled => rfl
    | expired _ limit running => rw [running] at early; cases early
    | decided _ q state reason running => rw [running] at early; cases early
    | undecided _ q o running => rw [running] at early; cases early
  · rintro rfl
    exact .cancelled p early

theorem polls_of_expired {limit : Timeout} (running : s.cancelled p = false)
    (late : s.expired? started p = some limit) :
    s.Polls started p o ↔
      o = s.finish p .timedOut (s.subject ++ " timed out after " ++ toString limit ++ "s") := by
  constructor
  · intro polls
    cases polls with
    | cancelled _ early => rw [running] at early; cases early
    | expired _ limit' _ late' =>
        cases Option.some.inj (late.symm.trans late')
        rfl
    | decided _ q state reason _ inTime => rw [late] at inTime; cases inTime
    | undecided _ q o _ inTime => rw [late] at inTime; cases inTime
  · rintro rfl
    exact .expired p limit running late

def Continues (s : Setting) (started : Nat) (p : Progress) (o : Outcome) : Prop :=
  match s.heeded p with
  | (q, some (state, reason)) => o = s.finish q state reason
  | (q, none) => s.Polls started (s.rest q) o

theorem polls_of_asking (running : s.cancelled p = false) (inTime : s.expired? started p = none) :
    s.Polls started p o ↔ s.Continues started (s.asked p) o := by
  unfold Continues
  constructor
  · intro polls
    cases polls with
    | cancelled _ early => rw [running] at early; cases early
    | expired _ limit _ late => rw [inTime] at late; cases late
    | decided _ q state reason _ _ answer => rw [answer]
    | undecided _ q o _ _ answer later => rw [answer]; exact later
  · intro continues
    cases answer : s.heeded (s.asked p) with
    | mk q verdict =>
        rw [answer] at continues
        cases verdict with
        | none => exact .undecided p q o running inTime answer continues
        | some verdict =>
            cases continues
            exact .decided p q _ _ running inTime answer

/-- The end of a run whose token is not cancelled, with the cancellation that it has been told of. -/
def Leads (s : Setting) (m : Moment) (o : Outcome) : Prop :=
  match m.phase with
  | .entering => ∃ fuel, s.run fuel = .ok (some o)
  | .refused _ => False
  | .submitting since => s.Submits (m.progress.until (since + s.service.submission.delay)) o
  | .asking started since =>
    s.Continues started (m.progress.until (since + (s.service.status m.progress.polls).delay)) o
  | .resting started since => s.Polls started (s.rest (m.progress.until since)) o
  | .fetching reason since =>
    o = s.fetched (m.progress.until (since + s.service.outputs.delay)) reason
  | .ended o' => o = o'

/-- The cancellation that the run has been told of is still ahead of it. -/
def Unnoticed (s : Setting) (m : Moment) : Prop :=
  match m.phase with
  | .entering | .refused _ => True
  | .submitting since => s.cancellation.holds since 0 = false
  | .asking _ since => s.cancellation.holds since (m.progress.polls + 1) = false
  | .resting _ since => s.cancellation.holds since m.progress.polls = false
  | .fetching _ _ | .ended _ => s.cancellation = .never

theorem leads_conclude (s : Setting) (token : Bool) (p : Progress) (state : State) (reason : String) :
    s.Leads (s.conclude token p state reason) o ↔ o = s.finish p state reason := by
  rw [finish_eq]
  unfold conclude
  split <;> exact Iff.rfl

theorem unnoticed_conclude {state : State} {reason : String}
    (unnoticed : s.Unnoticed (s.conclude token p state reason)) : s.cancellation = .never := by
  unfold conclude at unnoticed
  split at unnoticed <;> exact unnoticed

theorem running_of_never (never : s.cancellation = .never) : s.cancelled p = false := by
  rw [cancelled, never]
  rfl

theorem unnoticed_look (unnoticed : s.Unnoticed (s.look false started p)) : s.cancelled p = false := by
  unfold look at unnoticed
  rw [if_neg Bool.false_ne_true] at unnoticed
  split at unnoticed
  · exact running_of_never (unnoticed_conclude unnoticed)
  · exact unnoticed

theorem leads_look (running : s.cancelled p = false) :
    s.Leads (s.look false started p) o ↔ s.Polls started p o := by
  cases late : s.expired? started p with
  | none =>
      rw [look_of_asking late, polls_of_asking running late]
      exact Iff.rfl
  | some limit =>
      unfold look
      rw [if_neg Bool.false_ne_true, late, polls_of_expired running late]
      exact s.leads_conclude _ _ _ _

theorem unnoticed_hear (unnoticed : s.Unnoticed (s.hear false started p)) : s.cancelled p = false := by
  obtain ⟨now, polls, -⟩ := s.heeded_course p
  unfold hear at unnoticed
  split at unnoticed
  · exact running_of_never (unnoticed_conclude unnoticed)
  · next q answer =>
    rw [answer] at now polls
    have unheld : s.cancellation.holds q.now q.polls = false := unnoticed
    rw [now, polls] at unheld
    exact unheld

theorem leads_hear : s.Leads (s.hear false started p) o ↔ s.Continues started p o := by
  unfold hear Continues
  cases s.heeded p with
  | mk q verdict =>
      cases verdict with
      | some verdict => exact s.leads_conclude _ _ _ _
      | none => exact Iff.rfl

theorem unnoticed_accept (unnoticed : s.Unnoticed (s.accept false p)) : s.cancelled p = false := by
  unfold accept at unnoticed
  split at unnoticed
  · exact running_of_never (unnoticed_conclude unnoticed)
  · exact unnoticed_look (p := s.settle p .inProgress "submitted") unnoticed

theorem leads_accept (running : s.cancelled p = false) :
    s.Leads (s.accept false p) o ↔ s.Submits p o := by
  unfold accept
  cases answer : s.service.submission.result with
  | error e =>
      refine (s.leads_conclude _ _ _ _).trans ⟨?_, ?_⟩
      · rintro rfl
        exact .rejected e answer
      · intro submits
        cases submits with
        | rejected e' answer' => cases answer.symm.trans answer'; rfl
        | accepted o answer' => cases answer.symm.trans answer'
  | ok =>
      have polls : s.Leads (s.look false p.now (s.settle p .inProgress "submitted")) o ↔
          s.Polls p.now (s.settle p .inProgress "submitted") o := leads_look running
      refine polls.trans ⟨.accepted o answer, ?_⟩
      intro submits
      cases submits with
      | rejected e' answer' => cases answer.symm.trans answer'
      | accepted o _ polls => exact polls

theorem leads_enter (unnoticed : s.Unnoticed (s.enter false)) :
    s.Leads (s.enter false) o ↔ ∃ fuel, s.run fuel = .ok (some o) := by
  unfold enter run at *
  cases profile : s.profile.check with
  | error e =>
      dsimp only
      exact ⟨False.elim, fun ⟨_, ran⟩ => by cases ran⟩
  | ok =>
      cases parameters : s.parameters.checkFor s.bundle with
      | error e =>
          dsimp only
          exact ⟨False.elim, fun ⟨_, ran⟩ => by cases ran⟩
      | ok =>
          rw [profile] at unnoticed
          dsimp only at unnoticed ⊢
          rw [parameters] at unnoticed
          have running : s.cancellation.holds 0 0 = false := unnoticed
          simp only [Except.ok.injEq]
          rw [← runs_iff]
          refine ⟨.entered o running, fun runs => ?_⟩
          cases runs with
          | cancelled early => rw [running] at early; cases early
          | entered o _ submits => exact submits

theorem rest_eq (s : Setting) (since : Nat) (p : Progress)
    (slept : p.now = since + s.options.effectiveInterval) (running : s.cancelled p = false) :
    s.rest (p.until since) = p := by
  have le := Nat.le_add_right since s.options.effectiveInterval
  have wakes : s.cancellation.wake since (p.polls + 1) (since + s.options.effectiveInterval) =
      since + s.options.effectiveInterval := by
    refine Cancellation.wake_eq_due le (Cancellation.unheld_mono ?_ (Nat.le_refl _) running)
    rw [slept]
    exact (s.cancellation.le_wake _ le).2
  change p.until (s.cancellation.wake since (p.polls + 1) (since + s.options.effectiveInterval)) = p
  rw [wakes, ← slept, Progress.until_now]

theorem leads_move (placed : s.Placed m) (move : s.Moves m m') (running : m'.cancelled = false)
    (unnoticed : s.Unnoticed m') : s.Unnoticed m ∧ (s.Leads m o ↔ s.Leads m' o) := by
  cases move with
  | cancel => cases running
  | pass phase p token due time ends =>
      refine ⟨?_, ?_⟩
      · cases phase <;> exact unnoticed
      · cases phase <;> exact Iff.rfl
  | enter token =>
      rw [cancelled_enter] at running
      subst running
      exact ⟨trivial, (leads_enter unnoticed).symm⟩
  | accept since p token answered =>
      rw [cancelled_accept] at running
      subst running
      have still := unnoticed_accept unnoticed
      refine ⟨Cancellation.unheld_mono placed.1.since_le (Nat.zero_le _) still, ?_⟩
      rw [leads_accept still]
      change s.Submits (p.until (since + s.service.submission.delay)) o ↔ _
      rw [← answered, Progress.until_now]
  | hear started since p token answered =>
      rw [cancelled_hear] at running
      subst running
      have still := unnoticed_hear unnoticed
      refine ⟨Cancellation.unheld_mono placed.since_le (Nat.le_refl _) still, ?_⟩
      rw [leads_hear]
      change s.Continues started (p.until (since + (s.service.status p.polls).delay)) o ↔ _
      rw [← answered, Progress.until_now]
  | sleep started since p token slept =>
      rw [cancelled_look] at running
      subst running
      have still := unnoticed_look unnoticed
      refine ⟨Cancellation.unheld_mono placed.since_le (Nat.le_succ _) still, ?_⟩
      rw [leads_look still]
      change s.Polls started (s.rest (p.until since)) o ↔ _
      rw [s.rest_eq since p slept still]
  | wake started since p =>
      rw [cancelled_look] at running
      cases running
  | fetch reason since p token answered =>
      refine ⟨unnoticed, ?_⟩
      change o = s.fetched (p.until (since + s.service.outputs.delay)) reason ↔ _
      rw [← answered, Progress.until_now]
      exact Iff.rfl

theorem leads_of_occurs (occurs : s.Occurs m) (running : m.cancelled = false)
    (unnoticed : s.Unnoticed m) : s.Leads m o ↔ ∃ fuel, s.run fuel = .ok (some o) := by
  -- Both conditions go back from a moment to the one before it.
  induction occurs with
  | refl => exact Iff.rfl
  | @tail m m' before move ih =>
      have earlier : m.cancelled = false := by
        cases already : m.cancelled with
        | false => rfl
        | true => rw [move.cancelled already] at running; cases running
      obtain ⟨unnoticed', same⟩ := leads_move (o := o) (Occurs.placed before) move running unnoticed
      exact same.symm.trans (ih earlier unnoticed')

/-- A moment of a run, told beforehand.  A cancellation during a call is noticed when the answer has
come, and so is one that comes with the answer. -/
def momentAt (m : Moment) : Cancellation :=
  match m.phase with
  | .entering => .duringCall 0
  | .submitting _ => .duringCall 1
  | .asking _ _ => .duringCall (m.progress.polls + 2)
  | .resting _ since =>
    if m.progress.now = since then .duringCall (m.progress.polls + 1) else .atTime m.progress.now
  | _ => .never

def told (s : Setting) (c : Cancellation) : Setting := { s with cancellation := c }

theorem Moves.told (move : s.Moves m m') (c : Cancellation) : (s.told c).Moves m m' := by
  cases move with
  | cancel => exact .cancel m
  | pass phase p token due time ends later inTime asleep =>
      exact .pass phase p token due time ends later inTime asleep
  | enter token => exact .enter token
  | accept since p token answered => exact .accept since p token answered
  | hear started since p token answered => exact .hear started since p token answered
  | sleep started since p token slept => exact .sleep started since p token slept
  | wake started since p => exact .wake started since p
  | fetch reason since p token answered => exact .fetch reason since p token answered

theorem Occurs.told (occurs : s.Occurs m) (c : Cancellation) : (s.told c).Occurs m := by
  induction occurs with
  | refl => exact .refl
  | tail _ move ih => exact ih.tail (Moves.told move c)

theorem unnoticed_momentAt (placed : s.Placed m) (told : s.cancellation = momentAt m) :
    s.Unnoticed m := by
  obtain ⟨phase, p, token⟩ := m
  cases phase with
  | entering => trivial
  | refused e => trivial
  | submitting since =>
      unfold Unnoticed
      rw [told]
      rfl
  | asking started since =>
      unfold Unnoticed
      rw [told]
      exact decide_eq_false (by omega)
  | resting started since =>
      have le := placed.since_le
      unfold Unnoticed
      rw [told]
      unfold momentAt
      dsimp only at le ⊢
      split
      · exact decide_eq_false (by omega)
      · exact decide_eq_false (by omega)
  | fetching reason since => exact told
  | ended o => exact told

theorem run_of_early (early : s.cancellation.holds 0 0 = true) (o : Outcome) :
    (∃ fuel, s.run fuel = .ok (some o)) ↔ s.beforeSubmission? = some o := by
  unfold run beforeSubmission?
  cases s.profile.check with
  | error e => simp
  | ok =>
      cases s.parameters.checkFor s.bundle with
      | error e => simp
      | ok => simp only [drive_eq, early, if_true, Except.ok.injEq, exists_const]

theorem submits_of_cancelled (early : s.cancelled p = true) :
    s.Submits p o ↔ o = s.afterSubmission p := by
  unfold afterSubmission
  have polls : s.Polls p.now (s.settle p .inProgress "submitted") o ↔
      o = s.abandoned (s.settle p .inProgress "submitted") := polls_of_cancelled early
  constructor
  · intro submits
    cases submits with
    | rejected e answer => rw [answer]
    | accepted o answer later =>
        rw [answer]
        exact polls.mp later
  · cases answer : s.service.submission.result with
    | error e =>
        rintro rfl
        exact .rejected e answer
    | ok => exact fun last => .accepted o answer (polls.mpr last)

theorem rest_of_cancelled (early : s.cancelled p = true) : s.rest p = p := by
  have wakes : s.cancellation.wake p.now (p.polls + 1) (p.now + s.options.effectiveInterval) = p.now :=
    if_pos early
  unfold rest
  rw [wakes]

theorem continues_of_cancelled (early : s.cancellation.holds p.now (p.polls + 2) = true) :
    s.Continues started p o ↔ o = s.afterAnswer p := by
  obtain ⟨now, polls, -⟩ := s.heeded_course p
  unfold Continues afterAnswer
  cases answer : s.heeded p with
  | mk q verdict =>
      cases verdict with
      | some verdict => exact Iff.rfl
      | none =>
          rw [answer] at now polls
          have early' : s.cancelled q = true := by
            unfold Setting.cancelled
            rw [now, polls]
            exact early
          dsimp only
          rw [rest_of_cancelled early', polls_of_cancelled early']

/-- The rest that is cut short at the moment that has been told. -/
theorem rest_momentAt {since : Nat} (placed : s.Placed ⟨.resting started since, p, token⟩)
    (told : s.cancellation = momentAt ⟨.resting started since, p, token⟩) :
    s.cancelled p = true ∧ s.rest (p.until since) = p := by
  have inTime : p.now ≤ since + s.options.effectiveInterval := placed.le_due
  have rested : s.rest (p.until since) =
      p.until (s.cancellation.wake since (p.polls + 1) (since + s.options.effectiveInterval)) := rfl
  rw [rested]
  unfold Setting.cancelled
  rw [told]
  unfold momentAt
  dsimp only
  -- At the beginning of a rest the token is still noticed with the answer before it.
  by_cases same : p.now = since
  · have held : (Cancellation.duringCall (p.polls + 1)).holds since (p.polls + 1) = true :=
      decide_eq_true (Nat.le_refl _)
    have wakes : (Cancellation.duringCall (p.polls + 1)).wake since (p.polls + 1)
        (since + s.options.effectiveInterval) = since := if_pos held
    rw [if_pos same, wakes]
    refine ⟨decide_eq_true (Nat.le_refl _), ?_⟩
    rw [← same, Progress.until_now]
  · have later : since ≤ p.now := placed.since_le
    have unheld : ¬ (Cancellation.atTime p.now).holds since (p.polls + 1) = true := by
      intro held
      have early : p.now ≤ since := of_decide_eq_true held
      omega
    have wakes : (Cancellation.atTime p.now).wake since (p.polls + 1)
        (since + s.options.effectiveInterval) = p.now :=
      (if_neg unheld).trans (Nat.min_eq_left inTime)
    rw [if_neg same, wakes]
    exact ⟨decide_eq_true (Nat.le_refl _), p.until_now⟩

theorem leads_momentAt (placed : s.Placed m) (told : s.cancellation = momentAt m) :
    s.Leads m o ↔ s.finally? m.cancel = some o := by
  obtain ⟨phase, p, token⟩ := m
  cases phase with
  | entering =>
      have early : s.cancellation.holds 0 0 = true := by
        rw [told]
        rfl
      exact run_of_early early o
  | refused e => exact ⟨False.elim, fun last => by cases last⟩
  | submitting since =>
      have early : s.cancelled (p.until (since + s.service.submission.delay)) = true := by
        unfold Setting.cancelled
        rw [told]
        exact decide_eq_true (Nat.le_add_left 1 p.polls)
      exact (submits_of_cancelled early).trans (eq_comm.trans Option.some_inj.symm)
  | asking started since =>
      have early :
          s.cancellation.holds (since + (s.service.status p.polls).delay) (p.polls + 2) = true := by
        rw [told]
        exact decide_eq_true (Nat.le_refl _)
      exact (continues_of_cancelled early).trans (eq_comm.trans Option.some_inj.symm)
  | resting started since =>
      obtain ⟨early, rested⟩ := rest_momentAt placed told
      change s.Polls started (s.rest (p.until since)) o ↔ _
      rw [rested, polls_of_cancelled early]
      exact eq_comm.trans Option.some_inj.symm
  | fetching reason since => exact eq_comm.trans Option.some_inj.symm
  | ended o' => exact eq_comm.trans Option.some_inj.symm

/-- The run that is told of the moment beforehand ends just as the run that is cancelled then. -/
theorem run_told_iff (occurs : s.Occurs m) (running : m.cancelled = false) (o : Outcome) :
    (∃ fuel, (s.told (momentAt m)).run fuel = .ok (some o)) ↔ s.Ends m.cancel o := by
  have there := occurs.told (momentAt m)
  have unnoticed := unnoticed_momentAt there.placed rfl
  rw [← leads_of_occurs there running unnoticed, leads_momentAt there.placed rfl,
    ends_iff_finally? (occurs.tail (.cancel m)) rfl]
  exact Iff.rfl

end Setting
end HeatStack.Lifecycle
