import HeatStack.Proofs.RunOutcome

/-! # A run, moment by moment

A run takes its steps between waits: for the answer to a call, or for the time of the next question.
Here the clock and the one who cancels are parties of their own.  Time passes while the run waits, the
token can be cancelled at any moment, and what the run does between two waits is one step.  `Moves` is
what can happen at a moment, and no moment of cancellation is given beforehand.  `turn_eq` says that the
loop of `Setting.poll` takes the same steps. -/
set_option autoImplicit false
namespace HeatStack.Lifecycle

/-- What a run waits for, and since when.  The loop measures its time from `started`. -/
inductive Phase
  | entering
  /-- Profile or parameters are at fault. -/
  | refused (e : InputError)
  | submitting (since : Nat)
  | asking (started since : Nat)
  /-- Between two questions. -/
  | resting (started since : Nat)
  /-- The stack is complete, and its outputs are asked for. -/
  | fetching (reason : String) (since : Nat)
  | ended (o : Outcome)

structure Moment where
  phase : Phase
  progress : Progress
  cancelled : Bool

def Moment.cancel (m : Moment) : Moment := { m with cancelled := true }

def Progress.issue (p : Progress) (c : Call) : Progress := { p with calls := p.calls ++ [(p.now, c)] }

def Progress.until (p : Progress) (time : Nat) : Progress := { p with now := time }

theorem Reads.unique {r : StatusResult} {a b : Option RemoteStatus} (ha : Reads r a) (hb : Reads r b) :
    a = b :=
  Except.ok.inj (((settled_eq_ok_iff r a).mpr ha).symm.trans ((settled_eq_ok_iff r b).mpr hb))

namespace Setting
variable (s : Setting)

/-! ## What is done between two waits -/

def settle (p : Progress) (state : State) (reason : String) : Progress :=
  p.onTrail fun t => t.transition (s.clock p.now) state reason

def fetched (p : Progress) (reason : String) : Outcome :=
  match s.service.outputs.result with
  | .ok remote => outcome p .success reason (s.bundle.outputs.map fun name _ => remote.get? name)
  | .error e =>
    outcome (p.onTrail fun t => t.outputsUnavailable (s.clock p.now) e.message) .unstable
      (reason ++ "; outputs unavailable: " ++ e.message) {}

/-- The end of a run in a state, or the question for the outputs before it. -/
def conclude (token : Bool) (p : Progress) (state : State) (reason : String) : Moment :=
  if state ≠ .complete ∨ s.options.action = .delete then
    ⟨.ended (outcome (s.settle p state reason) (.ofState state) reason {}), s.settle p state reason,
      token⟩
  else
    ⟨.fetching reason p.now, (s.settle p state reason).issue (.outputs s.options.stack), token⟩

/-- The top of the loop: the token, the time, the next question. -/
def look (token : Bool) (started : Nat) (p : Progress) : Moment :=
  if token then s.conclude token p .aborted "aborted while waiting"
  else match s.expired? started p with
    | some limit =>
      s.conclude token p .timedOut (s.subject ++ " timed out after " ++ toString limit ++ "s")
    | none => ⟨.asking started p.now, p.issue (.status s.options.stack), token⟩

/-- An answer as it is recorded, and the end of the run if it is final. -/
def heed (p : Progress) (r : StatusResult) : Progress × Option (State × String) :=
  match settled r with
  | .ok status =>
    ({ p with failures := 0 }.onTrail fun t =>
      match status with
      | some status => t.observe (s.clock p.now) status
      | none => t.stackMissing (s.clock p.now),
     (classify s.options.action status).state?.map fun state => (state, s.describe status))
  | .error e =>
    ({ p with failures := p.failures + 1 }.onTrail fun t =>
      t.pollFailed (s.clock p.now) e.message (p.failures + 1),
     if s.options.maxFailures < p.failures + 1 then
       some (.failed, "status of " ++ s.options.stack ++ " unavailable after "
         ++ toString (p.failures + 1).toNat ++ " consecutive failures: " ++ e.message)
     else none)

/-- The answer to the question of a turn, recorded when it comes. -/
def heeded (p : Progress) : Progress × Option (State × String) :=
  s.heed { p with polls := p.polls + 1 } (s.service.status p.polls).result

def asked (p : Progress) : Progress :=
  p.call (.status s.options.stack) (s.service.status p.polls).delay

def hear (token : Bool) (started : Nat) (p : Progress) : Moment :=
  match s.heeded p with
  | (q, some (state, reason)) => s.conclude token q state reason
  | (q, none) => ⟨.resting started q.now, q, token⟩

def accept (token : Bool) (p : Progress) : Moment :=
  match s.service.submission.result with
  | .error e => s.conclude token p .failed (s.subject ++ " rejected: " ++ e.message)
  | .ok () => s.look token p.now (s.settle p .inProgress "submitted")

def enter (token : Bool) : Moment :=
  match s.profile.check with
  | .error e => ⟨.refused e, Progress.start s, token⟩
  | .ok () =>
    match s.parameters.checkFor s.bundle with
    | .error e => ⟨.refused e, Progress.start s, token⟩
    | .ok () =>
      if token then s.conclude token (Progress.start s) .aborted "aborted before submission"
      else ⟨.submitting 0, (Progress.start s).issue s.submission, token⟩

/-! ## What can happen -/

/-- When that which the run waits for will be there. -/
def due? (p : Progress) : Phase → Option Nat
  | .submitting since => some (since + s.service.submission.delay)
  | .asking _ since => some (since + (s.service.status p.polls).delay)
  | .resting _ since => some (since + s.options.effectiveInterval)
  | .fetching _ since => some (since + s.service.outputs.delay)
  | _ => none

/-- The rest between two questions is over as soon as the token is cancelled. -/
def Roused : Phase → Bool → Prop
  | .resting _ _, token => token = true
  | _, _ => False

inductive Moves : Moment → Moment → Prop
  | cancel (m : Moment) : Moves m m.cancel
  | pass (phase : Phase) (p : Progress) (token : Bool) (due time : Nat) :
      s.due? p phase = some due → p.now < time → time ≤ due → ¬ Roused phase token →
      Moves ⟨phase, p, token⟩ ⟨phase, p.until time, token⟩
  | enter (token : Bool) : Moves ⟨.entering, Progress.start s, token⟩ (s.enter token)
  | accept (since : Nat) (p : Progress) (token : Bool) :
      p.now = since + s.service.submission.delay →
      Moves ⟨.submitting since, p, token⟩ (s.accept token p)
  | hear (started since : Nat) (p : Progress) (token : Bool) :
      p.now = since + (s.service.status p.polls).delay →
      Moves ⟨.asking started since, p, token⟩ (s.hear token started p)
  /-- The interval has passed; the token may be cancelled too. -/
  | sleep (started since : Nat) (p : Progress) (token : Bool) :
      p.now = since + s.options.effectiveInterval →
      Moves ⟨.resting started since, p, token⟩ (s.look token started p)
  /-- The token is cancelled; the interval may have passed too. -/
  | wake (started since : Nat) (p : Progress) :
      Moves ⟨.resting started since, p, true⟩ (s.look true started p)
  | fetch (reason : String) (since : Nat) (p : Progress) (token : Bool) :
      p.now = since + s.service.outputs.delay →
      Moves ⟨.fetching reason since, p, token⟩ ⟨.ended (s.fetched p reason), p, token⟩

def Reaches (m m' : Moment) : Prop := Relation.ReflTransGen s.Moves m m'

def beginning : Moment := ⟨.entering, Progress.start s, false⟩

/-- A moment of the run, whatever the one who cancels does. -/
def Occurs (m : Moment) : Prop := s.Reaches s.beginning m

/-- From the moment on the run can come to its end with this outcome. -/
def Ends (m : Moment) (o : Outcome) : Prop := ∃ p token, s.Reaches m ⟨.ended o, p, token⟩

variable {s} {token : Bool} {started : Nat} {p : Progress} {m m' : Moment}

/-- What holds at the beginning and is kept by every move holds at every moment. -/
theorem Occurs.keeps {I : Moment → Prop} (start : I s.beginning)
    (step : ∀ m m', I m → s.Moves m m' → I m') (occurs : s.Occurs m) : I m := by
  induction occurs with
  | refl => exact start
  | tail _ move ih => exact step _ _ ih move

/-! ## The steps of the loop -/

theorem heed_eq (s : Setting) (p : Progress) (r : StatusResult) :
    (match settled r with
      | .ok status => s.receive p status
      | .error e => s.suffer p e) =
      match s.heed p r with
      | (q, some (state, reason)) => .finished q state reason
      | (q, none) => .waiting (s.rest q) := by
  unfold heed
  cases settled r with
  | ok status =>
      simp only [receive]
      cases (classify s.options.action status).state? <;> rfl
  | error e =>
      simp only [suffer]
      by_cases many : s.options.maxFailures < p.failures + 1
      · rw [if_pos many, if_pos many]
      · rw [if_neg many, if_neg many]

theorem turn_eq (s : Setting) (started : Nat) (p : Progress) :
    s.turn started p =
      if s.cancelled p then .finished p .aborted "aborted while waiting"
      else match s.expired? started p with
        | some limit =>
          .finished p .timedOut (s.subject ++ " timed out after " ++ toString limit ++ "s")
        | none =>
          match s.heeded (s.asked p) with
          | (q, some (state, reason)) => .finished q state reason
          | (q, none) => .waiting (s.rest q) := by
  unfold turn
  by_cases cancelled : s.cancelled p = true
  · rw [if_pos cancelled, if_pos cancelled]
  · rw [if_neg cancelled, if_neg cancelled]
    cases s.expired? started p with
    | some limit => rfl
    | none => exact s.heed_eq _ _

theorem finish_eq (s : Setting) (p : Progress) (state : State) (reason : String) :
    s.finish p state reason =
      if state ≠ .complete ∨ s.options.action = .delete then
        outcome (s.settle p state reason) (.ofState state) reason {}
      else
        s.fetched ((s.settle p state reason).call (.outputs s.options.stack) s.service.outputs.delay)
          reason := by
  unfold finish fetched settle
  split
  · rfl
  · generalize s.service.outputs = answer
    obtain ⟨delay, result⟩ := answer
    cases result <;> rfl

theorem look_cases {P : Moment → Prop}
    (ends : ∀ state reason, state = .aborted ∨ state = .timedOut → P (s.conclude token p state reason))
    (asks : token = false → s.expired? started p = none →
      P ⟨.asking started p.now, p.issue (.status s.options.stack), false⟩) :
    P (s.look token started p) := by
  unfold look
  cases token with
  | true => exact ends _ _ (.inl rfl)
  | false =>
      cases late : s.expired? started p with
      | some limit => exact ends _ _ (.inr rfl)
      | none => exact asks rfl late

theorem conclude_cases {P : Moment → Prop} {state : State} {reason : String}
    (ends : state ≠ .complete ∨ s.options.action = .delete →
      P ⟨.ended (outcome (s.settle p state reason) (.ofState state) reason {}),
        s.settle p state reason, token⟩)
    (fetches : state = .complete → s.options.action ≠ .delete →
      P ⟨.fetching reason p.now, (s.settle p state reason).issue (.outputs s.options.stack), token⟩) :
    P (s.conclude token p state reason) := by
  unfold conclude
  by_cases plain : state ≠ .complete ∨ s.options.action = .delete
  · rw [if_pos plain]
    exact ends plain
  · rw [if_neg plain]
    obtain ⟨complete, kept⟩ := not_or.mp plain
    exact fetches (Decidable.not_not.mp complete) kept

theorem hear_cases {P : Moment → Prop}
    (ends : ∀ q state reason, s.heeded p = (q, some (state, reason)) →
      P (s.conclude token q state reason))
    (rests : ∀ q, s.heeded p = (q, none) → P ⟨.resting started q.now, q, token⟩) :
    P (s.hear token started p) := by
  unfold hear
  split
  · next q state reason answer => exact ends q state reason answer
  · next q answer => exact rests q answer

theorem accept_cases {P : Moment → Prop}
    (rejects : ∀ e, s.service.submission.result = .error e →
      P (s.conclude token p .failed (s.subject ++ " rejected: " ++ e.message)))
    (accepts : s.service.submission.result = .ok () →
      P (s.look token p.now (s.settle p .inProgress "submitted"))) :
    P (s.accept token p) := by
  unfold accept
  split
  · next e answer => exact rejects e answer
  · next answer => exact accepts answer

inductive Fault (s : Setting) : InputError → Prop
  | profile {e : InputError} : s.profile.check = .error e → Fault s e
  | parameters {e : InputError} :
      s.profile.check = .ok () → s.parameters.checkFor s.bundle = .error e → Fault s e

theorem enter_cases {P : Moment → Prop}
    (refuses : ∀ e, s.Fault e → P ⟨.refused e, Progress.start s, token⟩)
    (ends : token = true →
      P (s.conclude token (Progress.start s) .aborted "aborted before submission"))
    (submits : token = false → P ⟨.submitting 0, (Progress.start s).issue s.submission, token⟩) :
    P (s.enter token) := by
  unfold enter
  split
  · next e profile => exact refuses e (.profile profile)
  · next profile =>
    split
    · next e parameters => exact refuses e (.parameters profile parameters)
    · cases token with
      | true => exact ends rfl
      | false => exact submits rfl

@[simp] theorem cancelled_conclude (state : State) (reason : String) :
    (s.conclude token p state reason).cancelled = token :=
  conclude_cases (P := fun m => m.cancelled = token) (fun _ => rfl) (fun _ _ => rfl)

@[simp] theorem cancelled_look : (s.look token started p).cancelled = token :=
  look_cases (P := fun m => m.cancelled = token) (fun _ _ _ => cancelled_conclude _ _)
    (fun running _ => running.symm)

@[simp] theorem cancelled_hear : (s.hear token started p).cancelled = token :=
  hear_cases (P := fun m => m.cancelled = token) (fun _ _ _ _ => cancelled_conclude _ _)
    (fun _ _ => rfl)

@[simp] theorem cancelled_accept : (s.accept token p).cancelled = token :=
  accept_cases (P := fun m => m.cancelled = token) (fun _ _ => cancelled_conclude _ _)
    (fun _ => cancelled_look)

@[simp] theorem cancelled_enter : (s.enter token).cancelled = token :=
  enter_cases (P := fun m => m.cancelled = token) (fun _ _ => rfl)
    (fun _ => cancelled_conclude _ _) (fun _ => rfl)

theorem Moves.cancelled (move : s.Moves m m') (already : m.cancelled = true) : m'.cancelled = true := by
  cases move <;> simp_all [Moment.cancel]

/-! ## One answer -/

/-- An answer that is the last one, and the state that it ends the run in.  The counter of errors has
32 bits. -/
inductive Decides (s : Setting) (k : Nat) : State → Prop
  | final (status : Option RemoteStatus) (state : State) :
      Reads (s.service.status k).result status →
      Final (classify s.options.action status) state → Decides s k state
  | exhausted (e : ServiceError) :
      Fails (s.service.status k).result e →
      s.options.maxFailures < UInt32.ofNat (s.errorsInARow (k + 1)) → Decides s k .failed

/-- The counter of the run counts the errors in a row. -/
def Counts (s : Setting) (p : Progress) : Prop := p.failures = UInt32.ofNat (s.errorsInARow p.polls)

theorem heeded_course (s : Setting) (p : Progress) :
    (s.heeded p).1.now = p.now ∧ (s.heeded p).1.polls = p.polls + 1 ∧
      (s.heeded p).1.calls = p.calls ∧ (s.heeded p).1.trail.state = p.trail.state := by
  unfold heeded heed
  split
  · next status _ => exact ⟨rfl, rfl, rfl, by cases status <;> simp [Progress.onTrail]⟩
  · exact ⟨rfl, rfl, rfl, by simp [Progress.onTrail]⟩

theorem failures_succ (counts : s.Counts p)
    (failed : isFailure (s.service.status p.polls).result = true) :
    p.failures + 1 = UInt32.ofNat (s.errorsInARow (p.polls + 1)) := by
  rw [errorsInARow, failed, if_pos rfl, counts, UInt32.ofNat_add]
  rfl

theorem heeded_counts (counts : s.Counts p) : s.Counts (s.heeded p).1 := by
  unfold Counts
  rw [(s.heeded_course p).2.1]
  unfold heeded heed
  cases answer : settled (s.service.status p.polls).result with
  | ok status =>
      have reads := (settled_eq_ok_iff _ status).mp answer
      rw [errorsInARow, reads.isFailure]
      rfl
  | error e =>
      have fails := (settled_eq_error_iff _ e).mp answer
      exact failures_succ counts fails.isFailure

/-- The run ends at an answer just where it decides. -/
theorem heeded_decides (counts : s.Counts p) (state : State) :
    (∃ reason, (s.heeded p).2 = some (state, reason)) ↔ s.Decides p.polls state := by
  unfold heeded heed
  cases answer : settled (s.service.status p.polls).result with
  | ok status =>
      have reads := (settled_eq_ok_iff _ status).mp answer
      simp only [Option.map_eq_some_iff, Prod.mk.injEq]
      constructor
      · rintro ⟨reason, state', found, rfl, -⟩
        exact .final status _ reads ((final_iff _ _).mpr found)
      · intro decides
        cases decides with
        | final status' _ reads' final =>
            -- One answer is read in one way only.
            cases reads.unique reads'
            exact ⟨_, state, (final_iff _ _).mp final, rfl, rfl⟩
        | exhausted e fails =>
            -- An answer that is read does not count as an error.
            have failed := fails.isFailure
            rw [reads.isFailure] at failed
            cases failed
  | error e =>
      have fails := (settled_eq_error_iff _ e).mp answer
      have count := failures_succ counts fails.isFailure
      dsimp only
      rw [count]
      constructor
      · rintro ⟨reason, found⟩
        split at found
        · next many =>
            cases found
            exact .exhausted e fails many
        · cases found
      · intro decides
        cases decides with
        | final status _ reads =>
            have read := reads.isFailure
            rw [fails.isFailure] at read
            cases read
        | exhausted e' _ many =>
            rw [if_pos many]
            exact ⟨_, rfl⟩

/-! ## Where a run stands -/

/-- A run that waits since a time, until another at the latest. -/
structure Waits (s : Setting) (p : Progress) (since due : Nat) (state : State) : Prop where
  since_le : since ≤ p.now
  le_due : p.now ≤ due
  counts : s.Counts p
  state : p.trail.state = state

theorem Waits.until {since due time : Nat} {state : State} (waits : s.Waits p since due state)
    (later : p.now < time) (inTime : time ≤ due) : s.Waits (p.until time) since due state :=
  ⟨Nat.le_trans waits.since_le (Nat.le_of_lt later), inTime, waits.counts, waits.state⟩

def Placed (s : Setting) (m : Moment) : Prop :=
  match m.phase with
  | .entering => m.progress = Progress.start s
  | .refused e => m.progress = Progress.start s ∧ s.Fault e
  | .submitting since =>
    s.Waits m.progress since (since + s.service.submission.delay) .submitting ∧ m.progress.polls = 0
  | .asking _ since =>
    s.Waits m.progress since (since + (s.service.status m.progress.polls).delay) .inProgress
  | .resting _ since => s.Waits m.progress since (since + s.options.effectiveInterval) .inProgress
  | .fetching _ since => s.Waits m.progress since (since + s.service.outputs.delay) .complete
  | .ended _ => True

theorem placed_conclude (counts : s.Counts p) (under : p.trail.state.isTerminal = false)
    (state : State) (reason : String) : s.Placed (s.conclude token p state reason) := by
  refine conclude_cases (P := s.Placed) (fun _ => trivial) fun complete _ => ?_
  subst complete
  exact ⟨Nat.le_refl _, Nat.le_add_right _ _, counts, Trail.state_transition _ _ .complete reason under⟩

theorem placed_look (counts : s.Counts p) (inProgress : p.trail.state = .inProgress) :
    s.Placed (s.look token started p) := by
  refine look_cases (P := s.Placed) (fun state reason _ => ?_) fun _ _ => ?_
  · exact placed_conclude counts (p.trail.not_terminal_of_eq inProgress rfl) state reason
  · exact ⟨Nat.le_refl _, Nat.le_add_right _ _, counts, inProgress⟩

theorem placed_hear (counts : s.Counts p) (inProgress : p.trail.state = .inProgress) :
    s.Placed (s.hear token started p) := by
  obtain ⟨-, -, -, course⟩ := s.heeded_course p
  have counts' := heeded_counts counts
  refine hear_cases (P := s.Placed) (fun q state reason answer => ?_) (fun q answer => ?_)
  · rw [answer] at counts' course
    have under := q.trail.not_terminal_of_eq (course.trans inProgress) rfl
    exact placed_conclude counts' under state reason
  · rw [answer] at counts' course
    exact ⟨Nat.le_refl _, Nat.le_add_right _ _, counts', course.trans inProgress⟩

theorem placed_accept (counts : s.Counts p) (submitting : p.trail.state = .submitting) :
    s.Placed (s.accept token p) := by
  have under := p.trail.not_terminal_of_eq submitting rfl
  refine accept_cases (P := s.Placed) (fun e _ => placed_conclude counts under _ _) (fun _ => ?_)
  exact placed_look counts (Trail.state_transition _ _ .inProgress _ under)

theorem running_start (s : Setting) : (Progress.start s).trail.state.isTerminal = false := by
  rw [state_start]
  rfl

theorem placed_enter (s : Setting) (token : Bool) : s.Placed (s.enter token) := by
  have counts : s.Counts (Progress.start s) := rfl
  refine enter_cases (P := s.Placed) (fun e fault => ⟨rfl, fault⟩) (fun _ => ?_) (fun _ => ?_)
  · exact placed_conclude counts s.running_start _ _
  · exact ⟨⟨Nat.le_refl _, Nat.zero_le _, counts, s.state_start⟩, rfl⟩

theorem placed_pass {phase : Phase} {due time : Nat} (ends : s.due? p phase = some due)
    (later : p.now < time) (inTime : time ≤ due) (placed : s.Placed ⟨phase, p, token⟩) :
    s.Placed ⟨phase, p.until time, token⟩ := by
  cases phase with
  | entering => cases ends
  | refused e => cases ends
  | ended o => cases ends
  | submitting since =>
      cases ends
      exact ⟨placed.1.until later inTime, placed.2⟩
  | asking started since =>
      cases ends
      exact placed.until later inTime
  | resting started since =>
      cases ends
      exact placed.until later inTime
  | fetching reason since =>
      cases ends
      exact placed.until later inTime

theorem placed_move (m m' : Moment) (placed : s.Placed m) (move : s.Moves m m') : s.Placed m' := by
  cases move with
  | cancel => exact placed
  | pass phase p token due time ends later inTime => exact placed_pass ends later inTime placed
  | enter token => exact s.placed_enter token
  | accept since p token => exact placed_accept placed.1.counts placed.1.state
  | hear started since p token => exact placed_hear placed.counts placed.state
  | sleep started since p token => exact placed_look placed.counts placed.state
  | wake started since p => exact placed_look placed.counts placed.state
  | fetch reason since p token => trivial

theorem Occurs.placed (occurs : s.Occurs m) : s.Placed m := occurs.keeps rfl placed_move

/-- What is kept by every move from where a run can stand holds at every moment. -/
theorem Occurs.keeps_placed {I : Moment → Prop} (start : I s.beginning)
    (step : ∀ m m', s.Placed m → I m → s.Moves m m' → I m') (occurs : s.Occurs m) : I m := by
  induction occurs with
  | refl => exact start
  | tail before move ih => exact step _ _ (Occurs.placed before) ih move

end Setting
end HeatStack.Lifecycle
