import HeatStack.Lifecycle.Run
import HeatStack.Proofs.TrailState

/-! # Polling, seen from the answers

The service's answers, the wait between questions and the moment of cancellation fix when each turn
begins (`turnStart`) and how many errors came in a row (`errorsInARow`), whatever the run makes of
them.  `Ending` says from these alone which turns can be the last.  The loop ends at the first of
them: `Standing` is what it keeps from turn to turn, `turn_cases` what one turn does. -/
set_option autoImplicit false
namespace HeatStack.Lifecycle

/-! ## Answers -/

/-- An answer that is a status, or says that there is no stack. -/
inductive Reads : StatusResult → Option RemoteStatus → Prop
  | answered (status : Option RemoteStatus) : Reads (.ok status) status
  | notFound (message : String) : Reads (.error (.notFound message)) none

/-- An answer that says nothing of the stack. -/
def Fails (r : StatusResult) (e : ServiceError) : Prop :=
  r = .error e ∧ ∀ message, e ≠ .notFound message

def isFailure : StatusResult → Bool
  | .ok _ => false
  | .error (.notFound _) => false
  | .error _ => true

inductive Final : Observation → State → Prop
  | complete : Final .complete .complete
  | failed : Final .failed .failed
  | rolledBack : Final .rolledBack .rollbackComplete

theorem settled_eq_ok_iff (r : StatusResult) (status : Option RemoteStatus) :
    settled r = .ok status ↔ Reads r status := by
  constructor
  · intro h
    cases r with
    | ok actual =>
        cases h
        exact .answered status
    | error e =>
        cases e with
        | notFound message =>
            cases h
            exact .notFound message
        | _ => cases h
  · intro h
    cases h <;> rfl

theorem settled_eq_error_iff (r : StatusResult) (e : ServiceError) :
    settled r = .error e ↔ Fails r e := by
  cases r with
  | ok actual => simp [settled, Fails]
  | error actual => cases actual <;> cases e <;> simp [settled, Fails]

theorem Reads.isFailure {r : StatusResult} {status : Option RemoteStatus} (h : Reads r status) :
    isFailure r = false := by
  cases h <;> rfl

theorem Fails.isFailure {r : StatusResult} {e : ServiceError} (h : Fails r e) :
    isFailure r = true := by
  obtain ⟨rfl, other⟩ := h
  cases e with
  | notFound message => exact absurd rfl (other message)
  | _ => rfl

namespace Setting
variable (s : Setting)

/-! ## The course of the answers -/

/-- When the turn with the k-th question begins, counted from zero, if no turn before it is the last:
the answer before it has come, and the wait has passed or was cut short. -/
def turnStart : Nat → Nat
  | 0 => s.service.submission.delay
  | k + 1 =>
    let answered := turnStart k + (s.service.status k).delay
    s.cancellation.wake answered (k + 2) (answered + s.options.effectiveInterval)

/-- How many errors stand at the end of the first answers. -/
def errorsInARow : Nat → Nat
  | 0 => 0
  | k + 1 => if isFailure (s.service.status k).result then errorsInARow k + 1 else 0

/-- The run has been cancelled when a turn begins; the submission and all questions before it are
answered then. -/
def CancelledAt (k : Nat) : Prop := s.cancellation.holds (s.turnStart k) (k + 1) = true

/-- The time of the run is over when a turn begins.  It counts from the first turn. -/
def ExpiredAt (k : Nat) (limit : Timeout) : Prop :=
  s.options.timeout = some limit ∧ limit.milliseconds ≤ s.turnStart k - s.turnStart 0

def Asks (k : Nat) : Prop := ¬ s.CancelledAt k ∧ ∀ limit, ¬ s.ExpiredAt k limit

/-- The events that end a run at a turn, with its final state and the reason. -/
inductive Ending (k : Nat) : State → String → Prop
  | cancelled : s.CancelledAt k → Ending k .aborted "aborted while waiting"
  | expired (limit : Timeout) :
      ¬ s.CancelledAt k → s.ExpiredAt k limit →
      Ending k .timedOut (s.subject ++ " timed out after " ++ toString limit ++ "s")
  | answered (status : Option RemoteStatus) (state : State) :
      s.Asks k → Reads (s.service.status k).result status →
      Final (classify s.options.action status) state →
      Ending k state (s.describe status)
  | exhausted (e : ServiceError) :
      s.Asks k → Fails (s.service.status k).result e →
      s.options.maxFailures.toNat < s.errorsInARow (k + 1) →
      Ending k .failed ("status of " ++ s.options.stack ++ " unavailable after "
        ++ toString (s.errorsInARow (k + 1)) ++ " consecutive failures: " ++ e.message)

/-- A turn before which none can be the last. -/
def Reached (k : Nat) : Prop := ∀ j < k, ∀ state reason, ¬ s.Ending j state reason

def AskedBy (k n : Nat) : Prop := (s.Asks k ∧ n = k + 1) ∨ (¬ s.Asks k ∧ n = k)

/-- Never more errors in a row among the first answers than a counter of 32 bits can count. -/
def Countable (n : Nat) : Prop := ∀ k ≤ n, s.errorsInARow k < UInt32.size

/-! ## What the loop keeps -/

end Setting

def Call.isQuestion : Call → Bool
  | .status _ => true
  | _ => false

def questions (calls : List (Nat × Call)) : Nat := calls.countP fun c => c.2.isQuestion

namespace Setting
variable (s : Setting)

structure Standing (k : Nat) (p : Progress) : Prop where
  now : p.now = s.turnStart k
  polls : p.polls = k
  failures : p.failures.toNat = s.errorsInARow k
  state : p.trail.state = .inProgress
  asked : questions p.calls = k

structure Ended (k : Nat) (p : Progress) : Prop where
  state : p.trail.state = .inProgress
  asked : s.AskedBy k (questions p.calls)

/-- A run that has just had the answer to a turn's question. -/
def heard (p : Progress) : Progress :=
  { p.call (.status s.options.stack) (s.service.status p.polls).delay with polls := p.polls + 1 }

variable {s} {k : Nat} {p : Progress}

theorem Standing.cancelled_iff (standing : s.Standing k p) :
    s.cancelled p = true ↔ s.CancelledAt k := by
  rw [cancelled, CancelledAt, standing.now, standing.polls]

theorem Standing.expired_iff (standing : s.Standing k p) (limit : Timeout) :
    s.expired? (s.turnStart 0) p = some limit ↔ s.ExpiredAt k limit := by
  rw [expired?, Option.filter_eq_some_iff, standing.now, decide_eq_true_eq, ExpiredAt]

theorem Standing.questions_heard (standing : s.Standing k p) :
    questions (s.heard p).calls = k + 1 := by
  simp [heard, Progress.call, questions, List.countP_append, Call.isQuestion, ← standing.asked]

/-- A turn that asks comes down to the answer. -/
theorem Standing.turn_eq (standing : s.Standing k p) (asks : s.Asks k) :
    s.turn (s.turnStart 0) p =
      match settled (s.service.status k).result with
      | .ok status => s.receive (s.heard p) status
      | .error e => s.suffer (s.heard p) e := by
  have running : s.cancelled p = false := by
    rw [← Bool.not_eq_true, standing.cancelled_iff]
    exact asks.1
  have inTime : s.expired? (s.turnStart 0) p = none := by
    rw [Option.eq_none_iff_forall_ne_some]
    intro limit late
    exact asks.2 limit ((standing.expired_iff limit).mp late)
  unfold turn
  rw [running, inTime, standing.polls]
  unfold heard
  rw [standing.polls]
  rfl

/-- The counter of the run counts the errors in a row. -/
theorem Standing.failures_succ (standing : s.Standing k p) {e : ServiceError}
    (fails : Fails (s.service.status k).result e) (countable : s.errorsInARow (k + 1) < UInt32.size) :
    (p.failures + 1).toNat = s.errorsInARow (k + 1) := by
  have step : s.errorsInARow (k + 1) = s.errorsInARow k + 1 := by
    rw [errorsInARow, fails.isFailure, if_pos rfl]
  rw [UInt32.toNat_add, standing.failures, UInt32.toNat_one, ← step]
  exact Nat.mod_eq_of_lt countable

/-! ## One answer -/

theorem final_iff (o : Observation) (state : State) : Final o state ↔ o.state? = some state := by
  constructor
  · intro h
    cases h <;> rfl
  · intro h
    cases o with
    | pending => cases h
    | complete =>
        cases h
        exact .complete
    | failed =>
        cases h
        exact .failed
    | rolledBack =>
        cases h
        exact .rolledBack

/-- What an answer leaves as it is: the calls, the clock and the state. -/
def SameCourse (p q : Progress) : Prop :=
  q.now = p.now ∧ q.polls = p.polls ∧ q.calls = p.calls ∧ q.trail.state = p.trail.state

theorem receive_of_final (p : Progress) (status : Option RemoteStatus) (state : State)
    (final : Final (classify s.options.action status) state) :
    ∃ q, s.receive p status = .finished q state (s.describe status) ∧ SameCourse p q := by
  have found := (final_iff _ state).mp final
  unfold receive
  rw [found]
  refine ⟨_, rfl, rfl, rfl, rfl, ?_⟩
  cases status <;> simp [Progress.onTrail]

theorem receive_of_not_final (p : Progress) (status : Option RemoteStatus)
    (unended : ∀ state, ¬ Final (classify s.options.action status) state) :
    ∃ q, s.receive p status = .waiting (s.rest q) ∧ SameCourse p q ∧ q.failures = 0 := by
  have none_found : (classify s.options.action status).state? = none := by
    rw [Option.eq_none_iff_forall_ne_some]
    exact fun state found => unended state ((final_iff _ state).mpr found)
  unfold receive
  rw [none_found]
  refine ⟨_, rfl, ⟨rfl, rfl, rfl, ?_⟩, rfl⟩
  cases status <;> simp [Progress.onTrail]

theorem suffer_of_many (p : Progress) (e : ServiceError)
    (many : s.options.maxFailures.toNat < (p.failures + 1).toNat) :
    ∃ q, s.suffer p e = .finished q .failed ("status of " ++ s.options.stack
      ++ " unavailable after " ++ toString (p.failures + 1).toNat ++ " consecutive failures: "
      ++ e.message) ∧ SameCourse p q := by
  unfold suffer
  rw [if_pos (UInt32.lt_iff_toNat_lt.mpr many)]
  exact ⟨_, rfl, rfl, rfl, rfl, by simp [Progress.onTrail]⟩

theorem suffer_of_few (p : Progress) (e : ServiceError)
    (few : ¬ s.options.maxFailures.toNat < (p.failures + 1).toNat) :
    ∃ q, s.suffer p e = .waiting (s.rest q) ∧ SameCourse p q ∧ q.failures = p.failures + 1 := by
  unfold suffer
  rw [if_neg (fun h => few (UInt32.lt_iff_toNat_lt.mp h))]
  exact ⟨_, rfl, ⟨rfl, rfl, rfl, by simp [Progress.onTrail]⟩, rfl⟩

/-! ## One turn -/

theorem Standing.ended (standing : s.Standing k p) (asks : s.Asks k) {q : Progress}
    (same : SameCourse (s.heard p) q) : s.Ended k q := by
  obtain ⟨-, -, calls, state⟩ := same
  refine ⟨state.trans standing.state, .inl ⟨asks, ?_⟩⟩
  rw [calls, standing.questions_heard]

theorem turn_of_ending (standing : s.Standing k p)
    (countable : s.Asks k → s.errorsInARow (k + 1) < UInt32.size)
    {state : State} {reason : String} (ending : s.Ending k state reason) :
    ∃ q, s.turn (s.turnStart 0) p = .finished q state reason ∧ s.Ended k q := by
  cases ending with
  | cancelled now =>
      refine ⟨p, ?_, standing.state, .inr ⟨fun asks => asks.1 now, standing.asked⟩⟩
      unfold turn
      rw [if_pos (standing.cancelled_iff.mpr now)]
  | expired limit notNow late =>
      refine ⟨p, ?_, standing.state, .inr ⟨fun asks => asks.2 limit late, standing.asked⟩⟩
      unfold turn
      rw [if_neg (fun now => notNow (standing.cancelled_iff.mp now)),
        (standing.expired_iff limit).mpr late]
  | answered status state asks reads final =>
      obtain ⟨q, finished, same⟩ := receive_of_final (s.heard p) status state final
      refine ⟨q, ?_, standing.ended asks same⟩
      rw [standing.turn_eq asks, (settled_eq_ok_iff _ status).mpr reads]
      exact finished
  | exhausted e asks fails many =>
      have count := standing.failures_succ fails (countable asks)
      rw [← count] at many ⊢
      obtain ⟨q, finished, same⟩ := suffer_of_many (s.heard p) e many
      refine ⟨q, ?_, standing.ended asks same⟩
      rw [standing.turn_eq asks, (settled_eq_error_iff _ e).mpr fails]
      exact finished

theorem asks_of_no_ending (unended : ∀ state reason, ¬ s.Ending k state reason) : s.Asks k := by
  have running : ¬ s.CancelledAt k := fun now => unended _ _ (.cancelled now)
  exact ⟨running, fun limit late => unended _ _ (.expired limit running late)⟩

/-- After a wait the next turn begins on time. -/
theorem Standing.rest (standing : s.Standing k p) {q : Progress}
    (same : SameCourse (s.heard p) q) (failures : q.failures.toNat = s.errorsInARow (k + 1)) :
    s.Standing (k + 1) (s.rest q) := by
  obtain ⟨now, polls, calls, state⟩ := same
  have polls' : q.polls = k + 1 := by rw [polls, heard, standing.polls]
  refine ⟨?_, polls', failures, state.trans standing.state, ?_⟩
  · rw [Setting.rest, now, polls', heard, Progress.call, standing.now, standing.polls]
    rfl
  · exact (congrArg questions calls).trans standing.questions_heard

theorem turn_of_no_ending (standing : s.Standing k p)
    (countable : s.Asks k → s.errorsInARow (k + 1) < UInt32.size)
    (unended : ∀ state reason, ¬ s.Ending k state reason) :
    ∃ q, s.turn (s.turnStart 0) p = .waiting q ∧ s.Standing (k + 1) q := by
  have asks := asks_of_no_ending unended
  rw [standing.turn_eq asks]
  cases answer : settled (s.service.status k).result with
  | ok status =>
      have reads := (settled_eq_ok_iff _ status).mp answer
      obtain ⟨q, waiting, same, zero⟩ := receive_of_not_final (s.heard p) status
        fun state final => unended _ _ (.answered status state asks reads final)
      refine ⟨_, waiting, standing.rest same ?_⟩
      rw [zero, errorsInARow, reads.isFailure]
      rfl
  | error e =>
      have fails := (settled_eq_error_iff _ e).mp answer
      have count := standing.failures_succ fails (countable asks)
      obtain ⟨q, waiting, same, failures⟩ := suffer_of_few (s.heard p) e (by
        intro many
        have many' : s.options.maxFailures.toNat < (p.failures + 1).toNat := many
        rw [count] at many'
        exact unended _ _ (.exhausted e asks fails many'))
      exact ⟨_, waiting, standing.rest same ((congrArg UInt32.toNat failures).trans count)⟩

/-! ## The loop -/

def Turn.progress : Turn → Progress
  | .finished p _ _ => p
  | .waiting p => p

theorem calls_receive (p : Progress) (status : Option RemoteStatus) :
    (s.receive p status).progress.calls = p.calls := by
  unfold receive
  cases (classify s.options.action status).state? <;> rfl

theorem calls_suffer (p : Progress) (e : ServiceError) :
    (s.suffer p e).progress.calls = p.calls := by
  unfold suffer
  dsimp only
  split <;> rfl

theorem Standing.questions_turn (standing : s.Standing k p) (asks : s.Asks k) :
    questions (s.turn (s.turnStart 0) p).progress.calls = k + 1 := by
  rw [standing.turn_eq asks, ← standing.questions_heard]
  cases settled (s.service.status k).result with
  | ok status => exact congrArg questions (calls_receive (s.heard p) status)
  | error e => exact congrArg questions (calls_suffer (s.heard p) e)

theorem prefix_calls_turn (started : Nat) (p : Progress) :
    p.calls <+: (s.turn started p).progress.calls := by
  unfold turn
  split
  · exact List.prefix_rfl
  · split
    · exact List.prefix_rfl
    · dsimp only
      split
      · rw [calls_receive]
        exact List.prefix_append ..
      · rw [calls_suffer]
        exact List.prefix_append ..

theorem prefix_calls_poll (started : Nat) : ∀ (fuel : Nat) (p q : Progress) (state : State)
    (reason : String), s.poll started fuel p = some (q, state, reason) → p.calls <+: q.calls := by
  intro fuel
  induction fuel with
  | zero => intro p q state reason ended; cases ended
  | succ fuel ih =>
      intro p q state reason ended
      have first := prefix_calls_turn (s := s) started p
      rw [poll] at ended
      cases turned : s.turn started p with
      | finished p' state' reason' =>
          rw [turned] at first ended
          cases Option.some.inj ended
          exact first
      | waiting p' =>
          rw [turned] at first ended
          exact first.trans (ih p' q state reason ended)

/-- Where no turn before it can be the last, the loop ends with a turn that can. -/
theorem poll_of_ending (m : Nat) (state : State) (reason : String) (ending : s.Ending m state reason)
    (countable : ∀ j ≤ m, s.Asks j → s.errorsInARow (j + 1) < UInt32.size) :
    ∀ (fuel k : Nat) (p : Progress), s.Standing k p → k ≤ m → m < k + fuel →
      (∀ j, k ≤ j → j < m → ∀ state reason, ¬ s.Ending j state reason) →
      ∃ q, s.poll (s.turnStart 0) fuel p = some (q, state, reason) ∧ s.Ended m q := by
  intro fuel
  induction fuel with
  | zero => intro k p _ le lt _; omega
  | succ fuel ih =>
      intro k p standing le lt unended
      rw [poll]
      by_cases last : k = m
      · subst last
        obtain ⟨q, turned, ended⟩ := turn_of_ending standing (countable k le) ending
        rw [turned]
        exact ⟨q, rfl, ended⟩
      · obtain ⟨q, turned, later⟩ := turn_of_no_ending standing (countable k le)
          (unended k (Nat.le_refl k) (by omega))
        rw [turned]
        exact ih (k + 1) q later (by omega) (by omega) fun j lower upper =>
          unended j (by omega) upper

/-- The loop ends with the first turn that can be the last. -/
theorem ending_of_poll : ∀ (fuel k : Nat) (p q : Progress) (state : State) (reason : String),
    s.Standing k p → s.poll (s.turnStart 0) fuel p = some (q, state, reason) →
    (∀ j, j < questions q.calls → s.errorsInARow (j + 1) < UInt32.size) →
    ∃ m, k ≤ m ∧ s.Ending m state reason ∧ s.Ended m q ∧
      ∀ j, k ≤ j → j < m → ∀ state reason, ¬ s.Ending j state reason := by
  intro fuel
  induction fuel with
  | zero => intro k p q state reason _ ended; cases ended
  | succ fuel ih =>
      intro k p q state reason standing ended countable
      -- The question of this turn is among those asked in the end, so the counter can count it.
      have countable_here : s.Asks k → s.errorsInARow (k + 1) < UInt32.size := by
        intro asks
        apply countable
        have asked := standing.questions_turn asks
        have kept : (s.turn (s.turnStart 0) p).progress.calls <+: q.calls := by
          rw [poll] at ended
          cases turned : s.turn (s.turnStart 0) p with
          | finished p' state' reason' =>
              rw [turned] at ended
              cases Option.some.inj ended
              exact List.prefix_rfl
          | waiting p' =>
              rw [turned] at ended
              exact prefix_calls_poll _ fuel p' q state reason ended
        have le := kept.sublist.countP_le (p := fun c => c.2.isQuestion)
        unfold questions at asked ⊢
        omega
      rw [poll] at ended
      by_cases can : ∃ state reason, s.Ending k state reason
      · obtain ⟨state', reason', ending⟩ := can
        obtain ⟨q', turned, ended'⟩ := turn_of_ending standing countable_here ending
        rw [turned] at ended
        cases Option.some.inj ended
        exact ⟨k, Nat.le_refl k, ending, ended', fun j lower upper => by omega⟩
      · have unended : ∀ state reason, ¬ s.Ending k state reason :=
          fun state reason ending => can ⟨state, reason, ending⟩
        obtain ⟨q', turned, later⟩ := turn_of_no_ending standing countable_here unended
        rw [turned] at ended
        obtain ⟨m, le, ending, ended', before⟩ :=
          ih (k + 1) q' q state reason later ended countable
        refine ⟨m, by omega, ending, ended', ?_⟩
        intro j lower upper
        by_cases first : j = k
        · rw [first]
          exact unended
        · exact before j (by omega) upper

end Setting
end HeatStack.Lifecycle
