import HeatStack.Proofs.Polling
import Mathlib

/-! # How a run ends

`Concludes` says how a run has to end, from the answers of the service and the moment of cancellation
alone: it is cancelled before it begins, its submission is rejected, or the first turn that can be the
last decides, and then the outputs of a stack that is complete are looked up.  `run_concludes_iff` says
that a run ends in this way and in no other, and that it ends whenever there is such a turn. -/
set_option autoImplicit false
namespace HeatStack.Lifecycle

/-- What the host hears of a state that is final. -/
inductive Reported : State → BuildStatus → Prop
  | complete : Reported .complete .success
  | failed : Reported .failed .failure
  | rolledBack : Reported .rollbackComplete .failure
  | timedOut : Reported .timedOut .unstable
  | aborted : Reported .aborted .aborted

theorem Reported.ofState {state : State} {status : BuildStatus} (h : Reported state status) :
    BuildStatus.ofState state = status := by
  cases h <;> rfl

/-- The outcome is this one, after so many questions. -/
structure Outcome.Is (o : Outcome) (n : Nat) (state : State) (status : BuildStatus) (reason : String)
    (outputs : Table (Option String)) : Prop where
  asked : questions o.calls = n
  state : o.state = state
  status : o.status = status
  reason : o.reason = reason
  outputs : o.outputs = outputs

namespace Setting
variable (s : Setting)

/-- The run was not cancelled before it began, and its submission was accepted. -/
def Submitted : Prop :=
  s.cancellation.holds 0 0 = false ∧ s.service.submission.result = .ok ()

/-- The first turn that can be the last, with the number of questions asked by then. -/
structure FirstEnding (k n : Nat) (state : State) (reason : String) : Prop where
  ending : s.Ending k state reason
  asked : s.AskedBy k n
  reached : s.Reached k

/-- How a run ends that has asked so many questions: state, status, reason and outputs. -/
inductive Concludes : Nat → State → BuildStatus → String → Table (Option String) → Prop
  | cancelled :
      s.cancellation.holds 0 0 = true →
      Concludes 0 .aborted .aborted "aborted before submission" {}
  | rejected (e : ServiceError) :
      s.cancellation.holds 0 0 = false → s.service.submission.result = .error e →
      Concludes 0 .failed .failure (s.subject ++ " rejected: " ++ e.message) {}
  | ended (k n : Nat) (state : State) (status : BuildStatus) (reason : String) :
      s.Submitted → s.FirstEnding k n state reason → Reported state status →
      state ≠ .complete ∨ s.options.action = .delete →
      Concludes n state status reason {}
  | resolved (k n : Nat) (reason : String) (remote : Table String) :
      s.Submitted → s.FirstEnding k n .complete reason → s.options.action ≠ .delete →
      s.service.outputs.result = .ok remote →
      Concludes n .complete .success reason (s.bundle.outputs.map fun name _ => remote.get? name)
  | unresolved (k n : Nat) (reason : String) (e : ServiceError) :
      s.Submitted → s.FirstEnding k n .complete reason → s.options.action ≠ .delete →
      s.service.outputs.result = .error e →
      Concludes n .complete .unstable (reason ++ "; outputs unavailable: " ++ e.message) {}

/-! ## The last steps -/

variable {s} {p : Progress}

theorem finish_plain (state : State) (reason : String) (under : p.trail.state.isTerminal = false)
    (plain : state ≠ .complete ∨ s.options.action = .delete) :
    Outcome.Is (s.finish p state reason) (questions p.calls) state (.ofState state) reason {} := by
  unfold finish
  rw [if_pos plain]
  exact ⟨rfl, Trail.state_transition _ _ state reason under, rfl, rfl, rfl⟩

theorem questions_outputs (calls : List (Nat × Call)) (now : Nat) (stack : String) :
    questions (calls ++ [(now, .outputs stack)]) = questions calls := by
  simp [questions, List.countP_append, Call.isQuestion]

theorem questions_finish (s : Setting) (p : Progress) (state : State) (reason : String) :
    questions (s.finish p state reason).calls = questions p.calls := by
  unfold finish
  split
  · rfl
  · dsimp only
    split
    · exact questions_outputs _ _ _
    · exact questions_outputs _ _ _

theorem finish_resolved (reason : String) (remote : Table String)
    (under : p.trail.state.isTerminal = false) (kept : s.options.action ≠ .delete)
    (answer : s.service.outputs.result = .ok remote) :
    Outcome.Is (s.finish p .complete reason) (questions p.calls) .complete .success reason
      (s.bundle.outputs.map fun name _ => remote.get? name) := by
  unfold finish
  rw [if_neg (by simp [kept])]
  dsimp only
  rw [answer]
  exact ⟨questions_outputs _ _ _, Trail.state_transition _ _ .complete reason under, rfl, rfl, rfl⟩

theorem finish_unresolved (reason : String) (e : ServiceError)
    (under : p.trail.state.isTerminal = false) (kept : s.options.action ≠ .delete)
    (answer : s.service.outputs.result = .error e) :
    Outcome.Is (s.finish p .complete reason) (questions p.calls) .complete .unstable
      (reason ++ "; outputs unavailable: " ++ e.message) {} := by
  unfold finish
  rw [if_neg (by simp [kept])]
  dsimp only
  rw [answer]
  exact ⟨questions_outputs _ _ _, Trail.state_transition _ _ .complete reason under, rfl, rfl, rfl⟩

theorem Ending.reported {k : Nat} {state : State} {reason : String} (h : s.Ending k state reason) :
    Reported state (.ofState state) := by
  cases h with
  | cancelled => exact .aborted
  | expired => exact .timedOut
  | answered status state asks reads final =>
      generalize classify s.options.action status = observed at final
      cases final with
      | complete => exact .complete
      | failed => exact .failed
      | rolledBack => exact .rolledBack
  | exhausted => exact .failed

theorem AskedBy.unique {k n m : Nat} (hn : s.AskedBy k n) (hm : s.AskedBy k m) : n = m := by
  rcases hn with ⟨asks, rfl⟩ | ⟨silent, rfl⟩
  · rcases hm with ⟨-, rfl⟩ | ⟨silent, -⟩
    · rfl
    · exact absurd asks silent
  · rcases hm with ⟨asks, -⟩ | ⟨-, rfl⟩
    · exact absurd asks silent
    · rfl

theorem Ended.not_terminal {k : Nat} (ended : s.Ended k p) : p.trail.state.isTerminal = false := by
  rw [ended.state]
  rfl

def begun (s : Setting) : Progress :=
  ((Progress.start s).call s.submission s.service.submission.delay).onTrail fun t =>
    t.transition (s.clock ((Progress.start s).call s.submission s.service.submission.delay).now)
      .inProgress "submitted"

theorem state_start (s : Setting) : (Progress.start s).trail.state = .submitting := by
  unfold Progress.start
  cases s.streamed <;> rfl

theorem standing_begun (s : Setting) : s.Standing 0 s.begun := by
  refine ⟨?_, rfl, rfl, ?_, ?_⟩
  · simp [begun, Progress.onTrail, Progress.call, Progress.start, turnStart]
  · refine Trail.state_transition _ _ .inProgress "submitted" ?_
    have submitting := state_start s
    simp [Progress.call, submitting, State.isTerminal]
  · cases action : s.options.action <;>
      simp [begun, Progress.onTrail, Progress.call, Progress.start, questions, submission, action,
        Call.isQuestion]

theorem drive_of_submitted (submitted : s.Submitted) (fuel : Nat) :
    s.drive fuel = (s.poll (s.turnStart 0) fuel s.begun).map
      fun (p, state, reason) => s.finish p state reason := by
  obtain ⟨running, accepted⟩ := submitted
  have now : s.begun.now = s.turnStart 0 := (standing_begun s).now
  unfold drive
  rw [running, if_neg Bool.false_ne_true]
  dsimp only
  rw [accepted]
  unfold begun at now ⊢
  rw [← now]

/-- A turn that ends the run, and the outputs behind it, give one of the conclusions. -/
theorem finish_concludes (submitted : s.Submitted) {k n : Nat} {state : State} {reason : String}
    (first : s.FirstEnding k n state reason) (ended : s.Ended k p) :
    ∃ status reason' outputs, s.Concludes n state status reason' outputs ∧
      Outcome.Is (s.finish p state reason) n state status reason' outputs := by
  have under := ended.not_terminal
  have asked : questions p.calls = n := ended.asked.unique first.asked
  by_cases plain : state ≠ .complete ∨ s.options.action = .delete
  · have finished := finish_plain state reason under plain
    rw [asked] at finished
    exact ⟨_, _, _, .ended k n state _ reason submitted first first.ending.reported plain, finished⟩
  · obtain ⟨complete, kept⟩ := not_or.mp plain
    have complete : state = .complete := Decidable.not_not.mp complete
    subst complete
    cases answer : s.service.outputs.result with
    | ok remote =>
        have finished := finish_resolved reason remote under kept answer
        rw [asked] at finished
        exact ⟨_, _, _, .resolved k n reason remote submitted first kept answer, finished⟩
    | error e =>
        have finished := finish_unresolved reason e under kept answer
        rw [asked] at finished
        exact ⟨_, _, _, .unresolved k n reason e submitted first kept answer, finished⟩

theorem Concludes.of_is {o : Outcome} {n : Nat} {state : State} {status : BuildStatus}
    {reason : String} {outputs : Table (Option String)}
    (concludes : s.Concludes n state status reason outputs)
    (same : o.Is n state status reason outputs) :
    s.Concludes (questions o.calls) o.state o.status o.reason o.outputs := by
  rw [same.asked, same.state, same.status, same.reason, same.outputs]
  exact concludes

/-! ## The whole run -/

theorem drive_of_cancelled (early : s.cancellation.holds 0 0 = true) (fuel : Nat) :
    ∃ o, s.drive fuel = some o ∧ o.Is 0 .aborted .aborted "aborted before submission" {} := by
  unfold drive
  rw [if_pos early]
  refine ⟨_, rfl, finish_plain .aborted _ ?_ (.inl State.noConfusion)⟩
  rw [state_start]
  rfl

theorem drive_of_rejected (early : s.cancellation.holds 0 0 = false) (e : ServiceError)
    (rejected : s.service.submission.result = .error e) (fuel : Nat) :
    ∃ o, s.drive fuel = some o ∧
      o.Is 0 .failed .failure (s.subject ++ " rejected: " ++ e.message) {} := by
  have under : ((Progress.start s).call s.submission s.service.submission.delay).trail.state.isTerminal
      = false := by
    rw [Progress.call, state_start]
    rfl
  have finished := finish_plain (s := s) .failed (s.subject ++ " rejected: " ++ e.message) under
    (.inl State.noConfusion)
  have none_asked :
      questions ((Progress.start s).call s.submission s.service.submission.delay).calls = 0 :=
    (standing_begun s).asked
  rw [none_asked] at finished
  unfold drive
  rw [early, if_neg Bool.false_ne_true]
  dsimp only
  rw [rejected]
  exact ⟨_, rfl, finished⟩

theorem concludes_of_drive (fuel : Nat) (o : Outcome) (driven : s.drive fuel = some o)
    (countable : s.Countable (questions o.calls)) :
    s.Concludes (questions o.calls) o.state o.status o.reason o.outputs := by
  cases early : s.cancellation.holds 0 0 with
  | true =>
      obtain ⟨o', driven', same⟩ := drive_of_cancelled early fuel
      cases Option.some.inj (driven.symm.trans driven')
      exact Concludes.of_is (.cancelled early) same
  | false =>
      cases accepted : s.service.submission.result with
      | error e =>
          obtain ⟨o', driven', same⟩ := drive_of_rejected early e accepted fuel
          cases Option.some.inj (driven.symm.trans driven')
          exact Concludes.of_is (.rejected e early accepted) same
      | ok =>
          have submitted : s.Submitted := ⟨early, accepted⟩
          rw [drive_of_submitted submitted, Option.map_eq_some_iff] at driven
          obtain ⟨⟨q, state, reason⟩, polled, rfl⟩ := driven
          dsimp only at countable ⊢
          rw [questions_finish] at countable
          obtain ⟨k, -, ending, ended, reached⟩ := ending_of_poll fuel 0 s.begun q state reason
            (standing_begun s) polled fun j lt => countable (j + 1) lt
          have first : s.FirstEnding k (questions q.calls) state reason :=
            ⟨ending, ended.asked, fun j lt => reached j (Nat.zero_le j) lt⟩
          obtain ⟨status, reason', outputs, concludes, same⟩ := finish_concludes submitted first ended
          exact concludes.of_is same

theorem drive_of_concludes {n : Nat} {state : State} {status : BuildStatus} {reason : String}
    {outputs : Table (Option String)} (concludes : s.Concludes n state status reason outputs)
    (countable : s.Countable n) :
    ∃ fuel o, s.drive fuel = some o ∧ o.Is n state status reason outputs := by
  have reach : ∀ {k n state reason}, s.Submitted → s.FirstEnding k n state reason →
      s.Countable n → ∃ fuel q, s.drive fuel = some (s.finish q state reason) ∧ s.Ended k q ∧
        questions q.calls = n := by
    intro k n state reason submitted first countable
    have count : ∀ j ≤ k, s.Asks j → s.errorsInARow (j + 1) < UInt32.size := by
      intro j le asks
      apply countable
      rcases first.asked with ⟨-, rfl⟩ | ⟨silent, rfl⟩
      · omega
      · have other : j ≠ n := fun e => silent (e ▸ asks)
        omega
    obtain ⟨q, polled, ended⟩ := poll_of_ending k state reason first.ending count (k + 1) 0 s.begun
      (standing_begun s) (Nat.zero_le k) (by omega) fun j _ lt => first.reached j lt
    refine ⟨k + 1, q, ?_, ended, ended.asked.unique first.asked⟩
    rw [drive_of_submitted submitted, polled]
    rfl
  cases concludes with
  | cancelled early =>
      obtain ⟨o, driven, same⟩ := drive_of_cancelled early 0
      exact ⟨0, o, driven, same⟩
  | rejected e early rejected =>
      obtain ⟨o, driven, same⟩ := drive_of_rejected early e rejected 0
      exact ⟨0, o, driven, same⟩
  | ended k n state status reason submitted first reported plain =>
      obtain ⟨fuel, q, driven, ended, asked⟩ := reach submitted first countable
      have finished := finish_plain (s := s) state reason ended.not_terminal plain
      rw [asked, reported.ofState] at finished
      exact ⟨fuel, _, driven, finished⟩
  | resolved k n reason remote submitted first kept answer =>
      obtain ⟨fuel, q, driven, ended, asked⟩ := reach submitted first countable
      have finished := finish_resolved reason remote ended.not_terminal kept answer
      rw [asked] at finished
      exact ⟨fuel, _, driven, finished⟩
  | unresolved k n reason e submitted first kept answer =>
      obtain ⟨fuel, q, driven, ended, asked⟩ := reach submitted first countable
      have finished := finish_unresolved reason e ended.not_terminal kept answer
      rw [asked] at finished
      exact ⟨fuel, _, driven, finished⟩

/-- More turns than the run takes change nothing. -/
theorem poll_add (started : Nat) (more : Nat) : ∀ (fuel : Nat) (p : Progress)
    (r : Progress × State × String), s.poll started fuel p = some r →
      s.poll started (fuel + more) p = some r := by
  intro fuel
  induction fuel with
  | zero => intro p r ended; cases ended
  | succ fuel ih =>
      intro p r ended
      rw [Nat.succ_add, poll]
      rw [poll] at ended
      cases turned : s.turn started p with
      | finished q state reason =>
          rw [turned] at ended
          exact ended
      | waiting q =>
          rw [turned] at ended
          exact ih q r ended

theorem drive_add (fuel more : Nat) (o : Outcome) (driven : s.drive fuel = some o) :
    s.drive (fuel + more) = some o := by
  cases early : s.cancellation.holds 0 0 with
  | true =>
      unfold drive at driven ⊢
      rw [if_pos early] at driven ⊢
      exact driven
  | false =>
      cases accepted : s.service.submission.result with
      | error e =>
          unfold drive at driven ⊢
          rw [early, if_neg Bool.false_ne_true] at driven ⊢
          dsimp only at driven ⊢
          rw [accepted] at driven ⊢
          exact driven
      | ok =>
          have submitted : s.Submitted := ⟨early, accepted⟩
          rw [drive_of_submitted submitted, Option.map_eq_some_iff] at driven ⊢
          obtain ⟨r, polled, rfl⟩ := driven
          exact ⟨r, poll_add _ more fuel s.begun r polled, rfl⟩

theorem drive_unique (fuel fuel' : Nat) (o o' : Outcome) (driven : s.drive fuel = some o)
    (driven' : s.drive fuel' = some o') : o = o' := by
  have more := drive_add fuel fuel' o driven
  have more' := drive_add fuel' fuel o' driven'
  rw [Nat.add_comm] at more'
  exact Option.some.inj (more.symm.trans more')

theorem errorsInARow_le (s : Setting) (k : Nat) : s.errorsInARow k ≤ k := by
  induction k with
  | zero => exact Nat.le_refl 0
  | succ k ih =>
      rw [errorsInARow]
      split <;> omega

/-- A run whose profile and parameters are in order ends, if it ends, in one way: however many turns
it is given, the outcome is the same.  It ends after so many questions, with fewer errors in a row
than its counter can count, exactly as the answers and the moment of cancellation conclude. -/
theorem run_concludes_iff (s : Setting) (profile : s.profile.check = .ok ())
    (parameters : s.parameters.checkFor s.bundle = .ok ()) :
    (∀ fuel fuel' o o', s.run fuel = .ok (some o) → s.run fuel' = .ok (some o') → o = o') ∧
    ∀ n, s.Countable n → ∀ state status reason outputs,
      ((∃ fuel o, s.run fuel = .ok (some o) ∧ questions o.calls = n ∧ o.state = state ∧
          o.status = status ∧ o.reason = reason ∧ o.outputs = outputs) ↔
        s.Concludes n state status reason outputs) := by
  have runs : ∀ fuel, s.run fuel = .ok (s.drive fuel) := by
    intro fuel
    unfold run
    rw [profile]
    dsimp only
    rw [parameters]
  refine ⟨?_, ?_⟩
  · intro fuel fuel' o o' ended ended'
    rw [runs] at ended ended'
    exact drive_unique fuel fuel' o o' (Except.ok.inj ended) (Except.ok.inj ended')
  · intro n countable state status reason outputs
    constructor
    · rintro ⟨fuel, o, ended, rfl, rfl, rfl, rfl, rfl⟩
      rw [runs] at ended
      exact concludes_of_drive fuel o (Except.ok.inj ended) countable
    · intro concludes
      obtain ⟨fuel, o, driven, same⟩ := drive_of_concludes concludes countable
      exact ⟨fuel, o, by rw [runs, driven], same.asked, same.state, same.status, same.reason,
        same.outputs⟩

open HeatStack.Connection HeatStack.Template HeatStack.Time

def localProfile : Profile :=
  ⟨"ci", "http://[::1]:5000", true, "Default", "jenkins", ⟨"hunter2"⟩, ""⟩

theorem check_localProfile : localProfile.check = .ok () := by cbv

/-- A stack that is made after one failed question, and whose outputs cannot be had.  The run would
be cancelled ten seconds later. -/
def lateOutputs : Setting where
  service := {
    submission := .now (.ok ())
    status := fun k => .now (match k with
      | 0 => .error (.network "down")
      | 1 => .ok (some ⟨"CREATE_IN_PROGRESS", ""⟩)
      | _ => .ok (some ⟨"create_complete", "done"⟩))
    outputs := .now (.error (.other "gone"))
    connection := .now (.ok ()) }
  bundle := { Bundle.empty "web" "" with fingerprint := "f" }
  profile := localProfile
  parameters := ⟨"web", "f", {}⟩
  options := { Options.new "web" .create with timeout := some (.ofSeconds 60), maxFailures := 1 }
  cancellation := .atTime 30000
  clock := fun _ => .epoch
  streamed := false

theorem run_concludes_iff_lateOutputs :
    lateOutputs.profile.check = .ok () ∧
    lateOutputs.parameters.checkFor lateOutputs.bundle = .ok () ∧
    lateOutputs.Countable 3 ∧
    lateOutputs.Concludes 3 .complete .unstable
      "create_complete: done; outputs unavailable: gone" {} := by
  have profile : lateOutputs.profile.check = .ok () := check_localProfile
  have parameters : lateOutputs.parameters.checkFor lateOutputs.bundle = .ok () := rfl
  have countable : lateOutputs.Countable 3 := by
    intro k le
    have few := lateOutputs.errorsInARow_le k
    have room : 3 < UInt32.size := by decide
    omega
  refine ⟨profile, parameters, countable, ?_⟩
  refine ((run_concludes_iff lateOutputs profile parameters).2 3 countable _ _ _ _).mp ⟨4, ?_⟩
  unfold run
  rw [profile]
  exact ⟨_, rfl, rfl, rfl, rfl, rfl, rfl⟩

end Setting
end HeatStack.Lifecycle
