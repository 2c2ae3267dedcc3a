import HeatStack.Proofs.TrailBroadcast

/-! # The course of a trail

Whatever happens to a trail, and in whatever order, its changes of state follow on one another from the first
state on, and behind a final state there is none (`Orderly`).  `Advances` lists what one operation can make of
a trail, and what is said of all of them is read off there. -/
set_option autoImplicit false
namespace HeatStack.Lifecycle
open HeatStack.Time

/-- The state that changes lead to from the state of a new trail. -/
def reached (course : List (State × State × String)) : State :=
  (course.getLast?.map fun change => change.2.1).getD .submitting

/-- Changes that have led to a state.  Each leaves the state that those before it have led to, for another
one; and where that is final, it is the last. -/
structure Orderly (course : List (State × State × String)) (state : State) : Prop where
  state : state = reached course
  each : ∀ before source target reason after, course = before ++ (source, target, reason) :: after →
    source = reached before ∧ source ≠ target ∧ (target.isTerminal = true → after = [])

theorem reached_append (course : List (State × State × String)) (source target : State) (reason : String) :
    reached (course ++ [(source, target, reason)]) = target := by
  rw [reached, List.getLast?_concat]
  rfl

namespace Orderly
variable {course : List (State × State × String)} {state : State}

theorem new : Orderly [] .submitting :=
  ⟨rfl, fun before _ _ _ _ split => absurd split.symm (List.append_ne_nil_of_right_ne_nil before nofun)⟩

/-- No change leads to a final state but the last. -/
theorem not_terminal_inside (orderly : Orderly course state) (under : state.isTerminal = false)
    {before after : List (State × State × String)} {source target : State} {reason : String}
    (split : course = before ++ (source, target, reason) :: after) : target.isTerminal = false := by
  refine Bool.eq_false_iff.mpr fun final => ?_
  have last := (orderly.each _ _ _ _ _ split).2.2 final
  subst last
  rw [orderly.state, split, reached_append, final] at under
  cases under

theorem append (orderly : Orderly course state) (under : state.isTerminal = false) {target : State}
    (other : state ≠ target) (reason : String) :
    Orderly (course ++ [(state, target, reason)]) target := by
  refine ⟨(reached_append _ _ _ _).symm, fun before source target' reason' after split => ?_⟩
  rcases List.eq_nil_or_concat after with rfl | ⟨after, last, rfl⟩
  · obtain ⟨rfl, same⟩ := List.append_inj' split rfl
    cases same
    exact ⟨orderly.state, other, fun _ => rfl⟩
  · -- The change that is looked at is one of the old ones.
    rw [List.concat_eq_append, ← List.cons_append, ← List.append_assoc] at split
    have old := (List.append_inj' split rfl).1
    obtain ⟨source, different, -⟩ := orderly.each _ _ _ _ _ old
    refine ⟨source, different, fun final => ?_⟩
    rw [orderly.not_terminal_inside under old] at final
    cases final

end Orderly

/-! ## One operation -/

/-- What one operation can make of a trail. -/
inductive Trail.Advances (t t' : Trail) : Prop
  | stay : t'.records = t.records → t'.state = t.state → Advances t t'
  | change (now : Instant) (target : State) (reason : String) :
      t.state.isTerminal = false → t.state ≠ target → t'.state = target →
      t'.records = t.records ++ [⟨now, .stateChanged t.state target reason⟩] → Advances t t'
  | remark (r : Record) :
      r.event.change? = none → t'.state = t.state → t'.records = t.records ++ [r] → Advances t t'

namespace Trail
variable {t t' : Trail}

theorem transition_of_idle (t : Trail) (now : Instant) {target : State} (reason : String)
    (idle : t.state.isTerminal = true ∨ t.state = target) : t.transition now target reason = t :=
  if_pos idle

theorem advances_note (t : Trail) (n : Note) : t.Advances (t.note n) := by
  cases n with
  | transition now target reason =>
      change t.Advances (t.transition now target reason)
      by_cases idle : t.state.isTerminal = true ∨ t.state = target
      · rw [t.transition_of_idle now reason idle]
        exact .stay rfl rfl
      · obtain ⟨under, other⟩ := not_or.mp idle
        have under := Bool.eq_false_iff.mpr under
        exact .change now target reason under other (t.state_transition now target reason under)
          (t.records_transition now target reason under other)
  | observe now status =>
      change t.Advances (t.observe now status)
      unfold observe
      split
      · exact .stay rfl rfl
      · exact .remark ⟨now, .remoteStatus status⟩ rfl rfl rfl
  | stackMissing now => exact .remark ⟨now, .stackMissing⟩ rfl rfl rfl
  | pollFailed now error consecutive => exact .remark ⟨now, .pollFailed error consecutive⟩ rfl rfl rfl
  | outputsUnavailable now error => exact .remark ⟨now, .outputsUnavailable error⟩ rfl rfl rfl

theorem Advances.records (advances : t.Advances t') :
    ∃ more, t'.records = t.records ++ more ∧ more.length ≤ 1 := by
  cases advances with
  | stay same => exact ⟨[], by rw [same, List.append_nil], Nat.zero_le 1⟩
  | change now target reason _ _ _ appended => exact ⟨_, appended, Nat.le_refl 1⟩
  | remark r _ _ appended => exact ⟨_, appended, Nat.le_refl 1⟩

theorem Advances.final (advances : t.Advances t') (final : t.state.isTerminal = true) :
    t'.state = t.state := by
  cases advances with
  | stay _ same => exact same
  | change now target reason under =>
      rw [final] at under
      cases under
  | remark r _ same => exact same

theorem Advances.orderly (advances : t.Advances t') (orderly : Orderly (changes t.events) t.state) :
    Orderly (changes t'.events) t'.state := by
  cases advances with
  | stay records state =>
      rw [events, records, state]
      exact orderly
  | change now target reason under other state records =>
      have changed : changes t'.events = changes t.events ++ [(t.state, target, reason)] := by
        rw [events, records, List.map_append, changes_append]
        rfl
      rw [changed, state]
      exact orderly.append under other reason
  | remark r quiet state records =>
      have unchanged : changes t'.events = changes t.events := by
        rw [events, records, List.map_append, changes_append]
        exact (congrArg _ (List.filterMap_cons_none quiet)).trans (List.append_nil _)
      rw [unchanged, state]
      exact orderly

end Trail

/-! ## Any number of operations -/

/-- The operation asks for a change of state. -/
def TrailOperation.IsTransition (op : TrailOperation) : Prop :=
  ∃ now target reason, op = .note (.transition now target reason)

namespace Broadcast
variable {b : Broadcast}

theorem advances_step (b : Broadcast) (op : TrailOperation) : b.trail.Advances (b.step op).trail := by
  cases op with
  | note n => exact b.trail.advances_note n
  | attach => exact .stay rfl rfl
  | detach => exact .stay rfl rfl
  | abandon listener =>
      rw [step]
      split <;> exact .stay rfl rfl

/-- Only a transition changes the state. -/
theorem state_step {op : TrailOperation} (other : ¬ op.IsTransition) :
    (b.step op).trail.state = b.trail.state := by
  cases op with
  | note n =>
      cases n with
      | transition now target reason => exact absurd ⟨now, target, reason, rfl⟩ other
      | observe now status => exact b.trail.state_observe now status
      | stackMissing now => rfl
      | pollFailed now error consecutive => rfl
      | outputsUnavailable now error => rfl
  | attach => rfl
  | detach => rfl
  | abandon listener =>
      rw [step]
      split <;> rfl

theorem orderly_run (orderly : Orderly (changes b.trail.events) b.trail.state)
    (ops : List TrailOperation) :
    Orderly (changes (b.run ops).trail.events) (b.run ops).trail.state := by
  induction ops generalizing b with
  | nil => exact orderly
  | cons op ops ih => exact ih ((b.advances_step op).orderly orderly)

theorem state_run_of_final (final : b.trail.state.isTerminal = true) (ops : List TrailOperation) :
    (b.run ops).trail.state = b.trail.state := by
  induction ops generalizing b with
  | nil => rfl
  | cons op ops ih =>
      have same := (b.advances_step op).final final
      exact (ih (same ▸ final)).trans same

/-- The trail after any operations.  Its changes of state follow on one another from the first state on up to
the state that it is in, each from one state to another, and only the last can be to a final state; which then
stays, whatever happens later.  A transition that is not suppressed is recorded and makes its change, and one
that is suppressed leaves the trail alone; no other operation changes the state.  None touches the records
that are there, or adds more than one. -/
theorem trail_course {b : Broadcast} (arises : ∃ stack ops, (new stack).run ops = b) :
    Orderly (changes b.trail.events) b.trail.state ∧
    (b.trail.state.isTerminal = true → ∀ later, (b.run later).trail.state = b.trail.state) ∧
    (∀ now target reason,
      (b.trail.state.isTerminal = true ∨ b.trail.state = target →
        b.step (.note (.transition now target reason)) = b) ∧
      (b.trail.state.isTerminal = false → b.trail.state ≠ target →
        (b.step (.note (.transition now target reason))).trail.state = target ∧
        (b.step (.note (.transition now target reason))).trail.records =
          b.trail.records ++ [⟨now, .stateChanged b.trail.state target reason⟩])) ∧
    ∀ op, (¬ op.IsTransition → (b.step op).trail.state = b.trail.state) ∧
      ∃ more, (b.step op).trail.records = b.trail.records ++ more ∧ more.length ≤ 1 := by
  obtain ⟨stack, ops, rfl⟩ := arises
  refine ⟨orderly_run (b := new stack) Orderly.new ops, state_run_of_final,
    fun now target reason => ⟨fun idle => ?_, fun under other => ?_⟩,
    fun op => ⟨state_step, (advances_step _ op).records⟩⟩
  · exact congrArg (fun t => (⟨t, _⟩ : Broadcast)) (Trail.transition_of_idle _ now reason idle)
  · exact ⟨Trail.state_transition _ now target reason under,
      Trail.records_transition _ now target reason under other⟩

/-- A trail that has come to its end, with a listener that has left. -/
def rejected : Broadcast :=
  (new "web").run [.attach, .note (.transition .epoch .inProgress "submitted"),
    .note (.observe .epoch ⟨"CREATE_FAILED", ""⟩), .abandon 0,
    .note (.transition .epoch .inProgress "again"), .note (.transition .epoch .failed "CREATE_FAILED")]

theorem trail_course_rejected :
    changes rejected.trail.events =
      [(.submitting, .inProgress, "submitted"), (.inProgress, .failed, "CREATE_FAILED")] ∧
    Orderly (changes rejected.trail.events) .failed ∧
    rejected.step (.note (.transition .epoch .complete "late")) = rejected ∧
    (rejected.run [.note (.pollFailed .epoch "down" 1), .attach,
      .note (.transition .epoch .inProgress "late")]).trail.state = .failed := by
  obtain ⟨orderly, stays, transitions, -⟩ := trail_course (b := rejected) ⟨"web", _, rfl⟩
  have failed : rejected.trail.state = .failed := rfl
  have final : rejected.trail.state.isTerminal = true := rfl
  exact ⟨rfl, failed ▸ orderly, (transitions _ _ _).1 (.inl final), (stays final _).trans failed⟩

end Broadcast
end HeatStack.Lifecycle
