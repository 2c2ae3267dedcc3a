import HeatStack.Lifecycle.Trail

/-! # The state and the events of a trail

Only `transition` changes the state, and it leaves a final one alone.  Every other operation appends at
most one event of its own kind. -/
set_option autoImplicit false
namespace HeatStack.Lifecycle
open HeatStack.Time

/-! ## Changes of state -/

def Event.change? : Event → Option (State × State × String)
  | .stateChanged source target reason => some (source, target, reason)
  | _ => none

def changes (events : List Event) : List (State × State × String) := events.filterMap Event.change?

theorem changes_append (a b : List Event) : changes (a ++ b) = changes a ++ changes b :=
  List.filterMap_append

namespace Trail

variable (t : Trail) (now : Instant)

@[simp] theorem state_push (r : Record) : (t.push r).state = t.state := rfl

@[simp] theorem state_observe (s : RemoteStatus) : (t.observe now s).state = t.state := by
  unfold observe
  split <;> rfl

@[simp] theorem state_stackMissing : (t.stackMissing now).state = t.state := rfl

@[simp] theorem state_pollFailed (error : String) (consecutive : UInt32) :
    (t.pollFailed now error consecutive).state = t.state := rfl

@[simp] theorem state_outputsUnavailable (error : String) :
    (t.outputsUnavailable now error).state = t.state := rfl

@[simp] theorem state_attach : t.attach.state = t.state := rfl

theorem state_transition (target : State) (reason : String) (under : t.state.isTerminal = false) :
    (t.transition now target reason).state = target := by
  unfold transition
  by_cases same : t.state = target
  · rw [if_pos (.inr same)]
    exact same
  · rw [if_neg (by simp [under, same])]
    rfl

theorem records_transition (target : State) (reason : String) (under : t.state.isTerminal = false)
    (other : t.state ≠ target) :
    (t.transition now target reason).records =
      t.records ++ [⟨now, .stateChanged t.state target reason⟩] := by
  unfold transition
  rw [if_neg (by simp [under, other])]
  rfl

theorem not_terminal_of_eq {state : State} (same : t.state = state) (under : state.isTerminal = false) :
    t.state.isTerminal = false := by
  rw [same]
  exact under

/-! ## Events -/

/-- What is recorded, without the times. -/
def events : List Event := t.records.map Record.event

@[simp] theorem events_push (r : Record) : (t.push r).events = t.events ++ [r.event] := by
  simp [events, push]

theorem events_observe (s : RemoteStatus) :
    (t.observe now s).events = t.events ∨ (t.observe now s).events = t.events ++ [.remoteStatus s] := by
  unfold observe
  split
  · exact .inl rfl
  · exact .inr (events_push _ _)

@[simp] theorem events_stackMissing : (t.stackMissing now).events = t.events ++ [.stackMissing] :=
  events_push _ _

@[simp] theorem events_pollFailed (error : String) (consecutive : UInt32) :
    (t.pollFailed now error consecutive).events = t.events ++ [.pollFailed error consecutive] :=
  events_push _ _

@[simp] theorem events_outputsUnavailable (error : String) :
    (t.outputsUnavailable now error).events = t.events ++ [.outputsUnavailable error] :=
  events_push _ _

@[simp] theorem events_detach : t.detach.events = t.events := rfl

@[simp] theorem state_detach : t.detach.state = t.state := rfl

theorem events_transition (target : State) (reason : String) (under : t.state.isTerminal = false)
    (other : t.state ≠ target) :
    (t.transition now target reason).events = t.events ++ [.stateChanged t.state target reason] := by
  rw [events, t.records_transition now target reason under other, List.map_append]
  rfl

end Trail
end HeatStack.Lifecycle
