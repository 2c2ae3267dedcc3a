import HeatStack.Lifecycle.Record

/-! # The trail of a run

A trail follows one run: it knows the state that the run is in and records, with their times, the
changes of state, the statuses that the service reports and the faults on the way.  A state that is
final is never left, and a status that repeats the one before it is not recorded again.  Each record
is also handed to a stream, if one is attached. -/
set_option autoImplicit false
namespace HeatStack.Lifecycle
open HeatStack.Time

/-- A name for a run, from the time of its start in nanoseconds. -/
def runId (nanoseconds : Nat) : String := "r-" ++ String.ofList (Text.hexPadded 12 nanoseconds)

/-- Where records are handed to.  Nobody may be listening. -/
structure Stream where
  listening : Bool
  received : List Record
deriving DecidableEq

structure Trail where
  stack : String
  state : State
  /-- The last reported status, if the stack was there since. -/
  lastStatus : Option RemoteStatus
  records : List Record
  stream : Option Stream
deriving DecidableEq

namespace Trail

def new (stack : String) : Trail := ⟨stack, .submitting, none, [], none⟩

def push (t : Trail) (r : Record) : Trail :=
  { t with
    records := t.records ++ [r]
    stream := t.stream.map fun s =>
      if s.listening then { s with received := s.received ++ [r] } else s }

/-- Changes the state.  A final state stays, and a change to the same state is none. -/
def transition (t : Trail) (now : Instant) (target : State) (reason : String) : Trail :=
  if t.state.isTerminal ∨ t.state = target then t
  else { t with state := target }.push ⟨now, .stateChanged t.state target reason⟩

/-- Records a reported status if it differs from the last one. -/
def observe (t : Trail) (now : Instant) (s : RemoteStatus) : Trail :=
  if t.lastStatus = some s then t
  else { t with lastStatus := some s }.push ⟨now, .remoteStatus s⟩

def stackMissing (t : Trail) (now : Instant) : Trail :=
  { t with lastStatus := none }.push ⟨now, .stackMissing⟩

def pollFailed (t : Trail) (now : Instant) (error : String) (consecutive : UInt32) : Trail :=
  t.push ⟨now, .pollFailed error consecutive⟩

def outputsUnavailable (t : Trail) (now : Instant) (error : String) : Trail :=
  t.push ⟨now, .outputsUnavailable error⟩

/-- Hands every record from now on to a new listener. -/
def attach (t : Trail) : Trail := { t with stream := some ⟨true, []⟩ }

/-- The listener goes away; the trail does not notice. -/
def abandon (t : Trail) : Trail :=
  { t with stream := t.stream.map fun s => { s with listening := false } }

def detach (t : Trail) : Trail := { t with stream := none }

def received (t : Trail) : List Record := (t.stream.map Stream.received).getD []

def lines (t : Trail) : String := String.join (t.records.map fun r => r.line ++ "\n")

end Trail
end HeatStack.Lifecycle
