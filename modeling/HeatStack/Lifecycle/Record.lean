import HeatStack.Json.Reading
import HeatStack.Lifecycle.Event
import HeatStack.Time.Instant

/-! # Records of events

A record is an event with its time, and is kept as one line of JSON. -/
set_option autoImplicit false
namespace HeatStack.Lifecycle
open HeatStack.Time

structure Record where
  time : Instant
  event : Event
deriving DecidableEq

namespace Event

def word : Event → String
  | .stateChanged .. => "state_changed"
  | .remoteStatus _ => "remote_status"
  | .stackMissing => "stack_missing"
  | .pollFailed .. => "poll_failed"
  | .outputsUnavailable _ => "outputs_unavailable"

def words : List String :=
  ["state_changed", "remote_status", "stack_missing", "poll_failed", "outputs_unavailable"]

def members (e : Event) : List (String × Json.Value) :=
  ("event", .string e.word) :: match e with
    | .stateChanged source target reason =>
      [("from", .string source.word), ("to", .string target.word), ("reason", .string reason)]
    | .remoteStatus s => [("status", .string s.status), ("reason", .string s.reason)]
    | .stackMissing => []
    | .pollFailed error consecutive =>
      [("error", .string error), ("consecutive", .nat consecutive.toNat)]
    | .outputsUnavailable error => [("error", .string error)]

open Json Json.Reading

/-- The kind of an event: its word, or its place among the words. -/
def kind? : Syntax → Option String
  | .string s => s
  | .number n => (natural? words.length (.number n)).bind fun i => words[i]?
  | _ => none

/-- A state: its word, or an object whose only member is the word with nothing in it. -/
def state? : Syntax → Option State
  | .object [(some name, .object [])] => State.ofWord? name
  | v => word? State.ofWord? v

/-- The event in an object, which may have other members. -/
def ofObject? (object : Syntax) : Option Event := do
  let kind ← required? (← fields? ["event"] object) "event" kind?
  match kind with
  | "state_changed" =>
    let fields ← fields? ["from", "to", "reason"] object
    let source ← required? fields "from" state?
    let target ← required? fields "to" state?
    let reason ← required? fields "reason" text?
    some (.stateChanged source target reason)
  | "remote_status" =>
    let fields ← fields? ["status", "reason"] object
    let status ← required? fields "status" text?
    let reason ← required? fields "reason" text?
    some (.remoteStatus ⟨status, reason⟩)
  | "stack_missing" => some .stackMissing
  | "poll_failed" =>
    let fields ← fields? ["error", "consecutive"] object
    let error ← required? fields "error" text?
    let consecutive ← required? fields "consecutive" (natural? (Nat.pow 2 32))
    some (.pollFailed error (UInt32.ofNat consecutive))
  | "outputs_unavailable" =>
    let error ← required? (← fields? ["error"] object) "error" text?
    some (.outputsUnavailable error)
  | _ => none

end Event

namespace Record
open Json Json.Reading

def json (r : Record) : Json.Value := .object (("at", .string r.time.text) :: r.event.members)

def line (r : Record) : String := r.json.compact

/-- A record is an object, and its other members are read as values. -/
def ofSyntax? : Syntax → Option Record
  | .object members => do
    let time ← required? (← fields? ["at"] (.object members)) "at" text?
    let rest := Syntax.object (members.filter fun e => e.1 != some "at")
    let _ ← rest.value? Syntax.nestingLimit
    let event ← Event.ofObject? rest
    some ⟨← Instant.parse? time, event⟩
  | _ => none

def ofLine? (text : String) : Option Record := (Syntax.parse? text).bind ofSyntax?

end Record

end HeatStack.Lifecycle
