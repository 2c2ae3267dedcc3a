import HeatStack.Json.Value
import HeatStack.Lifecycle.Service
import HeatStack.Yaml.NodeReading

/-! # Scripts

A script tells a rehearsal how the service behaves.  It is a YAML mapping of what is submitted in
vain, the answers to the questions for the status in their order, and the outputs. -/
set_option autoImplicit false
namespace HeatStack.Lifecycle
open HeatStack.Yaml

inductive Step
  | status (status : RemoteStatus)
  /-- No stack, or, where this is denied, an answer that says nothing. -/
  | notFound (absent : Bool)
  | pollError (message : String)
deriving DecidableEq

structure Script where
  submitError : Option String
  connectionError : Option String
  statuses : List Step
  outputs : Table String
  outputsError : Option String
deriving DecidableEq

namespace Step

def result : Step → StatusResult
  | .status s => .ok (some s)
  | .notFound true => .ok none
  | .notFound false => .error (.other "script step 'not_found: false' carries no status")
  | .pollError m => .error (.network m)

def json : Step → Json.Value
  | .status s => .object [("status", .string s.status), ("reason", .string s.reason)]
  | .notFound absent => .object [("not_found", .bool absent)]
  | .pollError m => .object [("poll_error", .string m)]

/-- A field of a step by its name, or by its place among the names; other keys do not count. -/
def fieldOf? (names : List String) : Value → Option (Option String)
  | .string s => some (if names.contains s then some s else none)
  | .number (.integer (.ofNat n)) => some names[n]?
  | _ => none

/-- The fields of a step, none of them twice. -/
def fields? (names : List String) : Value → Option (List (String × Value))
  | .mapping entries => do
    let keyed ← entries.mapM fun (k, v) => (fieldOf? names k).map fun f => (f, v)
    let known := keyed.filterMap fun (f, v) => f.map fun f => (f, v)
    if (known.map Prod.fst).Nodup then some known else none
  | _ => none

def textField? (fields : List (String × Value)) (name : String) : Option String :=
  match fields.lookup name with
  | some (.string s) => some s
  | _ => none

def status? (v : Value) : Option Step := do
  let fields ← fields? ["status", "reason"] v
  let status ← textField? fields "status"
  let reason ← if (fields.lookup "reason").isNone then some "" else textField? fields "reason"
  some (.status ⟨status, reason⟩)

def notFound? (v : Value) : Option Step := do
  match (← fields? ["not_found"] v).lookup "not_found" with
  | some (.bool b) => some (.notFound b)
  | _ => none

def pollError? (v : Value) : Option Step := do
  let message ← textField? (← fields? ["poll_error"] v) "poll_error"
  some (.pollError message)

/-- The first form that fits. -/
def ofValue? (v : Value) : Option Step := (status? v).or ((notFound? v).or (pollError? v))

end Step

namespace Script

def empty : Script := ⟨none, none, [], {}, none⟩

def ofNode (d : Document) (n : Node Nat) : Budget Script := do
  let fields ← d.fields ["submit_error", "connection_error", "statuses", "outputs", "outputs_error"] n
  let submitError ← Document.defaulted fields "submit_error" none d.optionalText
  let connectionError ← Document.defaulted fields "connection_error" none d.optionalText
  let statuses ← Document.defaulted fields "statuses" [] fun n => do
    (← d.items n).mapM fun step => do
      match Step.ofValue? (← d.untagged (nestingLimit - 2) step) with
      | some step => return step
      | none => failure
  let outputs ← Document.defaulted fields "outputs" {} d.textTable
  let outputsError ← Document.defaulted fields "outputs_error" none d.optionalText
  return ⟨submitError, connectionError, statuses, outputs, outputsError⟩

/-- The script in a text; nothing is a script without entries. -/
def parse? (text : String) : Option Script := do
  let d ← Document.parse? text
  match d.root with
  | none => some empty
  | some n => ((ofNode d n).run d.aliasLimit).map Prod.fst

def json (s : Script) : Json.Value :=
  .object [("submit_error", .textOrNull s.submitError),
    ("connection_error", .textOrNull s.connectionError),
    ("statuses", .array (s.statuses.map Step.json)),
    ("outputs", .object (s.outputs.map fun _ v => .string v).entries),
    ("outputs_error", .textOrNull s.outputsError)]

def answerUnless {α : Type} (error : String → ServiceError) (message : Option String) (answer : α) :
    Answer α :=
  .now (match message with
    | some m => .error (error m)
    | none => .ok answer)

def service (s : Script) : Service where
  submission := answerUnless .rejected s.submitError ()
  status n := .now (repeatLast (s.statuses.map Step.result) n)
  outputs := answerUnless .other s.outputsError s.outputs
  connection := answerUnless .auth s.connectionError ()

end Script
end HeatStack.Lifecycle
