import HeatStack.Json.Reading
import HeatStack.Template.Bundle

/-! # Records of bundles

The form in which a bundle and its parts are kept as JSON.  What is absent is not written, but the
bounds of a constraint are written as null. -/
set_option autoImplicit false
namespace HeatStack.Template
open HeatStack.Number

/-! ## Writing -/

/-- A member that is left out where there is no text. -/
def textMember (name : String) (s : Option String) : List (String × Json.Value) :=
  (s.map fun s => (name, Json.Value.string s)).toList

def Constraint.record (c : Constraint) : Json.Value :=
  let rule : List (String × Json.Value) := match c with
    | .allowedValues values _ => [("values", .strings values)]
    | .range min max _ =>
      let bound (x : Option Binary64) : Json.Value := (x.map fun x => .number (.binary x)).getD .null
      [("min", bound min), ("max", bound max)]
    | .length min max _ =>
      let bound (n : Option UInt64) : Json.Value := (n.map fun n => .nat n.toNat).getD .null
      [("min", bound min), ("max", bound max)]
    | .allowedPattern pattern _ => [("pattern", .string pattern)]
    | .custom name _ => [("name", .string name)]
  .object (("kind", .string c.kind.name) :: rule ++ [("description", .string c.description)])

def Parameter.record (p : Parameter) : Json.Value :=
  .object ([("name", .string p.name), ("type", .string p.type.name)]
    ++ textMember "label" p.label ++ textMember "description" p.description
    ++ textMember "default" p.default
    ++ [("hidden", .bool p.hidden), ("constraints", .array (p.constraints.map Constraint.record))])

def Output.record (o : Output) : Json.Value :=
  .object (("name", .string o.name) :: textMember "description" o.description)

def Sections.record (s : Sections) : Json.Value :=
  .object [("parameters", .bool s.parameters), ("outputs", .bool s.outputs), ("tags", .bool s.tags)]

def Bundle.record (b : Bundle) : Json.Value :=
  .object ([("name", .string b.name), ("version", .string b.version), ("label", .string b.label),
      ("sections", b.sections.record),
      ("parameters", .object (b.parameters.map fun _ p => p.record).entries),
      ("outputs", .object (b.outputs.map fun _ o => o.record).entries)]
    ++ textMember "tags" b.tags
    ++ [("source", .string b.source), ("fingerprint", .string b.fingerprint)])

/-! ## Reading -/

open Json Json.Reading

/-- The value without its numerals checked, for a constraint whose parts have been checked as a
whole: the kind stands anywhere in an object, or first in an array. -/
def splitKind? : Syntax → Option (String × Syntax)
  | .object members =>
    match members.filter fun e => e.1 == some "kind" with
    | [(_, .string (some kind))] => some (kind, .object (members.filter fun e => e.1 != some "kind"))
    | _ => none
  | .array (.string (some kind) :: items) => some (kind, .array items)
  | _ => none

/-- A constraint, of which every member has to be a value that fits into `room` levels. -/
def Constraint.ofRecord? (room : Nat) (record : Syntax) : Option Constraint := do
  let _ ← record.value? room
  let (kind, rest) ← splitKind? record
  match kind with
  | "allowed_values" =>
    let fields ← fields? ["values", "description"] rest
    let values ← required? fields "values" (items? text?)
    let description ← required? fields "description" text?
    some (.allowedValues values description)
  | "range" =>
    let fields ← fields? ["min", "max", "description"] rest
    let min ← defaulted? fields "min" none (optional? float?)
    let max ← defaulted? fields "max" none (optional? float?)
    let description ← required? fields "description" text?
    some (.range min max description)
  | "length" =>
    let fields ← fields? ["min", "max", "description"] rest
    let bound := optional? fun v => (natural? (Nat.pow 2 64) v).map UInt64.ofNat
    let min ← defaulted? fields "min" none bound
    let max ← defaulted? fields "max" none bound
    let description ← required? fields "description" text?
    some (.length min max description)
  | "allowed_pattern" =>
    let fields ← fields? ["pattern", "description"] rest
    let pattern ← required? fields "pattern" text?
    let description ← required? fields "description" text?
    some (.allowedPattern pattern description)
  | "custom" =>
    let fields ← fields? ["name", "description"] rest
    let name ← required? fields "name" text?
    let description ← required? fields "description" text?
    some (.custom name description)
  | _ => none

def Parameter.ofRecord? (room : Nat) (record : Syntax) : Option Parameter := do
  let fields ← fields?
    ["name", "type", "label", "description", "default", "hidden", "constraints"] record
  let name ← required? fields "name" text?
  let type ← defaulted? fields "type" .string (word? ValueType.ofName?)
  let label ← defaulted? fields "label" none (optional? text?)
  let description ← defaulted? fields "description" none (optional? text?)
  let default ← defaulted? fields "default" none (optional? text?)
  let hidden ← defaulted? fields "hidden" false flag?
  let constraints ← defaulted? fields "constraints" [] (items? (Constraint.ofRecord? (room - 2)))
  some ⟨name, type, label, description, default, hidden, constraints⟩

def Parameter.ofText? (text : String) : Option Parameter :=
  (Syntax.parse? text).bind (Parameter.ofRecord? Syntax.nestingLimit)

def Output.ofRecord? (record : Syntax) : Option Output := do
  let fields ← fields? ["name", "description"] record
  let name ← required? fields "name" text?
  let description ← defaulted? fields "description" none (optional? text?)
  some ⟨name, description⟩

def Sections.ofRecord? (record : Syntax) : Option Sections := do
  let fields ← fields? ["parameters", "outputs", "tags"] record
  let parameters ← required? fields "parameters" flag?
  let outputs ← required? fields "outputs" flag?
  let tags ← required? fields "tags" flag?
  some ⟨parameters, outputs, tags⟩

def Bundle.ofRecord? (record : Syntax) : Option Bundle := do
  let fields ← fields? ["name", "version", "label", "sections", "parameters", "outputs",
    "tags", "source", "fingerprint"] record
  let name ← required? fields "name" text?
  let version ← defaulted? fields "version" "" text?
  let label ← defaulted? fields "label" "" text?
  let sections ← defaulted? fields "sections" .none Sections.ofRecord?
  let parameters ← defaulted? fields "parameters" {} (table? (Parameter.ofRecord? (Syntax.nestingLimit - 2)))
  let outputs ← defaulted? fields "outputs" {} (table? Output.ofRecord?)
  let tags ← defaulted? fields "tags" none (optional? text?)
  let source ← required? fields "source" text?
  let fingerprint ← required? fields "fingerprint" text?
  some ⟨name, version, label, sections, parameters, outputs, tags, source, fingerprint⟩

def Bundle.ofText? (text : String) : Option Bundle := (Syntax.parse? text).bind Bundle.ofRecord?

def Bundle.text (b : Bundle) : String := b.record.indented

end HeatStack.Template
