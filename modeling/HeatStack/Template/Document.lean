import HeatStack.Template.Bundle
import HeatStack.Yaml.Printer
import HeatStack.Yaml.Reading
import HeatStack.Yaml.Text

/-! # Template documents

The document of a template is a mapping with the sections `parameters`, `outputs` and `tags`; every
other section is passed over.  A document that cannot be read is refused.  The entries of a section
are read one by one, and one that is malformed keeps its name and loses the rest. -/
set_option autoImplicit false
namespace HeatStack.Template
open HeatStack.Text

structure Document where
  parameters : Option (List (String × Yaml.Value))
  outputs : Option (List (String × Yaml.Value))
  tags : Option Yaml.Value

inductive DocumentFault
  /-- Not YAML, or a section that is no mapping of names. -/
  | malformed
  /-- YAML, but neither a mapping nor nothing. -/
  | noMapping
deriving DecidableEq

namespace Document

def empty : Document := ⟨none, none, none⟩

/-- The sections of a mapping: each key has to be a text, and each section occurs once. -/
def ofMapping? (v : Yaml.Value) : Option Document := do
  let fields ← v.fields? ["parameters", "outputs", "tags"]
  let parameters ← Yaml.Value.optional? fields "parameters" Yaml.Value.named?
  let outputs ← Yaml.Value.optional? fields "outputs" Yaml.Value.named?
  let tags ← Yaml.Value.optional? fields "tags" some
  some ⟨parameters, outputs, tags⟩

def ofText (source : String) : Except DocumentFault Document :=
  match Yaml.Value.parse? source with
  | none => .error .malformed
  | some .null => .ok empty
  | some (.mapping entries) =>
    match ofMapping? (.mapping entries) with
    | some d => .ok d
    | none => .error .malformed
  | some _ => .error .noMapping

end Document

/-! ## Entries -/

/-- The text of a default: the items of a list separated by commas, any other collection as JSON
if it has that form, a scalar as it stands. -/
def defaultText? (type : ValueType) (v : Yaml.Value) : Option String :=
  match v with
  | .null => none
  | .sequence items =>
    if type = .commaDelimitedList then some (String.intercalate "," (items.map Yaml.Value.text))
    else v.jsonText?
  | .mapping _ => v.jsonText?
  | v => some v.text

def Parameter.ofEntry? (name : String) (v : Yaml.Value) : Option Parameter := do
  let fields ← v.fields? ["type", "label", "description", "default", "hidden", "constraints"]
  let type ← Yaml.Value.optional? fields "type" Yaml.Value.text?
  let label ← Yaml.Value.optional? fields "label" Yaml.Value.text?
  let description ← Yaml.Value.optional? fields "description" Yaml.Value.text?
  let default ← Yaml.Value.optional? fields "default" some
  let hidden ← Yaml.Value.optional? fields "hidden" Yaml.Value.flag?
  let clauses ← Yaml.Value.optional? fields "constraints" Yaml.Value.items?
  let type := ValueType.declared type
  some {
    name := name
    type := type
    label := label
    description := description
    default := default.bind (defaultText? type)
    hidden := hidden.getD false
    constraints := Constraint.ofValues (clauses.getD []) }

/-- A malformed entry leaves a bare text parameter. -/
def Parameter.ofEntry (name : String) (v : Yaml.Value) : Parameter :=
  (Parameter.ofEntry? name v).getD (.bare name .string)

/-- A malformed entry leaves an output without description. -/
def Output.ofEntry (name : String) (v : Yaml.Value) : Output :=
  let description : Option (Option String) := do
    let fields ← v.fields? ["description"]
    Yaml.Value.optional? fields "description" Yaml.Value.text?
  ⟨name, description.join⟩

/-- Tags are not looked into: a text stands for itself, everything else is written as YAML. -/
def tagText? : Yaml.Value → Option String
  | .null => none
  | .string s => some s
  | v => v.print?.map fun s => String.ofList (trimRight s.toList)

/-! ## Compilation -/

def entryTable {α : Type} (read : String → Yaml.Value → α) (entries : List (String × Yaml.Value)) :
    Table α :=
  Table.ofList (entries.map fun e => (e.1, read e.1 e.2))

def Document.bundle (d : Document) (name source : String) : Bundle :=
  let tags := d.tags.bind tagText?
  { Bundle.empty name source with
    sections := ⟨d.parameters.isSome, d.outputs.isSome, tags.isSome⟩
    parameters := entryTable Parameter.ofEntry (d.parameters.getD [])
    outputs := entryTable Output.ofEntry (d.outputs.getD [])
    tags := tags }

inductive CompileError
  | unreadable (path reason : String)
  | invalid (template : String) (fault : DocumentFault)
deriving DecidableEq

def CompileError.message : CompileError → String
  | .unreadable path reason => "cannot read template " ++ path ++ ": " ++ reason
  | .invalid template .malformed => "template '" ++ template ++ "' is not a valid HOT document"
  | .invalid template .noMapping =>
    "template '" ++ template ++ "' is not a valid HOT document: top level must be a mapping"

/-- A text that mentions no section is not read at all. -/
def compile (name source : String) : Except CompileError Bundle :=
  if !(Sections.mentioned source).any then .ok (.empty name source)
  else match Document.ofText source with
    | .ok d => .ok (d.bundle name source)
    | .error fault => .error (.invalid name fault)

end HeatStack.Template
