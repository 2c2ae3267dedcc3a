import HeatStack.Yaml.Value

/-! # Reading values of a known kind

Each reading sets tags of one's own aside and gives nothing where the value is of another kind. -/
set_option autoImplicit false
namespace HeatStack.Yaml.Value
open HeatStack.Number

def text? (v : Value) : Option String :=
  match v.untagged with
  | .string s => some s
  | _ => none

def flag? (v : Value) : Option Bool :=
  match v.untagged with
  | .bool b => some b
  | _ => none

def float? (v : Value) : Option Binary64 :=
  match v.untagged with
  | .number n => some n.toBinary64
  | _ => none

/-- An integer that is not negative. -/
def word? (v : Value) : Option UInt64 :=
  match v.untagged with
  | .number n => n.toNat?.map UInt64.ofNat
  | _ => none

/-- A sequence; null has no items. -/
def items? (v : Value) : Option (List Value) :=
  match v.untagged with
  | .sequence items => some items
  | .null => some []
  | _ => none

/-- A mapping whose keys are all texts; null has no entries. -/
def named? (v : Value) : Option (List (String × Value)) :=
  match v.untagged with
  | .mapping entries => entries.mapM fun (k, v) => k.text?.map fun k => (k, v)
  | .null => some []
  | _ => none

/-- A mapping of which only the given names count; none of these may occur twice. -/
def fields? (names : List String) (v : Value) : Option (List (String × Value)) := do
  let known := (← v.named?).filter fun e => names.contains e.1
  if (known.map Prod.fst).Nodup then some known else none

def optional? {α : Type} (fields : List (String × Value)) (name : String) (read : Value → Option α) :
    Option (Option α) :=
  match fields.lookup name with
  | none => some none
  | some .null => some none
  | some v => (read v).map some

end HeatStack.Yaml.Value
