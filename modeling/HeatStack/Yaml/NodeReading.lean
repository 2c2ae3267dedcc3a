import HeatStack.Table
import HeatStack.Yaml.Value

/-! # Reading nodes of a known kind

Where it is known what a node has to be, a scalar is its text whatever it looks like, and a plain
scalar without a text stands for an empty collection. -/
set_option autoImplicit false
namespace HeatStack.Yaml.Document
open HeatStack.Yaml

variable (d : Document)

def text (n : Node Nat) : Budget String := do
  match ← d.follow n with
  | .scalar _ _ s => return s
  | _ => failure

def nullTag : String := "tag:yaml.org,2002:null"

/-- A text, or nothing where the scalar is plain and empty or a word for null.  A tag makes it a
text, except that the tag for null asks for one of those words. -/
def optionalText (n : Node Nat) : Budget (Option String) := do
  match ← d.follow n with
  | .scalar m plain s =>
    if !plain then return some s
    else match m.tag with
      | some tag =>
        if tag ≠ nullTag then return some s
        else if Scalar.isNullWord s then return none
        else failure
      | none => if s = "" || Scalar.isNullWord s then return none else return some s
  | _ => failure

def items (n : Node Nat) : Budget (List (Node Nat)) := do
  match ← d.follow n with
  | .sequence _ items => return items
  | n => if isEmptyPlain n then return [] else failure

def entries (n : Node Nat) : Budget (List (String × Node Nat)) := do
  match ← d.follow n with
  | .mapping _ entries => entries.mapM fun (k, v) => return (← d.text k, v)
  | n => if isEmptyPlain n then return [] else failure

/-- A mapping of texts to texts; of several entries with one key the last stays. -/
def textTable (n : Node Nat) : Budget (Table String) := do
  let entries ← (← d.entries n).mapM fun (k, v) => return (k, ← d.text v)
  return Table.ofList entries

/-- The entries of a mapping that has the given keys only, each at most once. -/
def fields (names : List String) (n : Node Nat) : Budget (List (String × Node Nat)) := do
  let entries ← d.entries n
  let keys := entries.map Prod.fst
  if keys.all names.contains ∧ keys.Nodup then return entries else failure

def defaulted {α : Type} (fields : List (String × Node Nat)) (name : String) (default : α)
    (read : Node Nat → Budget α) : Budget α :=
  match fields.lookup name with
  | none => return default
  | some n => read n

end HeatStack.Yaml.Document
