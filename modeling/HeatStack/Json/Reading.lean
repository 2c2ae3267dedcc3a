import HeatStack.Json.Syntax
import HeatStack.Table

/-! # Reading records from JSON

A record is an object, or an array that lists the values of the fields in their order.  An object
may hold other members, of which only the grammar is looked at, but no field twice.  Every reading
gives nothing where the text is of another form. -/
set_option autoImplicit false
namespace HeatStack.Json.Reading
open HeatStack.Number

/-- The fields that are there.  An array may stop early but not be too long. -/
def fields? (names : List String) : Syntax → Option (List (String × Syntax))
  | .object members => do
    let members ← members.mapM fun (k, v) => k.map fun k => (k, v)
    let known := members.filter fun e => names.contains e.1
    if (known.map Prod.fst).Nodup then some known else none
  | .array items => if items.length ≤ names.length then some (names.zip items) else none
  | _ => none

def text? : Syntax → Option String
  | .string s => s
  | _ => none

def flag? : Syntax → Option Bool
  | .bool b => some b
  | _ => none

def float? : Syntax → Option Binary64
  | .number n => n.value?.map Numeric.toBinary64
  | _ => none

def natural? (limit : Nat) : Syntax → Option Nat
  | .number n => (n.value?.bind Numeric.toNat?).filter (· < limit)
  | _ => none

def optional? {α : Type} (read : Syntax → Option α) : Syntax → Option (Option α)
  | .null => some none
  | v => (read v).map some

def items? {α : Type} (read : Syntax → Option α) : Syntax → Option (List α)
  | .array items => items.mapM read
  | _ => none

/-- An object as a table; of several members with one name the last stays, but all are read. -/
def table? {α : Type} (read : Syntax → Option α) : Syntax → Option (Table α)
  | .object members => do
    let entries ← members.mapM fun (k, v) => do
      let k ← k
      let v ← read v
      some (k, v)
    some (Table.ofList entries)
  | _ => none

def required? {α : Type} (fields : List (String × Syntax)) (name : String)
    (read : Syntax → Option α) : Option α :=
  (fields.lookup name).bind read

def defaulted? {α : Type} (fields : List (String × Syntax)) (name : String) (default : α)
    (read : Syntax → Option α) : Option α :=
  match fields.lookup name with
  | none => some default
  | some v => read v

/-- One of several words: the text itself, or an object whose only member is the word with null. -/
def word? {α : Type} (ofName? : String → Option α) : Syntax → Option α
  | .string s => s.bind ofName?
  | .object [(some name, .null)] => ofName? name
  | _ => none

end HeatStack.Json.Reading
