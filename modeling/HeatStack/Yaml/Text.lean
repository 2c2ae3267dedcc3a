import HeatStack.Json.Value
import HeatStack.Text.Quoted
import HeatStack.Yaml.Printer

/-! # Values as one text

A scalar is its own text, and null is no text.  A collection is written as JSON, or, where a key
has no JSON form, as an outline of the value. -/
set_option autoImplicit false
namespace HeatStack.Yaml
open HeatStack.Number HeatStack.Text

def boolText (b : Bool) : String := if b then "true" else "false"

namespace Value

/-- The JSON name of a key: texts, booleans and numbers have one, except those that are not
finite. -/
def keyName? : Value → Option String
  | .string s => some s
  | .bool b => some (boolText b)
  | .number (.integer n) => some (toString n)
  | .number (.binary x) => if x.isFinite then some (Json.numberStyle.text x) else none
  | _ => none

mutual
/-- The JSON form.  A tag becomes an object with one member. -/
def toJson? : Value → Option Json.Value
  | .null => some .null
  | .bool b => some (.bool b)
  | .number n => some (.number n)
  | .string s => some (.string s)
  | .sequence items => (jsonItems? items).map .array
  | .mapping entries => (jsonMembers? entries).map .object
  | .tagged t v => (toJson? v).map fun j => .object [("!" ++ t, j)]

def jsonItems? : List Value → Option (List Json.Value)
  | [] => some []
  | v :: rest => do
    let j ← toJson? v
    let js ← jsonItems? rest
    some (j :: js)

def jsonMembers? : List (Value × Value) → Option (List (String × Json.Value))
  | [] => some []
  | (k, v) :: rest => do
    let k ← keyName? k
    let j ← toJson? v
    let js ← jsonMembers? rest
    some ((k, j) :: js)
end

def jsonText? (v : Value) : Option String := v.toJson?.map Json.Value.compact

mutual
/-- An outline names the kind of every value; keys that are scalars stand without theirs. -/
def outline : Value → String
  | .null => "Null"
  | .bool b => "Bool(" ++ boolText b ++ ")"
  | .number n => "Number(" ++ numberStyle.numericText n ++ ")"
  | .string s => "String(" ++ quoted s ++ ")"
  | .sequence items => "Sequence [" ++ outlineItems items ++ "]"
  | .mapping entries => "Mapping \x7b" ++ outlineEntries entries ++ "\x7d"
  | .tagged t v => "TaggedValue \x7b tag: !" ++ t ++ ", value: " ++ outline v ++ " \x7d"

def outlineItems : List Value → String
  | [] => ""
  | [v] => outline v
  | v :: rest => outline v ++ ", " ++ outlineItems rest

def outlineKey : Value → String
  | .bool b => boolText b
  | .number n => numberStyle.numericText n
  | .string s => quoted s
  | v => outline v

def outlineEntries : List (Value × Value) → String
  | [] => ""
  | [(k, v)] => outlineKey k ++ ": " ++ outline v
  | (k, v) :: rest => outlineKey k ++ ": " ++ outline v ++ ", " ++ outlineEntries rest
end

/-- The text of a value, its own tags set aside. -/
def text : Value → String
  | .string s => s
  | .number n => numberStyle.numericText n
  | .bool b => boolText b
  | .null => ""
  | .tagged _ v => v.text
  | v => v.jsonText?.getD v.outline

end Value
end HeatStack.Yaml
