import HeatStack.Json.Syntax
import HeatStack.Text.Blank

/-! # Types of parameter values

A value is always given as text; its type says which texts are admitted and how a text is
measured. -/
set_option autoImplicit false
namespace HeatStack.Template
open HeatStack.Number HeatStack.Text

inductive ValueType
  | string
  | number
  | boolean
  | commaDelimitedList
  | json
deriving DecidableEq

namespace ValueType

def name : ValueType → String
  | .string => "string"
  | .number => "number"
  | .boolean => "boolean"
  | .commaDelimitedList => "comma_delimited_list"
  | .json => "json"

def all : List ValueType := [.string, .number, .boolean, .commaDelimitedList, .json]

def ofName? (s : String) : Option ValueType := all.find? (·.name = s)

/-- The type that a template declares, in any case and with blanks around it.  A type that is
absent or unknown is a string. -/
def declared (s : Option String) : ValueType :=
  (s.bind fun s => ofName? (lower (trim s))).getD .string

end ValueType

/-- The finite number that a text denotes, blanks around it aside. -/
def numberOf? (value : String) : Option Binary64 :=
  (Binary64.parse? (trimChars value.toList)).filter Binary64.isFinite

/-- The items of a list: what stands between commas, without the blanks around it, if anything
is left. -/
def listItems (value : String) : List String :=
  (((splitOn ',' value.toList).map trimChars).filter fun cs => !cs.isEmpty).map String.ofList

def booleanWords : List String :=
  ["true", "false", "t", "f", "yes", "no", "y", "n", "on", "off", "1", "0"]

namespace ValueType

def accepts : ValueType → String → Bool
  | .string, _ => true
  | .commaDelimitedList, _ => true
  | .number, value => (numberOf? value).isSome
  | .boolean, value => booleanWords.contains (lower (trim value))
  | .json, value => (Json.Value.parse? value).isSome

/-- Booleans and JSON have neither size nor length. -/
def isMeasurable : ValueType → Bool
  | .boolean => false
  | .json => false
  | _ => true

end ValueType
end HeatStack.Template
