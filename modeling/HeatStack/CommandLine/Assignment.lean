import HeatStack.Table
import HeatStack.Text.Ascii
import HeatStack.Text.Blank

/-! # Assignments

A text `name=value` assigns a value to a parameter.  The name is what stands before the first
equals sign, without blanks around it; the value is everything after that sign, untouched. -/
set_option autoImplicit false
namespace HeatStack.CommandLine
open HeatStack.Text

inductive AssignmentError
  | noEquals (text : String)
  | noName (text : String)
deriving DecidableEq

def AssignmentError.message : AssignmentError → String
  | .noEquals text => "expected name=value, got '" ++ text ++ "'"
  | .noName text => "missing parameter name in '" ++ text ++ "'"

def parseAssignment (text : String) : Except AssignmentError (String × String) :=
  match splitOnce '=' text.toList with
  | none => .error (.noEquals text)
  | some (name, value) =>
    let name := trimChars name
    if name.isEmpty then .error (.noName text)
    else .ok (String.ofList name, String.ofList value)

/-- The assignments in their order; the first faulty one is reported. -/
def parsePairs : List String → Except AssignmentError (List (String × String))
  | [] => .ok []
  | text :: rest =>
    match parseAssignment text with
    | .error e => .error e
    | .ok pair => (parsePairs rest).map (pair :: ·)

/-- Later assignments win. -/
def parseAssignments (texts : List String) : Except AssignmentError (Table String) :=
  (parsePairs texts).map Table.ofList

end HeatStack.CommandLine
