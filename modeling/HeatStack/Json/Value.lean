import HeatStack.Number.Numeric

/-! # JSON values and their text

An object keeps its members in the order in which they are written.  The compact text has no
blanks; the indented text puts every item and member on a line of its own, two blanks deeper
than the bracket that holds it, and leaves an empty array or object on one line. -/
set_option autoImplicit false
namespace HeatStack.Json
open HeatStack.Number HeatStack.Text

inductive Value
  | null
  | bool (b : Bool)
  | number (n : Numeric)
  | string (s : String)
  | array (items : List Value)
  | object (members : List (String × Value))

namespace Value

def nat (n : Nat) : Value := .number (.integer n)

def textOrNull (s : Option String) : Value := (s.map .string).getD .null

def strings (items : List String) : Value := .array (items.map .string)

/-- The value of a member, of several with one name the first. -/
def get? (name : String) : Value → Option Value
  | .object members => members.lookup name
  | _ => none

end Value

/-- Characters that a text must not hold as they are: the quote, the backslash and the control
characters below the blank. -/
def escapeChar (c : Char) : List Char :=
  if c = '"' then ['\\', '"']
  else if c = '\\' then ['\\', '\\']
  else if c = '\n' then ['\\', 'n']
  else if c = '\r' then ['\\', 'r']
  else if c = '\t' then ['\\', 't']
  else if c = '\x08' then ['\\', 'b']
  else if c = '\x0c' then ['\\', 'f']
  else if c.toNat < 32 then '\\' :: 'u' :: hexPadded 4 c.toNat
  else [c]

def quoted (s : String) : List Char := '"' :: s.toList.flatMap escapeChar ++ ['"']

/-- Sixteen digits before the point are written out, and five zeros after it. -/
def numberStyle : NumberStyle where
  positional e := -5 ≤ e && e ≤ 15
  pointZero := true
  plusSign := true
  tie := .toEven
  infinity := "null"
  negativeInfinity := "null"
  notANumber := "null"

mutual
def Value.compactChars : Value → List Char
  | .null => "null".toList
  | .bool true => "true".toList
  | .bool false => "false".toList
  | .number n => (numberStyle.numericText n).toList
  | .string s => quoted s
  | .array items => '[' :: compactItems items ++ [']']
  | .object members => '\x7b' :: compactMembers members ++ ['\x7d']

def compactItems : List Value → List Char
  | [] => []
  | [v] => v.compactChars
  | v :: rest => v.compactChars ++ ',' :: compactItems rest

def compactMembers : List (String × Value) → List Char
  | [] => []
  | [(k, v)] => quoted k ++ ':' :: v.compactChars
  | (k, v) :: rest => quoted k ++ ':' :: v.compactChars ++ ',' :: compactMembers rest
end

def newline (depth : Nat) : List Char := '\n' :: List.replicate (2 * depth) ' '

mutual
def Value.indentedChars (depth : Nat) : Value → List Char
  | .array [] => ['[', ']']
  | .object [] => ['\x7b', '\x7d']
  | .array (v :: rest) =>
    '[' :: newline (depth + 1) ++ v.indentedChars (depth + 1) ++ indentedItems (depth + 1) rest
      ++ newline depth ++ [']']
  | .object ((k, v) :: rest) =>
    '\x7b' :: newline (depth + 1) ++ quoted k ++ ':' :: ' ' :: v.indentedChars (depth + 1)
      ++ indentedMembers (depth + 1) rest ++ newline depth ++ ['\x7d']
  | .null => "null".toList
  | .bool true => "true".toList
  | .bool false => "false".toList
  | .number n => (numberStyle.numericText n).toList
  | .string s => quoted s

def indentedItems (depth : Nat) : List Value → List Char
  | [] => []
  | v :: rest => ',' :: newline depth ++ v.indentedChars depth ++ indentedItems depth rest

def indentedMembers (depth : Nat) : List (String × Value) → List Char
  | [] => []
  | (k, v) :: rest =>
    ',' :: newline depth ++ quoted k ++ ':' :: ' ' :: v.indentedChars depth
      ++ indentedMembers depth rest
end

def Value.compact (v : Value) : String := String.ofList v.compactChars

def Value.indented (v : Value) : String := String.ofList (v.indentedChars 0)

end HeatStack.Json
