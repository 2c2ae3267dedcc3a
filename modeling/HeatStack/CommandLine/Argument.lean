import HeatStack.CommandLine.Usage
import HeatStack.Text.Ascii

/-! # Arguments of a command

A command has options, each with a long name and perhaps a letter, and may have one operand.  An
option takes a value or none.  A value stands in the same word as its option, after an equals sign
or right behind a letter, or it is the next word.  Letters may be run together.  After a lone `--`
every word is an operand.

The words are taken in order, and what is wrong with them is found in a certain order too.  A value
in a word of its own, and an operand, are looked at only when a further option or operand is taken
up, or at the end; a word that is no argument at all ends it before that. -/
set_option autoImplicit false
namespace HeatStack.CommandLine
open HeatStack.Text

/-! ## Values -/

inductive ValueKind
  | text
  /-- Any text but the empty one. -/
  | path
  /-- One of these words. -/
  | word (words : List String)
  /-- A number of at least one, in 64 bits. -/
  | positive
  /-- A number with a sign, in 64 bits. -/
  | integer
deriving DecidableEq

def digits? (cs : List Char) : Option Nat := if cs.isEmpty then none else numeral? 10 cs

/-- A number without a sign, or with a plus sign. -/
def natural? : List Char → Option Nat
  | '+' :: cs => digits? cs
  | cs => digits? cs

def integer? : List Char → Option Int
  | '-' :: cs => (digits? cs).map fun n => -n
  | cs => (natural? cs).map fun n => n

def positive? (s : String) : Option UInt64 :=
  ((natural? s.toList).filter fun n => 1 ≤ n && n < Nat.pow 2 64).map UInt64.ofNat

def signed? (s : String) : Option Int64 :=
  ((integer? s.toList).filter fun n => -(Nat.pow 2 63 : Int) ≤ n && n < (Nat.pow 2 63 : Int)).map Int64.ofInt

def ValueKind.check (kind : ValueKind) (value : String) : Except UsageError Unit :=
  match kind with
  | .text => .ok ()
  | .path => if value = "" then .error .invalidValue else .ok ()
  | .word words => if words.contains value then .ok () else .error .invalidValue
  | .positive => if (positive? value).isSome then .ok () else .error .invalidNumber
  | .integer => if (signed? value).isSome then .ok () else .error .invalidNumber

/-! ## Arguments -/

inductive Effect
  /-- Is there or not. -/
  | flag
  | value (kind : ValueKind)
  /-- Ends it with this answer. -/
  | stop (answer : UsageError)
deriving DecidableEq

structure Argument where
  name : String
  letter : Option Char
  effect : Effect
  required : Bool
  repeatable : Bool
deriving DecidableEq

namespace Argument

def flag (name : String) (letter : Option Char) : Argument := ⟨name, letter, .flag, false, false⟩

def optional (name : String) (letter : Option Char) (kind : ValueKind) : Argument :=
  ⟨name, letter, .value kind, false, false⟩

def mandatory (name : String) (letter : Option Char) (kind : ValueKind) : Argument :=
  ⟨name, letter, .value kind, true, false⟩

/-- An option that may be given any number of times. -/
def collected (name : String) (letter : Option Char) (kind : ValueKind) : Argument :=
  ⟨name, letter, .value kind, false, true⟩

def help : Argument := ⟨"help", some 'h', .stop .helpRequested, false, false⟩

end Argument

/-- The arguments of a command. -/
structure Form where
  options : List Argument
  operand : Option Argument
deriving DecidableEq

namespace Form

def named? (f : Form) (name : List Char) : Option Argument :=
  f.options.find? fun a => a.name.toList = name

def lettered? (f : Form) (c : Char) : Option Argument := f.options.find? fun a => a.letter = some c

end Form

/-! ## Taking arguments -/

/-- The names of the arguments that were given, each with its value; a flag has the empty one. -/
abbrev Given := List (String × String)

inductive Pending
  | nothing
  /-- An option whose value would be the next word. -/
  | valueless (a : Argument)
  | valued (a : Argument) (value : String)
deriving DecidableEq

structure Progress where
  given : Given
  pending : Pending
  /-- The operand has been taken. -/
  operandTaken : Bool
  /-- Only operands follow. -/
  operandsOnly : Bool
deriving DecidableEq

namespace Progress

def start : Progress := ⟨[], .nothing, false, false⟩

def add (p : Progress) (a : Argument) (value : String) : Except UsageError Progress :=
  if !a.repeatable && (p.given.lookup a.name).isSome then .error .repeatedArgument
  else
    let checked : Except UsageError Unit := match a.effect with
      | .flag => .ok ()
      | .value kind => kind.check value
      | .stop answer => .error answer
    checked.map fun _ => { p with given := p.given ++ [(a.name, value)] }

def settle (p : Progress) : Except UsageError Progress :=
  match p.pending with
  | .nothing => .ok p
  | .valueless _ => .error .invalidValue
  | .valued a value => { p with pending := .nothing }.add a value

def take (p : Progress) (a : Argument) (value : String) : Except UsageError Progress := do
  (← p.settle).add a value

def expect (p : Progress) (a : Argument) : Except UsageError Progress :=
  p.settle.map fun p => { p with pending := .valueless a }

def takeOperand (f : Form) (p : Progress) (word : String) : Except UsageError Progress :=
  match f.operand, p.operandTaken with
  | some a, false => p.settle.map fun p => { p with pending := .valued a word, operandTaken := true }
  | _, _ => .error .unknownArgument

def takeNamed (f : Form) (p : Progress) (word : List Char) : Except UsageError Progress :=
  let (name, value) := match splitOnce '=' word with
    | some (name, value) => (name, some (String.ofList value))
    | none => (word, none)
  match f.named? name with
  | none => .error .unknownArgument
  | some a =>
    match a.effect, value with
    | .value _, some value => p.take a value
    | .value _, none => p.expect a
    | _, some _ => .error .superfluousValue
    | _, none => p.take a ""

/-- What stands behind a letter, as a value; an equals sign in front of it does not count. -/
def attachedValue (cs : List Char) : String :=
  String.ofList (match cs with
    | '=' :: value => value
    | value => value)

/-- Options by their letters, of which the first that takes a value has the rest. -/
def takeLetters (f : Form) (p : Progress) : List Char → Except UsageError Progress
  | [] => .ok p
  | c :: rest =>
    match f.lettered? c with
    | none => .error .unknownArgument
    | some a =>
      match a.effect, rest with
      | .value _, [] => p.expect a
      | .value _, rest => p.take a (attachedValue rest)
      | _, rest => do (← p.take a "").takeLetters f rest

def takeWord (f : Form) (p : Progress) (word : String) : Except UsageError Progress :=
  if p.operandsOnly then p.takeOperand f word
  else match word.toList with
    | ['-', '-'] => .ok { p with operandsOnly := true }
    | '-' :: '-' :: rest => p.takeNamed f rest
    | '-' :: c :: rest => p.takeLetters f (c :: rest)
    | _ =>
      match p.pending with
      | .valueless a => .ok { p with pending := .valued a word }
      | _ => p.takeOperand f word

end Progress

/-- What a list of words gives; every argument that is required has to be there. -/
def Form.read (f : Form) (words : List String) : Except UsageError Given := do
  let p ← words.foldlM (fun p word => p.takeWord f word) Progress.start
  let p ← p.settle
  let missing := f.options.any fun a => a.required && (p.given.lookup a.name).isNone
  if missing then .error .missingArgument else .ok p.given

end HeatStack.CommandLine
