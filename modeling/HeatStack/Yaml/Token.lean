import HeatStack.Text.Ascii

/-! # YAML tokens

The tokens that a YAML text is made of, the character classes that separate them, and a cursor
that knows its place in the text.  Columns and distances are counted in characters. -/
set_option autoImplicit false
namespace HeatStack.Yaml
open HeatStack.Text

inductive Token
  | versionDirective (major minor : Nat)
  | tagDirective (handle start : String)
  | documentStart
  | documentEnd
  | blockSequenceStart
  | blockMappingStart
  | blockEnd
  | flowSequenceStart
  | flowSequenceEnd
  | flowMappingStart
  | flowMappingEnd
  | blockEntry
  | flowEntry
  | key
  | value
  | alias (name : String)
  | anchor (name : String)
  | tag (handle suffix : String)
  | scalar (plain : Bool) (text : String)
deriving DecidableEq

def isAdmitted (c : Char) : Bool :=
  let n := c.toNat
  n == 9 || n == 10 || n == 13 || (0x20 ≤ n && n ≤ 0x7E) || n == 0x85
    || (0xA0 ≤ n && n ≤ 0xD7FF) || (0xE000 ≤ n && n ≤ 0xFFFD) || 0x10000 ≤ n

def isSpace (c : Char) : Bool := c == ' ' || c == '\t'

/-- Ends a line: line feed, carriage return, next line, and the two Unicode separators. -/
def isBreak (c : Char) : Bool :=
  c == '\n' || c == '\r' || c == '\u0085' || c == '\u2028' || c == '\u2029'

def isSpaceOrBreak (c : Char) : Bool := isSpace c || isBreak c

def isNameChar (c : Char) : Bool := isLetter c || isDigit c || c == '_' || c == '-'

/-- The rest of the text begins with a blank or a break, or is empty. -/
def atGap : List Char → Bool
  | [] => true
  | c :: _ => isSpaceOrBreak c

def atBreak : List Char → Bool
  | [] => true
  | c :: _ => isBreak c

/-- Three dashes or dots that stand alone, as they do between documents. -/
def atDocumentMark : List Char → Bool
  | '-' :: '-' :: '-' :: r => atGap r
  | '.' :: '.' :: '.' :: r => atGap r
  | _ => false

structure Cursor where
  rest : List Char
  index : Nat
  line : Nat
  column : Nat

namespace Cursor

def start (cs : List Char) : Cursor := ⟨cs, 0, 0, 0⟩

def skip (c : Cursor) : Cursor := ⟨c.rest.tail, c.index + 1, c.line, c.column + 1⟩

def skipMany (c : Cursor) (n : Nat) : Cursor := ⟨c.rest.drop n, c.index + n, c.line, c.column + n⟩

/-- Passes a line break; a carriage return takes a line feed after it along. -/
def skipBreak (c : Cursor) : Cursor :=
  match c.rest with
  | '\r' :: '\n' :: r => ⟨r, c.index + 2, c.line + 1, 0⟩
  | b :: r => if isBreak b then ⟨r, c.index + 1, c.line + 1, 0⟩ else c
  | [] => c

/-- What a line break stands for in a scalar: a line feed, or the Unicode separator itself. -/
def breakText (c : Cursor) : List Char :=
  match c.rest with
  | [] => []
  | b :: _ =>
    if b = '\u2028' ∨ b = '\u2029' then [b] else if isBreak b then ['\n'] else []

def skipWhile (c : Cursor) (p : Char → Bool) : Cursor :=
  c.skipMany (c.rest.takeWhile p).length

def skipLine (c : Cursor) : Cursor := c.skipWhile (fun ch => !isBreak ch)

end Cursor
end HeatStack.Yaml
