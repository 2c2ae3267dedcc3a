import HeatStack.Number.Decimal
import HeatStack.Text.Ascii
import HeatStack.Time.Instant
import HeatStack.Toml.Value

/-! # TOML strings, numbers and times

Each reading gives what it read and the rest of the text. -/
set_option autoImplicit false
namespace HeatStack.Toml
open HeatStack.Text

/-- Characters of comments and of texts between single quotes: no control character but the tab. -/
def isTextChar (c : Char) : Bool := c == '\t' || (32 ≤ c.toNat && c.toNat != 127)

def isSpace (c : Char) : Bool := c == ' ' || c == '\t'

def skipSpaces (cs : List Char) : List Char := cs.dropWhile isSpace

def newline? : List Char → Option (List Char)
  | '\n' :: r => some r
  | '\r' :: '\n' :: r => some r
  | _ => none

/-! ## Strings -/

def codePoint? (width : Nat) (cs : List Char) : Option (Char × List Char) := do
  let ds := cs.take width
  let n ← numeral? 16 ds
  if ds.length = width ∧ n.isValidChar then some (Char.ofNat n, cs.drop width) else none

def escape? : List Char → Option (Char × List Char)
  | 'b' :: r => some ('\x08', r)
  | 'f' :: r => some ('\x0c', r)
  | 'n' :: r => some ('\n', r)
  | 'r' :: r => some ('\r', r)
  | 't' :: r => some ('\t', r)
  | '"' :: r => some ('"', r)
  | '\\' :: r => some ('\\', r)
  | 'u' :: r => codePoint? 4 r
  | 'U' :: r => codePoint? 8 r
  | _ => none

def basic? : (fuel : Nat) → List Char → Option (List Char × List Char)
  | 0, _ => none
  | fuel + 1, cs =>
    match cs with
    | '"' :: r => some ([], r)
    | '\\' :: r => do
      let (c, r) ← escape? r
      let (s, r) ← basic? fuel r
      some (c :: s, r)
    | c :: r =>
      if isTextChar c then (basic? fuel r).map fun (s, r) => (c :: s, r) else none
    | [] => none

def literal? (cs : List Char) : Option (List Char × List Char) :=
  let s := cs.takeWhile fun c => isTextChar c && c != '\''
  match cs.drop s.length with
  | '\'' :: r => some (s, r)
  | _ => none

/-- The quotes at the end of a text on several lines: three close it, and up to two more before
them belong to it. -/
def closing? (quote : Char) (cs : List Char) : Option (List Char × List Char) :=
  let n := (cs.takeWhile (· == quote)).length
  if n < 3 then none
  else
    let kept := min (n - 3) 2
    some (List.replicate kept quote, cs.drop (kept + 3))

/-- The text after a backslash at the end of a line, without blanks and line breaks in front. -/
def continuation? (cs : List Char) : Option (List Char) :=
  let rec skip : List Char → List Char
    | '\r' :: '\n' :: r => skip r
    | '\n' :: r => skip r
    | c :: r => if isSpace c then skip r else c :: r
    | [] => []
  (newline? (skipSpaces cs)).map skip

/-- A text on several lines up to its quotes; line breaks become line feeds. -/
def multiline? (quote : Char) (escapes : Bool) : (fuel : Nat) → List Char → Option (List Char × List Char)
  | 0, _ => none
  | fuel + 1, cs =>
    match closing? quote cs with
    | some found => some found
    | none =>
      match newline? cs with
      | some r => (multiline? quote escapes fuel r).map fun (s, r) => ('\n' :: s, r)
      | none =>
        match cs with
        | '\\' :: r =>
          if escapes then
            match continuation? r with
            | some r => multiline? quote escapes fuel r
            | none => do
              let (c, r) ← escape? r
              let (s, r) ← multiline? quote escapes fuel r
              some (c :: s, r)
          else (multiline? quote escapes fuel r).map fun (s, r) => ('\\' :: s, r)
        | c :: r =>
          if isTextChar c then (multiline? quote escapes fuel r).map fun (s, r) => (c :: s, r)
          else none
        | [] => none

/-- A line break right after the quotes that open a text does not count. -/
def afterOpening (cs : List Char) : List Char := (newline? cs).getD cs

def string? (cs : List Char) : Option (String × List Char) :=
  let fuel := cs.length + 1
  let read : Option (List Char × List Char) := match cs with
    | '"' :: '"' :: '"' :: r => multiline? '"' true fuel (afterOpening r)
    | '\'' :: '\'' :: '\'' :: r => multiline? '\'' false fuel (afterOpening r)
    | '"' :: r => basic? fuel r
    | '\'' :: r => literal? r
    | _ => none
  read.map fun (s, r) => (String.ofList s, r)

/-! ## Numbers -/

/-- Digits with single underscores between them. -/
def digits? (isDigit : Char → Bool) : List Char → Option (List Char × List Char)
  | [] => none
  | c :: r =>
    if isDigit c then
      let rec more : List Char → Option (List Char × List Char)
        | '_' :: c :: r => if isDigit c then (more r).map fun (ds, r) => (c :: ds, r) else none
        | ['_'] => none
        | c :: r =>
          if isDigit c then (more r).map fun (ds, r) => (c :: ds, r) else some ([], c :: r)
        | [] => some ([], [])
      (more r).map fun (ds, r) => (c :: ds, r)
    else none

def sign : List Char → Bool × List Char
  | '-' :: r => (true, r)
  | '+' :: r => (false, r)
  | r => (false, r)

/-- The decimal digits of an integer: a zero stands alone. -/
def whole? (cs : List Char) : Option (List Char × List Char) :=
  match cs with
  | '0' :: r => some (['0'], r)
  | r => digits? isDigit r

/-- Integers have 64 bits with their sign. -/
def fits (n : Int) : Bool := -(Nat.pow 2 63 : Int) ≤ n && n < (Nat.pow 2 63 : Int)

def based? (base : Nat) (isDigit : Char → Bool) (cs : List Char) : Option (Value × List Char) := do
  let (ds, r) ← digits? isDigit cs
  let n ← numeral? base ds
  if fits n then some (.integer n, r) else none

def exponent? : List Char → Option (Option (Bool × List Char) × List Char)
  | c :: r =>
    if c = 'e' ∨ c = 'E' then do
      let (below, r) := sign r
      let (ds, r) ← digits? isDigit r
      some (some (below, ds), r)
    else some (none, c :: r)
  | [] => some (none, [])

/-- A number with a fraction or an exponent may not be positive infinity. -/
def isBounded (negative : Bool) (wholePart places : List Char) (exponent : Option (Bool × List Char)) :
    Bool :=
  let power := match exponent with
    | some (below, ds) => (if below then '-' else '+') :: ds
    | none => ['0']
  match Number.Binary64.parse? (wholePart ++ '.' :: places ++ '0' :: 'e' :: power) with
  | some x => negative || !x.isInfinite
  | none => false

def decimalNumber? (cs : List Char) : Option (Value × List Char) := do
  let (negative, r) := sign cs
  let (ds, r) ← whole? r
  let (places, r) ← match r with
    | '.' :: r => (digits? isDigit r).map fun (ps, r) => (ps, r)
    | r => some ([], r)
  let (exponent, r) ← exponent? r
  if places.isEmpty && exponent.isNone then
    let n : Int := if negative then -(decimal ds : Int) else decimal ds
    if fits n then some (.integer n, r) else none
  else if isBounded negative ds places exponent then some (.float, r)
  else none

def specialNumber? (cs : List Char) : Option (Value × List Char) :=
  match (sign cs).2 with
  | 'i' :: 'n' :: 'f' :: r => some (.float, r)
  | 'n' :: 'a' :: 'n' :: r => some (.float, r)
  | _ => none

def number? (cs : List Char) : Option (Value × List Char) :=
  match cs with
  | '0' :: 'x' :: r => based? 16 isHex r
  | '0' :: 'o' :: r => based? 8 (fun c => '0' ≤ c && c ≤ '7') r
  | '0' :: 'b' :: r => based? 2 (fun c => c == '0' || c == '1') r
  | r => (specialNumber? r).or (decimalNumber? r)

/-! ## Times -/

def fixed? (width : Nat) (cs : List Char) : Option (Nat × List Char) :=
  let ds := cs.take width
  if ds.length = width ∧ ds.all isDigit then some (decimal ds, cs.drop width) else none

def marked? (mark : Char) (width : Nat) : List Char → Option (Nat × List Char)
  | c :: r => if c = mark then fixed? width r else none
  | [] => none

def date? (cs : List Char) : Option (List Char) := do
  let (year, r) ← fixed? 4 cs
  let (month, r) ← marked? '-' 2 r
  let (day, r) ← marked? '-' 2 r
  if Time.Date.isValid ⟨year, month, day⟩ then some r else none

def time? (cs : List Char) : Option (List Char) := do
  let (hour, r) ← fixed? 2 cs
  let (minute, r) ← marked? ':' 2 r
  let (second, r) ← marked? ':' 2 r
  if hour < 24 ∧ minute < 60 ∧ second ≤ 60 then
    match r with
    | '.' :: c :: r => if isDigit c then some (r.dropWhile isDigit) else none
    | r => some r
  else none

def offset (cs : List Char) : Option (List Char) :=
  let signed (r : List Char) : Option (List Char) := do
    let (hour, r) ← fixed? 2 r
    let (minute, r) ← marked? ':' 2 r
    if hour < 24 ∧ minute < 60 then some r else none
  match cs with
  | 'Z' :: r => some r
  | 'z' :: r => some r
  | '+' :: r => signed r
  | '-' :: r => signed r
  | r => some r

/-- A date, a time, or both with an offset. -/
def datetime? (cs : List Char) : Option (List Char) :=
  match date? cs with
  | some r =>
    match r with
    | c :: after =>
      if c = 'T' ∨ c = 't' ∨ c = ' ' then
        match time? after with
        | some r => offset r
        | none => if c = ' ' then some (c :: after) else none
      else some (c :: after)
    | [] => some []
  | none => time? cs

end HeatStack.Toml
