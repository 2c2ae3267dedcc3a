import HeatStack.Json.Value

/-! # JSON text

Text is read in two steps.  `Syntax.parse?` reads the grammar alone and keeps numerals and
half surrogates as they stand, because a member that nobody asks for only has to be well formed.
`Syntax.value?` then gives the value of what is asked for, and refuses numerals beyond the range
of binary numbers, texts with half a surrogate pair, and nesting beyond a limit. -/
set_option autoImplicit false
namespace HeatStack.Json
open HeatStack.Number HeatStack.Text

/-- The parts of a numeral as written; `whole` has no leading zero. -/
structure Numeral where
  negative : Bool
  whole : List Char
  places : List Char
  exponent : Option (Bool × List Char)

inductive Syntax
  | null
  | bool (b : Bool)
  | number (n : Numeral)
  /-- A text, or `none` where an escape gives half of a surrogate pair. -/
  | string (text : Option String)
  | array (items : List Syntax)
  | object (members : List (Option String × Syntax))

/-! ## Numerals -/

namespace Numeral

/-- A natural of at most 64 bits scaled by a power of ten. -/
structure Scaled where
  significand : Nat
  exponent : Int

/-- Takes digits while the significand stays below `2 ^ 64`; the digits after that are returned. -/
def take (s : Nat) : List Char → Nat × List Char
  | [] => (s, [])
  | d :: ds =>
    let next := s * 10 + digitValue d
    if next < Nat.pow 2 64 then take next ds else (s, d :: ds)

/-- Digits that no longer fit are dropped; before the point they still count in the exponent. -/
def scaled (n : Numeral) : Scaled :=
  let (s, dropped) := take 0 n.whole
  let (t, rest) := take s n.places
  ⟨t, dropped.length - ((n.places.length - rest.length : Nat) : Int)⟩

def power (k : Nat) : Binary64 := .ofNat (Nat.pow 10 k)

/-- The significand times the power of ten, with one rounding for each factor up to `10 ^ 308`.
An infinite product is refused.  A negative exponent is used up in steps of 308, and a zero
ends the steps. -/
def scale? (fuel : Nat) (x : Binary64) (e : Int) : Option Binary64 :=
  if e.natAbs ≤ 308 then
    if 0 ≤ e then
      let y := x.mul (power e.toNat)
      if y.isInfinite then none else some y
    else some (x.div (power e.natAbs))
  else if x.magnitude = 0 then some x
  else if 0 ≤ e then none
  else match fuel with
    | 0 => some (.zero false)
    | fuel + 1 => scale? fuel (x.div (power 308)) (e + 308)

/-- An exponent of more than 31 bits makes a number infinite or zero at once. -/
def exponentLimit : Nat := Nat.pow 2 31

def binary? (n : Numeral) : Option Binary64 :=
  let ⟨s, e⟩ := n.scaled
  let sign (x : Binary64) : Binary64 := if n.negative then x.negate else x
  match n.exponent with
  | none => (scale? 400 (.ofNat s) e).map sign
  | some (below, ds) =>
    let k := decimal ds
    if exponentLimit ≤ k then
      if s ≠ 0 ∧ ¬ below then none else some (.zero n.negative)
    else
      let e := if below then max (e - k) (-(exponentLimit : Int)) else min (e + k) (exponentLimit - 1)
      (scale? 400 (.ofNat s) e).map sign

/-- A numeral without point and exponent is an integer when it fits 64 bits, with its sign; the
negative zero is no integer. -/
def value? (n : Numeral) : Option Numeric :=
  let s := decimal n.whole
  if n.places.isEmpty && n.exponent.isNone && s < Nat.pow 2 64 then
    if !n.negative then some (.integer s)
    else if 0 < s ∧ s ≤ Nat.pow 2 63 then some (.integer (-(s : Int)))
    else some (.binary (Binary64.ofNat s).negate)
  else n.binary?.map .binary

end Numeral

/-! ## Grammar -/

namespace Syntax

def skipBlanks : List Char → List Char
  | c :: cs => if c = ' ' ∨ c = '\t' ∨ c = '\n' ∨ c = '\r' then skipBlanks cs else c :: cs
  | [] => []

def digits? (cs : List Char) : Option (List Char × List Char) :=
  let ds := cs.takeWhile isDigit
  if ds.isEmpty then none else some (ds, cs.dropWhile isDigit)

def exponent? (cs : List Char) : Option (Option (Bool × List Char) × List Char) :=
  match cs with
  | mark :: r =>
    if mark = 'e' ∨ mark = 'E' then do
      let (below, r) := match r with
        | '+' :: r => (false, r)
        | '-' :: r => (true, r)
        | r => (false, r)
      let (ds, r) ← digits? r
      some (some (below, ds), r)
    else some (none, cs)
  | [] => some (none, [])

def numeral? (negative : Bool) (cs : List Char) : Option (Numeral × List Char) := do
  let (whole, r) ← match cs with
    | '0' :: r => if (r.head?.any isDigit) then none else some (['0'], r)
    | r => digits? r
  let (places, r) ← match r with
    | '.' :: r => digits? r
    | r => some ([], r)
  let (exponent, r) ← exponent? r
  some (⟨negative, whole, places, exponent⟩, r)

def unit? : List Char → Option (Nat × List Char)
  | a :: b :: c :: d :: r => do
    let a ← hexValue? a
    let b ← hexValue? b
    let c ← hexValue? c
    let d ← hexValue? d
    some (((a * 16 + b) * 16 + c) * 16 + d, r)
  | _ => none

def escaped? (c : Char) : Option Char :=
  match c with
  | '"' => some '"'
  | '\\' => some '\\'
  | '/' => some '/'
  | 'b' => some '\x08'
  | 'f' => some '\x0c'
  | 'n' => some '\n'
  | 'r' => some '\r'
  | 't' => some '\t'
  | _ => none

/-- What stands between the quotes, as units: characters and the numbers of half pairs. -/
def units? : (fuel : Nat) → List Char → Option (List (Char ⊕ Nat) × List Char)
  | 0, _ => none
  | fuel + 1, cs =>
    match cs with
    | [] => none
    | '"' :: r => some ([], r)
    | '\\' :: 'u' :: r => do
      let (n, r) ← unit? r
      let (us, r) ← units? fuel r
      some ((if 0xD800 ≤ n ∧ n ≤ 0xDFFF then .inr n else .inl (Char.ofNat n)) :: us, r)
    | '\\' :: c :: r => do
      let e ← escaped? c
      let (us, r) ← units? fuel r
      some (.inl e :: us, r)
    | c :: r =>
      if c.toNat < 32 ∨ c = '\\' then none
      else do
        let (us, r) ← units? fuel r
        some (.inl c :: us, r)

/-- Joins each pair of surrogates; one without its partner spoils the text. -/
def joinUnits : List (Char ⊕ Nat) → Option (List Char)
  | [] => some []
  | .inl c :: us => (joinUnits us).map (c :: ·)
  | .inr high :: .inr low :: us =>
    if high < 0xDC00 ∧ 0xDC00 ≤ low then
      (joinUnits us).map (Char.ofNat (0x10000 + (high - 0xD800) * 1024 + (low - 0xDC00)) :: ·)
    else none
  | .inr _ :: _ => none

def text? (cs : List Char) : Option (Option String × List Char) := do
  let (us, r) ← units? (cs.length + 1) cs
  some ((joinUnits us).map String.ofList, r)

def word? (w : List Char) (v : Syntax) (cs : List Char) : Option (Syntax × List Char) :=
  if w.isPrefixOf cs then some (v, cs.drop w.length) else none

mutual
def read? : (fuel : Nat) → List Char → Option (Syntax × List Char)
  | 0, _ => none
  | fuel + 1, cs =>
    match skipBlanks cs with
    | 'n' :: r => word? "ull".toList .null r
    | 't' :: r => word? "rue".toList (.bool true) r
    | 'f' :: r => word? "alse".toList (.bool false) r
    | '"' :: r => (text? r).map fun (t, r) => (.string t, r)
    | '-' :: r => (numeral? true r).map fun (n, r) => (.number n, r)
    | '[' :: r =>
      match skipBlanks r with
      | ']' :: r => some (.array [], r)
      | r => (items? fuel r).map fun (vs, r) => (.array vs, r)
    | '\x7b' :: r =>
      match skipBlanks r with
      | '\x7d' :: r => some (.object [], r)
      | r => (members? fuel r).map fun (ms, r) => (.object ms, r)
    | r => (numeral? false r).map fun (n, r) => (.number n, r)

def items? : (fuel : Nat) → List Char → Option (List Syntax × List Char)
  | 0, _ => none
  | fuel + 1, cs => do
    let (v, r) ← read? fuel cs
    match skipBlanks r with
    | ',' :: r => do
      let (vs, r) ← items? fuel r
      some (v :: vs, r)
    | ']' :: r => some ([v], r)
    | _ => none

def members? : (fuel : Nat) → List Char → Option (List (Option String × Syntax) × List Char)
  | 0, _ => none
  | fuel + 1, cs =>
    match skipBlanks cs with
    | '"' :: r => do
      let (k, r) ← text? r
      match skipBlanks r with
      | ':' :: r => do
        let (v, r) ← read? fuel r
        match skipBlanks r with
        | ',' :: r => do
          let (ms, r) ← members? fuel r
          some ((k, v) :: ms, r)
        | '\x7d' :: r => some ([(k, v)], r)
        | _ => none
      | _ => none
    | _ => none
end

/-- Reads a whole text: one value with nothing but blanks around it.  Every second step takes a
character, so twice the length is fuel enough. -/
def parse? (s : String) : Option Syntax :=
  let cs := s.toList
  match read? (2 * cs.length + 2) cs with
  | some (v, r) => if (skipBlanks r).isEmpty then some v else none
  | none => none

/-! ## Values -/

def nestingLimit : Nat := 127

mutual
/-- The value, where `room` more levels of arrays and objects are admitted. -/
def value? (room : Nat) : Syntax → Option Value
  | .null => some .null
  | .bool b => some (.bool b)
  | .number n => n.value?.map .number
  | .string t => t.map .string
  | .array items => if room = 0 then none else (itemValues? (room - 1) items).map .array
  | .object members => if room = 0 then none else (memberValues? (room - 1) members).map .object

def itemValues? (room : Nat) : List Syntax → Option (List Value)
  | [] => some []
  | v :: rest => do
    let v ← value? room v
    let vs ← itemValues? room rest
    some (v :: vs)

def memberValues? (room : Nat) : List (Option String × Syntax) → Option (List (String × Value))
  | [] => some []
  | (k, v) :: rest => do
    let k ← k
    let v ← value? room v
    let ms ← memberValues? room rest
    some ((k, v) :: ms)
end

end Syntax

def Value.parse? (s : String) : Option Value :=
  (Syntax.parse? s).bind (Syntax.value? Syntax.nestingLimit)

end HeatStack.Json
