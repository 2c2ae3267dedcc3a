import HeatStack.Text.Ascii
import HeatStack.Number.Binary64

/-! # Decimal numbers

A decimal number is a sign, a natural of digits and a power of ten.  This module reads one from
text, rounds one to binary, and finds the shortest one that rounds back to a given binary
number: on the grids of one, two, … seventeen digits it tries the two neighbours of the number,
and the first grid with a neighbour inside the rounding interval wins. -/
set_option autoImplicit false
namespace HeatStack.Number
open HeatStack.Text

structure Decimal where
  negative : Bool
  digits : Nat
  exponent : Int
deriving DecidableEq

namespace Decimal

/-- The rounded value.  Far outside the range the power of ten is not computed: above
`10 ^ 310` all is infinite, and below half of `2 ^ -1074` all is zero. -/
def toBinary64 (d : Decimal) : Binary64 :=
  if d.digits = 0 then .zero d.negative
  else if d.exponent > 310 then .infinity d.negative
  else if d.exponent + Nat.log2 d.digits < -330 then .zero d.negative
  else if 0 ≤ d.exponent then .ofRatio d.negative (d.digits * Nat.pow 10 d.exponent.toNat) 1
  else .ofRatio d.negative d.digits (Nat.pow 10 (-d.exponent).toNat)

/-- The exponent after the mark: an optional sign and at least one digit. -/
def parseExponent? (cs : List Char) : Option Int :=
  let (negative, ds) := match cs with
    | '-' :: ds => (true, ds)
    | '+' :: ds => (false, ds)
    | ds => (false, ds)
  if ds.isEmpty || !ds.all isDigit then none
  else some (if negative then -(decimal ds : Int) else decimal ds)

/-- Digits with an optional point among them or at either end, then an optional exponent. -/
def parseUnsigned? (negative : Bool) (cs : List Char) : Option Decimal :=
  let whole := cs.takeWhile isDigit
  let (places, rest) := match cs.dropWhile isDigit with
    | '.' :: r => (r.takeWhile isDigit, r.dropWhile isDigit)
    | r => ([], r)
  if whole.isEmpty && places.isEmpty then none
  else
    let exponent? := match rest with
      | [] => some 0
      | mark :: r => if mark = 'e' ∨ mark = 'E' then parseExponent? r else none
    exponent?.map fun e => ⟨negative, decimal (whole ++ places), e - places.length⟩

end Decimal

/-- Reads a decimal number or, in any case of letters, `inf`, `infinity` or `nan`, each with an
optional sign in front. -/
def Binary64.parse? (cs : List Char) : Option Binary64 :=
  let (negative, body) := match cs with
    | '-' :: r => (true, r)
    | '+' :: r => (false, r)
    | r => (false, r)
  let word := String.ofList (body.map lowerChar)
  if word = "inf" ∨ word = "infinity" then some (.infinity negative)
  else if word = "nan" then some (if negative then Binary64.nan.negate else .nan)
  else (Decimal.parseUnsigned? negative body).map Decimal.toBinary64

inductive Tie
  | toEven
  | away

namespace Shortest

/-- The reals that round to a finite positive number, all in units of `2 ^ -1076`. -/
structure Interval where
  value : Nat
  low : Nat
  high : Nat
  closed : Bool

/-- The interval ends half a step from the number.  Below a power of two the step is half as
long, except at the foot of the normal range. -/
def Interval.around (x : Binary64) : Interval :=
  let step := Nat.pow 2 (x.exponentField - 1)
  let below := if x.fraction = 0 ∧ 1 < x.exponentField then step else 2 * step
  ⟨4 * x.magnitude, 4 * x.magnitude - below, 4 * x.magnitude + 2 * step, x.fraction % 2 == 0⟩

/-- `a / b` units lie in the interval. -/
def Interval.holds (i : Interval) (a b : Nat) : Bool :=
  if i.closed then i.low * b ≤ a && a ≤ i.high * b else i.low * b < a && a < i.high * b

/-- The multiple of `10 ^ p` that stands for the number, if one of the two next to it does. -/
def onGrid? (tie : Tie) (i : Interval) (p : Int) : Option Nat :=
  let a := Nat.pow 10 p.toNat * Nat.pow 2 1076
  let b := Nat.pow 10 (-p).toNat
  let d := i.value * b / a
  match i.holds (d * a) b, i.holds ((d + 1) * a) b with
  | true, true =>
    let down := i.value * b - d * a
    let up := (d + 1) * a - i.value * b
    if down < up then some d
    else if up < down then some (d + 1)
    else match tie with
      | .toEven => some (if d % 2 = 0 then d else d + 1)
      | .away => some (d + 1)
  | true, false => some d
  | false, true => some (d + 1)
  | false, false => none

/-- The power of ten at or next below a positive number. -/
def leadingPower (x : Binary64) : Int :=
  let guess := ((Nat.log2 x.magnitude : Int) - 1074) * 30103 / 100000
  let next := guess + 1
  if Nat.pow 10 next.toNat * Nat.pow 2 1074 ≤ x.magnitude * Nat.pow 10 (-next).toNat then next else guess

/-- Tries the grids with `k` more digits after the first `n`. -/
def search (tie : Tie) (i : Interval) (lead : Int) : (k n : Nat) → Nat × Int
  | 0, _ => (0, 0)
  | k + 1, n =>
    match onGrid? tie i (lead - n) with
    | some d => (d, lead - n)
    | none => search tie i lead k (n + 1)

def dropZeros : (fuel : Nat) → Nat × Int → Nat × Int
  | 0, d => d
  | fuel + 1, (d, e) => if d ≠ 0 ∧ d % 10 = 0 then dropZeros fuel (d / 10, e + 1) else (d, e)

/-- The decimal with the fewest digits among those that round to the finite number `x`; of
several the nearest.  Its digits do not end in zero unless they are zero. -/
def decimal (tie : Tie) (x : Binary64) : Decimal :=
  if x.magnitude = 0 then ⟨x.negative, 0, 0⟩
  else
    let (d, e) := dropZeros 20 (search tie (.around x) (leadingPower x) 18 0)
    ⟨x.negative, d, e⟩

end Shortest

structure NumberStyle where
  /-- Whether a number whose first digit counts `10 ^ e` is written without exponent. -/
  positional : Int → Bool
  /-- A whole number is written with `.0` where it has no exponent. -/
  pointZero : Bool
  /-- An exponent that is not negative carries a plus sign. -/
  plusSign : Bool
  tie : Tie
  infinity : String
  negativeInfinity : String
  notANumber : String

namespace NumberStyle

def positionalText (style : NumberStyle) (digits : List Char) (exponent : Int) : List Char :=
  if 0 ≤ exponent then
    digits ++ List.replicate exponent.toNat '0' ++ (if style.pointZero then ['.', '0'] else [])
  else
    let places := (-exponent).toNat
    if places < digits.length then
      digits.take (digits.length - places) ++ '.' :: digits.drop (digits.length - places)
    else '0' :: '.' :: List.replicate (places - digits.length) '0' ++ digits

def exponentText (style : NumberStyle) (digits : List Char) (lead : Int) : List Char :=
  let mantissa := match digits with
    | [] => []
    | [d] => [d]
    | d :: ds => d :: '.' :: ds
  let sign := if lead < 0 then ['-'] else if style.plusSign then ['+'] else []
  mantissa ++ 'e' :: sign ++ Nat.toDigits 10 lead.natAbs

def decimalText (style : NumberStyle) (d : Decimal) : List Char :=
  let digits := Nat.toDigits 10 d.digits
  let lead := d.exponent + digits.length - 1
  let body :=
    if d.digits = 0 || style.positional lead then style.positionalText digits d.exponent
    else style.exponentText digits lead
  if d.negative then '-' :: body else body

/-- The shortest text of this form that reads back as `x`. -/
def text (style : NumberStyle) (x : Binary64) : String :=
  if x.isNaN then style.notANumber
  else if x.isInfinite then (if x.negative then style.negativeInfinity else style.infinity)
  else String.ofList (style.decimalText (Shortest.decimal style.tie x))

/-- Numbers in running text: never an exponent, and no point in a whole number. -/
def plain : NumberStyle where
  positional _ := true
  pointZero := false
  plusSign := false
  tie := .away
  infinity := "inf"
  negativeInfinity := "-inf"
  notANumber := "NaN"

end NumberStyle
end HeatStack.Number
