/-! # Binary floating-point numbers of sixty-four bits

A number is its bit pattern, and its value is read off the pattern as an integer count of the
smallest positive number, `2 ^ -1074`.  Every comparison is then a comparison of integers, and
every rounding is one division of naturals, so nothing here rests on the machine's arithmetic. -/
set_option autoImplicit false
namespace HeatStack.Number

/-- `num / den` to the nearest natural, a half going to the even one. -/
def roundHalfEven (num den : Nat) : Nat :=
  let quotient := num / den
  let twice := 2 * (num % den)
  if den < twice || (twice == den && quotient % 2 == 1) then quotient + 1 else quotient

structure Binary64 where
  bits : UInt64
deriving DecidableEq

namespace Binary64

def exponentField (x : Binary64) : Nat := x.bits.toNat / Nat.pow 2 52 % Nat.pow 2 11

def fraction (x : Binary64) : Nat := x.bits.toNat % Nat.pow 2 52

def negative (x : Binary64) : Bool := Nat.pow 2 63 ≤ x.bits.toNat

def isFinite (x : Binary64) : Bool := x.exponentField != 2047

def isNaN (x : Binary64) : Bool := x.exponentField == 2047 && x.fraction != 0

def isInfinite (x : Binary64) : Bool := x.exponentField == 2047 && x.fraction == 0

/-- The distance from `0` in units of `2 ^ -1074`.  An infinity counts as `2 ^ 1024`, which is
above every finite number. -/
def magnitude (x : Binary64) : Nat :=
  if x.exponentField = 0 then x.fraction
  else (Nat.pow 2 52 + x.fraction) * Nat.pow 2 (x.exponentField - 1)

def scaled (x : Binary64) : Int :=
  if x.negative then -(x.magnitude : Int) else x.magnitude

/-- Numeric order; nothing is below or above a NaN. -/
def le (x y : Binary64) : Bool := !x.isNaN && !y.isNaN && decide (x.scaled ≤ y.scaled)

/-- Numeric equality: both zeros are one number and a NaN equals nothing. -/
def same (x y : Binary64) : Bool := !x.isNaN && !y.isNaN && x.scaled == y.scaled

def ofPattern (negative : Bool) (pattern : Nat) : Binary64 :=
  ⟨UInt64.ofNat (if negative then Nat.pow 2 63 + pattern else pattern)⟩

def infinityPattern : Nat := 2047 * Nat.pow 2 52

def infinity (negative : Bool) : Binary64 := ofPattern negative infinityPattern

def zero (negative : Bool) : Binary64 := ofPattern negative 0

def nan : Binary64 := ofPattern false (infinityPattern + Nat.pow 2 51)

/-- The number nearest to `num / den`, a half going to the even significand; what is too large
becomes an infinity.  In units of `2 ^ -1074` the significand is `num / den` cut to 53 binary
digits, and the pattern counts the cut places in its exponent field. -/
def ofRatio (negative : Bool) (num den : Nat) : Binary64 :=
  let units := num * Nat.pow 2 1074
  let cut := Nat.log2 (units / den) - 52
  let significand := roundHalfEven units (den * Nat.pow 2 cut)
  ofPattern negative (min (cut * Nat.pow 2 52 + significand) infinityPattern)

def ofNat (n : Nat) : Binary64 := ofRatio false n 1

def ofInt (n : Int) : Binary64 := ofRatio (n < 0) n.natAbs 1

def negate (x : Binary64) : Binary64 := ⟨x.bits ^^^ UInt64.ofNat (Nat.pow 2 63)⟩

/-- The rounded product of two finite numbers. -/
def mul (x y : Binary64) : Binary64 :=
  ofRatio (x.negative != y.negative) (x.magnitude * y.magnitude) (Nat.pow 2 2148)

/-- The rounded quotient of two finite numbers, the second not zero. -/
def div (x y : Binary64) : Binary64 :=
  ofRatio (x.negative != y.negative) x.magnitude y.magnitude

def hexBits (x : Binary64) : List Char :=
  (List.range 16).reverse.map fun i => "0123456789abcdef".toList.getD (x.bits.toNat / Nat.pow 16 i % 16) '0'

end Binary64
end HeatStack.Number
