import HeatStack.Number.Decimal

/-! # Numbers of data formats

A number in a JSON or YAML text is an integer of at most 64 bits, with or without sign, or a
binary floating-point number. -/
set_option autoImplicit false
namespace HeatStack.Number

inductive Numeric
  | integer (n : Int)
  | binary (x : Binary64)
deriving DecidableEq

namespace Numeric

def toBinary64 : Numeric → Binary64
  | .integer n => .ofInt n
  | .binary x => x

def toNat? : Numeric → Option Nat
  | .integer (.ofNat n) => some n
  | _ => none

/-- Equal as numbers of one kind; a NaN counts as equal to another. -/
def same : Numeric → Numeric → Bool
  | .integer m, .integer n => m == n
  | .binary x, .binary y => x.same y || (x.isNaN && y.isNaN)
  | _, _ => false

end Numeric

def NumberStyle.numericText (style : NumberStyle) : Numeric → String
  | .integer n => toString n
  | .binary x => style.text x

end HeatStack.Number
