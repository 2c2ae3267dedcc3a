import HeatStack.Text.Ascii

/-! # Numeric hosts

Which texts are addresses of version four, whose parts may be decimal, octal or hexadecimal, and of
version six. -/
set_option autoImplicit false
namespace HeatStack.Url
open HeatStack.Text

/-! ## Version four -/

/-- The value of a part: hexadecimal after `0x`, octal after any other zero, else decimal. -/
def ipv4Part? : List Char → Option Nat
  | [] => none
  | '0' :: 'x' :: r => numeral? 16 r
  | '0' :: 'X' :: r => numeral? 16 r
  | '0' :: c :: r => numeral? 8 (c :: r)
  | r => numeral? 10 r

/-- The parts between the points; a point at the end closes the last part. -/
def hostParts (cs : List Char) : List (List Char) :=
  match (splitOn '.' cs).reverse with
  | [] :: parts => parts.reverse
  | parts => parts.reverse

/-- A host whose last part is a number cannot be a domain. -/
def endsInNumber (cs : List Char) : Bool :=
  match (hostParts cs).getLast? with
  | some part => (!part.isEmpty && part.all isDigit) || (ipv4Part? part).isSome
  | none => false

/-- At most four parts: all but the last are octets, and the last fills what is left. -/
def isIpv4 (cs : List Char) : Bool :=
  match (hostParts cs).mapM ipv4Part? with
  | none => false
  | some values =>
    match values.reverse with
    | [] => false
    | last :: others =>
      values.length ≤ 4 && others.all (· < 256) && last < Nat.pow 256 (5 - values.length)

/-! ## Version six -/

/-- A decimal octet without leading zeros. -/
def isOctet (ds : List Char) : Bool :=
  !ds.isEmpty && ds.all isDigit && (ds.head? != some '0' || ds.length == 1) && decimal ds < 256

def isQuad (cs : List Char) : Bool :=
  let parts := splitOn '.' cs
  parts.length == 4 && parts.all isOctet

/-- What follows `count` pieces of sixteen bits, of which there are eight; two colons, which may
stand once, make up for missing pieces, and a quad for the last two. -/
def isIpv6Rest : (fuel count : Nat) → (shortened : Bool) → List Char → Bool
  | 0, _, _, _ => false
  | fuel + 1, count, shortened, cs =>
    match cs with
    | [] => shortened || count == 8
    | ':' :: r => count < 8 && !shortened && isIpv6Rest fuel (count + 1) true r
    | cs =>
      let ds := (cs.take 4).takeWhile isHex
      count < 8 && match cs.drop ds.length with
        | [] => isIpv6Rest fuel (count + 1) shortened []
        | '.' :: _ => !ds.isEmpty && count ≤ 6 && isQuad cs && (shortened || count == 6)
        | ':' :: r => !r.isEmpty && isIpv6Rest fuel (count + 1) shortened r
        | _ => false

def isIpv6 : List Char → Bool
  | ':' :: ':' :: r => isIpv6Rest (r.length + 2) 1 true r
  | ':' :: _ => false
  | cs => 2 ≤ cs.length && isIpv6Rest (cs.length + 2) 0 false cs

end HeatStack.Url
