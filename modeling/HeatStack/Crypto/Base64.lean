/-! # Base64

The standard alphabet with padding, read strictly: the padding has to be there, the bits that it
stands for have to be zero, and nothing else may stand in the text.  Each fault is reported with
the place of its byte. -/
set_option autoImplicit false
namespace HeatStack.Crypto.Base64

inductive Fault
  | symbol (byte : UInt8) (offset : Nat)
  | length (n : Nat)
  | lastSymbol (byte : UInt8) (offset : Nat)
  | padding
deriving DecidableEq

def Fault.message : Fault → String
  | .symbol b offset => "Invalid symbol " ++ toString b.toNat ++ ", offset " ++ toString offset ++ "."
  | .length n => "Invalid input length: " ++ toString n
  | .lastSymbol b offset =>
    "Invalid last symbol " ++ toString b.toNat ++ ", offset " ++ toString offset ++ "."
  | .padding => "Invalid padding"

def pad : UInt8 := 61

def symbol (n : Nat) : UInt8 :=
  if n < 26 then UInt8.ofNat (65 + n)
  else if n < 52 then UInt8.ofNat (71 + n)
  else if n < 62 then UInt8.ofNat (n - 4)
  else if n = 62 then 43 else 47

def value? (b : UInt8) : Option Nat :=
  let n := b.toNat
  if 65 ≤ n ∧ n ≤ 90 then some (n - 65)
  else if 97 ≤ n ∧ n ≤ 122 then some (n - 71)
  else if 48 ≤ n ∧ n ≤ 57 then some (n + 4)
  else if n = 43 then some 62
  else if n = 47 then some 63
  else none

def encode : List UInt8 → List UInt8
  | [] => []
  | [a] => [symbol (a.toNat / 4), symbol (a.toNat % 4 * 16), pad, pad]
  | [a, b] =>
    [symbol (a.toNat / 4), symbol (a.toNat % 4 * 16 + b.toNat / 16), symbol (b.toNat % 16 * 4), pad]
  | a :: b :: c :: rest =>
    symbol (a.toNat / 4) :: symbol (a.toNat % 4 * 16 + b.toNat / 16)
      :: symbol (b.toNat % 16 * 4 + c.toNat / 64) :: symbol (c.toNat % 64) :: encode rest

def encodeText (bytes : List UInt8) : String :=
  String.ofList ((encode bytes).map fun b => Char.ofNat b.toNat)

def valueAt (offset : Nat) (b : UInt8) : Except Fault Nat :=
  match value? b with
  | some v => .ok v
  | none => .error (.symbol b offset)

/-- A group of four symbols with others behind it: no padding is admitted. -/
def group (offset : Nat) (a b c d : UInt8) : Except Fault (List UInt8) := do
  let a ← valueAt offset a
  let b ← valueAt (offset + 1) b
  let c ← valueAt (offset + 2) c
  let d ← valueAt (offset + 3) d
  return [UInt8.ofNat (a * 4 + b / 16), UInt8.ofNat (b % 16 * 16 + c / 4), UInt8.ofNat (c % 4 * 64 + d)]

/-- The values before the padding and the number of padding bytes.  Padding may not start in the
first half of a group, and only padding may follow it; the first padding byte takes the blame. -/
def lastSymbols (offset place : Nat) : List UInt8 → Except Fault (List Nat × Nat)
  | [] => .ok ([], 0)
  | b :: rest =>
    if b = pad then
      if place < 2 then .error (.symbol b (offset + place))
      else if rest.all (· == pad) then .ok ([], rest.length + 1)
      else .error (.symbol b (offset + place))
    else do
      let v ← valueAt (offset + place) b
      let (vs, pads) ← lastSymbols offset (place + 1) rest
      return (v :: vs, pads)

def lastGroup (offset : Nat) (bytes : List UInt8) : Except Fault (List UInt8) := do
  let (values, pads) ← lastSymbols offset 0 bytes
  let blame (n : Nat) : Fault := .lastSymbol (bytes.getD n 0) (offset + n)
  match values with
  | [] => if bytes.isEmpty then return [] else throw (.length offset)
  | [_] => throw (.length (offset + 1))
  | [a, b] =>
    if pads ≠ 2 then throw .padding
    else if b % 16 ≠ 0 then throw (blame 1)
    else return [UInt8.ofNat (a * 4 + b / 16)]
  | [a, b, c] =>
    if pads ≠ 1 then throw .padding
    else if c % 4 ≠ 0 then throw (blame 2)
    else return [UInt8.ofNat (a * 4 + b / 16), UInt8.ofNat (b % 16 * 16 + c / 4)]
  | a :: b :: c :: d :: _ =>
    return [UInt8.ofNat (a * 4 + b / 16), UInt8.ofNat (b % 16 * 16 + c / 4), UInt8.ofNat (c % 4 * 64 + d)]

def groups (offset : Nat) : List UInt8 → Except Fault (List UInt8)
  | a :: b :: c :: d :: e :: rest => do
    let bytes ← group offset a b c d
    let more ← groups (offset + 4) (e :: rest)
    return bytes ++ more
  | bytes => lastGroup offset bytes

/-- A single byte after whole groups that is neither a symbol nor padding is reported before any
other fault, being most often a line end. -/
def decode (bytes : List UInt8) : Except Fault (List UInt8) :=
  let last := bytes.getLastD pad
  if bytes.length % 4 = 1 ∧ last ≠ pad ∧ value? last = none then
    .error (.symbol last (bytes.length - 1))
  else groups 0 bytes

end HeatStack.Crypto.Base64
