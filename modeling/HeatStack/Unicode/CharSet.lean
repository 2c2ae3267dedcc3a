/-! # Sets of characters

A set is a list of ranges of code points.  In normal form the ranges are in increasing order and
do not touch; union, intersection, difference and complement give sets in normal form. -/
set_option autoImplicit false
namespace HeatStack.Unicode

structure Range where
  first : Nat
  last : Nat
deriving DecidableEq

abbrev CharSet := List Range

namespace CharSet

def top : Nat := 0x10FFFF

/-- All characters: surrogates are code points but no characters. -/
def everything : CharSet := [⟨0, 0xD7FF⟩, ⟨0xE000, top⟩]

def holds (s : CharSet) (n : Nat) : Bool := s.any fun r => r.first ≤ n && n ≤ r.last

def mem (s : CharSet) (c : Char) : Bool := s.holds c.toNat

def single (n : Nat) : CharSet := [⟨n, n⟩]

def ofChars (cs : List Char) : CharSet := cs.flatMap fun c => single c.toNat

def before (a b : Range) : Bool := a.first ≤ b.first

/-- Widens `r` by the ranges that overlap or touch it, and goes on with the first that does not. -/
def absorb (r : Range) : List Range → CharSet
  | [] => [r]
  | s :: rest =>
    if s.first ≤ r.last + 1 then absorb ⟨r.first, max r.last s.last⟩ rest else r :: absorb s rest

/-- Joins ranges that overlap or touch; the ranges come in order of their first points. -/
def join : List Range → CharSet
  | [] => []
  | r :: rest => absorb r rest

def normalize (s : CharSet) : CharSet := join (s.mergeSort before)

def union (a b : CharSet) : CharSet := normalize (a ++ b)

/-- The code points from `start` on that are not in a normal set. -/
def gaps (start : Nat) : CharSet → CharSet
  | [] => if start ≤ top then [⟨start, top⟩] else []
  | r :: rest =>
    if start < r.first then ⟨start, r.first - 1⟩ :: gaps (r.last + 1) rest else gaps (r.last + 1) rest

def overlap (a b : Range) : Option Range :=
  let first := max a.first b.first
  let last := min a.last b.last
  if first ≤ last then some ⟨first, last⟩ else none

def inter (a b : CharSet) : CharSet := normalize (a.flatMap fun r => b.filterMap (overlap r))

def complement (s : CharSet) : CharSet := inter (gaps 0 (normalize s)) everything

def diff (a b : CharSet) : CharSet := inter a (complement b)

def symmetricDiff (a b : CharSet) : CharSet := union (diff a b) (diff b a)

def isAscii (s : CharSet) : Bool := List.all s fun r => r.last < 128

end CharSet

/-! ## Tables

A table divides the code points into runs.  It is written as the label of each run in capital
letters, numbers of base 26, and the length of the run in base 36; code points after the last run
have no label.  Names that go with a table are listed in the order of the labels.

All tables are those of Unicode 17.0. -/

structure Run where
  label : Nat
  first : Nat
  last : Nat

/-- What has been read of a table: the next code point, the label and the length at hand. -/
structure RunReader where
  runs : List Run
  next : Nat
  label : Nat
  length : Nat
  inLength : Bool

namespace RunReader

def close (r : RunReader) : RunReader :=
  if r.length = 0 then { r with label := 0, inLength := false }
  else ⟨⟨r.label, r.next, r.next + r.length - 1⟩ :: r.runs, r.next + r.length, 0, 0, false⟩

def read (r : RunReader) (c : Char) : RunReader :=
  let n := c.toNat
  if 65 ≤ n ∧ n ≤ 90 then
    let r := if r.inLength then r.close else r
    { r with label := r.label * 26 + (n - 65) }
  else if 48 ≤ n ∧ n ≤ 57 then { r with length := r.length * 36 + (n - 48), inLength := true }
  else if 97 ≤ n ∧ n ≤ 122 then { r with length := r.length * 36 + (n - 87), inLength := true }
  else r

end RunReader

abbrev Runs := List Run

def Runs.ofText (text : String) : Runs :=
  ((text.toList.foldl RunReader.read ⟨[], 0, 0, 0, false⟩).close).runs.reverse

def Runs.label? (runs : Runs) (n : Nat) : Option Nat :=
  (runs.find? fun r => r.first ≤ n && n ≤ r.last).map Run.label

def Runs.select (runs : Runs) (p : Nat → Bool) : CharSet :=
  CharSet.join ((runs.filter fun r => p r.label).map fun r => ⟨r.first, r.last⟩)

/-- The same without surrogates. -/
def Runs.chars (runs : Runs) (p : Nat → Bool) : CharSet :=
  CharSet.inter (runs.select p) CharSet.everything

end HeatStack.Unicode
