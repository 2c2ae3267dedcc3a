import HeatStack.Unicode.CharSet

/-! # Regular expressions

An expression describes pieces of a text: from which position to which it can lead.  `advance`
carries a set of positions through an expression; `Spans` is the relation that it decides. -/
set_option autoImplicit false
namespace HeatStack.Regex
open HeatStack.Unicode

/-- How the characters before and after a position relate to words. -/
inductive WordEdge
  | boundary
  | inside
  | start
  | finish
  | startHalf
  | finishHalf
deriving DecidableEq

inductive Look
  | textStart
  | textEnd
  | lineStart
  | lineEnd
  /-- Lines that end with a carriage return, a line feed or both. -/
  | lineStartCr
  | lineEndCr
  | word (edge : WordEdge) (chars : CharSet)
deriving DecidableEq

inductive Expr
  | empty
  | set (s : CharSet)
  | look (l : Look)
  | capture (e : Expr)
  | sequence (es : List Expr)
  | choice (es : List Expr)
  /-- As often as `least` says, or more often up to `most`. -/
  | iterate (least : Nat) (most : Option Nat) (e : Expr)

/-! ## Positions -/

def around (text : Array Char) (i : Nat) : Option Char × Option Char :=
  (if i = 0 then none else text[i - 1]?, text[i]?)

def WordEdge.holds : WordEdge → (before behind : Bool) → Bool
  | .boundary, a, b => a != b
  | .inside, a, b => a == b
  | .start, a, b => !a && b
  | .finish, a, b => a && !b
  | .startHalf, a, _ => !a
  | .finishHalf, _, b => !b

def Look.holds (text : Array Char) (i : Nat) (l : Look) : Bool :=
  let (before, behind) := around text i
  match l with
  | .textStart => i == 0
  | .textEnd => i == text.size
  | .lineStart => i == 0 || before == some '\n'
  | .lineEnd => i == text.size || behind == some '\n'
  | .lineStartCr => i == 0 || before == some '\n' || (before == some '\r' && behind != some '\n')
  | .lineEndCr => i == text.size || behind == some '\r' || (behind == some '\n' && before != some '\r')
  | .word edge chars => edge.holds (before.any chars.mem) (behind.any chars.mem)

/-- Positions in increasing order, each once. -/
abbrev Positions := List Nat

def Positions.merge (a b : Positions) : Positions := go (a.length + b.length) a b
where
  go : Nat → List Nat → List Nat → List Nat
    | 0, _, _ => []
    | _ + 1, [], b => b
    | _ + 1, a, [] => a
    | n + 1, x :: a, y :: b =>
      if x < y then x :: go n a (y :: b)
      else if y < x then y :: go n (x :: a) b
      else x :: go n a b

/-- Applies `f` so many times; where a step changes nothing, neither do those after it. -/
def times (f : Positions → Positions) : Nat → Positions → Positions
  | 0, ps => ps
  | n + 1, ps => let next := f ps; if next = ps then ps else times f n next

/-- What up to `n` steps reach. -/
def upTo (f : Positions → Positions) : Nat → Positions → Positions
  | 0, ps => ps
  | n + 1, ps => let next := ps.merge (f ps); if next = ps then ps else upTo f n next

mutual
/-- The positions that the expression leads to from one of the given positions.  A step without
bound is taken as often as there are positions. -/
def advance (text : Array Char) : Expr → Positions → Positions
  | .empty, ps => ps
  | .set s, ps => (ps.filter fun i => text[i]?.any s.mem).map (· + 1)
  | .look l, ps => ps.filter fun i => l.holds text i
  | .capture e, ps => advance text e ps
  | .sequence es, ps => advanceAll text es ps
  | .choice es, ps => advanceAny text es ps
  | .iterate least most e, ps =>
    let ps := times (advance text e) least ps
    match most with
    | some m => upTo (advance text e) (m - least) ps
    | none => upTo (advance text e) (text.size + 1) ps

def advanceAll (text : Array Char) : List Expr → Positions → Positions
  | [], ps => ps
  | e :: es, ps => advanceAll text es (advance text e ps)

def advanceAny (text : Array Char) : List Expr → Positions → Positions
  | [], _ => []
  | e :: es, ps => (advance text e ps).merge (advanceAny text es ps)
end

/-- Whether the expression matches a piece of the text, wherever it stands. -/
def Expr.occursIn (e : Expr) (text : String) : Bool :=
  let cs := text.toList.toArray
  !(advance cs e (List.range (cs.size + 1))).isEmpty

mutual
/-- The expression leads from position `i` of the text to position `j`. -/
inductive Spans (text : Array Char) : Expr → Nat → Nat → Prop
  | empty (i : Nat) : Spans text .empty i i
  | set {s : CharSet} {i : Nat} {c : Char} (at_ : text[i]? = some c) (member : s.mem c = true) :
      Spans text (.set s) i (i + 1)
  | look {l : Look} {i : Nat} (holds : l.holds text i = true) : Spans text (.look l) i i
  | capture {e : Expr} {i j : Nat} (inner : Spans text e i j) : Spans text (.capture e) i j
  | sequence {es : List Expr} {i j : Nat} (inner : SpansAll text es i j) :
      Spans text (.sequence es) i j
  | choice {es : List Expr} {e : Expr} {i j : Nat} (member : e ∈ es) (inner : Spans text e i j) :
      Spans text (.choice es) i j
  | iterate {least n : Nat} {most : Option Nat} {e : Expr} {i j : Nat} (enough : least ≤ n)
      (bounded : ∀ m, most = some m → n ≤ max least m)
      (inner : SpansAll text (List.replicate n e) i j) : Spans text (.iterate least most e) i j

/-- The expressions lead from `i` to `j` one after the other. -/
inductive SpansAll (text : Array Char) : List Expr → Nat → Nat → Prop
  | nil (i : Nat) : SpansAll text [] i i
  | cons {e : Expr} {es : List Expr} {i j k : Nat} (first : Spans text e i j)
      (rest : SpansAll text es j k) : SpansAll text (e :: es) i k
end

end HeatStack.Regex
