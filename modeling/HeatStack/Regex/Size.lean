import HeatStack.Regex.Basic

/-! # How large an expression is

An expression is admitted only if the two automata for it, which read the octets of a text
forwards and backwards, stay below a limit.  A state counts 32 octets, a labelled transition 8
and an unlabelled branch 4.  A set of characters is spread out over octets: forwards with states
shared wherever they lead on alike, backwards with shared beginnings only. -/
set_option autoImplicit false
namespace HeatStack.Regex
open HeatStack.Unicode

/-! ## Sets as sequences of octet ranges -/

def octets (n : Nat) : List Nat :=
  if n < 0x80 then [n]
  else if n < 0x800 then [0xC0 + n / 64, 0x80 + n % 64]
  else if n < 0x10000 then [0xE0 + n / 4096, 0x80 + n / 64 % 64, 0x80 + n % 64]
  else [0xF0 + n / 262144, 0x80 + n / 4096 % 64, 0x80 + n / 64 % 64, 0x80 + n % 64]

def widthLimits : List Nat := [0x7F, 0x7FF, 0xFFFF]

/-- A point where the range has to be cut, so that each octet takes a full range for every choice
of those before it: the first code point of the second part. -/
def cutAt? (r : Range) : Option Nat :=
  match widthLimits.find? fun m => r.first ≤ m && m < r.last with
  | some m => some (m + 1)
  | none =>
    if r.last < 0x80 then none
    else [64, 4096, 262144].findSome? fun m =>
      if r.first / m = r.last / m then none
      else if r.first % m ≠ 0 then some ((r.first / m + 1) * m)
      else if r.last % m ≠ m - 1 then some (r.last / m * m)
      else none

def spread : (fuel : Nat) → Range → List (List Range)
  | 0, _ => []
  | fuel + 1, r =>
    match cutAt? r with
    | some n => spread fuel ⟨r.first, n - 1⟩ ++ spread fuel ⟨n, r.last⟩
    | none => [List.zipWith Range.mk (octets r.first) (octets r.last)]

def spreadSet (s : CharSet) : List (List Range) :=
  (CharSet.inter s CharSet.everything).flatMap (spread 32)

/-- States for a tree over the sequences: those of a sequence less what it shares with the one
before it. -/
def treeStates : (before : List Range) → List (List Range) → Nat
  | _, [] => 0
  | before, s :: rest =>
    let shared := ((List.zip before s).takeWhile fun (a, b) => a == b).length
    (s.length - shared) + treeStates s rest

/-- A state by its transitions: octet ranges and the numbers of the states that they lead to. -/
abbrev Transitions := List (Range × Nat)

/-- The number of the state with these transitions, added if it is not there.  Number `0` is the
end. -/
def stateNumber (known : List Transitions) (t : Transitions) : Nat × List Transitions :=
  match known.idxOf? t with
  | some i => (known.length - i, known)
  | none => (known.length + 1, t :: known)

mutual
/-- The state for sequences that begin alike or not, with all states known so far. -/
def shareStates : (fuel : Nat) → List (List Range) → List Transitions → Nat × List Transitions
  | 0, _, known => (0, known)
  | fuel + 1, ss, known =>
    if ss.all List.isEmpty then (0, known)
    else
      let (t, known) := shareGroups fuel (ss.splitBy fun a b => a.head? == b.head?) known
      stateNumber known t

def shareGroups : (fuel : Nat) → List (List (List Range)) → List Transitions →
    Transitions × List Transitions
  | 0, _, known => ([], known)
  | _ + 1, [], known => ([], known)
  | fuel + 1, group :: rest, known =>
    let (n, known) := shareStates fuel (group.map List.tail) known
    let (t, known) := shareGroups fuel rest known
    match (group.head?.bind List.head?) with
    | some r => ((r, n) :: t, known)
    | none => (t, known)
end

/-! ## Octets for an expression -/

def stateSize : Nat := 32
def transitionSize : Nat := 8
def branchSize : Nat := 4

/-- The size of a set of characters; one character is no more than its octets. -/
def setSize (reverse : Bool) (s : CharSet) : Nat :=
  match s with
  | [] => stateSize
  | [⟨a, b⟩] => if a = b then stateSize * (octets a).length else rangesSize
  | _ => rangesSize
where
  rangesSize : Nat :=
    if s.isAscii then 2 * stateSize + transitionSize * s.length
    else
      let ss := spreadSet s
      if reverse then (2 + treeStates [] ss) * stateSize + branchSize * ss.length
      else
        let (_, known) := shareStates (4 * ss.length + 8) ss []
        (1 + known.length) * stateSize + transitionSize * known.foldl (fun n t => n + t.length) 0

/-- The least and the greatest number of characters of a match, as far as repetition is told
apart by them: whether it can be empty, and whether it is never anything else. -/
structure Width where
  canBeEmpty : Bool
  alwaysEmpty : Bool

mutual
def Expr.width : Expr → Width
  | .empty => ⟨true, true⟩
  | .set s => ⟨false, s.isEmpty⟩
  | .look _ => ⟨true, true⟩
  | .capture e => e.width
  | .sequence es => sequenceWidth es
  | .choice es => choiceWidth es
  | .iterate least most e => ⟨least == 0 || e.width.canBeEmpty, most == some 0 || e.width.alwaysEmpty⟩

def sequenceWidth : List Expr → Width
  | [] => ⟨true, true⟩
  | e :: es =>
    let a := e.width
    let b := sequenceWidth es
    ⟨a.canBeEmpty && b.canBeEmpty, a.alwaysEmpty && b.alwaysEmpty⟩

def choiceWidth : List Expr → Width
  | [] => ⟨false, true⟩
  | e :: es =>
    let a := e.width
    let b := choiceWidth es
    ⟨a.canBeEmpty || b.canBeEmpty, a.alwaysEmpty && b.alwaysEmpty⟩
end

/-- The size of a repetition of something of size `n`.  What is always empty is repeated at most
once, and the copies that have to be there come first. -/
def iterateSize (w : Width) (n least : Nat) (most : Option Nat) : Nat :=
  let (least, most) := if w.alwaysEmpty then (min least 1, some (min (most.getD 1) 1)) else (least, most)
  match most with
  | some 0 => stateSize
  | some m =>
    if m = least then max stateSize (least * n)
    else least * n + (m - least) * (n + stateSize + 2 * branchSize) + 2 * stateSize
  | none =>
    if least = 0 then n + (if w.canBeEmpty then 3 * stateSize else stateSize) + 2 * branchSize
    else least * n + stateSize + 2 * branchSize

mutual
def Expr.size (reverse : Bool) : Expr → Nat
  | .empty => stateSize
  | .set s => setSize reverse s
  | .look _ => stateSize
  | .capture e => e.size reverse + (if reverse then 0 else 2 * stateSize)
  | .sequence es => sequenceSize reverse es
  | .choice es => choiceSize reverse es + 2 * stateSize
  | .iterate least most e => iterateSize e.width (e.size reverse) least most

def sequenceSize (reverse : Bool) : List Expr → Nat
  | [] => 0
  | e :: es => e.size reverse + sequenceSize reverse es

def choiceSize (reverse : Bool) : List Expr → Nat
  | [] => 0
  | e :: es => e.size reverse + branchSize + choiceSize reverse es
end

/-- Ten mebioctets. -/
def sizeLimit : Nat := 10 * Nat.pow 2 20

def Expr.fits (e : Expr) : Bool := e.size false ≤ sizeLimit && e.size true ≤ sizeLimit

end HeatStack.Regex
