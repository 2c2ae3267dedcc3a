import HeatStack.Text.Ascii

/-! # Punycode

A label of a domain name in letters, digits and hyphens.  Its ASCII characters stand first, and a
hyphen after them.  The others follow in the order of their code points, each as a number that tells
how many pairs of a code point and a place have been passed over since the one before.  A number has
digits of base 36 whose weights grow with a bias that is adapted to the numbers so far. -/
set_option autoImplicit false
namespace HeatStack.Url.Punycode
open HeatStack.Text

def isAscii (c : Char) : Bool := c.toNat < 128

def firstPoint : Nat := 128

def firstBias : Nat := 72

/-! ## Numbers -/

/-- Letters stand for the digits below 26. -/
def digitChar (d : Nat) : Char := if d < 26 then Char.ofNat (97 + d) else Char.ofNat (22 + d)

def digit? (c : Char) : Option Nat :=
  if 'a' ≤ c ∧ c ≤ 'z' then some (c.toNat - 97)
  else if 'A' ≤ c ∧ c ≤ 'Z' then some (c.toNat - 65)
  else if isDigit c then some (c.toNat - 22)
  else none

/-- A digit below this is the last one of its number. -/
def threshold (bias position : Nat) : Nat := min 26 (max 1 (36 * position - bias))

theorem one_le_threshold (bias position : Nat) : 1 ≤ threshold bias position := by
  unfold threshold
  omega

theorem threshold_le (bias position : Nat) : threshold bias position ≤ 26 := by
  unfold threshold
  omega

def numberChars (bias position n : Nat) : List Char :=
  let t := threshold bias position
  if n < t then [digitChar n]
  else digitChar (t + (n - t) % (36 - t)) :: numberChars bias (position + 1) ((n - t) / (36 - t))
termination_by n
decreasing_by
  have positive := one_le_threshold bias position
  have below := threshold_le bias position
  refine Nat.lt_of_le_of_lt (Nat.div_le_self ..) ?_
  omega

/-- The number at the start of a text, of which the digits from `position` on have this weight, and
the rest of the text. -/
def number? (bias position weight : Nat) : List Char → Option (Nat × List Char)
  | [] => none
  | c :: rest =>
    match digit? c with
    | none => none
    | some d =>
      let t := threshold bias position
      if d < t then some (d * weight, rest)
      else (number? bias (position + 1) (weight * (36 - t)) rest).map fun (n, rest) =>
        (n + d * weight, rest)

theorem length_of_number? {bias position weight : Nat} {cs rest : List Char} {n : Nat}
    (read : number? bias position weight cs = some (n, rest)) : rest.length < cs.length := by
  induction cs generalizing position weight n with
  | nil => simp [number?] at read
  | cons c tail ih =>
    simp only [number?] at read
    cases digit : digit? c with
    | none => simp [digit] at read
    | some d =>
      simp only [digit] at read
      split at read
      · simp only [Option.some.injEq, Prod.mk.injEq] at read
        simp [read.2]
      · obtain ⟨⟨m, more⟩, found, same⟩ := Option.map_eq_some_iff.mp read
        simp only [Prod.mk.injEq] at same
        have shorter := ih (same.2 ▸ found)
        simp only [List.length_cons]
        omega

/-- Divides a number down until it is small, and counts 36 for each division. -/
def reduced (n : Nat) : Nat :=
  if 455 < n then 36 + reduced (n / 35) else 36 * n / (n + 38)
termination_by n
decreasing_by omega

/-- The bias after a number: the first one counts less, and longer labels make for smaller ones. -/
def adapt (n length : Nat) (first : Bool) : Nat :=
  let n := if first then n / 700 else n / 2
  reduced (n + n / length)

/-! ## Decoding -/

structure Reader where
  done : List Char
  point : Nat
  place : Nat
  bias : Nat
  first : Bool

def Reader.take? (r : Reader) (n : Nat) : Option Reader :=
  let length := r.done.length + 1
  let total := r.place + n
  let point := r.point + total / length
  if h : point.isValidChar then
    some ⟨r.done.insertIdx (total % length) (Char.ofNatAux point h), point, total % length + 1,
      adapt n length r.first, false⟩
  else none

def decodeRest (r : Reader) (cs : List Char) : Option (List Char) :=
  match cs with
  | [] => some r.done
  | c :: rest =>
    match _read : number? r.bias 1 1 (c :: rest) with
    | none => none
    | some (n, after) =>
      match r.take? n with
      | none => none
      | some r => decodeRest r after
termination_by cs.length
decreasing_by exact length_of_number? _read

/-- The ASCII characters before the last hyphen, and what follows it. -/
def splitBasic (cs : List Char) : List Char × List Char :=
  match splitOnce '-' cs.reverse with
  | none => ([], cs)
  | some (rest, basic) => (basic.reverse, rest.reverse)

def decode? (cs : List Char) : Option (List Char) :=
  let (basic, rest) := splitBasic cs
  if basic.all isAscii then decodeRest ⟨basic, firstPoint, 0, firstBias, true⟩ rest else none

/-! ## Encoding -/

structure Writer where
  output : List Char
  /-- What has been passed over since the last number. -/
  passed : Nat
  bias : Nat
  /-- How many characters have been written. -/
  written : Nat
  first : Bool

/-- Passes over a character, or writes it if it is the one in turn. -/
def Writer.visit (point : Nat) (w : Writer) (c : Char) : Writer :=
  if c.toNat < point then { w with passed := w.passed + 1 }
  else if c.toNat = point then
    ⟨w.output ++ numberChars w.bias 1 w.passed, 0, adapt w.passed (w.written + 1) w.first,
      w.written + 1, false⟩
  else w

/-- Writes the characters with each of these code points, which come in increasing order. -/
def encodePoints (cs : List Char) (w : Writer) (next : Nat) : List Nat → List Char
  | [] => w.output
  | point :: points =>
    let w := { w with passed := w.passed + (point - next) * (w.written + 1) }
    let w := cs.foldl (Writer.visit point) w
    encodePoints cs { w with passed := w.passed + 1 } (point + 1) points

def encode (cs : List Char) : List Char :=
  let basic := cs.filter isAscii
  let points := (((cs.filter fun c => !isAscii c).map Char.toNat).mergeSort (· ≤ ·)).eraseReps
  let start := if basic.isEmpty then [] else basic ++ ['-']
  encodePoints cs ⟨start, 0, firstBias, basic.length, true⟩ firstPoint points

end HeatStack.Url.Punycode
