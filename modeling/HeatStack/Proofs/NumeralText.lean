import HeatStack.Json.Syntax
import Mathlib.Tactic.SplitIfs

/-! # Numbers as they are written

A number of a JSON text is written as a numeral that the grammar takes whole: digits stand wherever
the grammar wants them, and no zero stands before another digit (`Numeral.Proper`).  Only what could
go on with a numeral must not stand behind it (`Stops`).  The decimals that are written come from a
search that finds no zero, so the one decimal that is zero is the zero itself. -/
set_option autoImplicit false
namespace HeatStack.Number.Shortest

/-- Half of a step is no longer than the number. -/
theorem step_le_magnitude {x : Binary64} (positive : x.magnitude ≠ 0) :
    Nat.pow 2 (x.exponentField - 1) ≤ x.magnitude := by
  unfold Binary64.magnitude at positive ⊢
  split_ifs at positive ⊢ with subnormal
  · rw [subnormal]
    exact Nat.one_le_iff_ne_zero.mpr positive
  · exact Nat.le_mul_of_pos_left _ (Nat.lt_of_lt_of_le (by decide) (Nat.le_add_right _ _))

theorem around_low_pos {x : Binary64} (positive : x.magnitude ≠ 0) : 0 < (Interval.around x).low := by
  have step := step_le_magnitude positive
  have one : 0 < Nat.pow 2 (x.exponentField - 1) := Nat.two_pow_pos _
  simp only [Interval.around]
  generalize Nat.pow 2 (x.exponentField - 1) = half at *
  split_ifs <;> omega

/-- The unit of a grid, and what its power of ten divides by where that is negative. -/
def gridUnit (p : Int) : Nat := Nat.pow 10 p.toNat * Nat.pow 2 1076

def gridDivisor (p : Int) : Nat := Nat.pow 10 (-p).toNat

/-- What is found on a grid lies in the interval. -/
theorem onGrid?_holds {tie : Tie} {i : Interval} {p : Int} {d : Nat} (found : onGrid? tie i p = some d) :
    i.holds (d * gridUnit p) (gridDivisor p) = true := by
  unfold onGrid? at found
  unfold gridUnit gridDivisor
  simp only at found
  generalize Nat.pow 10 p.toNat * Nat.pow 2 1076 = a at found ⊢
  generalize Nat.pow 10 (-p).toNat = b at found ⊢
  generalize i.value * b / a = k at found
  split at found
  · next down up =>
      split at found
      · cases found
        exact down
      · split at found
        · cases found
          exact up
        · cases tie with
          | toEven =>
              cases found
              split
              · exact down
              · exact up
          | away =>
              cases found
              exact up
  · next down _ =>
      cases found
      exact down
  · next _ up =>
      cases found
      exact up
  · cases found

theorem onGrid?_pos {tie : Tie} {i : Interval} {p : Int} {d : Nat} (low : 0 < i.low)
    (found : onGrid? tie i p = some d) : d ≠ 0 := by
  rintro rfl
  have holds := onGrid?_holds found
  have one : 0 < gridDivisor p := Nat.pow_pos (by decide)
  have some_low : 0 < i.low * gridDivisor p := Nat.mul_pos low one
  unfold Interval.holds at holds
  split at holds
  · simp at holds
    omega
  · simp at holds

/-- The decimal found is zero only where none is found, and then has no power of ten. -/
theorem search_settled {tie : Tie} {i : Interval} (low : 0 < i.low) (lead : Int) :
    ∀ k n, (search tie i lead k n).1 = 0 → (search tie i lead k n).2 = 0 := by
  intro k
  induction k with
  | zero => exact fun _ _ => rfl
  | succ k ih =>
      intro n zero
      unfold search at zero ⊢
      cases found : onGrid? tie i (lead - n) with
      | none =>
          rw [found] at zero
          exact ih (n + 1) zero
      | some d =>
          rw [found] at zero
          exact absurd zero (onGrid?_pos low found)

theorem dropZeros_settled (fuel : Nat) : ∀ d : Nat × Int, (d.1 = 0 → d.2 = 0) →
    (dropZeros fuel d).1 = 0 → (dropZeros fuel d).2 = 0 := by
  induction fuel with
  | zero => exact fun _ settled => settled
  | succ fuel ih =>
      rintro ⟨d, e⟩ settled
      unfold dropZeros
      split
      · next more => exact ih (d / 10, e + 1) fun zero => by simp only at zero; omega
      · exact settled

theorem decimal_settled (tie : Tie) (x : Binary64) :
    (decimal tie x).digits = 0 → (decimal tie x).exponent = 0 := by
  unfold decimal
  split_ifs with zero
  · exact fun _ => rfl
  · exact dropZeros_settled 20 _ (search_settled (around_low_pos zero) _ 18 0)

end HeatStack.Number.Shortest

namespace HeatStack.Json
open HeatStack.Number HeatStack.Text

/-- What may stand behind a numeral: nothing that would go on with it. -/
def Stops (rest : List Char) : Prop :=
  ∀ c ∈ rest.head?, isDigit c = false ∧ c ≠ '.' ∧ c ≠ 'e' ∧ c ≠ 'E'

/-- At least one character, and none but digits. -/
def Digits (ds : List Char) : Prop := ds ≠ [] ∧ ∀ c ∈ ds, isDigit c = true

theorem digits_toDigits (n : Nat) : Digits (Nat.toDigits 10 n) :=
  ⟨Nat.toDigits_ne_nil, fun _ member => Nat.isDigit_of_mem_toDigits (by decide) (by decide) member⟩

/-- Digits end where something else stands. -/
theorem digits_end {ds rest : List Char} (digits : Digits ds)
    (stop : ∀ c ∈ rest.head?, isDigit c = false) :
    (ds ++ rest).takeWhile isDigit = ds ∧ (ds ++ rest).dropWhile isDigit = rest := by
  have none : rest.takeWhile isDigit = [] ∧ rest.dropWhile isDigit = rest := by
    cases rest with
    | nil => exact ⟨rfl, rfl⟩
    | cons c rest =>
        have other := stop c rfl
        exact ⟨by rw [List.takeWhile_cons, other]; rfl, by rw [List.dropWhile_cons, other]; rfl⟩
  rw [List.takeWhile_append_of_pos digits.2, List.dropWhile_append_of_pos digits.2, none.1, none.2,
    List.append_nil]
  exact ⟨rfl, rfl⟩

namespace Syntax

theorem digits?_append {ds rest : List Char} (digits : Digits ds)
    (stop : ∀ c ∈ rest.head?, isDigit c = false) : digits? (ds ++ rest) = some (ds, rest) := by
  obtain ⟨taken, left⟩ := digits_end digits stop
  simp only [digits?, taken, left, List.isEmpty_iff, digits.1, if_false]

end Syntax

namespace Numeral
def fractionChars (n : Numeral) : List Char := if n.places = [] then [] else '.' :: n.places

def exponentChars (n : Numeral) : List Char :=
  match n.exponent with
  | none => []
  | some (below, ds) => 'e' :: (if below then '-' else '+') :: ds

/-- The numeral as it is written, without the sign in front. -/
def unsigned (n : Numeral) : List Char := n.whole ++ (n.fractionChars ++ n.exponentChars)

/-- Digits wherever the grammar wants them, and no zero before another digit. -/
structure Proper (n : Numeral) : Prop where
  whole : Digits n.whole
  lead : n.whole = ['0'] ∨ n.whole.head? ≠ some '0'
  places : ∀ c ∈ n.places, isDigit c = true
  exponent : ∀ below ds, n.exponent = some (below, ds) → Digits ds

end Numeral

namespace Syntax
open Numeral

theorem exponent?_chars {n : Numeral} (proper : n.Proper) {rest : List Char} (stops : Stops rest) :
    exponent? (n.exponentChars ++ rest) = some (n.exponent, rest) := by
  unfold exponentChars
  cases written : n.exponent with
  | none =>
      cases rest with
      | nil => rfl
      | cons c rest =>
          obtain ⟨-, -, small, large⟩ := stops c rfl
          simp only [List.nil_append, exponent?, small, large, or_self, if_false]
  | some mark =>
      obtain ⟨below, ds⟩ := mark
      have read := digits?_append (proper.exponent below ds written) fun c member => (stops c member).1
      cases below with
      | false => simp [exponent?, read]
      | true => simp [exponent?, read]

/-- The part of a numeral behind its first digits. -/
def behind? (negative : Bool) (whole r : List Char) : Option (Numeral × List Char) := do
  let (places, r) ← match r with
    | '.' :: r => digits? r
    | r => some ([], r)
  let (exponent, r) ← exponent? r
  some (⟨negative, whole, places, exponent⟩, r)

theorem numeral?_zero (negative : Bool) (r : List Char) (stop : ∀ c ∈ r.head?, isDigit c = false) :
    numeral? negative ('0' :: r) = behind? negative ['0'] r := by
  have last : r.head?.any isDigit = false := by
    cases r with
    | nil => rfl
    | cons c r => exact stop c rfl
  simp only [numeral?, last, Bool.false_eq_true, if_false, behind?]
  rfl

theorem numeral?_digits {negative : Bool} {ds r : List Char} (digits : Digits ds)
    (lead : ds.head? ≠ some '0') (stop : ∀ c ∈ r.head?, isDigit c = false) :
    numeral? negative (ds ++ r) = behind? negative ds r := by
  have read := digits?_append digits stop
  obtain ⟨d, ds, rfl⟩ := List.exists_cons_of_ne_nil digits.1
  rw [List.cons_append] at *
  unfold numeral?
  split
  · next same =>
    cases same
    exact absurd rfl lead
  · rw [read]
    rfl

theorem exponentChars_stop (n : Numeral) {rest : List Char} (stops : Stops rest) :
    ∀ c ∈ (n.exponentChars ++ rest).head?, isDigit c = false ∧ c ≠ '.' := by
  unfold exponentChars
  cases n.exponent with
  | none => exact fun c member => ⟨(stops c member).1, (stops c member).2.1⟩
  | some mark =>
      intro c member
      cases member
      exact ⟨rfl, by decide⟩

theorem fractionChars_stop (n : Numeral) {rest : List Char} (stops : Stops rest) :
    ∀ c ∈ (n.fractionChars ++ (n.exponentChars ++ rest)).head?, isDigit c = false := by
  unfold fractionChars
  split_ifs
  · exact fun c member => (exponentChars_stop n stops c member).1
  · intro c member
    cases member
    rfl

theorem behind?_chars {n : Numeral} (proper : n.Proper) {rest : List Char} (stops : Stops rest) :
    behind? n.negative n.whole (n.fractionChars ++ (n.exponentChars ++ rest)) = some (n, rest) := by
  have exponent := exponent?_chars proper stops
  have stop := exponentChars_stop n stops
  unfold fractionChars
  split_ifs with none
  · rw [List.nil_append]
    unfold behind?
    split
    · next same => exact absurd rfl (stop '.' (by rw [same]; rfl)).2
    · simp only [← none, exponent, bind, Option.bind]
  · have places := digits?_append ⟨none, proper.places⟩ fun c member => (stop c member).1
    simp only [List.cons_append, behind?, places, exponent, bind, Option.bind]

/-- The grammar takes a numeral as it is written. -/
theorem numeral?_unsigned {n : Numeral} (proper : n.Proper) {rest : List Char} (stops : Stops rest) :
    numeral? n.negative (n.unsigned ++ rest) = some (n, rest) := by
  rw [← behind?_chars proper stops, unsigned, List.append_assoc, List.append_assoc]
  rcases proper.lead with zero | other
  · rw [zero]
    exact numeral?_zero _ _ (fractionChars_stop n stops)
  · exact numeral?_digits proper.whole other (fractionChars_stop n stops)

end Syntax

/-! ## The numerals that are written -/

theorem head?_toDigits {n : Nat} (positive : 0 < n) : (Nat.toDigits 10 n).head? ≠ some '0' := by
  induction n using Nat.strongRecOn with
  | ind n ih =>
      by_cases small : n < 10
      · rw [Nat.toDigits_of_lt_base small, List.head?_cons]
        have all : ∀ k < 10, 0 < k → Nat.digitChar k ≠ '0' := by decide
        exact fun same => all n small positive (Option.some.inj same)
      · have back := Nat.toDigits_of_base_le (by decide : 1 < 10) (Nat.le_of_not_lt small)
        have front := ih (n / 10) (by omega) (by omega)
        obtain ⟨d, ds, whole⟩ := List.exists_cons_of_ne_nil (Nat.toDigits_ne_nil (n := n / 10) (b := 10))
        rw [back, whole]
        rw [whole] at front
        exact front

namespace Numeral

def ofInt (n : Int) : Numeral := ⟨n < 0, Nat.toDigits 10 n.natAbs, [], none⟩

theorem toDigits_lead (n : Nat) : Nat.toDigits 10 n = ['0'] ∨ (Nat.toDigits 10 n).head? ≠ some '0' := by
  rcases Nat.eq_zero_or_pos n with rfl | positive
  · exact .inl (Nat.toDigits_zero 10)
  · exact .inr (head?_toDigits positive)

theorem proper_ofInt (n : Int) : (ofInt n).Proper where
  whole := digits_toDigits _
  lead := toDigits_lead _
  places := fun _ member => nomatch member
  exponent := fun _ _ same => nomatch same

/-- Digits with the power of ten of the last, placed around the point. -/
def positional (negative : Bool) (digits : List Char) (exponent : Int) : Numeral :=
  if 0 ≤ exponent then ⟨negative, digits ++ List.replicate exponent.toNat '0', ['0'], none⟩
  else
    let places := (-exponent).toNat
    if places < digits.length then
      ⟨negative, digits.take (digits.length - places), digits.drop (digits.length - places), none⟩
    else ⟨negative, ['0'], List.replicate (places - digits.length) '0' ++ digits, none⟩

/-- Digits behind the first as places, with the power of ten of the first. -/
def scientific (negative : Bool) (digits : List Char) (lead : Int) : Numeral :=
  ⟨negative, digits.take 1, digits.drop 1, some (lead < 0, Nat.toDigits 10 lead.natAbs)⟩

def ofDecimal (d : Decimal) : Numeral :=
  let digits := Nat.toDigits 10 d.digits
  let lead := d.exponent + digits.length - 1
  if d.digits = 0 || numberStyle.positional lead then positional d.negative digits d.exponent
  else scientific d.negative digits lead

def chars (n : Numeral) : List Char := if n.negative then '-' :: n.unsigned else n.unsigned

theorem places_positional (negative : Bool) {digits : List Char} (some_digit : digits ≠ [])
    (exponent : Int) : (positional negative digits exponent).places ≠ [] := by
  unfold positional
  simp only
  split_ifs with whole short
  · exact List.cons_ne_nil _ _
  · intro none
    have all := List.drop_eq_nil_iff.mp none
    omega
  · exact List.append_ne_nil_of_right_ne_nil _ some_digit

theorem unsigned_positional (negative : Bool) {digits : List Char} (some_digit : digits ≠ [])
    (exponent : Int) :
    (positional negative digits exponent).unsigned = numberStyle.positionalText digits exponent := by
  have places := places_positional negative some_digit exponent
  unfold positional at places ⊢
  unfold NumberStyle.positionalText
  by_cases whole : 0 ≤ exponent
  · rw [if_pos whole, if_pos whole]
    rfl
  · rw [if_neg whole] at places ⊢
    rw [if_neg whole]
    simp only at places ⊢
    by_cases short : (-exponent).toNat < digits.length
    · rw [if_pos short] at places ⊢
      rw [if_pos short]
      simp only [unsigned, fractionChars, exponentChars, places, if_false, List.append_nil]
    · rw [if_neg short] at places ⊢
      rw [if_neg short]
      simp only [unsigned, fractionChars, exponentChars, places, if_false, List.append_nil]
      rfl

theorem unsigned_scientific (negative : Bool) {digits : List Char} (some_digit : digits ≠ [])
    (lead : Int) :
    (scientific negative digits lead).unsigned = numberStyle.exponentText digits lead := by
  obtain ⟨d, ds, rfl⟩ := List.exists_cons_of_ne_nil some_digit
  unfold scientific NumberStyle.exponentText
  by_cases below : lead < 0
  · cases ds <;> simp [unsigned, fractionChars, exponentChars, below]
  · cases ds <;> simp [unsigned, fractionChars, exponentChars, below, numberStyle]

theorem chars_ofDecimal (d : Decimal) : (ofDecimal d).chars = numberStyle.decimalText d := by
  have some_digit : Nat.toDigits 10 d.digits ≠ [] := Nat.toDigits_ne_nil
  have sign : (ofDecimal d).negative = d.negative := by
    unfold ofDecimal positional scientific
    simp only
    split_ifs <;> rfl
  have body : (ofDecimal d).unsigned =
      if (d.digits = 0 || numberStyle.positional (d.exponent + (Nat.toDigits 10 d.digits).length - 1))
        then numberStyle.positionalText (Nat.toDigits 10 d.digits) d.exponent
        else numberStyle.exponentText (Nat.toDigits 10 d.digits)
          (d.exponent + (Nat.toDigits 10 d.digits).length - 1) := by
    unfold ofDecimal
    simp only
    split_ifs
    · exact unsigned_positional _ some_digit _
    · exact unsigned_scientific _ some_digit _
  rw [chars, sign, body]
  rfl

theorem proper_positional (negative : Bool) {digits : List Char} {exponent : Int}
    (some_digit : Digits digits)
    (lead : digits = ['0'] ∧ exponent ≤ 0 ∨ digits.head? ≠ some '0') :
    (positional negative digits exponent).Proper := by
  have zeros : ∀ n, ∀ c ∈ List.replicate n '0', isDigit c = true := by
    intro n c member
    rw [List.eq_of_mem_replicate member]
    rfl
  have zero_digit : ∀ c ∈ ['0'], isDigit c = true := List.forall_mem_singleton.mpr rfl
  obtain ⟨d, ds, rfl⟩ := List.exists_cons_of_ne_nil some_digit.1
  unfold positional
  split_ifs with whole
  · refine ⟨⟨by simp, List.forall_mem_append.mpr ⟨some_digit.2, zeros _⟩⟩, ?_, zero_digit, nofun⟩
    rcases lead with ⟨zero, small⟩ | other
    · obtain rfl : exponent = 0 := by omega
      exact .inl (by rw [zero]; rfl)
    · exact .inr other
  · simp only
    split_ifs with short
    · have front : (d :: ds).take ((d :: ds).length - (-exponent).toNat) =
          d :: ds.take (ds.length - (-exponent).toNat) := by
        rw [List.length_cons] at short ⊢
        rw [show ds.length + 1 - (-exponent).toNat = ds.length - (-exponent).toNat + 1 by omega]
        rfl
      refine ⟨⟨by rw [front]; exact List.cons_ne_nil _ _, fun c member => some_digit.2 c (List.mem_of_mem_take member)⟩, ?_,
        fun c member => some_digit.2 c (List.mem_of_mem_drop member), nofun⟩
      rcases lead with ⟨zero, -⟩ | other
      · rw [zero, List.length_singleton] at short
        omega
      · rw [front]
        exact .inr other
    · exact ⟨⟨List.cons_ne_nil _ _, zero_digit⟩, .inl rfl,
        List.forall_mem_append.mpr ⟨zeros _, some_digit.2⟩, nofun⟩

theorem proper_scientific (negative : Bool) {digits : List Char} (lead : Int)
    (some_digit : Digits digits) (front : digits.head? ≠ some '0') :
    (scientific negative digits lead).Proper := by
  obtain ⟨d, ds, rfl⟩ := List.exists_cons_of_ne_nil some_digit.1
  refine ⟨⟨by simp [scientific], ?_⟩, .inr front, ?_, ?_⟩
  · exact fun c member => some_digit.2 c (List.mem_of_mem_take member)
  · exact fun c member => some_digit.2 c (List.mem_of_mem_drop member)
  · intro below ds same
    cases same
    exact digits_toDigits _

/-- A decimal that is written well: where it is zero, it has no power of ten. -/
theorem proper_ofDecimal {d : Decimal} (settled : d.digits = 0 → d.exponent = 0) :
    (ofDecimal d).Proper := by
  have digits := digits_toDigits d.digits
  unfold ofDecimal
  simp only
  split_ifs with place
  · refine proper_positional _ digits ?_
    rcases Nat.eq_zero_or_pos d.digits with zero | positive
    · exact .inl ⟨by rw [zero, Nat.toDigits_zero], Int.le_of_eq (settled zero)⟩
    · exact .inr (head?_toDigits positive)
  · have positive : 0 < d.digits := by
      simp only [Bool.or_eq_true, decide_eq_true_eq, not_or] at place
      omega
    exact proper_scientific _ _ digits (head?_toDigits positive)

end Numeral

/-- What a number is written as, in the grammar; a number that is not finite is written as null. -/
def Syntax.ofNumeric : Numeric → Syntax
  | .integer n => .number (Numeral.ofInt n)
  | .binary x => if x.isFinite then .number (Numeral.ofDecimal (Shortest.decimal .toEven x)) else .null

theorem unsigned_ofInt (n : Int) : (Numeral.ofInt n).unsigned = Nat.toDigits 10 n.natAbs := by
  simp only [Numeral.ofInt, Numeral.unsigned, Numeral.fractionChars, Numeral.exponentChars, if_true,
    List.append_nil]

theorem chars_ofInt (n : Int) : (Numeral.ofInt n).chars = (toString n).toList := by
  unfold Numeral.chars
  rw [unsigned_ofInt]
  cases n with
  | ofNat m =>
      have positive : (Numeral.ofInt (Int.ofNat m)).negative = false := by
        simp [Numeral.ofInt]
      rw [positive]
      change Nat.toDigits 10 m = (toString m).toList
      rw [Nat.toString_eq_ofList_toDigits, String.toList_ofList]
  | negSucc m =>
      have below : (Numeral.ofInt (Int.negSucc m)).negative = true := by
        simp [Numeral.ofInt, Int.negSucc_lt_zero]
      rw [below]
      change '-' :: Nat.toDigits 10 (m + 1) = ("-" ++ toString (m + 1)).toList
      rw [Nat.toString_eq_ofList_toDigits, String.toList_append, String.toList_ofList,
        String.toList_ofList]
      rfl

theorem numericText_binary (x : Binary64) : (numberStyle.numericText (.binary x)).toList =
    if x.isFinite then (Numeral.ofDecimal (Shortest.decimal .toEven x)).chars else "null".toList := by
  change (numberStyle.text x).toList = _
  unfold NumberStyle.text
  by_cases finite : x.exponentField = 2047
  · have special : x.isFinite = false := by simp [Binary64.isFinite, finite]
    rw [special]
    by_cases whole : x.fraction = 0
    · have infinite : x.isInfinite = true := by simp [Binary64.isInfinite, finite, whole]
      have number : x.isNaN = false := by simp [Binary64.isNaN, whole]
      rw [infinite, number]
      cases x.negative <;> rfl
    · have nan : x.isNaN = true := by simp [Binary64.isNaN, finite, whole]
      rw [nan]
      rfl
  · have plain : x.isFinite = true := by simp [Binary64.isFinite, finite]
    have number : x.isNaN = false := by simp [Binary64.isNaN, finite]
    have bounded : x.isInfinite = false := by simp [Binary64.isInfinite, finite]
    rw [plain, number, bounded, Numeral.chars_ofDecimal]
    exact String.toList_ofList

end HeatStack.Json
