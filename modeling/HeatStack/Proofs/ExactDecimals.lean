import HeatStack.Proofs.ReadableNumbers
import HeatStack.Template.ValueType

/-! # Exact decimals

Every finite number is denoted by a text.  Its magnitude counts units of `2 ^ -1074`, so that many
times `5 ^ 1074` counts units of `10 ^ -1074`, and a decimal that is exact is rounded to the number
itself. -/
set_option autoImplicit false
namespace HeatStack.Number
open HeatStack.Text HeatStack.Json

/-! ## Ratios that need no rounding -/

theorem roundHalfEven_mul {den : Nat} (positive : 0 < den) (n : Nat) :
    roundHalfEven (den * n) den = n := by
  simp [roundHalfEven, Nat.mul_div_cancel_left n positive, positive.ne]

namespace Binary64

theorem ofPattern_parts (x : Binary64) :
    ofPattern x.negative (x.exponentField * 2 ^ 52 + x.fraction) = x := by
  have bits := x.bits.toNat_lt
  have small : x.exponentField * 2 ^ 52 + x.fraction < 2 ^ 63 := by
    unfold exponentField fraction
    rw [Nat.pow_eq, Nat.pow_eq]
    omega
  have same : (ofPattern x.negative (x.exponentField * 2 ^ 52 + x.fraction)).bits = x.bits := by
    apply UInt64.toNat_inj.mp
    rw [toNat_ofPattern _ small]
    unfold negative exponentField fraction
    simp only [Nat.pow_eq, decide_eq_true_eq]
    split_ifs <;> omega
  cases x
  exact congrArg Binary64.mk same

theorem log2_significand {s : Nat} (full : 2 ^ 52 ≤ s) (narrow : s < 2 ^ 53) (k : Nat) :
    Nat.log2 (s * 2 ^ k) = 52 + k := by
  have power := Nat.two_pow_pos k
  have positive : s * 2 ^ k ≠ 0 := (Nat.mul_pos (by omega) power).ne'
  refine (Nat.log2_eq_iff positive).mpr ⟨?_, ?_⟩
  · rw [Nat.pow_add]
    exact Nat.mul_le_mul_right _ full
  · rw [show 52 + k + 1 = 53 + k by omega, Nat.pow_add]
    exact Nat.mul_lt_mul_of_pos_right narrow power

theorem fraction_lt (x : Binary64) : x.fraction < 2 ^ 52 := Nat.mod_lt _ (Nat.two_pow_pos 52)

/-- A magnitude is its significand times the places that rounding cuts, and both stand in the
pattern. -/
theorem significand_exact (x : Binary64) :
    ∃ significand, x.magnitude = 2 ^ (Nat.log2 x.magnitude - 52) * significand ∧
      (Nat.log2 x.magnitude - 52) * 2 ^ 52 + significand = x.exponentField * 2 ^ 52 + x.fraction := by
  have short := x.fraction_lt
  unfold magnitude
  rw [Nat.pow_eq, Nat.pow_eq]
  split_ifs with zero
  · have none : Nat.log2 x.fraction - 52 = 0 := by
      refine (log2_cut x.fraction).2.resolve_right fun full => ?_
      have more := Nat.le_mul_of_pos_right (2 ^ 52) (Nat.two_pow_pos (Nat.log2 x.fraction - 52))
      omega
    exact ⟨x.fraction, by rw [none, Nat.pow_zero, Nat.one_mul], by rw [none, zero]⟩
  · have cut : Nat.log2 ((2 ^ 52 + x.fraction) * 2 ^ (x.exponentField - 1)) - 52 =
        x.exponentField - 1 := by
      rw [log2_significand (by omega) (by omega), Nat.add_sub_cancel_left]
    refine ⟨2 ^ 52 + x.fraction, ?_, ?_⟩
    · rw [cut, Nat.mul_comm]
    · rw [cut]
      omega

theorem pattern_lt {x : Binary64} (finite : x.isFinite = true) :
    x.exponentField * 2 ^ 52 + x.fraction < infinityPattern := by
  have short := x.fraction_lt
  have field : x.exponentField < 2 ^ 11 := Nat.mod_lt _ (Nat.two_pow_pos 11)
  have below : x.exponentField ≠ 2047 := bne_iff_ne.mp finite
  unfold infinityPattern
  rw [Nat.pow_eq]
  omega

/-- A ratio that is a finite number is rounded to it. -/
theorem ofRatio_exact {x : Binary64} (finite : x.isFinite = true) {num den : Nat}
    (positive : 0 < den) (exact : num * unit = den * x.magnitude) :
    ofRatio x.negative num den = x := by
  obtain ⟨significand, whole, pattern⟩ := x.significand_exact
  have places : 0 < den * 2 ^ (Nat.log2 x.magnitude - 52) :=
    Nat.mul_pos positive (Nat.two_pow_pos _)
  have rounded : roundHalfEven (den * x.magnitude) (den * 2 ^ (Nat.log2 x.magnitude - 52)) =
      significand := by
    conv => lhs; arg 1; rw [whole, ← Nat.mul_assoc]
    exact roundHalfEven_mul places significand
  rw [ofRatio_eq, exact, Nat.mul_div_cancel_left _ positive, rounded, pattern,
    Nat.min_eq_left (pattern_lt finite).le, ofPattern_parts]

theorem zero_of_magnitude {x : Binary64} (nothing : x.magnitude = 0) : zero x.negative = x := by
  obtain ⟨significand, whole, pattern⟩ := x.significand_exact
  rw [nothing, Nat.log2_zero, Nat.zero_sub, Nat.pow_zero, Nat.one_mul] at whole
  rw [nothing, Nat.log2_zero, Nat.zero_sub, Nat.zero_mul, Nat.zero_add, ← whole] at pattern
  conv => rhs; rw [← x.ofPattern_parts, ← pattern]
  rfl

end Binary64

/-! ## Texts that are exact -/

namespace Decimal

/-- How many units of `10 ^ -1074` the smallest positive number has. -/
@[irreducible]
def fives : Nat := Nat.pow 5 1074

theorem fives_unit : fives * Binary64.unit = Nat.pow 10 1074 := by
  have product (a b n : Nat) : Nat.pow a n * Nat.pow b n = Nat.pow (a * b) n :=
    (Nat.mul_pow a b n).symm
  unfold fives Binary64.unit
  rw [product]

theorem fives_large : 2 ^ 1000 ≤ fives := by
  unfold fives
  rw [Nat.pow_eq]
  exact Nat.le_trans (Nat.pow_le_pow_left (by decide : 2 ≤ 5) 1000)
    (Nat.pow_le_pow_right (by decide : 0 < 5) (by decide : 1000 ≤ 1074))

/-- The decimal that is the number itself. -/
def exact (x : Binary64) : Decimal := ⟨x.negative, x.magnitude * fives, -1074⟩

theorem toBinary64_exact {x : Binary64} (finite : x.isFinite = true) : (exact x).toBinary64 = x := by
  have tens : 0 < Nat.pow 10 1074 := Nat.pow_pos (by decide)
  have five : fives ≠ 0 := (Nat.lt_of_lt_of_le (Nat.two_pow_pos 1000) fives_large).ne'
  have rounded : Binary64.ofRatio x.negative (x.magnitude * fives) (Nat.pow 10 1074) = x := by
    refine Binary64.ofRatio_exact finite tens ?_
    rw [Nat.mul_assoc, fives_unit, Nat.mul_comm]
  unfold toBinary64 exact
  simp only
  by_cases zero : x.magnitude = 0
  · rw [if_pos (by rw [zero, Nat.zero_mul])]
    exact Binary64.zero_of_magnitude zero
  · have nonzero : x.magnitude * fives ≠ 0 := Nat.mul_ne_zero zero five
    have large : 1000 ≤ Nat.log2 (x.magnitude * fives) :=
      (Nat.le_log2 nonzero).mpr
        (Nat.le_trans fives_large (Nat.le_mul_of_pos_left _ (Nat.pos_of_ne_zero zero)))
    rw [if_neg nonzero, if_neg (by decide), if_neg (by omega), if_neg (by decide)]
    exact rounded

/-- Digits with a power of ten below them. -/
def powerChars (n k : Nat) : List Char := Nat.toDigits 10 n ++ 'e' :: '-' :: Nat.toDigits 10 k

theorem parseExponent?_below (k : Nat) :
    parseExponent? ('-' :: Nat.toDigits 10 k) = some (-(k : Int)) := by
  obtain ⟨some_digit, digits⟩ := digits_toDigits k
  have all : (Nat.toDigits 10 k).all isDigit = true := List.all_eq_true.mpr digits
  simp [parseExponent?, some_digit, all, Numeral.decimal_toDigits]

theorem parseUnsigned?_powerChars (negative : Bool) (n k : Nat) :
    parseUnsigned? negative (powerChars n k) = some ⟨negative, n, -(k : Int)⟩ := by
  obtain ⟨some_digit, digits⟩ := digits_toDigits n
  have whole : (powerChars n k).takeWhile isDigit = Nat.toDigits 10 n := by
    rw [powerChars, List.takeWhile_append_of_pos digits]
    exact List.append_nil _
  have rest : (powerChars n k).dropWhile isDigit = 'e' :: '-' :: Nat.toDigits 10 k := by
    rw [powerChars, List.dropWhile_append_of_pos digits]
    rfl
  simp [parseUnsigned?, whole, rest, some_digit, parseExponent?_below,
    Numeral.decimal_toDigits]

end Decimal

theorem lowerChar_digit {c : Char} (digit : isDigit c = true) : lowerChar c = c := by
  unfold isDigit at digit
  simp only [Bool.and_eq_true, decide_eq_true_eq] at digit
  refine if_neg fun capital => ?_
  exact absurd (Char.le_trans capital.1 digit.2) (by decide)

theorem parse?_digits {d : Char} (digit : isDigit d = true) (negative : Bool) (ds : List Char) :
    Binary64.parse? ((if negative then ['-'] else []) ++ d :: ds) =
      (Decimal.parseUnsigned? negative (d :: ds)).map Decimal.toBinary64 := by
  have letter {c : Char} (other : isDigit c = false) : d ≠ c := fun same => by
    rw [same, other] at digit
    cases digit
  have word {s : String} {c : Char} {cs : List Char} (text : s.toList = c :: cs)
      (other : isDigit c = false) : String.ofList ((d :: ds).map lowerChar) ≠ s := by
    rintro rfl
    rw [String.toList_ofList, List.map_cons, lowerChar_digit digit] at text
    exact letter other (List.cons.inj text).1
  have inf := word (s := "inf") rfl rfl
  have infinity := word (s := "infinity") rfl rfl
  have nan := word (s := "nan") rfl rfl
  cases negative with
  | true =>
      simp only [Binary64.parse?, if_true, List.cons_append, List.nil_append, inf, infinity, nan,
        or_self, if_false]
  | false =>
      have minus : d ≠ '-' := letter rfl
      have plus : d ≠ '+' := letter rfl
      simp only [Binary64.parse?, Bool.false_eq_true, if_false, List.nil_append]
      split
      · next same => exact absurd (List.cons.inj same).1 minus
      · next same => exact absurd (List.cons.inj same).1 plus
      · simp only [inf, infinity, nan, or_self, if_false]

theorem isBlank_digit {c : Char} (digit : isDigit c = true) : isBlank c = false := by
  unfold isDigit at digit
  simp only [Bool.and_eq_true, decide_eq_true_eq] at digit
  have low : '0'.toNat ≤ c.toNat := digit.1
  have high : c.toNat ≤ '9'.toNat := digit.2
  have bounds : '0'.toNat = 48 ∧ '9'.toNat = 57 := ⟨rfl, rfl⟩
  simp [isBlank]
  omega

/-- The digits of a number in units of `10 ^ -1074`. -/
def exactChars (x : Binary64) : List Char :=
  (if x.negative then ['-'] else []) ++ Decimal.powerChars (x.magnitude * Decimal.fives) 1074

theorem exactChars_no_blank (x : Binary64) : ∀ c ∈ exactChars x, isBlank c = false := by
  have digits (n : Nat) : ∀ c ∈ Nat.toDigits 10 n, isBlank c = false := fun c member =>
    isBlank_digit ((digits_toDigits n).2 c member)
  have number (n : Nat) : ∀ c ∈ Decimal.powerChars n 1074, isBlank c = false :=
    List.forall_mem_append.mpr ⟨digits n,
      List.forall_mem_cons.mpr ⟨rfl, List.forall_mem_cons.mpr ⟨rfl, digits 1074⟩⟩⟩
  refine List.forall_mem_append.mpr ⟨?_, number _⟩
  split
  · exact List.forall_mem_singleton.mpr rfl
  · exact fun _ member => nomatch member

theorem parse?_exactChars {x : Binary64} (finite : x.isFinite = true) :
    Binary64.parse? (exactChars x) = some x := by
  obtain ⟨some_digit, digits⟩ := digits_toDigits (x.magnitude * Decimal.fives)
  obtain ⟨d, ds, front⟩ := List.exists_cons_of_ne_nil some_digit
  have chars : Decimal.powerChars (x.magnitude * Decimal.fives) 1074 =
      d :: (ds ++ 'e' :: '-' :: Nat.toDigits 10 1074) := by
    rw [Decimal.powerChars, front]
    rfl
  have digit : isDigit d = true := digits d (front ▸ List.mem_cons_self ..)
  rw [exactChars, chars, parse?_digits digit, ← chars, Decimal.parseUnsigned?_powerChars,
    Option.map_some]
  exact congrArg some (Decimal.toBinary64_exact finite)

end HeatStack.Number

namespace HeatStack.Template
open HeatStack.Number HeatStack.Text

/-- Every finite number is denoted by a text. -/
theorem numberOf?_exactChars {x : Binary64} (finite : x.isFinite = true) :
    numberOf? (String.ofList (exactChars x)) = some x := by
  rw [numberOf?, String.toList_ofList, trimChars_of_no_blank (exactChars_no_blank x),
    parse?_exactChars finite, Option.filter_some, if_pos finite]

end HeatStack.Template
