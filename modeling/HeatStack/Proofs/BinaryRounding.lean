import HeatStack.Number.Binary64
import Mathlib

/-! # Rounding to binary numbers

What rounding makes of a ratio that is not too large: a significand of at most 53 binary digits times
a power of two, never infinite, and off by at most half a unit in its last digit.  The powers that the
format fixes are kept closed (`unit`, `limit`), since no step of a proof needs their digits. -/
set_option autoImplicit false
namespace HeatStack.Number

theorem roundHalfEven_bounds (num : Nat) {den : Nat} (positive : 0 < den) :
    2 * (den * roundHalfEven num den) ≤ 2 * num + den ∧
      2 * num ≤ 2 * (den * roundHalfEven num den) + den := by
  have whole := Nat.div_add_mod num den
  have part := Nat.mod_lt num positive
  unfold roundHalfEven
  simp only [Bool.or_eq_true, decide_eq_true_eq, Bool.and_eq_true, beq_iff_eq]
  split_ifs with up
  · rw [Nat.mul_add, Nat.mul_one]
    omega
  · omega

namespace Binary64

theorem toNat_ofPattern (negative : Bool) {pattern : Nat} (small : pattern < 2 ^ 63) :
    (ofPattern negative pattern).bits.toNat = (if negative then 2 ^ 63 else 0) + pattern := by
  cases negative with
  | false =>
      change (UInt64.ofNat pattern).toNat = 0 + pattern
      rw [UInt64.toNat_ofNat']
      omega
  | true =>
      change (UInt64.ofNat (2 ^ 63 + pattern)).toNat = 2 ^ 63 + pattern
      rw [UInt64.toNat_ofNat']
      omega

theorem exponentField_ofPattern (negative : Bool) {pattern : Nat} (small : pattern < 2 ^ 63) :
    (ofPattern negative pattern).exponentField = pattern / 2 ^ 52 := by
  unfold exponentField
  rw [toNat_ofPattern negative small, Nat.pow_eq, Nat.pow_eq]
  cases negative <;> simp only [Bool.false_eq_true, if_false, if_true] <;> omega

theorem fraction_ofPattern (negative : Bool) {pattern : Nat} (small : pattern < 2 ^ 63) :
    (ofPattern negative pattern).fraction = pattern % 2 ^ 52 := by
  unfold fraction
  rw [toNat_ofPattern negative small, Nat.pow_eq]
  cases negative <;> simp only [Bool.false_eq_true, if_false, if_true] <;> omega

/-- A pattern that counts the cut places in its exponent field stands for the significand with those
places put back, also where the significand has been rounded up to the next power of two. -/
theorem magnitude_ofPattern (negative : Bool) {cut significand : Nat}
    (bounded : cut * 2 ^ 52 + significand < 2 ^ 63) (narrow : significand ≤ 2 ^ 53)
    (full : cut = 0 ∨ 2 ^ 52 ≤ significand) :
    (ofPattern negative (cut * 2 ^ 52 + significand)).magnitude = significand * 2 ^ cut := by
  unfold magnitude
  rw [exponentField_ofPattern negative bounded, fraction_ofPattern negative bounded, Nat.pow_eq, Nat.pow_eq]
  by_cases small : significand < 2 ^ 52
  · obtain rfl : cut = 0 := by omega
    rw [if_pos (by omega), Nat.pow_zero]
    omega
  · by_cases top : significand = 2 ^ 53
    · have field : (cut * 2 ^ 52 + significand) / 2 ^ 52 = cut + 2 := by omega
      have rest : (cut * 2 ^ 52 + significand) % 2 ^ 52 = 0 := by omega
      rw [field, rest, if_neg (by omega), top]
      change (2 ^ 52 + 0) * 2 ^ (cut + 1) = _
      rw [Nat.pow_succ 2 cut]
      omega
    · have field : (cut * 2 ^ 52 + significand) / 2 ^ 52 = cut + 1 := by omega
      have rest : 2 ^ 52 + (cut * 2 ^ 52 + significand) % 2 ^ 52 = significand := by omega
      rw [field, rest, if_neg (by omega), Nat.add_sub_cancel]

/-- How many binary digits are cut off a number so that 53 are left. -/
theorem log2_cut (q : Nat) : q < 2 ^ 53 * 2 ^ (Nat.log2 q - 52) ∧
    (Nat.log2 q - 52 = 0 ∨ 2 ^ 52 * 2 ^ (Nat.log2 q - 52) ≤ q) := by
  constructor
  · rw [← Nat.pow_add]
    exact Nat.lt_of_lt_of_le Nat.lt_log2_self (Nat.pow_le_pow_right (by decide) (by omega))
  · rcases Nat.eq_zero_or_pos (Nat.log2 q - 52) with none | some_cut
    · exact .inl none
    · refine .inr ?_
      have nonzero : q ≠ 0 := by
        rintro rfl
        rw [Nat.log2_zero] at some_cut
        omega
      rw [← Nat.pow_add, show 52 + (Nat.log2 q - 52) = Nat.log2 q by omega]
      exact Nat.log2_self_le nonzero

theorem two_pow_add {a b c : Nat} (sum : a + b = c) : 2 ^ c = 2 ^ a * 2 ^ b := by
  rw [← sum, Nat.pow_add]

/-- How often the smallest positive number goes into one. -/
@[irreducible]
def unit : Nat := Nat.pow 2 1074

/-- The middle between the largest finite number and the next power of two. -/
@[irreducible]
def limit : Nat := (2 ^ 54 - 1) * 2 ^ 970

theorem limit_between : 10 ^ 308 < limit ∧ limit ≤ 10 ^ 309 := by
  unfold limit
  decide +kernel

theorem unit_eq : 2 ^ 1074 = unit := by
  unfold unit
  exact (Nat.pow_eq (m := 2) (n := 1074)).symm

theorem unit_large : 2 ^ 52 ≤ unit := by
  rw [← unit_eq]
  exact Nat.pow_le_pow_right (n := 2) (i := 52) (j := 1074) (by decide) (by decide)

theorem unit_pos : 0 < unit := Nat.lt_of_lt_of_le (Nat.two_pow_pos 52) unit_large

theorem unit_unit : 2 ^ 2148 = unit * unit := by
  rw [← unit_eq]
  exact two_pow_add (a := 1074) (b := 1074) (c := 2148) rfl

theorem four_unit : 2 ^ 1076 = 2 ^ 2 * unit := by
  rw [← unit_eq]
  exact two_pow_add (a := 2) (b := 1074) (c := 1076) rfl

theorem limit_unit : limit * unit = (2 ^ 54 - 1) * 2 ^ 2044 := by
  have split := two_pow_add (a := 970) (b := 1074) (c := 2044) rfl
  unfold limit
  rw [← unit_eq]
  exact (Nat.mul_assoc _ _ _).trans (congrArg ((2 ^ 54 - 1) * ·) split.symm)

theorem ofRatio_eq (negative : Bool) (num den : Nat) : ofRatio negative num den =
    ofPattern negative (min ((Nat.log2 (num * unit / den) - 52) * 2 ^ 52 +
      roundHalfEven (num * unit) (den * 2 ^ (Nat.log2 (num * unit / den) - 52))) infinityPattern) := by
  unfold unit
  rfl

/-- The places cut off a ratio and the significand that is left, where the ratio is below the middle
between the largest number with `e + 1` cut places and the next power of two. -/
theorem pattern_bounded (e : Nat) {units den cut significand : Nat} (positive : 0 < den)
    (bounded : units < den * ((2 ^ 54 - 1) * 2 ^ e)) (narrow : significand ≤ 2 ^ 53)
    (above : 2 * (den * 2 ^ cut * significand) ≤ 2 * units + den * 2 ^ cut)
    (full : cut = 0 ∨ den * 2 ^ cut * 2 ^ 52 ≤ units) :
    cut * 2 ^ 52 + significand < (e + 3) * 2 ^ 52 := by
  have step : 0 < den * 2 ^ e := Nat.mul_pos positive (Nat.two_pow_pos e)
  have middle : den * ((2 ^ 54 - 1) * 2 ^ e) = (2 ^ 54 - 1) * (den * 2 ^ e) := by ac_rfl
  have low : cut ≤ e + 1 := by
    rcases full with none | full
    · omega
    · refine Nat.le_of_not_lt fun high => ?_
      have grown : 2 ^ (e + 2) ≤ 2 ^ cut := Nat.pow_le_pow_right (by decide) (by omega)
      have more : den * 2 ^ (e + 2) ≤ den * 2 ^ cut := Nat.mul_le_mul_left den grown
      have whole : den * 2 ^ (e + 2) = 4 * (den * 2 ^ e) := by
        rw [Nat.pow_add, Nat.mul_comm (2 ^ e), Nat.mul_left_comm]
      omega
  by_cases last : cut = e + 1
  · subst last
    have whole : den * 2 ^ (e + 1) = 2 * (den * 2 ^ e) := by
      rw [Nat.pow_add, Nat.mul_comm (2 ^ e), Nat.mul_left_comm]
    rw [whole] at above
    have short : significand < 2 ^ 53 := by
      refine Nat.lt_of_not_le fun high => ?_
      have grown : 2 * (den * 2 ^ e) * 2 ^ 53 ≤ 2 * (den * 2 ^ e) * significand :=
        Nat.mul_le_mul_left _ (by omega)
      omega
    omega
  · omega

/-- A ratio that is not too large is cut to 53 binary digits, or to what there is above the last place, and
the pattern holds the places and the rest. -/
theorem ofRatio_cut (negative : Bool) {num den : Nat} (positive : 0 < den)
    (bounded : num * unit < den * (limit * unit)) :
    ∃ cut, ofRatio negative num den =
        ofPattern negative (cut * 2 ^ 52 + roundHalfEven (num * unit) (den * 2 ^ cut)) ∧
      cut * 2 ^ 52 + roundHalfEven (num * unit) (den * 2 ^ cut) < infinityPattern ∧
      roundHalfEven (num * unit) (den * 2 ^ cut) ≤ 2 ^ 53 ∧
      (cut = 0 ∨ 2 ^ 52 ≤ roundHalfEven (num * unit) (den * 2 ^ cut)) ∧
      (cut = 0 ∨ den * 2 ^ cut * 2 ^ 52 ≤ num * unit) := by
  rw [limit_unit] at bounded
  rw [ofRatio_eq]
  generalize num * unit = units at *
  obtain ⟨narrow, full⟩ := log2_cut (units / den)
  generalize Nat.log2 (units / den) - 52 = cut at *
  have scaled : 0 < den * 2 ^ cut := Nat.mul_pos positive (Nat.two_pow_pos cut)
  obtain ⟨above, below⟩ := roundHalfEven_bounds units scaled
  generalize rounded : roundHalfEven units (den * 2 ^ cut) = significand at *
  have whole : units < den * (units / den) + den := by
    have split := Nat.div_add_mod units den
    have part := Nat.mod_lt units positive
    omega
  have long : cut = 0 ∨ den * 2 ^ cut * 2 ^ 52 ≤ units := by
    refine full.imp_right fun many => ?_
    calc den * 2 ^ cut * 2 ^ 52 = den * (2 ^ 52 * 2 ^ cut) := by ac_rfl
      _ ≤ den * (units / den) := Nat.mul_le_mul_left den many
      _ ≤ units := Nat.mul_div_le units den
  have short : units < den * 2 ^ cut * 2 ^ 53 := by
    calc units < den * (units / den + 1) := by rw [Nat.mul_add, Nat.mul_one]; exact whole
      _ ≤ den * (2 ^ 53 * 2 ^ cut) := Nat.mul_le_mul_left den narrow
      _ = den * 2 ^ cut * 2 ^ 53 := by ac_rfl
  have most : significand ≤ 2 ^ 53 := by
    refine Nat.le_of_not_lt fun high => ?_
    have grown : den * 2 ^ cut * (2 ^ 53 + 1) ≤ den * 2 ^ cut * significand :=
      Nat.mul_le_mul_left _ (by omega)
    omega
  have least : cut = 0 ∨ 2 ^ 52 ≤ significand := by
    refine long.imp_right fun long => ?_
    refine Nat.le_of_not_lt fun low => ?_
    have shrunk : den * 2 ^ cut * significand ≤ den * 2 ^ cut * (2 ^ 52 - 1) :=
      Nat.mul_le_mul_left _ (by omega)
    omega
  have fits : cut * 2 ^ 52 + significand < infinityPattern :=
    pattern_bounded 2044 positive bounded most above long
  rw [Nat.min_eq_left fits.le]
  refine ⟨cut, ?_⟩
  rw [rounded]
  exact ⟨rfl, fits, most, least, long⟩

/-- How a ratio is rounded that is not too large: to a significand of at most 53 binary digits times
the places cut off, which is at most half a place away. -/
theorem ofRatio_bounded (negative : Bool) {num den : Nat} (positive : 0 < den)
    (bounded : num * unit < den * (limit * unit)) :
    ∃ cut significand, (ofRatio negative num den).isFinite = true ∧
      (ofRatio negative num den).magnitude = significand * 2 ^ cut ∧
      2 * (den * 2 ^ cut * significand) ≤ 2 * (num * unit) + den * 2 ^ cut ∧
      2 * (num * unit) ≤ 2 * (den * 2 ^ cut * significand) + den * 2 ^ cut ∧
      (cut = 0 ∨ den * 2 ^ cut * 2 ^ 52 ≤ num * unit) := by
  obtain ⟨cut, known, fits, most, least, long⟩ := ofRatio_cut negative positive bounded
  obtain ⟨above, below⟩ :=
    roundHalfEven_bounds (num * unit) (Nat.mul_pos positive (Nat.two_pow_pos cut))
  have top : infinityPattern = 2047 * 2 ^ 52 := rfl
  rw [known]
  refine ⟨cut, _, ?_, magnitude_ofPattern negative (by omega) most least, above, below, long⟩
  unfold isFinite
  rw [exponentField_ofPattern negative (by omega), bne_iff_ne]
  omega

/-- A rounded ratio is larger by at most half a unit in 53 binary digits, where it is not so small that
its digits are cut. -/
theorem ofRatio_le (negative : Bool) {num den : Nat} (positive : 0 < den)
    (bounded : num * unit < den * (limit * unit))
    (normal : num = 0 ∨ den * 2 ^ 52 ≤ num * unit) :
    2 ^ 53 * (den * (ofRatio negative num den).magnitude) ≤ (2 ^ 53 + 1) * (num * unit) := by
  obtain ⟨cut, significand, -, value, above, -, long⟩ := ofRatio_bounded negative positive bounded
  rw [value]
  have order : den * (significand * 2 ^ cut) = den * 2 ^ cut * significand := by ac_rfl
  rw [order]
  rcases normal with rfl | normal
  · rw [Nat.zero_mul] at *
    have places : 0 < den * 2 ^ cut := Nat.mul_pos positive (Nat.two_pow_pos cut)
    rcases Nat.eq_zero_or_pos significand with rfl | some_digit
    · exact Nat.le_refl 0
    · have grown : den * 2 ^ cut * 1 ≤ den * 2 ^ cut * significand := Nat.mul_le_mul_left _ some_digit
      omega
  · have few : den * 2 ^ cut * 2 ^ 52 ≤ num * unit := by
      rcases long with rfl | long
      · rw [Nat.pow_zero, Nat.mul_one]
        exact normal
      · exact long
    generalize num * unit = units at *
    generalize den * 2 ^ cut * significand = product at *
    omega

/-! ## Products of naturals -/

theorem ofNat_bounded {n : Nat} (bounded : n < limit) : n * unit < 1 * (limit * unit) := by
  rw [Nat.one_mul]
  exact Nat.mul_lt_mul_of_pos_right bounded unit_pos

/-- A natural that is not zero is rounded to no less than one. -/
theorem unit_le_ofNat {n : Nat} (positive : n ≠ 0) (bounded : n < limit) :
    unit ≤ (ofNat n).magnitude := by
  by_cases one : n = 1
  · subst one
    decide +kernel
  · obtain ⟨cut, significand, -, value, -, below, long⟩ :=
      ofRatio_bounded false (by decide : 0 < 1) (ofNat_bounded bounded)
    have more : 2 * unit ≤ n * unit := Nat.mul_le_mul_right unit (by omega)
    have large := unit_large
    rw [Nat.one_mul] at below long
    rw [ofNat, value, Nat.mul_comm significand]
    generalize n * unit = units at *
    generalize 2 ^ cut * significand = product at *
    rcases long with rfl | long <;> omega

theorem ofNat_le {n : Nat} (bounded : n < limit) :
    2 ^ 53 * (ofNat n).magnitude ≤ (2 ^ 53 + 1) * (n * unit) := by
  have below := ofNat_bounded bounded
  have normal : n = 0 ∨ 1 * 2 ^ 52 ≤ n * unit := by
    rcases Nat.eq_zero_or_pos n with zero | some_unit
    · exact .inl zero
    · refine .inr ?_
      rw [Nat.one_mul]
      exact Nat.le_trans unit_large (Nat.le_mul_of_pos_left _ some_unit)
  have le := ofRatio_le false (by decide : 0 < 1) below normal
  rwa [Nat.one_mul] at le

/-- Two factors, each larger than a natural by at most half a unit in 53 binary digits. -/
theorem product_bounded {s t a b U L : Nat} (positive : 0 < U)
    (left : 2 ^ 53 * a ≤ (2 ^ 53 + 1) * (s * U)) (right : 2 ^ 53 * b ≤ (2 ^ 53 + 1) * (t * U))
    (bounded : (2 ^ 53 + 1) ^ 2 * (s * t) < 2 ^ 106 * L) : a * b * U < U * U * (L * U) := by
  have square : 0 < U * U := Nat.mul_pos positive positive
  have both : 2 ^ 106 * (a * b) < 2 ^ 106 * (L * (U * U)) := by
    calc 2 ^ 106 * (a * b) = (2 ^ 53 * a) * (2 ^ 53 * b) := by
          rw [show 2 ^ 106 = 2 ^ 53 * 2 ^ 53 from rfl]
          ac_rfl
      _ ≤ ((2 ^ 53 + 1) * (s * U)) * ((2 ^ 53 + 1) * (t * U)) := Nat.mul_le_mul left right
      _ = (2 ^ 53 + 1) ^ 2 * (s * t) * (U * U) := by
          rw [Nat.pow_two]
          ac_rfl
      _ < 2 ^ 106 * L * (U * U) := Nat.mul_lt_mul_of_pos_right bounded square
      _ = 2 ^ 106 * (L * (U * U)) := by ac_rfl
  have product := Nat.lt_of_mul_lt_mul_left both
  calc a * b * U < L * (U * U) * U := Nat.mul_lt_mul_of_pos_right product positive
    _ = U * U * (L * U) := by ac_rfl

/-- Two naturals, rounded and then multiplied with another rounding, give a finite number where their
product leaves room for three roundings. -/
theorem mul_ofNat_finite {s t : Nat} (left : s < limit) (right : t < limit)
    (bounded : (2 ^ 53 + 1) ^ 2 * (s * t) < 2 ^ 106 * limit) :
    ((ofNat s).mul (ofNat t)).isFinite = true := by
  have product := product_bounded unit_pos (ofNat_le left) (ofNat_le right) bounded
  unfold mul
  rw [show Nat.pow 2 2148 = unit * unit from unit_unit]
  obtain ⟨-, -, finite, -⟩ := ofRatio_bounded ((ofNat s).negative != (ofNat t).negative)
    (Nat.mul_pos unit_pos unit_pos) product
  exact finite

end Binary64
end HeatStack.Number
