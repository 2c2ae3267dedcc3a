import HeatStack.Proofs.ExactDecimals

/-! # Finite numbers

The order of the numbers, in which every finite number is strictly between the infinities and a value
other than zero belongs to one number only; and that reading a numeral never leaves the finite
numbers. -/
set_option autoImplicit false
namespace HeatStack.Number.Binary64

/-! ## Order -/

theorem pattern_of_magnitude {x y : Binary64} (same : x.magnitude = y.magnitude) :
    x.exponentField * 2 ^ 52 + x.fraction = y.exponentField * 2 ^ 52 + y.fraction := by
  obtain ⟨s, whole, pattern⟩ := x.significand_exact
  obtain ⟨t, whole', pattern'⟩ := y.significand_exact
  rw [← same] at whole' pattern'
  have digits : s = t := Nat.eq_of_mul_eq_mul_left (Nat.two_pow_pos _) (whole.symm.trans whole')
  rw [← pattern, ← pattern', digits]

/-- Numbers with one value are one number, the two zeros aside. -/
theorem eq_of_scaled {x y : Binary64} (same : x.scaled = y.scaled) (nonzero : x.magnitude ≠ 0) :
    x = y := by
  have both : x.negative = y.negative ∧ x.magnitude = y.magnitude := by
    unfold scaled at same
    split at same <;> split at same <;> simp_all
  rw [← x.ofPattern_parts, ← y.ofPattern_parts, both.1, pattern_of_magnitude both.2]

theorem isNaN_of_isFinite {x : Binary64} (finite : x.isFinite = true) : x.isNaN = false := by
  unfold isFinite at finite
  unfold isNaN
  rw [Bool.and_eq_false_iff]
  exact .inl (by simpa using finite)

theorem le_iff_scaled {x y : Binary64} (left : x.isFinite = true) (right : y.isFinite = true) :
    x.le y = true ↔ x.scaled ≤ y.scaled := by
  simp [le, isNaN_of_isFinite left, isNaN_of_isFinite right]

theorem limit_le_infinity (negative : Bool) :
    limit * unit ≤ (infinity negative).magnitude := by
  have field : (infinity negative).exponentField = 2044 + 2 + 1 := by cases negative <;> rfl
  have none : (infinity negative).fraction = 0 := by cases negative <;> rfl
  unfold magnitude
  rw [field, none, if_neg (by decide), Nat.add_sub_cancel, Nat.pow_eq, Nat.pow_eq, Nat.add_zero,
    Nat.pow_add 2 2044, limit_unit]
  generalize 2 ^ 2044 = T
  omega

/-- What is neither finite nor an infinity has no order. -/
theorem eq_infinity {x : Binary64} (special : x.isFinite = false) (number : x.isNaN = false) :
    x = infinity x.negative := by
  have field : x.exponentField = 2047 := by simpa [isFinite] using special
  have none : x.fraction = 0 := by simpa [isNaN, field] using number
  conv => lhs; rw [← x.ofPattern_parts, field, none]
  rfl

theorem isFinite_of_ofRatio {negative : Bool} {num den : Nat}
    (bounded : (ofRatio negative num den).isInfinite = false) :
    (ofRatio negative num den).isFinite = true := by
  rw [ofRatio_eq] at *
  generalize hp : min _ infinityPattern = pattern at *
  have top : pattern ≤ infinityPattern := hp ▸ Nat.min_le_right ..
  have limit : infinityPattern = 2047 * 2 ^ 52 := rfl
  have small : pattern < 2 ^ 63 := by omega
  unfold isInfinite at bounded
  unfold isFinite
  rw [exponentField_ofPattern _ small] at *
  rw [fraction_ofPattern _ small] at bounded
  simp only [Bool.and_eq_false_iff, beq_eq_false_iff_ne, bne_iff_ne] at *
  omega

/-- A finite number counts less than the middle between the largest one and the next power of two. -/
theorem magnitude_lt {x : Binary64} (finite : x.isFinite = true) : x.magnitude < limit * unit := by
  have fraction := x.fraction_lt
  have field : x.exponentField < 2 ^ 11 := Nat.mod_lt _ (Nat.two_pow_pos 11)
  have below : x.exponentField ≠ 2047 := bne_iff_ne.mp finite
  have step : 2 ^ (x.exponentField - 1) ≤ 2 ^ (2044 + 1) :=
    Nat.pow_le_pow_right (by decide) (by omega)
  rw [Nat.pow_succ] at step
  rw [limit_unit]
  have positive := Nat.two_pow_pos 2044
  generalize 2 ^ 2044 = T at *
  calc x.magnitude ≤ (2 ^ 52 + x.fraction) * 2 ^ (x.exponentField - 1) := x.magnitude_le
    _ ≤ (2 ^ 53 - 1) * (T * 2) := Nat.mul_le_mul (by omega) step
    _ < (2 ^ 54 - 1) * T := by omega

theorem isFinite_negate (x : Binary64) : x.negate.isFinite = x.isFinite := by
  have same : x.negate.exponentField = x.exponentField := by
    unfold exponentField negate
    have sign : (UInt64.ofNat (Nat.pow 2 63)).toNat / Nat.pow 2 52 % Nat.pow 2 11 = 0 := rfl
    have cut (a b : Nat) : (a ^^^ b) / Nat.pow 2 52 % Nat.pow 2 11 =
        (a / Nat.pow 2 52 % Nat.pow 2 11) ^^^ (b / Nat.pow 2 52 % Nat.pow 2 11) := by
      simp only [Nat.pow_eq]
      rw [Nat.xor_div_two_pow, Nat.xor_mod_two_pow]
    rw [UInt64.toNat_xor, cut, sign, Nat.xor_zero]
  rw [isFinite, same, isFinite]

theorem scaled_bounds {n : Binary64} (finite : n.isFinite = true) :
    (infinity true).scaled < n.scaled ∧ n.scaled < (infinity false).scaled := by
  have below := magnitude_lt finite
  have low := limit_le_infinity true
  have high := limit_le_infinity false
  have signs : (infinity true).negative = true ∧ (infinity false).negative = false := ⟨rfl, rfl⟩
  unfold scaled
  rw [signs.1, signs.2, if_pos rfl, if_neg Bool.false_ne_true]
  generalize limit * unit = top at *
  split <;> omega

/-! ## Bounds -/

/-- Whether a number is not above an upper bound, or not below a lower one. -/
def passes (upper : Bool) (bound n : Binary64) : Bool := if upper then n.le bound else bound.le n

theorem passes_self (upper : Bool) {x : Binary64} (finite : x.isFinite = true) :
    passes upper x x = true := by
  have same : x.le x = true := (le_iff_scaled finite finite).mpr (Int.le_refl _)
  cases upper <;> exact same

/-- What a number is for a bound on one side, the bound is for the number on the other. -/
theorem passes_not (upper : Bool) (x y : Binary64) : passes (!upper) x y = passes upper y x := by
  cases upper <;> rfl

/-- Between a number that a bound lets pass and one that it excludes, the first comes first. -/
theorem passes_of_excluded (upper : Bool) {x y z : Binary64} (finiteX : x.isFinite = true)
    (finiteY : y.isFinite = true) (finiteZ : z.isFinite = true) (inner : passes (!upper) z x = true)
    (outer : passes (!upper) z y = false) : passes upper x y = true := by
  rw [passes_not] at inner outer
  cases upper with
  | false =>
      change x.le y = true
      have beyond : ¬ y.le z = true := Bool.eq_false_iff.mp outer
      rw [le_iff_scaled finiteY finiteZ] at beyond
      have below : x.scaled ≤ z.scaled := (le_iff_scaled finiteX finiteZ).mp inner
      rw [le_iff_scaled finiteX finiteY]
      omega
  | true =>
      change y.le x = true
      have beyond : ¬ z.le y = true := Bool.eq_false_iff.mp outer
      rw [le_iff_scaled finiteZ finiteY] at beyond
      have below : z.scaled ≤ x.scaled := (le_iff_scaled finiteZ finiteX).mp inner
      rw [le_iff_scaled finiteY finiteX]
      omega

theorem passes_infinity (upper negative : Bool) {n : Binary64} (finite : n.isFinite = true) :
    passes upper (infinity negative) n = (negative != upper) := by
  obtain ⟨low, high⟩ := scaled_bounds finite
  have ordinary := isNaN_of_isFinite finite
  have number : (infinity negative).isNaN = false := by cases negative <;> rfl
  cases upper with
  | false =>
      change (infinity negative).le n = _
      rw [le, number, ordinary]
      cases negative with
      | false => simpa using high
      | true => simpa using low.le
  | true =>
      change n.le (infinity negative) = _
      rw [le, number, ordinary]
      cases negative with
      | false => simpa using high.le
      | true => simpa using low

theorem passes_nan (upper : Bool) {x : Binary64} (nan : x.isNaN = true) (n : Binary64) :
    passes upper x n = false := by
  cases upper <;> simp [passes, le, nan]

/-- Of the bounds that are not finite one excludes no finite number, and every other excludes all. -/
theorem passes_special_iff (upper : Bool) {x n : Binary64} (special : x.isFinite = false)
    (finite : n.isFinite = true) : passes upper x n = true ↔ x = infinity (!upper) := by
  constructor
  · intro inner
    cases nan : x.isNaN with
    | true =>
        rw [passes_nan upper nan] at inner
        cases inner
    | false =>
        have known := eq_infinity special nan
        rw [known, passes_infinity upper _ finite, bne_iff_ne] at inner
        rw [known, Bool.eq_not.mpr inner]
  · rintro rfl
    rw [passes_infinity upper _ finite]
    cases upper <;> rfl

end HeatStack.Number.Binary64

namespace HeatStack.Json.Numeral
open HeatStack.Number

/-! ## Scaling -/

theorem unit_le_power {k : Nat} (few : k ≤ 308) : Binary64.unit ≤ (power k).magnitude :=
  Binary64.unit_le_ofNat (Nat.pow_pos (by decide : 0 < 10)).ne' (ten_pow_lt_limit few)

/-- Scaling down a finite number by a power of ten is no more than a division by one. -/
theorem div_power_finite {x : Binary64} (finite : x.isFinite = true) {k : Nat} (few : k ≤ 308) :
    (x.div (power k)).isFinite = true := by
  have large := unit_le_power few
  have positive : 0 < (power k).magnitude := Nat.lt_of_lt_of_le Binary64.unit_pos large
  have bounded : x.magnitude * Binary64.unit <
      (power k).magnitude * (Binary64.limit * Binary64.unit) := by
    calc x.magnitude * Binary64.unit
        ≤ x.magnitude * (power k).magnitude := Nat.mul_le_mul_left _ large
      _ < Binary64.limit * Binary64.unit * (power k).magnitude :=
          Nat.mul_lt_mul_of_pos_right (Binary64.magnitude_lt finite) positive
      _ = (power k).magnitude * (Binary64.limit * Binary64.unit) := Nat.mul_comm _ _
  obtain ⟨-, -, finite, -⟩ :=
    Binary64.ofRatio_bounded (x.negative != (power k).negative) positive bounded
  exact finite

theorem scale?_finite : ∀ (fuel : Nat) {x y : Binary64} {e : Int}, x.isFinite = true →
    scale? fuel x e = some y → y.isFinite = true := by
  intro fuel
  induction fuel with
  | zero =>
      intro x y e finite scaled
      unfold scale? at scaled
      dsimp only at scaled
      split_ifs at scaled with few up large
      · cases scaled
        exact Binary64.isFinite_of_ofRatio (Bool.eq_false_iff.mpr large)
      · cases scaled
        exact div_power_finite finite few
      · cases scaled
        exact finite
      · cases scaled
        rfl
  | succ fuel ih =>
      intro x y e finite scaled
      unfold scale? at scaled
      dsimp only at scaled
      split_ifs at scaled with few up large
      · cases scaled
        exact Binary64.isFinite_of_ofRatio (Bool.eq_false_iff.mpr large)
      · cases scaled
        exact div_power_finite finite few
      · cases scaled
        exact finite
      · exact ih (div_power_finite finite (Nat.le_refl 308)) scaled

theorem significand_finite (n : Numeral) :
    (Binary64.ofNat n.scaled.significand).isFinite = true := by
  have small : n.scaled.significand < 2 ^ 64 :=
    take_small (take 0 n.whole).1 n.places (take_small 0 n.whole (by decide))
  have fits : n.scaled.significand < Binary64.limit :=
    Nat.lt_of_lt_of_le small (Nat.le_trans small_le_room room_lt_limit.le)
  obtain ⟨-, -, finite, -⟩ :=
    Binary64.ofRatio_bounded false (by decide : 0 < 1) (Binary64.ofNat_bounded fits)
  exact finite

/-- What is read of a numeral is finite. -/
theorem binary?_finite {n : Numeral} {y : Binary64} (read : n.binary? = some y) :
    y.isFinite = true := by
  have signed {z : Binary64} {e : Int} (scaled : scale? 400 (.ofNat n.scaled.significand) e = some z) :
      (if n.negative then z.negate else z).isFinite = true := by
    have finite := scale?_finite 400 (significand_finite n) scaled
    split
    · rw [Binary64.isFinite_negate, finite]
    · exact finite
  unfold binary? at read
  dsimp only at read
  split at read
  · obtain ⟨z, scaled, rfl⟩ := Option.map_eq_some_iff.mp read
    exact signed scaled
  · split at read
    · split at read
      · cases read
      · cases read
        cases n.negative <;> rfl
    · obtain ⟨z, scaled, rfl⟩ := Option.map_eq_some_iff.mp read
      exact signed scaled

end HeatStack.Json.Numeral
