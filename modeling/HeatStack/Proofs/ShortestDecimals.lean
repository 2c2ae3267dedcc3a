import HeatStack.Proofs.FiniteNumbers

/-! # The shortest decimal rounds back

Whatever lies in the interval around a number is rounded to it, and the search for the shortest decimal
never leaves the interval: on the last grid a neighbour of the number is nearer than half a step. -/
set_option autoImplicit false
namespace HeatStack.Number

/-! ## Rounding inside the interval -/

/-- The nearest natural, where a middle belongs to an even one. -/
theorem roundHalfEven_of_near {num den s : Nat} (positive : 0 < den)
    (above : 2 * (den * s) ≤ 2 * num + den) (below : 2 * num ≤ 2 * (den * s) + den)
    (middle : s % 2 = 0 ∨ 2 * (den * s) < 2 * num + den ∧ 2 * num < 2 * (den * s) + den) :
    roundHalfEven num den = s := by
  have whole := Nat.div_add_mod num den
  have part := Nat.mod_lt num positive
  unfold roundHalfEven
  simp only [Bool.or_eq_true, decide_eq_true_eq, Bool.and_eq_true, beq_iff_eq]
  generalize num / den = q at *
  generalize num % den = r at *
  have low : q ≤ s := by
    refine Nat.le_of_not_lt fun less => ?_
    have step : den * (s + 1) ≤ den * q := Nat.mul_le_mul_left den less
    rw [Nat.mul_add, Nat.mul_one] at step
    omega
  have high : s ≤ q + 1 := by
    refine Nat.le_of_not_lt fun more => ?_
    have step : den * (q + 2) ≤ den * s := Nat.mul_le_mul_left den more
    rw [Nat.mul_add] at step
    omega
  obtain same | next : s = q ∨ s = q + 1 := by omega
  · subst same
    rw [if_neg (by omega)]
  · subst next
    rw [Nat.mul_add, Nat.mul_one] at *
    rw [if_pos (by omega)]

namespace Binary64

theorem log2_sub_of_bounds {q k : Nat} (low : k = 0 ∨ 2 ^ 52 * 2 ^ k ≤ q) (high : q < 2 ^ 53 * 2 ^ k) :
    Nat.log2 q - 52 = k := by
  rw [← Nat.pow_add] at high
  by_cases zero : q = 0
  · subst zero
    rcases low with rfl | low
    · rfl
    · have positive := Nat.mul_pos (Nat.two_pow_pos 52) (Nat.two_pow_pos k)
      omega
  · have most := (Nat.log2_lt zero).mpr high
    rcases low with rfl | low
    · omega
    · rw [← Nat.pow_add] at low
      have least := (Nat.le_log2 zero).mpr low
      omega

/-- A ratio whose places cut off and whose significand are known. -/
theorem ofRatio_of_cut (negative : Bool) {num den k s : Nat} (positive : 0 < den)
    (low : k = 0 ∨ 2 ^ 52 * (den * 2 ^ k) ≤ num * unit) (high : num * unit < 2 ^ 53 * (den * 2 ^ k))
    (rounded : roundHalfEven (num * unit) (den * 2 ^ k) = s) :
    ofRatio negative num den = ofPattern negative (min (k * 2 ^ 52 + s) infinityPattern) := by
  have cut : Nat.log2 (num * unit / den) - 52 = k := by
    refine log2_sub_of_bounds (low.imp_right fun low => ?_) ?_
    · rw [Nat.le_div_iff_mul_le positive]
      calc 2 ^ 52 * 2 ^ k * den = 2 ^ 52 * (den * 2 ^ k) := by ac_rfl
        _ ≤ num * unit := low
    · rw [Nat.div_lt_iff_lt_mul positive]
      calc num * unit < 2 ^ 53 * (den * 2 ^ k) := high
        _ = 2 ^ 53 * 2 ^ k * den := by ac_rfl
  rw [ofRatio_eq, cut, rounded]

def significand (x : Binary64) : Nat :=
  if x.exponentField = 0 then x.fraction else 2 ^ 52 + x.fraction

theorem magnitude_eq (x : Binary64) : x.magnitude = x.significand * 2 ^ (x.exponentField - 1) := by
  unfold magnitude significand
  split
  · next subnormal => rw [subnormal, Nat.zero_sub, Nat.pow_zero, Nat.mul_one]
  · rfl

theorem significand_lt (x : Binary64) : x.significand < 2 ^ 53 := by
  have short := x.fraction_lt
  unfold significand
  split <;> omega

theorem pattern_of_significand (x : Binary64) :
    (x.exponentField - 1) * 2 ^ 52 + x.significand = x.exponentField * 2 ^ 52 + x.fraction := by
  unfold significand
  split <;> omega

end Binary64

namespace Shortest
open Binary64

/-- The number next below a power of two is half as far away. -/
def Narrow (x : Binary64) : Prop := x.fraction = 0 ∧ 1 < x.exponentField

instance : DecidablePred Narrow := fun x =>
  inferInstanceAs (Decidable (x.fraction = 0 ∧ 1 < x.exponentField))

theorem around_eq (x : Binary64) : Interval.around x = ⟨4 * x.magnitude,
    4 * x.magnitude - (if Narrow x then 2 ^ (x.exponentField - 1) else 2 * 2 ^ (x.exponentField - 1)),
    4 * x.magnitude + 2 * 2 ^ (x.exponentField - 1), x.fraction % 2 == 0⟩ := rfl

/-- A ratio in the interval, by the place of the last digit: at most half a place away, or a quarter
below a power of two, and as far as that only where the significand is even. -/
structure Near (x : Binary64) (units place : Nat) : Prop where
  least : 4 * (place * x.significand) ≤ 4 * units + (if Narrow x then place else 2 * place)
  most : 4 * units ≤ 4 * (place * x.significand) + 2 * place
  ends : x.fraction % 2 = 0 ∨
    4 * (place * x.significand) < 4 * units + (if Narrow x then place else 2 * place) ∧
      4 * units < 4 * (place * x.significand) + 2 * place

theorem near_of_holds {x : Binary64} {num den : Nat} (positive : 0 < den)
    (holds : (Interval.around x).holds (num * (2 ^ 2 * unit)) den = true) :
    Near x (num * unit) (den * 2 ^ (x.exponentField - 1)) := by
  have units : num * (2 ^ 2 * unit) = 4 * (num * unit) := Nat.mul_left_comm _ _ _
  have value : 4 * x.magnitude * den = 4 * (den * 2 ^ (x.exponentField - 1) * x.significand) := by
    rw [x.magnitude_eq]
    ac_rfl
  have place : 2 ^ (x.exponentField - 1) * den = den * 2 ^ (x.exponentField - 1) := Nat.mul_comm _ _
  have places : 0 < den * 2 ^ (x.exponentField - 1) := Nat.mul_pos positive (Nat.two_pow_pos _)
  rw [around_eq] at holds
  unfold Interval.holds at holds
  simp only [Nat.sub_mul, Nat.add_mul, ite_mul, Nat.mul_assoc 2, units, value, place] at holds
  generalize den * 2 ^ (x.exponentField - 1) = D at *
  split at holds
  · next even =>
      simp only [Bool.and_eq_true, decide_eq_true_eq, beq_iff_eq] at holds even
      exact ⟨by omega, holds.2, .inl even⟩
  · simp only [Bool.and_eq_true, decide_eq_true_eq] at holds
    have below : 0 < (if Narrow x then D else 2 * D) := by split <;> omega
    exact ⟨by omega, by omega, .inr ⟨by omega, holds.2⟩⟩

/-- Below a power of two one place less is cut off, and the significand is rounded up to the power. -/
theorem ofRatio_of_near_under {x : Binary64} {num den : Nat} (positive : 0 < den) (narrow : Narrow x)
    (near : Near x (num * unit) (den * 2 ^ (x.exponentField - 1)))
    (under : num * unit < 2 ^ 52 * (den * 2 ^ (x.exponentField - 1))) :
    ofRatio x.negative num den =
      ofPattern x.negative (min (x.exponentField * 2 ^ 52 + x.fraction) infinityPattern) := by
  have least := near.least
  rw [if_pos narrow] at least
  obtain ⟨none, high⟩ := narrow
  have whole : x.significand = 2 ^ 52 := by
    rw [significand, none, if_neg (by omega), Nat.add_zero]
  obtain ⟨k, exponent⟩ : ∃ k, x.exponentField = k + 2 := ⟨x.exponentField - 2, by omega⟩
  have half : den * 2 ^ (x.exponentField - 1) = 2 * (den * 2 ^ k) := by
    rw [exponent, show k + 2 - 1 = k + 1 from rfl, Nat.pow_succ]
    ac_rfl
  rw [whole, half, Nat.mul_comm _ (2 ^ 52)] at least
  rw [half] at under
  have places : 0 < den * 2 ^ k := Nat.mul_pos positive (Nat.two_pow_pos k)
  have rounded : roundHalfEven (num * unit) (den * 2 ^ k) = 2 ^ 53 :=
    roundHalfEven_of_near places (by omega) (by omega) (.inl (by decide))
  have low : 2 ^ 52 * (den * 2 ^ k) ≤ num * unit := by omega
  have high : num * unit < 2 ^ 53 * (den * 2 ^ k) := by omega
  have pattern : k * 2 ^ 52 + 2 ^ 53 = (k + 2) * 2 ^ 52 + 0 := by omega
  rw [ofRatio_of_cut _ positive (.inr low) high rounded, exponent, none, pattern]

theorem ofRatio_of_near {x : Binary64} {num den : Nat} (positive : 0 < den)
    (near : Near x (num * unit) (den * 2 ^ (x.exponentField - 1)))
    (above : Narrow x → 2 ^ 52 * (den * 2 ^ (x.exponentField - 1)) ≤ num * unit) :
    ofRatio x.negative num den =
      ofPattern x.negative (min (x.exponentField * 2 ^ 52 + x.fraction) infinityPattern) := by
  obtain ⟨least, most, ends⟩ := near
  have digits := x.significand_lt
  have pattern := x.pattern_of_significand
  have places : 0 < den * 2 ^ (x.exponentField - 1) := Nat.mul_pos positive (Nat.two_pow_pos _)
  have even : x.fraction % 2 = 0 → x.significand % 2 = 0 := by
    unfold significand
    split <;> omega
  have top : den * 2 ^ (x.exponentField - 1) * x.significand ≤
      den * 2 ^ (x.exponentField - 1) * (2 ^ 53 - 1) := Nat.mul_le_mul_left _ (by omega)
  have low : x.exponentField - 1 = 0 ∨ 2 ^ 52 * (den * 2 ^ (x.exponentField - 1)) ≤ num * unit := by
    by_cases first : x.exponentField ≤ 1
    · exact .inl (by omega)
    · refine .inr ?_
      by_cases narrow : Narrow x
      · exact above narrow
      · rw [if_neg narrow] at least
        have some_digit : x.fraction ≠ 0 := fun none => narrow ⟨none, by omega⟩
        have more : 2 ^ 52 + 1 ≤ x.significand := by
          rw [significand, if_neg (by omega)]
          omega
        have bottom : den * 2 ^ (x.exponentField - 1) * (2 ^ 52 + 1) ≤
            den * 2 ^ (x.exponentField - 1) * x.significand := Nat.mul_le_mul_left _ more
        omega
  have rounded : roundHalfEven (num * unit) (den * 2 ^ (x.exponentField - 1)) = x.significand := by
    refine roundHalfEven_of_near places ?_ (by omega) ?_
    · split at least <;> omega
    · refine ends.imp even fun strict => ⟨?_, by omega⟩
      obtain ⟨strict, -⟩ := strict
      split at strict <;> omega
  have high : num * unit < 2 ^ 53 * (den * 2 ^ (x.exponentField - 1)) := by omega
  rw [ofRatio_of_cut _ positive low high rounded, pattern]

/-- What lies in the interval around a number is rounded to it. -/
theorem ofRatio_of_holds {x : Binary64} (finite : x.isFinite = true) {num den : Nat}
    (positive : 0 < den) (holds : (Interval.around x).holds (num * (2 ^ 2 * unit)) den = true) :
    ofRatio x.negative num den = x := by
  have near := near_of_holds positive holds
  have known : ofRatio x.negative num den =
      ofPattern x.negative (min (x.exponentField * 2 ^ 52 + x.fraction) infinityPattern) := by
    by_cases under : Narrow x ∧ num * unit < 2 ^ 52 * (den * 2 ^ (x.exponentField - 1))
    · exact ofRatio_of_near_under positive under.1 near under.2
    · exact ofRatio_of_near positive near fun narrow =>
        Nat.le_of_not_lt fun less => under ⟨narrow, less⟩
  rw [known, Nat.min_eq_left (pattern_lt finite).le, ofPattern_parts]

/-! ## Searching the interval -/

section
variable {tie : Tie} {i : Interval}

/-- Whether a ratio is in the interval depends on its value alone. -/
theorem holds_congr {a b a' b' : Nat} (positive : 0 < b) (positive' : 0 < b') (same : a * b' = a' * b) :
    i.holds a b = i.holds a' b' := by
  have low (l : Nat) : l * b ≤ a ↔ l * b' ≤ a' := by
    calc l * b ≤ a ↔ l * b * b' ≤ a * b' := (Nat.mul_le_mul_right_iff positive').symm
      _ ↔ l * b' * b ≤ a' * b := by rw [same, Nat.mul_right_comm]
      _ ↔ l * b' ≤ a' := Nat.mul_le_mul_right_iff positive
  have high (h : Nat) : a ≤ h * b ↔ a' ≤ h * b' := by
    calc a ≤ h * b ↔ a * b' ≤ h * b * b' := (Nat.mul_le_mul_right_iff positive').symm
      _ ↔ a' * b ≤ h * b' * b := by rw [same, Nat.mul_right_comm]
      _ ↔ a' ≤ h * b' := Nat.mul_le_mul_right_iff positive
  simp only [Interval.holds, ← Nat.not_le, low, high]

/-- The decimal with these digits and this power of ten lies in the interval. -/
def Inside (i : Interval) (d : Nat × Int) : Prop :=
  i.holds (d.1 * gridUnit d.2) (gridDivisor d.2) = true

theorem gridDivisor_pos (p : Int) : 0 < gridDivisor p := Nat.pow_pos (by decide)

/-- Zeros behind the digits count in the power of ten. -/
theorem inside_zeros (d j : Nat) (p : Int) : Inside i (d * 10 ^ j, p - j) ↔ Inside i (d, p) := by
  have exponents : j + (p - j).toNat + (-p).toNat = p.toNat + (-(p - j)).toNat := by omega
  have same : d * 10 ^ j * gridUnit (p - j) * gridDivisor p = d * gridUnit p * gridDivisor (p - j) := by
    simp only [gridUnit_eq, gridDivisor_eq]
    calc d * 10 ^ j * (10 ^ (p - j).toNat * (2 ^ 2 * unit)) * 10 ^ (-p).toNat
        = d * (2 ^ 2 * unit) * 10 ^ (j + (p - j).toNat + (-p).toNat) := by
          rw [Nat.pow_add, Nat.pow_add]
          ac_rfl
      _ = d * (10 ^ p.toNat * (2 ^ 2 * unit)) * 10 ^ (-(p - j)).toNat := by
          rw [exponents, Nat.pow_add]
          ac_rfl
  simp only [Inside]
  rw [holds_congr (gridDivisor_pos _) (gridDivisor_pos _) same]

theorem dropZeros_inside (fuel : Nat) : ∀ d : Nat × Int, Inside i d → Inside i (dropZeros fuel d) := by
  induction fuel with
  | zero => exact fun _ inside => inside
  | succ fuel ih =>
      rintro ⟨d, e⟩ inside
      unfold dropZeros
      split
      · next more =>
          refine ih _ ((inside_zeros (d / 10) 1 (e + 1)).mp ?_)
          have digits : d / 10 * 10 ^ 1 = d := Nat.div_mul_cancel (Nat.dvd_of_mod_eq_zero more.2)
          rw [digits, Int.natCast_one, Int.add_sub_cancel]
          exact inside
      · exact inside

theorem search_inside (lead : Int) {k : Nat} : ∀ n,
    (∃ j < k, (onGrid? tie i (lead - (n + j : Nat))).isSome) → Inside i (search tie i lead k n) := by
  induction k with
  | zero =>
      rintro n ⟨j, few, -⟩
      exact absurd few (Nat.not_lt_zero j)
  | succ k ih =>
      rintro n ⟨j, few, found⟩
      unfold search
      cases here : onGrid? tie i (lead - n) with
      | some d => exact onGrid?_holds here
      | none =>
          refine ih (n + 1) ?_
          cases j with
          | zero =>
              rw [Nat.add_zero, here] at found
              cases found
          | succ j => exact ⟨j, by omega, by rwa [Nat.add_right_comm]⟩

theorem onGrid?_isSome {p : Int} (below : Inside i (i.value * gridDivisor p / gridUnit p, p)) :
    (onGrid? tie i p).isSome := by
  unfold Inside gridUnit gridDivisor at below
  unfold onGrid?
  simp only at below ⊢
  generalize Nat.pow 10 p.toNat * Nat.pow 2 1076 = a at *
  generalize Nat.pow 10 (-p).toNat = b at *
  rw [below]
  split
  · split
    · rfl
    · split
      · rfl
      · cases tie <;> rfl
  · rfl
  · rfl
  · contradiction

end

/-! ## The last grid -/

/-- The estimate of the power of ten of `2 ^ (k - 1074)`. -/
def guess (k : Nat) : Int := ((k : Int) - 1074) * 30103 / 100000

def estimated (k : Nat) : Bool :=
  Nat.pow 10 (guess k).toNat * unit ≤ Nat.pow 2 k * Nat.pow 10 (-guess k).toNat

/-- No estimate is too large, as far as the exponents go. -/
theorem estimated_all : (List.range (54 + 2044)).all estimated = true := by decide +kernel

theorem log2_lt_add {n a b : Nat} (nonzero : n ≠ 0) (below : n < 2 ^ a * 2 ^ b) : Nat.log2 n < a + b := by
  rw [Nat.log2_lt nonzero, Nat.pow_add]
  exact below

theorem leadingPower_le {x : Binary64} (finite : x.isFinite = true) (nonzero : x.magnitude ≠ 0) :
    10 ^ (leadingPower x).toNat * unit ≤ x.magnitude * 10 ^ (-leadingPower x).toNat := by
  have nearest : leadingPower x = guess (Nat.log2 x.magnitude) ∨
      Nat.pow 10 (leadingPower x).toNat * unit ≤ x.magnitude * Nat.pow 10 (-leadingPower x).toNat := by
    unfold leadingPower unit guess
    simp only
    split
    · next higher => exact .inr higher
    · exact .inl rfl
  obtain estimate | higher := nearest
  · have few : Nat.log2 x.magnitude < 54 + 2044 := by
      have below := magnitude_lt finite
      rw [limit_unit] at below
      exact log2_lt_add nonzero (Nat.lt_of_lt_of_le below (Nat.mul_le_mul_right _ (Nat.sub_le _ 1)))
    have low := List.all_eq_true.mp estimated_all _ (List.mem_range.mpr few)
    unfold estimated at low
    rw [decide_eq_true_eq] at low
    rw [estimate]
    exact Nat.le_trans low (Nat.mul_le_mul_right _ (Nat.log2_self_le nonzero))
  · exact higher

/-- A step of the grid of seventeen digits behind the first is shorter than a quarter of the last place of the
number. -/
theorem gridUnit_lt {x : Binary64} {e : Int} (lead : 10 ^ e.toNat * unit ≤ x.magnitude * 10 ^ (-e).toNat) :
    gridUnit (e - 17) < 2 ^ (x.exponentField - 1) * gridDivisor (e - 17) := by
  have exponents : (e - 17).toNat + (-e).toNat + 17 = (-(e - 17)).toNat + e.toNat := by omega
  have digits : x.magnitude < 2 ^ 53 * 2 ^ (x.exponentField - 1) := by
    rw [magnitude_eq]
    exact Nat.mul_lt_mul_of_pos_right x.significand_lt (Nat.two_pow_pos _)
  have scale : 0 < 10 ^ (-e).toNat := Nat.pow_pos (by decide)
  refine Nat.lt_of_mul_lt_mul_left (a := 2 ^ 53 * 10 ^ (-e).toNat) ?_
  rw [gridUnit_eq, gridDivisor_eq]
  calc 2 ^ 53 * 10 ^ (-e).toNat * (10 ^ (e - 17).toNat * (2 ^ 2 * unit))
      = 2 ^ 55 * (10 ^ (-e).toNat * 10 ^ (e - 17).toNat * unit) := by
        rw [show 2 ^ 55 = 2 ^ 53 * 2 ^ 2 from rfl]
        ac_rfl
    _ ≤ 10 ^ 17 * (10 ^ (-e).toNat * 10 ^ (e - 17).toNat * unit) :=
        Nat.mul_le_mul_right _ (by decide)
    _ = 10 ^ ((e - 17).toNat + (-e).toNat + 17) * unit := by
        rw [Nat.pow_add, Nat.pow_add]
        ac_rfl
    _ = 10 ^ (-(e - 17)).toNat * (10 ^ e.toNat * unit) := by
        rw [exponents, Nat.pow_add]
        ac_rfl
    _ ≤ 10 ^ (-(e - 17)).toNat * (x.magnitude * 10 ^ (-e).toNat) := Nat.mul_le_mul_left _ lead
    _ < 10 ^ (-(e - 17)).toNat * (2 ^ 53 * 2 ^ (x.exponentField - 1) * 10 ^ (-e).toNat) :=
        Nat.mul_lt_mul_of_pos_left (Nat.mul_lt_mul_of_pos_right digits scale) (Nat.pow_pos (by decide))
    _ = 2 ^ 53 * 10 ^ (-e).toNat * (2 ^ (x.exponentField - 1) * 10 ^ (-(e - 17)).toNat) := by ac_rfl

/-- On the grid of seventeen digits behind the first the number below is near enough. -/
theorem onGrid?_last {tie : Tie} {x : Binary64} (finite : x.isFinite = true) (nonzero : x.magnitude ≠ 0) :
    (onGrid? tie (Interval.around x) (leadingPower x - 17)).isSome := by
  have step := gridUnit_lt (leadingPower_le finite nonzero)
  generalize leadingPower x = e at *
  refine onGrid?_isSome ?_
  have value : (Interval.around x).value = 4 * x.magnitude := rfl
  have whole := Nat.div_add_mod (4 * x.magnitude * gridDivisor (e - 17)) (gridUnit (e - 17))
  have unit_step : 0 < gridUnit (e - 17) := by
    rw [gridUnit_eq]
    exact Nat.mul_pos (Nat.pow_pos (by decide)) (Nat.mul_pos (by decide) unit_pos)
  have rest := Nat.mod_lt (4 * x.magnitude * gridDivisor (e - 17)) unit_step
  rw [value, Inside, around_eq, Interval.holds]
  rw [Nat.mul_comm] at whole
  simp only [Nat.sub_mul, Nat.add_mul, ite_mul, Nat.mul_assoc 2]
  have far : 4 * (2 ^ (x.exponentField - 1) * gridDivisor (e - 17)) ≤
      4 * x.magnitude * gridDivisor (e - 17) := by
    rw [← Nat.mul_assoc]
    exact Nat.mul_le_mul_right _ (Nat.mul_le_mul_left 4 (step_le_magnitude nonzero))
  generalize 4 * x.magnitude * gridDivisor (e - 17) = v at *
  generalize v / gridUnit (e - 17) * gridUnit (e - 17) = below at *
  generalize 2 ^ (x.exponentField - 1) * gridDivisor (e - 17) = D at *
  split <;> split <;> simp only [Bool.and_eq_true, decide_eq_true_eq] <;> omega

theorem decimal_inside (tie : Tie) {x : Binary64} (finite : x.isFinite = true)
    (nonzero : x.magnitude ≠ 0) :
    Inside (Interval.around x) ((decimal tie x).digits, (decimal tie x).exponent) := by
  have found : ∃ j < 18, (onGrid? tie (Interval.around x) (leadingPower x - (0 + j : Nat))).isSome :=
    ⟨17, by decide, onGrid?_last finite nonzero⟩
  have searched := search_inside (leadingPower x) 0 found
  unfold decimal
  rw [if_neg nonzero]
  exact dropZeros_inside 20 _ searched

/-! ## Rounding what was found -/

theorem limit_le_ten_pow : limit ≤ 10 ^ 310 :=
  Nat.le_trans limit_between.2 (Nat.pow_le_pow_right (by decide) (by decide))

theorem unit_le_ten_pow : 2 ^ 3 * unit ≤ 10 ^ 331 := by
  unfold unit
  decide +kernel

theorem ten_mul_le {k n : Nat} (less : k < n) : 10 * 10 ^ k ≤ 10 ^ n := by
  rw [← Nat.pow_succ']
  exact Nat.pow_le_pow_right (by decide) less

theorem low_within {i : Interval} {d : Nat × Int} (inside : Inside i d) :
    i.low * gridDivisor d.2 ≤ d.1 * gridUnit d.2 := by
  unfold Inside Interval.holds at inside
  split at inside <;> simp only [Bool.and_eq_true, decide_eq_true_eq] at inside
  · exact inside.1
  · exact Nat.le_of_lt inside.1

theorem high_lt {x : Binary64} (finite : x.isFinite = true) (nonzero : x.magnitude ≠ 0) :
    (Interval.around x).high < 6 * (limit * unit) := by
  have step := step_le_magnitude nonzero
  have below := magnitude_lt finite
  rw [around_eq]
  change 4 * x.magnitude + 2 * Nat.pow 2 (x.exponentField - 1) < _
  omega

/-- The cases in which no power of ten is computed do not arise inside an interval. -/
theorem bounds_of_inside {x : Binary64} (finite : x.isFinite = true) (nonzero : x.magnitude ≠ 0) {d : Nat}
    {e : Int} (inside : Inside (Interval.around x) (d, e)) :
    d ≠ 0 ∧ e ≤ 310 ∧ -330 ≤ e + Nat.log2 d := by
  have low := low_within inside
  have high : Within _ (d, e) := within_of_holds inside
  have bottom := around_low_pos nonzero
  have some_digit : d ≠ 0 := by
    rintro rfl
    have ground := Nat.mul_pos bottom (gridDivisor_pos e)
    simp only [Nat.zero_mul] at low
    omega
  refine ⟨some_digit, ?_, ?_⟩
  · by_contra large
    rw [within_iff, show (-e).toNat = 0 by omega, Nat.pow_zero, Nat.mul_one] at high
    have top : 6 * (limit * unit) ≤ d * (10 ^ e.toNat * (2 ^ 2 * unit)) := by
      calc 6 * (limit * unit) ≤ 6 * (10 ^ 310 * unit) :=
            Nat.mul_le_mul_left 6 (Nat.mul_le_mul_right unit limit_le_ten_pow)
        _ ≤ 10 * 10 ^ 310 * (2 ^ 2 * unit) := by
            rw [Nat.mul_mul_mul_comm]
            exact Nat.mul_le_mul_right _ (by decide)
        _ ≤ 10 ^ e.toNat * (2 ^ 2 * unit) := Nat.mul_le_mul_right _ (ten_mul_le (by omega))
        _ ≤ d * (10 ^ e.toNat * (2 ^ 2 * unit)) :=
            Nat.le_mul_of_pos_left _ (Nat.pos_of_ne_zero some_digit)
    have bounded := high_lt finite nonzero
    omega
  · by_contra small
    rw [gridUnit_eq, gridDivisor_eq, show e.toNat = 0 by omega, Nat.pow_zero, Nat.one_mul] at low
    simp only at low
    have long : 331 + Nat.log2 d ≤ (-e).toNat := by omega
    have digits : d < 2 ^ (Nat.log2 d + 1) := Nat.lt_log2_self
    have short : d * (2 ^ 2 * unit) < 10 ^ (-e).toNat := by
      calc d * (2 ^ 2 * unit) < 2 ^ (Nat.log2 d + 1) * (2 ^ 2 * unit) :=
            Nat.mul_lt_mul_of_pos_right digits (Nat.mul_pos (by decide) unit_pos)
        _ = 2 ^ Nat.log2 d * (2 ^ 3 * unit) := by
            rw [Nat.pow_succ, show 2 ^ 3 = 2 * 2 ^ 2 from rfl, Nat.mul_assoc, Nat.mul_assoc 2]
        _ ≤ 10 ^ Nat.log2 d * 10 ^ 331 :=
            Nat.mul_le_mul (Nat.pow_le_pow_left (by decide) _) unit_le_ten_pow
        _ = 10 ^ (331 + Nat.log2 d) := by rw [Nat.pow_add, Nat.mul_comm]
        _ ≤ 10 ^ (-e).toNat := Nat.pow_le_pow_right (by decide) long
    have ground := Nat.le_mul_of_pos_left (10 ^ (-e).toNat) bottom
    omega

theorem toBinary64_of_inside {x : Binary64} (finite : x.isFinite = true) (nonzero : x.magnitude ≠ 0)
    {d : Nat} {e : Int} (inside : Inside (Interval.around x) (d, e)) :
    (Decimal.mk x.negative d e).toBinary64 = x := by
  obtain ⟨some_digit, high, low⟩ := bounds_of_inside finite nonzero inside
  unfold Decimal.toBinary64
  simp only
  rw [if_neg some_digit, if_neg (by omega), if_neg (by omega)]
  rw [Inside, gridUnit_eq, gridDivisor_eq, ← Nat.mul_assoc] at inside
  simp only at inside
  split
  · next whole =>
      have none : (-e).toNat = 0 := by omega
      rw [none, Nat.pow_zero] at inside
      exact ofRatio_of_holds finite (by decide) inside
  · next places =>
      have none : e.toNat = 0 := by omega
      rw [none, Nat.pow_zero, Nat.mul_one] at inside
      exact ofRatio_of_holds finite (Nat.pow_pos (by decide)) inside

/-- The shortest decimal of a finite number rounds back to it, and so it does with zeros behind its
digits. -/
theorem toBinary64_decimal (tie : Tie) {x : Binary64} (finite : x.isFinite = true) (j : Nat) :
    (Decimal.mk x.negative ((decimal tie x).digits * 10 ^ j) ((decimal tie x).exponent - j)).toBinary64 =
      x := by
  by_cases zero : x.magnitude = 0
  · have digits : (decimal tie x).digits = 0 := by
      unfold decimal
      rw [if_pos zero]
    unfold Decimal.toBinary64
    rw [digits, Nat.zero_mul, if_pos rfl]
    exact zero_of_magnitude zero
  · exact toBinary64_of_inside finite zero ((inside_zeros _ j _).mpr (decimal_inside tie finite zero))

end Shortest
end HeatStack.Number
