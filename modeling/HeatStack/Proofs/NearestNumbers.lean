import HeatStack.Proofs.ShortestDecimals

/-! # Nearest numbers

A decimal is rounded to the finite number that no other is nearer to, and of two that are equally near to
the one with the even fraction (`Nearest`); what lies as far out as the middle between the largest number and
the next power of two becomes infinite.  The nearest number is one value only, since between two even
fractions there is always an odd one (`Nearest.value_eq`). -/
set_option autoImplicit false
namespace HeatStack.Number

/-! ## Natural quotients -/

/-- A multiple that is at most half a step away is the nearest, and another is as near only from the
middle. -/
theorem nearest_multiple {D N s : Int} (positive : 0 < D) (near : 2 * |D * s - N| ≤ D) (k : Int) :
    |D * s - N| ≤ |D * k - N| ∧ (k ≠ s → |D * k - N| = |D * s - N| → 2 * |D * s - N| = D) := by
  obtain below | rfl | above := lt_trichotomy k s
  · have step : D * (k + 1) ≤ D * s := Int.mul_le_mul_of_nonneg_left below positive.le
    rw [Int.mul_add, Int.mul_one] at step
    rw [Int.abs_eq_natAbs] at *
    rw [Int.abs_eq_natAbs]
    omega
  · exact ⟨le_refl _, fun other => absurd rfl other⟩
  · have step : D * (s + 1) ≤ D * k := Int.mul_le_mul_of_nonneg_left above positive.le
    rw [Int.mul_add, Int.mul_one] at step
    rw [Int.abs_eq_natAbs] at *
    rw [Int.abs_eq_natAbs]
    omega

theorem roundHalfEven_near (num : Nat) {den : Nat} (positive : 0 < den) :
    2 * |(den : Int) * roundHalfEven num den - num| ≤ den := by
  obtain ⟨above, below⟩ := roundHalfEven_bounds num positive
  rw [Int.abs_eq_natAbs, ← Int.natCast_mul]
  omega

/-- From the middle it is rounded to the even number. -/
theorem roundHalfEven_even (num : Nat) {den : Nat} (positive : 0 < den)
    (middle : 2 * |(den : Int) * roundHalfEven num den - num| = den) : roundHalfEven num den % 2 = 0 := by
  have whole := Nat.div_add_mod num den
  have part := Nat.mod_lt num positive
  rw [Int.abs_eq_natAbs, ← Int.natCast_mul] at middle
  unfold roundHalfEven at *
  simp only [Bool.or_eq_true, decide_eq_true_eq, Bool.and_eq_true, beq_iff_eq] at *
  split_ifs at * with up
  · rw [Nat.mul_add, Nat.mul_one] at middle
    omega
  · omega

namespace Binary64

/-! ## Values -/

/-- The number as an exact fraction. -/
def value (x : Binary64) : ℚ := x.scaled / unit

theorem unit_rat_pos : (0 : ℚ) < unit := Nat.cast_pos.mpr unit_pos

theorem value_le_iff {x y : Binary64} : x.value ≤ y.value ↔ x.scaled ≤ y.scaled := by
  rw [value, value, div_le_div_iff_of_pos_right unit_rat_pos, Int.cast_le]

theorem value_inj {x y : Binary64} : x.value = y.value ↔ x.scaled = y.scaled := by
  rw [le_antisymm_iff, le_antisymm_iff, value_le_iff, value_le_iff]

theorem value_lt_iff {x y : Binary64} : x.value < y.value ↔ x.scaled < y.scaled := by
  rw [← not_le, ← not_le, value_le_iff]

theorem le_iff_value {x y : Binary64} (left : x.isFinite = true) (right : y.isFinite = true) :
    x.le y = true ↔ x.value ≤ y.value := (le_iff_scaled left right).trans value_le_iff.symm

theorem same_iff_value {x y : Binary64} (left : x.isFinite = true) (right : y.isFinite = true) :
    x.same y = true ↔ x.value = y.value := by
  rw [value_inj, same, isNaN_of_isFinite left, isNaN_of_isFinite right]
  simp

theorem magnitude_eq_natAbs (x : Binary64) : x.magnitude = x.scaled.natAbs := by
  unfold scaled
  split <;> omega

/-- Of two numbers with one value the fractions are equal, and so is what is even. -/
theorem fraction_eq {x y : Binary64} (same : x.value = y.value) : x.fraction = y.fraction := by
  have magnitudes : x.magnitude = y.magnitude := by
    rw [magnitude_eq_natAbs, magnitude_eq_natAbs, value_inj.mp same]
  have patterns := pattern_of_magnitude magnitudes
  have short := x.fraction_lt
  have short' := y.fraction_lt
  omega

/-! ## The order of the patterns -/

def magnitudeAt (p : Nat) : Nat :=
  if p / 2 ^ 52 = 0 then p % 2 ^ 52 else (2 ^ 52 + p % 2 ^ 52) * 2 ^ (p / 2 ^ 52 - 1)

def pattern (x : Binary64) : Nat := x.exponentField * 2 ^ 52 + x.fraction

/-- The pattern, counted from zero to either side. -/
def rank (x : Binary64) : Int := if x.negative then -(x.pattern : Int) else x.pattern

def ofRank (r : Int) : Binary64 := ofPattern (decide (r < 0)) r.natAbs

theorem magnitudeAt_strictMono : StrictMono magnitudeAt := by
  refine strictMono_nat_of_lt_succ fun p => ?_
  unfold magnitudeAt
  by_cases carry : p % 2 ^ 52 + 1 < 2 ^ 52
  · rw [show (p + 1) / 2 ^ 52 = p / 2 ^ 52 by omega, show (p + 1) % 2 ^ 52 = p % 2 ^ 52 + 1 by omega]
    split
    · omega
    · exact Nat.mul_lt_mul_of_pos_right (by omega) (Nat.two_pow_pos _)
  · rw [show (p + 1) / 2 ^ 52 = p / 2 ^ 52 + 1 by omega, show (p + 1) % 2 ^ 52 = 0 by omega,
      if_neg (Nat.succ_ne_zero _), Nat.add_sub_cancel, Nat.add_zero]
    split
    · next first =>
        rw [first, Nat.pow_zero, Nat.mul_one]
        exact Nat.mod_lt _ (Nat.two_pow_pos 52)
    · next later =>
        obtain ⟨e, field⟩ := Nat.exists_eq_succ_of_ne_zero later
        rw [field]
        calc (2 ^ 52 + p % 2 ^ 52) * 2 ^ e < 2 ^ 53 * 2 ^ e :=
              Nat.mul_lt_mul_of_pos_right (by omega) (Nat.two_pow_pos e)
          _ = 2 ^ 52 * 2 ^ (e + 1) := by
              rw [Nat.pow_succ 2 e]
              omega

theorem magnitude_eq_magnitudeAt (x : Binary64) : x.magnitude = magnitudeAt x.pattern := by
  have short := x.fraction_lt
  have field : x.pattern / 2 ^ 52 = x.exponentField := by
    unfold pattern
    omega
  have rest : x.pattern % 2 ^ 52 = x.fraction := by
    unfold pattern
    omega
  unfold magnitudeAt
  rw [field, rest]
  unfold magnitude
  rw [Nat.pow_eq, Nat.pow_eq]

theorem scaled_lt_iff_rank {x y : Binary64} : x.scaled < y.scaled ↔ x.rank < y.rank := by
  unfold scaled rank
  rw [magnitude_eq_magnitudeAt, magnitude_eq_magnitudeAt]
  generalize x.pattern = p
  generalize y.pattern = q
  have nothing : magnitudeAt 0 = 0 := rfl
  have forth := magnitudeAt_strictMono.lt_iff_lt (a := p) (b := q)
  have back := magnitudeAt_strictMono.lt_iff_lt (a := q) (b := p)
  have left := magnitudeAt_strictMono.lt_iff_lt (a := 0) (b := p)
  have right := magnitudeAt_strictMono.lt_iff_lt (a := 0) (b := q)
  split <;> split <;> omega

theorem negative_ofPattern (negative : Bool) {pattern : Nat} (small : pattern < 2 ^ 63) :
    (ofPattern negative pattern).negative = negative := by
  unfold Binary64.negative
  rw [toNat_ofPattern negative small, Nat.pow_eq]
  cases negative
  · exact decide_eq_false (by simp; omega)
  · exact decide_eq_true (by simp)

theorem rank_ofRank {r : Int} (small : r.natAbs < 2 ^ 63) : (ofRank r).rank = r := by
  have whole := Nat.div_add_mod r.natAbs (2 ^ 52)
  unfold rank pattern ofRank
  rw [negative_ofPattern _ small, exponentField_ofPattern _ small, fraction_ofPattern _ small]
  simp only [decide_eq_true_eq]
  split <;> omega

theorem isFinite_ofRank {r : Int} (small : r.natAbs < infinityPattern) : (ofRank r).isFinite = true := by
  have top : infinityPattern = 2047 * 2 ^ 52 := rfl
  unfold isFinite ofRank
  rw [exponentField_ofPattern _ (by omega), bne_iff_ne]
  omega

theorem rank_mod_two (x : Binary64) : x.rank % 2 = 0 ↔ x.fraction % 2 = 0 := by
  unfold rank pattern
  split <;> omega

theorem natAbs_rank_lt {x : Binary64} (finite : x.isFinite = true) : x.rank.natAbs < infinityPattern := by
  have below : x.pattern < infinityPattern := pattern_lt finite
  unfold rank
  split <;> omega

/-- Between two numbers with even fractions there is another. -/
theorem exists_between {x y : Binary64} (finiteX : x.isFinite = true) (finiteY : y.isFinite = true)
    (evenX : x.fraction % 2 = 0) (evenY : y.fraction % 2 = 0) (less : x.value < y.value) :
    ∃ z : Binary64, z.isFinite = true ∧ x.value < z.value ∧ z.value < y.value := by
  rw [value_lt_iff, scaled_lt_iff_rank] at less
  have lowX := natAbs_rank_lt finiteX
  have lowY := natAbs_rank_lt finiteY
  rw [← rank_mod_two] at evenX evenY
  have small : (x.rank + 1).natAbs < infinityPattern := by omega
  have top : infinityPattern < 2 ^ 63 := by decide
  have rank := rank_ofRank (Nat.lt_trans small top)
  refine ⟨ofRank (x.rank + 1), isFinite_ofRank small, ?_, ?_⟩
  · rw [value_lt_iff, scaled_lt_iff_rank, rank]
    omega
  · rw [value_lt_iff, scaled_lt_iff_rank, rank]
    omega

/-! ## The nearest number -/

/-- No finite number is nearer to `q`, and one of another value is as near only if this one's fraction is
even. -/
structure Nearest (x : Binary64) (q : ℚ) : Prop where
  finite : x.isFinite = true
  least : ∀ y : Binary64, y.isFinite = true → |x.value - q| ≤ |y.value - q|
  even : ∀ y : Binary64, y.isFinite = true → y.value ≠ x.value → |y.value - q| = |x.value - q| →
    x.fraction % 2 = 0

variable {x y : Binary64} {q : ℚ}

theorem Nearest.congr (nearest : Nearest x q) (finite : y.isFinite = true) (same : y.value = x.value) :
    Nearest y q := by
  refine ⟨finite, ?_, ?_⟩
  · rw [same]
    exact nearest.least
  · rw [same, fraction_eq same]
    exact nearest.even

/-- What is nearest has one value. -/
theorem Nearest.value_eq (left : Nearest x q) (right : Nearest y q) : x.value = y.value := by
  by_contra other
  wlog less : x.value < y.value generalizing x y
  · exact this right left (Ne.symm other) (lt_of_le_of_ne (not_lt.mp less) (Ne.symm other))
  have tie : |x.value - q| = |y.value - q| :=
    le_antisymm (left.least y right.finite) (right.least x left.finite)
  obtain ⟨z, finite, above, below⟩ := exists_between left.finite right.finite
    (left.even y right.finite (Ne.symm other) tie.symm) (right.even x left.finite other tie) less
  -- The middle of the two is `q`, and what lies between them is nearer to it.
  have middle : q = (x.value + y.value) / 2 := by
    rcases abs_eq_abs.mp tie with same | opposite <;> linarith
  have nearer := left.least z finite
  rw [abs_of_neg (by linarith : x.value - q < 0), abs_eq_max_neg, le_max_iff] at nearer
  rcases nearer with far | far <;> linarith

/-- The nearest number passes a bound just if the exact one does or is rounded to the bound. -/
theorem Nearest.passes_iff (nearest : Nearest x q) (upper : Bool) (finite : y.isFinite = true) :
    passes upper y x = true ↔ (if upper then q ≤ y.value else y.value ≤ q) ∨ Nearest y q := by
  have least := nearest.least y finite
  have equal : Nearest y q ↔ y.value = x.value :=
    ⟨fun other => other.value_eq nearest, nearest.congr finite⟩
  cases upper with
  | false =>
      change y.le x = true ↔ y.value ≤ q ∨ _
      rw [le_iff_value finite nearest.finite, equal]
      constructor
      · intro below
        refine or_iff_not_imp_left.mpr fun beyond => le_antisymm below ?_
        rw [not_le] at beyond
        rw [abs_of_pos (sub_pos.mpr beyond), abs_of_pos (by linarith)] at least
        linarith
      · rintro (below | same)
        · by_contra under
          rw [not_le] at under
          rw [abs_of_neg (by linarith), abs_of_nonpos (by linarith)] at least
          linarith
        · exact same.le
  | true =>
      change x.le y = true ↔ q ≤ y.value ∨ _
      rw [le_iff_value nearest.finite finite, equal]
      constructor
      · intro above
        refine or_iff_not_imp_left.mpr fun beyond => le_antisymm ?_ above
        rw [not_le] at beyond
        rw [abs_of_neg (sub_neg.mpr beyond), abs_of_neg (by linarith)] at least
        linarith
      · rintro (above | same)
        · by_contra beyond
          rw [not_le] at beyond
          rw [abs_of_pos (by linarith), abs_of_nonneg (by linarith)] at least
          linarith
        · exact same.ge

/-! ## Rounding to the nearest -/

def signed (negative : Bool) (n : Int) : Int := if negative then -n else n

def ratio (negative : Bool) (num den : Nat) : ℚ := (signed negative num : Int) / den

theorem abs_signed (negative : Bool) (n : Int) : |signed negative n| = |n| := by
  cases negative
  · rfl
  · exact abs_neg n

theorem abs_ratio (negative : Bool) (num den : Nat) : |ratio negative num den| = num / den := by
  rw [ratio, abs_div, ← Int.cast_abs, abs_signed, Nat.abs_cast, Nat.abs_cast, Int.cast_natCast]

theorem abs_ratio_lt_iff (negative : Bool) {num den : Nat} (positive : 0 < den) :
    |ratio negative num den| < limit ↔ num * unit < den * (limit * unit) := by
  rw [abs_ratio, div_lt_iff₀ (Nat.cast_pos.mpr positive), ← Nat.cast_mul, Nat.cast_lt,
    ← Nat.mul_lt_mul_right unit_pos, ← Nat.mul_assoc, Nat.mul_comm limit den]

/-- Distances from a ratio, counted in the smallest positive number and the denominator. -/
theorem dist_ratio (negative : Bool) {num den : Nat} (positive : 0 < den) (y : Binary64) :
    |y.value - ratio negative num den| =
      (|(den : Int) * signed negative y.scaled - (num * unit : Nat)| : Int) / (den * unit : ℚ) := by
  have units := unit_rat_pos
  have parts : (0 : ℚ) < den := Nat.cast_pos.mpr positive
  have common : y.value - ratio negative num den =
      (signed negative ((den : Int) * signed negative y.scaled - (num * unit : Nat)) : Int) /
        (den * unit : ℚ) := by
    unfold value ratio signed
    cases negative
    · push_cast
      field_simp
    · push_cast
      field_simp
      simp
      ring
  rw [common, abs_div, ← Int.cast_abs, abs_signed, abs_of_pos (mul_pos parts units)]

/-- A number is a multiple of the last place that is kept, or so small that no place had to be cut. -/
theorem multiple_or_small (negative : Bool) (y : Binary64) (cut : Nat) :
    (2 ^ cut : Int) ∣ signed negative y.scaled ∨
      (signed negative y.scaled).natAbs < 2 ^ 52 * 2 ^ cut ∧ cut ≠ 0 := by
  have size : (signed negative y.scaled).natAbs = y.magnitude := by
    rw [magnitude_eq_natAbs]
    cases negative
    · rfl
    · exact Int.natAbs_neg _
  by_cases coarse : cut ≤ y.exponentField - 1
  · refine .inl ?_
    have multiple : 2 ^ cut ∣ y.magnitude :=
      y.magnitude_eq ▸ Dvd.dvd.mul_left (Nat.pow_dvd_pow 2 coarse) _
    rw [← size] at multiple
    exact_mod_cast Int.natCast_dvd.mpr multiple
  · refine .inr ⟨?_, by omega⟩
    obtain ⟨c, rfl⟩ : ∃ c, cut = c + 1 := ⟨cut - 1, by omega⟩
    calc (signed negative y.scaled).natAbs = y.significand * 2 ^ (y.exponentField - 1) :=
          size.trans y.magnitude_eq
      _ ≤ y.significand * 2 ^ c := Nat.mul_le_mul_left _ (Nat.pow_le_pow_right (by decide) (by omega))
      _ < 2 ^ 53 * 2 ^ c := Nat.mul_lt_mul_of_pos_right y.significand_lt (Nat.two_pow_pos c)
      _ = 2 ^ 52 * 2 ^ (c + 1) := by
          rw [Nat.pow_succ]
          omega

/-- A significand that is rounded to, against all that a number can count. -/
theorem rounded_least {den units cut s : Nat} {m : Int} (positive : 0 < den)
    (near : 2 * |((den * 2 ^ cut : Nat) : Int) * s - units| ≤ (den * 2 ^ cut : Nat))
    (long : cut = 0 ∨ den * 2 ^ cut * 2 ^ 52 ≤ units)
    (counts : (2 ^ cut : Int) ∣ m ∨ m.natAbs < 2 ^ 52 * 2 ^ cut ∧ cut ≠ 0) :
    |((den * 2 ^ cut : Nat) : Int) * s - units| ≤ |(den : Int) * m - units| ∧
      (m ≠ s * 2 ^ cut → |(den : Int) * m - units| = |((den * 2 ^ cut : Nat) : Int) * s - units| →
        2 * |((den * 2 ^ cut : Nat) : Int) * s - units| = (den * 2 ^ cut : Nat)) := by
  have place : (0 : Int) < (den * 2 ^ cut : Nat) := by
    exact_mod_cast Nat.mul_pos positive (Nat.two_pow_pos cut)
  rcases counts with ⟨k, rfl⟩ | ⟨small, some_cut⟩
  · obtain ⟨least, middle⟩ := nearest_multiple place near k
    have same : (den : Int) * (2 ^ cut * k) = (den * 2 ^ cut : Nat) * k := by
      push_cast
      ring
    rw [same]
    refine ⟨least, fun other => middle fun equal => other ?_⟩
    rw [equal, mul_comm]
  · -- The least significand with 53 digits lies between the two.
    have bottom := (nearest_multiple place near (2 ^ 52)).1
    have above : ((den * 2 ^ cut : Nat) : Int) * 2 ^ 52 ≤ units := by
      exact_mod_cast long.resolve_left some_cut
    have below : (den : Int) * m < (den * 2 ^ cut : Nat) * 2 ^ 52 := by
      have less : m < 2 ^ 52 * 2 ^ cut := by
        have size : (m.natAbs : Int) < 2 ^ 52 * 2 ^ cut := by exact_mod_cast small
        exact Int.lt_of_le_of_lt Int.le_natAbs size
      calc (den : Int) * m < den * (2 ^ 52 * 2 ^ cut) :=
            Int.mul_lt_mul_of_pos_left less (by exact_mod_cast positive)
        _ = (den * 2 ^ cut : Nat) * 2 ^ 52 := by
            push_cast
            ring
    rw [abs_of_nonpos (sub_nonpos.mpr above)] at bottom
    rw [abs_of_neg (by linarith : (den : Int) * m - units < 0)]
    exact ⟨by linarith, fun _ equal => by linarith⟩

theorem nearest_ofRatio (negative : Bool) {num den : Nat} (positive : 0 < den)
    (bounded : num * unit < den * (limit * unit)) :
    Nearest (ofRatio negative num den) (ratio negative num den) := by
  obtain ⟨cut, known, fits, most, full, long⟩ := ofRatio_cut negative positive bounded
  have top : infinityPattern = 2047 * 2 ^ 52 := rfl
  have small : cut * 2 ^ 52 + roundHalfEven (num * unit) (den * 2 ^ cut) < 2 ^ 63 := by omega
  have place : 0 < den * 2 ^ cut := Nat.mul_pos positive (Nat.two_pow_pos cut)
  have near := roundHalfEven_near (num * unit) place
  have even := roundHalfEven_even (num * unit) place
  have common : (0 : ℚ) < den * unit := mul_pos (Nat.cast_pos.mpr positive) unit_rat_pos
  have finite : (ofRatio negative num den).isFinite = true := by
    unfold isFinite
    rw [known, exponentField_ofPattern _ small, bne_iff_ne]
    omega
  have parity : (ofRatio negative num den).fraction % 2 =
      roundHalfEven (num * unit) (den * 2 ^ cut) % 2 := by
    rw [known, fraction_ofPattern _ small]
    omega
  have counted : signed negative (ofRatio negative num den).scaled =
      roundHalfEven (num * unit) (den * 2 ^ cut) * 2 ^ cut := by
    unfold scaled
    rw [known, negative_ofPattern _ small, magnitude_ofPattern _ small most full]
    cases negative <;> simp [signed]
  have product : (den : Int) * signed negative (ofRatio negative num den).scaled =
      (den * 2 ^ cut : Nat) * roundHalfEven (num * unit) (den * 2 ^ cut) := by
    rw [counted]
    push_cast
    ring
  generalize roundHalfEven (num * unit) (den * 2 ^ cut) = s at *
  have against (y : Binary64) := rounded_least positive near long (multiple_or_small negative y cut)
  refine ⟨finite, fun y _ => ?_, fun y _ other tie => ?_⟩
  · rw [dist_ratio negative positive, dist_ratio negative positive, product,
      div_le_div_iff_of_pos_right common, Int.cast_le]
    exact (against y).1
  · rw [dist_ratio negative positive, dist_ratio negative positive, product,
      div_left_inj' common.ne', Int.cast_inj] at tie
    rw [parity]
    refine even ((against y).2 (fun same => other ?_) tie)
    rw [value_inj]
    rw [← counted] at same
    unfold signed at same
    split at same <;> omega

/-- From the middle between the largest significand and the next on, rounding goes up: the largest is odd. -/
theorem middle_rounds_up {units half s : Nat} (positive : 0 < half) (large : (2 ^ 54 - 1) * half ≤ units)
    (below : 2 * units ≤ 2 * (2 * half * s) + 2 * half)
    (even : 2 * |((2 * half : Nat) : Int) * s - units| = (2 * half : Nat) → s % 2 = 0) : 2 ^ 53 ≤ s := by
  have least : 2 ^ 53 ≤ s + 1 := by
    refine Nat.le_of_not_lt fun less => ?_
    have shrunk : 2 * half * (s + 2) ≤ 2 * half * 2 ^ 53 := Nat.mul_le_mul_left _ (by omega)
    rw [Nat.mul_add] at shrunk
    omega
  have other : s + 1 ≠ 2 ^ 53 := by
    intro largest
    have product : 2 * half * (s + 1) = 2 * half * 2 ^ 53 := by rw [largest]
    rw [Nat.mul_add] at product
    have parity := even (by
      rw [Int.abs_eq_natAbs, ← Int.natCast_mul]
      omega)
    omega
  omega

/-- The pattern of a ratio that is not below the middle between the largest number with `e + 1` cut places
and the next power of two. -/
theorem pattern_large (e : Nat) {units den cut : Nat} (positive : 0 < den)
    (large : den * ((2 ^ 54 - 1) * 2 ^ e) ≤ units) (known : cut = Nat.log2 (units / den) - 52) :
    (e + 3) * 2 ^ 52 ≤ cut * 2 ^ 52 + roundHalfEven units (den * 2 ^ cut) := by
  have power := Nat.two_pow_pos e
  have step : 0 < den * 2 ^ e := Nat.mul_pos positive power
  have many : (2 ^ 54 - 1) * 2 ^ e ≤ units / den := by
    rw [Nat.le_div_iff_mul_le positive, Nat.mul_comm]
    exact large
  have nonzero : units / den ≠ 0 := by omega
  have long : 53 + e ≤ Nat.log2 (units / den) := by
    rw [Nat.le_log2 nonzero, Nat.pow_add]
    omega
  have full : 2 ^ 52 * 2 ^ cut ≤ units / den :=
    known ▸ (log2_cut (units / den)).2.resolve_left (by omega)
  have above : den * 2 ^ cut * 2 ^ 52 ≤ units := by
    calc den * 2 ^ cut * 2 ^ 52 = den * (2 ^ 52 * 2 ^ cut) := by ac_rfl
      _ ≤ den * (units / den) := Nat.mul_le_mul_left den full
      _ ≤ units := Nat.mul_div_le units den
  have place : 0 < den * 2 ^ cut := Nat.mul_pos positive (Nat.two_pow_pos cut)
  obtain ⟨-, below⟩ := roundHalfEven_bounds units place
  have even := roundHalfEven_even units place
  generalize roundHalfEven units (den * 2 ^ cut) = s at *
  by_cases last : cut = e + 1
  · subst last
    have whole : den * 2 ^ (e + 1) = 2 * (den * 2 ^ e) := by
      rw [Nat.pow_succ, Nat.mul_comm (2 ^ e), Nat.mul_left_comm]
    have middle : den * ((2 ^ 54 - 1) * 2 ^ e) = (2 ^ 54 - 1) * (den * 2 ^ e) := by ac_rfl
    rw [whole] at below even
    rw [middle] at large
    have most := middle_rounds_up step large below even
    calc (e + 3) * 2 ^ 52 = (e + 1) * 2 ^ 52 + 2 ^ 53 := by ring
      _ ≤ (e + 1) * 2 ^ 52 + s := Nat.add_le_add_left most _
  · have least : 2 ^ 52 ≤ s := by
      refine Nat.le_of_not_lt fun low => ?_
      have shrunk : den * 2 ^ cut * (s + 1) ≤ den * 2 ^ cut * 2 ^ 52 := Nat.mul_le_mul_left _ low
      rw [Nat.mul_add] at shrunk
      omega
    calc (e + 3) * 2 ^ 52 ≤ (cut + 1) * 2 ^ 52 := Nat.mul_le_mul_right _ (by omega)
      _ = cut * 2 ^ 52 + 2 ^ 52 := Nat.succ_mul _ _
      _ ≤ cut * 2 ^ 52 + s := Nat.add_le_add_left least _

/-- From the limit on a ratio is infinite. -/
theorem not_finite_ofRatio (negative : Bool) {num den : Nat} (positive : 0 < den)
    (large : den * (limit * unit) ≤ num * unit) : (ofRatio negative num den).isFinite = false := by
  rw [limit_unit] at large
  have top : infinityPattern ≤ _ := pattern_large 2044 positive large rfl
  rw [ofRatio_eq, Nat.min_eq_right top]
  cases negative <;> rfl

/-- A number that is nearest as long as anything finite is, and infinite beyond. -/
structure Rounds (x : Binary64) (q : ℚ) : Prop where
  nearest : |q| < limit → Nearest x q
  overflow : limit ≤ |q| → x.isFinite = false

theorem rounds_ofRatio (negative : Bool) (num : Nat) {den : Nat} (positive : 0 < den) :
    Rounds (ofRatio negative num den) (ratio negative num den) := by
  constructor
  · rw [abs_ratio_lt_iff negative positive]
    exact nearest_ofRatio negative positive
  · rw [← not_lt, abs_ratio_lt_iff negative positive, not_lt]
    exact not_finite_ofRatio negative positive

theorem one_le_limit : 1 ≤ limit := Nat.one_le_of_lt Json.Numeral.room_lt_limit

/-- Below half of the smallest positive number all is rounded to zero. -/
theorem rounds_zero (negative : Bool) (tiny : 2 * |q| < 1 / unit) : Rounds (zero negative) q := by
  have units := unit_rat_pos
  have nothing : (zero negative).scaled = 0 := by cases negative <;> rfl
  have origin : (zero negative).value = 0 := by rw [value, nothing, Int.cast_zero, zero_div]
  refine ⟨fun _ => ⟨by cases negative <;> rfl, fun y _ => ?_, fun _ _ _ _ => ?_⟩, fun large => ?_⟩
  · rw [origin, zero_sub, abs_neg]
    by_cases none : y.scaled = 0
    · rw [value, none, Int.cast_zero, zero_div, zero_sub, abs_neg]
    · have far : 1 / (unit : ℚ) ≤ |y.value| := by
        rw [value, abs_div, ← Int.cast_abs, abs_of_pos units, div_le_div_iff_of_pos_right units]
        exact_mod_cast Int.one_le_abs none
      have triangle := abs_sub_abs_le_abs_sub y.value q
      linarith
  · cases negative <;> rfl
  · have most : (1 : ℚ) / unit ≤ 1 := (div_le_one units).mpr (by exact_mod_cast unit_pos)
    have least : (1 : ℚ) ≤ limit := by exact_mod_cast one_le_limit
    have some_part := abs_nonneg q
    linarith

end Binary64

namespace Decimal
open Binary64

/-! ## Decimals -/

def value (d : Decimal) : ℚ := signed d.negative d.digits * 10 ^ d.exponent

variable {d : Decimal}

theorem abs_value (d : Decimal) : |d.value| = d.digits * 10 ^ d.exponent := by
  have power : (0 : ℚ) < 10 ^ d.exponent := zpow_pos (by norm_num) _
  rw [value, abs_mul, ← Int.cast_abs, abs_signed, abs_of_pos power, Nat.abs_cast, Int.cast_natCast]

theorem value_of_whole (whole : 0 ≤ d.exponent) :
    d.value = ratio d.negative (d.digits * Nat.pow 10 d.exponent.toNat) 1 := by
  obtain ⟨n, exponent⟩ := Int.eq_ofNat_of_zero_le whole
  rw [value, ratio, exponent, zpow_natCast, Int.toNat_natCast, Nat.pow_eq]
  cases d.negative <;> simp [signed]

theorem value_of_places (places : ¬ 0 ≤ d.exponent) :
    d.value = ratio d.negative d.digits (Nat.pow 10 (-d.exponent).toNat) := by
  obtain ⟨n, exponent⟩ := Int.eq_ofNat_of_zero_le (show 0 ≤ -d.exponent by omega)
  rw [value, ratio, ← neg_neg d.exponent, exponent, neg_neg, Int.toNat_natCast, zpow_neg, zpow_natCast,
    Nat.pow_eq, div_eq_mul_inv]
  push_cast
  rfl

theorem limit_le_of_large (some_digit : d.digits ≠ 0) (large : 310 < d.exponent) :
    (limit : ℚ) ≤ |d.value| := by
  have power : (10 : ℚ) ^ (310 : ℤ) ≤ 10 ^ d.exponent := zpow_le_zpow_right₀ (by norm_num) large.le
  have digits : (1 : ℚ) ≤ d.digits := by exact_mod_cast Nat.pos_of_ne_zero some_digit
  have top : (limit : ℚ) ≤ 10 ^ (310 : ℤ) := by exact_mod_cast Shortest.limit_le_ten_pow
  rw [abs_value]
  calc (limit : ℚ) ≤ 10 ^ d.exponent := top.trans power
    _ ≤ d.digits * 10 ^ d.exponent := le_mul_of_one_le_left (by positivity) digits

theorem tiny_of_small (small : d.exponent + Nat.log2 d.digits < -330) : 2 * |d.value| < 1 / unit := by
  have units := unit_rat_pos
  have digits : (d.digits : ℚ) < 2 * 10 ^ (Nat.log2 d.digits : ℤ) := by
    have binary : d.digits < 2 ^ (Nat.log2 d.digits + 1) := Nat.lt_log2_self
    have tens : 2 ^ Nat.log2 d.digits ≤ 10 ^ Nat.log2 d.digits := Nat.pow_le_pow_left (by decide) _
    rw [zpow_natCast]
    exact_mod_cast (by omega : d.digits < 2 * 10 ^ Nat.log2 d.digits)
  have bottom : (8 * unit : ℚ) * 10 ^ (-331 : ℤ) ≤ 1 := by
    rw [zpow_neg, ← div_eq_mul_inv, div_le_one (by positivity)]
    exact_mod_cast Shortest.unit_le_ten_pow
  have power : (10 : ℚ) ^ ((Nat.log2 d.digits : ℤ) + d.exponent) ≤ 10 ^ (-331 : ℤ) :=
    zpow_le_zpow_right₀ (by norm_num) (by omega)
  rw [abs_value, lt_div_iff₀ units]
  calc 2 * (d.digits * 10 ^ d.exponent) * (unit : ℚ)
      < 2 * (2 * 10 ^ (Nat.log2 d.digits : ℤ) * 10 ^ d.exponent) * unit := by gcongr
    _ = 4 * unit * 10 ^ ((Nat.log2 d.digits : ℤ) + d.exponent) := by
        rw [zpow_add₀ (by norm_num)]
        ring
    _ ≤ 4 * unit * 10 ^ (-331 : ℤ) := by gcongr
    _ ≤ 1 := by linarith [mul_pos units (zpow_pos (by norm_num : (0 : ℚ) < 10) (-331))]

theorem rounds_toBinary64 (d : Decimal) : Rounds d.toBinary64 d.value := by
  unfold toBinary64
  split_ifs with none large tiny whole
  · refine rounds_zero _ ?_
    rw [abs_value, none, Nat.cast_zero, zero_mul, mul_zero]
    exact div_pos one_pos unit_rat_pos
  · have beyond := limit_le_of_large none large
    exact ⟨fun small => absurd beyond (not_le.mpr small), fun _ => by cases d.negative <;> rfl⟩
  · exact rounds_zero _ (tiny_of_small tiny)
  · rw [value_of_whole whole]
    exact rounds_ofRatio _ _ Nat.one_pos
  · rw [value_of_places whole]
    exact rounds_ofRatio _ _ (Nat.pow_pos (by decide))

theorem isFinite_toBinary64_iff (d : Decimal) : d.toBinary64.isFinite = true ↔ |d.value| < limit := by
  obtain ⟨nearest, overflow⟩ := d.rounds_toBinary64
  refine ⟨fun finite => ?_, fun small => (nearest small).finite⟩
  refine lt_of_not_ge fun large => ?_
  rw [overflow large] at finite
  cases finite

end Decimal
end HeatStack.Number
