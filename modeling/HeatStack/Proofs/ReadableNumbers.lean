import HeatStack.Proofs.BinaryRounding
import HeatStack.Proofs.NumeralText

/-! # Every number that is written can be read

The numeral that a finite number is written as is never refused for its size.  Its digits lie within
half a step of the number, and reading rounds three times; that leaves room below the middle behind the
largest number, except for the three largest numbers, which are read on their own. -/
set_option autoImplicit false

namespace HeatStack.Number

theorem Binary64.isInfinite_of_isFinite {x : Binary64} (finite : x.isFinite = true) :
    x.isInfinite = false := by
  unfold isFinite at finite
  unfold isInfinite
  rw [Bool.and_eq_false_iff]
  exact .inl (by simpa using finite)

theorem Binary64.magnitude_le (x : Binary64) :
    x.magnitude ≤ (2 ^ 52 + x.fraction) * 2 ^ (x.exponentField - 1) := by
  unfold magnitude
  split
  · exact Nat.le_trans (Nat.le_add_left _ _) (Nat.le_mul_of_pos_right _ (Nat.two_pow_pos _))
  · exact Nat.le_refl _

/-! ## The decimal that is written -/

namespace Shortest

/-- A decimal that is not above the upper end of an interval, in units of `2 ^ -1076`. -/
def Within (high : Nat) (d : Nat × Int) : Prop := d.1 * gridUnit d.2 ≤ high * gridDivisor d.2

theorem within_of_holds {i : Interval} {d : Nat} {p : Int}
    (holds : i.holds (d * gridUnit p) (gridDivisor p) = true) : Within i.high (d, p) := by
  unfold Interval.holds at holds
  unfold Within
  split at holds <;> simp only [Bool.and_eq_true, decide_eq_true_eq] at holds
  · exact holds.2
  · exact Nat.le_of_lt holds.2

theorem search_within (tie : Tie) (i : Interval) (lead : Int) :
    ∀ k n, Within i.high (search tie i lead k n) := by
  intro k
  induction k with
  | zero =>
      intro n
      unfold search Within
      rw [Nat.zero_mul]
      exact Nat.zero_le _
  | succ k ih =>
      intro n
      unfold search
      cases found : onGrid? tie i (lead - n) with
      | none => exact ih (n + 1)
      | some d => exact within_of_holds (onGrid?_holds found)

theorem gridUnit_eq (p : Int) : gridUnit p = 10 ^ p.toNat * (2 ^ 2 * Binary64.unit) := by
  unfold gridUnit
  rw [show Nat.pow 2 1076 = 2 ^ 2 * Binary64.unit from Binary64.four_unit]
  rfl

theorem gridDivisor_eq (p : Int) : gridDivisor p = 10 ^ (-p).toNat := rfl

/-- A decimal that is not negative in its power of ten, or else the same with the power on the other
side. -/
theorem within_iff {high d : Nat} {p : Int} : Within high (d, p) ↔
    d * (10 ^ p.toNat * (2 ^ 2 * Binary64.unit)) ≤ high * 10 ^ (-p).toNat := by
  unfold Within
  rw [gridUnit_eq, gridDivisor_eq]

theorem dropZero_within {high d : Nat} {e : Int} (within : Within high (d, e)) (zero : d % 10 = 0) :
    Within high (d / 10, e + 1) := by
  have whole : d = 10 * (d / 10) := by omega
  rw [within_iff] at *
  generalize 2 ^ 2 * Binary64.unit = U at *
  generalize d / 10 = k at *
  subst whole
  by_cases positive : 0 ≤ e
  · have up : (e + 1).toNat = e.toNat + 1 := by omega
    have down : (-(e + 1)).toNat = (-e).toNat := by omega
    rw [up, down]
    calc k * (10 ^ (e.toNat + 1) * U) = 10 * k * (10 ^ e.toNat * U) := by
          rw [Nat.pow_succ]
          ac_rfl
      _ ≤ high * 10 ^ (-e).toNat := within
  · have up : (e + 1).toNat = e.toNat := by omega
    have down : (-e).toNat = (-(e + 1)).toNat + 1 := by omega
    rw [up]
    rw [down] at within
    refine Nat.le_of_mul_le_mul_left ?_ (by decide : 0 < 10)
    calc 10 * (k * (10 ^ e.toNat * U)) = 10 * k * (10 ^ e.toNat * U) := by ac_rfl
      _ ≤ high * 10 ^ ((-(e + 1)).toNat + 1) := within
      _ = 10 * (high * 10 ^ (-(e + 1)).toNat) := by
          rw [Nat.pow_succ]
          ac_rfl

theorem dropZeros_within (high fuel : Nat) : ∀ d : Nat × Int, Within high d →
    Within high (dropZeros fuel d) := by
  induction fuel with
  | zero => exact fun _ within => within
  | succ fuel ih =>
      rintro ⟨d, e⟩ within
      unfold dropZeros
      split
      · next more =>
          exact ih _ (dropZero_within within more.2)
      · exact within

theorem decimal_within (tie : Tie) (x : Binary64) :
    Within (Interval.around x).high ((decimal tie x).digits, (decimal tie x).exponent) := by
  unfold decimal
  split
  · unfold Within
    rw [Nat.zero_mul]
    exact Nat.zero_le _
  · exact dropZeros_within _ 20 _ (search_within _ _ _ 18 0)

/-- Digits in front of a decimal, followed by zeros up to the point, are not above it. -/
theorem front_le {high d s r e : Nat} {p : Int} (within : Within high (d, p)) (front : s * 10 ^ r ≤ d)
    (place : (r : Int) + p = e) : s * 10 ^ e * (2 ^ 2 * Binary64.unit) ≤ high := by
  rw [within_iff] at within
  generalize 2 ^ 2 * Binary64.unit = U at *
  by_cases positive : 0 ≤ p
  · have split : e = r + p.toNat := by omega
    have none : (-p).toNat = 0 := by omega
    rw [none, Nat.pow_zero, Nat.mul_one] at within
    calc s * 10 ^ e * U = s * 10 ^ r * (10 ^ p.toNat * U) := by
          rw [split, Nat.pow_add]
          ac_rfl
      _ ≤ d * (10 ^ p.toNat * U) := Nat.mul_le_mul_right _ front
      _ ≤ high := within
  · have split : r = e + (-p).toNat := by omega
    have none : p.toNat = 0 := by omega
    rw [none, Nat.pow_zero, Nat.one_mul] at within
    have scale : 0 < 10 ^ (-p).toNat := Nat.pow_pos (by decide)
    refine Nat.le_of_mul_le_mul_right ?_ scale
    calc s * 10 ^ e * U * 10 ^ (-p).toNat = s * 10 ^ r * U := by
          rw [split, Nat.pow_add]
          ac_rfl
      _ ≤ d * U := Nat.mul_le_mul_right _ front
      _ ≤ high * 10 ^ (-p).toNat := within

end Shortest
end HeatStack.Number

namespace HeatStack.Json.Numeral
open HeatStack.Number HeatStack.Text

/-! ## Digits that are taken -/

/-- The number that digits make behind others that make `s`. -/
def behind (s : Nat) (ds : List Char) : Nat := ds.foldl (fun n c => n * 10 + digitValue c) s

theorem behind_append (s : Nat) (ds es : List Char) : behind s (ds ++ es) = behind (behind s ds) es :=
  List.foldl_append

theorem behind_le (s : Nat) (ds : List Char) : s * 10 ^ ds.length ≤ behind s ds := by
  induction ds generalizing s with
  | nil => rw [List.length_nil, Nat.pow_zero, Nat.mul_one]; exact Nat.le_refl s
  | cons d ds ih =>
      calc s * 10 ^ (ds.length + 1) = s * 10 * 10 ^ ds.length := by rw [Nat.pow_succ]; ac_rfl
        _ ≤ (s * 10 + digitValue d) * 10 ^ ds.length := Nat.mul_le_mul_right _ (Nat.le_add_right _ _)
        _ ≤ behind (s * 10 + digitValue d) ds := ih _

theorem take_used (s : Nat) (ds : List Char) :
    ∃ used, ds = used ++ (take s ds).2 ∧ (take s ds).1 = behind s used := by
  induction ds generalizing s with
  | nil => exact ⟨[], rfl, rfl⟩
  | cons d ds ih =>
      unfold take
      simp only
      split
      · obtain ⟨used, all, taken⟩ := ih (s * 10 + digitValue d)
        exact ⟨d :: used, congrArg (d :: ·) all, taken⟩
      · exact ⟨[], rfl, rfl⟩

theorem take_small (s : Nat) (ds : List Char) (small : s < 2 ^ 64) : (take s ds).1 < 2 ^ 64 := by
  induction ds generalizing s with
  | nil => exact small
  | cons d ds ih =>
      unfold take
      simp only
      split
      · next fits => exact ih _ fits
      · exact small

theorem digitValue_le {c : Char} (digit : isDigit c = true) : digitValue c ≤ 9 := by
  unfold isDigit at digit
  unfold digitValue
  simp only [Bool.and_eq_true, decide_eq_true_eq] at digit
  have high : c.toNat ≤ '9'.toNat := digit.2
  have nine : '9'.toNat = 57 := rfl
  omega

/-- Digits that fit are all taken. -/
theorem take_all {s : Nat} {ds : List Char} (digits : ∀ c ∈ ds, isDigit c = true)
    (fits : (s + 1) * 10 ^ ds.length ≤ 2 ^ 64) : (take s ds).2 = [] := by
  induction ds generalizing s with
  | nil => rfl
  | cons d ds ih =>
      obtain ⟨first, others⟩ := List.forall_mem_cons.mp digits
      have nine := digitValue_le first
      have less : (s * 10 + digitValue d + 1) * 10 ^ ds.length ≤ 2 ^ 64 := by
        calc (s * 10 + digitValue d + 1) * 10 ^ ds.length ≤ (s + 1) * 10 * 10 ^ ds.length :=
              Nat.mul_le_mul_right _ (by omega)
          _ = (s + 1) * 10 ^ (ds.length + 1) := by rw [Nat.pow_succ]; ac_rfl
          _ ≤ 2 ^ 64 := fits
      have next : s * 10 + digitValue d < Nat.pow 2 64 := by
        have one : 0 < 10 ^ ds.length := Nat.pow_pos (by decide)
        exact Nat.lt_of_lt_of_le (Nat.le_mul_of_pos_right _ one) less
      unfold take
      simp only [next, if_true]
      exact ih others less

theorem decimal_toDigits (n : Nat) : Text.decimal (Nat.toDigits 10 n) = n := by
  have same : ∀ (ds : List Char) s, ds.foldl (fun n c => n * 10 + digitValue c) s =
      Nat.ofDigitChars 10 ds s := by
    intro ds s
    rw [Nat.ofDigitChars_eq_foldl]
    congr 1
    funext n c
    rw [Nat.mul_comm]
    rfl
  exact (same _ 0).trans Nat.ofDigitChars_ten_toDigits

/-- A numeral with few digits before the point loses digits only behind the point. -/
theorem scaled_eq {n : Numeral} (proper : n.Proper) (few : n.whole.length ≤ 16) :
    ∃ used rest, n.places = used ++ rest ∧ behind 0 (n.whole ++ used) < 2 ^ 64 ∧
      n.scaled = ⟨behind 0 (n.whole ++ used), -(used.length : Int)⟩ := by
  have fits : (0 + 1) * 10 ^ n.whole.length ≤ 2 ^ 64 := by
    rw [Nat.zero_add, Nat.one_mul]
    exact Nat.le_trans (Nat.pow_le_pow_right (by decide) few) (by decide)
  have all := take_all proper.whole.2 fits
  obtain ⟨front, whole, taken⟩ := take_used 0 n.whole
  rw [all, List.append_nil] at whole
  obtain ⟨used, places, value⟩ := take_used (take 0 n.whole).1 n.places
  have small := take_small (take 0 n.whole).1 n.places (take_small 0 n.whole (by decide))
  have number : (take (take 0 n.whole).1 n.places).1 = behind 0 (n.whole ++ used) := by
    rw [value, taken, ← whole, behind_append]
  refine ⟨used, (take (take 0 n.whole).1 n.places).2, places, number ▸ small, ?_⟩
  have length := congrArg List.length places
  rw [List.length_append] at length
  unfold scaled
  simp only [number, all, List.length_nil]
  congr 1
  omega

/-! ## Scaling -/

theorem scale?_of_neg (fuel : Nat) : ∀ (x : Binary64) {e : Int}, e < 0 → (scale? fuel x e).isSome := by
  induction fuel with
  | zero =>
      intro x e below
      unfold scale?
      split
      · rw [if_neg (by omega)]
        rfl
      · split
        · rfl
        · rw [if_neg (by omega)]
          rfl
  | succ fuel ih =>
      intro x e below
      unfold scale?
      split
      · rw [if_neg (by omega)]
        rfl
      · split
        · rfl
        · rw [if_neg (by omega)]
          exact ih _ (by omega)

/-- What is small enough for three roundings below the limit. -/
@[irreducible]
def room : Nat := (2 ^ 54 - 7) * 2 ^ 970

theorem room_lt_limit : room < Binary64.limit := by
  unfold room Binary64.limit
  exact Nat.mul_lt_mul_of_pos_right (by decide) (Nat.two_pow_pos 970)

theorem room_rounds {n : Nat} (small : n ≤ room) :
    (2 ^ 53 + 1) ^ 2 * n < 2 ^ 106 * Binary64.limit := by
  refine Nat.lt_of_le_of_lt (Nat.mul_le_mul_left _ small) ?_
  unfold room Binary64.limit
  rw [← Nat.mul_assoc, ← Nat.mul_assoc]
  exact Nat.mul_lt_mul_of_pos_right (by decide) (Nat.two_pow_pos 970)

theorem room_lt_ten_pow : room < 10 ^ 309 := Nat.lt_of_lt_of_le room_lt_limit Binary64.limit_between.2

theorem ten_pow_lt_limit {e : Nat} (few : e ≤ 308) : 10 ^ e < Binary64.limit :=
  Nat.lt_of_le_of_lt (Nat.pow_le_pow_right (by decide) few) Binary64.limit_between.1

/-- A product that leaves room is not refused. -/
theorem scale?_of_room (fuel : Nat) {s e : Nat} (fits : s * 10 ^ e ≤ room) :
    (scale? fuel (.ofNat s) e).isSome := by
  have short : s = 0 ∨ e ≤ 308 := by
    rcases Nat.eq_zero_or_pos s with zero | positive
    · exact .inl zero
    · refine .inr (Nat.le_of_not_lt fun long => ?_)
      have grown : 10 ^ 309 ≤ 10 ^ e := Nat.pow_le_pow_right (by decide) long
      have factor : 10 ^ e ≤ s * 10 ^ e := Nat.le_mul_of_pos_left _ positive
      exact absurd room_lt_ten_pow (Nat.not_lt.mpr (Nat.le_trans (Nat.le_trans grown factor) fits))
  have one : 0 < 10 ^ e := Nat.pow_pos (by decide)
  have left : s < Binary64.limit :=
    Nat.lt_of_le_of_lt (Nat.le_trans (Nat.le_mul_of_pos_right s one) fits) room_lt_limit
  unfold scale?
  rw [Int.natAbs_natCast]
  split
  · next few =>
    have finite := Binary64.mul_ofNat_finite left (ten_pow_lt_limit few) (room_rounds fits)
    have bounded : ((Binary64.ofNat s).mul (power e)).isInfinite = false :=
      Binary64.isInfinite_of_isFinite finite
    rw [if_pos (Int.natCast_nonneg e), Int.toNat_natCast]
    simp only [bounded]
    rfl
  · next many =>
    obtain rfl := short.resolve_right many
    rw [if_pos (by decide +kernel)]
    rfl

theorem room_unit : room * Binary64.unit = (2 ^ 54 - 7) * 2 ^ 2044 := by
  have split := Binary64.two_pow_add (a := 970) (b := 1074) (c := 2044) rfl
  unfold room
  rw [← Binary64.unit_eq]
  exact (Nat.mul_assoc _ _ _).trans (congrArg ((2 ^ 54 - 7) * ·) split.symm)

/-- All but the three largest numbers leave room, with half a step more. -/
theorem high_le {x : Binary64} (finite : x.isFinite = true)
    (lower : x.exponentField ≠ 2046 ∨ x.fraction + 4 ≤ 2 ^ 52) :
    (Shortest.Interval.around x).high ≤ 2 ^ 2 * (room * Binary64.unit) := by
  have field : x.exponentField < 2048 := Nat.mod_lt _ (by decide)
  have fraction : x.fraction < 2 ^ 52 := Nat.mod_lt _ (by decide)
  have special : x.exponentField ≠ 2047 := by simpa [Binary64.isFinite] using finite
  have value := x.magnitude_le
  rw [room_unit]
  unfold Shortest.Interval.around
  simp only [Nat.pow_eq, -Nat.reducePow]
  by_cases top : x.exponentField = 2046
  · have exponent : x.exponentField - 1 = 2044 + 1 := by omega
    have few := lower.resolve_left (not_not_intro top)
    rw [exponent, Nat.pow_succ 2 2044] at value ⊢
    generalize 2 ^ 2044 = T at *
    have more : (2 ^ 52 + x.fraction) * (T * 2) ≤ (2 ^ 53 - 4) * (T * 2) :=
      Nat.mul_le_mul_right _ (by omega)
    omega
  · have step : 2 ^ (x.exponentField - 1) ≤ 2 ^ 2044 := Nat.pow_le_pow_right (by decide) (by omega)
    generalize 2 ^ (x.exponentField - 1) = S at *
    generalize 2 ^ 2044 = T at *
    have more : (2 ^ 52 + x.fraction) * S ≤ (2 ^ 53 - 1) * T := Nat.mul_le_mul (by omega) step
    omega

/-! ## Numerals that are not refused -/

theorem binary?_isSome_of_plain {n : Numeral} (plain : n.exponent = none) :
    n.binary?.isSome = (scale? 400 (.ofNat n.scaled.significand) n.scaled.exponent).isSome := by
  unfold binary?
  simp only [plain, Option.isSome_map]

def shift (below : Bool) (k : Nat) (e : Int) : Int :=
  if below then max (e - k) (-(exponentLimit : Int)) else min (e + k) (exponentLimit - 1)

theorem binary?_isSome_of_exponent {n : Numeral} {below : Bool} {ds : List Char}
    (marked : n.exponent = some (below, ds)) (small : Text.decimal ds < exponentLimit ∨ below = true)
    (scales : (scale? 400 (.ofNat n.scaled.significand)
      (shift below (Text.decimal ds) n.scaled.exponent)).isSome) : n.binary?.isSome := by
  unfold binary?
  simp only [marked]
  split
  · next large =>
    rw [if_neg (by rintro ⟨-, above⟩; exact small.elim (Nat.not_lt.mpr large) above)]
    rfl
  · rw [Option.isSome_map]
    exact scales

theorem small_le_room : 2 ^ 64 ≤ room := by
  have small : 2 ^ 64 ≤ 2 ^ 970 := Nat.pow_le_pow_right (by decide) (by decide)
  unfold room
  exact Nat.le_trans small (Nat.le_mul_of_pos_left _ (by decide))

theorem whole_few {negative : Bool} {digits : List Char} {exponent : Int}
    (few : exponent + digits.length ≤ 16) :
    (positional negative digits exponent).whole.length ≤ 16 := by
  unfold positional
  simp only
  split_ifs with whole short
  · simp only [List.length_append, List.length_replicate]
    omega
  · simp only [List.length_take]
    omega
  · exact (by decide : 1 ≤ 16)

theorem positional_readable {negative : Bool} {digits : List Char} {exponent : Int}
    (proper : (positional negative digits exponent).Proper)
    (few : (positional negative digits exponent).whole.length ≤ 16) :
    (positional negative digits exponent).binary?.isSome := by
  have plain : (positional negative digits exponent).exponent = none := by
    unfold positional
    simp only
    split_ifs <;> rfl
  obtain ⟨used, rest, -, small, scaled⟩ := scaled_eq proper few
  rw [binary?_isSome_of_plain plain, scaled]
  cases used with
  | nil =>
      refine scale?_of_room 400 (e := 0) ?_
      rw [Nat.pow_zero, Nat.mul_one]
      exact Nat.le_trans (Nat.le_of_lt small) small_le_room
  | cons d used =>
      refine scale?_of_neg 400 _ ?_
      simp only [List.length_cons]
      omega

/-- Digits in front of a decimal that leaves room leave room themselves. -/
theorem front_le_room {high d s r e : Nat} {p : Int} (within : Shortest.Within high (d, p))
    (fits : high ≤ 2 ^ 2 * (room * Binary64.unit)) (front : s * 10 ^ r ≤ d) (place : (r : Int) + p = e) :
    s * 10 ^ e ≤ room := by
  have below := Nat.le_trans (Shortest.front_le within front place) fits
  refine Nat.le_of_mul_le_mul_right ?_ (Nat.mul_pos (Nat.two_pow_pos 2) Binary64.unit_pos)
  calc s * 10 ^ e * (2 ^ 2 * Binary64.unit) ≤ 2 ^ 2 * (room * Binary64.unit) := below
    _ = room * (2 ^ 2 * Binary64.unit) := by ac_rfl

theorem ten_pow_le {n : Nat} (positive : n ≠ 0) : 10 ^ ((Nat.toDigits 10 n).length - 1) ≤ n := by
  refine Nat.le_of_not_lt fun small => ?_
  rcases Nat.eq_zero_or_pos ((Nat.toDigits 10 n).length - 1) with none | more
  · rw [none, Nat.pow_zero] at small
    omega
  · have short := (Nat.length_toDigits_le_iff (by decide) more).mpr small
    omega

/-- The place of the first digit is below the first power of ten that leaves no room. -/
theorem lead_lt {d : Decimal} {high : Nat} (positive : d.digits ≠ 0)
    (within : Shortest.Within high (d.digits, d.exponent)) (fits : high ≤ 2 ^ 2 * (room * Binary64.unit))
    {lead : Int} (first : lead = d.exponent + (Nat.toDigits 10 d.digits).length - 1) : lead < 309 := by
  have length : 0 < (Nat.toDigits 10 d.digits).length :=
    List.length_pos_iff.mpr (digits_toDigits d.digits).1
  refine Int.not_le.mp fun large => ?_
  have front := front_le_room (s := 1) (e := lead.toNat) within fits
    (by rw [Nat.one_mul]; exact ten_pow_le positive) (by omega)
  rw [Nat.one_mul] at front
  have grown : 10 ^ 309 ≤ 10 ^ lead.toNat := Nat.pow_le_pow_right (by decide) (by omega)
  exact absurd room_lt_ten_pow (Nat.not_lt.mpr (Nat.le_trans grown front))

theorem scientific_readable {negative : Bool} {d : Decimal} {high : Nat} (positive : d.digits ≠ 0)
    (within : Shortest.Within high (d.digits, d.exponent))
    (fits : high ≤ 2 ^ 2 * (room * Binary64.unit)) {lead : Int}
    (first : lead = d.exponent + (Nat.toDigits 10 d.digits).length - 1) :
    (scientific negative (Nat.toDigits 10 d.digits) lead).binary?.isSome := by
  have digits := digits_toDigits d.digits
  have proper := proper_scientific negative lead digits (head?_toDigits (Nat.pos_of_ne_zero positive))
  have length : 0 < (Nat.toDigits 10 d.digits).length := List.length_pos_iff.mpr digits.1
  have small := lead_lt positive within fits first
  obtain ⟨used, rest, places, -, scaled⟩ := scaled_eq proper
    (Nat.le_trans (List.length_take_le 1 _) (by decide))
  have whole : Nat.toDigits 10 d.digits =
      ((scientific negative (Nat.toDigits 10 d.digits) lead).whole ++ used) ++ rest := by
    rw [List.append_assoc, ← places]
    exact (List.take_append_drop 1 _).symm
  have value : behind 0 (Nat.toDigits 10 d.digits) = d.digits := decimal_toDigits d.digits
  have split := congrArg (behind 0) whole
  rw [behind_append _ _ rest, value] at split
  generalize behind 0 ((scientific negative (Nat.toDigits 10 d.digits) lead).whole ++ used) = front
    at scaled split
  have cut_front : front * 10 ^ rest.length ≤ d.digits := split ▸ behind_le front rest
  have count := congrArg List.length places
  rw [List.length_append] at count
  have dropped : (scientific negative (Nat.toDigits 10 d.digits) lead).places.length =
      (Nat.toDigits 10 d.digits).length - 1 := List.length_drop
  refine binary?_isSome_of_exponent rfl ?_ ?_
  · rw [decimal_toDigits]
    by_cases below : lead < 0
    · exact .inr (decide_eq_true below)
    · refine .inl ?_
      have limit : exponentLimit = 2147483648 := rfl
      omega
  · rw [scaled, decimal_toDigits]
    simp only
    unfold shift
    have limit : exponentLimit = 2147483648 := rfl
    by_cases below : lead < 0
    · rw [decide_eq_true below, if_pos rfl]
      exact scale?_of_neg 400 _ (by omega)
    · rw [decide_eq_false below, if_neg (by decide)]
      by_cases cut : lead < used.length
      · exact scale?_of_neg 400 _ (by omega)
      · have power : min (-(used.length : Int) + lead.natAbs) ((exponentLimit : Int) - 1) =
            ((lead.toNat - used.length : Nat) : Int) := by omega
        rw [power]
        exact scale?_of_room 400 (front_le_room within fits cut_front (by omega))

/-- The three largest numbers and their negatives are read on their own. -/
theorem top_readable {x : Binary64} (field : x.exponentField = 2046) (top : 2 ^ 52 < x.fraction + 4) :
    (ofDecimal (Shortest.decimal .toEven x)).binary?.isSome := by
  have bits := x.bits.toNat_lt
  have pattern : ∃ i : Fin 6, x.bits.toNat = (i.val / 3) * 2 ^ 63 + 2047 * 2 ^ 52 - 1 - i.val % 3 := by
    unfold Binary64.exponentField at field
    unfold Binary64.fraction at top
    rw [Nat.pow_eq, Nat.pow_eq] at field
    rw [Nat.pow_eq] at top
    refine ⟨⟨3 * (x.bits.toNat / 2 ^ 63) + (2 ^ 52 - 1 - x.bits.toNat % 2 ^ 52), ?_⟩, ?_⟩
    · omega
    · simp only
      omega
  have all : ∀ i : Fin 6, (ofDecimal (Shortest.decimal .toEven
      ⟨UInt64.ofNat ((i.val / 3) * 2 ^ 63 + 2047 * 2 ^ 52 - 1 - i.val % 3)⟩)).binary?.isSome := by
    decide +kernel
  obtain ⟨i, same⟩ := pattern
  have number : x = ⟨UInt64.ofNat ((i.val / 3) * 2 ^ 63 + 2047 * 2 ^ 52 - 1 - i.val % 3)⟩ := by
    rw [← same, UInt64.ofNat_toNat]
  rw [number]
  exact all i

/-- The numeral of a finite number is not refused. -/
theorem binary?_ofDecimal {x : Binary64} (finite : x.isFinite = true) :
    (ofDecimal (Shortest.decimal .toEven x)).binary?.isSome := by
  by_cases lower : x.exponentField ≠ 2046 ∨ x.fraction + 4 ≤ 2 ^ 52
  · have within := Shortest.decimal_within .toEven x
    have settled := Shortest.decimal_settled .toEven x
    have proper := proper_ofDecimal settled
    generalize Shortest.decimal .toEven x = d at *
    unfold ofDecimal at proper ⊢
    simp only at proper ⊢
    split_ifs at proper ⊢ with place
    · refine positional_readable proper (whole_few ?_)
      rcases Nat.eq_zero_or_pos d.digits with zero | positive
      · rw [zero, settled zero]
        decide
      · simp only [Nat.ne_of_gt positive, decide_false, Bool.false_or, numberStyle,
          Bool.and_eq_true, decide_eq_true_eq] at place
        omega
    · refine scientific_readable ?_ within (high_le finite lower) rfl
      simp only [Bool.or_eq_true, decide_eq_true_eq, not_or] at place
      exact place.1
  · rw [not_or, Classical.not_not, Nat.not_le] at lower
    exact top_readable lower.1 lower.2

/-- A decimal is written with a point or an exponent, so its numeral is no integer. -/
theorem value?_ofDecimal (d : Decimal) : (ofDecimal d).value? = (ofDecimal d).binary?.map .binary := by
  have real : ((ofDecimal d).places.isEmpty && (ofDecimal d).exponent.isNone) = false := by
    unfold ofDecimal
    simp only
    split_ifs
    · have places := places_positional d.negative (Nat.toDigits_ne_nil (n := d.digits) (b := 10)) d.exponent
      rw [Bool.and_eq_false_iff]
      exact .inl (by simpa using places)
    · rw [Bool.and_eq_false_iff]
      exact .inr rfl
  unfold value?
  rw [real]
  rfl

end HeatStack.Json.Numeral
