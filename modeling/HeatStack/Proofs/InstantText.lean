import HeatStack.Proofs.ExactDecimals
import HeatStack.Time.Instant

/-! # Points in time read back

The text of every point in time is read as that point.  Each of its numbers stands on as many digits
as it is read with, except the year before or after the four-digit years, which is read up to the
mark behind it, and the fraction, which is read up to the zone; and the zone is UTC, so that nothing
is shifted. -/
set_option autoImplicit false
namespace HeatStack.Time.Instant
open HeatStack.Text HeatStack.Number

/-! ## Padded numbers -/

theorem length_padded (width : Nat) : ∀ n, (padded width n).length = width := by
  induction width with
  | zero => exact fun _ => rfl
  | succ width ih => exact fun n => by rw [padded, List.length_append, ih, List.length_singleton]

theorem digit_ofNat : ∀ d < 10, isDigit (Char.ofNat (48 + d)) = true ∧
    digitValue (Char.ofNat (48 + d)) = d := by decide

theorem isDigit_padded (width : Nat) : ∀ n, ∀ c ∈ padded width n, isDigit c = true := by
  induction width with
  | zero => exact fun _ _ member => nomatch member
  | succ width ih =>
      intro n c member
      rcases List.mem_append.mp member with front | last
      · exact ih _ c front
      · rw [List.mem_singleton.mp last]
        exact (digit_ofNat _ (Nat.mod_lt _ (by decide))).1

theorem digits_padded {width : Nat} (wide : 0 < width) (n : Nat) : Json.Digits (padded width n) :=
  ⟨List.ne_nil_of_length_pos (by rwa [length_padded]), isDigit_padded width n⟩

theorem decimal_padded {width : Nat} : ∀ {n : Nat}, n < 10 ^ width → decimal (padded width n) = n := by
  induction width with
  | zero => exact fun fits => (Nat.lt_one_iff.mp fits).symm
  | succ width ih =>
      intro n fits
      have front := ih (n := n / 10) (Nat.div_lt_of_lt_mul (by rwa [Nat.pow_succ'] at fits))
      have last := (digit_ofNat (n % 10) (Nat.mod_lt _ (by decide))).2
      rw [decimal] at front
      rw [padded, decimal, List.foldl_append, front, List.foldl_cons, List.foldl_nil, last]
      omega

/-! ## The parts of a text -/

section
variable {rest : List Char}

theorem trimLeft_digits {ds : List Char} (digits : Json.Digits ds) :
    trimLeft (ds ++ rest) = ds ++ rest := by
  obtain ⟨d, ds, rfl⟩ := List.exists_cons_of_ne_nil digits.1
  have plain := isBlank_digit (digits.2 d List.mem_cons_self)
  rw [trimLeft, List.cons_append, List.dropWhile_cons, if_neg (by simp [plain])]

theorem natural?_padded {width n : Nat} (wide : 0 < width) (fits : n < 10 ^ width) (rest : List Char) :
    natural? width (padded width n ++ rest) = some (n, rest) := by
  have digits := digits_padded wide n
  have kept : (padded width n ++ rest).take width = padded width n :=
    List.take_left' (length_padded width n)
  have whole : (padded width n).takeWhile isDigit = padded width n :=
    List.takeWhile_eq_self_iff.mpr digits.2
  simp only [natural?, trimLeft_digits digits, kept, whole, List.isEmpty_iff, digits.1, if_false,
    decimal_padded fits, List.drop_left]

theorem year?_digits {ds : List Char} (digits : Json.Digits ds) (rest : List Char) :
    year? (ds ++ rest) = (natural? 4 (ds ++ rest)).map fun (n, r) => ((n : Int), r) := by
  have plain : trimLeft (ds ++ rest) = ds ++ rest := trimLeft_digits digits
  obtain ⟨d, ds, rfl⟩ := List.exists_cons_of_ne_nil digits.1
  have digit := digits.2 d List.mem_cons_self
  rw [year?, plain, List.cons_append]
  split <;> first | rfl | (next same => obtain ⟨rfl, -⟩ := List.cons.inj same; cases digit)

theorem lt_ten_pow_length (n : Nat) : n < 10 ^ (max 4 (toString n).length) := by
  have written : (toString n).length = (Nat.toDigits 10 n).length := String.length_ofList
  have short : n < 10 ^ (toString n).length := by
    rw [written]
    exact (Nat.length_toDigits_le_iff (by decide) (List.length_pos_of_ne_nil Nat.toDigits_ne_nil)).mp
      (Nat.le_refl _)
  exact Nat.lt_of_lt_of_le short (Nat.pow_le_pow_right (by decide) (Nat.le_max_right _ _))

theorem year?_signed {y : Int} {ds : List Char} (digits : Json.Digits ds)
    (value : decimal ds = y.natAbs) (stop : ∀ c ∈ rest.head?, isDigit c = false) :
    year? ((if y < 0 then '-' else '+') :: (ds ++ rest)) = some (y, rest) := by
  have whole := (Json.digits_end digits stop).1
  have plain (c : Char) (mark : isBlank c = false) : trimLeft (c :: (ds ++ rest)) = c :: (ds ++ rest) := by
    rw [trimLeft, List.dropWhile_cons, if_neg (by simp [mark])]
  split
  · next before =>
    have same : -(y.natAbs : Int) = y := by omega
    simp only [year?, plain '-' rfl, whole, List.isEmpty_iff, digits.1, if_false, Option.map_some,
      value, List.drop_left, same]
  · next after =>
    have same : (y.natAbs : Int) = y := by omega
    simp only [year?, plain '+' rfl, whole, List.isEmpty_iff, digits.1, if_false, Option.map_some,
      value, List.drop_left, same]

theorem year?_yearText (y : Int) (stop : ∀ c ∈ rest.head?, isDigit c = false) :
    year? (yearText y ++ rest) = some (y, rest) := by
  unfold yearText
  split
  · next four =>
    have value : (y.toNat : Int) = y := Int.toNat_of_nonneg four.1
    rw [year?_digits (digits_padded (by decide) _), natural?_padded (by decide) (by omega)]
    simp only [Option.map_some, value]
  · have width : 0 < max 4 (toString y.natAbs).length := by omega
    exact year?_signed (digits_padded width _) (decimal_padded (lt_ten_pow_length _)) stop

theorem mark?_self {c : Char} (plain : isBlank c = false) (rest : List Char) :
    mark? c (c :: rest) = some rest := by
  rw [mark?, trimLeft, List.dropWhile_cons, if_neg (by simp [plain])]
  exact if_pos rfl

theorem fraction?_digits {width n : Nat} (wide : 0 < width) (short : width ≤ 9)
    (fits : n < 10 ^ width) (stop : ∀ c ∈ rest.head?, isDigit c = false) :
    fraction? ('.' :: (padded width n ++ rest)) = some (n * 10 ^ (9 - width), rest) := by
  have digits := digits_padded wide n
  have whole := (Json.digits_end digits stop).1
  have kept : (padded width n).take 9 = padded width n :=
    List.take_of_length_le (by rwa [length_padded])
  have behind : (padded width n ++ rest).drop width = rest := List.drop_left' (length_padded width n)
  simp only [fraction?, whole, List.isEmpty_iff, digits.1, if_false, kept, decimal_padded fits,
    length_padded, behind]
  rfl

theorem fraction?_fractionText {nano : Nat} (fits : nano < 10 ^ 9)
    (next : ∀ c ∈ rest.head?, isDigit c = false ∧ c ≠ '.') :
    fraction? (fractionText nano ++ rest) = some (nano, rest) := by
  have stop : ∀ c ∈ rest.head?, isDigit c = false := fun c first => (next c first).1
  unfold fractionText
  split_ifs with whole milli micro
  · rw [whole, List.nil_append, fraction?.eq_def]
    split
    · exact absurd rfl (next _ rfl).2
    · rfl
  · rw [List.cons_append, fraction?_digits (by decide) (by decide) (by omega) stop]
    exact congrArg (fun n => some (n, rest)) (Nat.div_mul_cancel (Nat.dvd_of_mod_eq_zero milli))
  · rw [List.cons_append, fraction?_digits (by decide) (by decide) (by omega) stop]
    exact congrArg (fun n => some (n, rest)) (Nat.div_mul_cancel (Nat.dvd_of_mod_eq_zero micro))
  · rw [List.cons_append, fraction?_digits (by decide) (by decide) fits stop]
    simp

end

/-- A point in time that has all its parts within the day is its own local time in UTC. -/
theorem shift_zero {f : Fields} (hour : f.hour < 24) (minute : f.minute < 60) : shift f 0 = f := by
  have total : ((f.hour * 60 + f.minute : Nat) : Int) - 0 = (f.hour * 60 + f.minute : Nat) := by omega
  have inside : ¬ ((f.hour * 60 + f.minute : Nat) : Int) < 0 ∧
      ¬ 1440 ≤ ((f.hour * 60 + f.minute : Nat) : Int) := by omega
  have same : ((f.hour * 60 + f.minute : Nat) : Int) % 1440 = (f.hour * 60 + f.minute : Nat) := by omega
  have parts : (((f.hour * 60 + f.minute : Nat) : Int) / 60).toNat = f.hour ∧
      (((f.hour * 60 + f.minute : Nat) : Int) % 60).toNat = f.minute := by omega
  simp only [shift, total, inside, if_false, same, parts]

theorem daysIn_le (year : Int) (month : Nat) : Date.daysIn year month ≤ 31 := by
  unfold Date.daysIn
  split_ifs <;> decide

theorem parse?_text (t : Instant) : parse? t.text = some t := by
  obtain ⟨⟨⟨year, month, day⟩, hour, minute, second, nano⟩, valid⟩ := t
  have bounds := valid
  simp only [Fields.isValid, Date.isValid, Bool.and_eq_true, decide_eq_true_eq] at bounds
  obtain ⟨⟨⟨⟨⟨⟨⟨_, monthly⟩, _⟩, daily⟩, hourly⟩, minutely⟩, secondly⟩, small⟩ := bounds
  have days := daysIn_le year month
  have whole : ofFields? ⟨⟨year, month, day⟩, hour, minute, second, nano⟩ = some ⟨_, valid⟩ :=
    dif_pos valid
  have letters : (text ⟨⟨⟨year, month, day⟩, hour, minute, second, nano⟩, valid⟩).toList =
      yearText year ++ '-' :: (padded 2 month ++ '-' :: (padded 2 day ++ 'T' ::
        (padded 2 hour ++ ':' :: (padded 2 minute ++ ':' :: (padded 2 second ++
          (fractionText nano ++ ['Z'])))))) := by
    simp only [text, clockText, String.toList_ofList, List.append_assoc, List.cons_append]
  have two {n : Nat} (small : n < 100) (rest : List Char) :
      natural? 2 (padded 2 n ++ rest) = some (n, rest) := natural?_padded (by decide) small rest
  have dash := mark?_self (c := '-') rfl
  have colon := mark?_self (c := ':') rfl
  have zone : offset? (trimLeft ['Z']) = some (0, []) := rfl
  unfold parse?
  rw [letters]
  -- One step for each part: what it reads, and what is left for the parts behind it.
  refine Option.bind_eq_some_iff.mpr ⟨_, year?_yearText year (by simp; rfl), ?_⟩
  refine Option.bind_eq_some_iff.mpr ⟨_, dash _, ?_⟩
  refine Option.bind_eq_some_iff.mpr ⟨_, two (by omega) _, ?_⟩
  refine Option.bind_eq_some_iff.mpr ⟨_, dash _, ?_⟩
  refine Option.bind_eq_some_iff.mpr ⟨_, two (by omega) _, ?_⟩
  refine (if_pos (by decide)).trans ?_
  refine Option.bind_eq_some_iff.mpr ⟨_, rfl, ?_⟩
  refine Option.bind_eq_some_iff.mpr ⟨_, two (by omega) _, ?_⟩
  refine Option.bind_eq_some_iff.mpr ⟨_, colon _, ?_⟩
  refine Option.bind_eq_some_iff.mpr ⟨_, two (by omega) _, ?_⟩
  refine Option.bind_eq_some_iff.mpr ⟨_, colon _, ?_⟩
  refine Option.bind_eq_some_iff.mpr ⟨_, two (by omega) _, ?_⟩
  refine Option.bind_eq_some_iff.mpr ⟨_, fraction?_fractionText small (by simp; decide), ?_⟩
  refine Option.bind_eq_some_iff.mpr ⟨_, zone, ?_⟩
  refine (if_neg (by decide)).trans ?_
  refine Option.bind_eq_some_iff.mpr ⟨_, whole, ?_⟩
  rw [shift_zero hourly minutely]
  exact whole

end HeatStack.Time.Instant
