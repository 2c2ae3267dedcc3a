import HeatStack.Proofs.DenotedNumbers

/-! # Checks of numbers

What a range or a list of allowed values makes of a number depends on the nearest finite number alone.  So
the verdict is the same in every notation, and it is the verdict on the exact number, except where that is
rounded to a bound or to the same number as an allowed one. -/
set_option autoImplicit false
namespace HeatStack.Number.Binary64

/-- A number is not beyond a bound: it lies on the inner side or is rounded to the bound, or the bound is
infinite on its own side and excludes nothing. -/
inductive Bounds (upper : Bool) (bound : Binary64) (q : ℚ) : Prop
  | inside : bound.isFinite = true → (if upper then q ≤ bound.value else bound.value ≤ q) →
      Bounds upper bound q
  | rounded : Nearest bound q → Bounds upper bound q
  | unlimited : bound = .infinity (!upper) → Bounds upper bound q

theorem Nearest.passes_iff_bounds {x bound : Binary64} {q : ℚ} (nearest : Nearest x q) (upper : Bool) :
    passes upper bound x = true ↔ Bounds upper bound q := by
  cases finite : bound.isFinite with
  | true =>
      rw [nearest.passes_iff upper finite]
      constructor
      · rintro (within | rounded)
        · exact .inside finite within
        · exact .rounded rounded
      · intro bounds
        cases bounds with
        | inside _ within => exact .inl within
        | rounded rounded => exact .inr rounded
        | unlimited infinite =>
            rw [infinite] at finite
            cases upper <;> cases finite
  | false =>
      rw [passes_special_iff upper finite nearest.finite]
      constructor
      · exact .unlimited
      · intro bounds
        cases bounds with
        | inside finite' _ =>
            rw [finite] at finite'
            cases finite'
        | rounded rounded =>
            rw [rounded.finite] at finite
            cases finite
        | unlimited infinite => exact infinite

/-- Numbers of one value are on the same side of every bound. -/
theorem passes_congr (upper : Bool) (bound : Binary64) {x y : Binary64} (finiteX : x.isFinite = true)
    (finiteY : y.isFinite = true) (same : x.value = y.value) :
    passes upper bound x = passes upper bound y := by
  have scaled := value_inj.mp same
  unfold passes le
  rw [isNaN_of_isFinite finiteX, isNaN_of_isFinite finiteY, scaled]

end HeatStack.Number.Binary64

namespace HeatStack.Template
open HeatStack.Number HeatStack.Text

theorem numberOf?_isFinite {text : String} {x : Binary64} (read : numberOf? text = some x) :
    x.isFinite = true := (Option.filter_eq_some_iff.mp read).2

namespace Constraint

/-! ## The verdict on a number -/

section
variable {v : String} {x : Binary64}

/-- An allowed text counts by its number, also where it is the same text. -/
theorem sameValue_number_iff (read : numberOf? v = some x) (allowed : String) :
    sameValue .number allowed v = true ↔ ∃ y, numberOf? allowed = some y ∧ y.value = x.value := by
  have finite := numberOf?_isFinite read
  simp only [sameValue, read, Bool.or_eq_true, beq_iff_eq, beq_self_eq_true, Bool.true_and]
  constructor
  · rintro (rfl | same)
    · exact ⟨x, read, rfl⟩
    · cases read' : numberOf? allowed with
      | none =>
          rw [read'] at same
          cases same
      | some y =>
          rw [read'] at same
          exact ⟨y, rfl, (Binary64.same_iff_value (numberOf?_isFinite read') finite).mp same⟩
  · rintro ⟨y, read', same⟩
    rw [read']
    exact .inr ((Binary64.same_iff_value (numberOf?_isFinite read') finite).mpr same)

theorem admits_allowedNumbers_iff (read : numberOf? v = some x) (values : List String)
    (description : String) : (Constraint.allowedValues values description).admits .number v = true ↔
      ∃ w ∈ values, ∃ y, numberOf? w = some y ∧ y.value = x.value := by
  have single : ValueType.number ≠ .commaDelimitedList := by decide
  simp only [admits, if_neg single, List.any_eq_true, sameValue_number_iff read]

theorem admits_range_iff (read : numberOf? v = some x) (min max : Option Binary64) (description : String) :
    (Constraint.range min max description).admits .number v = true ↔
      (∀ lo ∈ min, lo.passes false x = true) ∧ ∀ hi ∈ max, hi.passes true x = true := by
  have measurable : ValueType.number.isMeasurable = true := rfl
  cases min <;> cases max <;> simp [admits, measurable, read, Binary64.passes]

end

/-- The checks that look at a number by its value. -/
def OfNumber (c : Constraint) : Prop :=
  c.kind = .allowedValues ∨ c.kind = .range ∨ c.kind = .custom

theorem admits_congr_value {c : Constraint} (ofNumber : c.OfNumber) {v w : String} {x y : Binary64}
    (readV : numberOf? v = some x) (readW : numberOf? w = some y) (same : x.value = y.value) :
    c.admits .number v = c.admits .number w := by
  have finiteX := numberOf?_isFinite readV
  have finiteY := numberOf?_isFinite readW
  rw [Bool.eq_iff_iff]
  cases c with
  | allowedValues values description =>
      rw [admits_allowedNumbers_iff readV, admits_allowedNumbers_iff readW, same]
  | range min max description =>
      rw [admits_range_iff readV, admits_range_iff readW]
      simp only [Binary64.passes_congr _ _ finiteX finiteY same]
  | length min max description => exact absurd ofNumber (by simp [OfNumber, kind])
  | allowedPattern pattern description => exact absurd ofNumber (by simp [OfNumber, kind])
  | custom name description => rfl

end Constraint

/-! ## Notations -/

namespace Parameter

/-- Where the type and the constraints say the same of two values, the first violation is the same. -/
theorem check_congr {p : Parameter} {v w : String} (type : p.type.accepts v = p.type.accepts w)
    (verdicts : ∀ c ∈ p.constraints, c.admits p.type v = c.admits p.type w) : p.check v = p.check w := by
  have first : p.constraints.find? (fun c => !c.admits p.type v) =
      p.constraints.find? (fun c => !c.admits p.type w) :=
    List.find?_congr fun c member => congrArg (! ·) (verdicts c member)
  rw [check, check, type, first]

theorem check_of_no_number {p : Parameter} (number : p.type = .number) {v : String}
    (none : numberOf? v = none) : p.check v = .error (.typeMismatch p.name .number) := by
  rw [check, number, ValueType.accepts, none]
  rfl

/-- Of a number the checks see its value and not its notation, and what is no number mismatches the type. -/
theorem verdict_of_notation (p : Parameter) (number : p.type = .number)
    (ofNumber : ∀ c ∈ p.constraints, c.OfNumber) :
    (∀ v w x y, numberOf? v = some x → numberOf? w = some y → x.same y = true →
      (∀ c ∈ p.constraints, c.admits .number v = c.admits .number w) ∧ p.check v = p.check w) ∧
    (∀ v w q, Denotes v q → Denotes w q → p.check v = p.check w) ∧
    ∀ v w, numberOf? v = none → numberOf? w = none →
      p.check v = .error (.typeMismatch p.name .number) ∧ p.check w = p.check v := by
  have admitted : ∀ v w x y, numberOf? v = some x → numberOf? w = some y → x.value = y.value →
      ∀ c ∈ p.constraints, c.admits .number v = c.admits .number w :=
    fun v w x y readV readW same c member =>
      Constraint.admits_congr_value (ofNumber c member) readV readW same
  have checked : ∀ v w x y, numberOf? v = some x → numberOf? w = some y → x.value = y.value →
      p.check v = p.check w := by
    intro v w x y readV readW same
    refine check_congr ?_ ?_
    · rw [number, ValueType.accepts, ValueType.accepts, readV, readW]
      rfl
    · rw [number]
      exact admitted v w x y readV readW same
  refine ⟨fun v w x y readV readW same => ?_, fun v w q denotesV denotesW => ?_,
    fun v w noneV noneW => ?_⟩
  · have equal := (Binary64.same_iff_value (numberOf?_isFinite readV) (numberOf?_isFinite readW)).mp same
    exact ⟨admitted v w x y readV readW equal, checked v w x y readV readW equal⟩
  · by_cases small : |q| < Binary64.limit
    · obtain ⟨x, readV, nearestV⟩ := denotesV.exists_number small
      obtain ⟨y, readW, nearestW⟩ := denotesW.exists_number small
      exact checked v w x y readV readW (nearestV.value_eq nearestW)
    · have none {t : String} (denotes : Denotes t q) : numberOf? t = none := by
        by_contra some
        obtain ⟨x, read⟩ := Option.ne_none_iff_exists'.mp some
        obtain ⟨r, denotes', small', -⟩ := denotes_of_numberOf? read
        exact small (denotes.unique denotes' ▸ small')
      rw [check_of_no_number number (none denotesV), check_of_no_number number (none denotesW)]
  · rw [check_of_no_number number noneV, check_of_no_number number noneW]
    exact ⟨rfl, rfl⟩

/-- A number with two allowed texts, one of which is none. -/
def gauge : Parameter :=
  { bare "p" .number with constraints :=
      [.allowedValues ["one", "1.00"] "one", .range (some (.ofNat 0)) (some (.ofNat 2)) "small",
        .custom "x" "checked elsewhere"] }

theorem verdict_of_notation_gauge :
    gauge.check " 1.0 " = gauge.check "+1e0" ∧ gauge.check "+1e0" = .ok () ∧
    gauge.check "-0" = gauge.check "0" ∧
    gauge.check "0" = .error (.constraintViolated "p" .allowedValues "one") ∧
    gauge.check "one" = .error (.typeMismatch "p" .number) := by
  have ofNumber : ∀ c ∈ gauge.constraints, c.OfNumber := by
    simp [gauge, Constraint.OfNumber, Constraint.kind]
  obtain ⟨same, -, mismatch⟩ := verdict_of_notation gauge rfl ofNumber
  have read : numberOf? " 1.0 " = some (.ofNat 1) ∧ numberOf? "+1e0" = some (.ofNat 1) ∧
      numberOf? "-0" = some (.zero true) ∧ numberOf? "0" = some (.zero false) ∧
      numberOf? "one" = none ∧ (Binary64.ofNat 1).same (.ofNat 1) = true ∧
      gauge.check "+1e0" = .ok () ∧
      gauge.check "0" = .error (.constraintViolated "p" .allowedValues "one") := by
    decide +kernel
  obtain ⟨padded, scaled, negative, zero, word, reflexive, passed, refused⟩ := read
  exact ⟨(same _ _ _ _ padded scaled reflexive).2, passed, (same _ _ _ _ negative zero rfl).2, refused,
    (mismatch _ _ word word).1⟩

end Parameter

/-! ## Exact numbers -/

/-- A value of type number is the decimal that it denotes.  A range admits it just if each bound lets that
number pass or is what it is rounded to, and allowed values admit it just if one of them denotes a number that
is rounded to the same. -/
theorem numbers_checked (v : String) :
    (ValueType.number.accepts v = true ↔ ∃ q, Denotes v q ∧ |q| < Binary64.limit) ∧
    ∀ q, Denotes v q → |q| < Binary64.limit →
      (∀ r, Denotes v r → r = q) ∧
      (∀ min max description, (Constraint.range min max description).admits .number v = true ↔
        (∀ lo ∈ min, lo.Bounds false q) ∧ ∀ hi ∈ max, hi.Bounds true q) ∧
      ∀ values description, (Constraint.allowedValues values description).admits .number v = true ↔
        ∃ w ∈ values, ∃ r, Denotes w r ∧ |r| < Binary64.limit ∧
          ∃ x : Binary64, x.Nearest q ∧ x.Nearest r := by
  refine ⟨accepts_number_iff, fun q denotes small => ?_⟩
  obtain ⟨x, read, nearest⟩ := denotes.exists_number small
  refine ⟨fun r other => other.unique denotes, fun min max description => ?_,
    fun values description => ?_⟩
  · simp only [Constraint.admits_range_iff read, nearest.passes_iff_bounds]
  · rw [Constraint.admits_allowedNumbers_iff read]
    constructor
    · rintro ⟨w, member, y, readW, same⟩
      obtain ⟨r, denotesW, smallW, nearestW⟩ := denotes_of_numberOf? readW
      exact ⟨w, member, r, denotesW, smallW, y, nearest.congr nearestW.finite same, nearestW⟩
    · rintro ⟨w, member, r, denotesW, smallW, y, nearest', nearestW⟩
      obtain ⟨z, readW, nearestZ⟩ := denotesW.exists_number smallW
      exact ⟨w, member, z, readW, (nearestZ.value_eq nearestW).trans (nearest'.value_eq nearest)⟩

/-! ## A number that is rounded to its bound -/

/-- Plain digits denote the natural that they spell. -/
theorem denotes_digits {text : String} (digits : Json.Digits text.toList) :
    Denotes text (Text.decimal text.toList) := by
  have shown : text.toList ++ [] ≠ [] := by simpa using digits.1
  have writes : Writes text.toList ⟨false, Text.decimal text.toList, 0⟩ := by
    simpa using Writes.number [] _ _ _ .none (.number text.toList [] [] [] 0 digits.2 .none shown .none)
  have denotes : Denotes text (Decimal.value _) := .number [] _ [] _ (by simp) (by simp) (by simp) writes
  rwa [Decimal.value, zpow_zero, mul_one] at denotes

/-- The least power of two behind which there are naturals that are no numbers. -/
def edge : Binary64 := .ofNat 9007199254740992

def edgeClauses : List Yaml.Value :=
  [.mapping [(.string "range", .mapping [(.string "max", .number (.integer 9007199254740992))])],
    .mapping [(.string "allowed_values", .sequence [.number (.integer 9007199254740992)])]]

/-- The edge is a number, and what is bounded by it or equal to it is so for the next natural too. -/
theorem edge_computed :
    edge.scaled = 9007199254740992 * (Binary64.unit : Int) ∧
    Constraint.ofValues edgeClauses =
      [.range none (some edge) "value must be at most 9007199254740992",
        .allowedValues ["9007199254740992"] "allowed values: 9007199254740992"] ∧
    ∀ c ∈ Constraint.ofValues edgeClauses, c.admits .number "9007199254740993" = true := by
  unfold Binary64.unit
  decide +kernel

theorem value_edge : edge.value = 9007199254740992 := by
  rw [Binary64.value, edge_computed.1, Int.cast_mul, Int.cast_natCast,
    mul_div_cancel_right₀ _ Binary64.unit_rat_pos.ne']
  norm_num

theorem denotes_edge : Denotes "9007199254740992" 9007199254740992 := by
  have denotes := @denotes_digits "9007199254740992" ⟨by decide, List.all_eq_true.mp rfl⟩
  have spelled : Text.decimal "9007199254740992".toList = 9007199254740992 := by rfl
  rwa [spelled, Nat.cast_ofNat] at denotes

theorem denotes_beyond : Denotes "9007199254740993" 9007199254740993 := by
  have denotes := @denotes_digits "9007199254740993" ⟨by decide, List.all_eq_true.mp rfl⟩
  have spelled : Text.decimal "9007199254740993".toList = 9007199254740993 := by rfl
  rwa [spelled, Nat.cast_ofNat] at denotes

theorem beyond_lt_limit : |(9007199254740993 : ℚ)| < Binary64.limit := by
  have room := Nat.lt_of_le_of_lt Json.Numeral.small_le_room Json.Numeral.room_lt_limit
  rw [abs_of_pos (by norm_num)]
  exact_mod_cast Nat.lt_trans (by decide) room

/-- The next natural is rounded to the edge, by the bound as by an allowed number. -/
theorem numbers_checked_beyond : ValueType.number.accepts "9007199254740993" = true ∧
    edge.Bounds true 9007199254740993 ∧
    ∃ x : Binary64, x.Nearest 9007199254740993 ∧ x.Nearest 9007199254740992 := by
  obtain ⟨accepted, exact⟩ := numbers_checked "9007199254740993"
  obtain ⟨-, ranges, lists⟩ := exact _ denotes_beyond beyond_lt_limit
  obtain ⟨-, read, admitted⟩ := edge_computed
  rw [read, List.forall_mem_cons, List.forall_mem_singleton] at admitted
  have ranged := (ranges _ _ _).mp admitted.1
  obtain ⟨w, member, r, denotes, -, x, nearest, nearest'⟩ := (lists _ _).mp admitted.2
  cases List.mem_singleton.mp member
  rw [denotes.unique denotes_edge] at nearest'
  exact ⟨accepted.mpr ⟨_, denotes_beyond, beyond_lt_limit⟩, ranged.2 edge rfl, x, nearest, nearest'⟩

/-- A value beyond the bound, and other than the only allowed number, is admitted by both. -/
theorem beyond_edge_admitted :
    Constraint.ofValues edgeClauses =
      [.range none (some edge) "value must be at most 9007199254740992",
        .allowedValues ["9007199254740992"] "allowed values: 9007199254740992"] ∧
    ValueType.number.accepts "9007199254740993" = true ∧
    (∀ c ∈ Constraint.ofValues edgeClauses, c.admits .number "9007199254740993" = true) ∧
    Denotes "9007199254740993" 9007199254740993 ∧ edge.value < 9007199254740993 ∧
    ¬ Denotes "9007199254740992" 9007199254740993 := by
  obtain ⟨-, read, admitted⟩ := edge_computed
  refine ⟨read, accepts_number_iff.mpr ⟨_, denotes_beyond, beyond_lt_limit⟩, admitted, denotes_beyond, ?_,
    fun denotes => ?_⟩
  · rw [value_edge]
    norm_num
  · have same := denotes.unique denotes_edge
    norm_num at same

end HeatStack.Template
