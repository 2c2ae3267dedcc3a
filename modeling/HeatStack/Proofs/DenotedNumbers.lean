import HeatStack.Proofs.ListItems
import HeatStack.Proofs.NearestNumbers
import HeatStack.Proofs.StyledNumbers

/-! # Numbers that texts denote

How a decimal number is written, said without the reader (`Writes`): a sign or none, digits with a point
among them or at either end, and a power of ten.  A value of type number is accepted just if it denotes a
number in this way that rounding leaves finite, and what is read of it is the nearest to that number. -/
set_option autoImplicit false
namespace HeatStack.Number
open HeatStack.Text HeatStack.Json

/-! ## Written numbers -/

inductive Sign : List Char → Bool → Prop
  | none : Sign [] false
  | plus : Sign ['+'] false
  | minus : Sign ['-'] true

/-- A point and the places behind it, which may be none. -/
inductive Point : List Char → List Char → Prop
  | none : Point [] []
  | places (ds : List Char) : (∀ c ∈ ds, isDigit c = true) → Point ('.' :: ds) ds

inductive Scale : List Char → Int → Prop
  | none : Scale [] 0
  | exponent (mark : Char) (sign : List Char) (negative : Bool) (ds : List Char) :
      mark = 'e' ∨ mark = 'E' → Sign sign negative → Digits ds →
      Scale (mark :: (sign ++ ds)) (Binary64.signed negative (Text.decimal ds))

/-- The digits before the point and those behind it may be missing, but not both. -/
inductive WritesUnsigned (negative : Bool) : List Char → Decimal → Prop
  | number (whole point places scale : List Char) (e : Int) :
      (∀ c ∈ whole, isDigit c = true) → Point point places → whole ++ places ≠ [] →
      Scale scale e → WritesUnsigned negative (whole ++ (point ++ scale))
        ⟨negative, Text.decimal (whole ++ places), e - places.length⟩

inductive Writes : List Char → Decimal → Prop
  | number (sign cs : List Char) (negative : Bool) (d : Decimal) :
      Sign sign negative → WritesUnsigned negative cs d → Writes (sign ++ cs) d

section
variable {cs ds whole point places scale sign : List Char} {negative : Bool} {e : Int} {d d' : Decimal}

/-! ## Signs and exponents -/

def unsigned : List Char → Bool × List Char
  | '-' :: r => (true, r)
  | '+' :: r => (false, r)
  | r => (false, r)

theorem sign_of_unsigned (cs : List Char) :
    ∃ sign, Sign sign (unsigned cs).1 ∧ cs = sign ++ (unsigned cs).2 := by
  unfold unsigned
  split
  · exact ⟨_, .minus, rfl⟩
  · exact ⟨_, .plus, rfl⟩
  · exact ⟨_, .none, rfl⟩

theorem unsigned_append (signs : Sign sign negative) (plain : ∀ c ∈ cs.head?, c ≠ '-' ∧ c ≠ '+') :
    unsigned (sign ++ cs) = (negative, cs) := by
  cases signs with
  | none =>
      rw [List.nil_append]
      unfold unsigned
      split
      · exact absurd rfl (plain '-' rfl).1
      · exact absurd rfl (plain '+' rfl).2
      · rfl
  | plus => rfl
  | minus => rfl

theorem not_sign_of_digit {c : Char} (digit : isDigit c = true) : c ≠ '-' ∧ c ≠ '+' := by
  constructor
  · rintro rfl
    cases digit
  · rintro rfl
    cases digit

theorem parseExponent?_eq (r : List Char) : Decimal.parseExponent? r =
    if (unsigned r).2.isEmpty || !(unsigned r).2.all isDigit then none
    else some (Binary64.signed (unsigned r).1 (Text.decimal (unsigned r).2)) := rfl

theorem parseExponent?_eq_some_iff {r : List Char} : Decimal.parseExponent? r = some e ↔
    ∃ sign negative ds, Sign sign negative ∧ Digits ds ∧ r = sign ++ ds ∧
      Binary64.signed negative (Text.decimal ds) = e := by
  rw [parseExponent?_eq]
  constructor
  · intro read
    obtain ⟨sign, signs, parts⟩ := sign_of_unsigned r
    split at read
    · cases read
    · next digits =>
        simp only [Bool.or_eq_true, List.isEmpty_iff, Bool.not_eq_true', not_or, Bool.not_eq_false,
          List.all_eq_true] at digits
        exact ⟨sign, _, _, signs, digits, parts, Option.some.inj read⟩
  · rintro ⟨sign, negative, ds, signs, digits, rfl, rfl⟩
    have plain : ∀ c ∈ ds.head?, c ≠ '-' ∧ c ≠ '+' := fun c first =>
      not_sign_of_digit (digits.2 c (List.mem_of_mem_head? first))
    have all : ds.all isDigit = true := List.all_eq_true.mpr digits.2
    have some_digit : ds.isEmpty = false := by simpa using digits.1
    rw [unsigned_append signs plain, all, some_digit]
    rfl

theorem ending?_eq_some_iff : Decimal.ending? cs = some e ↔ Scale cs e := by
  constructor
  · intro read
    cases cs with
    | nil =>
        cases read
        exact .none
    | cons mark r =>
        simp only [Decimal.ending?] at read
        split at read
        · next marked =>
            obtain ⟨sign, negative, ds, signs, digits, rfl, rfl⟩ := parseExponent?_eq_some_iff.mp read
            exact .exponent mark sign negative ds marked signs digits
        · cases read
  · intro scales
    cases scales with
    | none => rfl
    | exponent mark sign negative ds marked signs digits =>
        rw [Decimal.ending?, if_pos marked]
        exact parseExponent?_eq_some_iff.mpr ⟨sign, negative, ds, signs, digits, rfl, rfl⟩

theorem Scale.stops (scales : Scale cs e) : ∀ c ∈ cs.head?, isDigit c = false ∧ c ≠ '.' := by
  cases scales with
  | none => nofun
  | exponent mark sign negative ds marked signs digits =>
      rintro c ⟨⟩
      rcases marked with rfl | rfl
      · exact ⟨rfl, by decide⟩
      · exact ⟨rfl, by decide⟩

/-! ## Digits and the point -/

theorem pointed_append (points : Point point places) (scales : Scale scale e) :
    Decimal.pointed (point ++ scale) = (places, scale) := by
  have stops := scales.stops
  cases points with
  | none =>
      rw [List.nil_append]
      unfold Decimal.pointed
      split
      · exact absurd rfl (stops '.' rfl).2
      · rfl
  | places ds digits =>
      obtain ⟨taken, left⟩ := Decimal.whole_parts digits fun c first => (stops c first).1
      simp only [Decimal.pointed, List.cons_append, taken, left]

theorem point_of_pointed (cs : List Char) : ∃ point, Point point (Decimal.pointed cs).1 ∧
    cs = point ++ (Decimal.pointed cs).2 := by
  unfold Decimal.pointed
  split
  · next r =>
      refine ⟨_, .places _ fun c member => List.mem_takeWhile_imp member, ?_⟩
      rw [List.cons_append, List.takeWhile_append_dropWhile]
  · exact ⟨[], .none, rfl⟩

theorem parseUnsigned?_eq_some_iff :
    Decimal.parseUnsigned? negative cs = some d ↔ WritesUnsigned negative cs d := by
  constructor
  · intro read
    rw [Decimal.parseUnsigned?_eq] at read
    obtain ⟨point, points, behind⟩ := point_of_pointed (cs.dropWhile isDigit)
    have digits : ∀ c ∈ cs.takeWhile isDigit, isDigit c = true := fun c => List.mem_takeWhile_imp
    have parts := (List.takeWhile_append_dropWhile (p := isDigit) (l := cs)).symm
    rw [behind] at parts
    generalize Decimal.pointed (cs.dropWhile isDigit) = rest at *
    generalize cs.takeWhile isDigit = whole at *
    subst parts
    split at read
    · cases read
    · next some_digit =>
        obtain ⟨e, ends, rfl⟩ := Option.map_eq_some_iff.mp read
        exact .number whole point _ _ e digits points (by simpa using some_digit)
          (ending?_eq_some_iff.mp ends)
  · rintro ⟨whole, point, places, scale, e, digits, points, some_digit, scales⟩
    have stops : ∀ c ∈ (point ++ scale).head?, isDigit c = false := by
      cases points with
      | none => exact fun c first => (scales.stops c first).1
      | places ds _ =>
          rintro c ⟨⟩
          rfl
    obtain ⟨front, back⟩ := Decimal.whole_parts digits stops
    have shown : (whole.isEmpty && places.isEmpty) = false := by simpa using some_digit
    rw [Decimal.parseUnsigned?_eq, front, back, pointed_append points scales,
      ending?_eq_some_iff.mpr scales, shown]
    rfl

/-- A written number starts with a digit or the point. -/
theorem WritesUnsigned.head (writes : WritesUnsigned negative cs d) :
    ∃ c r, cs = c :: r ∧ (isDigit c = true ∨ c = '.') := by
  obtain ⟨whole, point, places, scale, e, digits, points, some_digit, scales⟩ := writes
  cases whole with
  | cons c r => exact ⟨c, _, rfl, .inl (digits c List.mem_cons_self)⟩
  | nil =>
      cases points with
      | none => exact absurd rfl some_digit
      | places ds _ => exact ⟨'.', _, rfl, .inr rfl⟩

theorem Sign.not_blank (signs : Sign sign negative) : ∀ c ∈ sign, isBlank c = false := by
  cases signs with
  | none => nofun
  | plus => exact List.forall_mem_singleton.mpr rfl
  | minus => exact List.forall_mem_singleton.mpr rfl

theorem Scale.not_blank (scales : Scale scale e) : ∀ c ∈ scale, isBlank c = false := by
  cases scales with
  | none => nofun
  | exponent mark sign negative ds marked signs digits =>
      refine List.forall_mem_cons.mpr ⟨?_, List.forall_mem_append.mpr ⟨signs.not_blank, ?_⟩⟩
      · rcases marked with rfl | rfl <;> rfl
      · exact fun c member => isBlank_digit (digits.2 c member)

theorem Writes.not_blank (writes : Writes cs d) : ∀ c ∈ cs, isBlank c = false := by
  obtain ⟨sign, cs, negative, d, signs, writes⟩ := writes
  obtain ⟨whole, point, places, scale, e, digits, points, -, scales⟩ := writes
  refine List.forall_mem_append.mpr ⟨signs.not_blank, List.forall_mem_append.mpr ⟨?_, ?_⟩⟩
  · exact fun c member => isBlank_digit (digits c member)
  · refine List.forall_mem_append.mpr ⟨?_, scales.not_blank⟩
    cases points with
    | none => nofun
    | places ds digits =>
        exact List.forall_mem_cons.mpr ⟨rfl, fun c member => isBlank_digit (digits c member)⟩

theorem Writes.ne_nil (writes : Writes cs d) : cs ≠ [] := by
  obtain ⟨sign, cs, negative, d, signs, writes⟩ := writes
  obtain ⟨c, r, rfl, -⟩ := writes.head
  exact List.append_ne_nil_of_right_ne_nil _ (List.cons_ne_nil c r)

theorem parseUnsigned?_unsigned_iff :
    Decimal.parseUnsigned? (unsigned cs).1 (unsigned cs).2 = some d ↔ Writes cs d := by
  rw [parseUnsigned?_eq_some_iff]
  constructor
  · intro writes
    obtain ⟨sign, signs, parts⟩ := sign_of_unsigned cs
    rw [parts]
    exact .number sign _ _ d signs writes
  · rintro ⟨sign, cs, negative, d, signs, writes⟩
    obtain ⟨c, r, rfl, first⟩ := writes.head
    have plain : ∀ c' ∈ (c :: r).head?, c' ≠ '-' ∧ c' ≠ '+' := by
      rintro c' ⟨⟩
      rcases first with digit | rfl
      · exact not_sign_of_digit digit
      · exact ⟨by decide, by decide⟩
    rw [unsigned_append signs plain]
    exact writes

/-- Only one decimal is written. -/
theorem Writes.unique (left : Writes cs d) (right : Writes cs d') : d = d' :=
  Option.some.inj ((parseUnsigned?_unsigned_iff.mpr left).symm.trans
    (parseUnsigned?_unsigned_iff.mpr right))

/-! ## Reading -/

/-- The words for what is not finite. -/
def IsWord (cs : List Char) : Prop :=
  (String.ofList (cs.map lowerChar) = "inf" ∨ String.ofList (cs.map lowerChar) = "infinity") ∨
    String.ofList (cs.map lowerChar) = "nan"

theorem parse?_eq (cs : List Char) : Binary64.parse? cs =
    if String.ofList ((unsigned cs).2.map lowerChar) = "inf" ∨
        String.ofList ((unsigned cs).2.map lowerChar) = "infinity" then some (.infinity (unsigned cs).1)
    else if String.ofList ((unsigned cs).2.map lowerChar) = "nan" then
      some (if (unsigned cs).1 then Binary64.nan.negate else .nan)
    else (Decimal.parseUnsigned? (unsigned cs).1 (unsigned cs).2).map Decimal.toBinary64 := rfl

theorem head_of_isWord (word : IsWord cs) : ∃ c r, cs = c :: r ∧ isDigit c = false ∧ c ≠ '.' := by
  have letter {s : String} {l : Char} {ls : List Char} (text : s.toList = l :: ls) (other : isDigit l = false)
      (point : l ≠ '.') (same : String.ofList (cs.map lowerChar) = s) :
      ∃ c r, cs = c :: r ∧ isDigit c = false ∧ c ≠ '.' := by
    subst same
    rw [String.toList_ofList] at text
    obtain ⟨c, r, rfl, rfl, -⟩ := List.map_eq_cons_iff.mp text
    refine ⟨c, r, rfl, ?_, ?_⟩
    · refine Bool.eq_false_iff.mpr fun digit => ?_
      rw [lowerChar_digit digit, digit] at other
      cases other
    · rintro rfl
      exact point rfl
  obtain (inf | infinity) | nan := word
  · exact letter rfl rfl (by decide) inf
  · exact letter rfl rfl (by decide) infinity
  · exact letter rfl rfl (by decide) nan

theorem WritesUnsigned.not_isWord (writes : WritesUnsigned negative cs d) : ¬ IsWord cs := by
  intro word
  obtain ⟨c, r, rfl, digit | rfl⟩ := writes.head
  · obtain ⟨c', r', same, other, -⟩ := head_of_isWord word
    cases same
    rw [digit] at other
    cases other
  · obtain ⟨c', r', same, -, point⟩ := head_of_isWord word
    cases same
    exact point rfl

theorem not_finite_of_isWord {x : Binary64} (word : IsWord (unsigned cs).2)
    (read : Binary64.parse? cs = some x) : x.isFinite = false := by
  rw [parse?_eq] at read
  split_ifs at read with infinite nan
  · cases read
    cases (unsigned cs).1 <;> rfl
  · cases read
    rfl
  · cases read
    rfl
  · exact absurd word (not_or.mpr ⟨infinite, nan⟩)

theorem parse?_of_not_isWord (plain : ¬ IsWord (unsigned cs).2) : Binary64.parse? cs =
    (Decimal.parseUnsigned? (unsigned cs).1 (unsigned cs).2).map Decimal.toBinary64 := by
  obtain ⟨finite, number⟩ := not_or.mp plain
  rw [parse?_eq, if_neg finite, if_neg number]

/-- A finite number is read just where a decimal is written that is rounded to it. -/
theorem parse?_eq_some_iff {x : Binary64} (finite : x.isFinite = true) :
    Binary64.parse? cs = some x ↔ ∃ d, Writes cs d ∧ d.toBinary64 = x := by
  by_cases word : IsWord (unsigned cs).2
  · constructor
    · intro read
      rw [not_finite_of_isWord word read] at finite
      cases finite
    · rintro ⟨d, writes, -⟩
      exact absurd word
        (parseUnsigned?_eq_some_iff.mp (parseUnsigned?_unsigned_iff.mpr writes)).not_isWord
  · rw [parse?_of_not_isWord word, Option.map_eq_some_iff]
    simp only [parseUnsigned?_unsigned_iff]

end
end HeatStack.Number

namespace HeatStack.Text

/-- Trimming takes off nothing but blanks. -/
theorem trimChars_parts (cs : List Char) : ∃ front back, cs = front ++ (trimChars cs ++ back) ∧
    (∀ c ∈ front, isBlank c = true) ∧ ∀ c ∈ back, isBlank c = true := by
  refine ⟨cs.takeWhile isBlank, ((trimLeft cs).reverse.takeWhile isBlank).reverse, ?_, ?_, ?_⟩
  · rw [trimChars, trimRight, ← List.reverse_append, List.takeWhile_append_dropWhile, List.reverse_reverse,
      trimLeft, List.takeWhile_append_dropWhile]
  · exact fun c => List.mem_takeWhile_imp
  · exact fun c member => List.mem_takeWhile_imp (List.mem_reverse.mp member)

theorem trimChars_append {front cs back : List Char} (plain : ∀ c ∈ cs, isBlank c = false)
    (some_char : cs ≠ []) (before : ∀ c ∈ front, isBlank c = true)
    (behind : ∀ c ∈ back, isBlank c = true) : trimChars (front ++ (cs ++ back)) = cs := by
  have left : trimLeft (front ++ (cs ++ back)) = cs ++ back := by
    obtain ⟨c, r, rfl⟩ := List.exists_cons_of_ne_nil some_char
    rw [trimLeft, List.dropWhile_append_of_pos before, List.cons_append, List.dropWhile_cons,
      if_neg (by simp [plain c])]
  have right : ∀ c ∈ back.reverse, isBlank c = true := fun c member =>
    behind c (List.mem_reverse.mp member)
  have still : cs.reverse.dropWhile isBlank = cs.reverse :=
    dropWhile_isBlank fun c member => plain c (List.mem_reverse.mp member)
  rw [trimChars, left, trimRight, List.reverse_append, List.dropWhile_append_of_pos right, still,
    List.reverse_reverse]

end HeatStack.Text

namespace HeatStack.Template
open HeatStack.Number HeatStack.Text

/-- The text is a written number with blanks around it, and `q` is that number. -/
inductive Denotes (text : String) : ℚ → Prop
  | number (front cs back : List Char) (d : Decimal) :
      text.toList = front ++ (cs ++ back) → (∀ c ∈ front, isBlank c = true) →
      (∀ c ∈ back, isBlank c = true) → Writes cs d → Denotes text d.value

variable {text : String} {q r : ℚ}

theorem denotes_iff : Denotes text q ↔ ∃ d, Writes (trimChars text.toList) d ∧ d.value = q := by
  constructor
  · rintro ⟨front, cs, back, d, parts, before, behind, writes⟩
    rw [parts, trimChars_append writes.not_blank writes.ne_nil before behind]
    exact ⟨d, writes, rfl⟩
  · rintro ⟨d, writes, rfl⟩
    obtain ⟨front, back, parts, before, behind⟩ := trimChars_parts text.toList
    exact .number front _ back d parts before behind writes

theorem Denotes.unique (left : Denotes text q) (right : Denotes text r) : q = r := by
  obtain ⟨d, writes, rfl⟩ := denotes_iff.mp left
  obtain ⟨d', writes', rfl⟩ := denotes_iff.mp right
  rw [writes.unique writes']

/-- A value of type number is read as `x`. -/
theorem numberOf?_eq_some_iff {x : Binary64} : numberOf? text = some x ↔
    ∃ d, Writes (trimChars text.toList) d ∧ d.toBinary64 = x ∧ |d.value| < Binary64.limit := by
  rw [numberOf?, Option.filter_eq_some_iff]
  constructor
  · rintro ⟨read, finite⟩
    obtain ⟨d, writes, rfl⟩ := (parse?_eq_some_iff finite).mp read
    exact ⟨d, writes, rfl, d.isFinite_toBinary64_iff.mp finite⟩
  · rintro ⟨d, writes, rfl, small⟩
    have finite := d.isFinite_toBinary64_iff.mpr small
    exact ⟨(parse?_eq_some_iff finite).mpr ⟨d, writes, rfl⟩, finite⟩

/-- What is denoted is read as the number nearest to it, unless it is too large. -/
theorem Denotes.exists_number (denotes : Denotes text q) (small : |q| < Binary64.limit) :
    ∃ x, numberOf? text = some x ∧ x.Nearest q := by
  obtain ⟨d, writes, rfl⟩ := denotes_iff.mp denotes
  exact ⟨_, numberOf?_eq_some_iff.mpr ⟨d, writes, rfl, small⟩, d.rounds_toBinary64.nearest small⟩

theorem denotes_of_numberOf? {x : Binary64} (read : numberOf? text = some x) :
    ∃ q, Denotes text q ∧ |q| < Binary64.limit ∧ x.Nearest q := by
  obtain ⟨d, writes, rfl, small⟩ := numberOf?_eq_some_iff.mp read
  exact ⟨_, denotes_iff.mpr ⟨d, writes, rfl⟩, small, d.rounds_toBinary64.nearest small⟩

/-- A value is accepted as a number just if it denotes one that is rounded to a finite number. -/
theorem accepts_number_iff : ValueType.number.accepts text = true ↔
    ∃ q, Denotes text q ∧ |q| < Binary64.limit := by
  rw [ValueType.accepts, Option.isSome_iff_exists]
  constructor
  · rintro ⟨x, read⟩
    obtain ⟨q, denotes, small, -⟩ := denotes_of_numberOf? read
    exact ⟨q, denotes, small⟩
  · rintro ⟨q, denotes, small⟩
    obtain ⟨x, read, -⟩ := denotes.exists_number small
    exact ⟨x, read⟩

end HeatStack.Template
