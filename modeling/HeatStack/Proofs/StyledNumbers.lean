import HeatStack.Proofs.ShortestDecimals

/-! # Numbers read back from their text

In every style the text of a finite number is read back as that number: the styles differ in the zeros
that they write, in the sign of an exponent and in where the point stands. -/
set_option autoImplicit false
namespace HeatStack.Number
open HeatStack.Text HeatStack.Json

/-! ## Digits and zeros -/

theorem decimal_append (ds es : List Char) : Text.decimal (ds ++ es) = Numeral.behind (Text.decimal ds) es :=
  List.foldl_append

theorem behind_zeros (s j : Nat) : Numeral.behind s (List.replicate j '0') = s * 10 ^ j := by
  induction j generalizing s with
  | zero => rw [Nat.pow_zero, Nat.mul_one]; rfl
  | succ j ih =>
      rw [List.replicate_succ]
      change Numeral.behind (s * 10 + digitValue '0') (List.replicate j '0') = _
      rw [ih, Nat.pow_succ', ← Nat.mul_assoc]
      rfl

theorem decimal_zeros_append (j : Nat) (ds : List Char) :
    Text.decimal (List.replicate j '0' ++ ds) = Text.decimal ds := by
  have nothing : Text.decimal (List.replicate j '0') = 0 := by
    refine (behind_zeros 0 j).trans ?_
    rw [Nat.zero_mul]
  rw [decimal_append, nothing]
  rfl

theorem digits_zeros (j : Nat) : ∀ c ∈ List.replicate j '0', isDigit c = true := by
  intro c member
  rw [List.eq_of_mem_replicate member]
  rfl

/-! ## Parts of a decimal -/

namespace Decimal

def fraction (places : List Char) : List Char := if places = [] then [] else '.' :: places

def ending? : List Char → Option Int
  | [] => some 0
  | mark :: r => if mark = 'e' ∨ mark = 'E' then parseExponent? r else none

def pointed : List Char → List Char × List Char
  | '.' :: r => (r.takeWhile isDigit, r.dropWhile isDigit)
  | r => ([], r)

theorem parseUnsigned?_eq (negative : Bool) (cs : List Char) : parseUnsigned? negative cs =
    if (cs.takeWhile isDigit).isEmpty && (pointed (cs.dropWhile isDigit)).1.isEmpty then none
    else (ending? (pointed (cs.dropWhile isDigit)).2).map fun e =>
      ⟨negative, Text.decimal (cs.takeWhile isDigit ++ (pointed (cs.dropWhile isDigit)).1),
        e - (pointed (cs.dropWhile isDigit)).1.length⟩ := rfl

section
variable {whole places rest : List Char}

theorem whole_parts (digits : ∀ c ∈ whole, isDigit c = true) (stop : ∀ c ∈ rest.head?, isDigit c = false) :
    (whole ++ rest).takeWhile isDigit = whole ∧ (whole ++ rest).dropWhile isDigit = rest := by
  have none : rest.takeWhile isDigit = [] ∧ rest.dropWhile isDigit = rest := by
    cases rest with
    | nil => exact ⟨rfl, rfl⟩
    | cons c rest => simp [stop c rfl]
  rw [List.takeWhile_append_of_pos digits, List.dropWhile_append_of_pos digits, none.1, none.2,
    List.append_nil]
  exact ⟨rfl, rfl⟩

theorem parseUnsigned?_parts (negative : Bool) {k : Int} (digits : Digits whole)
    (behind : ∀ c ∈ places, isDigit c = true) (stop : ∀ c ∈ rest.head?, isDigit c = false ∧ c ≠ '.')
    (ends : ending? rest = some k) : parseUnsigned? negative (whole ++ (fraction places ++ rest)) =
      some ⟨negative, Text.decimal (whole ++ places), k - places.length⟩ := by
  have last := fun c member => (stop c member).1
  have first : ∀ c ∈ (fraction places ++ rest).head?, isDigit c = false := by
    unfold fraction
    split
    · exact last
    · rintro c ⟨⟩
      rfl
  obtain ⟨front, back⟩ := whole_parts digits.2 first
  have split : pointed (fraction places ++ rest) = (places, rest) := by
    by_cases none : places = []
    · subst none
      change pointed rest = _
      unfold pointed
      split
      · exact absurd rfl (stop '.' rfl).2
      · rfl
    · obtain ⟨taken, left⟩ := whole_parts behind last
      rw [fraction, if_neg none, List.cons_append]
      simp only [pointed, taken, left]
  have shown : whole.isEmpty = false := by simpa using digits.1
  rw [parseUnsigned?_eq, front, back, split, ends, shown]
  rfl

end

/-! ## Texts -/

variable (style : NumberStyle) (negative : Bool) {ds : List Char}

theorem parseUnsigned?_pointed {whole : List Char} (digits : Digits whole) (places : List Char)
    (behind : ∀ c ∈ places, isDigit c = true) : parseUnsigned? negative (whole ++ fraction places) =
      some ⟨negative, Text.decimal (whole ++ places), -places.length⟩ := by
  have read : parseUnsigned? negative (whole ++ (fraction places ++ [])) =
      some ⟨negative, Text.decimal (whole ++ places), 0 - places.length⟩ :=
    parseUnsigned?_parts negative digits behind nofun rfl
  rwa [List.append_nil, Int.zero_sub] at read

/-- Digits before the point, maybe with zeros behind them. -/
theorem parseUnsigned?_wholeText (digits : Digits ds) (k : Nat) :
    ∃ j : Nat, parseUnsigned? negative
        (ds ++ List.replicate k '0' ++ (if style.pointZero then ['.', '0'] else [])) =
      some ⟨negative, Text.decimal ds * 10 ^ j, k - j⟩ := by
  have front : Digits (ds ++ List.replicate k '0') :=
    ⟨List.append_ne_nil_of_left_ne_nil digits.1 _, List.forall_mem_append.mpr ⟨digits.2, digits_zeros k⟩⟩
  have value : Text.decimal (ds ++ List.replicate k '0') = Text.decimal ds * 10 ^ k := by
    rw [decimal_append, behind_zeros]
  cases style.pointZero with
  | false =>
      refine ⟨k, ?_⟩
      have read := parseUnsigned?_pointed negative front [] nofun
      rw [List.append_nil, value] at read
      simpa [fraction] using read
  | true =>
      refine ⟨k + 1, ?_⟩
      have read := parseUnsigned?_pointed negative front ['0'] (List.forall_mem_singleton.mpr rfl)
      have zero := behind_zeros (Text.decimal ds * 10 ^ k) 1
      rw [decimal_append, value] at read
      rw [List.replicate_one] at zero
      rw [zero, Nat.mul_assoc, ← Nat.pow_add] at read
      simpa [fraction] using read

/-- Digits of which some stand behind the point, or all of them and maybe zeros before them. -/
theorem parseUnsigned?_placedText (digits : Digits ds) {n : Nat} (positive : 0 < n) :
    parseUnsigned? negative
        (if n < ds.length then ds.take (ds.length - n) ++ '.' :: ds.drop (ds.length - n)
          else '0' :: '.' :: List.replicate (n - ds.length) '0' ++ ds) =
      some ⟨negative, Text.decimal ds, -n⟩ := by
  split
  · next short =>
      have some_place : ds.drop (ds.length - n) ≠ [] := by
        rw [ne_eq, List.drop_eq_nil_iff]
        omega
      have some_digit : ds.take (ds.length - n) ≠ [] := by
        rw [ne_eq, List.take_eq_nil_iff, not_or]
        exact ⟨by omega, digits.1⟩
      have read := parseUnsigned?_pointed negative
        ⟨some_digit, fun c member => digits.2 c (List.mem_of_mem_take member)⟩ (ds.drop (ds.length - n))
        fun c member => digits.2 c (List.mem_of_mem_drop member)
      rw [List.take_append_drop, fraction, if_neg some_place, List.length_drop] at read
      rw [read]
      congr 2
      omega
  · next long =>
      have zero : Digits ['0'] := ⟨List.cons_ne_nil _ _, List.forall_mem_singleton.mpr rfl⟩
      have read := parseUnsigned?_pointed negative zero _
        (List.forall_mem_append.mpr ⟨digits_zeros (n - ds.length), digits.2⟩)
      have some_place : List.replicate (n - ds.length) '0' ++ ds ≠ [] :=
        List.append_ne_nil_of_right_ne_nil _ digits.1
      have value : Text.decimal (['0'] ++ (List.replicate (n - ds.length) '0' ++ ds)) = Text.decimal ds :=
        decimal_zeros_append (n - ds.length + 1) ds
      rw [fraction, if_neg some_place, List.length_append, List.length_replicate, value] at read
      refine read.trans ?_
      congr 2
      omega

/-- Digits around the point, maybe with zeros behind them. -/
theorem parseUnsigned?_positionalText (digits : Digits ds) (e : Int) :
    ∃ j : Nat, parseUnsigned? negative (style.positionalText ds e) =
      some ⟨negative, Text.decimal ds * 10 ^ j, e - j⟩ := by
  unfold NumberStyle.positionalText
  split
  · next whole =>
      obtain ⟨k, rfl⟩ := Int.eq_ofNat_of_zero_le whole
      rw [Int.toNat_natCast]
      exact parseUnsigned?_wholeText style negative digits k
  · next below =>
      refine ⟨0, (parseUnsigned?_placedText negative digits (n := (-e).toNat) (by omega)).trans ?_⟩
      rw [Nat.pow_zero, Nat.mul_one]
      congr 2
      omega

/-- A sign before digits, which a positive exponent may do without. -/
theorem parseExponent?_signed (lead : Int) : parseExponent?
    ((if lead < 0 then ['-'] else if style.plusSign then ['+'] else []) ++ Nat.toDigits 10 lead.natAbs) =
      some lead := by
  obtain ⟨some_digit, digits⟩ := digits_toDigits lead.natAbs
  have value := Numeral.decimal_toDigits lead.natAbs
  have all : (Nat.toDigits 10 lead.natAbs).all isDigit = true := List.all_eq_true.mpr digits
  have below : lead < 0 → -(lead.natAbs : Int) = lead := by omega
  have above : ¬ lead < 0 → (lead.natAbs : Int) = lead := by omega
  generalize Nat.toDigits 10 lead.natAbs = ds at *
  generalize lead.natAbs = n at *
  obtain ⟨d, ds, rfl⟩ := List.exists_cons_of_ne_nil some_digit
  have digit := digits d List.mem_cons_self
  split
  · next negative => simp [parseExponent?, all, value, below negative]
  · next positive =>
    split
    · simp [parseExponent?, all, value, above positive]
    · have minus : d ≠ '-' := by rintro rfl; cases digit
      have plus : d ≠ '+' := by rintro rfl; cases digit
      rw [List.nil_append]
      unfold parseExponent?
      split
      next _ negative ds' same =>
        split at same
        · next front => exact absurd (List.cons.inj front).1 minus
        · next front => exact absurd (List.cons.inj front).1 plus
        · cases same
          simp [all, value, above positive]

theorem exponentText_cons (d : Char) (ds : List Char) (lead : Int) :
    style.exponentText (d :: ds) lead = [d] ++ (fraction ds ++ 'e' ::
      ((if lead < 0 then ['-'] else if style.plusSign then ['+'] else []) ++
        Nat.toDigits 10 lead.natAbs)) := by
  cases ds <;> simp [NumberStyle.exponentText, fraction]

theorem parseUnsigned?_exponentText (digits : Digits ds) (lead : Int) :
    parseUnsigned? negative (style.exponentText ds lead) =
      some ⟨negative, Text.decimal ds, lead - (ds.length - 1 : Nat)⟩ := by
  obtain ⟨d, ds, rfl⟩ := List.exists_cons_of_ne_nil digits.1
  obtain ⟨digit, others⟩ := List.forall_mem_cons.mp digits.2
  have ends := parseExponent?_signed style lead
  rw [exponentText_cons]
  refine parseUnsigned?_parts negative ⟨List.cons_ne_nil _ _, List.forall_mem_singleton.mpr digit⟩ others
    ?_ ends
  rintro c ⟨⟩
  exact ⟨rfl, by decide⟩

end Decimal

namespace NumberStyle
open Decimal
variable (style : NumberStyle)

def unsignedText (d : Decimal) : List Char :=
  let digits := Nat.toDigits 10 d.digits
  let lead := d.exponent + digits.length - 1
  if d.digits = 0 || style.positional lead then style.positionalText digits d.exponent
  else style.exponentText digits lead

theorem decimalText_eq (d : Decimal) :
    style.decimalText d = (if d.negative then ['-'] else []) ++ style.unsignedText d := by
  unfold decimalText unsignedText
  cases d.negative <;> rfl

theorem parseUnsigned?_unsignedText (negative : Bool) (d : Decimal) :
    ∃ j : Nat, parseUnsigned? negative (style.unsignedText d) =
      some ⟨negative, d.digits * 10 ^ j, d.exponent - j⟩ := by
  have digits := digits_toDigits d.digits
  have value := Numeral.decimal_toDigits d.digits
  unfold unsignedText
  simp only
  split
  · obtain ⟨j, read⟩ := parseUnsigned?_positionalText style negative digits d.exponent
    rw [value] at read
    exact ⟨j, read⟩
  · refine ⟨0, (parseUnsigned?_exponentText style negative digits _).trans ?_⟩
    have some_digit := List.length_pos_iff.mpr digits.1
    rw [value, Nat.pow_zero, Nat.mul_one]
    congr 2
    omega

theorem forall_positionalText {P : Char → Prop} {ds : List Char} (digits : ∀ c ∈ ds, P c) (zero : P '0')
    (point : P '.') (e : Int) : ∀ c ∈ style.positionalText ds e, P c := by
  have zeros : ∀ j, ∀ c ∈ List.replicate j '0', P c := fun j c member =>
    List.eq_of_mem_replicate member ▸ zero
  intro c member
  unfold positionalText at member
  split at member
  · split at member <;> simp only [List.mem_append, List.mem_cons, List.not_mem_nil, or_false] at member <;>
      grind
  · simp only at member
    split at member
    · simp only [List.mem_append, List.mem_cons] at member
      obtain front | rfl | back := member
      · exact digits c (List.mem_of_mem_take front)
      · exact point
      · exact digits c (List.mem_of_mem_drop back)
    · simp only [List.cons_append, List.mem_cons, List.mem_append] at member
      grind

theorem forall_exponentText {P : Char → Prop} {ds : List Char} (some_digit : ds ≠ [])
    (digits : ∀ c, isDigit c = true → P c) (all : ∀ c ∈ ds, isDigit c = true)
    (marks : ∀ c ∈ ['.', 'e', '+', '-'], P c) (lead : Int) : ∀ c ∈ style.exponentText ds lead, P c := by
  have exponent : ∀ c ∈ Nat.toDigits 10 lead.natAbs, P c := fun c member =>
    digits c ((digits_toDigits lead.natAbs).2 c member)
  obtain ⟨d, ds, rfl⟩ := List.exists_cons_of_ne_nil some_digit
  obtain ⟨first, others⟩ := List.forall_mem_cons.mp all
  obtain ⟨point, mark, plus, minus⟩ : P '.' ∧ P 'e' ∧ P '+' ∧ P '-' := by simpa using marks
  rw [exponentText_cons]
  refine List.forall_mem_append.mpr
    ⟨List.forall_mem_singleton.mpr (digits d first), List.forall_mem_append.mpr ⟨?_, ?_⟩⟩
  · unfold fraction
    split
    · nofun
    · exact List.forall_mem_cons.mpr ⟨point, fun c member => digits c (others c member)⟩
  · refine List.forall_mem_cons.mpr ⟨mark, List.forall_mem_append.mpr ⟨?_, exponent⟩⟩
    split
    · exact List.forall_mem_singleton.mpr minus
    · split
      · exact List.forall_mem_singleton.mpr plus
      · nofun

theorem unsignedText_no_blank (d : Decimal) : ∀ c ∈ style.unsignedText d, isBlank c = false := by
  obtain ⟨some_digit, digits⟩ := digits_toDigits d.digits
  unfold unsignedText
  simp only
  split
  · exact style.forall_positionalText (fun c member => isBlank_digit (digits c member)) rfl rfl _
  · exact style.forall_exponentText some_digit (fun c => isBlank_digit) digits (by simp [isBlank]) _

theorem unsignedText_front (d : Decimal) :
    ∃ c cs, style.unsignedText d = c :: cs ∧ isDigit c = true := by
  obtain ⟨some_digit, digits⟩ := digits_toDigits d.digits
  unfold unsignedText
  simp only
  generalize Nat.toDigits 10 d.digits = ds at *
  obtain ⟨c, cs, rfl⟩ := List.exists_cons_of_ne_nil some_digit
  have digit := digits c List.mem_cons_self
  split
  · unfold positionalText
    split
    · exact ⟨c, _, rfl, digit⟩
    · simp only
      split
      · next short =>
          obtain ⟨k, front⟩ : ∃ k, (c :: cs).length - (-d.exponent).toNat = k + 1 :=
            ⟨(c :: cs).length - (-d.exponent).toNat - 1, by omega⟩
          rw [front]
          exact ⟨c, _, rfl, digit⟩
      · exact ⟨'0', _, rfl, rfl⟩
  · rw [exponentText_cons]
    exact ⟨c, _, rfl, digit⟩

theorem toList_text {x : Binary64} (finite : x.isFinite = true) : (style.text x).toList =
    (if x.negative then ['-'] else []) ++ style.unsignedText (Shortest.decimal style.tie x) := by
  have sign : (Shortest.decimal style.tie x).negative = x.negative := by
    unfold Shortest.decimal
    split <;> rfl
  unfold NumberStyle.text
  rw [Binary64.isNaN_of_isFinite finite, Binary64.isInfinite_of_isFinite finite]
  simp only [Bool.false_eq_true, if_false, String.toList_ofList]
  rw [decimalText_eq, sign]

/-- The text of a finite number is read back. -/
theorem parse?_text {x : Binary64} (finite : x.isFinite = true) :
    Binary64.parse? (style.text x).toList = some x := by
  obtain ⟨c, cs, front, digit⟩ := style.unsignedText_front (Shortest.decimal style.tie x)
  obtain ⟨j, read⟩ := style.parseUnsigned?_unsignedText x.negative (Shortest.decimal style.tie x)
  rw [style.toList_text finite, front, parse?_digits digit, ← front, read, Option.map_some,
    Shortest.toBinary64_decimal _ finite]

theorem text_no_blank {x : Binary64} (finite : x.isFinite = true) :
    ∀ c ∈ (style.text x).toList, isBlank c = false := by
  rw [style.toList_text finite]
  refine List.forall_mem_append.mpr ⟨?_, style.unsignedText_no_blank _⟩
  split
  · exact List.forall_mem_singleton.mpr rfl
  · nofun

end NumberStyle

/-! ## Integers -/

theorem toList_toString (n : Int) :
    (toString n).toList = (if n < 0 then ['-'] else []) ++ Nat.toDigits 10 n.natAbs := by
  rw [← chars_ofInt, Numeral.chars, unsigned_ofInt]
  by_cases negative : n < 0 <;> simp [Numeral.ofInt, negative]

theorem toBinary64_integer (n : Int) : (Decimal.mk (n < 0) n.natAbs 0).toBinary64 = .ofInt n := by
  unfold Decimal.toBinary64
  by_cases zero : n = 0
  · subst zero
    decide +kernel
  · simp only
    rw [if_neg (by omega), if_neg (by decide), if_neg (by omega), if_pos (by decide)]
    simp [Binary64.ofInt]

theorem parse?_integer (n : Int) : Binary64.parse? (toString n).toList = some (.ofInt n) := by
  have digits := digits_toDigits n.natAbs
  obtain ⟨d, ds, front⟩ := List.exists_cons_of_ne_nil digits.1
  have digit := digits.2 d (front ▸ List.mem_cons_self)
  have sign : (if n < 0 then ['-'] else []) = if decide (n < 0) = true then ['-'] else [] := by simp
  have read : Decimal.parseUnsigned? (n < 0) (Nat.toDigits 10 n.natAbs ++ (Decimal.fraction [] ++ [])) = _ :=
    Decimal.parseUnsigned?_parts (n < 0) digits nofun nofun rfl
  rw [Decimal.fraction, if_pos rfl, List.append_nil, List.append_nil,
    Numeral.decimal_toDigits] at read
  rw [toList_toString, sign, front, parse?_digits digit, ← front, read, Option.map_some]
  exact congrArg some (toBinary64_integer n)

end HeatStack.Number

namespace HeatStack.Template
open HeatStack.Number HeatStack.Text

theorem numberOf?_text (style : NumberStyle) {x : Binary64} (finite : x.isFinite = true) :
    numberOf? (style.text x) = some x := by
  rw [numberOf?, trimChars_of_no_blank (style.text_no_blank finite), style.parse?_text finite,
    Option.filter_some, if_pos finite]

theorem numberOf?_integer {n : Int} (small : n.natAbs < Binary64.limit) :
    numberOf? (toString n) = some (.ofInt n) := by
  have plain : ∀ c ∈ (toString n).toList, isBlank c = false := by
    rw [toList_toString]
    refine List.forall_mem_append.mpr
      ⟨?_, fun c member => isBlank_digit ((Json.digits_toDigits n.natAbs).2 c member)⟩
    split
    · exact List.forall_mem_singleton.mpr rfl
    · nofun
  obtain ⟨-, -, finite, -⟩ := Binary64.ofRatio_bounded (n < 0) (by decide : 0 < 1)
    (Binary64.ofNat_bounded small)
  rw [numberOf?, trimChars_of_no_blank plain, parse?_integer, Option.filter_some]
  exact if_pos finite

end HeatStack.Template
