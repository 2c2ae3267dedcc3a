import HeatStack.Proofs.BundleRecord
import HeatStack.Proofs.DocumentParts

/-! # Compact JSON and its nesting

The compact text of a value is read by the grammar as what its indented text is read as.  A value comes of
it where arrays and objects are not nested deeper than the reader admits, and only there. -/
set_option autoImplicit false
namespace HeatStack.Json
open HeatStack.Number HeatStack.Text

namespace Syntax

/-! ## The grammar -/

theorem compact_front (v : Value) : ∃ c cs, v.compactChars = c :: cs ∧ Solid c ∧ c ≠ ']' := by
  cases v with
  | array items => exact ⟨'[', _, rfl, by decide, by decide⟩
  | object members => exact ⟨'\x7b', _, rfl, by decide, by decide⟩
  | bool b =>
      cases b with
      | true => exact indented_front (.bool true) 0
      | false => exact indented_front (.bool false) 0
  | null => exact indented_front .null 0
  | number n => exact indented_front (.number n) 0
  | string s => exact indented_front (.string s) 0

theorem stops_close {c : Char} (close : c = ']' ∨ c = '\x7d') (cs : List Char) : Stops (c :: cs) := by
  rintro d ⟨⟩
  rcases close with rfl | rfl <;> exact ⟨rfl, by decide, by decide, by decide⟩

mutual
theorem read?_compact : ∀ (v : Value) (fuel : Nat) (rest : List Char), Stops rest →
    2 * v.compactChars.length ≤ fuel → read? fuel (v.compactChars ++ rest) = some (v.toSyntax, rest)
  | .null, fuel, rest, stops, enough => read?_indented .null 0 fuel rest stops enough
  | .bool true, fuel, rest, stops, enough => read?_indented (.bool true) 0 fuel rest stops enough
  | .bool false, fuel, rest, stops, enough => read?_indented (.bool false) 0 fuel rest stops enough
  | .number n, fuel, rest, stops, enough => read?_indented (.number n) 0 fuel rest stops enough
  | .string s, fuel, rest, stops, enough => read?_indented (.string s) 0 fuel rest stops enough
  | .array [], fuel, rest, stops, enough => read?_indented (.array []) 0 fuel rest stops enough
  | .object [], fuel, rest, stops, enough => read?_indented (.object []) 0 fuel rest stops enough
  | .array (v :: vs), fuel, rest, _, enough => by
      obtain ⟨c, cs, text, solid, more⟩ := compact_front v
      simp only [Value.compactChars, List.cons_append, List.length_cons, List.length_append] at enough
      obtain ⟨fuel, rfl⟩ := Nat.exists_eq_add_of_le' (show 1 ≤ fuel by omega)
      have items := items?_compact (v :: vs) fuel rest (List.cons_ne_nil _ _) (by omega)
      obtain ⟨cs', front⟩ : ∃ cs', compactItems (v :: vs) ++ ']' :: rest = c :: cs' := by
        cases vs <;> simp [compactItems, text]
      simp only [Value.compactChars, List.cons_append, List.append_assoc, List.nil_append]
      rw [front] at items ⊢
      rw [read?_array (skipBlanks_solid solid cs') more, items]
      rfl
  | .object ((k, v) :: ms), fuel, rest, _, enough => by
      simp only [Value.compactChars, List.cons_append, List.length_cons, List.length_append] at enough
      obtain ⟨fuel, rfl⟩ := Nat.exists_eq_add_of_le' (show 1 ≤ fuel by omega)
      have members := members?_compact ((k, v) :: ms) fuel rest (List.cons_ne_nil _ _) (by omega)
      obtain ⟨cs', front⟩ : ∃ cs', compactMembers ((k, v) :: ms) ++ '\x7d' :: rest = '"' :: cs' := by
        cases ms <;> simp [compactMembers, quoted]
      simp only [Value.compactChars, List.cons_append, List.append_assoc, List.nil_append]
      rw [front] at members ⊢
      rw [read?_object (skipBlanks_solid (by decide) cs') (by decide), members]
      rfl

theorem items?_compact : ∀ (vs : List Value) (fuel : Nat) (rest : List Char), vs ≠ [] →
    2 * (compactItems vs).length < fuel →
      items? fuel (compactItems vs ++ ']' :: rest) = some (syntaxOfItems vs, rest)
  | [], _, _, some_item, _ => absurd rfl some_item
  | [v], fuel, rest, _, enough => by
      obtain ⟨fuel, rfl⟩ := Nat.exists_eq_add_of_le' (show 1 ≤ fuel by omega)
      simp only [compactItems] at enough ⊢
      have item := read?_compact v fuel (']' :: rest) (stops_close (.inl rfl) rest) (by omega)
      exact items?_last item (skipBlanks_solid (by decide) _)
  | v :: w :: vs, fuel, rest, _, enough => by
      simp only [compactItems, List.length_append, List.length_cons] at enough
      obtain ⟨fuel, rfl⟩ := Nat.exists_eq_add_of_le' (show 1 ≤ fuel by omega)
      have others := items?_compact (w :: vs) fuel rest (List.cons_ne_nil _ _) (by omega)
      have item := fun tail => read?_compact v fuel (',' :: tail) (stops_comma tail) (by omega)
      rw [compactItems, List.append_assoc, List.cons_append]
      · exact items?_more (item _) (skipBlanks_solid (by decide) _) others
      · exact List.cons_ne_nil _ _

theorem members?_compact : ∀ (ms : List (String × Value)) (fuel : Nat) (rest : List Char), ms ≠ [] →
    2 * (compactMembers ms).length < fuel →
      members? fuel (compactMembers ms ++ '\x7d' :: rest) = some (syntaxOfMembers ms, rest)
  | [], _, _, some_member, _ => absurd rfl some_member
  | [(k, v)], fuel, rest, _, enough => by
      simp only [compactMembers, List.length_append, List.length_cons] at enough
      obtain ⟨fuel, rfl⟩ := Nat.exists_eq_add_of_le' (show 1 ≤ fuel by omega)
      have item := read?_compact v fuel ('\x7d' :: rest) (stops_close (.inr rfl) rest) (by omega)
      simp only [compactMembers, List.append_assoc, List.cons_append]
      exact members?_last item (skipBlanks_solid (by decide) _)
  | (k, v) :: m :: ms, fuel, rest, _, enough => by
      simp only [compactMembers, List.length_append, List.length_cons] at enough
      obtain ⟨fuel, rfl⟩ := Nat.exists_eq_add_of_le' (show 1 ≤ fuel by omega)
      have others := members?_compact (m :: ms) fuel rest (List.cons_ne_nil _ _) (by omega)
      have item := fun tail => read?_compact v fuel (',' :: tail) (stops_comma tail) (by omega)
      simp only [compactMembers, List.append_assoc, List.cons_append]
      exact members?_more (item _) (skipBlanks_solid (by decide) _) others
end

theorem parse?_compact (v : Value) : parse? v.compact = some v.toSyntax := by
  have stops : Stops [] := fun _ member => nomatch member
  have read := read?_compact v (2 * v.compactChars.length + 2) [] stops (by omega)
  rw [List.append_nil] at read
  simp only [parse?, Value.compact, String.toList_ofList, read]
  rfl

/-! ## Values -/

theorem isSome_array (room : Nat) (items : List Syntax) :
    ((Syntax.array items).value? room).isSome = true ↔
      1 ≤ room ∧ (itemValues? (room - 1) items).isSome = true := by
  rw [value?]
  split
  · next none => simp [none]
  · next some_room => simp [Nat.one_le_iff_ne_zero.mpr some_room]

theorem isSome_object (room : Nat) (members : List (Option String × Syntax)) :
    ((Syntax.object members).value? room).isSome = true ↔
      1 ≤ room ∧ (memberValues? (room - 1) members).isSome = true := by
  rw [value?]
  split
  · next none => simp [none]
  · next some_room => simp [Nat.one_le_iff_ne_zero.mpr some_room]

theorem isSome_items (room : Nat) (s : Syntax) (rest : List Syntax) :
    (itemValues? room (s :: rest)).isSome = true ↔
      (s.value? room).isSome = true ∧ (itemValues? room rest).isSome = true := by
  rw [itemValues?]
  cases s.value? room <;> cases itemValues? room rest <;> simp

theorem isSome_members (room : Nat) (k : String) (s : Syntax) (rest : List (Option String × Syntax)) :
    (memberValues? room ((some k, s) :: rest)).isSome = true ↔
      (s.value? room).isSome = true ∧ (memberValues? room rest).isSome = true := by
  rw [memberValues?]
  cases s.value? room <;> cases memberValues? room rest <;> simp

end Syntax

/-! ## One line

No control below the blank stands in a compact text, so none of its characters ends a line. -/

theorem visible_digit {c : Char} (digit : isDigit c = true) : 32 ≤ c.toNat := by
  unfold isDigit at digit
  simp only [Bool.and_eq_true, decide_eq_true_eq] at digit
  exact Nat.le_trans (by decide) (show '0'.toNat ≤ c.toNat from digit.1)

theorem visible_hexDigit : ∀ n < 16, 32 ≤ (hexDigit n).toNat := by decide

theorem visible_hexPadded (width : Nat) : ∀ n, ∀ c ∈ hexPadded width n, 32 ≤ c.toNat := by
  induction width with
  | zero => exact fun _ _ member => nomatch member
  | succ width ih =>
      intro n c member
      rcases List.mem_append.mp member with front | last
      · exact ih _ c front
      · rw [List.mem_singleton.mp last]
        exact visible_hexDigit _ (Nat.mod_lt _ (by decide))

theorem visible_escapeChar (c : Char) : ∀ d ∈ escapeChar c, 32 ≤ d.toNat := by
  unfold escapeChar
  iterate 7
    split
    · simp
  split
  · exact List.forall_mem_cons.mpr ⟨by decide, List.forall_mem_cons.mpr
      ⟨by decide, visible_hexPadded 4 c.toNat⟩⟩
  · next shown => exact List.forall_mem_singleton.mpr (Nat.le_of_not_lt shown)

theorem visible_quoted (s : String) : ∀ c ∈ quoted s, 32 ≤ c.toNat := by
  refine List.forall_mem_append.mpr ⟨List.forall_mem_cons.mpr ⟨by decide, fun c member => ?_⟩, by simp⟩
  obtain ⟨d, -, escaped⟩ := List.mem_flatMap.mp member
  exact visible_escapeChar d c escaped

theorem visible_numeral {n : Numeral} (proper : n.Proper) : ∀ c ∈ n.chars, 32 ≤ c.toNat := by
  have fraction : ∀ c ∈ n.fractionChars, 32 ≤ c.toNat := by
    unfold Numeral.fractionChars
    split
    · exact fun _ none => nomatch none
    · exact List.forall_mem_cons.mpr ⟨by decide, fun c member => visible_digit (proper.places c member)⟩
  have exponent : ∀ c ∈ n.exponentChars, 32 ≤ c.toNat := by
    unfold Numeral.exponentChars
    split
    · exact fun _ none => nomatch none
    · next below ds written =>
      refine List.forall_mem_cons.mpr ⟨by decide, List.forall_mem_cons.mpr ⟨?_, fun c member => ?_⟩⟩
      · cases below <;> decide
      · exact visible_digit ((proper.exponent below ds written).2 c member)
  have unsigned : ∀ c ∈ n.unsigned, 32 ≤ c.toNat :=
    List.forall_mem_append.mpr ⟨fun c member => visible_digit (proper.whole.2 c member),
      List.forall_mem_append.mpr ⟨fraction, exponent⟩⟩
  unfold Numeral.chars
  split
  · exact List.forall_mem_cons.mpr ⟨by decide, unsigned⟩
  · exact unsigned

theorem visible_numeric (n : Numeric) : ∀ c ∈ (numberStyle.numericText n).toList, 32 ≤ c.toNat := by
  cases n with
  | integer n =>
      change ∀ c ∈ (toString n).toList, _
      rw [← chars_ofInt]
      exact visible_numeral (Numeral.proper_ofInt n)
  | binary x =>
      rw [numericText_binary]
      split
      · exact visible_numeral (Numeral.proper_ofDecimal (Shortest.decimal_settled _ x))
      · simp

mutual
theorem visible_compact : ∀ (v : Value), ∀ c ∈ v.compactChars, 32 ≤ c.toNat
  | .null => by simp [Value.compactChars]
  | .bool true => by simp [Value.compactChars]
  | .bool false => by simp [Value.compactChars]
  | .number n => visible_numeric n
  | .string s => visible_quoted s
  | .array items => List.forall_mem_append.mpr
      ⟨List.forall_mem_cons.mpr ⟨by decide, visible_items items⟩, by simp⟩
  | .object members => List.forall_mem_append.mpr
      ⟨List.forall_mem_cons.mpr ⟨by decide, visible_members members⟩, by simp⟩

theorem visible_items : ∀ (items : List Value), ∀ c ∈ compactItems items, 32 ≤ c.toNat
  | [] => fun _ none => nomatch none
  | [v] => visible_compact v
  | v :: w :: rest => List.forall_mem_append.mpr
      ⟨visible_compact v, List.forall_mem_cons.mpr ⟨by decide, visible_items (w :: rest)⟩⟩

theorem visible_members : ∀ (members : List (String × Value)),
    ∀ c ∈ compactMembers members, 32 ≤ c.toNat
  | [] => fun _ none => nomatch none
  | [(k, v)] => List.forall_mem_append.mpr
      ⟨visible_quoted k, List.forall_mem_cons.mpr ⟨by decide, visible_compact v⟩⟩
  | (k, v) :: m :: rest => List.forall_mem_append.mpr
      ⟨List.forall_mem_append.mpr
        ⟨visible_quoted k, List.forall_mem_cons.mpr ⟨by decide, visible_compact v⟩⟩,
      List.forall_mem_cons.mpr ⟨by decide, visible_members (m :: rest)⟩⟩
end

theorem Numeral.value?_ofInt {n : Int} (small : Yaml.Scalar.fitsWord n = true) :
    (Numeral.ofInt n).value? = some (.integer n) := by
  have whole : Text.decimal (Nat.toDigits 10 n.natAbs) = n.natAbs := Numeral.decimal_toDigits n.natAbs
  simp only [Yaml.Scalar.fitsWord, Bool.and_eq_true, decide_eq_true_eq] at small
  have above : n.natAbs < Nat.pow 2 64 := by
    change n.natAbs < 2 ^ 64
    have low : -(2 ^ 63 : Int) ≤ n := small.1
    have high : n < 2 ^ 64 := small.2
    omega
  by_cases negative : n < 0
  · have limit : 0 < n.natAbs ∧ n.natAbs ≤ Nat.pow 2 63 := by
      change 0 < n.natAbs ∧ n.natAbs ≤ 2 ^ 63
      have low : -(2 ^ 63 : Int) ≤ n := small.1
      omega
    have value : -(n.natAbs : Int) = n := by omega
    simp only [Numeral.value?, Numeral.ofInt, whole, above, negative]
    generalize n.natAbs = m at *
    simp [limit, value]
  · have value : (n.natAbs : Int) = n := by omega
    simp only [Numeral.value?, Numeral.ofInt, whole, above, negative]
    generalize n.natAbs = m at *
    simp [value]

end HeatStack.Json

namespace HeatStack.Yaml.Value
open HeatStack.Json HeatStack.Number

section
variable {tags room : Nat}

/-- No integer in the value, keys aside, takes more than 64 bits. -/
def Words (v : Value) : Prop := ∀ k n, Part (.number (.integer n)) k v → Scalar.fitsWord n = true

mutual
/-- The JSON form of a value is read where its collections and tags are nested within the limit. -/
theorem isSome_value?_iff : ∀ (v : Value) (j : Json.Value) (room : Nat), v.toJson? = some j → v.Words →
    ((j.toSyntax.value? room).isSome = true ↔ v.levels 1 ≤ room)
  | .null, j, room, json, _ => by cases json; simp [Json.Value.toSyntax, Syntax.value?, levels]
  | .bool b, j, room, json, _ => by cases json; simp [Json.Value.toSyntax, Syntax.value?, levels]
  | .string s, j, room, json, _ => by cases json; simp [Json.Value.toSyntax, Syntax.value?, levels]
  | .number (.integer n), j, room, json, words => by
      cases json
      have small := words 0 n .self
      simp [Json.Value.toSyntax, Syntax.ofNumeric, Syntax.value?, Numeral.value?_ofInt small, levels]
  | .number (.binary x), j, room, json, _ => by
      cases json
      simp [Syntax.value?_binary, levels]
  | .sequence items, j, room, json, words => by
      obtain ⟨js, listed, rfl⟩ := Option.map_eq_some_iff.mp json
      have each := isSome_itemValues?_iff items js (room - 1) listed
        fun v member k n part => words (k + 1) n (.item member part)
      rw [Json.Value.toSyntax, Syntax.isSome_array, each, levels]
      omega
  | .mapping entries, j, room, json, words => by
      obtain ⟨js, listed, rfl⟩ := Option.map_eq_some_iff.mp json
      have each := isSome_memberValues?_iff entries js (room - 1) listed
        fun e member k n part => words (k + 1) n (.entry member part)
      rw [Json.Value.toSyntax, Syntax.isSome_object, each, levels]
      omega
  | .tagged t v, j, room, json, words => by
      obtain ⟨j', inner, rfl⟩ := Option.map_eq_some_iff.mp json
      have below := isSome_value?_iff v j' (room - 1) inner fun k n part => words k n (.tagged part)
      rw [Json.Value.toSyntax, Syntax.isSome_object, syntaxOfMembers, syntaxOfMembers,
        Syntax.isSome_members, below, levels]
      simp only [Syntax.memberValues?, Option.isSome_some, and_true]
      omega

theorem isSome_itemValues?_iff : ∀ (items : List Value) (js : List Json.Value) (room : Nat),
    jsonItems? items = some js → (∀ v ∈ items, v.Words) →
      ((Syntax.itemValues? room (syntaxOfItems js)).isSome = true ↔ itemLevels 1 items ≤ room)
  | [], js, room, json, _ => by cases json; simp [syntaxOfItems, Syntax.itemValues?, itemLevels]
  | v :: rest, js, room, json, words => by
      obtain ⟨j, first, json⟩ := Option.bind_eq_some_iff.mp json
      obtain ⟨others, second, same⟩ := Option.bind_eq_some_iff.mp json
      cases same
      obtain ⟨here, there⟩ := List.forall_mem_cons.mp words
      rw [syntaxOfItems, Syntax.isSome_items, isSome_value?_iff v j room first here,
        isSome_itemValues?_iff rest others room second there, itemLevels]
      omega

theorem isSome_memberValues?_iff : ∀ (entries : List (Value × Value)) (js : List (String × Json.Value))
    (room : Nat), jsonMembers? entries = some js → (∀ e ∈ entries, e.2.Words) →
      ((Syntax.memberValues? room (syntaxOfMembers js)).isSome = true ↔ entryLevels 1 entries ≤ room)
  | [], js, room, json, _ => by cases json; simp [syntaxOfMembers, Syntax.memberValues?, entryLevels]
  | (k, v) :: rest, js, room, json, words => by
      obtain ⟨name, -, json⟩ := Option.bind_eq_some_iff.mp json
      obtain ⟨j, first, json⟩ := Option.bind_eq_some_iff.mp json
      obtain ⟨others, second, same⟩ := Option.bind_eq_some_iff.mp json
      cases same
      obtain ⟨here, there⟩ := List.forall_mem_cons.mp words
      rw [syntaxOfMembers, Syntax.isSome_members, isSome_value?_iff v j room first here,
        isSome_memberValues?_iff rest others room second there, entryLevels]
      omega
end

theorem isSome_parse?_compact {v : Value} {j : Json.Value} (json : v.toJson? = some j) (words : v.Words) :
    (Json.Value.parse? j.compact).isSome = true ↔ v.levels 1 ≤ Syntax.nestingLimit := by
  rw [Json.Value.parse?, Syntax.parse?_compact, Option.bind_some]
  exact isSome_value?_iff v j _ json words

end

end HeatStack.Yaml.Value
