import HeatStack.Proofs.NumeralText

/-! # JSON text read back

The grammar reads the indented text of every value as the value that was written, numbers as the
numerals that stand for them and a number that is not finite as null (`Value.toSyntax`).  The fuel that
a text of a value takes is bounded by twice its length. -/
set_option autoImplicit false
namespace HeatStack.Json
open HeatStack.Number HeatStack.Text

/-! ## Texts -/

namespace Syntax

theorem hexValue?_hexDigit : ∀ n < 16, hexValue? (hexDigit n) = some n := by decide

theorem unit?_hexPadded {n : Nat} (small : n < 65536) (rest : List Char) :
    unit? (hexPadded 4 n ++ rest) = some (n, rest) := by
  have digit := fun k => hexValue?_hexDigit (k % 16) (Nat.mod_lt _ (by decide))
  simp only [hexPadded, List.nil_append, List.cons_append, unit?, digit, bind, Option.bind]
  congr 2
  omega

theorem units?_escapeChar (fuel : Nat) (c : Char) (rest : List Char) :
    units? (fuel + 1) (escapeChar c ++ rest) =
      (units? fuel rest).map fun (us, r) => (.inl c :: us, r) := by
  have next (c : Char) : (do
      let (us, r) ← units? fuel rest
      some (.inl c :: us, r)) = (units? fuel rest).map fun (us, r) => (Sum.inl (β := Nat) c :: us, r) := by
    cases units? fuel rest <;> rfl
  unfold escapeChar
  split_ifs with quote backslash newline return_ tab back feed control
  iterate 7
    · subst c
      exact next _
  · have read := unit?_hexPadded (n := c.toNat) (by omega) rest
    have half : ¬ (0xD800 ≤ c.toNat ∧ c.toNat ≤ 0xDFFF) := by omega
    rw [← next c, List.cons_append, List.cons_append]
    change (unit? _ >>= _) = _
    rw [read, Option.bind_eq_bind, Option.bind_some]
    simp only [if_neg half, Char.ofNat_toNat]
  · rw [← next c, List.singleton_append]
    conv => lhs; unfold units?
    split
    · contradiction
    · next same => exact absurd (List.cons.inj same).1 quote
    · next same => exact absurd (List.cons.inj same).1 backslash
    · next same => exact absurd (List.cons.inj same).1 backslash
    · next same =>
      obtain ⟨rfl, rfl⟩ := List.cons.inj same
      rw [if_neg (not_or.mpr ⟨control, backslash⟩)]

theorem joinUnits_inl (cs : List Char) : joinUnits (cs.map .inl) = some cs := by
  induction cs with
  | nil => rfl
  | cons c cs ih => rw [List.map_cons, joinUnits, ih]; rfl

theorem units?_escaped (cs rest : List Char) : ∀ fuel, cs.length < fuel →
    units? fuel (cs.flatMap escapeChar ++ '"' :: rest) = some (cs.map .inl, rest) := by
  induction cs with
  | nil =>
      intro fuel enough
      obtain ⟨fuel, rfl⟩ := Nat.exists_eq_succ_of_ne_zero (Nat.ne_of_gt enough)
      rfl
  | cons c cs ih =>
      intro fuel enough
      obtain ⟨fuel, rfl⟩ := Nat.exists_eq_succ_of_ne_zero (Nat.ne_of_gt (Nat.zero_lt_of_lt enough))
      rw [List.flatMap_cons, List.append_assoc, units?_escapeChar,
        ih fuel (by simpa using enough)]
      rfl

theorem length_le_escaped (cs : List Char) : cs.length ≤ (cs.flatMap escapeChar).length := by
  induction cs with
  | nil => exact Nat.le_refl 0
  | cons c cs ih =>
      have one : 1 ≤ (escapeChar c).length := by
        unfold escapeChar
        split_ifs <;> simp
      rw [List.flatMap_cons, List.length_append, List.length_cons]
      omega

theorem text?_escaped (s : String) (rest : List Char) :
    text? (s.toList.flatMap escapeChar ++ '"' :: rest) = some (some s, rest) := by
  have long := length_le_escaped s.toList
  have read := units?_escaped s.toList rest ((s.toList.flatMap escapeChar ++ '"' :: rest).length + 1)
    (by rw [List.length_append]; omega)
  simp only [text?, read, bind, Option.bind, joinUnits_inl, Option.map_some, String.ofList_toList]

/-! ## Blanks -/

/-- A character that is not skipped. -/
def Solid (c : Char) : Prop := ¬ (c = ' ' ∨ c = '\t' ∨ c = '\n' ∨ c = '\r')

instance : DecidablePred Solid := fun c =>
  inferInstanceAs (Decidable (¬ (c = ' ' ∨ c = '\t' ∨ c = '\n' ∨ c = '\r')))

theorem skipBlanks_solid {c : Char} (solid : Solid c) (cs : List Char) :
    skipBlanks (c :: cs) = c :: cs := if_neg solid

theorem skipBlanks_newline (depth : Nat) (cs : List Char) :
    skipBlanks (newline depth ++ cs) = skipBlanks cs := by
  have spaces : ∀ n, skipBlanks (List.replicate n ' ' ++ cs) = skipBlanks cs := by
    intro n
    induction n with
    | zero => rfl
    | succ n ih => exact ih
  exact spaces (2 * depth)

theorem read?_skip (fuel : Nat) {cs ds : List Char} (same : skipBlanks cs = skipBlanks ds) :
    read? fuel cs = read? fuel ds := by
  cases fuel with
  | zero => rfl
  | succ fuel => rw [read?, read?, same]

theorem items?_skip (fuel : Nat) {cs ds : List Char} (same : skipBlanks cs = skipBlanks ds) :
    items? fuel cs = items? fuel ds := by
  cases fuel with
  | zero => rfl
  | succ fuel => rw [items?, items?, read?_skip fuel same]

theorem members?_skip (fuel : Nat) {cs ds : List Char} (same : skipBlanks cs = skipBlanks ds) :
    members? fuel cs = members? fuel ds := by
  cases fuel with
  | zero => rfl
  | succ fuel => rw [members?, members?, same]

/-! ## Values -/

theorem read?_digit (fuel : Nat) {c : Char} (digit : isDigit c = true) (cs : List Char) :
    read? (fuel + 1) (c :: cs) = (numeral? false (c :: cs)).map fun (n, r) => (.number n, r) := by
  have solid : Solid c := by
    rintro (rfl | rfl | rfl | rfl) <;> cases digit
  rw [read?, skipBlanks_solid solid]
  split <;> first | rfl | (next same => obtain ⟨rfl, -⟩ := List.cons.inj same; cases digit)

theorem read?_numeral (fuel : Nat) {n : Numeral} (proper : n.Proper) {rest : List Char}
    (stops : Stops rest) : read? (fuel + 1) (n.chars ++ rest) = some (.number n, rest) := by
  have read := numeral?_unsigned proper stops
  unfold Numeral.chars
  split_ifs with negative
  · rw [negative] at read
    change (numeral? true (n.unsigned ++ rest)).map _ = _
    rw [read]
    rfl
  · obtain ⟨d, ds, whole⟩ := List.exists_cons_of_ne_nil proper.whole.1
    have digit : isDigit d = true := proper.whole.2 d (by rw [whole]; exact List.mem_cons_self)
    rw [Bool.eq_false_iff.mpr negative] at read
    rw [Numeral.unsigned, whole, List.cons_append, List.cons_append] at read ⊢
    rw [read?_digit fuel digit, read]
    rfl

theorem read?_numeric (fuel : Nat) (n : Numeric) {rest : List Char} (stops : Stops rest) :
    read? (fuel + 1) ((numberStyle.numericText n).toList ++ rest) = some (ofNumeric n, rest) := by
  cases n with
  | integer n =>
      change read? (fuel + 1) ((toString n).toList ++ rest) = _
      rw [← chars_ofInt]
      exact read?_numeral fuel (Numeral.proper_ofInt n) stops
  | binary x =>
      rw [numericText_binary, ofNumeric]
      split_ifs
      · exact read?_numeral fuel (Numeral.proper_ofDecimal (Shortest.decimal_settled _ x)) stops
      · rfl

end Syntax

mutual
/-- What the text of a value is in the grammar. -/
def Value.toSyntax : Value → Syntax
  | .null => .null
  | .bool b => .bool b
  | .number n => .ofNumeric n
  | .string s => .string (some s)
  | .array items => .array (syntaxOfItems items)
  | .object members => .object (syntaxOfMembers members)

def syntaxOfItems : List Value → List Syntax
  | [] => []
  | v :: rest => v.toSyntax :: syntaxOfItems rest

def syntaxOfMembers : List (String × Value) → List (Option String × Syntax)
  | [] => []
  | (k, v) :: rest => (some k, v.toSyntax) :: syntaxOfMembers rest
end

theorem syntaxOfItems_eq (items : List Value) : syntaxOfItems items = items.map Value.toSyntax := by
  induction items with
  | nil => rfl
  | cons v rest ih => rw [syntaxOfItems, ih, List.map_cons]

theorem syntaxOfMembers_eq (members : List (String × Value)) :
    syntaxOfMembers members = members.map fun e => (some e.1, e.2.toSyntax) := by
  induction members with
  | nil => rfl
  | cons e rest ih => rw [syntaxOfMembers, ih, List.map_cons]

namespace Syntax

theorem solid_digit {c : Char} (digit : isDigit c = true) : Solid c ∧ c ≠ ']' := by
  refine ⟨?_, ?_⟩
  · rintro (rfl | rfl | rfl | rfl) <;> cases digit
  · rintro rfl
    cases digit

theorem chars_front {n : Numeral} (proper : n.Proper) :
    ∃ c cs, n.chars = c :: cs ∧ Solid c ∧ c ≠ ']' := by
  obtain ⟨d, ds, whole⟩ := List.exists_cons_of_ne_nil proper.whole.1
  unfold Numeral.chars
  split_ifs
  · exact ⟨_, _, rfl, by decide, by decide⟩
  · have digit := proper.whole.2 d (by rw [whole]; exact List.mem_cons_self)
    exact ⟨d, ds ++ (n.fractionChars ++ n.exponentChars), by rw [Numeral.unsigned, whole]; rfl,
      solid_digit digit⟩

/-- The text of a value starts with a character that is not skipped and closes no array. -/
theorem indented_front (v : Value) (depth : Nat) :
    ∃ c cs, v.indentedChars depth = c :: cs ∧ Solid c ∧ c ≠ ']' := by
  cases v with
  | null => exact ⟨'n', _, rfl, by decide, by decide⟩
  | bool b =>
      cases b with
      | true => exact ⟨'t', _, rfl, by decide, by decide⟩
      | false => exact ⟨'f', _, rfl, by decide, by decide⟩
  | number n =>
      cases n with
      | integer n =>
          obtain ⟨c, cs, text, front⟩ := chars_front (Numeral.proper_ofInt n)
          exact ⟨c, cs, (chars_ofInt n).symm.trans text, front⟩
      | binary x =>
          have text := numericText_binary x
          split_ifs at text
          · obtain ⟨c, cs, written, front⟩ :=
              chars_front (Numeral.proper_ofDecimal (Shortest.decimal_settled .toEven x))
            exact ⟨c, cs, text.trans written, front⟩
          · exact ⟨'n', _, text, by decide, by decide⟩
  | string s => exact ⟨_, _, rfl, by decide, by decide⟩
  | array items => cases items <;> exact ⟨_, _, rfl, by decide, by decide⟩
  | object members => cases members <;> exact ⟨_, _, rfl, by decide, by decide⟩

theorem stops_newline (depth : Nat) (cs : List Char) : Stops (newline depth ++ cs) := by
  intro c member
  cases member
  exact ⟨rfl, by decide, by decide, by decide⟩

theorem stops_comma (cs : List Char) : Stops (',' :: cs) := by
  intro c member
  cases member
  exact ⟨rfl, by decide, by decide, by decide⟩

section
variable {fuel : Nat} {cs r t t' : List Char} {s : Syntax}

theorem read?_array {c : Char} {ds : List Char} (front : skipBlanks cs = c :: ds) (more : c ≠ ']') :
    read? (fuel + 1) ('[' :: cs) = (items? fuel (c :: ds)).map fun (vs, r) => (.array vs, r) := by
  conv => lhs; unfold read?
  rw [skipBlanks_solid (by decide) cs]
  simp only [front]
  split
  · next same => exact absurd (List.cons.inj same).1 more
  · rfl

theorem read?_object {c : Char} {ds : List Char} (front : skipBlanks cs = c :: ds) (more : c ≠ '\x7d') :
    read? (fuel + 1) ('\x7b' :: cs) =
      (members? fuel (c :: ds)).map fun (ms, r) => (.object ms, r) := by
  conv => lhs; unfold read?
  rw [skipBlanks_solid (by decide) cs]
  simp only [front]
  split
  · next same => exact absurd (List.cons.inj same).1 more
  · rfl

theorem items?_last (item : read? fuel cs = some (s, r)) (close : skipBlanks r = ']' :: t) :
    items? (fuel + 1) cs = some ([s], t) := by
  simp only [items?, item, bind, Option.bind, close]

theorem items?_more {ss : List Syntax} (item : read? fuel cs = some (s, r))
    (comma : skipBlanks r = ',' :: t) (others : items? fuel t = some (ss, t')) :
    items? (fuel + 1) cs = some (s :: ss, t') := by
  simp only [items?, item, bind, Option.bind, comma, others]

/-- The step of `members?` behind a name. -/
theorem members?_name (fuel : Nat) (k : String) (cs : List Char) :
    members? (fuel + 1) (quoted k ++ ':' :: cs) = (do
      let (v, r) ← read? fuel cs
      match skipBlanks r with
      | ',' :: r => do
        let (ms, r) ← members? fuel r
        some ((some k, v) :: ms, r)
      | '\x7d' :: r => some ([(some k, v)], r)
      | _ => none) := by
  have key := text?_escaped k (':' :: cs)
  have text : quoted k ++ ':' :: cs = '"' :: (k.toList.flatMap escapeChar ++ '"' :: ':' :: cs) := by
    simp [quoted]
  rw [text]
  conv => lhs; unfold members?
  rw [skipBlanks_solid (by decide)]
  simp only [key, bind, Option.bind]
  rw [skipBlanks_solid (by decide)]
  rfl

theorem members?_last {k : String} (item : read? fuel cs = some (s, r))
    (close : skipBlanks r = '\x7d' :: t) :
    members? (fuel + 1) (quoted k ++ ':' :: cs) = some ([(some k, s)], t) := by
  rw [members?_name]
  simp only [item, bind, Option.bind, close]

theorem members?_more {k : String} {ms : List (Option String × Syntax)}
    (item : read? fuel cs = some (s, r)) (comma : skipBlanks r = ',' :: t)
    (others : members? fuel t = some (ms, t')) :
    members? (fuel + 1) (quoted k ++ ':' :: cs) = some ((some k, s) :: ms, t') := by
  rw [members?_name]
  simp only [item, bind, Option.bind, comma, others]

end

def listedItems (depth : Nat) : List Value → List Char
  | [] => []
  | v :: rest => v.indentedChars depth ++ indentedItems depth rest

def listedMembers (depth : Nat) : List (String × Value) → List Char
  | [] => []
  | (k, v) :: rest => quoted k ++ ':' :: ' ' :: v.indentedChars depth ++ indentedMembers depth rest

theorem array_text (v : Value) (vs : List Value) (depth : Nat) :
    (Value.array (v :: vs)).indentedChars depth =
      '[' :: (newline (depth + 1) ++ (listedItems (depth + 1) (v :: vs) ++ (newline depth ++ [']']))) := by
  simp only [Value.indentedChars, listedItems, List.cons_append, List.append_assoc]

theorem object_text (m : String × Value) (ms : List (String × Value)) (depth : Nat) :
    (Value.object (m :: ms)).indentedChars depth = '\x7b' :: (newline (depth + 1) ++
      (listedMembers (depth + 1) (m :: ms) ++ (newline depth ++ ['\x7d']))) := by
  simp only [Value.indentedChars, listedMembers, List.cons_append, List.append_assoc]

theorem listedItems_more (depth : Nat) (v w : Value) (vs : List Value) :
    listedItems depth (v :: w :: vs) =
      v.indentedChars depth ++ ',' :: (newline depth ++ listedItems depth (w :: vs)) := by
  simp only [listedItems, indentedItems, List.cons_append, List.append_assoc]

theorem listedMembers_more (depth : Nat) (k : String) (v : Value) (m : String × Value)
    (ms : List (String × Value)) : listedMembers depth ((k, v) :: m :: ms) =
      quoted k ++ ':' :: (' ' :: (v.indentedChars depth ++
        ',' :: (newline depth ++ listedMembers depth (m :: ms)))) := by
  simp only [listedMembers, indentedMembers, List.cons_append, List.append_assoc]

theorem skipBlanks_close {c : Char} (solid : Solid c) (depth : Nat) (rest : List Char) :
    skipBlanks (newline depth ++ c :: rest) = c :: rest := by
  rw [skipBlanks_newline, skipBlanks_solid solid]

/-- A member name stands behind one blank. -/
theorem read?_blank (fuel : Nat) (cs : List Char) : read? fuel (' ' :: cs) = read? fuel cs :=
  read?_skip fuel rfl

mutual
theorem read?_indented : ∀ (v : Value) (depth fuel : Nat) (rest : List Char), Stops rest →
    2 * (v.indentedChars depth).length ≤ fuel →
      read? fuel (v.indentedChars depth ++ rest) = some (v.toSyntax, rest)
  | .null, depth, fuel, rest, _, enough => by
      obtain ⟨fuel, rfl⟩ := Nat.exists_eq_add_of_le' (Nat.le_trans (by decide : 1 ≤ 2 * 4) enough)
      rfl
  | .bool true, depth, fuel, rest, _, enough => by
      obtain ⟨fuel, rfl⟩ := Nat.exists_eq_add_of_le' (Nat.le_trans (by decide : 1 ≤ 2 * 4) enough)
      rfl
  | .bool false, depth, fuel, rest, _, enough => by
      obtain ⟨fuel, rfl⟩ := Nat.exists_eq_add_of_le' (Nat.le_trans (by decide : 1 ≤ 2 * 5) enough)
      rfl
  | .number n, depth, fuel, rest, stops, enough => by
      obtain ⟨c, cs, text, -⟩ := indented_front (.number n) depth
      rw [text, List.length_cons] at enough
      obtain ⟨fuel, rfl⟩ := Nat.exists_eq_add_of_le' (show 1 ≤ fuel by omega)
      exact read?_numeric fuel n stops
  | .string s, depth, fuel, rest, _, enough => by
      have text : (Value.string s).indentedChars depth ++ rest =
          '"' :: (s.toList.flatMap escapeChar ++ '"' :: rest) := by
        simp [Value.indentedChars, quoted]
      rw [Value.indentedChars, quoted, List.cons_append, List.length_cons] at enough
      obtain ⟨fuel, rfl⟩ := Nat.exists_eq_add_of_le' (show 1 ≤ fuel by omega)
      rw [text]
      change (text? _).map _ = _
      rw [text?_escaped]
      rfl
  | .array [], depth, fuel, rest, _, enough => by
      obtain ⟨fuel, rfl⟩ := Nat.exists_eq_add_of_le' (Nat.le_trans (by decide : 1 ≤ 2 * 2) enough)
      rfl
  | .array (v :: vs), depth, fuel, rest, _, enough => by
      obtain ⟨c, cs, text, solid, more⟩ := indented_front v (depth + 1)
      rw [array_text] at enough ⊢
      simp only [List.length_cons, List.length_append] at enough
      obtain ⟨fuel, rfl⟩ := Nat.exists_eq_add_of_le' (show 1 ≤ fuel by omega)
      have items := items?_indented (v :: vs) (depth + 1) depth fuel rest (List.cons_ne_nil _ _)
        (by omega)
      rw [listedItems, text] at items ⊢
      simp only [List.cons_append, List.append_assoc, List.nil_append] at items ⊢
      rw [read?_array (skipBlanks_close solid _ _) more, items]
      rfl
  | .object [], depth, fuel, rest, _, enough => by
      obtain ⟨fuel, rfl⟩ := Nat.exists_eq_add_of_le' (Nat.le_trans (by decide : 1 ≤ 2 * 2) enough)
      rfl
  | .object ((k, v) :: ms), depth, fuel, rest, _, enough => by
      rw [object_text] at enough ⊢
      simp only [List.length_cons, List.length_append] at enough
      obtain ⟨fuel, rfl⟩ := Nat.exists_eq_add_of_le' (show 1 ≤ fuel by omega)
      have members := members?_indented ((k, v) :: ms) (depth + 1) depth fuel rest
        (List.cons_ne_nil _ _) (by omega)
      rw [listedMembers, quoted] at members ⊢
      simp only [List.cons_append, List.append_assoc, List.nil_append] at members ⊢
      rw [read?_object (skipBlanks_close (by decide) _ _) (by decide), members]
      rfl

theorem items?_indented : ∀ (vs : List Value) (depth closing fuel : Nat) (rest : List Char),
    vs ≠ [] → 2 * (listedItems depth vs).length < fuel →
      items? fuel (listedItems depth vs ++ (newline closing ++ ']' :: rest)) =
        some (syntaxOfItems vs, rest)
  | [], _, _, _, _, some_item, _ => absurd rfl some_item
  | [v], depth, closing, fuel, rest, _, enough => by
      obtain ⟨fuel, rfl⟩ := Nat.exists_eq_add_of_le' (show 1 ≤ fuel by omega)
      rw [listedItems, indentedItems, List.append_nil] at enough ⊢
      have item := read?_indented v depth fuel (newline closing ++ ']' :: rest)
        (stops_newline _ _) (by omega)
      exact items?_last item (skipBlanks_close (by decide) _ _)
  | v :: w :: vs, depth, closing, fuel, rest, _, enough => by
      rw [listedItems_more] at enough ⊢
      simp only [List.length_cons, List.length_append] at enough
      obtain ⟨fuel, rfl⟩ := Nat.exists_eq_add_of_le' (show 1 ≤ fuel by omega)
      have others := items?_indented (w :: vs) depth closing fuel rest (List.cons_ne_nil _ _)
        (by omega)
      rw [← items?_skip fuel (skipBlanks_newline depth _)] at others
      have item := fun tail => read?_indented v depth fuel (',' :: tail) (stops_comma tail) (by omega)
      rw [List.append_assoc, List.cons_append, List.append_assoc]
      exact items?_more (item _) (skipBlanks_solid (by decide) _) others

theorem members?_indented : ∀ (ms : List (String × Value)) (depth closing fuel : Nat)
    (rest : List Char), ms ≠ [] → 2 * (listedMembers depth ms).length < fuel →
      members? fuel (listedMembers depth ms ++ (newline closing ++ '\x7d' :: rest)) =
        some (syntaxOfMembers ms, rest)
  | [], _, _, _, _, some_member, _ => absurd rfl some_member
  | [(k, v)], depth, closing, fuel, rest, _, enough => by
      simp only [listedMembers, indentedMembers, List.append_nil, List.length_append,
        List.length_cons] at enough
      obtain ⟨fuel, rfl⟩ := Nat.exists_eq_add_of_le' (show 1 ≤ fuel by omega)
      have item := read?_indented v depth fuel (newline closing ++ '\x7d' :: rest)
        (stops_newline _ _) (by omega)
      rw [← read?_blank] at item
      simp only [listedMembers, indentedMembers, List.append_nil, List.append_assoc, List.cons_append]
      exact members?_last item (skipBlanks_close (by decide) _ _)
  | (k, v) :: m :: ms, depth, closing, fuel, rest, _, enough => by
      rw [listedMembers_more] at enough ⊢
      simp only [List.length_cons, List.length_append] at enough
      obtain ⟨fuel, rfl⟩ := Nat.exists_eq_add_of_le' (show 1 ≤ fuel by omega)
      have others := members?_indented (m :: ms) depth closing fuel rest (List.cons_ne_nil _ _)
        (by omega)
      rw [← members?_skip fuel (skipBlanks_newline depth _)] at others
      have item := fun tail => (read?_blank fuel _).trans
        (read?_indented v depth fuel (',' :: tail) (stops_comma tail) (by omega))
      simp only [List.append_assoc, List.cons_append]
      exact members?_more (item _) (skipBlanks_solid (by decide) _) others
end

theorem parse?_indented (v : Value) : parse? v.indented = some v.toSyntax := by
  have stops : Stops [] := fun _ member => nomatch member
  have read := read?_indented v 0 (2 * (v.indentedChars 0).length + 2) [] stops (by omega)
  rw [List.append_nil] at read
  simp only [parse?, Value.indented, String.toList_ofList, read]
  rfl

end Syntax
end HeatStack.Json
