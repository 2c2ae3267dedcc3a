import HeatStack.Proofs.DeclaredDefaults
import HeatStack.Proofs.TextParts

/-! # Lists that are joined and split

The default of a list is its items joined by commas, and a check splits the value at its commas again.
Splitting undoes joining up to items that are themselves several or none (`listItems_join`), and what has
been split once stays as it is. -/
set_option autoImplicit false
namespace HeatStack.Text

theorem trimRight_eq (cs : List Char) : trimRight cs = cs.rdropWhile isBlank := rfl

/-- Where the blanks at the front are gone, taking off those at the end brings none back. -/
theorem trimLeft_trimRight {cs : List Char} (front : trimLeft cs = cs) :
    trimLeft (trimRight cs) = trimRight cs := by
  have part : trimRight cs <+: cs := List.rdropWhile_prefix isBlank cs
  cases ends : trimRight cs with
  | nil => rfl
  | cons c r =>
      obtain ⟨t, rfl⟩ := ends ▸ part
      rw [trimLeft, List.cons_append, List.dropWhile_cons] at front
      split at front
      · have shorter := congrArg List.length front
        have most := (List.dropWhile_suffix isBlank (l := r ++ t)).length_le
        simp at shorter
        simp at most
        omega
      · next solid => rw [trimLeft, List.dropWhile_cons, if_neg solid]

theorem trimChars_trimChars (cs : List Char) : trimChars (trimChars cs) = trimChars cs := by
  have front : trimLeft (trimLeft cs) = trimLeft cs := List.dropWhile_idempotent ..
  rw [trimChars, trimChars, trimLeft_trimRight front, trimRight_eq, trimRight_eq,
    List.rdropWhile_idempotent]

theorem mem_of_mem_trimChars {c : Char} {cs : List Char} (member : c ∈ trimChars cs) : c ∈ cs := by
  have kept : c ∈ trimLeft cs := (List.rdropWhile_prefix isBlank _).subset member
  exact (List.dropWhile_suffix isBlank).subset kept

end HeatStack.Text

namespace HeatStack.Template
open HeatStack.Text HeatStack.Yaml

/-! ## Splitting -/

def itemsOf (cs : List Char) : List (List Char) :=
  ((splitOn ',' cs).map trimChars).filter fun cs => !cs.isEmpty

theorem listItems_eq (value : String) : listItems value = (itemsOf value.toList).map String.ofList := rfl

theorem itemsOf_append_comma (as bs : List Char) : itemsOf (as ++ ',' :: bs) = itemsOf as ++ itemsOf bs := by
  simp [itemsOf, splitOn_append_cons]

theorem listItems_join (xs : List String) :
    listItems (String.intercalate "," xs) = xs.flatMap listItems := by
  induction xs with
  | nil => rfl
  | cons x xs ih =>
      cases xs with
      | nil => simp [listItems_eq]
      | cons y ys =>
          rw [List.flatMap_cons, ← ih]
          simp [listItems_eq, String.toList_intercalate, itemsOf_append_comma]

/-- A text that is one item as it stands. -/
structure IsItem (s : String) : Prop where
  trimmed : trim s = s
  filled : s ≠ ""
  whole : ',' ∉ s.toList

theorem listItems_of_isItem {s : String} (item : IsItem s) : listItems s = [s] := by
  have trimmed : trimChars s.toList = s.toList := by
    have same := congrArg String.toList item.trimmed
    rwa [trim, String.toList_ofList] at same
  have filled : s.toList.isEmpty = false := by
    have some_char := item.filled
    simpa [List.isEmpty_iff] using some_char
  simp [listItems, splitOn_of_not_mem item.whole, trimmed, filled]

theorem isItem_of_mem {value s : String} (member : s ∈ listItems value) : IsItem s := by
  simp only [listItems_eq, itemsOf, List.mem_map, List.mem_filter] at member
  obtain ⟨_, ⟨⟨part, split, rfl⟩, filled⟩, rfl⟩ := member
  refine ⟨?_, ?_, ?_⟩
  · rw [trim, String.toList_ofList, trimChars_trimChars]
  · simpa using filled
  · rw [String.toList_ofList]
    exact fun comma => not_mem_of_mem_splitOn split (mem_of_mem_trimChars comma)

theorem listItems_items {xs : List String} (items : ∀ x ∈ xs, IsItem x) : xs.flatMap listItems = xs := by
  induction xs with
  | nil => rfl
  | cons x xs ih =>
      obtain ⟨first, others⟩ := List.forall_mem_cons.mp items
      rw [List.flatMap_cons, listItems_of_isItem first, ih others]
      rfl

/-- Items that have been split are split in the same way when they are joined again. -/
theorem listItems_rejoined (value : String) :
    listItems (String.intercalate "," (listItems value)) = listItems value := by
  rw [listItems_join]
  exact listItems_items fun _ member => isItem_of_mem member

/-! ## Checking -/

/-- The constraints that look at the items of a list. -/
def Constraint.OfItems (c : Constraint) : Prop := c.kind = .allowedValues ∨ c.kind = .length

theorem sameValue_list (allowed candidate : String) :
    Constraint.sameValue .commaDelimitedList allowed candidate = true ↔ allowed = candidate := by
  have list : (ValueType.commaDelimitedList == ValueType.number) = false := by decide
  simp [Constraint.sameValue, list]

theorem admits_allowedValues_iff (value : String) (values : List String) (description : String) :
    (Constraint.allowedValues values description).admits .commaDelimitedList value = true ↔
      ∀ s ∈ listItems value, s ∈ values := by
  simp [Constraint.admits, List.all_eq_true, List.any_eq_true, sameValue_list]

theorem admits_length_iff (value : String) (min max : Option UInt64) (description : String) :
    (Constraint.length min max description).admits .commaDelimitedList value = true ↔
      (∀ lo, min = some lo → lo.toNat ≤ (listItems value).length) ∧
        ∀ hi, max = some hi → (listItems value).length ≤ hi.toNat := by
  have measurable : ValueType.commaDelimitedList.isMeasurable = true := rfl
  cases min <;> cases max <;> simp [Constraint.admits, Constraint.measure, measurable]

/-- Such a constraint sees nothing of a list but its items. -/
theorem admits_congr_items {c : Constraint} (ofItems : c.OfItems) {v w : String}
    (same : listItems v = listItems w) :
    c.admits .commaDelimitedList v = c.admits .commaDelimitedList w := by
  rw [Bool.eq_iff_iff]
  cases c with
  | allowedValues values description => rw [admits_allowedValues_iff, admits_allowedValues_iff, same]
  | length min max description => rw [admits_length_iff, admits_length_iff, same]
  | range min max description => exact absurd ofItems (by simp [Constraint.OfItems, Constraint.kind])
  | allowedPattern pattern description =>
      exact absurd ofItems (by simp [Constraint.OfItems, Constraint.kind])
  | custom name description => exact absurd ofItems (by simp [Constraint.OfItems, Constraint.kind])

/-- What is checked of a list default that is given as a sequence: the pieces of the items' texts. -/
structure ListDefault (items : List Value) (value : String) : Prop where
  pieces : listItems value = (items.map Value.text).flatMap listItems
  counted : ∀ min max description,
    (Constraint.length min max description).admits .commaDelimitedList value = true ↔
      (∀ lo, min = some lo → lo.toNat ≤ ((items.map Value.text).flatMap listItems).length) ∧
        ∀ hi, max = some hi → ((items.map Value.text).flatMap listItems).length ≤ hi.toNat
  checked : ∀ values description,
    (Constraint.allowedValues values description).admits .commaDelimitedList value = true ↔
      ∀ s ∈ (items.map Value.text).flatMap listItems, s ∈ values
  kept : (∀ v ∈ items, IsItem v.text) → listItems value = items.map Value.text

theorem listDefault_join (items : List Value) :
    ListDefault items (String.intercalate "," (items.map Value.text)) := by
  have pieces := listItems_join (items.map Value.text)
  refine ⟨pieces, ?_, ?_, fun whole => ?_⟩
  · intro min max description
    rw [admits_length_iff, pieces]
  · intro values description
    rw [admits_allowedValues_iff, pieces]
  · rw [pieces]
    refine listItems_items fun s member => ?_
    obtain ⟨v, inside, rfl⟩ := List.mem_map.mp member
    exact whole v inside

/-- Splitting distributes over joining.  So a list default that is a sequence is checked by the pieces of its
items' texts, and a check of the items of a value is a check of the value. -/
theorem joined_lists_split :
    (∀ xs : List String, listItems (String.intercalate "," xs) = xs.flatMap listItems) ∧
    (∀ (t source name : String) (b : Bundle) (p : Parameter) (items : List Value),
      compile t source = .ok b → b.parameters.get? name = some p → p.type = .commaDelimitedList →
      Declares source name (.sequence items) →
      ∃ value, p.default = some value ∧ ListDefault items value) ∧
    ∀ (value : String) (c : Constraint), c.OfItems →
      (c.admits .commaDelimitedList value = true ↔
        c.admits .commaDelimitedList (String.intercalate "," (listItems value)) = true) := by
  refine ⟨listItems_join, ?_, ?_⟩
  · intro t source name b p items compiled found list declared
    have text := default_of_list compiled found declared list
    rw [defaultText?, if_pos rfl] at text
    exact ⟨_, text, listDefault_join items⟩
  · intro value c ofItems
    rw [admits_congr_items ofItems (listItems_rejoined value)]

/-- A template with one list, whose default has an item of two pieces and an empty one. -/
def listSource : String :=
  "\"parameters\": \x7b\"a\": \x7b\"type\": \"comma_delimited_list\", "
    ++ "\"default\": [\" x\", \"y,,z\", \"\"]\x7d\x7d\n"

def listTokens : List Token :=
  [.blockMappingStart, .key, .scalar false "parameters", .value,
    .flowMappingStart, .key, .scalar false "a", .value,
    .flowMappingStart, .key, .scalar false "type", .value, .scalar false "comma_delimited_list",
    .flowEntry, .key, .scalar false "default", .value, .flowSequenceStart, .scalar false " x",
    .flowEntry, .scalar false "y,,z", .flowEntry, .scalar false "", .flowSequenceEnd,
    .flowMappingEnd, .flowMappingEnd, .blockEnd]

def listNode {ref : Type} : Node ref :=
  let text (s : String) : Node ref := .scalar .none false s
  .mapping .none [(text "parameters", .mapping .none [(text "a", .mapping .none
    [(text "type", text "comma_delimited_list"),
      (text "default", .sequence .none [text " x", text "y,,z", text ""])])])]

def listEntry : Value :=
  .mapping [(.string "type", .string "comma_delimited_list"),
    (.string "default", .sequence [.string " x", .string "y,,z", .string ""])]

theorem ofText_listSource :
    Document.ofText listSource = .ok ⟨some [("a", listEntry)], none, none⟩ := by
  have tokens : tokens? listSource = some listTokens := by decide +kernel
  exact ofText_of_stages listNode listNode ⟨[], [], 16⟩
    [(.string "parameters", .mapping [(.string "a", listEntry)])]
    tokens (by cbv) (by cbv) (by cbv) (by cbv)

theorem joined_lists_split_pieces : ∃ b p value, compile "t" listSource = .ok b ∧
    b.parameters.get? "a" = some p ∧ p.default = some value ∧ listItems value = ["x", "y", "z"] ∧
    (Constraint.length (some 3) (some 3) "").admits .commaDelimitedList
      (String.intercalate "," (listItems value)) = true := by
  have mentioned : (Sections.mentioned listSource).any = true := by decide +kernel
  have compiled := compile_of_mentioned mentioned ofText_listSource "t"
  have declared : Declares listSource "a" (.sequence [.string " x", .string "y,,z", .string ""]) :=
    ⟨_, listEntry, _, ofText_listSource, ⟨[], [], rfl, fun _ member => nomatch member⟩, rfl, rfl⟩
  have found : ((Document.mk (some [("a", listEntry)]) none none).bundle "t" listSource).parameters.get? "a" =
      some (Parameter.ofEntry "a" listEntry) := by
    rw [Document.bundle, get?_entryTable]
    rfl
  have list : (Parameter.ofEntry "a" listEntry).type = .commaDelimitedList := by cbv
  obtain ⟨value, default, split⟩ :=
    joined_lists_split.2.1 "t" listSource "a" _ _ _ compiled found list declared
  have three : listItems value = ["x", "y", "z"] := by
    rw [split.pieces]
    decide +kernel
  refine ⟨_, _, value, compiled, found, default, three, ?_⟩
  rw [← joined_lists_split.2.2 value _ (.inr rfl), admits_length_iff, three]
  simp

end HeatStack.Template
