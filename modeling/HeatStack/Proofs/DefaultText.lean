import HeatStack.Template.Document

/-! # Which defaults have a text

A collection is written as JSON, and so has no text where a key within it has no JSON name.  A list of
texts is written item by item, and everything else but null always has one. -/
set_option autoImplicit false
namespace HeatStack.Yaml.Value
open HeatStack.Number

/-- Keys that JSON has no name for. -/
inductive Nameless : Value → Prop
  | null : Nameless .null
  | infinite (x : Binary64) : x.isFinite = false → Nameless (.number (.binary x))
  | sequence (items : List Value) : Nameless (.sequence items)
  | mapping (entries : List (Value × Value)) : Nameless (.mapping entries)
  | tagged (t : String) (v : Value) : Nameless (.tagged t v)

/-- A key within the value, at any depth, has no JSON name. -/
inductive HasNameless : Value → Prop
  | key {entries : List (Value × Value)} {e : Value × Value} :
      e ∈ entries → Nameless e.1 → HasNameless (.mapping entries)
  | entry {entries : List (Value × Value)} {e : Value × Value} :
      e ∈ entries → HasNameless e.2 → HasNameless (.mapping entries)
  | item {items : List Value} {v : Value} :
      v ∈ items → HasNameless v → HasNameless (.sequence items)
  | tagged {t : String} {v : Value} : HasNameless v → HasNameless (.tagged t v)

theorem keyName?_eq_none_iff (k : Value) : k.keyName? = none ↔ k.Nameless := by
  constructor
  · intro none
    unfold keyName? at none
    split at none
    · cases none
    · cases none
    · cases none
    · next x =>
        split at none
        · cases none
        · next infinite => exact .infinite x (Bool.eq_false_iff.mpr infinite)
    · next noString noBool noInteger noBinary =>
        cases k with
        | null => exact .null
        | bool b => exact absurd rfl (noBool b)
        | number n =>
            cases n with
            | integer n => exact absurd rfl (noInteger n)
            | binary x => exact absurd rfl (noBinary x)
        | string s => exact absurd rfl (noString s)
        | sequence items => exact .sequence items
        | mapping entries => exact .mapping entries
        | tagged t v => exact .tagged t v
  · intro nameless
    cases nameless with
    | infinite x infinite => simp only [keyName?, infinite, Bool.false_eq_true, if_false]
    | _ => rfl

mutual
theorem toJson?_eq_none_iff : ∀ v : Value, v.toJson? = none ↔ v.HasNameless
  | .null => ⟨nofun, nofun⟩
  | .bool _ => ⟨nofun, nofun⟩
  | .number _ => ⟨nofun, nofun⟩
  | .string _ => ⟨nofun, nofun⟩
  | .sequence items => by
      rw [toJson?, Option.map_eq_none_iff, jsonItems?_eq_none_iff items]
      constructor
      · rintro ⟨v, member, nameless⟩
        exact .item member nameless
      · rintro (_ | _ | ⟨member, nameless⟩)
        exact ⟨_, member, nameless⟩
  | .mapping entries => by
      rw [toJson?, Option.map_eq_none_iff, jsonMembers?_eq_none_iff entries]
      constructor
      · rintro ⟨e, member, key | entry⟩
        · exact .key member key
        · exact .entry member entry
      · intro nameless
        cases nameless with
        | key member key => exact ⟨_, member, .inl key⟩
        | entry member entry => exact ⟨_, member, .inr entry⟩
  | .tagged t v => by
      rw [toJson?, Option.map_eq_none_iff, toJson?_eq_none_iff v]
      constructor
      · exact .tagged
      · intro nameless
        cases nameless with
        | tagged inner => exact inner

theorem jsonItems?_eq_none_iff : ∀ vs : List Value,
    jsonItems? vs = none ↔ ∃ v ∈ vs, v.HasNameless
  | [] => ⟨nofun, nofun⟩
  | v :: rest => by
      have first := toJson?_eq_none_iff v
      have others := jsonItems?_eq_none_iff rest
      simp only [List.mem_cons, exists_eq_or_imp]
      rw [← first, ← others, jsonItems?]
      cases v.toJson? with
      | none => exact ⟨fun _ => .inl rfl, fun _ => rfl⟩
      | some j =>
          cases jsonItems? rest with
          | none => exact ⟨fun _ => .inr rfl, fun _ => rfl⟩
          | some js => exact ⟨nofun, nofun⟩

theorem jsonMembers?_eq_none_iff : ∀ es : List (Value × Value),
    jsonMembers? es = none ↔ ∃ e ∈ es, e.1.Nameless ∨ e.2.HasNameless
  | [] => ⟨nofun, nofun⟩
  | (k, v) :: rest => by
      have key := keyName?_eq_none_iff k
      have first := toJson?_eq_none_iff v
      have others := jsonMembers?_eq_none_iff rest
      simp only [List.mem_cons, exists_eq_or_imp]
      rw [← key, ← first, ← others, jsonMembers?]
      cases k.keyName? with
      | none => exact ⟨fun _ => .inl (.inl rfl), fun _ => rfl⟩
      | some name =>
          cases v.toJson? with
          | none => exact ⟨fun _ => .inl (.inr rfl), fun _ => rfl⟩
          | some j =>
              cases jsonMembers? rest with
              | none => exact ⟨fun _ => .inr rfl, fun _ => rfl⟩
              | some js => exact ⟨nofun, nofun⟩
end

theorem jsonText?_isSome_iff (v : Value) : v.jsonText?.isSome = true ↔ ¬ v.HasNameless := by
  rw [← toJson?_eq_none_iff, jsonText?, Option.isSome_map, Option.isSome_iff_ne_none]

end HeatStack.Yaml.Value

namespace HeatStack.Template
open HeatStack.Yaml

/-- The default has a text, as its type wants it. -/
inductive Renders (type : ValueType) : Value → Prop
  | bool (b : Bool) : Renders type (.bool b)
  | number (n : Number.Numeric) : Renders type (.number n)
  | string (s : String) : Renders type (.string s)
  | tagged (t : String) (v : Value) : Renders type (.tagged t v)
  | listed (items : List Value) : type = .commaDelimitedList → Renders type (.sequence items)
  | sequence (items : List Value) :
      ¬ (Value.sequence items).HasNameless → Renders type (.sequence items)
  | mapping (entries : List (Value × Value)) :
      ¬ (Value.mapping entries).HasNameless → Renders type (.mapping entries)

theorem defaultText?_isSome_iff (type : ValueType) (v : Value) :
    (defaultText? type v).isSome = true ↔ Renders type v := by
  cases v with
  | null => exact ⟨nofun, nofun⟩
  | bool b => exact ⟨fun _ => .bool b, fun _ => rfl⟩
  | number n => exact ⟨fun _ => .number n, fun _ => rfl⟩
  | string s => exact ⟨fun _ => .string s, fun _ => rfl⟩
  | tagged t v => exact ⟨fun _ => .tagged t v, fun _ => rfl⟩
  | sequence items =>
      by_cases list : type = .commaDelimitedList
      · refine ⟨fun _ => .listed items list, fun _ => ?_⟩
        simp only [defaultText?, if_pos list, Option.isSome_some]
      · simp only [defaultText?, if_neg list]
        rw [Value.jsonText?_isSome_iff]
        constructor
        · exact .sequence items
        · intro renders
          cases renders with
          | listed _ same => exact absurd same list
          | sequence _ named => exact named
  | mapping entries =>
      simp only [defaultText?]
      rw [Value.jsonText?_isSome_iff]
      constructor
      · exact .mapping entries
      · intro renders
        cases renders with
        | mapping _ named => exact named

/-! ## Declared defaults -/

def parameterKeys : List String :=
  ["type", "label", "description", "default", "hidden", "constraints"]

/-- The entry of a hidden parameter whose default is not null. -/
structure HiddenDefault (name : String) (entry : Value) (p : Parameter) (default : Value) : Prop where
  decoded : Parameter.ofEntry? name entry = some p
  hidden : p.hidden = true
  declared : ∃ fields, entry.fields? parameterKeys = some fields ∧ fields.lookup "default" = some default
  filled : default ≠ .null

theorem optional?_eq_some_iff {fields : List (String × Value)} {name : String} {o : Option Value}
    (read : Value.optional? fields name some = some o) (v : Value) :
    o = some v ↔ fields.lookup name = some v ∧ v ≠ .null := by
  unfold Value.optional? at read
  split at read
  · next missing =>
      cases read
      exact ⟨nofun, fun ⟨found, _⟩ => nomatch missing.symm.trans found⟩
  · next null =>
      cases read
      refine ⟨nofun, fun ⟨found, filled⟩ => absurd ?_ filled⟩
      exact (Option.some.inj (null.symm.trans found)).symm
  · next w filled found =>
      cases read
      rw [found]
      constructor
      · rintro ⟨⟩
        exact ⟨rfl, filled⟩
      · exact fun ⟨same, _⟩ => same

/-- The default of a parameter is the text of what its entry declares. -/
theorem default_of_ofEntry? {name : String} {entry : Value} {p : Parameter}
    (decoded : Parameter.ofEntry? name entry = some p) :
    ∃ fields o, entry.fields? parameterKeys = some fields ∧
      Value.optional? fields "default" some = some o ∧ p.default = o.bind (defaultText? p.type) := by
  obtain ⟨fields, known, decoded⟩ := Option.bind_eq_some_iff.mp decoded
  obtain ⟨type, -, decoded⟩ := Option.bind_eq_some_iff.mp decoded
  obtain ⟨label, -, decoded⟩ := Option.bind_eq_some_iff.mp decoded
  obtain ⟨description, -, decoded⟩ := Option.bind_eq_some_iff.mp decoded
  obtain ⟨default, read, decoded⟩ := Option.bind_eq_some_iff.mp decoded
  obtain ⟨hidden, -, decoded⟩ := Option.bind_eq_some_iff.mp decoded
  obtain ⟨clauses, -, same⟩ := Option.bind_eq_some_iff.mp decoded
  cases same
  exact ⟨fields, default, known, read, rfl⟩

theorem HiddenDefault.default_eq {name : String} {entry w : Value} {p : Parameter}
    (h : HiddenDefault name entry p w) : p.default = defaultText? p.type w := by
  obtain ⟨fields, o, known, read, same⟩ := default_of_ofEntry? h.decoded
  obtain ⟨fields', known', found⟩ := h.declared
  cases known.symm.trans known'
  rw [same, (optional?_eq_some_iff read w).mpr ⟨found, h.filled⟩, Option.bind_some]

/-- A hidden parameter has a default just where its entry declares one that has a text. -/
theorem default_isSome_iff {name : String} {entry : Value} {p : Parameter}
    (decoded : Parameter.ofEntry? name entry = some p) (hidden : p.hidden = true) :
    p.default.isSome = true ↔ ∃ w, HiddenDefault name entry p w ∧ Renders p.type w := by
  constructor
  · intro filled
    obtain ⟨fields, o, known, read, same⟩ := default_of_ofEntry? decoded
    cases o with
    | none =>
        rw [same] at filled
        cases filled
    | some w =>
        obtain ⟨found, notNull⟩ := (optional?_eq_some_iff read w).mp rfl
        rw [same, Option.bind_some, defaultText?_isSome_iff] at filled
        exact ⟨w, ⟨decoded, hidden, ⟨fields, known, found⟩, notNull⟩, filled⟩
  · rintro ⟨w, declared, renders⟩
    rw [declared.default_eq, defaultText?_isSome_iff]
    exact renders

end HeatStack.Template
