import HeatStack.Proofs.FatalDocuments

/-! # Clauses, read one by one

A clause is a mapping whose known fields are well formed, and the first rule among them is its constraint
(`Clause.Of`, `Clause.Gives`).  Nothing else gives one.  Beside that a clause is lost for the keys of its
mappings: one that is not a text, or a known name given twice under different tags (`Tidy`). -/
set_option autoImplicit false
namespace HeatStack.Template
open HeatStack.Number HeatStack.Text HeatStack.Yaml

/-! ## Fields -/

/-- A value other than null stands under the name, tags of the key aside. -/
def Given (m : List (Value × Value)) (name : String) (w : Value) : Prop :=
  ∃ e ∈ m, e.1.text? = some name ∧ e.2 = w ∧ w ≠ .null

/-- What a field has: nothing where it is missing or null, or what its value stands for. -/
def HasField {α : Type} (m : List (Value × Value)) (name : String) (Stands : Value → α → Prop) :
    Option α → Prop
  | none => ∀ w, ¬ Given m name w
  | some a => ∃ w, Given m name w ∧ Stands w a

/-- Every key is a text, and none of the names is given twice. -/
structure KeyedBy (names : List String) (m : List (Value × Value)) : Prop where
  texts : TextKeys m
  once : (m.filterMap fun e => e.1.text?.filter names.contains).Nodup

section
variable {α : Type} {names : List String} {m : List (Value × Value)} {fields : List (String × Value)}

theorem exists_fields?_iff_keyedBy :
    (∃ fields, (Value.mapping m).fields? names = some fields) ↔ KeyedBy names m := by
  rw [exists_fields?_iff]
  exact ⟨fun ⟨texts, once⟩ => ⟨texts, once⟩, fun keyed => ⟨keyed.texts, keyed.once⟩⟩

theorem lookup_iff_given (known : (Value.mapping m).fields? names = some fields) {name : String}
    (among : name ∈ names) (w : Value) :
    (fields.lookup name = some w ∧ w ≠ .null) ↔ Given m name w := by
  rw [lookup_fields?_iff known among]
  constructor
  · rintro ⟨⟨e, member, key, value⟩, filled⟩
    exact ⟨e, member, key, value, filled⟩
  · rintro ⟨e, member, key, value, filled⟩
    exact ⟨⟨e, member, key, value⟩, filled⟩

theorem Given.unique (known : (Value.mapping m).fields? names = some fields) {name : String}
    (among : name ∈ names) {w w' : Value} (there : Given m name w) (there' : Given m name w') : w = w' := by
  have found := ((lookup_iff_given known among w).mpr there).1
  have found' := ((lookup_iff_given known among w').mpr there').1
  exact Option.some.inj (found.symm.trans found')

/-- A field that is given and read has what is read of it. -/
theorem HasField.eq_some (known : (Value.mapping m).fields? names = some fields) {name : String}
    (among : name ∈ names) {read : Value → Option α} {o : Option α}
    (has : HasField m name (fun w a => read w = some a) o) {w : Value} {a : α} (there : Given m name w)
    (stands : read w = some a) : o = some a := by
  cases o with
  | none => exact absurd there (has w)
  | some b =>
      obtain ⟨w', there', stands'⟩ := has
      cases there.unique known among there'
      exact stands'.symm.trans stands

theorem optional?_iff_hasField (known : (Value.mapping m).fields? names = some fields) {name : String}
    (among : name ∈ names) (read : Value → Option α) (o : Option α) :
    Value.optional? fields name read = some o ↔ HasField m name (fun w a => read w = some a) o := by
  have given := lookup_iff_given known among
  constructor
  · intro taken
    cases o with
    | none =>
        intro w there
        obtain ⟨found, filled⟩ := (given w).mpr there
        have missing := (isSome_optional? taken).mpr ⟨w, found, filled⟩
        cases missing
    | some a =>
        obtain ⟨w, found, filled⟩ := (isSome_optional? taken).mp rfl
        refine ⟨w, (given w).mp ⟨found, filled⟩, ?_⟩
        rw [Value.optional?, found] at taken
        cases w <;> first | exact absurd rfl filled | simpa using taken
  · intro has
    cases o with
    | none =>
        unfold Value.optional?
        split
        · rfl
        · rfl
        · next w filled found => exact absurd ((given w).mp ⟨found, filled⟩) (has w)
    | some a =>
        obtain ⟨w, there, read⟩ := has
        obtain ⟨found, filled⟩ := (given w).mpr there
        unfold Value.optional?
        rw [found]
        cases w <;> first | exact absurd rfl filled | simp [read]

end

theorem fields?_untagged {v : Value} {m : List (Value × Value)} (mapping : v.untagged = .mapping m)
    (names : List String) : v.fields? names = (Value.mapping m).fields? names := by
  have same : (Value.mapping m).untagged = .mapping m := rfl
  simp only [Value.fields?, Value.named?, mapping, same]

/-! ## Payloads -/

/-- The bounds in the value of a range or length; a null that carries a tag has none. -/
inductive HasBounds {α : Type} (read : Value → Option α) (w : Value) : Option α × Option α → Prop
  | nothing : w.untagged = .null → HasBounds read w (none, none)
  | mapping {n : List (Value × Value)} {lo hi : Option α} : w.untagged = .mapping n →
      HasField n "min" (fun w a => read w = some a) lo →
      HasField n "max" (fun w a => read w = some a) hi → HasBounds read w (lo, hi)

theorem bounds?_eq_some_iff {α : Type} (read : Value → Option α) (w : Value)
    (bounds : Option α × Option α) : Constraint.bounds? read w = some bounds ↔
      HasBounds read w bounds ∧ ∀ n, w.untagged = .mapping n → KeyedBy ["min", "max"] n := by
  have steps : Constraint.bounds? read w = some bounds ↔ ∃ fields,
      w.fields? ["min", "max"] = some fields ∧
        Value.optional? fields "min" read = some bounds.1 ∧
        Value.optional? fields "max" read = some bounds.2 := by
    obtain ⟨lo, hi⟩ := bounds
    simp [Constraint.bounds?, Option.bind_eq_some_iff]
  rw [steps]
  constructor
  · rintro ⟨fields, known, min, max⟩
    cases kind : w.untagged with
    | mapping n =>
        rw [fields?_untagged kind] at known
        have keyed := exists_fields?_iff_keyedBy.mp ⟨fields, known⟩
        refine ⟨.mapping kind ?_ ?_, ?_⟩
        · exact (optional?_iff_hasField known (by simp) read _).mp min
        · exact (optional?_iff_hasField known (by simp) read _).mp max
        · rintro _ ⟨⟩
          exact keyed
    | null =>
        simp only [Value.fields?, Value.named?, kind] at known
        cases known
        obtain ⟨lo, hi⟩ := bounds
        cases min
        cases max
        refine ⟨.nothing kind, fun n other => ?_⟩
        cases other
    | _ =>
        simp only [Value.fields?, Value.named?, kind] at known
        cases known
  · rintro ⟨has, keyed⟩
    cases has with
    | nothing kind =>
        refine ⟨[], ?_, rfl, rfl⟩
        simp [Value.fields?, Value.named?, kind]
    | mapping kind min max =>
        obtain ⟨fields, known⟩ := exists_fields?_iff_keyedBy.mpr (keyed _ kind)
        refine ⟨fields, (fields?_untagged kind _).trans known, ?_, ?_⟩
        · exact (optional?_iff_hasField known (by simp) read _).mpr min
        · exact (optional?_iff_hasField known (by simp) read _).mpr max

/-- Every known field of the mapping is missing, null or well formed, and stands in the clause. -/
structure Constraint.Clause.Of (m : List (Value × Value)) (c : Constraint.Clause) : Prop where
  description : HasField m "description" (fun w s => w.text? = some s) c.description
  allowedValues : HasField m "allowed_values" (fun w vs => w.items? = some vs) c.allowedValues
  range : HasField m "range" (HasBounds Value.float?) c.range
  length : HasField m "length" (HasBounds Value.word?) c.length
  allowedPattern : HasField m "allowed_pattern" (fun w s => w.text? = some s) c.allowedPattern
  customConstraint : HasField m "custom_constraint" (fun w s => w.text? = some s) c.customConstraint
  modulo : HasField m "modulo" (fun w v => w = v) c.modulo

/-- The keys are texts, in the clause and in its bounds, and no known name is given twice. -/
structure Tidy (m : List (Value × Value)) : Prop where
  keys : KeyedBy Constraint.Clause.names m
  bounds : ∀ name ∈ ["range", "length"], ∀ w n, Given m name w → w.untagged = .mapping n →
    KeyedBy ["min", "max"] n

/-- A field has bounds that are read, just where it has bounds and their keys are in order. -/
theorem hasField_bounds?_iff {α : Type} {m : List (Value × Value)} {fields : List (String × Value)}
    {names : List String} (known : (Value.mapping m).fields? names = some fields) {name : String}
    (among : name ∈ names) (read : Value → Option α) (o : Option (Option α × Option α)) :
    HasField m name (fun w a => Constraint.bounds? read w = some a) o ↔
      HasField m name (HasBounds read) o ∧
        ∀ w n, Given m name w → w.untagged = .mapping n → KeyedBy ["min", "max"] n := by
  simp only [HasField, bounds?_eq_some_iff]
  cases o with
  | none => exact ⟨fun missing => ⟨missing, fun w n there => absurd there (missing w)⟩, fun h => h.1⟩
  | some a =>
      constructor
      · rintro ⟨w, there, has, keyed⟩
        refine ⟨⟨w, there, has⟩, fun w' n there' kind => ?_⟩
        -- A name is given once, so the bounds looked at are those of the one value.
        cases there.unique known among there'
        exact keyed n kind
      · rintro ⟨⟨w, there, has⟩, keyed⟩
        exact ⟨w, there, has, fun n kind => keyed w n there kind⟩

theorem clause_of_fields {m : List (Value × Value)} {fields : List (String × Value)}
    (known : (Value.mapping m).fields? Constraint.Clause.names = some fields) (c : Constraint.Clause) :
    Constraint.Clause.ofValue? (.mapping m) = some c ↔ c.Of m ∧ Tidy m := by
  have among : ∀ name ∈ Constraint.Clause.names, ∀ {α : Type} (read : Value → Option α) (o : Option α),
      Value.optional? fields name read = some o ↔ HasField m name (fun w a => read w = some a) o :=
    fun name member _ read o => optional?_iff_hasField known member read o
  have steps : Constraint.Clause.ofValue? (.mapping m) = some c ↔
      Value.optional? fields "description" Value.text? = some c.description ∧
      Value.optional? fields "allowed_values" Value.items? = some c.allowedValues ∧
      Value.optional? fields "range" (Constraint.bounds? Value.float?) = some c.range ∧
      Value.optional? fields "length" (Constraint.bounds? Value.word?) = some c.length ∧
      Value.optional? fields "allowed_pattern" Value.text? = some c.allowedPattern ∧
      Value.optional? fields "custom_constraint" Value.text? = some c.customConstraint ∧
      Value.optional? fields "modulo" some = some c.modulo := by
    obtain ⟨description, values, range, length, pattern, custom, modulo⟩ := c
    simp [Constraint.Clause.ofValue?, known, Option.bind_eq_some_iff]
  have keys := exists_fields?_iff_keyedBy.mp ⟨fields, known⟩
  rw [steps, among _ (by decide), among _ (by decide), among _ (by decide), among _ (by decide),
    among _ (by decide), among _ (by decide), among _ (by decide),
    hasField_bounds?_iff known (by decide), hasField_bounds?_iff known (by decide)]
  simp only [Option.some.injEq]
  constructor
  · rintro ⟨description, values, ⟨range, one⟩, ⟨length, two⟩, pattern, custom, modulo⟩
    refine ⟨⟨description, values, range, length, pattern, custom, modulo⟩, keys, ?_⟩
    simpa using ⟨one, two⟩
  · rintro ⟨c, tidy⟩
    have bounds := tidy.bounds
    simp only [List.forall_mem_cons] at bounds
    exact ⟨c.description, c.allowedValues, ⟨c.range, bounds.1⟩, ⟨c.length, bounds.2.1⟩,
      c.allowedPattern, c.customConstraint, c.modulo⟩

/-! ## Rules -/

namespace Constraint

/-- The description of a clause: its own unless that is blank, or else the one made from the rule. -/
def Clause.Describes (c : Clause) (made d : String) : Prop :=
  (c.description = some d ∧ allBlank d = false) ∨
    (∀ own, c.description = some own → allBlank own = true) ∧ d = made

/-- The constraint of a clause is the first rule that it names. -/
inductive Clause.Gives (c : Clause) : Constraint → Prop
  | allowedValues {items : List Value} {d : String} : c.allowedValues = some items →
      c.Describes ("allowed values: " ++ String.intercalate ", " (items.map Value.text)) d →
      c.Gives (.allowedValues (items.map Value.text) d)
  | range {min max : Option Binary64} {d : String} : c.allowedValues = none →
      c.range = some (min, max) → (min.isSome ∨ max.isSome) →
      c.Describes (describeBounds "value" (min.map fun x => NumberStyle.plain.text x)
        (max.map fun x => NumberStyle.plain.text x)) d →
      c.Gives (.range min max d)
  | length {min max : Option UInt64} {d : String} : c.allowedValues = none → c.range = none →
      c.length = some (min, max) → (min.isSome ∨ max.isSome) →
      c.Describes (describeBounds "length" (min.map fun n => toString n.toNat)
        (max.map fun n => toString n.toNat)) d →
      c.Gives (.length min max d)
  | allowedPattern {pattern d : String} : c.allowedValues = none → c.range = none → c.length = none →
      c.allowedPattern = some pattern → (fullMatch? pattern).isSome →
      c.Describes ("must match pattern " ++ pattern) d → c.Gives (.allowedPattern pattern d)
  | customConstraint {name d : String} : c.allowedValues = none → c.range = none → c.length = none →
      c.allowedPattern = none → c.customConstraint = some name →
      c.Describes ("custom constraint " ++ name) d → c.Gives (.custom name d)
  | modulo {v : Value} {d : String} : c.allowedValues = none → c.range = none → c.length = none →
      c.allowedPattern = none → c.customConstraint = none → c.modulo = some v →
      c.Describes "modulo constraint" d → c.Gives (.custom "modulo" d)

theorem Clause.describes_iff (c : Clause) (made d : String) :
    (c.description.filter fun d => !allBlank d).getD made = d ↔ c.Describes made d := by
  cases own : c.description with
  | none =>
      simp only [Describes, own, Option.filter_none, Option.getD_none]
      constructor
      · intro same
        exact .inr ⟨nofun, same.symm⟩
      · rintro (⟨there, -⟩ | ⟨-, same⟩)
        · cases there
        · exact same.symm
  | some text =>
      cases blank : allBlank text <;> grind [Describes, Option.filter]

theorem isSome_or_isSome {α : Type} {lo hi : Option α} (bounded : lo = none → hi = none → False) :
    lo.isSome ∨ hi.isSome := by
  cases lo <;> cases hi <;> simp_all

theorem Clause.constraint?_iff (c : Clause) (k : Constraint) :
    c.constraint? = some k ↔ c.Gives k := by
  constructor
  · intro given
    unfold constraint? at given
    dsimp only at given
    split at given
    · cases given
      exact .allowedValues ‹_› ((c.describes_iff _ _).mp rfl)
    · cases given
    · next bounded _ _ =>
        cases given
        exact .range ‹_› ‹_› (isSome_or_isSome bounded) ((c.describes_iff _ _).mp rfl)
    · cases given
    · next bounded _ _ _ =>
        cases given
        exact .length ‹_› ‹_› ‹_› (isSome_or_isSome bounded) ((c.describes_iff _ _).mp rfl)
    · simp only [Option.map_eq_some_iff] at given
      obtain ⟨e, parsed, rfl⟩ := given
      exact .allowedPattern ‹_› ‹_› ‹_› ‹_› (by simp [parsed]) ((c.describes_iff _ _).mp rfl)
    · cases given
      exact .customConstraint ‹_› ‹_› ‹_› ‹_› ‹_› ((c.describes_iff _ _).mp rfl)
    · cases given
      exact .modulo ‹_› ‹_› ‹_› ‹_› ‹_› ‹_› ((c.describes_iff _ _).mp rfl)
    · cases given
  · intro gives
    cases gives with
    | allowedValues values described =>
        simp [constraint?, values, (c.describes_iff _ _).mpr described]
    | @range min max d noValues range bounded described =>
        have := (c.describes_iff _ _).mpr described
        cases min <;> cases max <;> simp_all [constraint?]
    | @length min max d noValues noRange length bounded described =>
        have := (c.describes_iff _ _).mpr described
        cases min <;> cases max <;> simp_all [constraint?]
    | allowedPattern noValues noRange noLength pattern parsed described =>
        obtain ⟨e, parsed⟩ := Option.isSome_iff_exists.mp parsed
        simp [constraint?, noValues, noRange, noLength, pattern, parsed,
          (c.describes_iff _ _).mpr described]
    | customConstraint noValues noRange noLength noPattern name described =>
        simp [constraint?, noValues, noRange, noLength, noPattern, name,
          (c.describes_iff _ _).mpr described]
    | modulo noValues noRange noLength noPattern noCustom v described =>
        simp [constraint?, noValues, noRange, noLength, noPattern, noCustom, v,
          (c.describes_iff _ _).mpr described]

/-! ## Entries -/

/-- An entry that is a mapping, its tags aside, whose known fields are well formed and name a rule. -/
def Yields (v : Value) (k : Constraint) : Prop :=
  ∃ m c, v.untagged = .mapping m ∧ Clause.Of m c ∧ c.Gives k

/-- One constraint for each entry that yields one, in their order, and nothing for the others. -/
inductive Collected : List Value → List Constraint → Prop
  | nil : Collected [] []
  | kept {v : Value} {vs : List Value} {k : Constraint} {ks : List Constraint} :
      Yields v k → Collected vs ks → Collected (v :: vs) (k :: ks)
  | skipped {v : Value} {vs : List Value} {ks : List Constraint} :
      (∀ k, ¬ Yields v k) → Collected vs ks → Collected (v :: vs) ks

theorem Clause.ofValue?_untagged {v : Value} {m : List (Value × Value)} (mapping : v.untagged = .mapping m) :
    Clause.ofValue? v = Clause.ofValue? (.mapping m) := by
  simp only [Clause.ofValue?, fields?_untagged mapping]

theorem ofValue?_of_mapping {v : Value} {m : List (Value × Value)} (mapping : v.untagged = .mapping m)
    (k : Constraint) : ofValue? v = some k ↔ Tidy m ∧ ∃ c, Clause.Of m c ∧ c.Gives k := by
  rw [ofValue?, Clause.ofValue?_untagged mapping, Option.bind_eq_some_iff]
  constructor
  · rintro ⟨c, read, given⟩
    obtain ⟨fields, known, -⟩ := Option.bind_eq_some_iff.mp read
    obtain ⟨of, tidy⟩ := (clause_of_fields known c).mp read
    exact ⟨tidy, c, of, c.constraint?_iff k |>.mp given⟩
  · rintro ⟨tidy, c, of, gives⟩
    obtain ⟨fields, known⟩ := exists_fields?_iff_keyedBy.mpr tidy.keys
    exact ⟨c, (clause_of_fields known c).mpr ⟨of, tidy⟩, c.constraint?_iff k |>.mpr gives⟩

theorem ofValue?_of_no_mapping {v : Value} (other : ∀ m, v.untagged ≠ .mapping m) : ofValue? v = none := by
  cases kind : v.untagged with
  | mapping m => exact absurd kind (other m)
  | null =>
      -- Null is read as a clause without fields, and that names no rule.
      have fields : v.fields? Clause.names = some [] := by simp [Value.fields?, Value.named?, kind]
      simp [ofValue?, Clause.ofValue?, fields, Value.optional?, Clause.constraint?]
  | _ => simp [ofValue?, Clause.ofValue?, Value.fields?, Value.named?, kind]

theorem ofValue?_iff_yields (v : Value) (k : Constraint) :
    ofValue? v = some k ↔ Yields v k ∧ ∀ m, v.untagged = .mapping m → Tidy m := by
  constructor
  · intro given
    by_cases mapping : ∃ m, v.untagged = .mapping m
    · obtain ⟨m, kind⟩ := mapping
      obtain ⟨tidy, c, of, gives⟩ := (ofValue?_of_mapping kind k).mp given
      refine ⟨⟨m, c, kind, of, gives⟩, fun n same => ?_⟩
      cases kind.symm.trans same
      exact tidy
    · rw [ofValue?_of_no_mapping (not_exists.mp mapping)] at given
      cases given
  · rintro ⟨⟨m, c, kind, of, gives⟩, tidy⟩
    exact (ofValue?_of_mapping kind k).mpr ⟨tidy m kind, c, of, gives⟩

theorem collected_iff {entries : List Value}
    (tidy : ∀ v ∈ entries, ∀ m, v.untagged = .mapping m → Tidy m) (ks : List Constraint) :
    ofValues entries = ks ↔ Collected entries ks := by
  induction entries generalizing ks with
  | nil =>
      constructor
      · rintro rfl
        exact .nil
      · rintro ⟨⟩
        rfl
  | cons v vs ih =>
      have here : ∀ k, ofValue? v = some k ↔ Yields v k := fun k =>
        (ofValue?_iff_yields v k).trans (and_iff_left (tidy v List.mem_cons_self))
      have rest := ih fun w among => tidy w (List.mem_cons_of_mem _ among)
      cases given : ofValue? v with
      | none =>
          have nothing : ∀ k, ¬ Yields v k := fun k yields => by
            rw [(here k).mpr yields] at given
            cases given
          simp only [ofValues, List.filterMap_cons, given]
          constructor
          · intro collected
            exact .skipped nothing ((rest ks).mp collected)
          · intro collected
            cases collected with
            | kept yields _ => exact absurd yields (nothing _)
            | skipped _ others => exact (rest ks).mpr others
      | some k =>
          have yields := (here k).mp given
          simp only [ofValues, List.filterMap_cons, given]
          constructor
          · rintro rfl
            exact .kept yields ((rest _).mp rfl)
          · intro collected
            cases collected with
            | kept yields' others =>
                have same := (here _).mpr yields'
                rw [given] at same
                cases same
                rw [← (rest _).mpr others]
                rfl
            | skipped none _ => exact absurd yields (none k)

/-! ## Descriptions -/

theorem allBlank_append (s t : String) : allBlank (s ++ t) = (allBlank s && allBlank t) := by
  simp [allBlank]

theorem not_allBlank_describeBounds (subject : String) (min max : Option String)
    (shown : allBlank subject = false) : allBlank (describeBounds subject min max) = false := by
  cases min <;> cases max <;> simp [describeBounds, allBlank_append, shown]

/-- A clause describes its constraint, and a made description begins with a word. -/
theorem Clause.description_of_gives {c : Clause} {k : Constraint} (gives : c.Gives k) :
    ∃ made, allBlank made = false ∧ c.Describes made k.description := by
  have named : ∀ word rest : String, allBlank word = false → allBlank (word ++ rest) = false := by
    intro word rest shown
    rw [allBlank_append, shown, Bool.false_and]
  cases gives with
  | allowedValues _ described => exact ⟨_, named _ _ (by decide), described⟩
  | range _ _ _ described => exact ⟨_, not_allBlank_describeBounds _ _ _ (by decide), described⟩
  | length _ _ _ _ described => exact ⟨_, not_allBlank_describeBounds _ _ _ (by decide), described⟩
  | allowedPattern _ _ _ _ _ described => exact ⟨_, named _ _ (by decide), described⟩
  | customConstraint _ _ _ _ _ described => exact ⟨_, named _ _ (by decide), described⟩
  | modulo _ _ _ _ _ _ described => exact ⟨_, by decide, described⟩

theorem description_of_ofValue? {v : Value} {k : Constraint} (given : ofValue? v = some k) :
    allBlank k.description = false ∧
      ∀ m w own, v.untagged = .mapping m → Given m "description" w → w.text? = some own →
        allBlank own = false → k.description = own := by
  obtain ⟨⟨m, c, kind, of, gives⟩, tidy⟩ := (ofValue?_iff_yields v k).mp given
  obtain ⟨made, shown, described⟩ := Clause.description_of_gives gives
  refine ⟨?_, fun n w own kind' there text filled => ?_⟩
  · rcases described with ⟨-, filled⟩ | ⟨-, same⟩
    · exact filled
    · rw [same, shown]
  · cases kind.symm.trans kind'
    obtain ⟨fields, known⟩ := exists_fields?_iff_keyedBy.mpr (tidy m kind).keys
    have own' := of.description.eq_some known (by decide) there text
    rcases described with ⟨same, -⟩ | ⟨blank, -⟩
    · exact Option.some.inj (same.symm.trans own')
    · cases filled.symm.trans (blank own own')

end Constraint

/-- Entries are read one by one, and only a mapping with a rule and well-formed fields is kept. -/
theorem clauses_read_in_order (entries : List Value)
    (tidy : ∀ v ∈ entries, ∀ m, v.untagged = .mapping m → Tidy m) :
    (∀ ks, Constraint.ofValues entries = ks ↔ Constraint.Collected entries ks) ∧
    (∀ v k, Constraint.ofValue? v = some k ↔
      Constraint.Yields v k ∧ ∀ m, v.untagged = .mapping m → Tidy m) ∧
    (∀ v, (∀ m, v.untagged ≠ .mapping m) → Constraint.ofValue? v = none) ∧
    (∀ before v after, Constraint.ofValues (before ++ v :: after) =
      Constraint.ofValues before ++ (Constraint.ofValue? v).toList ++ Constraint.ofValues after) ∧
    (∀ v k, Constraint.ofValue? v = some k → allBlank k.description = false ∧
      ∀ m w own, v.untagged = .mapping m → Given m "description" w → w.text? = some own →
        allBlank own = false → k.description = own) := by
  refine ⟨Constraint.collected_iff tidy, Constraint.ofValue?_iff_yields,
    fun v => Constraint.ofValue?_of_no_mapping, fun before v after => ?_,
    fun v k => Constraint.description_of_ofValue?⟩
  cases given : Constraint.ofValue? v <;> simp [Constraint.ofValues, given]

theorem clauses_read_in_order_length :
    Constraint.Collected
      [.string "length", .mapping [(.string "length", .mapping [(.string "min", .number (.integer 2))])]]
      [.length (some 2) none "length must be at least 2"] := by
  have tidy : ∀ v ∈ [Value.string "length",
      .mapping [(.string "length", .mapping [(.string "min", .number (.integer 2))])]],
      ∀ m, v.untagged = .mapping m → Tidy m := by
    intro v among m kind
    simp only [List.mem_cons, List.not_mem_nil, or_false] at among
    rcases among with rfl | rfl
    · cases kind
    · cases kind
      refine ⟨⟨by simp [TextKeys, Value.text?, Value.untagged], by decide⟩, ?_⟩
      intro name among w n there kind
      obtain ⟨e, member, -, rfl, -⟩ := there
      cases List.mem_singleton.mp member
      cases kind
      exact ⟨by simp [TextKeys, Value.text?, Value.untagged], by decide⟩
  exact ((clauses_read_in_order _ tidy).1 _).mp rfl

/-- A clause beside whose rule stands a boolean as a key. -/
def flaggedClause : Value :=
  .mapping [(.string "custom_constraint", .string "x"), (.bool true, .string "y")]

def flaggedNode {ref : Type} : Node ref :=
  .sequence .none [.mapping .none
    [(.scalar .none false "custom_constraint", .scalar .none false "x"),
      (.scalar .none true "true", .scalar .none false "y")]]

def flaggedSource : String := "- \x7b\"custom_constraint\": \"x\", true: \"y\"\x7d\n"

/-- The clause names a rule with a well-formed field, and it is lost. -/
theorem flaggedClause_lost :
    Value.parse? flaggedSource = some (.sequence [flaggedClause]) ∧
    Constraint.Yields flaggedClause (.custom "x" "custom constraint x") ∧
    Constraint.ofValues [flaggedClause] = [] := by
  refine ⟨?_, ?_, ?_⟩
  · have tokens : tokens? flaggedSource = some [.blockSequenceStart, .blockEntry, .flowMappingStart,
        .key, .scalar false "custom_constraint", .value, .scalar false "x", .flowEntry,
        .key, .scalar true "true", .value, .scalar false "y", .flowMappingEnd, .blockEnd] := by
      decide +kernel
    exact parse?_of_stages flaggedNode flaggedNode ⟨[], [], 8⟩ tokens (by cbv) (by cbv) (by cbv)
  · refine ⟨_, ⟨none, none, none, none, none, some "x", none⟩, rfl, ?_, ?_⟩
    · constructor <;> simp [HasField, Given, Value.text?, Value.untagged]
    · exact .customConstraint rfl rfl rfl rfl rfl (.inr ⟨by simp, rfl⟩)
  · decide +kernel

end HeatStack.Template
