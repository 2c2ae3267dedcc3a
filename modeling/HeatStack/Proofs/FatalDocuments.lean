import HeatStack.Proofs.SectionEntries

/-! # Which documents are refused

A mapping is refused if `parameters` or `outputs` has another shape than a mapping or null, and for
its keys: one that is not a text, at the top or in these two sections, or the name of a section given
twice under different tags.  No value of any entry matters (`mapping_compiles_iff`), and of the
entries at the top only those of the three sections show in the bundle. -/
set_option autoImplicit false
namespace HeatStack.Template
open HeatStack.Yaml

/-- The value stands under the name of the section, tags of the key aside. -/
def SectionAt (entries : List (Value × Value)) (k : SectionKind) (v : Value) : Prop :=
  ∃ e ∈ entries, e.1.text? = some k.name ∧ e.2 = v

/-- `parameters` and `outputs` are absent, null or a mapping. -/
def WellShaped (entries : List (Value × Value)) : Prop :=
  ∀ k v, k ≠ .tags → SectionAt entries k v → v.untagged = .null ∨ ∃ m, v.untagged = .mapping m

def TextKeys (entries : List (Value × Value)) : Prop := ∀ e ∈ entries, ∃ s, e.1.text? = some s

def sectionNames : List String := ["parameters", "outputs", "tags"]

/-- The keys are texts, at the top and in the sections of entries, and no section is named twice. -/
structure Keyed (entries : List (Value × Value)) : Prop where
  top : TextKeys entries
  inside : ∀ k v m, k ≠ .tags → SectionAt entries k v → v.untagged = .mapping m → TextKeys m
  once : (entries.filterMap fun e => e.1.text?.filter sectionNames.contains).Nodup

def Bundle.namesIn (b : Bundle) : SectionKind → List String
  | .parameters => b.parameters.keys
  | .outputs => b.outputs.keys
  | .tags => []

/-- Two bundles have the same in a section. -/
def Bundle.SameIn (a b : Bundle) : SectionKind → Prop
  | .parameters => a.parameters = b.parameters ∧ a.sections.parameters = b.sections.parameters
  | .outputs => a.outputs = b.outputs ∧ a.sections.outputs = b.sections.outputs
  | .tags => a.tags = b.tags ∧ a.sections.tags = b.sections.tags

theorem SectionKind.name_mem (k : SectionKind) : k.name ∈ sectionNames := by
  cases k <;> simp [name, sectionNames]

/-! ## Keys -/

theorem exists_mapM_iff {α β : Type} (f : α → Option β) (xs : List α) :
    (∃ ys, xs.mapM f = some ys) ↔ ∀ x ∈ xs, ∃ y, f x = some y := by
  induction xs with
  | nil => exact ⟨fun _ => nofun, fun _ => ⟨[], rfl⟩⟩
  | cons x xs ih =>
      rw [List.forall_mem_cons, ← ih, List.mapM_cons]
      constructor
      · rintro ⟨ys, read⟩
        obtain ⟨y, first, read⟩ := Option.bind_eq_some_iff.mp read
        obtain ⟨zs, later, -⟩ := Option.bind_eq_some_iff.mp read
        exact ⟨⟨y, first⟩, zs, later⟩
      · rintro ⟨⟨y, first⟩, zs, later⟩
        exact ⟨y :: zs, by rw [first, later]; rfl⟩

theorem exists_named?_iff (entries : List (Value × Value)) :
    (∃ named, (Value.mapping entries).named? = some named) ↔ TextKeys entries := by
  refine (exists_mapM_iff _ entries).trans (forall₂_congr fun e _ => ?_)
  cases key : e.1.text? <;> simp [key]

/-- The known names of a mapping, in the order of its entries. -/
theorem names_of_named? (names : List String) : ∀ (entries : List (Value × Value))
    (named : List (String × Value)), (Value.mapping entries).named? = some named →
      (named.filter fun e => names.contains e.1).map Prod.fst =
        entries.filterMap fun e => e.1.text?.filter names.contains := by
  intro entries
  induction entries with
  | nil =>
      intro named read
      cases read
      rfl
  | cons e entries ih =>
      intro named read
      change (e :: entries).mapM (fun e => e.1.text?.map fun k => (k, e.2)) = some named at read
      rw [List.mapM_cons] at read
      obtain ⟨first, text, read⟩ := Option.bind_eq_some_iff.mp read
      obtain ⟨others, rest, same⟩ := Option.bind_eq_some_iff.mp read
      obtain ⟨s, key, rfl⟩ := Option.map_eq_some_iff.mp text
      cases same
      rw [List.filterMap_cons, key, ← ih others rest, List.filter_cons]
      by_cases known : s ∈ names <;> simp [Option.filter, known]

theorem exists_fields?_iff (names : List String) (entries : List (Value × Value)) :
    (∃ fields, (Value.mapping entries).fields? names = some fields) ↔ TextKeys entries ∧
      (entries.filterMap fun e => e.1.text?.filter names.contains).Nodup := by
  rw [← exists_named?_iff]
  constructor
  · rintro ⟨fields, known⟩
    obtain ⟨named, read, known⟩ := Option.bind_eq_some_iff.mp known
    dsimp only at known
    split at known
    · next distinct =>
      rw [names_of_named? names entries named read] at distinct
      exact ⟨⟨named, read⟩, distinct⟩
    · cases known
  · rintro ⟨⟨named, read⟩, distinct⟩
    rw [← names_of_named? names entries named read] at distinct
    refine ⟨named.filter fun e => names.contains e.1, Option.bind_eq_some_iff.mpr ⟨named, read, ?_⟩⟩
    exact if_pos distinct

/-! ## Sections -/

theorem lookup_iff_sectionAt {entries : List (Value × Value)} {fields : List (String × Value)}
    (known : (Value.mapping entries).fields? sectionNames = some fields) (k : SectionKind) (v : Value) :
    fields.lookup k.name = some v ↔ SectionAt entries k v :=
  lookup_fields?_iff known k.name_mem v

theorem exists_entries_iff (v : Value) : (∃ named, v.named? = some named) ↔
    (v.untagged = .null ∨ ∃ m, v.untagged = .mapping m) ∧
      ∀ m, v.untagged = .mapping m → TextKeys m := by
  unfold Value.named?
  split
  · next m same =>
    rw [same]
    refine (exists_named?_iff m).trans ⟨fun texts => ⟨.inr ⟨m, rfl⟩, ?_⟩, fun given => given.2 m rfl⟩
    rintro _ ⟨⟩
    exact texts
  · next same => exact iff_of_true ⟨[], rfl⟩ ⟨.inl same, fun m mapping => nomatch same.symm.trans mapping⟩
  · next notMapping notNull =>
    refine iff_of_false nofun ?_
    rintro ⟨null | ⟨m, mapping⟩, -⟩
    · exact notNull null
    · exact notMapping m mapping

theorem exists_optional?_iff {α : Type} (fields : List (String × Value)) (name : String)
    (read : Value → Option α) : (∃ o, Value.optional? fields name read = some o) ↔
      ∀ w, fields.lookup name = some w → w ≠ .null → ∃ a, read w = some a := by
  rw [← Option.ne_none_iff_exists', ne_eq, optional?_eq_none_iff]
  push Not
  refine forall₃_congr fun w _ _ => ?_
  exact Option.ne_none_iff_exists'

/-- A section of entries can be read. -/
theorem exists_section_iff {entries : List (Value × Value)} {fields : List (String × Value)}
    (known : (Value.mapping entries).fields? sectionNames = some fields) (k : SectionKind) :
    (∃ o, Value.optional? fields k.name Value.named? = some o) ↔ ∀ v, SectionAt entries k v →
      (v.untagged = .null ∨ ∃ m, v.untagged = .mapping m) ∧
        ∀ m, v.untagged = .mapping m → TextKeys m := by
  simp only [exists_optional?_iff, exists_entries_iff, lookup_iff_sectionAt known]
  refine forall₂_congr fun v _ => ⟨fun given => ?_, fun given _ => given⟩
  by_cases null : v = .null
  · subst null
    exact ⟨.inl rfl, fun m mapping => nomatch mapping⟩
  · exact given null

theorem ofMapping?_eq_some {entries : List (Value × Value)} {fields : List (String × Value)}
    (known : (Value.mapping entries).fields? sectionNames = some fields) (d : Document) :
    Document.ofMapping? (.mapping entries) = some d ↔
      Value.optional? fields "parameters" Value.named? = some d.parameters ∧
      Value.optional? fields "outputs" Value.named? = some d.outputs ∧
      Value.optional? fields "tags" some = some d.tags := by
  have opened : (Value.mapping entries).fields? ["parameters", "outputs", "tags"] = some fields := known
  obtain ⟨parameters, outputs, tags⟩ := d
  simp only [Document.ofMapping?, opened, Option.bind_eq_bind, Option.bind_some,
    Option.bind_eq_some_iff, Option.some.injEq, Document.mk.injEq]
  constructor
  · rintro ⟨_, first, _, second, _, third, rfl, rfl, rfl⟩
    exact ⟨first, second, third⟩
  · rintro ⟨first, second, third⟩
    exact ⟨_, first, _, second, _, third, rfl, rfl, rfl⟩

theorem exists_ofMapping?_iff (entries : List (Value × Value)) :
    (∃ d, Document.ofMapping? (.mapping entries) = some d) ↔ WellShaped entries ∧ Keyed entries := by
  have fields := exists_fields?_iff sectionNames entries
  constructor
  · rintro ⟨d, read⟩
    obtain ⟨fields', known, -⟩ := Option.bind_eq_some_iff.mp read
    obtain ⟨parameters, outputs, -⟩ := (ofMapping?_eq_some known d).mp read
    have each : ∀ k : SectionKind, k ≠ .tags → ∀ v, SectionAt entries k v →
        (v.untagged = .null ∨ ∃ m, v.untagged = .mapping m) ∧
          ∀ m, v.untagged = .mapping m → TextKeys m := by
      intro k notTags
      cases k with
      | parameters => exact (exists_section_iff known .parameters).mp ⟨_, parameters⟩
      | outputs => exact (exists_section_iff known .outputs).mp ⟨_, outputs⟩
      | tags => exact absurd rfl notTags
    obtain ⟨top, once⟩ := fields.mp ⟨fields', known⟩
    exact ⟨fun k v notTags stands => (each k notTags v stands).1, top,
      fun k v m notTags stands => (each k notTags v stands).2 m, once⟩
  · rintro ⟨shaped, keyed⟩
    obtain ⟨fields', known⟩ := fields.mpr ⟨keyed.top, keyed.once⟩
    have each : ∀ k : SectionKind, k ≠ .tags → ∃ o, Value.optional? fields' k.name Value.named? = some o :=
      fun k notTags => (exists_section_iff known k).mpr fun v stands =>
        ⟨shaped k v notTags stands, fun m => keyed.inside k v m notTags stands⟩
    obtain ⟨parameters, first⟩ := each .parameters nofun
    obtain ⟨outputs, second⟩ := each .outputs nofun
    obtain ⟨tags, third⟩ := (exists_optional?_iff fields' "tags" some).mpr fun w _ _ => ⟨w, rfl⟩
    exact ⟨⟨parameters, outputs, tags⟩, (ofMapping?_eq_some known _).mpr ⟨first, second, third⟩⟩

/-! ## What shows in the bundle -/

theorem optional?_congr {α : Type} {fields others : List (String × Value)} {name : String}
    (same : ∀ w, w ≠ .null → (others.lookup name = some w ↔ fields.lookup name = some w))
    (read : Value → Option α) :
    Value.optional? others name read = Value.optional? fields name read := by
  -- Null and nothing are read alike, so that one side may have either.
  have nothing : ∀ l : List (String × Value), (∀ w, l.lookup name = some w → w = .null) →
      Value.optional? l name read = some none := by
    intro l null
    unfold Value.optional?
    split
    · rfl
    · rfl
    · next w filled found => exact absurd (null w found) filled
  by_cases filled : ∃ w, w ≠ .null ∧ fields.lookup name = some w
  · obtain ⟨w, notNull, found⟩ := filled
    unfold Value.optional?
    rw [found, (same w notNull).mpr found]
  · push Not at filled
    have null : ∀ w, fields.lookup name = some w → w = .null := by
      intro w found
      by_contra notNull
      exact filled w notNull found
    have null' : ∀ w, others.lookup name = some w → w = .null := by
      intro w found
      by_contra notNull
      exact filled w notNull ((same w notNull).mp found)
    rw [nothing fields null, nothing others null']

theorem ofText_mapping {source : String} {entries : List (Value × Value)} {d : Document}
    (parsed : Value.parse? source = some (.mapping entries)) :
    Document.ofText source = .ok d ↔ Document.ofMapping? (.mapping entries) = some d := by
  unfold Document.ofText
  rw [parsed]
  cases read : Document.ofMapping? (.mapping entries) <;> simp [read]

theorem document_of_compile {name source : String} {entries : List (Value × Value)} {b : Bundle}
    (mentioned : (Sections.mentioned source).any = true)
    (parsed : Value.parse? source = some (.mapping entries)) (compiled : compile name source = .ok b) :
    ∃ d, Document.ofMapping? (.mapping entries) = some d ∧ b = d.bundle name source := by
  rcases compile_eq_ok name source b compiled with ⟨unmentioned, -⟩ | ⟨-, d, decoded, rfl⟩
  · cases mentioned.symm.trans unmentioned
  · exact ⟨d, (ofText_mapping parsed).mp decoded, rfl⟩

/-- A name in a section stands in the bundle, whatever its value. -/
theorem mem_names {entries : List (Value × Value)} {d : Document}
    (read : Document.ofMapping? (.mapping entries) = some d) (name source : String) {k : SectionKind}
    {v : Value} {m : List (Value × Value)} {e : Value × Value} {n : String} (notTags : k ≠ .tags)
    (stands : SectionAt entries k v) (mapping : v.untagged = .mapping m) (member : e ∈ m)
    (key : e.1.text? = some n) : n ∈ (d.bundle name source).namesIn k := by
  obtain ⟨fields, known, -⟩ := Option.bind_eq_some_iff.mp read
  obtain ⟨parameters, outputs, -⟩ := (ofMapping?_eq_some known d).mp read
  have found := (lookup_iff_sectionAt known k v).mpr stands
  have listed : ∀ o, Value.optional? fields k.name Value.named? = some o →
      ∃ w, (n, w) ∈ o.getD [] := by
    intro o read
    have filled : v ≠ .null := by
      rintro rfl
      cases mapping
    have opened : Value.optional? fields k.name Value.named? = v.named?.map some := by
      unfold Value.optional?
      rw [found]
      cases v <;> first | rfl | exact absurd rfl filled
    obtain ⟨named, inside, rfl⟩ := Option.map_eq_some_iff.mp (opened.symm.trans read)
    unfold Value.named? at inside
    rw [mapping] at inside
    refine ⟨e.2, (mem_of_mapM _ m named inside _).mpr ⟨e, member, ?_⟩⟩
    change e.1.text?.map (fun k => (k, e.2)) = some (n, e.2)
    rw [key]
    rfl
  cases k with
  | parameters => exact (keys_entryTable Parameter.ofEntry _ n).mpr (listed _ parameters)
  | outputs => exact (keys_entryTable Output.ofEntry _ n).mpr (listed _ outputs)
  | tags => exact absurd rfl notTags

/-- A section of the bundle comes from the value at its key. -/
theorem agrees_of_sectionAt {entries others : List (Value × Value)} {d d' : Document}
    (read : Document.ofMapping? (.mapping entries) = some d)
    (read' : Document.ofMapping? (.mapping others) = some d') {k : SectionKind}
    (same : ∀ v, v ≠ .null → (SectionAt others k v ↔ SectionAt entries k v))
    (name source name' source' : String) :
    (d'.bundle name' source').SameIn (d.bundle name source) k := by
  obtain ⟨fields, known, -⟩ := Option.bind_eq_some_iff.mp read
  obtain ⟨fields', known', -⟩ := Option.bind_eq_some_iff.mp read'
  obtain ⟨parameters, outputs, tags⟩ := (ofMapping?_eq_some known d).mp read
  obtain ⟨parameters', outputs', tags'⟩ := (ofMapping?_eq_some known' d').mp read'
  have looked : ∀ w, w ≠ .null → (fields'.lookup k.name = some w ↔ fields.lookup k.name = some w) := by
    intro w filled
    rw [lookup_iff_sectionAt known, lookup_iff_sectionAt known', same w filled]
  have unchanged := unchanged_bundle d d' name source name' source'
  cases k with
  | parameters =>
      have equal := (parameters'.symm.trans (optional?_congr looked _)).trans parameters
      exact unchanged.parameterSection (Option.some.inj equal)
  | outputs =>
      have equal := (outputs'.symm.trans (optional?_congr looked _)).trans outputs
      exact unchanged.outputSection (Option.some.inj equal)
  | tags =>
      have equal := (tags'.symm.trans (optional?_congr looked _)).trans tags
      exact unchanged.tagSection (Option.some.inj equal)

/-- A mapping that mentions a section has a bundle just where `parameters` and `outputs` are null or
mappings and the keys are in order.  Every name in these two is then in the bundle, and each section of
the bundle comes from the value at its key alone. -/
theorem mapping_compiles_iff {source : String} {entries : List (Value × Value)}
    (mentioned : (Sections.mentioned source).any = true)
    (parsed : Value.parse? source = some (.mapping entries)) (name : String) :
    ((∃ b, compile name source = .ok b) ↔ WellShaped entries ∧ Keyed entries) ∧
    ∀ b, compile name source = .ok b →
      (∀ k v m e n, k ≠ .tags → SectionAt entries k v → v.untagged = .mapping m → e ∈ m →
        e.1.text? = some n → n ∈ b.namesIn k) ∧
      ∀ name' source' others b' k, (Sections.mentioned source').any = true →
        Value.parse? source' = some (.mapping others) → compile name' source' = .ok b' →
        (∀ v, v ≠ .null → (SectionAt others k v ↔ SectionAt entries k v)) → b'.SameIn b k := by
  refine ⟨?_, fun b compiled => ?_⟩
  · rw [← exists_ofMapping?_iff]
    constructor
    · rintro ⟨b, compiled⟩
      obtain ⟨d, read, -⟩ := document_of_compile mentioned parsed compiled
      exact ⟨d, read⟩
    · rintro ⟨d, read⟩
      exact ⟨_, compile_of_mentioned mentioned ((ofText_mapping parsed).mpr read) name⟩
  · obtain ⟨d, read, rfl⟩ := document_of_compile mentioned parsed compiled
    refine ⟨fun k v m e n => mem_names read name source, ?_⟩
    intro name' source' others b' k mentioned' parsed' compiled' same
    obtain ⟨d', read', rfl⟩ := document_of_compile mentioned' parsed' compiled'
    exact agrees_of_sectionAt read read' same name source name' source'

/-- A template with one parameter and a further entry. -/
def sourceBeside (other : String) : String :=
  "\"parameters\": \x7b\"a\": \x7b\x7d\x7d\n" ++ other ++ ": \"x\"\n"

def tokensBeside (plain : Bool) (other : String) : List Token :=
  [.blockMappingStart, .key, .scalar false "parameters", .value,
    .flowMappingStart, .key, .scalar false "a", .value, .flowMappingStart, .flowMappingEnd,
    .flowMappingEnd, .key, .scalar plain other, .value, .scalar false "x", .blockEnd]

def nodeBeside {ref : Type} (plain : Bool) (other : String) : Node ref :=
  .mapping .none [(.scalar .none false "parameters",
      .mapping .none [(.scalar .none false "a", .mapping .none [])]),
    (.scalar .none plain other, .scalar .none false "x")]

def entriesBeside (other : Value) : List (Value × Value) :=
  [(.string "parameters", .mapping [(.string "a", .mapping [])]), (other, .string "x")]

theorem sectionAt_entriesBeside {other v : Value} {k : SectionKind}
    (foreign : other.text? ≠ some k.name) (stands : SectionAt (entriesBeside other) k v) :
    v = .mapping [(.string "a", .mapping [])] := by
  obtain ⟨e, member, key, rfl⟩ := stands
  simp only [entriesBeside, List.mem_cons, List.not_mem_nil, or_false] at member
  rcases member with rfl | rfl
  · rfl
  · exact absurd key foreign

theorem wellShaped_entriesBeside {other : Value}
    (foreign : ∀ k : SectionKind, other.text? ≠ some k.name) : WellShaped (entriesBeside other) := by
  intro k v _ stands
  rw [sectionAt_entriesBeside (foreign k) stands]
  exact .inr ⟨_, rfl⟩

theorem parse?_sourceBeside_text :
    Value.parse? (sourceBeside "\"1\"") = some (.mapping (entriesBeside (.string "1"))) := by
  have tokens : tokens? (sourceBeside "\"1\"") = some (tokensBeside false "1") := by decide +kernel
  exact parse?_of_stages (nodeBeside false "1") (nodeBeside false "1") ⟨[], [], 10⟩ tokens
    (by cbv) (by cbv) (by cbv)

theorem parse?_sourceBeside_flag :
    Value.parse? (sourceBeside "true") = some (.mapping (entriesBeside (.bool true))) := by
  have tokens : tokens? (sourceBeside "true") = some (tokensBeside true "true") := by decide +kernel
  exact parse?_of_stages (nodeBeside true "true") (nodeBeside true "true") ⟨[], [], 10⟩ tokens
    (by cbv) (by cbv) (by cbv)

theorem mapping_compiles_iff_textKey :
    (Sections.mentioned (sourceBeside "\"1\"")).any = true ∧
    Value.parse? (sourceBeside "\"1\"") = some (.mapping (entriesBeside (.string "1"))) ∧
    ∃ b, compile "t" (sourceBeside "\"1\"") = .ok b ∧ "a" ∈ b.namesIn .parameters := by
  have mentioned : (Sections.mentioned (sourceBeside "\"1\"")).any = true := by decide +kernel
  obtain ⟨compiles, shown⟩ := mapping_compiles_iff mentioned parse?_sourceBeside_text "t"
  have foreign : ∀ k : SectionKind, (Value.string "1").text? ≠ some k.name := by
    intro k
    cases k <;> decide
  have keyed : Keyed (entriesBeside (.string "1")) := by
    refine ⟨?_, ?_, by decide⟩
    · intro e member
      simp only [entriesBeside, List.mem_cons, List.not_mem_nil, or_false] at member
      rcases member with rfl | rfl <;> exact ⟨_, rfl⟩
    · intro k v m _ stands mapping e member
      rw [sectionAt_entriesBeside (foreign k) stands] at mapping
      cases mapping
      cases List.mem_singleton.mp member
      exact ⟨_, rfl⟩
  obtain ⟨b, compiled⟩ := compiles.mpr ⟨wellShaped_entriesBeside foreign, keyed⟩
  refine ⟨mentioned, parse?_sourceBeside_text, b, compiled, ?_⟩
  exact (shown b compiled).1 .parameters _ _ _ "a" (by decide) ⟨_, List.mem_cons_self .., rfl, rfl⟩ rfl
    (List.mem_singleton_self _) rfl

/-- A boolean as a key beside the sections. -/
theorem flagKey_refused :
    (Sections.mentioned (sourceBeside "true")).any = true ∧
    Value.parse? (sourceBeside "true") = some (.mapping (entriesBeside (.bool true))) ∧
    WellShaped (entriesBeside (.bool true)) ∧
    compile "t" (sourceBeside "true") = .error (.invalid "t" .malformed) := by
  have mentioned : (Sections.mentioned (sourceBeside "true")).any = true := by decide +kernel
  have unread : Document.ofMapping? (.mapping (entriesBeside (.bool true))) = none := by
    cbv
  have foreign : ∀ k : SectionKind, (Value.bool true).text? ≠ some k.name := by
    intro k
    cases k <;> decide
  refine ⟨mentioned, parse?_sourceBeside_flag, wellShaped_entriesBeside foreign, ?_⟩
  unfold compile Document.ofText
  rw [mentioned, parse?_sourceBeside_flag]
  simp only [unread, Bool.not_true, Bool.false_eq_true, if_false]

end HeatStack.Template
