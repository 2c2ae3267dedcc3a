import HeatStack.Proofs.SecretMasking
import HeatStack.Proofs.SectionDetection

/-! # Bundles, entry by entry

Each parameter and each output of a bundle comes from its own entry in the document (`Populated`), so a
change of one entry shows nowhere else, and the order of the entries nowhere at all (`Unchanged`).  A
section counts as there if the mapping in the text has its key with a value other than null. -/
set_option autoImplicit false
namespace HeatStack.Template
open HeatStack.Yaml

/-- The value of the last entry with a name. -/
def bound? (entries : List (String × Value)) (name : String) : Option Value :=
  entries.reverse.lookup name

def Document.parameter? (d : Document) (name : String) : Option Value :=
  bound? (d.parameters.getD []) name

def Document.output? (d : Document) (name : String) : Option Value :=
  bound? (d.outputs.getD []) name

/-- Values by name as entries in some order, each name once. -/
structure Lists (entries : List (String × Value)) (value? : String → Option Value) : Prop where
  distinct : (entries.map Prod.fst).Nodup
  mem : ∀ name v, (name, v) ∈ entries ↔ value? name = some v

/-- The mapping in the text has the key, with a value other than null. -/
def Present (source name : String) : Prop :=
  ∃ entries e, Value.parse? source = some (.mapping entries) ∧ e ∈ entries ∧ e.1.text? = some name ∧
    e.2 ≠ .null

/-- A field of a known kind with a value of another kind. -/
def Misfit {α : Type} (v : Value) (name : String) (read : Value → Option α) : Prop :=
  ∃ fields w, v.fields? parameterKeys = some fields ∧ fields.lookup name = some w ∧ w ≠ .null ∧
    read w = none

/-- The entry of no parameter: not a mapping of fields, each of them once, or with a misfit among them. -/
inductive Undecodable (v : Value) : Prop
  | fields : v.fields? parameterKeys = none → Undecodable v
  | text (name : String) :
      name ∈ ["type", "label", "description"] → Misfit v name Value.text? → Undecodable v
  | flag : Misfit v "hidden" Value.flag? → Undecodable v
  | clauses : Misfit v "constraints" Value.items? → Undecodable v

/-- A bundle with the entries of a document. -/
structure Populated (name source : String) (d : Document) (b : Bundle) : Prop where
  sameName : b.name = name
  sameSource : b.source = source
  digest : b.fingerprint = fingerprint source
  parameterNames : ∀ n, n ∈ b.parameters.keys ↔ ∃ v, (n, v) ∈ d.parameters.getD []
  outputNames : ∀ n, n ∈ b.outputs.keys ↔ ∃ v, (n, v) ∈ d.outputs.getD []
  parameterName : ∀ n p, b.parameters.get? n = some p → p.name = n
  outputName : ∀ n o, b.outputs.get? n = some o → o.name = n
  parameter : ∀ n, b.parameters.get? n = (d.parameter? n).map (Parameter.ofEntry n)
  output : ∀ n, b.outputs.get? n = (d.output? n).map (Output.ofEntry n)
  /-- A malformed entry keeps its name. -/
  bare : ∀ n v, d.parameter? n = some v → Undecodable v →
    b.parameters.get? n = some (.bare n .string)
  /-- A malformed clause is lost alone. -/
  clauses : ∀ n v fields w items p, d.parameter? n = some v → ¬ Undecodable v →
    v.fields? parameterKeys = some fields → fields.lookup "constraints" = some w →
    w.items? = some items → b.parameters.get? n = some p →
    p.constraints = items.filterMap Constraint.ofValue?
  parameters : b.sections.parameters = true ↔ Present source "parameters"
  outputs : b.sections.outputs = true ↔ Present source "outputs"
  tags : b.sections.tags = true ↔ b.tags.isSome = true

/-- What two bundles share of their documents. -/
structure Unchanged (d d' : Document) (b b' : Bundle) : Prop where
  parameter : ∀ n, d'.parameter? n = d.parameter? n → b'.parameters.get? n = b.parameters.get? n
  output : ∀ n, d'.output? n = d.output? n → b'.outputs.get? n = b.outputs.get? n
  parameters : Lists (d'.parameters.getD []) d.parameter? → b'.parameters = b.parameters
  outputs : Lists (d'.outputs.getD []) d.output? → b'.outputs = b.outputs
  parameterSection : d'.parameters = d.parameters →
    b'.parameters = b.parameters ∧ b'.sections.parameters = b.sections.parameters
  outputSection : d'.outputs = d.outputs →
    b'.outputs = b.outputs ∧ b'.sections.outputs = b.sections.outputs
  tagSection : d'.tags = d.tags → b'.tags = b.tags ∧ b'.sections.tags = b.sections.tags
  sections : (∀ k, d'.has k = d.has k) → d'.tags = d.tags → b'.sections = b.sections

/-! ## Names and values -/

theorem exists_bound?_iff (entries : List (String × Value)) (name : String) :
    (∃ v, bound? entries name = some v) ↔ ∃ v, (name, v) ∈ entries := by
  constructor
  · rintro ⟨v, found⟩
    exact ⟨v, List.mem_reverse.mp (Table.mem_of_lookup_eq_some found)⟩
  · rintro ⟨v, member⟩
    cases found : bound? entries name with
    | some w => exact ⟨w, rfl⟩
    | none =>
        have absent := List.lookup_eq_none_iff.mp found (name, v) (List.mem_reverse.mpr member)
        simp at absent

/-- Entries that list the values bind each name to its value. -/
theorem Lists.bound?_eq {entries : List (String × Value)} {value? : String → Option Value}
    (lists : Lists entries value?) (name : String) : bound? entries name = value? name := by
  have distinct : (entries.reverse.map Prod.fst).Nodup := by
    rw [List.map_reverse, List.nodup_reverse]
    exact lists.distinct
  ext v
  rw [bound?, Table.lookup_eq_some_iff_of_nodup distinct, List.mem_reverse, lists.mem]

theorem keys_entryTable {α : Type} (read : String → Value → α) (entries : List (String × Value))
    (name : String) : name ∈ (entryTable read entries).keys ↔ ∃ v, (name, v) ∈ entries := by
  rw [← exists_bound?_iff, Table.mem_keys_iff, get?_entryTable]
  change (∃ value, (bound? entries name).map (read name) = some value) ↔ _
  cases bound? entries name <;> simp

theorem entryTable_of_lists {α : Type} (read : String → Value → α)
    {entries others : List (String × Value)} (lists : Lists others (bound? entries)) : entryTable read others = entryTable read entries := by
  refine Table.ext_get? _ _ fun name => ?_
  rw [get?_entryTable, get?_entryTable]
  exact congrArg (Option.map (read name)) (lists.bound?_eq name)

/-! ## Entries that cannot be read -/

theorem optional?_eq_none_iff {α : Type} (fields : List (String × Value)) (name : String)
    (read : Value → Option α) : Value.optional? fields name read = none ↔
      ∃ w, fields.lookup name = some w ∧ w ≠ .null ∧ read w = none := by
  unfold Value.optional?
  split
  · next missing => simp [missing]
  · next null => simp [null]
  · next w filled found =>
    rw [Option.map_eq_none_iff, found]
    constructor
    · exact fun unread => ⟨w, rfl, filled, unread⟩
    · rintro ⟨w', same, -, unread⟩
      cases same
      exact unread

theorem isSome_optional? {α : Type} {fields : List (String × Value)} {name : String}
    {read : Value → Option α} {o : Option α} (found : Value.optional? fields name read = some o) :
    o.isSome = true ↔ ∃ w, fields.lookup name = some w ∧ w ≠ .null := by
  unfold Value.optional? at found
  split at found
  · next missing =>
    cases found
    simp [missing]
  · next null =>
    cases found
    simp [null]
  · next w filled looked =>
    obtain ⟨a, -, rfl⟩ := Option.map_eq_some_iff.mp found
    exact ⟨fun _ => ⟨w, looked, filled⟩, fun _ => rfl⟩

theorem misfit_iff {α : Type} {v : Value} {fields : List (String × Value)}
    (known : v.fields? parameterKeys = some fields) (name : String) (read : Value → Option α) :
    Misfit v name read ↔ Value.optional? fields name read = none := by
  rw [optional?_eq_none_iff]
  constructor
  · rintro ⟨fields', w, known', misfit⟩
    cases known.symm.trans known'
    exact ⟨w, misfit⟩
  · rintro ⟨w, misfit⟩
    exact ⟨fields, w, known, misfit⟩

theorem ofEntry?_eq_none_iff (name : String) {v : Value} {fields : List (String × Value)}
    (known : v.fields? parameterKeys = some fields) : Parameter.ofEntry? name v = none ↔
      Value.optional? fields "type" Value.text? = none ∨
      Value.optional? fields "label" Value.text? = none ∨
      Value.optional? fields "description" Value.text? = none ∨
      Value.optional? fields "hidden" Value.flag? = none ∨
      Value.optional? fields "constraints" Value.items? = none := by
  -- A default is kept as it stands, so that it cannot be what fails.
  have whole : Value.optional? fields "default" some ≠ none := by
    intro failed
    obtain ⟨w, -, -, unread⟩ := (optional?_eq_none_iff fields "default" some).mp failed
    cases unread
  obtain ⟨default, read⟩ := Option.ne_none_iff_exists'.mp whole
  have opened : v.fields? ["type", "label", "description", "default", "hidden", "constraints"] =
      some fields := known
  unfold Parameter.ofEntry?
  rw [opened, Option.bind_eq_bind, Option.bind_some, read]
  cases Value.optional? fields "type" Value.text? with
  | none => simp
  | some type =>
      cases Value.optional? fields "label" Value.text? with
      | none => simp
      | some label =>
          cases Value.optional? fields "description" Value.text? with
          | none => simp
          | some description =>
              cases Value.optional? fields "hidden" Value.flag? with
              | none => simp
              | some hidden => cases Value.optional? fields "constraints" Value.items? <;> simp

theorem undecodable_iff (name : String) (v : Value) :
    Undecodable v ↔ Parameter.ofEntry? name v = none := by
  cases known : v.fields? parameterKeys with
  | none =>
      refine ⟨fun _ => ?_, fun _ => .fields known⟩
      unfold Parameter.ofEntry?
      exact Option.bind_eq_none_iff.mpr fun fields found => by cases known.symm.trans found
  | some fields =>
      rw [ofEntry?_eq_none_iff name known]
      constructor
      · intro undecodable
        cases undecodable with
        | fields missing => cases known.symm.trans missing
        | text field named misfit =>
            have unread := (misfit_iff known field Value.text?).mp misfit
            simp only [List.mem_cons, List.not_mem_nil, or_false] at named
            rcases named with rfl | rfl | rfl
            · exact .inl unread
            · exact .inr (.inl unread)
            · exact .inr (.inr (.inl unread))
        | flag misfit => exact .inr (.inr (.inr (.inl ((misfit_iff known _ _).mp misfit))))
        | clauses misfit => exact .inr (.inr (.inr (.inr ((misfit_iff known _ _).mp misfit))))
      · rintro (unread | unread | unread | unread | unread)
        · exact .text "type" (by simp) ((misfit_iff known _ _).mpr unread)
        · exact .text "label" (by simp) ((misfit_iff known _ _).mpr unread)
        · exact .text "description" (by simp) ((misfit_iff known _ _).mpr unread)
        · exact .flag ((misfit_iff known _ _).mpr unread)
        · exact .clauses ((misfit_iff known _ _).mpr unread)

theorem ofEntry_of_undecodable (name : String) {v : Value} (undecodable : Undecodable v) :
    Parameter.ofEntry name v = .bare name .string := by
  unfold Parameter.ofEntry
  rw [(undecodable_iff name v).mp undecodable]
  rfl

theorem constraints_ofEntry {name : String} {v : Value} {fields : List (String × Value)} {w : Value}
    {items : List Value} (decodable : ¬ Undecodable v) (known : v.fields? parameterKeys = some fields)
    (found : fields.lookup "constraints" = some w) (read : w.items? = some items) :
    (Parameter.ofEntry name v).constraints = items.filterMap Constraint.ofValue? := by
  cases decoded : Parameter.ofEntry? name v with
  | none => exact absurd ((undecodable_iff name v).mpr decoded) decodable
  | some p =>
      unfold Parameter.ofEntry
      rw [decoded, Option.getD_some]
      obtain ⟨fields', known', decoded⟩ := Option.bind_eq_some_iff.mp decoded
      obtain ⟨type, -, decoded⟩ := Option.bind_eq_some_iff.mp decoded
      obtain ⟨label, -, decoded⟩ := Option.bind_eq_some_iff.mp decoded
      obtain ⟨description, -, decoded⟩ := Option.bind_eq_some_iff.mp decoded
      obtain ⟨default, -, decoded⟩ := Option.bind_eq_some_iff.mp decoded
      obtain ⟨hidden, -, decoded⟩ := Option.bind_eq_some_iff.mp decoded
      obtain ⟨clauses, listed, same⟩ := Option.bind_eq_some_iff.mp decoded
      cases same
      cases known.symm.trans known'
      change (clauses.getD []).filterMap Constraint.ofValue? = _
      unfold Value.optional? at listed
      split at listed
      · next missing => cases found.symm.trans missing
      · next null =>
        cases found.symm.trans null
        cases listed
        cases read
        rfl
      · next w' _ found' =>
        cases found.symm.trans found'
        rw [read] at listed
        cases listed
        rfl

/-! ## Sections of a text -/

theorem mem_of_mapM {α β : Type} (f : α → Option β) : ∀ (xs : List α) (ys : List β),
    xs.mapM f = some ys → ∀ y, y ∈ ys ↔ ∃ x ∈ xs, f x = some y := by
  intro xs
  induction xs with
  | nil =>
      intro ys read y
      cases read
      simp
  | cons x xs ih =>
      intro ys read y
      rw [List.mapM_cons] at read
      obtain ⟨z, first, read⟩ := Option.bind_eq_some_iff.mp read
      obtain ⟨zs, later, same⟩ := Option.bind_eq_some_iff.mp read
      cases same
      have rest := ih zs later y
      simp only [List.mem_cons, rest, exists_eq_or_imp, first, Option.some.injEq]
      exact or_congr eq_comm Iff.rfl

theorem lookup_fields?_iff {names : List String} {entries : List (Value × Value)}
    {fields : List (String × Value)} (known : (Value.mapping entries).fields? names = some fields)
    {name : String} (among : name ∈ names) (w : Value) :
    fields.lookup name = some w ↔ ∃ e ∈ entries, e.1.text? = some name ∧ e.2 = w := by
  obtain ⟨named, all, known⟩ := Option.bind_eq_some_iff.mp known
  dsimp only at known
  split at known
  · next distinct =>
    cases known
    rw [Table.lookup_eq_some_iff_of_nodup distinct, List.mem_filter, mem_of_mapM _ _ _ all]
    have counts : names.contains name = true := List.contains_iff_mem.mpr among
    constructor
    · rintro ⟨⟨e, inside, read⟩, -⟩
      obtain ⟨text, found, same⟩ := Option.map_eq_some_iff.mp read
      cases same
      exact ⟨e, inside, found, rfl⟩
    · rintro ⟨⟨k, v⟩, inside, found, rfl⟩
      refine ⟨⟨(k, v), inside, ?_⟩, counts⟩
      dsimp only at found ⊢
      rw [found]
      rfl
  · cases known

/-- A section is decoded just where its key is present. -/
theorem has_iff_present {source : String} {d : Document} (decoded : Document.ofText source = .ok d)
    (k : SectionKind) : d.has k = true ↔ Present source k.name := by
  unfold Document.ofText at decoded
  split at decoded
  · cases decoded
  · next null =>
    cases decoded
    constructor
    · cases k <;> exact nofun
    · rintro ⟨entries, e, mapping, -⟩
      cases null.symm.trans mapping
  · next entries parsed =>
    split at decoded
    · next d' sections =>
      cases decoded
      obtain ⟨fields, known, sections⟩ := Option.bind_eq_some_iff.mp sections
      obtain ⟨parameters, first, sections⟩ := Option.bind_eq_some_iff.mp sections
      obtain ⟨outputs, second, sections⟩ := Option.bind_eq_some_iff.mp sections
      obtain ⟨tags, third, same⟩ := Option.bind_eq_some_iff.mp sections
      cases same
      have filled : Document.has ⟨parameters, outputs, tags⟩ k = true ↔
          ∃ w, fields.lookup k.name = some w ∧ w ≠ .null := by
        cases k with
        | parameters => exact isSome_optional? first
        | outputs => exact isSome_optional? second
        | tags => exact isSome_optional? third
      have among : k.name ∈ ["parameters", "outputs", "tags"] := by cases k <;> simp [SectionKind.name]
      rw [filled]
      constructor
      · rintro ⟨w, found, notNull⟩
        obtain ⟨e, inside, text, rfl⟩ := (lookup_fields?_iff known among w).mp found
        exact ⟨entries, e, parsed, inside, text, notNull⟩
      · rintro ⟨entries', e, parsed', inside, text, notNull⟩
        cases parsed.symm.trans parsed'
        exact ⟨e.2, (lookup_fields?_iff known among e.2).mpr ⟨e, inside, text, rfl⟩, notNull⟩
    · cases decoded
  · cases decoded

/-! ## The bundle of a text -/

theorem populated_bundle {source : String} {d : Document} (decoded : Document.ofText source = .ok d)
    (name : String) : Populated name source d (d.bundle name source) where
  sameName := rfl
  sameSource := rfl
  digest := rfl
  parameterNames := keys_entryTable _ _
  outputNames := keys_entryTable _ _
  parameterName := d.wellNamed_bundle name source
  outputName := by
    intro n o found
    change (entryTable Output.ofEntry (d.outputs.getD [])).get? n = some o at found
    rw [get?_entryTable, Option.map_eq_some_iff] at found
    obtain ⟨v, -, rfl⟩ := found
    rfl
  parameter := get?_entryTable _ _
  output := get?_entryTable _ _
  bare := by
    intro n v bound undecodable
    rw [← ofEntry_of_undecodable n undecodable]
    exact (get?_entryTable _ _ n).trans (congrArg (Option.map _) bound)
  clauses := by
    intro n v fields w items p bound decodable known found read stands
    have entry : (d.bundle name source).parameters.get? n = some (Parameter.ofEntry n v) :=
      (get?_entryTable _ _ n).trans (congrArg (Option.map _) bound)
    cases entry.symm.trans stands
    exact constraints_ofEntry decodable known found read
  parameters := has_iff_present decoded .parameters
  outputs := has_iff_present decoded .outputs
  tags := Iff.rfl

theorem get?_entryTable_congr {α : Type} (read : String → Value → α)
    {entries others : List (String × Value)} {name : String}
    (same : bound? others name = bound? entries name) :
    (entryTable read others).get? name = (entryTable read entries).get? name := by
  rw [get?_entryTable, get?_entryTable]
  exact congrArg (Option.map (read name)) same

theorem unchanged_bundle (d d' : Document) (name source name' source' : String) :
    Unchanged d d' (d.bundle name source) (d'.bundle name' source') where
  parameter _ same := get?_entryTable_congr Parameter.ofEntry same
  output _ same := get?_entryTable_congr Output.ofEntry same
  parameters := entryTable_of_lists _
  outputs := entryTable_of_lists _
  parameterSection same := by
    constructor
    · exact congrArg (fun entries => entryTable Parameter.ofEntry (entries.getD [])) same
    · exact congrArg Option.isSome same
  outputSection same := by
    constructor
    · exact congrArg (fun entries => entryTable Output.ofEntry (entries.getD [])) same
    · exact congrArg Option.isSome same
  tagSection same := by
    constructor
    · exact congrArg (fun tags => tags.bind tagText?) same
    · exact congrArg (fun tags => (tags.bind tagText?).isSome) same
  sections has same := by
    have parameters : d'.parameters.isSome = d.parameters.isSome := has .parameters
    have outputs : d'.outputs.isSome = d.outputs.isSome := has .outputs
    change Sections.mk d'.parameters.isSome d'.outputs.isSome (d'.tags.bind tagText?).isSome = _
    rw [parameters, outputs, same]
    rfl

/-- A text that mentions a section is compiled entry by entry: the bundle has the entries of its
document, each read for itself, and two bundles share what their documents share. -/
theorem compile_entry_by_entry {source : String} {d : Document}
    (mentioned : (Sections.mentioned source).any = true) (decoded : Document.ofText source = .ok d)
    (name : String) : ∃ b, compile name source = .ok b ∧ Populated name source d b ∧
      ∀ name' source' d' b', (Sections.mentioned source').any = true →
        Document.ofText source' = .ok d' → compile name' source' = .ok b' → Unchanged d d' b b' := by
  refine ⟨d.bundle name source, compile_of_mentioned mentioned decoded name,
    populated_bundle decoded name, fun name' source' d' b' mentioned' decoded' compiled' => ?_⟩
  rw [compile_of_mentioned mentioned' decoded'] at compiled'
  cases compiled'
  exact unchanged_bundle d d' name source name' source'

/-- A parameter whose flag is none, beside one in order. -/
def mixedSource : String :=
  "\"parameters\": \x7b\"a\": \x7b\"hidden\": \"x\"\x7d, \"b\": \x7b\"type\": \"number\"\x7d\x7d\n"

def mixedTokens : List Token :=
  [.blockMappingStart, .key, .scalar false "parameters", .value,
    .flowMappingStart, .key, .scalar false "a", .value,
    .flowMappingStart, .key, .scalar false "hidden", .value, .scalar false "x", .flowMappingEnd,
    .flowEntry, .key, .scalar false "b", .value,
    .flowMappingStart, .key, .scalar false "type", .value, .scalar false "number", .flowMappingEnd,
    .flowMappingEnd, .blockEnd]

def mixedNode {ref : Type} : Node ref :=
  let text (s : String) : Node ref := .scalar .none false s
  .mapping .none [(text "parameters", .mapping .none [
    (text "a", .mapping .none [(text "hidden", text "x")]),
    (text "b", .mapping .none [(text "type", text "number")])])]

def malformedEntry : Value := .mapping [(.string "hidden", .string "x")]

def numberEntry : Value := .mapping [(.string "type", .string "number")]

theorem ofText_mixedSource : Document.ofText mixedSource =
    .ok ⟨some [("a", malformedEntry), ("b", numberEntry)], none, none⟩ := by
  have tokens : tokens? mixedSource = some mixedTokens := by decide +kernel
  exact ofText_of_stages mixedNode mixedNode ⟨[], [], 15⟩
    [(.string "parameters", .mapping [(.string "a", malformedEntry), (.string "b", numberEntry)])]
    tokens (by cbv) (by cbv) (by cbv) (by cbv)

theorem compile_entry_by_entry_mixed : ∃ b, compile "t" mixedSource = .ok b ∧
    b.parameters.get? "a" = some (.bare "a" .string) ∧
    b.parameters.get? "b" = some (.bare "b" .number) := by
  have mentioned : (Sections.mentioned mixedSource).any = true := by decide +kernel
  obtain ⟨b, compiled, populated, -⟩ := compile_entry_by_entry mentioned ofText_mixedSource "t"
  have misfit : Misfit malformedEntry "hidden" Value.flag? :=
    ⟨[("hidden", .string "x")], .string "x", by cbv, rfl, nofun, rfl⟩
  refine ⟨b, compiled, populated.bare "a" _ rfl (.flag misfit), ?_⟩
  rw [populated.parameter]
  cbv

end HeatStack.Template
