import HeatStack.Proofs.CompactJson
import HeatStack.Proofs.ResolutionSpec
import HeatStack.Proofs.SectionDetection
import HeatStack.Proofs.StyledNumbers

/-! # Defaults and their own type

A default of the kind that its parameter declares is accepted by that type, a number is read back as the
number it is, and JSON is well formed.  JSON may still be refused for its nesting: a tag becomes an object
there, so that tags count as levels, which they do not where YAML is read. -/
set_option autoImplicit false
namespace HeatStack.Template
open HeatStack.Number HeatStack.Text HeatStack.Yaml

/-- A default of the kind that a type declares. -/
inductive OfKind : ValueType → Value → Prop
  | string (v : Value) : OfKind .string v
  | list (v : Value) : OfKind .commaDelimitedList v
  | boolean (b : Bool) : OfKind .boolean (.bool b)
  | integer (n : Int) : OfKind .number (.number (.integer n))
  | binary (x : Binary64) : x.isFinite = true → OfKind .number (.number (.binary x))
  | sequence (items : List Value) : OfKind .json (.sequence items)
  | mapping (entries : List (Value × Value)) : OfKind .json (.mapping entries)

theorem small_of_fitsWord {n : Int} (fits : Scalar.fitsWord n = true) : n.natAbs < Binary64.limit := by
  simp only [Scalar.fitsWord, Bool.and_eq_true, decide_eq_true_eq] at fits
  have low : -(2 ^ 63 : Int) ≤ n := fits.1
  have high : n < 2 ^ 64 := fits.2
  have bounded : n.natAbs ≤ 2 ^ 64 := by omega
  exact Nat.lt_of_le_of_lt bounded
    (Nat.lt_of_le_of_lt Json.Numeral.small_le_room Json.Numeral.room_lt_limit)

/-- A number that was read from a text is read back from its own. -/
theorem numberOf?_of_kind {n : Numeric} (kind : OfKind .number (.number n)) (words : (Value.number n).Words) :
    numberOf? (Value.number n).text = some n.toBinary64 := by
  cases kind with
  | integer n => exact numberOf?_integer (small_of_fitsWord (words 0 n .self))
  | binary x finite => exact numberOf?_text Yaml.numberStyle finite

theorem accepts_boolText (b : Bool) : ValueType.boolean.accepts (boolText b) = true := by
  cases b <;> decide

/-- The kept default of a collection is its compact JSON. -/
theorem json_of_defaultText? {v : Value} {text : String} (kind : OfKind .json v)
    (kept : defaultText? .json v = some text) : ∃ j, v.toJson? = some j ∧ text = j.compact := by
  have json : v.jsonText? = some text := by
    cases kind with
    | sequence items => simpa [defaultText?] using kept
    | mapping entries => simpa [defaultText?] using kept
  obtain ⟨j, known, same⟩ := Option.map_eq_some_iff.mp json
  exact ⟨j, known, same.symm⟩

/-- Which texts of defaults their type accepts. -/
theorem accepts_defaultText?_iff {type : ValueType} {v : Value} {text : String} (kind : OfKind type v)
    (words : v.Words) (kept : defaultText? type v = some text) :
    type.accepts text = true ↔ (type = .json → v.levels 1 ≤ Json.Syntax.nestingLimit) := by
  cases type with
  | string => exact ⟨fun _ => nofun, fun _ => rfl⟩
  | commaDelimitedList => exact ⟨fun _ => nofun, fun _ => rfl⟩
  | boolean =>
      refine ⟨fun _ => nofun, fun _ => ?_⟩
      cases kind with
      | boolean b =>
          have same : boolText b = text := Option.some.inj kept
          rw [← same, accepts_boolText]
  | number =>
      refine ⟨fun _ => nofun, fun _ => ?_⟩
      obtain ⟨n, rfl⟩ : ∃ n, v = .number n := by cases kind <;> exact ⟨_, rfl⟩
      have same : (Value.number n).text = text := Option.some.inj kept
      rw [ValueType.accepts, ← same, numberOf?_of_kind kind words]
      rfl
  | json =>
      obtain ⟨j, json, rfl⟩ := json_of_defaultText? kind kept
      exact (Value.isSome_parse?_compact json words).trans ⟨fun shallow _ => shallow, fun deep => deep rfl⟩

/-! ## Resolution without a supplied value -/

section
variable {supplied : Table String} {b : Bundle} {name text : String} {p : Parameter}

theorem no_mismatch_of_accepted (named : b.WellNamed) (found : b.parameters.get? name = some p)
    (kept : p.default = some text) (absent : supplied.get? name = none)
    (accepted : p.type.accepts text = true) (type : ValueType) :
    resolve b supplied ≠ .error (.typeMismatch name type) := by
  intro failed
  have problem := (resolve_eq_error_iff supplied b named _).mp failed
  cases problem with
  | entry n q _ _ found' _ problem =>
      cases problem with
      | mismatch value effective refused =>
          cases found.symm.trans found'
          rw [effectiveValue?, absent, kept] at effective
          cases effective
          rw [accepted] at refused
          cases refused

theorem unresolved_of_refused (found : b.parameters.get? name = some p) (kept : p.default = some text)
    (absent : supplied.get? name = none) (refused : ¬ p.type.accepts text = true) (r : Resolution) :
    resolve b supplied ≠ .ok r := by
  intro resolved
  obtain ⟨-, -, -, -, each⟩ := resolve_eq_ok supplied b r resolved
  obtain ⟨v, -, entry⟩ := each name p found
  obtain ⟨effective, checked, -⟩ := (resolveEntry_eq_ok_iff supplied name p v).mp entry
  rw [effectiveValue?, absent, kept] at effective
  cases effective
  exact refused ((p.check_eq_ok_iff _).mp checked).1

end

/-! ## Defaults of a text -/

/-- Without tags there is room for every default that a text can declare. -/
theorem levels_of_declares {source name : String} {v : Value} (declared : Declares source name v)
    (plain : ∀ k t w, ¬ Value.Part (.tagged t w) k v) : v.levels 1 ≤ Json.Syntax.nestingLimit := by
  rw [Value.levels_of_plain 1 v plain]
  exact Nat.le_trans (fits_of_declares declared).shallow (by decide)

/-- A default of the kind that its parameter declares is accepted, unless it is JSON whose collections and
tags are nested too deeply, which takes a tag. -/
theorem kept_default_accepted {t source name text : String} {b : Bundle} {p : Parameter} {v : Value}
    (compiled : compile t source = .ok b) (found : b.parameters.get? name = some p)
    (declared : Declares source name v) (kept : p.default = some text) (kind : OfKind p.type v) :
    (p.type.accepts text = true ↔ (p.type = .json → v.levels 1 ≤ Json.Syntax.nestingLimit)) ∧
    ((∀ k t w, ¬ Value.Part (.tagged t w) k v) → p.type.accepts text = true) ∧
    (∀ supplied, supplied.get? name = none →
      (p.type.accepts text = true → ∀ type, resolve b supplied ≠ .error (.typeMismatch name type)) ∧
      (¬ p.type.accepts text = true → ∀ r, resolve b supplied ≠ .ok r)) ∧
    (p.type = .number → ∀ n, v = .number n → numberOf? text = some n.toBinary64) ∧
    (p.type = .json → (Json.Syntax.parse? text).isSome = true) := by
  have rendered := default_of_kept compiled found declared kept
  have words := (fits_of_declares declared).words
  have accepted := accepts_defaultText?_iff kind words rendered
  have named := wellNamed_compile t source b compiled
  refine ⟨accepted, fun plain => accepted.mpr fun _ => levels_of_declares declared plain,
    fun supplied absent => ⟨no_mismatch_of_accepted named found kept absent,
      unresolved_of_refused found kept absent⟩, ?_, ?_⟩
  · rintro type n rfl
    rw [type] at kind rendered
    have same : (Value.number n).text = text := Option.some.inj rendered
    rw [← same]
    exact numberOf?_of_kind kind words
  · intro type
    rw [type] at kind rendered
    obtain ⟨j, -, rfl⟩ := json_of_defaultText? kind rendered
    rw [Json.Syntax.parse?_compact]
    rfl

/-! ## Nested tags -/

def nestChars : Nat → List Char
  | 0 => ['[', ']']
  | n + 1 => ['[', '!', 't', ' '] ++ nestChars n ++ [']']

def nestHead : String := "\"parameters\": \x7b\"a\": \x7b\"type\": \"json\", \"default\": "

/-- A template with sequences within each other as a default, each but the outermost with a tag. -/
def nestSource (n : Nat) : String :=
  String.ofList (nestHead.toList ++ nestChars n ++ "\x7d\x7d\n".toList)

def nestTokens : Nat → List Token
  | 0 => [.flowSequenceStart, .flowSequenceEnd]
  | n + 1 => [.flowSequenceStart, .tag "!" "t"] ++ nestTokens n ++ [.flowSequenceEnd]

def nestSourceTokens (n : Nat) : List Token :=
  [.blockMappingStart, .key, .scalar false "parameters", .value,
    .flowMappingStart, .key, .scalar false "a", .value,
    .flowMappingStart, .key, .scalar false "type", .value, .scalar false "json", .flowEntry,
    .key, .scalar false "default", .value] ++ nestTokens n ++ [.flowMappingEnd, .flowMappingEnd, .blockEnd]

def nestNode {ref : Type} (m : Mark) : Nat → Node ref
  | 0 => .sequence m []
  | n + 1 => .sequence m [nestNode ⟨none, some "!t"⟩ n]

def nestSourceNode {ref : Type} (n : Nat) : Node ref :=
  .mapping .none [(.scalar .none false "parameters", .mapping .none [(.scalar .none false "a",
    .mapping .none [(.scalar .none false "type", .scalar .none false "json"),
      (.scalar .none false "default", nestNode .none n)])])]

def nestValue : Nat → Value
  | 0 => .sequence []
  | n + 1 => .sequence [.tagged "t" (nestValue n)]

def nestEntry (n : Nat) : Value :=
  .mapping [(.string "type", .string "json"), (.string "default", nestValue n)]

def nestDocument (n : Nat) : Document := ⟨some [("a", nestEntry n)], none, none⟩

theorem levels_nestValue (n : Nat) : (nestValue n).levels 1 = 2 * n + 1 := by
  induction n with
  | zero => rfl
  | succ n ih => simp [nestValue, Value.levels, Value.itemLevels, ih]; omega

theorem fields?_nestEntry (n : Nat) : (nestEntry n).fields? parameterKeys =
    some [("type", .string "json"), ("default", nestValue n)] := by
  simp [nestEntry, parameterKeys, Value.fields?, Value.named?, Value.untagged, Value.text?]

theorem declares_nestValue {n : Nat} (decoded : Document.ofText (nestSource n) = .ok (nestDocument n)) :
    Declares (nestSource n) "a" (nestValue n) :=
  ⟨nestDocument n, nestEntry n, _, decoded, ⟨[], [], rfl, nofun⟩, fields?_nestEntry n, by simp [List.lookup]⟩

theorem mentioned_nestSource (n : Nat) : (Sections.mentioned (nestSource n)).any = true := by
  refine (Sections.any_iff _).mpr ⟨.parameters, (flag_mentioned _ _).mpr ?_⟩
  have named : SectionKind.parameters.name.toList <:+: nestHead.toList :=
    (contains_iff _ _).mp (by decide)
  rw [nestSource, String.toList_ofList, List.append_assoc]
  exact named.trans (List.infix_append' [] _ _)

theorem compile_nestSource {n : Nat} (decoded : Document.ofText (nestSource n) = .ok (nestDocument n)) :
    compile "t" (nestSource n) = .ok ((nestDocument n).bundle "t" (nestSource n)) :=
  compile_of_mentioned (mentioned_nestSource n) decoded "t"

def nestParameter (text : String) : Parameter :=
  { Parameter.bare "a" .json with default := some text }

theorem exists_json_nestValue (n : Nat) : ∃ text, (nestValue n).jsonText? = some text := by
  have known : ∃ j, (nestValue n).toJson? = some j := by
    induction n with
    | zero => exact ⟨_, rfl⟩
    | succ n ih =>
        obtain ⟨j, known⟩ := ih
        simp [nestValue, Value.toJson?, Value.jsonItems?, known]
  obtain ⟨j, known⟩ := known
  exact ⟨j.compact, by rw [Value.jsonText?, known]; rfl⟩

theorem ofKind_nestValue (n : Nat) : OfKind .json (nestValue n) := by
  cases n <;> exact .sequence _

theorem default_nestValue {n : Nat} {text : String} (json : (nestValue n).jsonText? = some text) :
    defaultText? .json (nestValue n) = some text := by
  cases n <;> exact json

theorem get?_nestSource {n : Nat} {text : String} (json : (nestValue n).jsonText? = some text) :
    ((nestDocument n).bundle "t" (nestSource n)).parameters.get? "a" = some (nestParameter text) := by
  have entry : Parameter.ofEntry "a" (nestEntry n) = nestParameter text := by
    rw [Parameter.ofEntry, Parameter.ofEntry?, ← parameterKeys, fields?_nestEntry n]
    have type : ValueType.declared (some "json") = .json := by decide +kernel
    obtain ⟨items, sequence⟩ : ∃ items, nestValue n = .sequence items := by cases n <;> exact ⟨_, rfl⟩
    have default := default_nestValue json
    rw [sequence] at default ⊢
    simp only [Option.bind_eq_bind, Option.bind_some, Value.optional?, List.lookup, Value.text?, Value.untagged,
      String.reduceBEq, Option.map_some, type, default, Option.getD_some, Constraint.ofValues, Option.getD_none]
    rfl
  rw [← entry]
  rfl

theorem ofText_nestSource_one : Document.ofText (nestSource 1) = .ok (nestDocument 1) := by
  have tokens : tokens? (nestSource 1) = some (nestSourceTokens 1) := by decide +kernel
  exact ofText_of_stages (nestSourceNode 1) (nestSourceNode 1) ⟨[], [], 15⟩
    [(.string "parameters", .mapping [(.string "a", nestEntry 1)])] tokens (by cbv) (by cbv) (by cbv) rfl

theorem kept_default_accepted_tagged : ∃ text, ValueType.json.accepts text = true ∧
    ∀ type, resolve ((nestDocument 1).bundle "t" (nestSource 1)) Table.empty ≠
      .error (.typeMismatch "a" type) := by
  obtain ⟨text, json⟩ := exists_json_nestValue 1
  obtain ⟨accepted, -, resolved, -⟩ := kept_default_accepted (compile_nestSource ofText_nestSource_one)
    (get?_nestSource json) (declares_nestValue ofText_nestSource_one) rfl (ofKind_nestValue _)
  have accepts := accepted.mpr fun _ => by rw [levels_nestValue]; decide
  exact ⟨text, accepts, (resolved Table.empty rfl).1 accepts⟩

set_option maxRecDepth 20000 in
theorem ofText_nestSource_deep : Document.ofText (nestSource 64) = .ok (nestDocument 64) := by
  have tokens : tokens? (nestSource 64) = some (nestSourceTokens 64) := by decide +kernel
  have root : root? (nestSourceTokens 64) = some (some (nestSourceNode 64)) := by cbv
  have bound : Node.bind? .none (nestSourceNode 64) = some (nestSourceNode 64, ⟨[], [], 141⟩) := by cbv
  have read : ((Document.value ⟨some (nestSourceNode 64), [], 141⟩ nestingLimit (nestSourceNode 64)).run
      (Document.aliasLimit ⟨some (nestSourceNode 64), [], 141⟩)).map Prod.fst =
      some (.mapping [(.string "parameters", .mapping [(.string "a", nestEntry 64)])]) := by cbv
  exact ofText_of_stages _ _ _ _ tokens root bound read rfl

/-- Tags and sequences within each other: the text of the default is JSON, and too deep to be read. -/
theorem nested_default_refused : ∃ text,
    compile "t" (nestSource 64) = .ok ((nestDocument 64).bundle "t" (nestSource 64)) ∧
    ((nestDocument 64).bundle "t" (nestSource 64)).parameters.get? "a" = some (nestParameter text) ∧
    Declares (nestSource 64) "a" (nestValue 64) ∧ OfKind (nestParameter text).type (nestValue 64) ∧
    (nestParameter text).type.accepts text = false ∧
    ∀ r, resolve ((nestDocument 64).bundle "t" (nestSource 64)) Table.empty ≠ .ok r := by
  obtain ⟨text, json⟩ := exists_json_nestValue 64
  have declared := declares_nestValue ofText_nestSource_deep
  have found := get?_nestSource json
  have refused : ¬ ValueType.json.accepts text = true := by
    rw [accepts_defaultText?_iff (ofKind_nestValue _) (fits_of_declares declared).words (default_nestValue json),
      levels_nestValue]
    decide
  exact ⟨text, compile_nestSource ofText_nestSource_deep, found, declared, ofKind_nestValue 64,
    Bool.eq_false_iff.mpr refused, unresolved_of_refused found rfl rfl refused⟩

end HeatStack.Template
