import HeatStack.Proofs.Compilation
import HeatStack.Proofs.DefaultText
import HeatStack.Template.Record
import Mathlib

/-! # What is shown of a template with a hidden default

A bundle that carries a secret is shown without its source, and what is shown says nothing of the
source or of any hidden default.  Whether it carries one is seen from the defaults that have a text:
`hidden_default_masked_iff` says for which templates this is enough. -/
set_option autoImplicit false
namespace HeatStack.Template
open HeatStack.Yaml

/-- The entry that stays of those with its name, which is the last. -/
def Document.Binds (d : Document) (name : String) (entry : Value) : Prop :=
  ∃ before after, d.parameters.getD [] = before ++ (name, entry) :: after ∧ ∀ e ∈ after, e.1 ≠ name

theorem Document.lookup_reverse_iff (d : Document) (name : String) (entry : Value) :
    (d.parameters.getD []).reverse.lookup name = some entry ↔ d.Binds name entry := by
  rw [List.lookup_eq_some_iff]
  constructor
  · rintro ⟨after, before, split, others⟩
    refine ⟨before.reverse, after.reverse, ?_, fun e member same => ?_⟩
    · rw [← List.reverse_inj, split]
      simp only [List.reverse_append, List.reverse_cons, List.reverse_reverse, List.append_assoc,
        List.cons_append, List.nil_append]
    · have different := others e (List.mem_reverse.mp member)
      rw [same, bne_self_eq_false] at different
      cases different
  · rintro ⟨before, after, split, others⟩
    refine ⟨after.reverse, before.reverse, ?_, fun e member => ?_⟩
    · rw [split]
      simp only [List.reverse_append, List.reverse_cons, List.append_assoc, List.cons_append,
        List.nil_append]
    · exact bne_iff_ne.mpr (others e (List.mem_reverse.mp member)).symm

theorem Parameter.masked_secret (p : Parameter) (secret : String) :
    (if p.hidden then { p with default := p.default.map fun _ => secret } else p).masked = p.masked := by
  cases hidden : p.hidden with
  | false => rfl
  | true =>
      simp only [if_true, Parameter.masked, hidden, Option.map_map, Function.comp_def]

namespace Bundle

theorem carriesSecret_iff (b : Bundle) : b.carriesSecret = true ↔
    ∃ name p, b.parameters.get? name = some p ∧ p.hidden = true ∧ p.default.isSome = true := by
  simp only [carriesSecret, List.any_eq_true, Bool.and_eq_true, Table.get?_eq_some_iff]
  constructor
  · rintro ⟨p, member, secret⟩
    obtain ⟨⟨name, p⟩, inside, rfl⟩ := List.mem_map.mp member
    exact ⟨name, p, inside, secret⟩
  · rintro ⟨name, p, inside, secret⟩
    exact ⟨p, List.mem_map.mpr ⟨(name, p), inside, rfl⟩, secret⟩

theorem source_masked_iff (b : Bundle) (plain : b.source ≠ mask) :
    b.masked.source = mask ↔ b.carriesSecret = true := by
  unfold masked
  cases b.carriesSecret with
  | true => exact ⟨fun _ => rfl, fun _ => rfl⟩
  | false => exact ⟨fun same => absurd same plain, nofun⟩

/-- No hidden parameter is shown with its default. -/
theorem default_masked (b : Bundle) (name : String) (p : Parameter)
    (found : b.masked.parameters.get? name = some p) (hidden : p.hidden = true) :
    p.default = none ∨ p.default = some mask := by
  rw [masked, Table.get?_map, Option.map_eq_some_iff] at found
  obtain ⟨q, -, rfl⟩ := found
  cases shown : q.hidden with
  | false =>
      simp only [Parameter.masked, shown, Bool.false_eq_true, if_false] at hidden
  | true =>
      simp only [Parameter.masked, shown, if_true]
      cases q.default with
      | none => exact .inl rfl
      | some text => exact .inr rfl

/-- The same bundle with other secrets: another source, and other texts where a hidden parameter has
a default. -/
def withSecrets (b : Bundle) (source : String) (secret : String → String) : Bundle :=
  { b with
    source := source
    parameters := b.parameters.map fun name p =>
      if p.hidden then { p with default := p.default.map fun _ => secret name } else p }

theorem carriesSecret_withSecrets (b : Bundle) (source : String) (secret : String → String) :
    (b.withSecrets source secret).carriesSecret = b.carriesSecret := by
  simp only [carriesSecret, withSecrets, Table.values, Table.map, List.map_map, List.any_map]
  congr 1
  funext e
  cases hidden : e.2.hidden with
  | false => simp only [Function.comp_apply, hidden, Bool.false_eq_true, if_false]
  | true => simp only [Function.comp_apply, hidden, if_true, Option.isSome_map]

/-- What is shown in place of secrets does not depend on them. -/
theorem masked_withSecrets (b : Bundle) (source : String) (secret : String → String)
    (carries : b.carriesSecret = true) : (b.withSecrets source secret).masked = b.masked := by
  have parameters : (b.withSecrets source secret).parameters.map (fun _ p => p.masked) =
      b.parameters.map fun _ p => p.masked := by
    apply Table.entries_inj
    simp only [withSecrets, Table.map, List.map_map]
    refine List.map_congr_left fun e _ => ?_
    simp only [Function.comp_apply, Parameter.masked_secret]
  unfold masked
  rw [carriesSecret_withSecrets, carries, parameters]
  rfl

end Bundle

theorem carriesSecret_bundle_iff (d : Document) (name source : String) :
    (d.bundle name source).carriesSecret = true ↔
      ∃ n entry p default, d.Binds n entry ∧ HiddenDefault n entry p default ∧
        Renders p.type default := by
  rw [Bundle.carriesSecret_iff]
  simp only [Document.bundle, get?_entryTable, Option.map_eq_some_iff, d.lookup_reverse_iff]
  constructor
  · rintro ⟨n, p, ⟨entry, binds, rfl⟩, hidden, filled⟩
    cases decoded : Parameter.ofEntry? n entry with
    | none =>
        simp only [Parameter.ofEntry, decoded, Option.getD_none] at hidden
        cases hidden
    | some p =>
        simp only [Parameter.ofEntry, decoded, Option.getD_some] at hidden filled
        obtain ⟨w, declared, renders⟩ := (default_isSome_iff decoded hidden).mp filled
        exact ⟨n, entry, p, w, binds, declared, renders⟩
  · rintro ⟨n, entry, p, w, binds, declared, renders⟩
    have filled := (default_isSome_iff declared.decoded declared.hidden).mpr ⟨w, declared, renders⟩
    refine ⟨n, p, ⟨entry, binds, ?_⟩, declared.hidden, filled⟩
    rw [Parameter.ofEntry, declared.decoded, Option.getD_some]

theorem ofText_mask : Document.ofText mask = .error .malformed := by cbv

theorem carriesSecret_compile_iff {name source : String} {b : Bundle} {d : Document}
    (compiled : compile name source = .ok b) (decoded : Document.ofText source = .ok d) :
    b.carriesSecret = true ↔ (Sections.mentioned source).any = true ∧
      ∃ n entry p default, d.Binds n entry ∧ HiddenDefault n entry p default ∧
        Renders p.type default := by
  obtain ⟨unmentioned, rfl⟩ | ⟨mentioned, d', decoded', rfl⟩ := compile_eq_ok name source b compiled
  · rw [unmentioned]
    exact ⟨nofun, fun h => nomatch h.1⟩
  · cases decoded.symm.trans decoded'
    rw [carriesSecret_bundle_iff]
    exact ⟨fun secret => ⟨mentioned, secret⟩, fun h => h.2⟩

/-- The source is masked just where the text mentions a section and a hidden parameter, by the last
entry of its name, has a default with a text.  Then what is shown does not depend on the source or on
a hidden default; otherwise the whole source is shown. -/
theorem hidden_default_masked_iff (name source : String) (b : Bundle) (d : Document)
    (compiled : compile name source = .ok b) (decoded : Document.ofText source = .ok d) :
    (b.masked.source = mask ↔ (Sections.mentioned source).any = true ∧
      ∃ n entry p default, d.Binds n entry ∧ HiddenDefault n entry p default ∧
        Renders p.type default) ∧
    (b.masked.source = mask → ∀ other secret,
      (b.withSecrets other secret).masked.text = b.masked.text) ∧
    (b.masked.source ≠ mask → b.masked.source = source) ∧
    ∀ n p, b.masked.parameters.get? n = some p → p.hidden = true →
      p.default = none ∨ p.default = some mask := by
  have same := source_of_compile compiled
  have plain : b.source ≠ mask := by
    intro masked
    rw [same] at masked
    rw [masked, ofText_mask] at decoded
    cases decoded
  have carries := b.source_masked_iff plain
  refine ⟨?_, ?_, ?_, b.default_masked⟩
  · rw [carries]
    exact carriesSecret_compile_iff compiled decoded
  · intro masked other secret
    rw [b.masked_withSecrets other secret (carries.mp masked)]
  · intro shown
    have none : b.carriesSecret = false := Bool.eq_false_iff.mpr fun h => shown (carries.mpr h)
    simp only [Bundle.masked, none, Bool.false_eq_true, if_false]
    exact same

/-! ## A default with one key -/

/-- A template with one hidden parameter, whose default is a mapping with this key. -/
def sourceWith (key : String) : String :=
  "\"parameters\": \x7b\"a\": \x7b\"hidden\": true, \"default\": \x7b" ++ key
    ++ ": \"secret\"\x7d\x7d\x7d\n"

def tokensBefore : List Token :=
  [.blockMappingStart, .key, .scalar false "parameters", .value,
    .flowMappingStart, .key, .scalar false "a", .value,
    .flowMappingStart, .key, .scalar false "hidden", .value, .scalar true "true",
    .flowEntry, .key, .scalar false "default", .value,
    .flowMappingStart, .key]

def tokensBehind : List Token :=
  [.value, .scalar false "secret", .flowMappingEnd, .flowMappingEnd, .flowMappingEnd, .blockEnd]

def tokensWith (key : List Token) : List Token := tokensBefore ++ key ++ tokensBehind

def nodeWith {ref : Type} (key : Node ref) : Node ref :=
  .mapping .none [(.scalar .none false "parameters", .mapping .none [(.scalar .none false "a",
    .mapping .none [(.scalar .none false "hidden", .scalar .none true "true"),
      (.scalar .none false "default", .mapping .none [(key, .scalar .none false "secret")])])])]

def entryWith (key : Value) : Value :=
  .mapping [(.string "hidden", .bool true), (.string "default", .mapping [(key, .string "secret")])]

def documentWith (key : Value) : Document := ⟨some [("a", entryWith key)], none, none⟩

def hiddenParameter (default : Option String) : Parameter :=
  ⟨"a", .string, none, none, default, true, []⟩

theorem ofText_textKey : Document.ofText (sourceWith "\"x\"") = .ok (documentWith (.string "x")) := by
  have tokens : tokens? (sourceWith "\"x\"") = some (tokensWith [.scalar false "x"]) := by
    decide +kernel
  exact ofText_of_stages (nodeWith (.scalar .none false "x")) (nodeWith (.scalar .none false "x"))
    ⟨[], [], 15⟩ [(.string "parameters", .mapping [(.string "a", entryWith (.string "x"))])]
    tokens (by cbv) (by cbv) (by cbv) (by cbv)

/-- A key that is a sequence has no JSON name. -/
theorem ofText_listKey :
    Document.ofText (sourceWith "[\"x\"]") = .ok (documentWith (.sequence [.string "x"])) := by
  have tokens : tokens? (sourceWith "[\"x\"]") =
      some (tokensWith [.flowSequenceStart, .scalar false "x", .flowSequenceEnd]) := by
    decide +kernel
  exact ofText_of_stages (nodeWith (.sequence .none [.scalar .none false "x"]))
    (nodeWith (.sequence .none [.scalar .none false "x"])) ⟨[], [], 17⟩
    [(.string "parameters", .mapping [(.string "a", entryWith (.sequence [.string "x"]))])]
    tokens (by cbv) (by cbv) (by cbv) (by cbv)

theorem declared_entryWith (key : Value) (text : Option String)
    (decoded : Parameter.ofEntry? "a" (entryWith key) = some (hiddenParameter text)) :
    HiddenDefault "a" (entryWith key) (hiddenParameter text) (.mapping [(key, .string "secret")]) :=
  ⟨decoded, rfl, ⟨_, rfl, rfl⟩, nofun⟩

theorem hidden_default_masked_iff_textKey : ∃ b,
    compile "t" (sourceWith "\"x\"") = .ok b ∧
    Document.ofText (sourceWith "\"x\"") = .ok (documentWith (.string "x")) ∧
    b.masked.source = mask := by
  have mentioned : (Sections.mentioned (sourceWith "\"x\"")).any = true := by decide +kernel
  have compiled := compile_of_mentioned mentioned ofText_textKey "t"
  refine ⟨_, compiled, ofText_textKey,
    (hidden_default_masked_iff "t" _ _ _ compiled ofText_textKey).1.mpr ⟨mentioned, "a",
      entryWith (.string "x"), hiddenParameter (some "\x7b\"x\":\"secret\"\x7d"),
      .mapping [(.string "x", .string "secret")], ?_, ?_, ?_⟩⟩
  · exact ⟨[], [], rfl, fun _ member => nomatch member⟩
  · exact declared_entryWith _ _ (by cbv)
  · refine .mapping _ fun nameless => ?_
    rw [← Value.toJson?_eq_none_iff] at nameless
    cases nameless

theorem listKey_shown : ∃ b,
    compile "t" (sourceWith "[\"x\"]") = .ok b ∧
    Document.ofText (sourceWith "[\"x\"]") = .ok (documentWith (.sequence [.string "x"])) ∧
    (documentWith (.sequence [.string "x"])).parameters =
      some [("a", entryWith (.sequence [.string "x"]))] ∧
    HiddenDefault "a" (entryWith (.sequence [.string "x"])) (hiddenParameter none)
      (.mapping [(.sequence [.string "x"], .string "secret")]) ∧
    b.masked.source = sourceWith "[\"x\"]" := by
  have mentioned : (Sections.mentioned (sourceWith "[\"x\"]")).any = true := by decide +kernel
  have declared := declared_entryWith (.sequence [.string "x"]) none (by cbv)
  refine ⟨_, compile_of_mentioned mentioned ofText_listKey "t", ofText_listKey, rfl, declared, ?_⟩
  have parameters : ((documentWith (.sequence [.string "x"])).bundle "t"
      (sourceWith "[\"x\"]")).parameters =
        entryTable Parameter.ofEntry [("a", entryWith (.sequence [.string "x"]))] := rfl
  have shown : ((documentWith (.sequence [.string "x"])).bundle "t"
      (sourceWith "[\"x\"]")).carriesSecret = false := by
    rw [Bundle.carriesSecret, parameters]
    cbv
  simp only [Bundle.masked, shown, Bool.false_eq_true, if_false]
  rfl

end HeatStack.Template
