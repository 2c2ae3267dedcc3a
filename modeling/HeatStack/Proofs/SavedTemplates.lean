import HeatStack.Proofs.SavedRanges
import HeatStack.Proofs.SecretMasking
import HeatStack.Template.Resolution

/-! # Templates that are saved and loaded -/
set_option autoImplicit false
namespace HeatStack.Template
open HeatStack.Number HeatStack.Json

/-! ## Checks -/

namespace Parameter

/-- The parameters have the same constraints, up to constraints that admit the same values. -/
def Agrees (p q : Parameter) : Prop := List.Forall₂ Constraint.Agrees p.constraints q.constraints

theorem agrees_reloaded_iff (p : Parameter) :
    p.Agrees p.reloaded ↔ ∀ c ∈ p.constraints, c.Agrees c.reloaded := by
  rw [Agrees, reloaded, List.forall₂_map_right_iff, List.forall₂_same]

/-- The same constraint is the first that is violated. -/
theorem check_reloaded {p : Parameter} (agrees : p.Agrees p.reloaded) (value : String) :
    p.reloaded.check value = p.check value := by
  have verdict : ∀ c ∈ p.constraints,
      (!c.reloaded.admits p.type value) = !c.admits p.type value := fun c member => by
    rw [(p.agrees_reloaded_iff.mp agrees) c member]
  have first : (p.constraints.map Constraint.reloaded).find? (fun c => !c.admits p.type value) =
      (p.constraints.find? fun c => !c.admits p.type value).map Constraint.reloaded := by
    rw [List.find?_map]
    exact congrArg (Option.map Constraint.reloaded) (List.find?_congr verdict)
  unfold check
  simp only [reloaded, first]
  cases p.constraints.find? fun c => !c.admits p.type value with
  | none => rfl
  | some c => simp only [Option.map_some, Constraint.kind_reloaded, Constraint.description_reloaded]

end Parameter

/-! ## Resolutions -/

theorem resolveEntry_reloaded {p : Parameter} (agrees : p.Agrees p.reloaded)
    (supplied : Table String) (name : String) :
    resolveEntry supplied name p.reloaded = resolveEntry supplied name p := by
  have same : effectiveValue? supplied name p.reloaded = effectiveValue? supplied name p := rfl
  unfold resolveEntry
  rw [same]
  cases effectiveValue? supplied name p with
  | none => rfl
  | some value =>
      simp only [Parameter.check_reloaded agrees]
      rfl

theorem resolveEntries_reloaded (supplied : Table String) (l : List (String × Parameter))
    (agree : ∀ e ∈ l, e.2.Agrees e.2.reloaded) :
    resolveEntries supplied (l.map fun e => (e.1, e.2.reloaded)) = resolveEntries supplied l := by
  induction l with
  | nil => rfl
  | cons e rest ih =>
      obtain ⟨first, others⟩ := List.forall_mem_cons.mp agree
      rw [List.map_cons, resolveEntries, resolveEntries, resolveEntry_reloaded first, ih others]

namespace Bundle

def constraints (b : Bundle) : List Constraint := b.parameters.values.flatMap Parameter.constraints

/-- The bundles declare the same parameters, each with constraints that admit the same values. -/
def Agrees (b b' : Bundle) : Prop :=
  b'.parameters.keys = b.parameters.keys ∧
    ∀ name p p', b.parameters.get? name = some p → b'.parameters.get? name = some p' → p.Agrees p'

theorem get?_reloaded (b : Bundle) (name : String) :
    b.reloaded.parameters.get? name = (b.parameters.get? name).map Parameter.reloaded :=
  Table.get?_map (fun _ p => Parameter.reloaded p) b.parameters name

theorem agrees_reloaded_iff (b : Bundle) :
    b.Agrees b.reloaded ↔ ∀ c ∈ b.constraints, c.Agrees c.reloaded := by
  have keys : b.reloaded.parameters.keys = b.parameters.keys := Table.keys_map ..
  constructor
  · rintro ⟨-, agree⟩ c member
    obtain ⟨p, declared, member⟩ := List.mem_flatMap.mp member
    obtain ⟨⟨name, _⟩, entry, rfl⟩ := List.mem_map.mp declared
    have found := (b.parameters.get?_eq_some_iff name _).mpr entry
    exact (Parameter.agrees_reloaded_iff _).mp
      (agree name _ _ found (by rw [get?_reloaded, found]; rfl)) c member
  · refine fun each => ⟨keys, fun name p p' found found' => ?_⟩
    rw [get?_reloaded, found] at found'
    cases found'
    have declared : p ∈ b.parameters.values :=
      List.mem_map_of_mem ((b.parameters.get?_eq_some_iff name p).mp found)
    exact p.agrees_reloaded_iff.mpr fun c member => each c (List.mem_flatMap.mpr ⟨p, declared, member⟩)

theorem resolve_reloaded {b : Bundle} (agrees : b.Agrees b.reloaded) (supplied : Table String) :
    resolve b.reloaded supplied = resolve b supplied := by
  have undeclared (name : String) :
      (b.reloaded.parameters.get? name).isNone = (b.parameters.get? name).isNone := by
    rw [get?_reloaded, Option.isNone_map]
  have entries : resolveEntries supplied b.reloaded.parameters.entries =
      resolveEntries supplied b.parameters.entries := by
    refine resolveEntries_reloaded supplied _ fun e member => ?_
    exact e.2.agrees_reloaded_iff.mpr fun c bound => (b.agrees_reloaded_iff.mp agrees) c
      (List.mem_flatMap.mpr ⟨e.2, List.mem_map_of_mem member, bound⟩)
  unfold resolve
  simp only [undeclared, entries]
  rfl

end Bundle

/-- A template that is compiled, saved and loaded declares what it declared.  It validates as before
where every bound of a range is read back or excluded nothing, and where the bounds of each range are
in order only there. -/
theorem saved_template {name source : String} {b : Bundle} (compiled : compile name source = .ok b) :
    ∃ b', Bundle.ofText? b.text = some b' ∧
      b'.source = source ∧ b'.fingerprint = fingerprint source ∧
      ((∀ c ∈ b.constraints, c.Kept) →
        b.Agrees b' ∧ ∀ supplied, resolve b' supplied = resolve b supplied) ∧
      ((∀ c ∈ b.constraints, c.Ordered) → b.Agrees b' → ∀ c ∈ b.constraints, c.Kept) := by
  have source_kept : b.source = source := source_of_compile compiled
  have fingerprint_kept := (fingerprint_of_compile compiled).2
  refine ⟨b.reloaded, b.ofText?_text, source_kept, fingerprint_kept, fun kept => ?_,
    fun ordered agrees c member => ?_⟩
  · have agrees := b.agrees_reloaded_iff.mpr fun c member => (kept c member).agrees
    exact ⟨agrees, Bundle.resolve_reloaded agrees⟩
  · exact (Constraint.kept_iff (ordered c member)).mpr (b.agrees_reloaded_iff.mp agrees c member)

/-! ## A range with one bound -/

/-- A template with one parameter, whose range has this minimum. -/
def sourceFrom (bound : String) : String :=
  "\"parameters\": \x7b\"a\": \x7b\"constraints\": [\x7b\"range\": \x7b\"min\": " ++ bound
    ++ "\x7d\x7d]\x7d\x7d\n"

section Stages
open Yaml

def tokensFrom (bound : String) : List Token :=
  [.blockMappingStart, .key, .scalar false "parameters", .value,
    .flowMappingStart, .key, .scalar false "a", .value,
    .flowMappingStart, .key, .scalar false "constraints", .value,
    .flowSequenceStart, .flowMappingStart, .key, .scalar false "range", .value,
    .flowMappingStart, .key, .scalar false "min", .value, .scalar true bound,
    .flowMappingEnd, .flowMappingEnd, .flowSequenceEnd, .flowMappingEnd, .flowMappingEnd, .blockEnd]

def nodeFrom {ref : Type} (bound : String) : Node ref :=
  .mapping .none [(.scalar .none false "parameters", .mapping .none [(.scalar .none false "a",
    .mapping .none [(.scalar .none false "constraints", .sequence .none [.mapping .none
      [(.scalar .none false "range", .mapping .none
        [(.scalar .none false "min", .scalar .none true bound)])]])])])]

def entryFrom (bound : Yaml.Value) : Yaml.Value :=
  .mapping [(.string "constraints", .sequence
    [.mapping [(.string "range", .mapping [(.string "min", bound)])]])]

def documentFrom (bound : Yaml.Value) : Template.Document := ⟨some [("a", entryFrom bound)], none, none⟩

theorem value_nodeFrom {bound : String} {v : Yaml.Value} (plain : Scalar.plain? bound = some v)
    (d : Yaml.Document) (room : Nat) :
    d.value (room + 7) (nodeFrom bound) =
      pure (.mapping [(.string "parameters", .mapping [(.string "a", entryFrom v)])]) := by
  have quoted (s : String) : Admission.scalar ⟨true, false⟩ .none false s = pure (.string s) := rfl
  have tagged (v : Yaml.Value) : Admission.tagged ⟨true, false⟩ .none v = pure v := rfl
  have scalar : (Admission.scalar ⟨true, false⟩ .none true bound) = pure v := by
    have read : Scalar.value? none true bound = some v := plain
    change (Scalar.value? none true bound : Budget Yaml.Value) = _
    rw [read]
    rfl
  have single (k w : Yaml.Value) : Value.distinctKeys [(k, w)] = true := by
    simp [Value.distinctKeys]
  simp only [nodeFrom, entryFrom, Document.value, Document.read, Document.follow, quoted, tagged,
    scalar, single, List.mapM_cons, List.mapM_nil, pure_bind, Bool.or_true, if_true]

theorem ofText_of_plain {bound : String} {v : Yaml.Value}
    (tokens : tokens? (sourceFrom bound) = some (tokensFrom bound))
    (plain : Scalar.plain? bound = some v) :
    Template.Document.ofText (sourceFrom bound) = .ok (documentFrom v) := by
  refine ofText_of_stages (nodeFrom bound) (nodeFrom bound) ⟨[], [], 18⟩
    [(.string "parameters", .mapping [(.string "a", entryFrom v)])] tokens ?_ ?_ ?_ ?_
  · cbv
  · cbv
  · rw [show Yaml.nestingLimit = 121 + 7 from rfl, value_nodeFrom plain]
    rfl
  · cbv

theorem plain?_infinity : Scalar.plain? ".inf" = some (.number (.binary (.infinity false))) := by
  have word : ¬ (".inf" = "" ∨ Scalar.isNullWord ".inf" = true) := by decide +kernel
  have flag : Scalar.bool? ".inf" = none := by decide +kernel
  have integer : Scalar.integer? ".inf".toList = none := by decide +kernel
  have zero : Scalar.hasLeadingZero ".inf".toList = false := by decide +kernel
  have float : Scalar.float? ".inf".toList = some (.infinity false) := by decide +kernel
  rw [Scalar.plain?, if_neg word, flag, Scalar.integerValue?, integer, zero, float]
  rfl

theorem plain?_two : Scalar.plain? "2" = some (.number (.integer 2)) := by
  have word : ¬ ("2" = "" ∨ Scalar.isNullWord "2" = true) := by decide +kernel
  have flag : Scalar.bool? "2" = none := by decide +kernel
  have integer : Scalar.integer? "2".toList = some 2 := by decide +kernel
  have fits : Scalar.fitsWord 2 = true := by decide +kernel
  rw [Scalar.plain?, if_neg word, flag, Scalar.integerValue?, integer]
  simp only [fits, if_true]

end Stages

theorem compile_sourceFrom {bound : String} {v : Yaml.Value}
    (mentioned : (Sections.mentioned (sourceFrom bound)).any = true)
    (tokens : Yaml.tokens? (sourceFrom bound) = some (tokensFrom bound))
    (plain : Yaml.Scalar.plain? bound = some v) :
    compile "t" (sourceFrom bound) = .ok ((documentFrom v).bundle "t" (sourceFrom bound)) :=
  compile_of_mentioned mentioned (ofText_of_plain tokens plain) "t"

/-- The one parameter, with this minimum. -/
def withMinimum (bound : Option Binary64) (description : String) : Table Parameter :=
  ⟨[("a", ⟨"a", .string, none, none, none, false, [.range bound none description]⟩)],
    List.pairwise_singleton _ _⟩

theorem saved_template_two : ∃ b b', compile "t" (sourceFrom "2") = .ok b ∧
    Bundle.ofText? b.text = some b' ∧ b.Agrees b' ∧
    ∀ supplied, resolve b' supplied = resolve b supplied := by
  have compiled := compile_sourceFrom (by decide +kernel) (by decide +kernel) plain?_two
  have parameters : ((documentFrom (.number (.integer 2))).bundle "t" (sourceFrom "2")).parameters =
      withMinimum (some (.ofNat 2)) "value must be at least 2" := by decide +kernel
  have two : ReadsBack (.ofNat 2) := by
    rw [ReadsBack, reread?_eq]
    decide +kernel
  obtain ⟨b', read, -, -, kept, -⟩ := saved_template compiled
  refine ⟨_, b', compiled, read, kept fun c member => ?_⟩
  rw [Bundle.constraints, parameters] at member
  cases List.mem_singleton.mp member
  exact ⟨fun lo bound => Option.some.inj bound ▸ .inl two, nofun⟩

/-- A minimum that no number reaches is written as null, and then every number passes. -/
theorem infinite_minimum_lost : ∃ b b', compile "t" (sourceFrom ".inf") = .ok b ∧
    Bundle.ofText? b.text = some b' ∧
    resolve b (Table.ofList [("a", "5")]) =
      .error (.constraintViolated "a" .range "value must be at least inf") ∧
    ∃ r, resolve b' (Table.ofList [("a", "5")]) = .ok r := by
  have compiled := compile_sourceFrom (by decide +kernel) (by decide +kernel) plain?_infinity
  have parameters : ((documentFrom (.number (.binary (.infinity false)))).bundle "t"
      (sourceFrom ".inf")).parameters =
        withMinimum (some (.infinity false)) "value must be at least inf" := by decide +kernel
  have loaded : ((documentFrom (.number (.binary (.infinity false)))).bundle "t"
      (sourceFrom ".inf")).reloaded.parameters =
        withMinimum none "value must be at least inf" := by
    rw [Bundle.reloaded, parameters]
    have none : reread (.infinity false) = none := reread_of_not_finite rfl
    simp only [withMinimum, Table.map, List.map_cons, List.map_nil, Parameter.reloaded,
      Constraint.reloaded, Option.bind_some, Option.bind_none, none]
  have rejected : resolveEntries (Table.ofList [("a", "5")])
      (withMinimum (some (.infinity false)) "value must be at least inf").entries =
        .error (.constraintViolated "a" .range "value must be at least inf") := by decide +kernel
  have admitted : resolveEntries (Table.ofList [("a", "5")])
      (withMinimum none "value must be at least inf").entries = .ok [("a", ("5", false))] := by
    decide +kernel
  refine ⟨_, _, compiled, Bundle.ofText?_text _, ?_, ?_⟩
  · rw [resolve, parameters, rejected]
    rfl
  · rw [resolve, loaded, admitted]
    exact ⟨_, rfl⟩

end HeatStack.Template
