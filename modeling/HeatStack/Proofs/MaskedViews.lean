import HeatStack.CommandLine.Report
import HeatStack.Proofs.ResolutionSpec
import HeatStack.Proofs.SecretMasking

/-! # Views that do not depend on hidden values

Two bundles are alike if they differ in nothing but the texts of hidden defaults and, where there is one,
the source that holds it.  Alike bundles look the same in every view (`Alike.masked`, `Alike.bundleLines`),
and a masked bundle is alike to the bundle itself, so the mask takes nothing else away.  The same is said of
resolutions and their values. -/
set_option autoImplicit false
namespace HeatStack.Table
variable {α β γ : Type}

/-- Two tables of the same names, with related values. -/
structure Related (R : α → β → Prop) (s : Table α) (t : Table β) : Prop where
  keys : s.keys = t.keys
  values : ∀ name a b, s.get? name = some a → t.get? name = some b → R a b

theorem Related.map_eq {R : α → β → Prop} {s : Table α} {t : Table β} (related : Related R s t)
    {f : α → γ} {g : β → γ} (view : ∀ a b, R a b → f a = g b) :
    s.map (fun _ a => f a) = t.map fun _ b => g b := by
  refine ext_get? _ _ fun name => ?_
  rw [get?_map, get?_map]
  cases left : s.get? name with
  | none =>
      have right : t.get? name = none := by
        rw [get?_eq_none_iff, ← related.keys, ← get?_eq_none_iff]
        exact left
      rw [right]
      rfl
  | some a =>
      have bound : name ∈ t.keys := by
        rw [← related.keys, mem_keys_iff]
        exact ⟨a, left⟩
      obtain ⟨b, right⟩ := (t.mem_keys_iff name).mp bound
      rw [right]
      exact congrArg some (view a b (related.values name a b left right))

/-- A changed table is related to the one that it comes from. -/
theorem related_map {R : β → α → Prop} (t : Table α) {f : String → α → β}
    (changed : ∀ name a, R (f name a) a) : Related R (t.map f) t := by
  refine ⟨keys_map _ _, fun name b a left right => ?_⟩
  rw [get?_map, right] at left
  cases left
  exact changed name a

theorem size_eq_length_keys (t : Table α) : t.size = t.keys.length := (List.length_map ..).symm

theorem values_map (f : α → β) (t : Table α) : (t.map fun _ a => f a).values = t.values.map f := by
  simp only [values, map, List.map_map]
  rfl

end HeatStack.Table

namespace HeatStack.Template

/-- The same parameter, but for the text of a hidden default. -/
structure Parameter.Alike (p q : Parameter) : Prop where
  name : p.name = q.name
  type : p.type = q.type
  label : p.label = q.label
  description : p.description = q.description
  hidden : p.hidden = q.hidden
  constraints : p.constraints = q.constraints
  present : p.default.isSome = q.default.isSome
  shown : p.hidden = false → p.default = q.default

/-- A hidden parameter has a default. -/
def Bundle.HasSecret (b : Bundle) : Prop :=
  ∃ name p, b.parameters.get? name = some p ∧ p.hidden = true ∧ p.default.isSome = true

/-- The same bundle, but for the texts of hidden defaults and a source that holds one. -/
structure Bundle.Alike (a b : Bundle) : Prop where
  name : a.name = b.name
  version : a.version = b.version
  label : a.label = b.label
  sections : a.sections = b.sections
  parameters : Table.Related Parameter.Alike a.parameters b.parameters
  outputs : a.outputs = b.outputs
  tags : a.tags = b.tags
  source : ¬ a.HasSecret → a.source = b.source
  fingerprint : a.fingerprint = b.fingerprint

/-- The same value, or two that are hidden. -/
def SameOrHidden (v w : String × Bool) : Prop := v.2 = w.2 ∧ (v.2 = false → v.1 = w.1)

/-- The same resolution, but for the values that are hidden. -/
structure Resolution.Alike (r t : Resolution) : Prop where
  template : r.template = t.template
  fingerprint : r.fingerprint = t.fingerprint
  values : Table.Related SameOrHidden r.values t.values

/-! ## Parameters -/

namespace Parameter
variable {p q : Parameter}

theorem masked_alike (p : Parameter) : p.masked.Alike p := by
  obtain ⟨name, type, label, description, default, hidden, constraints⟩ := p
  cases hidden with
  | false => exact ⟨rfl, rfl, rfl, rfl, rfl, rfl, rfl, fun _ => rfl⟩
  | true => exact ⟨rfl, rfl, rfl, rfl, rfl, rfl, Option.isSome_map, fun shown => nomatch shown⟩

theorem Alike.masked (alike : p.Alike q) : p.masked = q.masked := by
  obtain ⟨name, type, label, description, default, hidden, constraints⟩ := p
  obtain ⟨name', type', label', description', default', hidden', constraints'⟩ := q
  obtain ⟨rfl, rfl, rfl, rfl, rfl, rfl, present, shown⟩ := alike
  cases hidden with
  | false =>
      cases shown rfl
      rfl
  | true =>
      -- Both defaults become the mask, or neither is there.
      cases default with
      | none =>
          cases default' with
          | none => rfl
          | some text => cases present
      | some text =>
          cases default' with
          | none => cases present
          | some text' => rfl

theorem masked_of_open (plain : p.hidden = true → p.default = none) : p.masked = p := by
  obtain ⟨name, type, label, description, default, hidden, constraints⟩ := p
  cases hidden with
  | false => rfl
  | true =>
      cases plain rfl
      rfl

open CommandLine in
/-- A listing masks a hidden default by itself. -/
theorem parameterLines_masked (p : Parameter) : parameterLines p.masked = parameterLines p := by
  unfold parameterLines masked displayed
  cases hidden : p.hidden with
  | false => simp [hidden]
  | true => simp [Option.map_map, Function.comp_def]

theorem Alike.parameterLines (alike : p.Alike q) :
    CommandLine.parameterLines p = CommandLine.parameterLines q := by
  rw [← parameterLines_masked p, alike.masked, parameterLines_masked]

end Parameter

/-! ## Bundles -/

namespace Bundle
variable {a b : Bundle}

theorem carriesSecret_eq_false_iff (b : Bundle) : b.carriesSecret = false ↔ ¬ b.HasSecret := by
  rw [← Bool.not_eq_true, carriesSecret_iff]
  exact Iff.rfl

theorem carriesSecret_congr (parameters : Table.Related Parameter.Alike a.parameters b.parameters) :
    a.carriesSecret = b.carriesSecret := by
  -- Whether a parameter holds a secret is seen without its text.
  have same := parameters.map_eq (f := fun p => p.hidden && p.default.isSome)
    (g := fun p => p.hidden && p.default.isSome) fun p q alike => by rw [alike.hidden, alike.present]
  have values := congrArg Table.values same
  rw [Table.values_map, Table.values_map] at values
  have any := congrArg (List.any · id) values
  simp only [List.any_map] at any
  exact any

theorem masked_alike (b : Bundle) : b.masked.Alike b := by
  have parameters : Table.Related Parameter.Alike b.masked.parameters b.parameters :=
    b.parameters.related_map fun _ p => p.masked_alike
  refine ⟨rfl, rfl, rfl, rfl, parameters, rfl, rfl, fun plain => ?_, rfl⟩
  have none : b.carriesSecret = false :=
    (carriesSecret_congr parameters).symm.trans (b.masked.carriesSecret_eq_false_iff.mpr plain)
  unfold masked
  rw [none]
  rfl

theorem Alike.masked (alike : a.Alike b) : a.masked = b.masked := by
  have parameters := alike.parameters.map_eq fun p q same => same.masked
  have secret := carriesSecret_congr alike.parameters
  have source : (if b.carriesSecret then mask else a.source) =
      if b.carriesSecret then mask else b.source := by
    cases carried : b.carriesSecret with
    | true => rfl
    | false => exact alike.source (a.carriesSecret_eq_false_iff.mp (secret.trans carried))
  unfold Bundle.masked
  rw [secret, parameters, source, alike.name, alike.version, alike.label, alike.sections, alike.outputs,
    alike.tags, alike.fingerprint]

theorem Alike.bundleLines (alike : a.Alike b) :
    CommandLine.bundleLines a = CommandLine.bundleLines b := by
  have lines : a.parameters.values.flatMap CommandLine.parameterLines =
      b.parameters.values.flatMap CommandLine.parameterLines := by
    have same := congrArg Table.values (alike.parameters.map_eq fun p q same => same.parameterLines)
    rw [Table.values_map, Table.values_map] at same
    rw [List.flatMap_def, List.flatMap_def, same]
  unfold CommandLine.bundleLines
  rw [lines, Table.size_eq_length_keys, Table.size_eq_length_keys b.parameters, alike.parameters.keys,
    alike.name, alike.outputs, alike.fingerprint, alike.tags]

theorem masked_of_open (plain : ¬ b.HasSecret) : b.masked = b := by
  have parameters : (b.parameters.map fun _ p => p.masked) = b.parameters := by
    refine Table.ext_get? _ _ fun name => ?_
    rw [Table.get?_map]
    cases found : b.parameters.get? name with
    | none => rfl
    | some p =>
        refine congrArg some (p.masked_of_open fun hidden => ?_)
        exact Option.not_isSome_iff_eq_none.mp fun present => plain ⟨name, p, found, hidden, present⟩
  unfold masked
  rw [parameters, b.carriesSecret_eq_false_iff.mpr plain]
  rfl

/-- Other secrets make an alike bundle. -/
theorem withSecrets_alike (secret : b.HasSecret) (source : String) (text : String → String) :
    (b.withSecrets source text).Alike b := by
  have changed : ∀ (name : String) (p : Parameter), Parameter.Alike
      (if p.hidden then { p with default := p.default.map fun _ => text name } else p) p := by
    rintro name ⟨own, type, label, description, default, hidden, constraints⟩
    cases hidden with
    | false => exact ⟨rfl, rfl, rfl, rfl, rfl, rfl, rfl, fun _ => rfl⟩
    | true => exact ⟨rfl, rfl, rfl, rfl, rfl, rfl, Option.isSome_map, fun shown => nomatch shown⟩
  have parameters : Table.Related Parameter.Alike (b.withSecrets source text).parameters b.parameters :=
    b.parameters.related_map changed
  refine ⟨rfl, rfl, rfl, rfl, parameters, rfl, rfl, fun plain => absurd ?_ plain, rfl⟩
  rw [HasSecret, ← carriesSecret_iff, carriesSecret_congr parameters, carriesSecret_iff]
  exact secret

end Bundle

/-! ## Resolutions -/

namespace Resolution
variable {r t : Resolution}

theorem Alike.masked (alike : r.Alike t) : r.masked = t.masked := by
  refine alike.values.map_eq fun v w same => ?_
  obtain ⟨hidden, shown⟩ := same
  rw [← hidden]
  cases secret : v.2 with
  | true => rfl
  | false => exact shown secret

theorem Alike.debugText (alike : r.Alike t) : r.debugText = t.debugText := by
  unfold Resolution.debugText
  rw [alike.template, alike.masked]

theorem get?_masked (r : Resolution) (name : String) :
    r.masked.get? name = (r.values.get? name).map fun v => if v.2 then mask else v.1 :=
  Table.get?_map _ _ _

end Resolution

section
variable {b : Bundle} {supplied supplied' : Table String} {r t : Resolution}

/-- A value is hidden just where its parameter is. -/
theorem hidden_of_resolve (resolved : resolve b supplied = .ok r) {name : String} {p : Parameter}
    {v : String × Bool} (declared : b.parameters.get? name = some p)
    (found : r.values.get? name = some v) : v.2 = p.hidden := by
  obtain ⟨-, -, -, -, each⟩ := resolve_eq_ok supplied b r resolved
  obtain ⟨w, found', entry⟩ := each name p declared
  cases found.symm.trans found'
  exact ((resolveEntry_eq_ok_iff supplied name p v).mp entry).2.2

theorem declared_of_resolve (resolved : resolve b supplied = .ok r) {name : String} {v : String × Bool}
    (found : r.values.get? name = some v) : ∃ p, b.parameters.get? name = some p := by
  obtain ⟨-, -, -, keys, -⟩ := resolve_eq_ok supplied b r resolved
  rw [← Table.mem_keys_iff, ← keys, Table.mem_keys_iff]
  exact ⟨v, found⟩

theorem alike_of_resolve (resolved : resolve b supplied = .ok r) (resolved' : resolve b supplied' = .ok t)
    (shown : ∀ name p, b.parameters.get? name = some p → p.hidden = false → r.get? name = t.get? name) :
    r.Alike t := by
  obtain ⟨-, template, fingerprint, keys, -⟩ := resolve_eq_ok supplied b r resolved
  obtain ⟨-, template', fingerprint', keys', -⟩ := resolve_eq_ok supplied' b t resolved'
  refine ⟨template.trans template'.symm, fingerprint.trans fingerprint'.symm, keys.trans keys'.symm,
    fun name v w left right => ?_⟩
  obtain ⟨p, declared⟩ := declared_of_resolve resolved left
  have hidden := hidden_of_resolve resolved declared left
  refine ⟨hidden.trans (hidden_of_resolve resolved' declared right).symm, fun plain => ?_⟩
  have same := shown name p declared (hidden.symm.trans plain)
  rw [Resolution.get?, Resolution.get?, left, right] at same
  exact Option.some.inj same

theorem masked_of_resolve (resolved : resolve b supplied = .ok r) :
    r.masked.keys = b.parameters.keys ∧
    ∀ name p, b.parameters.get? name = some p →
      (p.hidden = false → r.masked.get? name = r.get? name) ∧
      (p.hidden = true → r.masked.get? name = some mask) := by
  obtain ⟨-, -, -, keys, each⟩ := resolve_eq_ok supplied b r resolved
  refine ⟨(Table.keys_map _ _).trans keys, fun name p declared => ?_⟩
  obtain ⟨v, found, -⟩ := each name p declared
  have hidden := hidden_of_resolve resolved declared found
  rw [Resolution.get?_masked, Resolution.get?, found, Option.map_some, Option.map_some, hidden]
  refine ⟨fun plain => ?_, fun secret => ?_⟩
  · rw [plain, if_neg Bool.false_ne_true]
  · rw [secret, if_pos rfl]

end

/-! ## All views -/

open CommandLine in
/-- What is shown of a bundle, as a record or as a listing, is the same for alike bundles, and the masked
bundle is one of them; so nothing but secrets is masked, and masking again changes nothing.  What is shown
of a resolution, by itself or in a log, is the same for alike resolutions, and so for two of one bundle
that agree on the parameters that are not hidden.  All names are shown, and those values as they stand. -/
theorem masked_views :
    (∀ a b : Bundle, a.Alike b →
      a.masked = b.masked ∧ a.masked.text = b.masked.text ∧ bundleLines a = bundleLines b) ∧
    (∀ b : Bundle, b.masked.Alike b ∧ b.masked.masked = b.masked ∧ (¬ b.HasSecret → b.masked = b)) ∧
    (∀ r t : Resolution, r.Alike t → r.masked = t.masked ∧ r.debugText = t.debugText) ∧
    (∀ b supplied supplied' r t, resolve b supplied = .ok r → resolve b supplied' = .ok t →
      (∀ name p, b.parameters.get? name = some p → p.hidden = false → r.get? name = t.get? name) →
      r.Alike t) ∧
    (∀ b supplied r, resolve b supplied = .ok r →
      r.masked.keys = b.parameters.keys ∧
      ∀ name p, b.parameters.get? name = some p →
        (p.hidden = false → r.masked.get? name = r.get? name) ∧
        (p.hidden = true → r.masked.get? name = some mask)) := by
  refine ⟨fun a b alike => ?_, fun b => ?_, fun r t alike => ?_, ?_, ?_⟩
  · exact ⟨alike.masked, congrArg Bundle.text alike.masked, alike.bundleLines⟩
  · exact ⟨b.masked_alike, b.masked_alike.masked, b.masked_of_open⟩
  · exact ⟨alike.masked, alike.debugText⟩
  · intro b supplied supplied' r t resolved resolved' shown
    exact alike_of_resolve resolved resolved' shown
  · exact fun b supplied r resolved => masked_of_resolve resolved

/-- A template for a database, with its password as a default. -/
def database : Bundle where
  name := "db"
  version := ""
  label := ""
  sections := ⟨true, false, false⟩
  parameters := .ofList [("flavor", { Parameter.bare "flavor" .string with default := some "small" }),
    ("password", { Parameter.bare "password" .string with default := some "hunter2", hidden := true })]
  outputs := {}
  tags := none
  source := "password: hunter2"
  fingerprint := "f"

/-- The same template with another password. -/
def otherDatabase : Bundle := database.withSecrets "password: letmein" fun _ => "letmein"

theorem masked_views_database :
    otherDatabase.Alike database ∧ otherDatabase ≠ database ∧
    otherDatabase.masked.text = database.masked.text ∧
    CommandLine.bundleLines otherDatabase = CommandLine.bundleLines database ∧
    ∃ r t, resolve database {} = .ok r ∧ resolve database (.ofList [("password", "letmein")]) = .ok t ∧
      r.get? "password" ≠ t.get? "password" ∧ r.debugText = t.debugText ∧
      t.masked.get? "flavor" = some "small" := by
  have secret : database.HasSecret := ⟨"password", _, rfl, rfl, rfl⟩
  have alike : otherDatabase.Alike database := database.withSecrets_alike secret _ _
  obtain ⟨-, text, lines⟩ := masked_views.1 _ _ alike
  have resolved : resolve database {} = .ok ⟨"db", "f",
      .ofList [("flavor", "small", false), ("password", "hunter2", true)]⟩ := by rfl
  have resolved' : resolve database (.ofList [("password", "letmein")]) = .ok ⟨"db", "f",
      .ofList [("flavor", "small", false), ("password", "letmein", true)]⟩ := by rfl
  refine ⟨alike, by decide, text, lines, _, _, resolved, resolved', by decide, ?_, ?_⟩
  · refine (masked_views.2.2.1 _ _ (masked_views.2.2.2.1 database _ _ _ _ resolved resolved' ?_)).2
    intro name p declared shown
    obtain rfl | other := eq_or_ne name "password"
    · cases declared
      cases shown
    · simp only [Resolution.get?, Table.ofList, List.foldl_cons, List.foldl_nil, Table.get?_insert,
        if_neg other]
  · refine ((masked_views.2.2.2.2 database _ _ resolved').2 "flavor" _ rfl).1 rfl |>.trans rfl

end HeatStack.Template
