import HeatStack.Proofs.MaskedViews
import HeatStack.Proofs.SubmittedValues

/-! # The identity of a template

A bundle keeps the fingerprint of the text that it was made of, whatever is done to it.  It keeps the text
itself until it becomes a copy for display that has something to hide (`Bundle.Conceals`).  So the
fingerprint that the values carry is that of the submitted text, unless it is such a copy that a run is
given. -/
set_option autoImplicit false
namespace HeatStack.Template

/-- What can be done to a bundle. -/
inductive Edit
  | parameter (p : Parameter)
  | output (o : Output)
  | versionLabel (version label : String)
  | masked

def Bundle.apply (b : Bundle) : Edit → Bundle
  | .parameter p => b.insertParameter p
  | .output o => b.insertOutput o
  | .versionLabel version label => b.withVersionLabel version label
  | .masked => b.masked

namespace Bundle
variable {b : Bundle} {edit : Edit} {edits : List Edit} {source : String}

/-- The bundle of a text, before anything is done to it. -/
inductive Made (source : String) : Bundle → Prop
  | empty (name : String) : Made source (.empty name source)
  | compiled (name : String) (b : Bundle) : compile name source = .ok b → Made source b

def edited (b : Bundle) (edits : List Edit) : Bundle := edits.foldl apply b

/-- On the way a hidden default is masked, and the text with it. -/
def Conceals (b : Bundle) (edits : List Edit) : Prop :=
  ∃ before after, edits = before ++ .masked :: after ∧ (b.edited before).HasSecret

theorem Made.marked (made : Made source b) :
    b.source = source ∧ b.fingerprint = Template.fingerprint source := by
  cases made with
  | empty name => exact ⟨rfl, rfl⟩
  | compiled name b compiled => exact ⟨source_of_compile compiled, (fingerprint_of_compile compiled).2⟩

theorem fingerprint_edited (b : Bundle) (edits : List Edit) :
    (b.edited edits).fingerprint = b.fingerprint := by
  induction edits generalizing b with
  | nil => rfl
  | cons edit edits ih =>
      refine (ih (b.apply edit)).trans ?_
      cases edit <;> rfl

theorem not_conceals_nil (b : Bundle) : ¬ b.Conceals [] := by
  rintro ⟨before, after, split, -⟩
  exact List.append_ne_nil_of_right_ne_nil before (List.cons_ne_nil _ _) split.symm

theorem not_conceals_of_not_mem (absent : .masked ∉ edits) : ¬ b.Conceals edits := by
  rintro ⟨before, after, rfl, -⟩
  exact absent (List.mem_append_right _ List.mem_cons_self)

theorem conceals_cons_iff :
    b.Conceals (edit :: edits) ↔ edit = .masked ∧ b.HasSecret ∨ (b.apply edit).Conceals edits := by
  constructor
  · rintro ⟨before, after, split, secret⟩
    cases before with
    | nil =>
        cases split
        exact .inl ⟨rfl, secret⟩
    | cons first before =>
        obtain ⟨rfl, rest⟩ := List.cons.inj split
        exact .inr ⟨before, after, rest, secret⟩
  · rintro (⟨rfl, secret⟩ | ⟨before, after, rfl, secret⟩)
    · exact ⟨[], edits, rfl, secret⟩
    · exact ⟨edit :: before, after, rfl, secret⟩

theorem source_apply_of_secret (secret : b.HasSecret) : (b.apply .masked).source = mask :=
  if_pos ((carriesSecret_iff b).mpr secret)

theorem source_apply (plain : ¬ (edit = .masked ∧ b.HasSecret)) : (b.apply edit).source = b.source := by
  cases edit with
  | parameter p => rfl
  | output o => rfl
  | versionLabel version label => rfl
  | masked =>
      have none : ¬ b.HasSecret := fun secret => plain ⟨rfl, secret⟩
      exact congrArg Bundle.source (b.masked_of_open none)

/-- The text is kept or concealed; nothing else becomes of it. -/
theorem source_edited (b : Bundle) (edits : List Edit) :
    (b.Conceals edits → (b.edited edits).source = mask) ∧
    (¬ b.Conceals edits → (b.edited edits).source = b.source) := by
  induction edits generalizing b with
  | nil => exact ⟨fun conceals => absurd conceals b.not_conceals_nil, fun _ => rfl⟩
  | cons edit edits ih =>
      obtain ⟨concealed, kept⟩ := ih (b.apply edit)
      rw [conceals_cons_iff]
      refine ⟨fun conceals => ?_, fun plain => ?_⟩
      · by_cases later : (b.apply edit).Conceals edits
        · exact concealed later
        · -- What has been concealed stays so.
          obtain ⟨rfl, secret⟩ := conceals.resolve_right later
          exact (kept later).trans (source_apply_of_secret secret)
      · obtain ⟨first, later⟩ := not_or.mp plain
        exact (kept later).trans (source_apply first)

end Bundle
end HeatStack.Template

namespace HeatStack.Lifecycle
open HeatStack.Template

namespace Setting
variable {s : Setting} {request : Request}

/-- The run puts this request to the service. -/
def Requests (s : Setting) (request : Request) : Prop :=
  ∃ calls call, s.Makes calls ∧ call ∈ calls.map Prod.snd ∧ call.request? = some request

theorem Requests.moment (requests : s.Requests request) :
    ∃ m call, s.Occurs m ∧ call ∈ m.progress.calls.map Prod.snd ∧ call.request? = some request := by
  obtain ⟨calls, call, makes, made, carries⟩ := requests
  obtain ⟨m, occurs, rfl⟩ := makes.moment
  exact ⟨m, call, occurs, made, carries⟩

theorem Requests.eq (requests : s.Requests request) : request = s.request := by
  obtain ⟨m, call, occurs, made, carries⟩ := requests.moment
  rcases occurs.protocol with ⟨silent, -⟩ | protocol
  · rw [silent] at made
    cases made
  · exact request_of_calls protocol made carries

/-- A request is made only where the values carry the fingerprint of the bundle. -/
theorem Requests.fingerprint (requests : s.Requests request) :
    s.parameters.fingerprint = s.bundle.fingerprint := by
  obtain ⟨m, call, occurs, made, carries⟩ := requests.moment
  have silent : ∀ e, ¬ s.Fault e := by
    intro e fault
    rw [(Occurs.start_of_fault fault occurs).2, s.silent_start.1] at made
    cases made
  cases profile : s.profile.check with
  | error e => exact absurd (.profile profile) (silent e)
  | ok =>
      by_contra different
      exact silent _ (.parameters profile (if_neg different))

theorem requests_of_checked (profile : s.profile.check = .ok ())
    (parameters : s.parameters.checkFor s.bundle = .ok ()) (creates : s.options.action = .create) :
    s.Requests s.request := by
  have enters := Moves.enter (s := s) false
  rw [enter_of_checked profile parameters, if_neg Bool.false_ne_true] at enters
  have submission : s.submission = .create s.request := by rw [Setting.submission, creates]
  refine ⟨_, .create s.request, .occurs _ (.single enters) rfl, ?_, rfl⟩
  rw [← submission]
  exact List.mem_singleton.mpr rfl

/-- The template of a request has the fingerprint that the values carry, and that is the fingerprint of
the text that they were resolved for.  Only of a bundle with something to hide that has become a copy for
display is the mask submitted, under the fingerprint of the text behind it. -/
theorem template_identity (s : Setting) {source foreign : String} {a b : Bundle} {edits edits' : List Edit}
    {supplied : Table String} (made : Bundle.Made source b) (bundle : s.bundle = b.edited edits)
    (made' : Bundle.Made foreign a) (resolved : resolve (a.edited edits') supplied = .ok s.parameters)
    (requests : s.Requests request) :
    s.parameters.fingerprint = fingerprint source ∧ fingerprint foreign = fingerprint source ∧
    (¬ b.Conceals edits →
      request.template = source ∧ fingerprint request.template = s.parameters.fingerprint) ∧
    (b.Conceals edits →
      request.template = mask ∧
        (fingerprint request.template = s.parameters.fingerprint ↔
          fingerprint mask = fingerprint source)) := by
  obtain ⟨text, marked⟩ := made.marked
  obtain ⟨-, marked'⟩ := made'.marked
  obtain ⟨-, -, print, -⟩ := resolve_eq_ok supplied _ s.parameters resolved
  have carried : s.parameters.fingerprint = fingerprint source := by
    rw [requests.fingerprint, bundle, Bundle.fingerprint_edited, marked]
  have same : fingerprint foreign = fingerprint source := by
    rw [← carried, print, Bundle.fingerprint_edited, marked']
  have template : request.template = (b.edited edits).source := by
    rw [requests.eq, ← bundle]
    rfl
  obtain ⟨concealed, kept⟩ := b.source_edited edits
  refine ⟨carried, same, fun plain => ?_, fun conceals => ?_⟩
  · rw [template, kept plain, text, carried]
    exact ⟨rfl, rfl⟩
  · rw [template, concealed conceals, carried]
    exact ⟨rfl, Iff.rfl⟩

/-- The text under another name, with another version and one more output. -/
def relabelled : Setting :=
  { renamed with
    bundle := renamed.bundle.edited [.versionLabel "2" "nightly", .output ⟨"address", none⟩] }

/-- The text as it is displayed. -/
def displayed : Setting := { renamed with bundle := renamed.bundle.edited [.masked] }

theorem template_identity_relabelled :
    relabelled.Requests relabelled.request ∧ relabelled.request.template = sourceWith "\"x\"" ∧
    fingerprint relabelled.request.template = firstValues.fingerprint := by
  have mentioned : (Sections.mentioned (sourceWith "\"x\"")).any = true := by decide +kernel
  have requests : relabelled.Requests relabelled.request :=
    requests_of_checked check_localProfile (if_pos rfl) rfl
  have plain : ¬ renamed.bundle.Conceals [.versionLabel "2" "nightly", .output ⟨"address", none⟩] :=
    Bundle.not_conceals_of_not_mem (by simp)
  have resolved : resolve (((documentWith (.string "x")).bundle "one" (sourceWith "\"x\"")).edited []) {} =
      .ok relabelled.parameters := resolve_firstValues
  obtain ⟨-, -, kept, -⟩ := template_identity relabelled
    (.compiled "two" _ (compile_of_mentioned mentioned ofText_textKey "two")) rfl
    (.compiled "one" _ (compile_of_mentioned mentioned ofText_textKey "one")) resolved requests
  exact ⟨requests, kept plain⟩

/-- What is displayed of a text can be submitted in its place. -/
theorem template_identity_displayed :
    ∃ a b supplied edits,
      Bundle.Made (sourceWith "\"x\"") a ∧ Bundle.Made (sourceWith "\"x\"") b ∧
      resolve a supplied = .ok displayed.parameters ∧ displayed.bundle = b.edited edits ∧
      displayed.parameters.checkFor displayed.bundle = .ok () ∧ displayed.Requests displayed.request ∧
      fingerprint displayed.request.template ≠ displayed.parameters.fingerprint := by
  have mentioned : (Sections.mentioned (sourceWith "\"x\"")).any = true := by decide +kernel
  have distinct : fingerprint mask ≠ fingerprint (sourceWith "\"x\"") := by decide +kernel
  have requests : displayed.Requests displayed.request :=
    requests_of_checked check_localProfile (if_pos rfl) rfl
  have parameters : renamed.bundle.parameters =
      entryTable Parameter.ofEntry [("a", entryWith (.string "x"))] := rfl
  have secret : renamed.bundle.HasSecret := by
    rw [Bundle.HasSecret, ← Bundle.carriesSecret_iff, Bundle.carriesSecret, parameters]
    cbv
  have template : displayed.request.template = mask := Bundle.source_apply_of_secret secret
  refine ⟨_, _, {}, [.masked], .compiled "one" _ (compile_of_mentioned mentioned ofText_textKey "one"),
    .compiled "two" _ (compile_of_mentioned mentioned ofText_textKey "two"), resolve_firstValues, rfl,
    if_pos rfl, requests, ?_⟩
  rw [template]
  exact distinct

end Setting
end HeatStack.Lifecycle
