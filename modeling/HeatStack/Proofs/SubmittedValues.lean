import HeatStack.Proofs.CallProtocol
import HeatStack.Proofs.ResolutionSpec
import HeatStack.Proofs.SecretMasking

/-! # The values that reach a stack

Values are resolved for one template, and a run puts them to the service with another one, which may
have been compiled under another name.  The fingerprint ties the two together: only values that have been
checked against the very text that is submitted get there. -/
set_option autoImplicit false
namespace HeatStack.Lifecycle
open HeatStack.Template

/-- What a call creates or updates a stack with. -/
def Call.request? : Call → Option Request
  | .create request => some request
  | .update request => some request
  | _ => none

/-- A request for a template with the values resolved, each of them checked against its parameter. -/
structure Request.Checked (request : Request) (source : String) (b : Bundle) (r : Resolution) :
    Prop where
  template : request.template = source
  parameters : request.parameters = r
  names : r.values.keys = b.parameters.keys
  checked : ∀ name value, r.get? name = some value →
    ∃ p, b.parameters.get? name = some p ∧ p.check value = .ok ()

/-- Each value of a resolution has passed the check of its parameter. -/
theorem checked_of_resolve {supplied : Table String} {b : Bundle} {r : Resolution}
    (resolved : resolve b supplied = .ok r) {name value : String} (found : r.get? name = some value) :
    ∃ p, b.parameters.get? name = some p ∧ p.check value = .ok () := by
  obtain ⟨-, -, -, keys, each⟩ := resolve_eq_ok supplied b r resolved
  rw [Resolution.get?, Option.map_eq_some_iff] at found
  obtain ⟨v, found, rfl⟩ := found
  have declared : name ∈ b.parameters.keys := by
    rw [← keys, Table.mem_keys_iff]
    exact ⟨v, found⟩
  obtain ⟨p, declared⟩ := (Table.mem_keys_iff _ _).mp declared
  obtain ⟨w, found', entry⟩ := each name p declared
  cases Option.some.inj (found.symm.trans found')
  exact ⟨p, declared, ((resolveEntry_eq_ok_iff supplied name p v).mp entry).2.1⟩

namespace Setting
variable {s : Setting} {m : Moment} {o : Outcome}

theorem request_of_submission {request : Request} (made : s.submission.request? = some request) :
    request = s.request := by
  unfold submission at made
  cases action : s.options.action <;> rw [action] at made <;> cases made <;> rfl

theorem request_of_calls {calls : List Call} {state : State} (protocol : s.Protocol calls state)
    {call : Call} (made : call ∈ calls) {request : Request} (carries : call.request? = some request) :
    request = s.request := by
  rcases protocol.mem.1 call made with rfl | rfl | rfl
  · exact request_of_submission carries
  · cases carries
  · cases carries

section
variable {source foreign name other : String} {a : Bundle} {supplied : Table String}

theorem fault_of_foreign (compiled : compile other foreign = .ok a)
    (submitted : compile name source = .ok s.bundle) (resolved : resolve a supplied = .ok s.parameters)
    (profile : s.profile.check = .ok ()) (different : fingerprint foreign ≠ fingerprint source) :
    s.Fault (.foreignTemplate other name) := by
  obtain ⟨called, marked⟩ := fingerprint_of_compile compiled
  obtain ⟨called', marked'⟩ := fingerprint_of_compile submitted
  obtain ⟨-, template, print, -⟩ := resolve_eq_ok supplied a s.parameters resolved
  refine .parameters profile ?_
  unfold Resolution.checkFor
  rw [if_neg, template, called, called']
  rw [print, marked, marked']
  exact different

/-- Values for the same text, whatever its name was. -/
theorem checked_request (compiled : compile other source = .ok a)
    (submitted : compile name source = .ok s.bundle)
    (resolved : resolve a supplied = .ok s.parameters) :
    s.request.Checked source s.bundle s.parameters := by
  have same := parameters_of_compile compiled submitted
  obtain ⟨-, -, -, keys, -⟩ := resolve_eq_ok supplied a s.parameters resolved
  refine ⟨source_of_compile submitted, rfl, ?_, fun name value found => ?_⟩
  · rw [keys, same]
  · rw [← same]
    exact checked_of_resolve resolved found

/-- No value reaches a stack that has not been checked for it.  Where the values were resolved for one
text and another is submitted, and the two have different fingerprints, nothing is called at all. -/
theorem submitted_values_checked (s : Setting) (compiled : compile other foreign = .ok a)
    (submitted : compile name source = .ok s.bundle) (resolved : resolve a supplied = .ok s.parameters)
    (profile : s.profile.check = .ok ())
    (distinct : foreign ≠ source → fingerprint foreign ≠ fingerprint source) :
    (∀ m, s.Occurs m → ∀ call ∈ m.progress.calls.map Prod.snd, ∀ request,
      call.request? = some request →
        foreign = source ∧ request.Checked source s.bundle s.parameters) ∧
    (∀ fuel o, s.run fuel = .ok (some o) → ∀ call ∈ o.calls.map Prod.snd, ∀ request,
      call.request? = some request →
        foreign = source ∧ request.Checked source s.bundle s.parameters) ∧
    (foreign ≠ source →
      (∀ fuel, s.run fuel = .error (.foreignTemplate other name)) ∧
      ∀ m, s.Occurs m → m.progress.calls = []) := by
  -- Values for another text are a fault, which no run gets past; so any call is for the same text.
  have refused : foreign ≠ source → s.Fault (.foreignTemplate other name) := fun different =>
    fault_of_foreign compiled submitted resolved profile (distinct different)
  have checked : ∀ request, foreign = source → request = s.request →
      foreign = source ∧ request.Checked source s.bundle s.parameters := by
    rintro request rfl rfl
    exact ⟨rfl, checked_request compiled submitted resolved⟩
  refine ⟨fun m occurs call made request carries => ?_, fun fuel o ran call made request carries => ?_,
    fun different => ?_⟩
  · rcases occurs.protocol with ⟨silent, -⟩ | protocol
    · rw [silent] at made
      cases made
    · refine checked request ?_ (request_of_calls protocol made carries)
      by_contra different
      have start := (Occurs.start_of_fault (refused different) occurs).2
      rw [start, s.silent_start.1] at made
      cases made
  · rcases protocol_of_run ran with ⟨-, silent, -⟩ | ⟨-, protocol⟩
    · rw [silent] at made
      cases made
    · refine checked request ?_ (request_of_calls protocol made carries)
      by_contra different
      rw [run_of_fault (refused different)] at ran
      cases ran
  · have fault := refused different
    refine ⟨run_of_fault fault, fun m occurs => ?_⟩
    rw [(Occurs.start_of_fault fault occurs).2]
    exact s.silent_start.1

end

/-! ## Two templates with one parameter -/

/-- The default of the one parameter, resolved under one name of the text. -/
def firstValues : Resolution :=
  ⟨"one", fingerprint (sourceWith "\"x\""),
    .ofList [("a", ("\x7b\"x\":\"secret\"\x7d", true))]⟩

/-- A run with the same text under another name. -/
def renamed : Setting :=
  { lateOutputs with
    bundle := (documentWith (.string "x")).bundle "two" (sourceWith "\"x\"")
    parameters := firstValues }

/-- A run with those values and a text that they were not resolved for. -/
def mistaken : Setting :=
  { lateOutputs with
    bundle := (documentWith (.sequence [.string "x"])).bundle "two" (sourceWith "[\"x\"]")
    parameters := firstValues }

theorem resolve_firstValues :
    resolve ((documentWith (.string "x")).bundle "one" (sourceWith "\"x\"")) {} = .ok firstValues := by
  have entries : resolveEntries {}
      (entryTable Parameter.ofEntry [("a", entryWith (.string "x"))]).entries =
        .ok [("a", ("\x7b\"x\":\"secret\"\x7d", true))] := by cbv
  have parameters : ((documentWith (.string "x")).bundle "one" (sourceWith "\"x\"")).parameters =
      entryTable Parameter.ofEntry [("a", entryWith (.string "x"))] := rfl
  unfold resolve
  rw [parameters, entries]
  rfl

theorem submitted_values_checked_renamed :
    (renamed.Occurs ⟨.submitting 0, (Progress.start renamed).issue (.create renamed.request), false⟩ ∧
      renamed.request.Checked (sourceWith "\"x\"") renamed.bundle firstValues) ∧
    ∀ fuel, mistaken.run fuel = .error (.foreignTemplate "one" "two") := by
  have mentioned : (Sections.mentioned (sourceWith "\"x\"")).any = true := by decide +kernel
  have compiled := compile_of_mentioned mentioned ofText_textKey "one"
  have profile : renamed.profile.check = .ok () := check_localProfile
  constructor
  · have checked := submitted_values_checked renamed compiled
      (compile_of_mentioned mentioned ofText_textKey "two") resolve_firstValues profile
      (fun different => absurd rfl different)
    have enters := Moves.enter (s := renamed) false
    have parameters : renamed.parameters.checkFor renamed.bundle = .ok () := if_pos rfl
    rw [enter_of_checked profile parameters, if_neg Bool.false_ne_true] at enters
    have occurs : renamed.Occurs
        ⟨.submitting 0, (Progress.start renamed).issue (.create renamed.request), false⟩ :=
      .single enters
    exact ⟨occurs, (checked.1 _ occurs _ (List.mem_singleton.mpr rfl) renamed.request rfl).2⟩
  · have mentioned' : (Sections.mentioned (sourceWith "[\"x\"]")).any = true := by decide +kernel
    have distinct : fingerprint (sourceWith "\"x\"") ≠ fingerprint (sourceWith "[\"x\"]") := by
      decide +kernel
    have refused := submitted_values_checked mistaken compiled
      (compile_of_mentioned mentioned' ofText_listKey "two") resolve_firstValues profile
      (fun _ => distinct)
    exact (refused.2.2 fun same => distinct (congrArg fingerprint same)).1

end Setting
end HeatStack.Lifecycle
