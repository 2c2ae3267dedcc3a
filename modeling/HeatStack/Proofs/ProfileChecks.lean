import HeatStack.Connection.Check
import HeatStack.Proofs.CallProtocol
import HeatStack.Proofs.TextParts

/-! # Checks of a profile

A profile is looked at in three places: by the check itself, which names one fault; by the connection check,
which names all the missing fields and asks the service to authenticate; and by a run before it submits.
`Unfilled` says which fields are missing and `Url.Serves` which addresses will do, and all three let the same
profiles pass (`profile_checks_agree`). -/
set_option autoImplicit false

namespace HeatStack

/-- The fields that may have to be filled in, in the order of the form. -/
def ProfileField.form : List ProfileField := [.project, .url, .domain, .user, .password]

inductive InputError.OfProfile : InputError → Prop
  | missing (field : ProfileField) : OfProfile (.missingField field)
  | url (fault : Url.Fault) : OfProfile (.invalidUrl fault)

namespace Url

inductive Serves (text : String) : Prop
  | http : schemeOf text = .ok "http" → Serves text
  | https : schemeOf text = .ok "https" → Serves text

/-- A text that is no address, or the address of something else. -/
inductive Refuses (text : String) : Fault → Prop
  | malformed (fault : Fault) : schemeOf text = .error fault → Refuses text fault
  | foreign (scheme : String) :
      schemeOf text = .ok scheme → scheme ≠ "http" → scheme ≠ "https" →
      Refuses text (.unsupportedScheme scheme)

theorem check_eq_ok_iff {text : String} : check text = .ok () ↔ Serves text := by
  unfold check
  constructor
  · intro accepted
    cases parsed : schemeOf text with
    | error fault =>
        rw [parsed] at accepted
        cases accepted
    | ok scheme =>
        rw [parsed] at accepted
        dsimp only at accepted
        split at accepted
        · next web =>
          rcases web with rfl | rfl
          · exact .http parsed
          · exact .https parsed
        · cases accepted
  · intro serves
    cases serves with
    | http parsed => rw [parsed]; rfl
    | https parsed => rw [parsed]; rfl

theorem check_eq_error_iff {text : String} {fault : Fault} :
    check text = .error fault ↔ Refuses text fault := by
  unfold check
  constructor
  · intro refused
    cases parsed : schemeOf text with
    | error fault' =>
        rw [parsed] at refused
        cases refused
        exact .malformed fault parsed
    | ok scheme =>
        rw [parsed] at refused
        dsimp only at refused
        split at refused
        · cases refused
        · next other =>
          cases refused
          obtain ⟨http, https⟩ := not_or.mp other
          exact .foreign scheme parsed http https
  · intro refuses
    cases refuses with
    | malformed fault parsed => rw [parsed]
    | foreign scheme parsed http https =>
        rw [parsed]
        exact if_neg (not_or.mpr ⟨http, https⟩)

end Url

namespace Connection
open HeatStack.Text HeatStack.Lifecycle

namespace Profile

/-- A field that is needed and has nothing in it: blanks fill no field but the password, and only the third
version of the identity service needs a domain. -/
inductive Unfilled (p : Profile) : ProfileField → Prop
  | project : trim p.project = "" → Unfilled p .project
  | url : trim p.url = "" → Unfilled p .url
  | domain : p.v3 = true → trim p.domain = "" → Unfilled p .domain
  | user : trim p.user = "" → Unfilled p .user
  | password : p.password.plain = "" → Unfilled p .password

variable {p : Profile} {field : ProfileField} {fields : List ProfileField} {e : InputError}
  {service : Service}

/-! ## Missing fields -/

theorem lacks_iff : p.lacks field = true ↔ p.Unfilled field := by
  cases field with
  | project =>
      refine (trim_eq_empty_iff p.project).symm.trans ⟨.project, fun unfilled => ?_⟩
      cases unfilled
      assumption
  | url =>
      refine (trim_eq_empty_iff p.url).symm.trans ⟨.url, fun unfilled => ?_⟩
      cases unfilled
      assumption
  | domain =>
      rw [lacks, Bool.and_eq_true, ← trim_eq_empty_iff]
      refine ⟨fun both => .domain both.1 both.2, fun unfilled => ?_⟩
      cases unfilled with
      | domain needed blank => exact ⟨needed, blank⟩
  | user =>
      refine (trim_eq_empty_iff p.user).symm.trans ⟨.user, fun unfilled => ?_⟩
      cases unfilled
      assumption
  | password =>
      refine beq_iff_eq.trans ⟨.password, fun unfilled => ?_⟩
      cases unfilled
      assumption

theorem missingFields_sublist (p : Profile) : p.missingFields.Sublist ProfileField.form :=
  List.filter_sublist

theorem mem_missingFields_iff : field ∈ p.missingFields ↔ p.Unfilled field := by
  have listed : field ∈ ProfileField.form := by cases field <;> decide
  rw [← lacks_iff]
  exact List.mem_filter.trans (and_iff_right listed)

/-! ## The check -/

theorem check_of_missing (missing : p.missingFields = field :: fields) :
    p.check = .error (.missingField field) := by
  unfold check
  rw [missing]

theorem check_of_filled (filled : p.missingFields = []) :
    p.check = (Url.check (trim p.url)).mapError .invalidUrl := by
  unfold check
  rw [filled]

theorem check_eq_ok_iff : p.check = .ok () ↔ p.missingFields = [] ∧ Url.Serves (trim p.url) := by
  rw [← Url.check_eq_ok_iff]
  cases missing : p.missingFields with
  | cons field fields => simp [check_of_missing missing]
  | nil =>
      rw [check_of_filled missing]
      cases Url.check (trim p.url) <;> simp [Except.mapError]

theorem check_eq_missing_iff :
    p.check = .error (.missingField field) ↔ p.missingFields.head? = some field := by
  cases missing : p.missingFields with
  | cons first fields => simp [check_of_missing missing]
  | nil =>
      rw [check_of_filled missing]
      cases Url.check (trim p.url) <;> simp [Except.mapError]

theorem check_eq_invalid_iff {fault : Url.Fault} :
    p.check = .error (.invalidUrl fault) ↔ p.missingFields = [] ∧ Url.Refuses (trim p.url) fault := by
  rw [← Url.check_eq_error_iff]
  cases missing : p.missingFields with
  | cons first fields => simp [check_of_missing missing]
  | nil =>
      rw [check_of_filled missing]
      cases Url.check (trim p.url) <;> simp [Except.mapError]

theorem ofProfile_of_check (refused : p.check = .error e) : e.OfProfile := by
  cases missing : p.missingFields with
  | cons field fields =>
      rw [check_of_missing missing] at refused
      cases refused
      exact .missing field
  | nil =>
      rw [check_of_filled missing] at refused
      cases checked : Url.check (trim p.url) with
      | ok =>
          rw [checked] at refused
          cases refused
      | error fault =>
          rw [checked] at refused
          cases refused
          exact .url fault

/-! ## The connection check -/

theorem tryOut_cases {P : List Call × Except ConnectionError Unit → Prop}
    (incomplete : p.missingFields ≠ [] → P ([], .error (.incomplete p.missingFields)))
    (invalid : ∀ e, p.missingFields = [] → p.check = .error e → P ([], .error (.invalid e)))
    (asks : p.check = .ok () →
      P ([.checkConnection], service.connection.result.mapError .unreachable)) :
    P (p.tryOut service) := by
  unfold tryOut
  cases missing : p.missingFields with
  | cons field fields =>
      rw [missing] at incomplete
      exact incomplete (List.cons_ne_nil field fields)
  | nil =>
      cases checked : p.check with
      | error e => exact invalid e missing checked
      | ok => exact asks checked

/-- The calls and the result of a connection check are what the fields, the check and the service ask for. -/
structure Judges (p : Profile) (service : Service) (r : List Call × Except ConnectionError Unit) : Prop where
  incomplete : ∀ fields, r.2 = .error (.incomplete fields) ↔ p.missingFields = fields ∧ fields ≠ []
  invalid : ∀ e, r.2 = .error (.invalid e) ↔ p.missingFields = [] ∧ p.check = .error e
  unreachable : ∀ e, r.2 = .error (.unreachable e) ↔
    p.check = .ok () ∧ service.connection.result = .error e
  accepted : r.2 = .ok () ↔ p.check = .ok () ∧ service.connection.result = .ok ()
  called : r.1 = [.checkConnection] ↔ p.check = .ok ()
  silent : r.1 = [] ↔ p.check ≠ .ok ()

theorem judges_tryOut (p : Profile) (service : Service) : p.Judges service (p.tryOut service) := by
  refine tryOut_cases (P := p.Judges service) (fun missing => ?_) (fun e filled refused => ?_) (fun usable => ?_)
  · have refused : p.check ≠ .ok () := fun accepted => missing (check_eq_ok_iff.mp accepted).1
    constructor <;> simp [missing, refused]
  · constructor <;> simp [filled, refused]
  · have filled := (check_eq_ok_iff.mp usable).1
    constructor <;> cases service.connection.result <;> simp [filled, usable, Except.mapError]

end Profile
end Connection

/-! ## The check before a run -/

namespace Lifecycle.Setting
open HeatStack.Connection
variable {s : Setting} {e : InputError}

theorem run_eq_error_iff {fuel : Nat} : s.run fuel = .error e ↔ s.Fault e := by
  refine ⟨fun refused => ?_, fun fault => run_of_fault fault fuel⟩
  unfold run at refused
  cases profile : s.profile.check with
  | error e' =>
      rw [profile] at refused
      cases refused
      exact .profile profile
  | ok =>
      rw [profile] at refused
      dsimp only at refused
      cases parameters : s.parameters.checkFor s.bundle with
      | error e' =>
          rw [parameters] at refused
          cases refused
          exact .parameters profile parameters
      | ok =>
          rw [parameters] at refused
          cases refused

theorem occurs_refused_iff : (∃ m, s.Occurs m ∧ m.phase = .refused e) ↔ s.Fault e := by
  constructor
  · rintro ⟨⟨phase, p, token⟩, occurs, rfl⟩
    exact (Occurs.placed occurs).2
  · intro fault
    have enters := Moves.enter (s := s) false
    rw [refused_of_fault fault] at enters
    exact ⟨_, .single enters, rfl⟩

/-- The parameters are never at fault in the way of a profile. -/
theorem fault_ofProfile_iff : s.Fault e ∧ e.OfProfile ↔ s.profile.check = .error e := by
  constructor
  · rintro ⟨fault, kind⟩
    cases fault with
    | profile refused => exact refused
    | parameters accepted refused =>
        unfold Template.Resolution.checkFor at refused
        split at refused
        · cases refused
        · cases refused
          cases kind
  · intro refused
    exact ⟨.profile refused, Profile.ofProfile_of_check refused⟩

theorem no_fault_ofProfile_iff : (∀ e, s.Fault e → ¬ e.OfProfile) ↔ s.profile.check = .ok () := by
  constructor
  · intro none_refused
    cases checked : s.profile.check with
    | ok => rfl
    | error e =>
        obtain ⟨fault, kind⟩ := fault_ofProfile_iff.mpr checked
        exact absurd kind (none_refused e fault)
  · intro accepted e fault kind
    rw [fault_ofProfile_iff.mp ⟨fault, kind⟩] at accepted
    cases accepted

end Lifecycle.Setting

namespace Connection.Profile
open HeatStack.Lifecycle HeatStack.Text

/-- The check accepts a profile with no field missing and the address of a web service; else it names the first
missing field, or the fault of the address.  A connection check names all the missing fields, takes over the
error of the check, and calls the service once if there is none.  A run gets past the check of its profile just
where a connection check calls the service, whatever the service. -/
theorem profile_checks_agree (p : Profile) :
    (p.missingFields.Sublist ProfileField.form ∧ ∀ field, field ∈ p.missingFields ↔ p.Unfilled field) ∧
    (p.check = .ok () ↔ p.missingFields = [] ∧ Url.Serves (trim p.url)) ∧
    (∀ field, p.check = .error (.missingField field) ↔ p.missingFields.head? = some field) ∧
    (∀ fault, p.check = .error (.invalidUrl fault) ↔
      p.missingFields = [] ∧ Url.Refuses (trim p.url) fault) ∧
    (∀ service, p.Judges service (p.tryOut service)) ∧
    ∀ s : Setting, s.profile = p → ∀ service,
      ((p.tryOut service).1 = [.checkConnection] ↔ ∀ fuel e, s.run fuel = .error e → ¬ e.OfProfile) ∧
      ((p.tryOut service).1 = [.checkConnection] ↔
        ∀ m e, s.Occurs m → m.phase = .refused e → ¬ e.OfProfile) := by
  refine ⟨⟨p.missingFields_sublist, fun field => mem_missingFields_iff⟩, check_eq_ok_iff,
    fun field => check_eq_missing_iff, fun fault => check_eq_invalid_iff, p.judges_tryOut, ?_⟩
  rintro s rfl service
  rw [(s.profile.judges_tryOut service).called, ← Setting.no_fault_ofProfile_iff]
  constructor
  · simp only [Setting.run_eq_error_iff, forall_const]
  · simp only [← Setting.occurs_refused_iff]
    exact ⟨fun passes m e occurs refused => passes e ⟨m, occurs, refused⟩,
      fun passes e ⟨m, occurs, refused⟩ => passes m e occurs refused⟩

/-- A form with only the address and the user filled in. -/
def hasty : Profile := ⟨" ", "http://[::1]:5000", true, "", "jenkins", ⟨""⟩, ""⟩

theorem profile_checks_agree_hasty :
    (hasty.tryOut Setting.lateOutputs.service).2 = .error (.incomplete [.project, .domain, .password]) ∧
    hasty.check = .error (.missingField .project) ∧
    Setting.lateOutputs.profile = Setting.localProfile ∧
    ∀ fuel e, Setting.lateOutputs.run fuel = .error e → ¬ e.OfProfile := by
  have missing : hasty.missingFields = [.project, .domain, .password] := by decide
  obtain ⟨-, -, first, -, judged, -⟩ := profile_checks_agree hasty
  obtain ⟨-, -, -, -, tried, runs⟩ := profile_checks_agree Setting.localProfile
  have called := (tried Setting.lateOutputs.service).called.mpr Setting.check_localProfile
  refine ⟨((judged _).incomplete _).mpr ⟨missing, by simp⟩, (first _).mpr (by rw [missing]; rfl), rfl, ?_⟩
  exact (runs Setting.lateOutputs rfl _).1.mp called

end Connection.Profile
end HeatStack
