import HeatStack.Lifecycle.Script
import HeatStack.Proofs.FailedQuestions
import HeatStack.Proofs.PollSchedule

/-! # Rehearsals

A rehearsal that is neither cancelled nor limited in time is decided by its script.  `Script.Decides` says of
each answer whether it is the last one, and a run ends at the first that is.  Since the last step answers all
further questions, no answer decides unless one of the first does (`Decides.early`). -/
set_option autoImplicit false
namespace HeatStack.Lifecycle

/-! ## What a script answers -/

theorem repeatLast_eq (answers : List StatusResult) (n : Nat) :
    repeatLast answers n = (answers[min n (answers.length - 1)]?).getD (.ok none) := by
  unfold repeatLast
  by_cases listed : n < answers.length
  · rw [Nat.min_eq_left (by omega), List.getD_eq_getElem?_getD, List.getElem?_eq_getElem listed]
    rfl
  · rw [Nat.min_eq_right (by omega), List.getD_eq_default _ _ (Nat.le_of_not_lt listed),
      List.getLastD_eq_getLast?, List.getLast?_eq_getElem?]

namespace Script
variable {script : Script} {action : Action} {m j k : Nat} {status : Option RemoteStatus}

/-- The step that answers the k-th question, counted from zero.  The last one answers all that follow. -/
def step? (script : Script) (k : Nat) : Option Step :=
  script.statuses[min k (script.statuses.length - 1)]?

/-- The answer is a status, or says that there is no stack. -/
inductive Shows (script : Script) (k : Nat) : Option RemoteStatus → Prop
  | status (s : RemoteStatus) : script.step? k = some (.status s) → Shows script k (some s)
  | absent : script.step? k = some (.notFound true) → Shows script k none
  /-- There is no step at all. -/
  | empty : script.step? k = none → Shows script k none

/-- The answer is an error. -/
inductive Errs (script : Script) (k : Nat) : Prop
  | denied : script.step? k = some (.notFound false) → Errs script k
  | failed (message : String) : script.step? k = some (.pollError message) → Errs script k

/-- The answer ends a run that tolerates so many errors in a row: it is final, or one error too many. -/
inductive Decides (script : Script) (action : Action) (m k : Nat) : Prop
  | final (status : Option RemoteStatus) (state : State) :
      script.Shows k status → Final (classify action status) state → Decides script action m k
  | exhausted : m ≤ k → (∀ j, k - m ≤ j → j ≤ k → script.Errs j) → Decides script action m k

theorem result_service (script : Script) (k : Nat) :
    (script.service.status k).result = ((script.step? k).map Step.result).getD (.ok none) := by
  change repeatLast (script.statuses.map Step.result) k = _
  rw [repeatLast_eq, List.length_map, List.getElem?_map]
  rfl

theorem shows_iff : script.Shows k status ↔ Reads (script.service.status k).result status := by
  rw [result_service]
  constructor
  · intro shown
    cases shown with
    | status s step =>
        rw [step]
        exact .answered (some s)
    | absent step =>
        rw [step]
        exact .answered none
    | empty step =>
        rw [step]
        exact .answered none
  · intro reads
    cases step : script.step? k with
    | none =>
        rw [step] at reads
        cases reads
        exact .empty step
    | some step' =>
        rw [step] at reads
        cases step' with
        | status s =>
            cases reads
            exact .status s step
        | notFound absent =>
            cases absent with
            | true =>
                cases reads
                exact .absent step
            | false => cases reads
        | pollError message => cases reads

theorem errs_iff : script.Errs k ↔ isFailure (script.service.status k).result = true := by
  rw [result_service]
  constructor
  · intro errs
    cases errs with
    | denied step =>
        rw [step]
        rfl
    | failed message step =>
        rw [step]
        rfl
  · intro failure
    cases step : script.step? k with
    | none =>
        rw [step] at failure
        cases failure
    | some step' =>
        rw [step] at failure
        cases step' with
        | status s => cases failure
        | notFound absent =>
            cases absent with
            | true => cases failure
            | false => exact .denied step
        | pollError message => exact .failed message step

/-! ## The first answers -/

theorem step?_congr (same : min j (script.statuses.length - 1) = min k (script.statuses.length - 1)) :
    script.step? j = script.step? k := by
  rw [step?, step?, same]

theorem Shows.of_step? (shown : script.Shows k status) (same : script.step? j = script.step? k) :
    script.Shows j status := by
  cases shown with
  | status s step => exact .status s (same.trans step)
  | absent step => exact .absent (same.trans step)
  | empty step => exact .empty (same.trans step)

theorem Errs.of_step? (errs : script.Errs k) (same : script.step? j = script.step? k) : script.Errs j := by
  cases errs with
  | denied step => exact .denied (same.trans step)
  | failed message step => exact .failed message (same.trans step)

/-- Behind the steps nothing new is answered, so that an answer which decides is followed by none that could
not have come by then. -/
theorem Decides.early (decides : script.Decides action m k) :
    ∃ j ≤ max script.statuses.length 1 - 1 + m, script.Decides action m j := by
  cases decides with
  | final status state shown final =>
      refine ⟨min k (script.statuses.length - 1), by omega, .final status state ?_ final⟩
      exact shown.of_step? (step?_congr (by omega))
  | exhausted within errs =>
      by_cases soon : k ≤ max script.statuses.length 1 - 1 + m
      · exact ⟨k, soon, .exhausted within errs⟩
      · -- All these errors are the last step's.
        refine ⟨max script.statuses.length 1 - 1 + m, Nat.le_refl _, ?_⟩
        refine .exhausted (by omega) fun j low _ => ?_
        exact (errs k (Nat.sub_le k m) (Nat.le_refl k)).of_step? (step?_congr (by omega))

end Script

/-! ## The run of a rehearsal -/

namespace Setting
variable {s : Setting} {script : Script} {k : Nat} {o : Outcome}

/-- A run against the service of a script, with nothing but the answers to end it. -/
structure Rehearses (s : Setting) (script : Script) : Prop where
  service : s.service = script.service
  accepted : script.submitError = none
  never : s.cancellation = .never
  endless : s.options.timeout = none
  profile : s.profile.check = .ok ()
  parameters : s.parameters.checkFor s.bundle = .ok ()

def DecidedBy (s : Setting) (script : Script) (k : Nat) : Prop :=
  script.Decides s.options.action s.options.maxFailures.toNat k

theorem Rehearses.asks (rehearses : s.Rehearses script) (k : Nat) : s.Asks k := by
  refine ⟨running_of_never_at rehearses.never k, fun limit expired => ?_⟩
  have limited := expired.1
  rw [rehearses.endless] at limited
  cases limited

theorem Rehearses.lt_errorsInARow_iff (rehearses : s.Rehearses script) (m k : Nat) :
    m < s.errorsInARow (k + 1) ↔ m ≤ k ∧ ∀ j, k - m ≤ j → j ≤ k → script.Errs j := by
  rw [← Nat.succ_le_iff, le_errorsInARow_iff, rehearses.service]
  simp only [Nat.succ_eq_add_one, Nat.add_le_add_iff_right, Nat.add_sub_add_right, Nat.lt_succ_iff,
    Script.errs_iff]

theorem Rehearses.exists_ending_iff (rehearses : s.Rehearses script) :
    (∃ state reason, s.Ending k state reason) ↔ s.DecidedBy script k := by
  have asks := rehearses.asks k
  constructor
  · rintro ⟨state, reason, ending⟩
    cases ending with
    | cancelled now => exact absurd now asks.1
    | expired limit _ late => exact absurd late (asks.2 limit)
    | answered status state _ reads final =>
        rw [rehearses.service] at reads
        exact .final status state (Script.shows_iff.mpr reads) final
    | exhausted e _ fails many =>
        obtain ⟨within, errs⟩ := (rehearses.lt_errorsInARow_iff _ k).mp many
        exact .exhausted within errs
  · intro decides
    cases decides with
    | final status state shown final =>
        have reads := Script.shows_iff.mp shown
        rw [← rehearses.service] at reads
        exact ⟨state, _, .answered status state asks reads final⟩
    | exhausted within errs =>
        have failure := Script.errs_iff.mp (errs k (Nat.sub_le k _) (Nat.le_refl k))
        rw [← rehearses.service] at failure
        obtain ⟨e, fails⟩ := exists_fails failure
        have many := (rehearses.lt_errorsInARow_iff _ k).mpr ⟨within, errs⟩
        exact ⟨.failed, _, .exhausted e asks fails many⟩

theorem Rehearses.submitted (rehearses : s.Rehearses script) : s.Submitted := by
  refine ⟨by rw [rehearses.never]; rfl, ?_⟩
  rw [rehearses.service]
  simp only [Script.service, Script.answerUnless, rehearses.accepted]
  rfl

/-- Up to the answer that decides, and with it, the counter of the run can count the errors. -/
theorem Rehearses.countable (rehearses : s.Rehearses script)
    (small : s.options.maxFailures.toNat + 1 < UInt32.size) (undecided : ∀ j < k, ¬ s.DecidedBy script j) :
    ∀ j ≤ k, s.errorsInARow (j + 1) < UInt32.size := by
  intro j le
  have reached : s.Reached j := fun i lt state reason ending =>
    undecided i (Nat.lt_of_lt_of_le lt le) (rehearses.exists_ending_iff.mp ⟨state, reason, ending⟩)
  have before := reached.errorsInARow_le
  have step := s.errorsInARow_succ_le j
  omega

theorem Rehearses.drive_of_first (rehearses : s.Rehearses script)
    (small : s.options.maxFailures.toNat + 1 < UInt32.size) (decided : s.DecidedBy script k)
    (first : ∀ j < k, ¬ s.DecidedBy script j) :
    ∃ o, s.drive (k + 1) = some o ∧ questions o.calls = k + 1 := by
  obtain ⟨state, reason, ending⟩ := rehearses.exists_ending_iff.mpr decided
  have before : ∀ j, 0 ≤ j → j < k → ∀ state reason, ¬ s.Ending j state reason :=
    fun j _ lt state reason ending => first j lt (rehearses.exists_ending_iff.mp ⟨state, reason, ending⟩)
  obtain ⟨q, polled, ended⟩ := poll_of_ending k state reason ending
    (fun j le _ => rehearses.countable small first j le) (k + 1) 0 s.begun s.standing_begun
    (Nat.zero_le k) (by omega) before
  refine ⟨s.finish q state reason, ?_, ?_⟩
  · rw [drive_of_submitted rehearses.submitted, polled]
    rfl
  · rw [questions_finish]
    exact ended.asked.unique (.inl ⟨rehearses.asks k, rfl⟩)

theorem Rehearses.decided_of_drive (rehearses : s.Rehearses script)
    (small : s.options.maxFailures.toNat + 1 < UInt32.size) {fuel : Nat} (driven : s.drive fuel = some o) :
    ∃ k, s.DecidedBy script k := by
  by_contra undecided
  have never : ∀ k, ¬ s.DecidedBy script k := fun k decided => undecided ⟨k, decided⟩
  rw [drive_of_submitted rehearses.submitted, Option.map_eq_some_iff] at driven
  obtain ⟨⟨q, state, reason⟩, polled, -⟩ := driven
  obtain ⟨k, -, ending, -⟩ := ending_of_poll fuel 0 s.begun q state reason s.standing_begun polled
    fun j _ => rehearses.countable small (fun i _ => never i) j (Nat.le_refl j)
  exact never k (rehearses.exists_ending_iff.mp ⟨state, reason, ending⟩)

/-- A rehearsal that can only be ended by its answers ends just where one of them decides, at the first that
does and with so many questions.  That is one of the first answers, whatever the script. -/
theorem rehearsal_decided (rehearses : s.Rehearses script)
    (small : s.options.maxFailures.toNat + 1 < UInt32.size) :
    ((∃ fuel o, s.run fuel = .ok (some o)) ↔
      ∃ k, script.Decides s.options.action s.options.maxFailures.toNat k) ∧
    (∀ k, IsLeast {k | script.Decides s.options.action s.options.maxFailures.toNat k} k →
      k ≤ max script.statuses.length 1 - 1 + s.options.maxFailures.toNat ∧
      ∀ fuel o, s.run fuel = .ok (some o) → questions o.calls = k + 1) ∧
    ((∃ fuel o, s.run fuel = .ok (some o)) ↔
      ∃ k < max script.statuses.length 1 + s.options.maxFailures.toNat,
        script.Decides s.options.action s.options.maxFailures.toNat k) := by
  classical
  have runs := run_of_checked rehearses.profile rehearses.parameters
  have least : ∀ k, IsLeast {k | s.DecidedBy script k} k →
      ∃ o, s.drive (k + 1) = some o ∧ questions o.calls = k + 1 := fun k least =>
    rehearses.drive_of_first small least.1 fun j lt decided => absurd (least.2 decided) (Nat.not_le.mpr lt)
  have ends : (∃ fuel o, s.run fuel = .ok (some o)) ↔ ∃ k, s.DecidedBy script k := by
    constructor
    · rintro ⟨fuel, o, ran⟩
      rw [runs] at ran
      exact rehearses.decided_of_drive small (Except.ok.inj ran)
    · intro decided
      obtain ⟨o, driven, -⟩ := least _ ⟨Nat.find_spec decided, fun j => Nat.find_min' decided⟩
      exact ⟨_, o, by rw [runs, driven]⟩
  refine ⟨ends, fun k leastK => ⟨?_, fun fuel o ran => ?_⟩, ends.trans ⟨?_, ?_⟩⟩
  · obtain ⟨j, early, decides⟩ := leastK.1.early
    exact Nat.le_trans (leastK.2 decides) early
  · obtain ⟨o', driven, asked⟩ := least k leastK
    rw [runs] at ran
    cases drive_unique _ _ _ _ driven (Except.ok.inj ran)
    exact asked
  · rintro ⟨k, decides⟩
    obtain ⟨j, early, decides⟩ := decides.early
    exact ⟨j, by omega, decides⟩
  · rintro ⟨k, -, decides⟩
    exact ⟨k, decides⟩

/-- The first answer settles nothing, and from then on the service is down. -/
def outage : Script :=
  { Script.empty with statuses := [.status ⟨"CREATE_IN_PROGRESS", ""⟩, .pollError "down"] }

def outageRehearsal : Setting :=
  { lateOutputs with
    service := outage.service
    options := { lateOutputs.options with timeout := none }
    cancellation := .never }

theorem rehearses_outage : outageRehearsal.Rehearses outage :=
  ⟨rfl, rfl, rfl, rfl, check_localProfile, rfl⟩

theorem rehearsal_decided_outage : IsLeast {k | outage.Decides .create 1 k} 2 ∧
    ∃ o, outageRehearsal.run 3 = .ok (some o) ∧ questions o.calls = 3 := by
  obtain ⟨-, counts, -⟩ := rehearsal_decided rehearses_outage (by decide)
  have least : IsLeast {k | outage.Decides .create 1 k} 2 := by
    refine ⟨.exhausted (by decide) fun j low high => ?_, fun k decides => ?_⟩
    · obtain rfl | rfl : j = 1 ∨ j = 2 := by omega
      · exact .failed "down" rfl
      · exact .failed "down" rfl
    · refine Nat.le_of_not_lt fun lt => ?_
      cases decides with
      | final status state shown final =>
          obtain rfl | rfl : k = 0 ∨ k = 1 := by omega
          · cases shown with
            | status s step =>
                cases step
                cases final
            | absent step => cases step
            | empty step => cases step
          · cases shown with
            | status s step => cases step
            | absent step => cases step
            | empty step => cases step
      | exhausted within errs =>
          cases errs 0 (by omega) (by omega) with
          | denied step => cases step
          | failed message step => cases step
  obtain ⟨o, ran⟩ : ∃ o, outageRehearsal.run 3 = .ok (some o) := by
    rw [run_of_checked check_localProfile rfl]
    exact ⟨_, rfl⟩
  exact ⟨least, o, ran, (counts 2 least).2 3 o ran⟩

end Setting
end HeatStack.Lifecycle
