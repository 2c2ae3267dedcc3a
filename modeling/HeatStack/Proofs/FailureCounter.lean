import HeatStack.Proofs.FailedQuestions

/-! # The counter of failures

A run counts the errors in a row with 32 bits, and tolerates a number of them that has 32 bits too.  It ends
when the counter is above that number, so the counter needs room for one error more: `Roomy` says that
it has.  Then it counts exactly, and more errors in a row than are tolerated always end the run
(`counter_suffices`).  If the largest number is tolerated, no count is above it, and the counter
overflows (`counter_overflows`). -/
set_option autoImplicit false
namespace HeatStack.Lifecycle.Setting
variable {s : Setting} {token : Bool} {started since n : Nat} {p : Progress} {m m' : Moment}

/-- The counter has room for one error more than are tolerated, or the service never errs more often in a
row than the counter can count. -/
def Roomy (s : Setting) : Prop :=
  s.options.maxFailures.toNat + 1 < UInt32.size ∨ ∀ n, s.errorsInARow n < UInt32.size

/-- From this answer on, one error more comes than are tolerated, with nothing between them. -/
def Unbroken (s : Setting) (n : Nat) : Prop :=
  ∀ k, n ≤ k → k ≤ n + s.options.maxFailures.toNat → isFailure (s.service.status k).result = true

/-! ## What the counter has to count -/

theorem Roomy.counted (roomy : s.Roomy) (tolerated : s.errorsInARow n ≤ s.options.maxFailures.toNat) :
    s.errorsInARow (n + 1) < UInt32.size := by
  cases roomy with
  | inl room =>
      have step := s.errorsInARow_succ_le n
      omega
  | inr few => exact few (n + 1)

theorem Roomy.tolerated (roomy : s.Roomy) (undecided : ∀ k < n, ∀ state, ¬ s.Decides k state) :
    s.errorsInARow n ≤ s.options.maxFailures.toNat := by
  -- Each answer is judged by the counter, which is exact because those before it decide nothing.
  induction n with
  | zero => exact Nat.zero_le _
  | succ n ih =>
      have before := ih fun k lt => undecided k (Nat.lt_succ_of_lt lt)
      exact errorsInARow_le_of_undecided (undecided n (Nat.lt_succ_self n)) (roomy.counted before)

theorem Roomy.failures_eq (roomy : s.Roomy) (occurs : s.Occurs ⟨.asking started since, p, token⟩) :
    p.failures.toNat = s.errorsInARow p.polls := by
  have tolerated := roomy.tolerated occurs.spoken.undecided
  have counts : p.failures = UInt32.ofNat (s.errorsInARow p.polls) := occurs.placed.counts
  rw [counts, UInt32.toNat_ofNat']
  exact Nat.mod_eq_of_lt (Nat.lt_of_le_of_lt tolerated s.options.maxFailures.toNat_lt)

/-- The counter is not full when an error is to be counted. -/
theorem Roomy.failures_lt (roomy : s.Roomy) (occurs : s.Occurs ⟨.asking started since, p, token⟩)
    (failure : isFailure (s.service.status p.polls).result = true) :
    p.failures.toNat + 1 < UInt32.size := by
  have counted := roomy.counted (roomy.tolerated occurs.spoken.undecided)
  rw [errorsInARow, if_pos failure] at counted
  rw [roomy.failures_eq occurs]
  exact counted

/-! ## Too many errors in a row -/

theorem Unbroken.lt_errorsInARow (unbroken : s.Unbroken n) :
    s.options.maxFailures.toNat < s.errorsInARow (n + s.options.maxFailures.toNat + 1) := by
  refine (s.le_errorsInARow_iff _ _).mpr ⟨by omega, fun k low high => ?_⟩
  exact unbroken k (by omega) (by omega)

/-- Nothing is asked behind them. -/
theorem Unbroken.questions_le (unbroken : s.Unbroken n) (roomy : s.Roomy) (occurs : s.Occurs m) :
    questions m.progress.calls ≤ n + s.options.maxFailures.toNat + 1 := by
  refine Nat.le_of_not_lt fun more => ?_
  have tolerated := roomy.tolerated (n := n + s.options.maxFailures.toNat + 1) fun k lt =>
    occurs.undecided_asked k (by omega)
  exact absurd unbroken.lt_errorsInARow (Nat.not_lt.mpr tolerated)

/-- The last of them ends the run when it comes, if nothing has ended it before. -/
theorem Unbroken.exhausts (unbroken : s.Unbroken n) (roomy : s.Roomy) (occurs : s.Occurs m)
    (asking : m.phase = .asking started since) (last : m.progress.polls = n + s.options.maxFailures.toNat)
    (move : s.Moves m m') (heard : m'.progress.polls = m.progress.polls + 1) :
    ∃ e, Fails (s.service.status m.progress.polls).result e ∧
      s.Exhausts m m' e (s.options.maxFailures.toNat + 1) := by
  obtain ⟨phase, p, token⟩ := m
  cases asking
  cases move with
  | cancel => exact absurd heard (Nat.ne_of_lt (Nat.lt_succ_self _))
  | pass => exact absurd heard (Nat.ne_of_lt (Nat.lt_succ_self _))
  | hear =>
      change p.polls = n + s.options.maxFailures.toNat at last
      obtain ⟨e, fails⟩ := exists_fails (unbroken p.polls (by omega) (by omega))
      have tolerated : s.errorsInARow p.polls ≤ s.options.maxFailures.toNat :=
        roomy.tolerated occurs.spoken.undecided
      have many := unbroken.lt_errorsInARow
      rw [← last] at many
      -- Up to the answer before it they were tolerated, so the count is just one too large.
      have step := s.errorsInARow_succ_le p.polls
      have streak := s.streak_errorsInARow (p.polls + 1)
      rw [show s.errorsInARow (p.polls + 1) = s.options.maxFailures.toNat + 1 by omega] at streak
      have heard := hear_of_counted occurs.placed fails (roomy.counted tolerated) streak
      exact ⟨e, fails, heard.2 (Nat.lt_succ_self _)⟩

theorem Unbroken.not_reached (unbroken : s.Unbroken n) :
    ¬ s.Reached (n + s.options.maxFailures.toNat + 1) := by
  intro reached
  exact absurd unbroken.lt_errorsInARow (Nat.not_lt.mpr reached.errorsInARow_le)

theorem exists_first_ending (unreached : ¬ s.Reached n) :
    ∃ k < n, s.Reached k ∧ ∃ state reason, s.Ending k state reason := by
  induction n with
  | zero => exact absurd (fun k lt => absurd lt (Nat.not_lt_zero k)) unreached
  | succ n ih =>
      by_cases reached : s.Reached n
      · refine ⟨n, Nat.lt_succ_self n, reached, ?_⟩
        by_contra unended
        refine unreached fun k lt state reason ending => ?_
        rcases Nat.lt_succ_iff_lt_or_eq.mp lt with before | rfl
        · exact reached k before state reason ending
        · exact unended ⟨state, reason, ending⟩
      · obtain ⟨k, lt, first⟩ := ih reached
        exact ⟨k, Nat.lt_succ_of_lt lt, first⟩

theorem Unbroken.exists_drive (unbroken : s.Unbroken n) (roomy : s.Roomy) :
    ∃ o, s.drive (n + s.options.maxFailures.toNat + 1) = some o ∧
      questions o.calls ≤ n + s.options.maxFailures.toNat + 1 := by
  cases early : s.cancellation.holds 0 0 with
  | true =>
      obtain ⟨o, driven, ended⟩ := drive_of_cancelled early (n + s.options.maxFailures.toNat + 1)
      exact ⟨o, driven, by rw [ended.asked]; exact Nat.zero_le _⟩
  | false =>
      cases answer : s.service.submission.result with
      | error e =>
          obtain ⟨o, driven, ended⟩ :=
            drive_of_rejected early e answer (n + s.options.maxFailures.toNat + 1)
          exact ⟨o, driven, by rw [ended.asked]; exact Nat.zero_le _⟩
      | ok =>
          obtain ⟨k, lt, reached, state, reason, ending⟩ := exists_first_ending unbroken.not_reached
          have counted : ∀ j ≤ k, s.Asks j → s.errorsInARow (j + 1) < UInt32.size := fun j within _ =>
            have before : s.Reached j := fun i lt => reached i (Nat.lt_of_lt_of_le lt within)
            roomy.counted before.errorsInARow_le
          obtain ⟨q, polled, ended⟩ := poll_of_ending k state reason ending counted
            (n + s.options.maxFailures.toNat + 1) 0 s.begun s.standing_begun (Nat.zero_le k) (by omega)
            fun j _ before => reached j before
          refine ⟨s.finish q state reason, ?_, ?_⟩
          · rw [drive_of_submitted ⟨early, answer⟩, polled]
            rfl
          · rw [questions_finish]
            rcases ended.asked with ⟨-, asked⟩ | ⟨-, asked⟩ <;> omega

/-- The counter of failures, where it has room for one more than are tolerated.  It counts the errors in a row
exactly and never overflows, whatever the answers and however many.  More errors in a row than are tolerated
always end the run: behind them nothing is asked, the run fails at the last of them if it comes so far, and
every run that is not refused has an outcome by then. -/
theorem counter_suffices (roomy : s.Roomy) :
    (∀ m started since, s.Occurs m → m.phase = .asking started since →
      m.progress.failures.toNat = s.errorsInARow m.progress.polls ∧
      (isFailure (s.service.status m.progress.polls).result = true →
        m.progress.failures.toNat + 1 < UInt32.size)) ∧
    ∀ n, s.Unbroken n →
      (∀ m, s.Occurs m → questions m.progress.calls ≤ n + s.options.maxFailures.toNat + 1) ∧
      (∀ m m' started since, s.Occurs m → m.phase = .asking started since →
        m.progress.polls = n + s.options.maxFailures.toNat → s.Moves m m' →
        m'.progress.polls = m.progress.polls + 1 →
        ∃ e, Fails (s.service.status m.progress.polls).result e ∧
          s.Exhausts m m' e (s.options.maxFailures.toNat + 1)) ∧
      (s.profile.check = .ok () → s.parameters.checkFor s.bundle = .ok () →
        ∃ o, s.run (n + s.options.maxFailures.toNat + 1) = .ok (some o) ∧
          questions o.calls ≤ n + s.options.maxFailures.toNat + 1) := by
  refine ⟨fun m started since occurs asking => ?_, fun n unbroken => ⟨?_, ?_, ?_⟩⟩
  · obtain ⟨phase, p, token⟩ := m
    cases asking
    exact ⟨roomy.failures_eq occurs, roomy.failures_lt occurs⟩
  · intro m occurs
    exact unbroken.questions_le roomy occurs
  · intro m m' started since occurs asking last move heard
    exact unbroken.exhausts roomy occurs asking last move heard
  · intro profile parameters
    obtain ⟨o, driven, asked⟩ := unbroken.exists_drive roomy
    exact ⟨o, by rw [run_of_checked profile parameters, driven], asked⟩

/-- A service that is down, where as many errors are tolerated as leave the counter room for one more. -/
def patient : Setting :=
  { unreachable with options := { unreachable.options with timeout := none, maxFailures := 4294967294 } }

theorem unbroken_patient : patient.Unbroken 0 := fun _ _ _ => rfl

theorem counter_suffices_patient : ∃ o, patient.run 4294967295 = .ok (some o) ∧
    questions o.calls ≤ 4294967295 := by
  obtain ⟨-, ends⟩ := counter_suffices (s := patient) (.inl (by decide))
  obtain ⟨-, -, runs⟩ := ends 0 unbroken_patient
  have total : 0 + patient.options.maxFailures.toNat + 1 = 4294967295 := rfl
  rw [total] at runs
  exact runs check_localProfile rfl

/-! ## No room -/

/-- The largest number of errors is tolerated, the service is down for good, and nothing else ends the
run. -/
structure Tireless (s : Setting) : Prop where
  never : s.cancellation = .never
  endless : s.options.timeout = none
  full : s.options.maxFailures.toNat + 1 = UInt32.size
  down : ∀ k, isFailure (s.service.status k).result = true

theorem Tireless.errorsInARow_eq (tireless : s.Tireless) (n : Nat) : s.errorsInARow n = n := by
  induction n with
  | zero => rfl
  | succ n ih => rw [errorsInARow, if_pos (tireless.down n), ih]

theorem Tireless.expired?_eq_none (tireless : s.Tireless) (started : Nat) (p : Progress) :
    s.expired? started p = none := by
  rw [expired?, tireless.endless, Option.filter_none]

theorem Tireless.cancelled_eq_false (tireless : s.Tireless) (p : Progress) : s.cancelled p = false := by
  rw [cancelled, tireless.never]
  rfl

/-- No count is above the largest one. -/
theorem Tireless.heeded_undecided (tireless : s.Tireless) (p : Progress) : (s.heeded p).2 = none := by
  obtain ⟨e, fails⟩ := exists_fails (tireless.down p.polls)
  have below := (p.failures + 1).toNat_lt_size
  have full := tireless.full
  have tolerated : ¬ s.options.maxFailures < p.failures + 1 := by
    rw [UInt32.lt_iff_toNat_lt]
    omega
  rw [heeded_of_fails fails, if_neg tolerated]

theorem Tireless.turn_waits (tireless : s.Tireless) (started : Nat) (p : Progress) :
    s.turn started p = .waiting (s.rest (s.heeded (s.asked p)).1) := by
  have goesOn := tireless.heeded_undecided (s.asked p)
  rw [turn_eq, tireless.cancelled_eq_false, if_neg Bool.false_ne_true, tireless.expired?_eq_none]
  generalize s.heeded (s.asked p) = answer at goesOn
  obtain ⟨q, verdict⟩ := answer
  cases goesOn
  rfl

theorem Tireless.poll_eq_none (tireless : s.Tireless) (started fuel : Nat) :
    ∀ p, s.poll started fuel p = none := by
  induction fuel with
  | zero => exact fun _ => rfl
  | succ fuel ih =>
      intro p
      rw [poll, tireless.turn_waits]
      exact ih _

/-- Behind each question comes another. -/
theorem Tireless.look_again (tireless : s.Tireless) (occurs : s.Occurs (s.look false started p)) :
    ∃ q, s.Occurs (s.look false started q) ∧ q.polls = p.polls + 1 := by
  have heard := occurs.trans (reaches_hear (tireless.expired?_eq_none started p))
  have polls := (s.heeded_course (s.asked p)).2.1
  have goesOn := tireless.heeded_undecided (s.asked p)
  unfold hear at heard
  generalize s.heeded (s.asked p) = answer at heard polls goesOn
  obtain ⟨q, verdict⟩ := answer
  cases goesOn
  have rested := heard.trans (s.reaches_rest started q)
  rw [tireless.cancelled_eq_false] at rested
  exact ⟨s.rest q, rested, polls⟩

theorem Tireless.occurs_look (tireless : s.Tireless) (first : s.Occurs (s.look false started p))
    (none_asked : p.polls = 0) (n : Nat) : ∃ q, s.Occurs (s.look false started q) ∧ q.polls = n := by
  induction n with
  | zero => exact ⟨p, first, none_asked⟩
  | succ n ih =>
      obtain ⟨q, occurs, rfl⟩ := ih
      exact tireless.look_again occurs

/-- Just before the counter overflows. -/
theorem Tireless.occurs_full (tireless : s.Tireless) (first : s.Occurs (s.look false started p))
    (none_asked : p.polls = 0) :
    ∃ m since, s.Occurs m ∧ m.phase = .asking started since ∧
      m.progress.failures.toNat + 1 = UInt32.size := by
  obtain ⟨q, occurs, polls⟩ := tireless.occurs_look first none_asked s.options.maxFailures.toNat
  rw [look_of_asking (tireless.expired?_eq_none started q)] at occurs
  have counts : q.failures = UInt32.ofNat (s.errorsInARow q.polls) := occurs.placed.counts
  rw [tireless.errorsInARow_eq, polls, UInt32.ofNat_toNat] at counts
  refine ⟨_, q.now, occurs, rfl, ?_⟩
  change q.failures.toNat + 1 = UInt32.size
  rw [counts, tireless.full]

/-- The largest number that can be given is tolerated. -/
def relentless : Setting :=
  { patient with options := { patient.options with maxFailures := 4294967295 } }

theorem tireless_relentless : relentless.Tireless := ⟨rfl, rfl, rfl, fun _ => rfl⟩

/-- Where the largest number of errors is tolerated and the service is down, the counter comes to its largest
value with one more error to count, and the run never ends. -/
theorem counter_overflows : relentless.Unbroken 0 ∧
    (∃ m started since, relentless.Occurs m ∧ m.phase = .asking started since ∧
      isFailure (relentless.service.status m.progress.polls).result = true ∧
      m.progress.failures.toNat + 1 = UInt32.size) ∧
    ∀ fuel, relentless.run fuel = .ok none := by
  refine ⟨fun k _ _ => tireless_relentless.down k, ?_, fun fuel => ?_⟩
  · have enters := Moves.enter (s := relentless) false
    rw [enter_of_checked check_localProfile rfl, if_neg Bool.false_ne_true] at enters
    have submitted : relentless.Occurs ⟨.submitting 0, relentless.submitted, false⟩ := .single enters
    have first : relentless.Occurs (relentless.look false 0 (relentless.settle relentless.submitted .inProgress
        "submitted")) := submitted.tail (.accept 0 relentless.submitted false rfl)
    obtain ⟨m, since, occurs, asking, full⟩ := tireless_relentless.occurs_full first rfl
    exact ⟨m, 0, since, occurs, asking, tireless_relentless.down _, full⟩
  · rw [run_of_checked check_localProfile rfl, drive_of_submitted ⟨rfl, rfl⟩, tireless_relentless.poll_eq_none]
    rfl

end HeatStack.Lifecycle.Setting
