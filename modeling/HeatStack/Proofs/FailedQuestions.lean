import HeatStack.Proofs.CallProtocol

/-! # Failed questions

The trail notes every answer that is an error, with the number of errors in a row that it ends (`Streak`).
`Noted` says from the answers alone what the notes have to be, and each step of a run keeps them so
(`tallied_move`).  A count that is tolerated never ends the run; the first that is not ends it at once. -/
set_option autoImplicit false
namespace HeatStack.Lifecycle

/-- An error as it is noted: its text, and how many came in a row. -/
def Event.failure? : Event → Option (String × Nat)
  | .pollFailed error consecutive => some (error, consecutive.toNat)
  | _ => none

def failureNotes (events : List Event) : List (String × Nat) := events.filterMap Event.failure?

theorem failureNotes_append (a b : List Event) :
    failureNotes (a ++ b) = failureNotes a ++ failureNotes b := List.filterMap_append

namespace Setting
variable {s : Setting} {token : Bool} {started n c : Nat} {p : Progress} {m m' : Moment} {o : Outcome}

/-! ## Errors in a row -/

/-- So many errors end the first answers; what stands before them, if anything, is no error. -/
structure Streak (s : Setting) (n c : Nat) : Prop where
  within : c ≤ n
  errors : ∀ k, n - c ≤ k → k < n → isFailure (s.service.status k).result = true
  broken : c < n → isFailure (s.service.status (n - c - 1)).result = false

theorem errorsInARow_succ_le (s : Setting) (n : Nat) : s.errorsInARow (n + 1) ≤ s.errorsInARow n + 1 := by
  rw [errorsInARow]
  split <;> omega

theorem errorsInARow_lt_of_few (s : Setting) (few : n < UInt32.size) : s.errorsInARow n < UInt32.size :=
  Nat.lt_of_le_of_lt (s.errorsInARow_le n) few

theorem exists_fails {r : StatusResult} (failure : isFailure r = true) : ∃ e, Fails r e := by
  cases answer : settled r with
  | ok status =>
      rw [((settled_eq_ok_iff r status).mp answer).isFailure] at failure
      cases failure
  | error e => exact ⟨e, (settled_eq_error_iff r e).mp answer⟩

theorem streak_errorsInARow (s : Setting) (n : Nat) : s.Streak n (s.errorsInARow n) := by
  induction n with
  | zero =>
      refine ⟨Nat.le_refl 0, fun k _ lt => ?_, fun lt => ?_⟩
      · exact absurd lt (Nat.not_lt_zero k)
      · exact absurd lt (Nat.lt_irrefl 0)
  | succ n ih =>
      rw [errorsInARow]
      cases last : isFailure (s.service.status n).result with
      | false =>
          rw [if_neg Bool.false_ne_true]
          exact ⟨Nat.zero_le _, fun k low lt => absurd low (by omega), fun _ => last⟩
      | true =>
          rw [if_pos rfl]
          refine ⟨Nat.succ_le_succ ih.within, fun k low lt => ?_, fun lt => ?_⟩
          · by_cases newest : k = n
            · rw [newest]
              exact last
            · exact ih.errors k (by omega) (by omega)
          · rw [Nat.succ_sub_succ]
            exact ih.broken (Nat.lt_of_succ_lt_succ lt)

/-- A streak is as long as it can be. -/
theorem Streak.le_of_errors (streak : s.Streak n c) {d : Nat} (within : d ≤ n)
    (errors : ∀ k, n - d ≤ k → k < n → isFailure (s.service.status k).result = true) : d ≤ c := by
  refine Nat.le_of_not_lt fun longer => ?_
  have broken := streak.broken (by omega)
  rw [errors (n - c - 1) (by omega) (by omega)] at broken
  cases broken

theorem Streak.eq (streak : s.Streak n c) : c = s.errorsInARow n := by
  have other := s.streak_errorsInARow n
  exact Nat.le_antisymm (other.le_of_errors streak.within streak.errors)
    (streak.le_of_errors other.within other.errors)

theorem le_errorsInARow_iff (s : Setting) (n c : Nat) : c ≤ s.errorsInARow n ↔
    c ≤ n ∧ ∀ k, n - c ≤ k → k < n → isFailure (s.service.status k).result = true := by
  have streak := s.streak_errorsInARow n
  constructor
  · intro le
    exact ⟨Nat.le_trans le streak.within, fun k low lt => streak.errors k (by omega) lt⟩
  · rintro ⟨within, errors⟩
    exact streak.le_of_errors within errors

/-! ## What is noted -/

/-- The notes that the first answers leave: one for each error, in their order. -/
inductive Noted (s : Setting) : Nat → List (String × Nat) → Prop
  | nothing : Noted s 0 []
  | read (n : Nat) (notes : List (String × Nat)) (status : Option RemoteStatus) :
      Noted s n notes → Reads (s.service.status n).result status → Noted s (n + 1) notes
  | failed (n : Nat) (notes : List (String × Nat)) (e : ServiceError) (c : Nat) :
      Noted s n notes → Fails (s.service.status n).result e → s.Streak (n + 1) c →
      Noted s (n + 1) (notes ++ [(e.message, c)])

theorem Noted.le {notes : List (String × Nat)} {most : Nat} (noted : s.Noted n notes)
    (few : ∀ k < n, s.errorsInARow (k + 1) ≤ most) : ∀ note ∈ notes, note.2 ≤ most := by
  induction noted with
  | nothing => exact fun note listed => nomatch listed
  | read n notes status noted reads ih => exact ih fun k lt => few k (Nat.lt_succ_of_lt lt)
  | failed n notes e c noted fails streak ih =>
      refine List.forall_mem_append.mpr ⟨ih fun k lt => few k (Nat.lt_succ_of_lt lt), ?_⟩
      rw [List.forall_mem_singleton, streak.eq]
      exact few n (Nat.lt_succ_self n)

/-- The trail holds the notes of the answers so far, as long as a counter of 32 bits can count them. -/
def Tally (s : Setting) (p : Progress) : Prop :=
  p.polls < UInt32.size → s.Noted p.polls (failureNotes p.trail.events)

def Tallied (s : Setting) (m : Moment) : Prop :=
  s.Tally m.progress ∧
  match m.phase with
  | .fetching _ _ => questions m.progress.calls = m.progress.polls
  | .ended o =>
    questions m.progress.calls = m.progress.polls ∧
      failureNotes o.trail.events = failureNotes m.progress.trail.events
  | _ => True

theorem tally_start (s : Setting) : s.Tally (Progress.start s) := by
  intro _
  have silent : failureNotes (Progress.start s).trail.events = [] := by
    unfold Progress.start
    cases s.streamed <;> rfl
  rw [silent]
  exact .nothing

theorem Tally.of_notes {q : Progress} (tally : s.Tally p) (polls : q.polls = p.polls)
    (notes : failureNotes q.trail.events = failureNotes p.trail.events) : s.Tally q := by
  unfold Tally
  rw [polls, notes]
  exact tally

theorem failureNotes_settle (s : Setting) (p : Progress) (state : State) (reason : String) :
    failureNotes (s.settle p state reason).trail.events = failureNotes p.trail.events := by
  change failureNotes (p.trail.transition (s.clock p.now) state reason).events = _
  unfold Trail.transition
  split
  · rfl
  · rw [Trail.events_push, failureNotes_append]
    exact List.append_nil _

theorem failureNotes_fetched (s : Setting) (p : Progress) (reason : String) :
    failureNotes (s.fetched p reason).trail.events = failureNotes p.trail.events := by
  unfold fetched
  split
  · rfl
  · change failureNotes (p.trail.outputsUnavailable _ _).events = _
    rw [Trail.events_outputsUnavailable, failureNotes_append]
    exact List.append_nil _

/-! ## One answer -/

theorem heeded_of_fails {e : ServiceError} (fails : Fails (s.service.status p.polls).result e) :
    s.heeded p =
      (({ p with polls := p.polls + 1, failures := p.failures + 1 } : Progress).onTrail fun t =>
          t.pollFailed (s.clock p.now) e.message (p.failures + 1),
        if s.options.maxFailures < p.failures + 1 then
          some (.failed, "status of " ++ s.options.stack ++ " unavailable after "
            ++ toString (p.failures + 1).toNat ++ " consecutive failures: " ++ e.message)
        else none) := by
  unfold heeded heed
  rw [(settled_eq_error_iff _ e).mpr fails]

/-- What the counter of the run shows after an error. -/
theorem toNat_failures_succ (counts : s.Counts p) {e : ServiceError}
    (fails : Fails (s.service.status p.polls).result e)
    (counted : s.errorsInARow (p.polls + 1) < UInt32.size) :
    (p.failures + 1).toNat = s.errorsInARow (p.polls + 1) := by
  rw [failures_succ counts fails.isFailure, UInt32.toNat_ofNat']
  exact Nat.mod_eq_of_lt counted

theorem failureNotes_heeded_of_reads {status : Option RemoteStatus}
    (reads : Reads (s.service.status p.polls).result status) :
    failureNotes (s.heeded p).1.trail.events = failureNotes p.trail.events := by
  unfold heeded heed
  rw [(settled_eq_ok_iff _ status).mpr reads]
  cases status with
  | none =>
      change failureNotes (p.trail.stackMissing _).events = _
      rw [Trail.events_stackMissing, failureNotes_append]
      exact List.append_nil _
  | some status =>
      change failureNotes (p.trail.observe _ status).events = _
      rcases p.trail.events_observe (s.clock p.now) status with same | more
      · rw [same]
      · rw [more, failureNotes_append]
        exact List.append_nil _

theorem tally_heeded (tally : s.Tally p) (counts : s.Counts p) : s.Tally (s.heeded p).1 := by
  intro few
  rw [(s.heeded_course p).2.1] at few ⊢
  have noted := tally (Nat.lt_of_succ_lt few)
  cases answer : settled (s.service.status p.polls).result with
  | ok status =>
      have reads := (settled_eq_ok_iff _ status).mp answer
      rw [failureNotes_heeded_of_reads reads]
      exact .read _ _ status noted reads
  | error e =>
      have fails := (settled_eq_error_iff _ e).mp answer
      rw [heeded_of_fails fails]
      change s.Noted _ (failureNotes (p.trail.pollFailed _ e.message (p.failures + 1)).events)
      rw [Trail.events_pollFailed, failureNotes_append]
      refine .failed _ _ e _ noted fails ?_
      rw [toNat_failures_succ counts fails (s.errorsInARow_lt_of_few few)]
      exact s.streak_errorsInARow _

/-! ## One step -/

theorem tallied_conclude (tally : s.Tally p) (asked : questions p.calls = p.polls) (state : State)
    (reason : String) : s.Tallied (s.conclude token p state reason) := by
  have settled : s.Tally (s.settle p state reason) :=
    tally.of_notes rfl (s.failureNotes_settle p state reason)
  refine conclude_cases (P := s.Tallied) (fun _ => ?_) (fun _ _ => ?_)
  · exact ⟨settled, asked, rfl⟩
  · exact ⟨settled, (questions_outputs _ _ _).trans asked⟩

theorem isQuestion_submission (s : Setting) : s.submission.isQuestion = false := by
  unfold submission
  cases s.options.action <;> rfl

theorem questions_of_calls {calls : List (Nat × Call)} (after : List Call)
    (made : calls.map Prod.snd =
      s.submission :: (List.replicate n (.status s.options.stack) ++ after)) :
    questions calls = n + after.countP Call.isQuestion := by
  have submits := s.isQuestion_submission
  have counted : questions calls = (calls.map Prod.snd).countP Call.isQuestion := by
    rw [List.countP_map]
    rfl
  rw [counted, made, List.countP_cons_of_neg (by simp [submits]), List.countP_append,
    List.countP_replicate]
  rfl

theorem Asked.questions (asked : s.Asked p n) : Lifecycle.questions p.calls = n :=
  questions_of_calls [] (by rw [List.append_nil, asked.calls])

theorem tallied_look (tally : s.Tally p) (asked : questions p.calls = p.polls) :
    s.Tallied (s.look token started p) :=
  look_cases (P := s.Tallied) (fun state reason _ => tallied_conclude tally asked state reason)
    (fun _ _ => ⟨tally, trivial⟩)

theorem tallied_hear (tally : s.Tally p) (asked : questions p.calls = p.polls + 1)
    (counts : s.Counts p) : s.Tallied (s.hear token started p) := by
  obtain ⟨-, polls, calls, -⟩ := s.heeded_course p
  have heard := tally_heeded tally counts
  refine hear_cases (P := s.Tallied) (fun q state reason answer => ?_) (fun q answer => ?_)
  · rw [answer] at polls calls heard
    refine tallied_conclude heard ?_ state reason
    rw [calls, polls, asked]
  · rw [answer] at heard
    exact ⟨heard, trivial⟩

theorem tallied_accept (tally : s.Tally p) (asked : questions p.calls = p.polls) :
    s.Tallied (s.accept token p) := by
  refine accept_cases (P := s.Tallied) (fun e _ => tallied_conclude tally asked _ _) (fun _ => ?_)
  exact tallied_look (tally.of_notes rfl (s.failureNotes_settle p _ _)) asked

theorem tallied_enter (s : Setting) (token : Bool) : s.Tallied (s.enter token) := by
  refine enter_cases (P := s.Tallied) (fun _ _ => ⟨s.tally_start, trivial⟩) (fun _ => ?_)
    (fun _ => ⟨s.tally_start, trivial⟩)
  exact tallied_conclude s.tally_start rfl _ _

theorem tallied_move (placed : s.Placed m) (spoken : s.Spoken m) (tallied : s.Tallied m)
    (move : s.Moves m m') : s.Tallied m' := by
  cases move with
  | cancel =>
      obtain ⟨phase, p, token⟩ := m
      cases phase <;> exact tallied
  | pass phase p token due time ends =>
      cases phase with
      | entering => cases ends
      | refused e => cases ends
      | ended o => cases ends
      | _ => exact tallied
  | enter token => exact s.tallied_enter token
  | accept since p token =>
      refine tallied_accept tallied.1 ?_
      rw [show p.polls = 0 from placed.2]
      exact questions_of_calls (n := 0) [] spoken
  | hear started since p token => exact tallied_hear tallied.1 spoken.questions placed.counts
  | sleep started since p token => exact tallied_look tallied.1 spoken.questions
  | wake started since p => exact tallied_look tallied.1 spoken.questions
  | fetch reason since p token => exact ⟨tallied.1, tallied.2, s.failureNotes_fetched p reason⟩

theorem Occurs.tallied (occurs : s.Occurs m) : s.Tallied m := by
  induction occurs with
  | refl => exact ⟨s.tally_start, trivial⟩
  | tail before move ih => exact tallied_move (Occurs.placed before) (Occurs.spoken before) ih move

/-- The questions of a run that has ended are those that were answered. -/
theorem Occurs.questions_eq (occurs : s.Occurs ⟨.ended o, p, token⟩) : questions o.calls = p.polls := by
  have made : o.calls = p.calls := (Occurs.spoken occurs).1
  rw [made]
  exact (Occurs.tallied occurs).2.1

/-! ## How many are tolerated -/

theorem errorsInARow_le_of_undecided (undecided : ∀ state, ¬ s.Decides n state)
    (counted : s.errorsInARow (n + 1) < UInt32.size) :
    s.errorsInARow (n + 1) ≤ s.options.maxFailures.toNat := by
  have exact_count : (UInt32.ofNat (s.errorsInARow (n + 1))).toNat = s.errorsInARow (n + 1) := by
    rw [UInt32.toNat_ofNat']
    exact Nat.mod_eq_of_lt counted
  refine Nat.le_of_not_lt fun many => ?_
  rw [← exact_count] at many
  cases answer : settled (s.service.status n).result with
  | ok status =>
      -- An answer that is no error ends every streak.
      rw [exact_count, errorsInARow, ((settled_eq_ok_iff _ status).mp answer).isFailure] at many
      exact absurd many (Nat.not_lt_zero _)
  | error e =>
      have fails := (settled_eq_error_iff _ e).mp answer
      exact undecided .failed (.exhausted e fails (UInt32.lt_iff_toNat_lt.mpr many))

/-- A turn that none has ended yet finds no more errors in a row than are tolerated. -/
theorem Reached.errorsInARow_le (reached : s.Reached n) : s.errorsInARow n ≤ s.options.maxFailures.toNat := by
  cases n with
  | zero => exact Nat.zero_le _
  | succ n =>
      have unended := reached n (Nat.lt_succ_self n)
      refine Nat.le_of_not_lt fun many => ?_
      cases last : isFailure (s.service.status n).result with
      | false =>
          rw [errorsInARow, last, if_neg Bool.false_ne_true] at many
          exact absurd many (Nat.not_lt_zero _)
      | true =>
          obtain ⟨e, fails⟩ := exists_fails last
          exact unended _ _ (.exhausted e (asks_of_no_ending unended) fails many)

/-- One answer behind those that decide nothing makes the count too large by one at most. -/
theorem errorsInARow_le_succ (undecided : ∀ k, k + 1 < n → ∀ state, ¬ s.Decides k state)
    (few : n < UInt32.size) : ∀ k < n, s.errorsInARow (k + 1) ≤ s.options.maxFailures.toNat + 1 := by
  intro k lt
  have step := s.errorsInARow_succ_le k
  cases k with
  | zero => exact Nat.le_trans step (Nat.le_add_left 1 _)
  | succ k =>
      have before := errorsInARow_le_of_undecided (undecided k lt) (s.errorsInARow_lt_of_few (by omega))
      omega

/-- Every answer has been asked for. -/
theorem Occurs.polls_le_questions (occurs : s.Occurs m) :
    m.progress.polls ≤ questions m.progress.calls := by
  have placed := occurs.placed
  have spoken := occurs.spoken
  have tallied := occurs.tallied.2
  obtain ⟨phase, p, token⟩ := m
  cases phase with
  | entering =>
      rw [show p = Progress.start s from placed]
      exact Nat.zero_le _
  | refused e =>
      rw [show p = Progress.start s from placed.1]
      exact Nat.zero_le _
  | submitting since =>
      rw [show p.polls = 0 from placed.2]
      exact Nat.zero_le _
  | asking started since => exact spoken.questions.symm ▸ Nat.le_succ _
  | resting started since => exact spoken.questions.ge
  | fetching reason since => exact tallied.ge
  | ended o => exact tallied.1.ge

theorem Protocol.undecided {calls : List (Nat × Call)} {state : State}
    (protocol : s.Protocol (calls.map Prod.snd) state) :
    ∀ k, k + 1 < questions calls → ∀ last, ¬ s.Decides k last := by
  generalize made : calls.map Prod.snd = all at protocol
  obtain ⟨n, state, -, -, undecided⟩ := protocol
  have outputs : List.countP Call.isQuestion
      (if state = .complete ∧ s.options.action ≠ .delete then [.outputs s.options.stack] else []) = 0 := by
    split <;> rfl
  rw [questions_of_calls _ made, outputs]
  exact undecided

/-- The answers to all questions but the last one decide nothing. -/
theorem Occurs.undecided_asked (occurs : s.Occurs m) :
    ∀ k, k + 1 < questions m.progress.calls → ∀ state, ¬ s.Decides k state := by
  intro k asked
  rcases occurs.protocol with ⟨silent, -⟩ | protocol
  · rw [silent] at asked
    exact absurd asked (Nat.not_lt_zero _)
  · exact protocol.undecided k asked

/-- The answers before the last one have decided nothing. -/
theorem Occurs.undecided (occurs : s.Occurs m) :
    ∀ k, k + 1 < m.progress.polls → ∀ state, ¬ s.Decides k state :=
  fun k lt => occurs.undecided_asked k (Nat.lt_of_lt_of_le lt occurs.polls_le_questions)

/-- The notes at a moment, none of which counts more errors than one above those tolerated. -/
theorem Occurs.noted (occurs : s.Occurs m) (few : m.progress.polls < UInt32.size) :
    s.Noted m.progress.polls (failureNotes m.progress.trail.events) ∧
    ∀ note ∈ failureNotes m.progress.trail.events, note.2 ≤ s.options.maxFailures.toNat + 1 := by
  have noted := occurs.tallied.1 few
  exact ⟨noted, noted.le (errorsInARow_le_succ occurs.undecided few)⟩

/-! ## The end by errors -/

def exhaustion (s : Setting) (c : Nat) (e : ServiceError) : String :=
  "status of " ++ s.options.stack ++ " unavailable after " ++ toString c ++ " consecutive failures: "
    ++ e.message

/-- The run goes on after an error, which has been noted with its count. -/
def Tolerates (m m' : Moment) (e : ServiceError) (c : Nat) : Prop :=
  (∃ started since, m'.phase = .resting started since) ∧
    m'.progress.trail.events = m.progress.trail.events ++ [.pollFailed e.message (UInt32.ofNat c)]

/-- The run has failed at an error, which has been noted with its count. -/
def Exhausts (s : Setting) (m m' : Moment) (e : ServiceError) (c : Nat) : Prop :=
  ∃ o, m'.phase = .ended o ∧ o.state = .failed ∧ o.status = .failure ∧ o.reason = s.exhaustion c e ∧
    o.trail.events = m.progress.trail.events ++
      [.pollFailed e.message (UInt32.ofNat c), .stateChanged .inProgress .failed o.reason]

theorem conclude_failed (s : Setting) (token : Bool) (p : Progress) (reason : String) :
    s.conclude token p .failed reason =
      ⟨.ended (outcome (s.settle p .failed reason) .failure reason {}), s.settle p .failed reason,
        token⟩ :=
  if_pos (.inl State.noConfusion)

/-- What a run does when an answer comes that is an error, and its counter can count it. -/
theorem hear_of_counted {since : Nat} {e : ServiceError} {c : Nat}
    (placed : s.Placed ⟨.asking started since, p, token⟩)
    (fails : Fails (s.service.status p.polls).result e)
    (counted : s.errorsInARow (p.polls + 1) < UInt32.size) (streak : s.Streak (p.polls + 1) c) :
    (c ≤ s.options.maxFailures.toNat →
      Tolerates ⟨.asking started since, p, token⟩ (s.hear token started p) e c) ∧
    (s.options.maxFailures.toNat < c →
      s.Exhausts ⟨.asking started since, p, token⟩ (s.hear token started p) e c) := by
  have count := toNat_failures_succ placed.counts fails counted
  rw [← streak.eq] at count
  have counter : p.failures + 1 = UInt32.ofNat c := by rw [← count, UInt32.ofNat_toNat]
  have answer := heeded_of_fails fails
  have inProgress := (s.heeded_course p).2.2.2.trans placed.state
  rw [counter] at answer count
  rw [answer] at inProgress
  rw [count] at answer
  generalize heard : Progress.onTrail _ _ = q at answer inProgress
  have noted : q.trail.events = p.trail.events ++ [.pollFailed e.message (UInt32.ofNat c)] := by
    rw [← heard]
    exact Trail.events_pollFailed _ _ _ _
  have exceeds : s.options.maxFailures < UInt32.ofNat c ↔ s.options.maxFailures.toNat < c := by
    rw [UInt32.lt_iff_toNat_lt, count]
  refine ⟨fun tolerated => ?_, fun many => ?_⟩
  · unfold hear
    rw [answer, if_neg (mt exceeds.mp (Nat.not_lt.mpr tolerated))]
    exact ⟨⟨started, q.now, rfl⟩, noted⟩
  · have under := q.trail.not_terminal_of_eq inProgress rfl
    have other : q.trail.state ≠ .failed := by
      rw [inProgress]
      exact State.noConfusion
    have settled := Trail.events_transition q.trail (s.clock q.now) .failed (s.exhaustion c e) under other
    rw [noted, inProgress, List.append_assoc] at settled
    have concludes : s.hear token started p = s.conclude token q .failed (s.exhaustion c e) := by
      unfold hear
      rw [answer, if_pos (exceeds.mpr many)]
      rfl
    rw [concludes, conclude_failed]
    exact ⟨_, rfl, Trail.state_transition _ _ .failed _ under, rfl, rfl, settled⟩

theorem hear_of_fails {since : Nat} {e : ServiceError} {c : Nat}
    (placed : s.Placed ⟨.asking started since, p, token⟩)
    (fails : Fails (s.service.status p.polls).result e) (few : p.polls + 1 < UInt32.size)
    (streak : s.Streak (p.polls + 1) c) :
    (c ≤ s.options.maxFailures.toNat →
      Tolerates ⟨.asking started since, p, token⟩ (s.hear token started p) e c) ∧
    (s.options.maxFailures.toNat < c →
      s.Exhausts ⟨.asking started since, p, token⟩ (s.hear token started p) e c) :=
  hear_of_counted placed fails (s.errorsInARow_lt_of_few few) streak

/-- Every answer that is an error leaves one note, in the order of the answers, with its text and the number
of errors in a row that it ends; other answers leave none, and end the row.  At a count that is tolerated the
run goes on, and at the first that is not it has failed, with that count in its reason; so no note counts
more errors than one above those tolerated. -/
theorem failures_counted (s : Setting) :
    (∀ m, s.Occurs m → m.progress.polls < UInt32.size →
      s.Noted m.progress.polls (failureNotes m.progress.trail.events) ∧
      ∀ note ∈ failureNotes m.progress.trail.events, note.2 ≤ s.options.maxFailures.toNat + 1) ∧
    (∀ m m' started since e, s.Occurs m → m.phase = .asking started since → s.Moves m m' →
      m'.progress.polls = m.progress.polls + 1 → m'.progress.polls < UInt32.size →
      Fails (s.service.status m.progress.polls).result e →
      ∃ c, s.Streak m'.progress.polls c ∧ (
        (c ≤ s.options.maxFailures.toNat ∧ Tolerates m m' e c) ∨
        (c = s.options.maxFailures.toNat + 1 ∧ s.Exhausts m m' e c))) ∧
    ∀ o, (s.Ends s.beginning o ∨ ∃ fuel, s.run fuel = .ok (some o)) →
      questions o.calls < UInt32.size →
      s.Noted (questions o.calls) (failureNotes o.trail.events) ∧
      ∀ note ∈ failureNotes o.trail.events, note.2 ≤ s.options.maxFailures.toNat + 1 := by
  refine ⟨fun m occurs few => occurs.noted few, ?_, fun o ended few => ?_⟩
  · intro m m' started since e occurs asking move polls few fails
    have later : s.Occurs m' := occurs.tail move
    rw [polls] at few ⊢
    have streak := s.streak_errorsInARow (m.progress.polls + 1)
    have most := errorsInARow_le_succ later.undecided (polls.symm ▸ few) m.progress.polls (by omega)
    obtain ⟨phase, p, token⟩ := m
    cases asking
    cases move with
    | cancel => exact absurd polls (Nat.ne_of_lt (Nat.lt_succ_self _))
    | pass => exact absurd polls (Nat.ne_of_lt (Nat.lt_succ_self _))
    | hear =>
        obtain ⟨tolerates, exhausts⟩ := hear_of_fails occurs.placed fails few streak
        refine ⟨_, streak, ?_⟩
        by_cases tolerated : s.errorsInARow (p.polls + 1) ≤ s.options.maxFailures.toNat
        · exact .inl ⟨tolerated, tolerates tolerated⟩
        · have many := Nat.lt_of_not_le tolerated
          exact .inr ⟨Nat.le_antisymm most many, exhausts many⟩
  · obtain ⟨p, token, occurs⟩ : s.Ends s.beginning o := by
      rcases ended with ends | ⟨fuel, ran⟩
      · exact ends
      · exact ends_of_run ran
    have made : o.calls = p.calls := (Occurs.spoken occurs).1
    obtain ⟨asked, notes⟩ := (Occurs.tallied occurs).2
    rw [made, show questions p.calls = p.polls from asked] at few ⊢
    rw [notes]
    exact Occurs.noted occurs few

/-- A service that is down, where one failed question is tolerated. -/
def unreachable : Setting :=
  { lateOutputs with
    service := { lateOutputs.service with status := fun _ => .now (.error (.network "down")) }
    cancellation := .never }

/-- The first question has been asked, and its answer is there. -/
def unanswered : Moment := ⟨.asking 0 0, unreachable.asked unreachable.begun, false⟩

theorem occurs_unanswered : unreachable.Occurs unanswered := by
  have enters := Moves.enter (s := unreachable) false
  rw [enter_of_checked check_localProfile rfl, if_neg Bool.false_ne_true] at enters
  have submitted : unreachable.Occurs ⟨.submitting 0, unreachable.submitted, false⟩ := .single enters
  exact submitted.tail (.accept 0 unreachable.submitted false rfl)

theorem failures_counted_unreachable : ∃ o m, unreachable.run 2 = .ok (some o) ∧
    unreachable.Noted 2 [("network error: down", 1), ("network error: down", 2)] ∧
    o.reason = unreachable.exhaustion 2 (.network "down") ∧
    unreachable.Moves unanswered m ∧ Tolerates unanswered m (.network "down") 1 := by
  obtain ⟨noted, heard, ran⟩ := failures_counted unreachable
  obtain ⟨o, ended, asked, notes, reason⟩ : ∃ o, unreachable.run 2 = .ok (some o) ∧
      questions o.calls = 2 ∧
      failureNotes o.trail.events = [("network error: down", 1), ("network error: down", 2)] ∧
      o.reason = unreachable.exhaustion 2 (.network "down") := by
    rw [run_of_checked check_localProfile rfl]
    exact ⟨_, rfl, rfl, rfl, rfl⟩
  have both := (ran o (.inr ⟨2, ended⟩) (asked ▸ by decide)).1
  rw [asked, notes] at both
  have move : unreachable.Moves unanswered (unreachable.hear false 0 (unreachable.asked unreachable.begun)) :=
    .hear 0 0 _ false rfl
  obtain ⟨c, streak, tolerated | exhausted⟩ := heard unanswered _ 0 0 (.network "down")
    occurs_unanswered rfl move rfl (by decide) ⟨rfl, nofun⟩
  · cases streak.eq
    exact ⟨o, _, ended, both, reason, move, tolerated.2⟩
  · cases streak.eq
    exact absurd exhausted.1 (by decide)

end Setting
end HeatStack.Lifecycle
