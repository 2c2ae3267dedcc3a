import HeatStack.Proofs.CallProtocol

/-! # When a run asks

The delays of the answers and the interval fix when each question is asked, whenever the run is cancelled
and whatever is answered (`Setting.questionTime`): a cancellation cuts a rest short, but then nothing more
is asked.  `Schedule` is what a run keeps of this; bounds on the number of questions follow from it, and
where the answers take no time, the times are the multiples of the interval. -/
set_option autoImplicit false
namespace HeatStack.Lifecycle

def questionTimes (calls : List (Nat × Call)) : List Nat :=
  (calls.filter fun c => c.2.isQuestion).map Prod.fst

theorem length_questionTimes (calls : List (Nat × Call)) :
    (questionTimes calls).length = questions calls := by
  rw [questionTimes, List.length_map, questions, List.countP_eq_length_filter]

theorem questionTimes_append (before after : List (Nat × Call)) :
    questionTimes (before ++ after) = questionTimes before ++ questionTimes after := by
  rw [questionTimes, List.filter_append, List.map_append]
  rfl

namespace Setting
variable {s : Setting} {token : Bool} {n k : Nat} {p : Progress} {m m' : Moment} {o : Outcome}

/-- When the k-th question is asked, counted from zero, if it is asked at all. -/
def questionTime (s : Setting) : Nat → Nat
  | 0 => s.service.submission.delay
  | k + 1 => s.questionTime k + (s.service.status k).delay + s.options.effectiveInterval

/-- So many questions have been asked, each at its time and before the time of the run was over. -/
structure Schedule (s : Setting) (p : Progress) (n : Nat) : Prop where
  times : questionTimes p.calls = (List.range n).map s.questionTime
  inTime : ∀ k < n, ∀ limit, s.options.timeout = some limit →
    s.questionTime k < s.service.submission.delay + limit.milliseconds

def Scheduled (s : Setting) (m : Moment) : Prop :=
  match m.phase with
  | .entering | .refused _ => s.Schedule m.progress 0
  | .submitting since => since = 0 ∧ m.progress.polls = 0 ∧ s.Schedule m.progress 0
  | .asking started since =>
    started = s.service.submission.delay ∧ since = s.questionTime m.progress.polls ∧
      s.Schedule m.progress (m.progress.polls + 1)
  | .resting started since =>
    started = s.service.submission.delay ∧
      since + s.options.effectiveInterval = s.questionTime m.progress.polls ∧
      s.Schedule m.progress m.progress.polls
  | .fetching _ _ => ∃ n, s.Schedule m.progress n
  | .ended o => ∃ n, s.Schedule m.progress n ∧ (o.state = .timedOut → o.elapsed = s.questionTime n)

/-! ## One step -/

theorem Schedule.of_calls {q : Progress} (schedule : s.Schedule p n) (same : q.calls = p.calls) :
    s.Schedule q n :=
  ⟨same ▸ schedule.times, schedule.inTime⟩

theorem schedule_none (calls : p.calls = []) : s.Schedule p 0 := by
  refine ⟨?_, fun k lt => absurd lt (Nat.not_lt_zero k)⟩
  rw [calls]
  rfl

theorem questionTimes_issue (p : Progress) {c : Call} (other : c.isQuestion = false) :
    questionTimes (p.issue c).calls = questionTimes p.calls := by
  change questionTimes (p.calls ++ [(p.now, c)]) = questionTimes p.calls
  rw [questionTimes_append]
  simp [questionTimes, other]

/-- The next question is asked at its time. -/
theorem Schedule.issue (schedule : s.Schedule p p.polls) (onTime : p.now = s.questionTime p.polls)
    (early : ∀ limit, s.options.timeout = some limit →
      p.now < s.service.submission.delay + limit.milliseconds) :
    s.Schedule (p.issue (.status s.options.stack)) (p.polls + 1) := by
  refine ⟨?_, fun k lt limit limited => ?_⟩
  · change questionTimes (p.calls ++ [(p.now, Call.status s.options.stack)]) = _
    rw [questionTimes_append, schedule.times, List.range_succ, List.map_append, onTime]
    rfl
  · rcases Nat.lt_succ_iff_lt_or_eq.mp lt with before | rfl
    · exact schedule.inTime k before limit limited
    · rw [← onTime]
      exact early limit limited

theorem scheduled_conclude (schedule : s.Schedule p n) (under : p.trail.state.isTerminal = false)
    {state : State} (late : state = .timedOut → p.now = s.questionTime n) (reason : String) :
    s.Scheduled (s.conclude token p state reason) := by
  have settled : (s.settle p state reason).trail.state = state :=
    Trail.state_transition _ _ state reason under
  refine conclude_cases (P := s.Scheduled) (fun _ => ?_) (fun _ _ => ?_)
  · exact ⟨n, schedule.of_calls rfl, fun expired => late (settled.symm.trans expired)⟩
  · refine ⟨n, ?_, schedule.inTime⟩
    rw [questionTimes_issue _ rfl]
    exact schedule.times

theorem scheduled_look (schedule : s.Schedule p p.polls)
    (onTime : token = false → p.now = s.questionTime p.polls) (inProgress : p.trail.state = .inProgress) :
    s.Scheduled (s.look token s.service.submission.delay p) := by
  have under := p.trail.not_terminal_of_eq inProgress rfl
  unfold look
  cases token with
  | true =>
      change s.Scheduled (s.conclude true p .aborted _)
      exact scheduled_conclude schedule under (by rintro ⟨⟩) _
  | false =>
      have now := onTime rfl
      cases late : s.expired? s.service.submission.delay p with
      | some limit =>
          change s.Scheduled (s.conclude false p .timedOut _)
          exact scheduled_conclude schedule under (fun _ => now) _
      | none =>
          refine ⟨rfl, now, schedule.issue now fun limit limited => ?_⟩
          rw [expired?, limited, Option.filter_eq_none_iff] at late
          have early := late limit rfl
          rw [decide_eq_true_eq] at early
          omega

theorem Decides.ne_timedOut {state : State} (decides : s.Decides k state) : state ≠ .timedOut := by
  cases decides with
  | final status state reads final =>
      generalize classify s.options.action status = observed at final
      cases final <;> exact State.noConfusion
  | exhausted e fails many => exact State.noConfusion

theorem scheduled_hear (schedule : s.Schedule p (p.polls + 1))
    (answered : p.now = s.questionTime p.polls + (s.service.status p.polls).delay) (counts : s.Counts p)
    (inProgress : p.trail.state = .inProgress) :
    s.Scheduled (s.hear token s.service.submission.delay p) := by
  obtain ⟨now, polls, calls, state⟩ := s.heeded_course p
  refine hear_cases (P := s.Scheduled) (fun q verdict reason answer => ?_) (fun q answer => ?_)
  · have decides := (heeded_decides counts verdict).mp ⟨reason, by rw [answer]⟩
    rw [answer] at calls state
    have under := q.trail.not_terminal_of_eq (state.trans inProgress) rfl
    exact scheduled_conclude (schedule.of_calls calls) under
      (fun expired => absurd expired decides.ne_timedOut) _
  · rw [answer] at now polls calls
    dsimp only at now polls calls
    refine ⟨rfl, ?_, ?_⟩
    · change q.now + s.options.effectiveInterval = s.questionTime q.polls
      rw [polls, now, answered]
      rfl
    · change s.Schedule q q.polls
      rw [polls]
      exact schedule.of_calls calls

theorem scheduled_accept (schedule : s.Schedule p 0) (first : p.polls = 0)
    (answered : p.now = s.service.submission.delay) (submitting : p.trail.state = .submitting) :
    s.Scheduled (s.accept token p) := by
  have under := p.trail.not_terminal_of_eq submitting rfl
  refine accept_cases (P := s.Scheduled) (fun e _ => ?_) (fun _ => ?_)
  · exact scheduled_conclude schedule under (by rintro ⟨⟩) _
  · have settled := Trail.state_transition p.trail (s.clock p.now) .inProgress "submitted" under
    rw [answered]
    refine scheduled_look ?_ (fun _ => ?_) settled
    · change s.Schedule (s.settle p .inProgress "submitted") p.polls
      rw [first]
      exact schedule.of_calls rfl
    · change p.now = s.questionTime p.polls
      rw [first]
      exact answered

theorem scheduled_enter (s : Setting) (token : Bool) : s.Scheduled (s.enter token) := by
  have silent := s.silent_start.1
  refine enter_cases (P := s.Scheduled) (fun _ _ => schedule_none silent) (fun _ => ?_) (fun _ => ?_)
  · exact scheduled_conclude (schedule_none silent) s.running_start (by rintro ⟨⟩) _
  · refine ⟨rfl, rfl, ?_, fun k lt => absurd lt (Nat.not_lt_zero k)⟩
    have other : s.submission.isQuestion = false := by
      unfold submission
      cases s.options.action <;> rfl
    rw [questionTimes_issue _ other, silent]
    rfl

theorem scheduled_move (placed : s.Placed m) (scheduled : s.Scheduled m) (move : s.Moves m m') :
    s.Scheduled m' := by
  cases move with
  | cancel =>
      obtain ⟨phase, p, token⟩ := m
      cases phase <;> exact scheduled
  | pass phase p token due time ends =>
      cases phase with
      | entering => cases ends
      | refused e => cases ends
      | ended o => cases ends
      | submitting since => exact ⟨scheduled.1, scheduled.2.1, scheduled.2.2.of_calls rfl⟩
      | asking started since => exact ⟨scheduled.1, scheduled.2.1, scheduled.2.2.of_calls rfl⟩
      | resting started since => exact ⟨scheduled.1, scheduled.2.1, scheduled.2.2.of_calls rfl⟩
      | fetching reason since =>
          obtain ⟨n, schedule⟩ := scheduled
          exact ⟨n, schedule.of_calls rfl⟩
  | enter token => exact s.scheduled_enter token
  | accept since p token answered =>
      obtain ⟨rfl, first, schedule⟩ := scheduled
      exact scheduled_accept schedule first (answered.trans (Nat.zero_add _)) placed.1.state
  | hear started since p token answered =>
      obtain ⟨rfl, asked, schedule⟩ := scheduled
      rw [asked] at answered
      exact scheduled_hear schedule answered placed.counts placed.state
  | sleep started since p token slept =>
      obtain ⟨rfl, due, schedule⟩ := scheduled
      exact scheduled_look schedule (fun _ => slept.trans due) placed.state
  | wake started since p =>
      -- No question follows a rest that is cut short, so it does not matter when that happens.
      obtain ⟨rfl, -, schedule⟩ := scheduled
      exact scheduled_look schedule nofun placed.state
  | fetch reason since p token =>
      obtain ⟨n, schedule⟩ := scheduled
      refine ⟨n, schedule, fun expired => ?_⟩
      rw [(s.fetched_course p reason).2, show p.trail.state = .complete from placed.state] at expired
      cases expired

theorem Occurs.scheduled (occurs : s.Occurs m) : s.Scheduled m :=
  occurs.keeps_placed (schedule_none s.silent_start.1) fun _ _ => scheduled_move

theorem Occurs.schedule (occurs : s.Occurs m) : ∃ n, s.Schedule m.progress n := by
  have scheduled := occurs.scheduled
  obtain ⟨phase, p, token⟩ := m
  cases phase with
  | entering => exact ⟨0, scheduled⟩
  | refused e => exact ⟨0, scheduled⟩
  | submitting since => exact ⟨0, scheduled.2.2⟩
  | asking started since => exact ⟨_, scheduled.2.2⟩
  | resting started since => exact ⟨_, scheduled.2.2⟩
  | fetching reason since => exact scheduled
  | ended o =>
      obtain ⟨n, schedule, -⟩ := scheduled
      exact ⟨n, schedule⟩

/-! ## What follows from the schedule -/

theorem le_questionTime (s : Setting) (k : Nat) :
    s.service.submission.delay + k * s.options.effectiveInterval ≤ s.questionTime k := by
  induction k with
  | zero => rw [Nat.zero_mul, Nat.add_zero, questionTime]
  | succ k ih =>
      rw [questionTime, Nat.succ_mul]
      omega

theorem questionTime_of_instant (instant : ∀ j, (s.service.status j).delay = 0) (k : Nat) :
    s.questionTime k = s.service.submission.delay + k * s.options.effectiveInterval := by
  induction k with
  | zero => rw [Nat.zero_mul, Nat.add_zero, questionTime]
  | succ k ih => rw [questionTime, ih, instant, Nat.succ_mul, Nat.add_zero, Nat.add_assoc]

theorem effectiveInterval_pos (s : Setting) : 0 < s.options.effectiveInterval :=
  Nat.lt_of_lt_of_le (by decide) s.options.shortestInterval_le_effectiveInterval

/-- All questions come before the time is over, and each takes an interval of it. -/
theorem Schedule.le_ceilDiv (schedule : s.Schedule p n) {limit : Timeout}
    (limited : s.options.timeout = some limit) :
    n ≤ limit.milliseconds ⌈/⌉ s.options.effectiveInterval := by
  cases n with
  | zero => exact Nat.zero_le _
  | succ n =>
      have early := schedule.inTime n (Nat.lt_succ_self n) limit limited
      have late := s.le_questionTime n
      by_contra many
      have few := Nat.le_of_lt_succ (Nat.not_le.mp many)
      have covered := (ceilDiv_le_iff_le_mul s.effectiveInterval_pos).mp few
      rw [Nat.mul_comm] at covered
      omega

theorem Schedule.asked (schedule : s.Schedule p n) : questions p.calls = n := by
  rw [← length_questionTimes, schedule.times, List.length_map, List.length_range]

theorem Schedule.getElem?_times (schedule : s.Schedule p n) {k time : Nat}
    (asked : (questionTimes p.calls)[k]? = some time) : k < n ∧ time = s.questionTime k := by
  rw [schedule.times, List.getElem?_map, Option.map_eq_some_iff] at asked
  obtain ⟨j, found, rfl⟩ := asked
  obtain ⟨lt, rfl⟩ := List.getElem?_eq_some_iff.mp found
  rw [List.length_range] at lt
  rw [List.getElem_range]
  exact ⟨lt, rfl⟩

theorem Makes.schedule {calls : List (Nat × Call)} (makes : s.Makes calls) :
    ∃ p n, s.Schedule p n ∧ p.calls = calls := by
  obtain ⟨m, occurs, made⟩ := makes.moment
  obtain ⟨n, schedule⟩ := occurs.schedule
  exact ⟨m.progress, n, schedule, made⟩

/-! ## A run that is out of time -/

/-- None of the first answers ends the run. -/
structure Undecided (s : Setting) (n : Nat) : Prop where
  pending : ∀ k < n, ∀ status, Reads (s.service.status k).result status →
    ∀ state, ¬ Final (classify s.options.action status) state
  tolerated : ∀ k < n, s.errorsInARow (k + 1) ≤ s.options.maxFailures.toNat

section
variable {limit : Timeout}

theorem turnStart_of_instant (never : s.cancellation = .never)
    (instant : ∀ j, (s.service.status j).delay = 0) (k : Nat) :
    s.turnStart k = s.service.submission.delay + k * s.options.effectiveInterval := by
  induction k with
  | zero => rw [Nat.zero_mul, Nat.add_zero, turnStart]
  | succ k ih =>
      have wakes (now answered due : Nat) : Cancellation.never.wake now answered due = due := rfl
      rw [turnStart, never, wakes, ih, instant, Nat.succ_mul, Nat.add_zero, Nat.add_assoc]

theorem expiredAt_iff (never : s.cancellation = .never) (instant : ∀ j, (s.service.status j).delay = 0)
    (limited : s.options.timeout = some limit) (k : Nat) :
    s.ExpiredAt k limit ↔ limit.milliseconds ⌈/⌉ s.options.effectiveInterval ≤ k := by
  rw [ExpiredAt, turnStart_of_instant never instant, turnStart_of_instant never instant, Nat.zero_mul,
    Nat.add_zero, Nat.add_sub_cancel_left, ceilDiv_le_iff_le_mul s.effectiveInterval_pos, Nat.mul_comm]
  exact and_iff_right limited

theorem running_of_never_at (never : s.cancellation = .never) (k : Nat) : ¬ s.CancelledAt k := by
  rw [CancelledAt, never]
  exact Bool.false_ne_true

theorem firstEnding_of_undecided (never : s.cancellation = .never)
    (instant : ∀ j, (s.service.status j).delay = 0) (limited : s.options.timeout = some limit)
    (undecided : s.Undecided (limit.milliseconds ⌈/⌉ s.options.effectiveInterval)) :
    s.FirstEnding (limit.milliseconds ⌈/⌉ s.options.effectiveInterval)
      (limit.milliseconds ⌈/⌉ s.options.effectiveInterval) .timedOut
      (s.subject ++ " timed out after " ++ toString limit ++ "s") := by
  have expired := expiredAt_iff never instant limited
  have late := (expired _).mpr (Nat.le_refl _)
  refine ⟨.expired limit (running_of_never_at never _) late, .inr ⟨fun asks => asks.2 limit late, rfl⟩,
    fun k lt state reason ending => ?_⟩
  cases ending with
  | cancelled now => exact running_of_never_at never k now
  | expired limit' _ early =>
      cases limited.symm.trans early.1
      exact Nat.not_le.mpr lt ((expired k).mp early)
  | answered status state _ reads final => exact undecided.pending k lt status reads state final
  | exhausted e _ _ many => exact Nat.not_lt.mpr (undecided.tolerated k lt) many

theorem Undecided.countable (undecided : s.Undecided n) : s.Countable n := by
  intro k le
  cases k with
  | zero => exact Nat.zero_lt_succ _
  | succ k => exact Nat.lt_of_le_of_lt (undecided.tolerated k le) s.options.maxFailures.toNat_lt_size

theorem elapsed_of_timedOut (occurs : s.Occurs ⟨.ended o, p, token⟩) (expired : o.state = .timedOut) :
    questionTimes o.calls = (List.range (questions o.calls)).map s.questionTime ∧
      o.elapsed = s.questionTime (questions o.calls) := by
  obtain ⟨n, schedule, last⟩ := Occurs.scheduled occurs
  obtain ⟨calls, -⟩ := Occurs.spoken occurs
  rw [calls, schedule.asked]
  exact ⟨schedule.times, last expired⟩

end

/-- The first multiple of the interval that is not before a time. -/
theorem isLeast_ceilDiv_mul {i : Nat} (positive : 0 < i) (time : Nat) :
    IsLeast {t | i ∣ t ∧ time ≤ t} (time ⌈/⌉ i * i) := by
  refine ⟨⟨Nat.dvd_mul_left _ _, ?_⟩, ?_⟩
  · rw [Nat.mul_comm]
    exact (ceilDiv_le_iff_le_mul positive).mp (Nat.le_refl _)
  · rintro t ⟨⟨c, rfl⟩, le⟩
    rw [Nat.mul_comm]
    exact Nat.mul_le_mul_left i ((ceilDiv_le_iff_le_mul positive).mpr le)

/-- Questions are asked an interval apart at least, and only before the time of the run is over, so that
there are not more of them than intervals in that time.  Where the answers take no time, they are asked at
the multiples of the interval; and if nothing else ends the run, it ends at the first multiple at which its
time is over, with a question at each one before. -/
theorem poll_schedule (s : Setting) :
    s.options.effectiveInterval = max s.options.interval shortestInterval ∧
    (∀ calls, s.Makes calls →
      (∀ k time next, (questionTimes calls)[k]? = some time → (questionTimes calls)[k + 1]? = some next →
        time + s.options.effectiveInterval ≤ next) ∧
      ((∀ j, (s.service.status j).delay = 0) → ∀ k time, (questionTimes calls)[k]? = some time →
        time = s.service.submission.delay + k * s.options.effectiveInterval) ∧
      ∀ limit, s.options.timeout = some limit →
        (∀ time ∈ questionTimes calls, time < s.service.submission.delay + limit.milliseconds) ∧
        questions calls ≤ limit.milliseconds ⌈/⌉ s.options.effectiveInterval) ∧
    (∀ limit, s.options.timeout = some limit →
      s.profile.check = .ok () → s.parameters.checkFor s.bundle = .ok () →
      s.service.submission.result = .ok () → s.cancellation = .never →
      (∀ j, (s.service.status j).delay = 0) →
      s.Undecided (limit.milliseconds ⌈/⌉ s.options.effectiveInterval) →
      (∃ fuel o, s.run fuel = .ok (some o)) ∧
      ∀ fuel o, s.run fuel = .ok (some o) →
        o.state = .timedOut ∧
        questions o.calls = limit.milliseconds ⌈/⌉ s.options.effectiveInterval ∧
        questionTimes o.calls = (List.range (questions o.calls)).map (fun k =>
          s.service.submission.delay + k * s.options.effectiveInterval) ∧
        ∃ last, IsLeast {t | s.options.effectiveInterval ∣ t ∧ limit.milliseconds ≤ t} last ∧
          o.elapsed = s.service.submission.delay + last) := by
  refine ⟨rfl, fun calls makes => ?_, ?_⟩
  · obtain ⟨p, n, schedule, rfl⟩ := makes.schedule
    refine ⟨fun k time next asked after => ?_, fun instant k time asked => ?_, fun limit limited => ?_⟩
    · obtain ⟨-, rfl⟩ := schedule.getElem?_times asked
      obtain ⟨-, rfl⟩ := schedule.getElem?_times after
      rw [questionTime]
      omega
    · obtain ⟨-, rfl⟩ := schedule.getElem?_times asked
      exact questionTime_of_instant instant k
    · refine ⟨fun time asked => ?_, ?_⟩
      · obtain ⟨k, found⟩ := List.getElem?_of_mem asked
        obtain ⟨lt, rfl⟩ := schedule.getElem?_times found
        exact schedule.inTime k lt limit limited
      · rw [schedule.asked]
        exact schedule.le_ceilDiv limited
  · intro limit limited profile parameters accepted never instant undecided
    have first := firstEnding_of_undecided never instant limited undecided
    have submitted : s.Submitted := ⟨by rw [never]; rfl, accepted⟩
    have concludes := Concludes.ended _ _ _ _ _ submitted first .timedOut (.inl State.noConfusion)
    obtain ⟨fuel, o, driven, same⟩ := drive_of_concludes concludes undecided.countable
    -- The run that has been found is the only one that ends; the times are read off its moments.
    refine ⟨⟨fuel, o, ?_⟩, fun fuel' o' ran => ?_⟩
    · rw [run_of_checked profile parameters, driven]
    · obtain ⟨p, token, occurs⟩ := ends_of_run ran
      rw [run_of_checked profile parameters] at ran
      cases drive_unique fuel fuel' o o' driven (Except.ok.inj ran)
      obtain ⟨times, elapsed⟩ := elapsed_of_timedOut occurs same.state
      refine ⟨same.state, same.asked, ?_, _, isLeast_ceilDiv_mul s.effectiveInterval_pos _, ?_⟩
      · rw [times]
        exact List.map_congr_left fun k _ => questionTime_of_instant instant k
      · rw [elapsed, questionTime_of_instant instant, same.asked]

/-- A stack that is never done, with questions every five seconds for twelve seconds. -/
def unfinished : Setting :=
  { lateOutputs with
    service := { lateOutputs.service with
      status := fun _ => .now (.ok (some ⟨"CREATE_IN_PROGRESS", ""⟩)) }
    options := { lateOutputs.options with interval := 5000, timeout := some (.ofSeconds 12) }
    cancellation := .never }

theorem undecided_unfinished (n : Nat) : unfinished.Undecided n := by
  refine ⟨fun k _ status reads state final => ?_, fun k _ => ?_⟩
  · cases reads
    have pending : classify unfinished.options.action (some ⟨"CREATE_IN_PROGRESS", ""⟩) = .pending := by
      decide
    rw [pending] at final
    cases final
  · exact Nat.zero_le _

theorem poll_schedule_unfinished : ∃ fuel o, unfinished.run fuel = .ok (some o) ∧ o.state = .timedOut ∧
    questionTimes o.calls = [0, 5000, 10000] ∧ o.elapsed = 15000 := by
  have intervals :
      (Timeout.ofSeconds 12).milliseconds ⌈/⌉ unfinished.options.effectiveInterval = 3 := rfl
  obtain ⟨⟨fuel, o, ran⟩, outcome⟩ := (poll_schedule unfinished).2.2 (.ofSeconds 12) rfl
    check_localProfile rfl rfl rfl (fun _ => rfl) (undecided_unfinished _)
  obtain ⟨state, asked, times, last, least, elapsed⟩ := outcome fuel o ran
  rw [asked, intervals] at times
  have first := isLeast_ceilDiv_mul unfinished.effectiveInterval_pos (Timeout.ofSeconds 12).milliseconds
  rw [intervals] at first
  refine ⟨fuel, o, ran, state, times, ?_⟩
  rw [elapsed, least.unique first]
  rfl

end Setting
end HeatStack.Lifecycle
