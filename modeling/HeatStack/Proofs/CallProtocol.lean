import HeatStack.Proofs.Interleaving

/-! # The calls of a run

A run submits once, then asks for the status, then perhaps for the outputs (`Protocol`), and it asks for
nothing more once the answers have decided.  `Spoken` is what holds in every phase of a run; each step
keeps it, whenever the token is cancelled. -/
set_option autoImplicit false
namespace HeatStack.Lifecycle

/-- A call that makes, changes or removes a stack. -/
inductive Call.Submits : Call → Action → String → Prop
  | create (r : Request) : Submits (.create r) .create r.stack
  | update (r : Request) : Submits (.update r) .update r.stack
  | delete (stack : String) : Submits (.delete stack) .delete stack

namespace Setting
variable {s : Setting} {token : Bool} {started : Nat} {p : Progress} {m m' : Moment} {o : Outcome}

/-- The calls of a run that has come to a state. -/
inductive Protocol (s : Setting) : List Call → State → Prop
  | calls (n : Nat) (state : State) :
      s.submission.Submits s.options.action s.options.stack →
      (0 < n → s.service.submission.result = .ok ()) →
      (∀ k, k + 1 < n → ∀ last, ¬ s.Decides k last) →
      Protocol s
        (s.submission :: (List.replicate n (.status s.options.stack) ++
          if state = .complete ∧ s.options.action ≠ .delete then [.outputs s.options.stack] else []))
        state

theorem submits_submission (s : Setting) : s.submission.Submits s.options.action s.options.stack := by
  unfold submission
  cases s.options.action with
  | create => exact .create s.request
  | update => exact .update s.request
  | delete => exact .delete s.options.stack

/-- A run whose submission has been accepted and whose answers so far decide nothing, with so many
questions asked. -/
structure Asked (s : Setting) (p : Progress) (n : Nat) : Prop where
  calls : p.calls.map Prod.snd = s.submission :: List.replicate n (.status s.options.stack)
  accepted : s.service.submission.result = .ok ()
  undecided : ∀ k < p.polls, ∀ state, ¬ s.Decides k state

/-- Nothing has been asked of the service. -/
def Silent (p : Progress) : Prop := p.calls = [] ∧ p.trail.records = [] ∧ p.trail.received = []

def Spoken (s : Setting) (m : Moment) : Prop :=
  match m.phase with
  | .entering | .refused _ => m.progress.calls = []
  | .submitting _ => m.progress.calls.map Prod.snd = [s.submission]
  | .asking _ _ => s.Asked m.progress (m.progress.polls + 1)
  | .resting _ _ => s.Asked m.progress m.progress.polls
  | .fetching _ _ => s.Protocol (m.progress.calls.map Prod.snd) .complete
  | .ended o =>
    o.calls = m.progress.calls ∧ o.state = m.progress.trail.state ∧
      ((m.progress.calls = [] ∧ m.cancelled = true ∧ o.state = .aborted) ∨
        s.Protocol (m.progress.calls.map Prod.snd) o.state)

/-! ## The end of a run -/

theorem protocol_of_calls {n : Nat} {state : State}
    (calls : p.calls.map Prod.snd = s.submission :: List.replicate n (.status s.options.stack))
    (accepted : 0 < n → s.service.submission.result = .ok ())
    (undecided : ∀ k, k + 1 < n → ∀ last, ¬ s.Decides k last)
    (unfetched : ¬ (state = .complete ∧ s.options.action ≠ .delete)) :
    s.Protocol (p.calls.map Prod.snd) state := by
  have protocol := Protocol.calls n state s.submits_submission accepted undecided
  rw [if_neg unfetched, List.append_nil, ← calls] at protocol
  exact protocol

theorem spoken_conclude {n : Nat}
    (calls : p.calls.map Prod.snd = s.submission :: List.replicate n (.status s.options.stack))
    (accepted : 0 < n → s.service.submission.result = .ok ())
    (undecided : ∀ k, k + 1 < n → ∀ last, ¬ s.Decides k last)
    (under : p.trail.state.isTerminal = false) (state : State) (reason : String) :
    s.Spoken (s.conclude token p state reason) := by
  have settled : (s.settle p state reason).trail.state = state :=
    Trail.state_transition _ _ state reason under
  refine conclude_cases (P := s.Spoken) (fun plain => ?_) (fun complete kept => ?_)
  · refine ⟨rfl, rfl, .inr ?_⟩
    change s.Protocol (p.calls.map Prod.snd) (s.settle p state reason).trail.state
    rw [settled]
    refine protocol_of_calls calls accepted undecided ?_
    rintro ⟨complete, kept⟩
    rcases plain with other | deletes
    · exact other complete
    · exact kept deletes
  · subst complete
    have protocol := Protocol.calls n .complete s.submits_submission accepted undecided
    rw [if_pos ⟨rfl, kept⟩, ← List.cons_append, ← calls] at protocol
    change s.Protocol ((p.calls ++ [(p.now, Call.outputs s.options.stack)]).map Prod.snd) .complete
    rw [List.map_append]
    exact protocol

theorem Asked.conclude {n : Nat} (asked : s.Asked p n) (le : n ≤ p.polls + 1)
    (inProgress : p.trail.state = .inProgress) (state : State) (reason : String) :
    s.Spoken (s.conclude token p state reason) := by
  have under := p.trail.not_terminal_of_eq inProgress rfl
  refine spoken_conclude asked.calls (fun _ => asked.accepted) (fun k lt => ?_) under state reason
  exact asked.undecided k (by omega)

/-! ## One step -/

theorem spoken_look (asked : s.Asked p p.polls) (inProgress : p.trail.state = .inProgress) :
    s.Spoken (s.look token started p) := by
  refine look_cases (P := s.Spoken) (fun state reason _ => ?_) (fun _ _ => ?_)
  · exact asked.conclude (Nat.le_succ _) inProgress state reason
  · refine ⟨?_, asked.accepted, asked.undecided⟩
    change (p.calls ++ [(p.now, Call.status s.options.stack)]).map Prod.snd =
      s.submission :: List.replicate (p.polls + 1) (.status s.options.stack)
    rw [List.map_append, asked.calls, List.replicate_succ']
    rfl

theorem spoken_hear (asked : s.Asked p (p.polls + 1)) (counts : s.Counts p)
    (inProgress : p.trail.state = .inProgress) : s.Spoken (s.hear token started p) := by
  obtain ⟨-, polls, calls, state⟩ := s.heeded_course p
  have decides := heeded_decides counts
  refine hear_cases (P := s.Spoken) (fun q verdict reason answer => ?_) (fun q answer => ?_)
  · rw [answer] at calls state
    have under := q.trail.not_terminal_of_eq (state.trans inProgress) rfl
    -- The question that has just been answered is the last one.
    refine spoken_conclude (n := p.polls + 1) ?_ (fun _ => asked.accepted) (fun k lt => ?_) under _ _
    · rw [calls, asked.calls]
    · exact asked.undecided k (by omega)
  · rw [answer] at polls calls decides
    dsimp only at polls calls decides
    refine ⟨?_, asked.accepted, fun k lt last decided => ?_⟩
    · change q.calls.map Prod.snd =
        s.submission :: List.replicate q.polls (.status s.options.stack)
      rw [calls, polls, asked.calls]
    · change k < q.polls at lt
      rw [polls] at lt
      by_cases answered : k = p.polls
      · subst answered
        obtain ⟨reason, found⟩ := (decides last).mpr decided
        cases found
      · exact asked.undecided k (by omega) last decided

theorem spoken_accept (calls : p.calls.map Prod.snd = [s.submission]) (first : p.polls = 0)
    (submitting : p.trail.state = .submitting) : s.Spoken (s.accept token p) := by
  have under := p.trail.not_terminal_of_eq submitting rfl
  refine accept_cases (P := s.Spoken) (fun e _ => ?_) (fun answer => ?_)
  · refine spoken_conclude (n := 0) calls (fun positive => ?_) (fun k lt => ?_) under _ _
    · exact absurd positive (Nat.lt_irrefl 0)
    · omega
  · have settled := Trail.state_transition p.trail (s.clock p.now) .inProgress "submitted" under
    refine spoken_look ⟨?_, answer, fun k lt => ?_⟩ settled
    · change p.calls.map Prod.snd = s.submission :: List.replicate p.polls (.status s.options.stack)
      rw [calls, first]
      rfl
    · change k < p.polls at lt
      omega

theorem spoken_enter (s : Setting) (token : Bool) : s.Spoken (s.enter token) := by
  refine enter_cases (P := s.Spoken) (fun _ _ => rfl) (fun cancelled => ?_) (fun _ => rfl)
  refine ⟨rfl, rfl, .inl ⟨rfl, cancelled, ?_⟩⟩
  exact Trail.state_transition _ _ .aborted _ s.running_start

theorem fetched_course (s : Setting) (p : Progress) (reason : String) :
    (s.fetched p reason).calls = p.calls ∧ (s.fetched p reason).state = p.trail.state := by
  unfold fetched
  split <;> exact ⟨rfl, rfl⟩

theorem spoken_pass {phase : Phase} {due time : Nat} (ends : s.due? p phase = some due)
    (spoken : s.Spoken ⟨phase, p, token⟩) : s.Spoken ⟨phase, p.until time, token⟩ := by
  cases phase with
  | asking started since => exact ⟨spoken.calls, spoken.accepted, spoken.undecided⟩
  | resting started since => exact ⟨spoken.calls, spoken.accepted, spoken.undecided⟩
  | submitting since => exact spoken
  | fetching reason since => exact spoken
  | entering => cases ends
  | refused e => cases ends
  | ended o => cases ends

theorem spoken_cancel (spoken : s.Spoken m) : s.Spoken m.cancel := by
  obtain ⟨phase, p, token⟩ := m
  cases phase with
  | ended o =>
      obtain ⟨calls, state, protocol⟩ := spoken
      refine ⟨calls, state, ?_⟩
      rcases protocol with ⟨silent, -, aborted⟩ | protocol
      · exact .inl ⟨silent, rfl, aborted⟩
      · exact .inr protocol
  | _ => exact spoken

theorem spoken_move (placed : s.Placed m) (spoken : s.Spoken m) (move : s.Moves m m') :
    s.Spoken m' := by
  cases move with
  | cancel => exact spoken_cancel spoken
  | pass phase p token due time ends => exact spoken_pass ends spoken
  | enter token => exact s.spoken_enter token
  | accept since p token => exact spoken_accept spoken placed.2 placed.1.state
  | hear started since p token => exact spoken_hear spoken placed.counts placed.state
  | sleep started since p token => exact spoken_look spoken placed.state
  | wake started since p => exact spoken_look spoken placed.state
  | fetch reason since p token =>
      obtain ⟨calls, state⟩ := s.fetched_course p reason
      refine ⟨calls, state, .inr ?_⟩
      rw [state]
      change s.Protocol (p.calls.map Prod.snd) p.trail.state
      rw [show p.trail.state = .complete from placed.state]
      exact spoken

theorem Occurs.spoken (occurs : s.Occurs m) : s.Spoken m :=
  occurs.keeps_placed rfl fun _ _ => spoken_move

/-! ## The run as a whole -/

theorem Asked.protocol {n : Nat} (asked : s.Asked p n) (le : n ≤ p.polls + 1)
    (inProgress : p.trail.state = .inProgress) :
    s.Protocol (p.calls.map Prod.snd) p.trail.state := by
  refine protocol_of_calls asked.calls (fun _ => asked.accepted) (fun k lt => ?_) ?_
  · exact asked.undecided k (by omega)
  · rw [inProgress]
    exact fun fetched => State.noConfusion fetched.1

theorem Occurs.protocol (occurs : s.Occurs m) :
    (m.progress.calls = [] ∧
      (m.phase = .entering ∨ (∃ e, m.phase = .refused e) ∨
        (m.cancelled = true ∧ ∃ o, m.phase = .ended o ∧ o.state = .aborted))) ∨
    s.Protocol (m.progress.calls.map Prod.snd) m.progress.trail.state := by
  have spoken := occurs.spoken
  have placed := occurs.placed
  obtain ⟨phase, p, token⟩ := m
  cases phase with
  | entering => exact .inl ⟨spoken, .inl rfl⟩
  | refused e => exact .inl ⟨spoken, .inr (.inl ⟨e, rfl⟩)⟩
  | submitting since =>
      refine .inr (protocol_of_calls (n := 0) spoken (fun positive => ?_) (fun k lt => ?_) ?_)
      · exact absurd positive (Nat.lt_irrefl 0)
      · omega
      · rw [placed.1.state]
        exact fun fetched => State.noConfusion fetched.1
  | asking started since => exact .inr (spoken.protocol (Nat.le_refl _) placed.state)
  | resting started since => exact .inr (spoken.protocol (Nat.le_succ _) placed.state)
  | fetching reason since =>
      have complete : p.trail.state = .complete := placed.state
      refine .inr ?_
      change s.Protocol (p.calls.map Prod.snd) p.trail.state
      rw [complete]
      exact spoken
  | ended o =>
      obtain ⟨-, state, silent | protocol⟩ := spoken
      · exact .inl ⟨silent.1, .inr (.inr ⟨silent.2.1, o, rfl, silent.2.2⟩)⟩
      · rw [state] at protocol
        exact .inr protocol

theorem refused_of_fault {e : InputError} (fault : s.Fault e) (token : Bool) :
    s.enter token = ⟨.refused e, Progress.start s, token⟩ := by
  unfold enter
  cases fault with
  | profile broken => rw [broken]
  | parameters sound broken =>
      rw [sound]
      dsimp only
      rw [broken]

theorem run_of_fault {e : InputError} (fault : s.Fault e) (fuel : Nat) : s.run fuel = .error e := by
  unfold run
  cases fault with
  | profile broken => rw [broken]
  | parameters sound broken =>
      rw [sound]
      dsimp only
      rw [broken]

theorem Occurs.start_of_fault {e : InputError} (fault : s.Fault e) (occurs : s.Occurs m) :
    (m.phase = .entering ∨ m.phase = .refused e) ∧ m.progress = Progress.start s := by
  induction occurs with
  | refl => exact ⟨.inl rfl, rfl⟩
  | tail _ move ih =>
      obtain ⟨phase, progress⟩ := ih
      cases move with
      | cancel => exact ⟨phase, progress⟩
      | enter token =>
          rw [refused_of_fault fault]
          exact ⟨.inr rfl, rfl⟩
      | pass phase' p token due time ends =>
          rcases phase with rfl | rfl <;> cases ends
      | _ => rcases phase with other | other <;> cases other

theorem silent_start (s : Setting) : Silent (Progress.start s) := by
  unfold Silent Progress.start
  cases s.streamed <;> exact ⟨rfl, rfl, rfl⟩

/-- Nothing happens to a run that has ended. -/
theorem progress_of_ended {phase : Phase} (ended : phase = .ended o)
    (reaches : s.Reaches ⟨phase, p, token⟩ m) : m.phase = .ended o ∧ m.progress = p := by
  induction reaches with
  | refl => exact ⟨ended, rfl⟩
  | tail _ move ih =>
      obtain ⟨phase', progress⟩ := ih
      cases move with
      | cancel => exact ⟨phase', progress⟩
      | pass phase'' p' token' due time ends =>
          cases phase'
          cases ends
      | _ => cases phase'

/-! ## What has been asked stays asked -/

theorem prefix_conclude (state : State) (reason : String) :
    p.calls <+: (s.conclude token p state reason).progress.calls :=
  conclude_cases (P := fun m => p.calls <+: m.progress.calls) (fun _ => List.prefix_rfl)
    (fun _ _ => List.prefix_append ..)

theorem prefix_look : p.calls <+: (s.look token started p).progress.calls :=
  look_cases (P := fun m => p.calls <+: m.progress.calls) (fun _ _ _ => prefix_conclude _ _)
    (fun _ _ => List.prefix_append ..)

theorem prefix_hear : p.calls <+: (s.hear token started p).progress.calls := by
  obtain ⟨-, -, calls, -⟩ := s.heeded_course p
  rw [← calls]
  refine hear_cases (P := fun m => (s.heeded p).1.calls <+: m.progress.calls)
    (fun q state reason answer => ?_) (fun q answer => ?_)
  · rw [answer]
    exact prefix_conclude _ _
  · rw [answer]

theorem prefix_accept : p.calls <+: (s.accept token p).progress.calls :=
  accept_cases (P := fun m => p.calls <+: m.progress.calls) (fun _ _ => prefix_conclude _ _)
    (fun _ => prefix_look (p := s.settle p .inProgress "submitted"))

theorem Moves.calls (move : s.Moves m m') : m.progress.calls <+: m'.progress.calls := by
  cases move with
  | cancel => exact List.prefix_rfl
  | pass => exact List.prefix_rfl
  | enter token => exact List.nil_prefix
  | accept since p token => exact prefix_accept
  | hear started since p token => exact prefix_hear
  | sleep started since p token => exact prefix_look
  | wake started since p => exact prefix_look
  | fetch reason since p token => exact List.prefix_rfl

theorem Reaches.calls (reaches : s.Reaches m m') : m.progress.calls <+: m'.progress.calls := by
  induction reaches with
  | refl => exact List.prefix_rfl
  | tail _ move ih => exact ih.trans (Moves.calls move)

/-- The outcome of a run that has been told when it is cancelled. -/
theorem protocol_of_run {fuel : Nat} (ran : s.run fuel = .ok (some o)) :
    (s.cancellation.holds 0 0 = true ∧ o.calls = [] ∧ o.state = .aborted) ∨
    (s.cancellation.holds 0 0 = false ∧ s.Protocol (o.calls.map Prod.snd) o.state) := by
  obtain ⟨profile, parameters⟩ := checked_of_run ran
  rw [run_of_checked profile parameters] at ran
  have runs := (s.runs_iff o).mpr ⟨fuel, Except.ok.inj ran⟩
  cases runs with
  | cancelled early =>
      refine .inl ⟨early, rfl, ?_⟩
      exact Trail.state_transition _ _ .aborted _ s.running_start
  | entered o early submits =>
      refine .inr ⟨early, ?_⟩
      have enters := Moves.enter (s := s) false
      rw [enter_of_checked profile parameters, if_neg Bool.false_ne_true] at enters
      obtain ⟨p, token, reaches⟩ := submits.ends_submitting
      have occurs : s.Occurs ⟨.ended o, p, token⟩ := .head enters reaches
      obtain ⟨calls, state, silent | protocol⟩ := occurs.spoken
      · -- The submission has been made by then.
        have made := Reaches.calls reaches
        rw [silent.1] at made
        cases List.prefix_nil.mp made
      · rw [calls]
        exact protocol

theorem Protocol.mem {calls : List Call} {state : State} (protocol : s.Protocol calls state) :
    (∀ c ∈ calls, c = s.submission ∨ c = .status s.options.stack ∨ c = .outputs s.options.stack) ∧
    ∀ c ∈ calls.tail, c = .status s.options.stack ∨ c = .outputs s.options.stack := by
  obtain ⟨n, state⟩ := protocol
  have later : ∀ c ∈ List.replicate n (.status s.options.stack) ++
      (if state = .complete ∧ s.options.action ≠ .delete then [.outputs s.options.stack] else []),
      c = Call.status s.options.stack ∨ c = .outputs s.options.stack := by
    intro c made
    rcases List.mem_append.mp made with question | last
    · exact .inl (List.eq_of_mem_replicate question)
    · split at last
      · exact .inr (List.mem_singleton.mp last)
      · cases last
  refine ⟨fun c made => ?_, later⟩
  rcases List.mem_cons.mp made with first | made
  · exact .inl first
  · exact .inr (later c made)

theorem Protocol.after_first {calls : List Call} {state : State} (protocol : s.Protocol calls state) :
    .checkConnection ∉ calls ∧ ∀ c ∈ calls.tail, ∀ action stack, ¬ c.Submits action stack := by
  obtain ⟨all, later⟩ := protocol.mem
  refine ⟨fun made => ?_, fun c made action stack submits => ?_⟩
  · have submits := s.submits_submission
    rcases all _ made with first | other | other
    · rw [← first] at submits
      cases submits
    · cases other
    · cases other
  · rcases later c made with rfl | rfl <;> cases submits

/-- The calls of a run so far, or of a run that has ended. -/
inductive Makes (s : Setting) (calls : List (Nat × Call)) : Prop
  | occurs (m : Moment) : s.Occurs m → m.progress.calls = calls → Makes s calls
  | run (fuel : Nat) (o : Outcome) : s.run fuel = .ok (some o) → o.calls = calls → Makes s calls

theorem Makes.moment {calls : List (Nat × Call)} (makes : s.Makes calls) :
    ∃ m, s.Occurs m ∧ m.progress.calls = calls := by
  cases makes with
  | occurs m occurs made => exact ⟨m, occurs, made⟩
  | run fuel o ran made =>
      obtain ⟨p, token, occurs⟩ := ends_of_run ran
      obtain ⟨calls, -⟩ := Occurs.spoken occurs
      exact ⟨_, occurs, calls.symm.trans made⟩

/-- The calls of a run, for every service and whenever the token is cancelled.  A run with a fault does
not begin: it calls nobody and reports nothing.  Any other calls nobody before it is entered, nor if it
has been cancelled by then; all else that it calls is in `Protocol`, from its first call to its end. -/
theorem run_calls (s : Setting) :
    (∀ e, s.Fault e → (∀ fuel, s.run fuel = .error e) ∧ ∀ m, s.Occurs m → Silent m.progress) ∧
    (∀ m, s.Occurs m →
      (m.progress.calls = [] ∧
        (m.phase = .entering ∨ (∃ e, m.phase = .refused e) ∨
          (m.cancelled = true ∧ ∃ o, m.phase = .ended o ∧ o.state = .aborted))) ∨
      s.Protocol (m.progress.calls.map Prod.snd) m.progress.trail.state) ∧
    (∀ m, s.Occurs m → .checkConnection ∉ m.progress.calls.map Prod.snd ∧
      ∀ c ∈ (m.progress.calls.map Prod.snd).tail, ∀ action stack, ¬ c.Submits action stack) ∧
    (∀ m o, s.Occurs m → m.phase = .ended o →
      o.calls = m.progress.calls ∧ o.state = m.progress.trail.state ∧
        ∀ m', s.Reaches m m' → m'.progress.calls = o.calls) ∧
    (∀ fuel o, s.run fuel = .ok (some o) →
      (s.cancellation.holds 0 0 = true ∧ o.calls = [] ∧ o.state = .aborted) ∨
      (s.cancellation.holds 0 0 = false ∧ s.Protocol (o.calls.map Prod.snd) o.state)) := by
  refine ⟨?_, fun m occurs => occurs.protocol, ?_, ?_, fun fuel o ran => protocol_of_run ran⟩
  · intro e fault
    refine ⟨run_of_fault fault, fun m occurs => ?_⟩
    rw [(Occurs.start_of_fault fault occurs).2]
    exact s.silent_start
  · intro m occurs
    rcases occurs.protocol with ⟨silent, -⟩ | protocol
    · rw [silent]
      exact ⟨List.not_mem_nil, fun c made => absurd made List.not_mem_nil⟩
    · exact protocol.after_first
  · intro m o occurs ended
    obtain ⟨phase, p, token⟩ := m
    cases ended
    obtain ⟨calls, state, -⟩ := occurs.spoken
    refine ⟨calls, state, fun m' reaches => ?_⟩
    rw [(progress_of_ended rfl reaches).2, calls]

/-- Three questions and the outputs. -/
theorem run_calls_lateOutputs : ∃ o, lateOutputs.run 4 = .ok (some o) ∧ o.state = .complete ∧
    o.calls.map Prod.snd = [.create lateOutputs.request, .status "web", .status "web", .status "web",
      .outputs "web"] ∧
    lateOutputs.Protocol (o.calls.map Prod.snd) o.state := by
  have profile : lateOutputs.profile.check = .ok () := check_localProfile
  obtain ⟨o, ran, state, calls⟩ : ∃ o, lateOutputs.run 4 = .ok (some o) ∧ o.state = .complete ∧
      o.calls.map Prod.snd = [.create lateOutputs.request, .status "web", .status "web",
        .status "web", .outputs "web"] := by
    unfold run
    rw [profile]
    exact ⟨_, rfl, rfl, rfl⟩
  refine ⟨o, ran, state, calls, ?_⟩
  rcases (run_calls lateOutputs).2.2.2.2 4 o ran with ⟨early, -⟩ | ⟨-, protocol⟩
  · cases early
  · exact protocol

end Setting
end HeatStack.Lifecycle
