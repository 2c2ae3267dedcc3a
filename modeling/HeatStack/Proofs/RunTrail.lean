import HeatStack.Proofs.CallProtocol

/-! # The trail of a run

A run that ends has left its first state once, either to stop at once or to poll, and then its second
state for a final one.  `Ongoing` lists what the trail can hold while the run goes on, and each step
keeps it so (`written_move`).  The end of a run closes the list, with at most one event behind the last
change of state (`Finished`), and what is said of the single events is read off there. -/
set_option autoImplicit false
namespace HeatStack.Lifecycle

/-! ## Courses of events -/

/-- What is noted between two changes of state. -/
inductive Event.IsNote : Event → Prop
  | remoteStatus (status : RemoteStatus) : IsNote (.remoteStatus status)
  | pollFailed (error : String) (consecutive : UInt32) : IsNote (.pollFailed error consecutive)

def Event.Concludes : Event → Prop
  | .stateChanged _ target _ => target.isTerminal = true
  | _ => False

def Event.opening : Event := .stateChanged .submitting .inProgress "submitted"

/-- The events of a run that has not come to a final state, and the state that it is in.  Only the last
answer can be that there is no stack. -/
inductive Ongoing : List Event → State → Prop
  | unsubmitted : Ongoing [] .submitting
  | polled (notes : List Event) :
      (∀ e ∈ notes, e.IsNote) → Ongoing (.opening :: notes) .inProgress
  | missing (notes : List Event) :
      (∀ e ∈ notes, e.IsNote) → Ongoing (.opening :: (notes ++ [.stackMissing])) .inProgress

/-- What stands behind the last change of state: the error of the question for the outputs. -/
def outputsEvent (failure : Option ServiceError) : List Event :=
  (failure.map fun e => Event.outputsUnavailable e.message).toList

/-- What the same error adds to the reason for the end. -/
def outputsRemark (failure : Option ServiceError) : String :=
  (failure.map fun e => "; outputs unavailable: " ++ e.message).getD ""

/-- The events of a run that has come to a final state for a reason. -/
structure Finished (events : List Event) (target : State) (reason : String)
    (failure : Option ServiceError) : Prop where
  shape : ∃ before source, Ongoing before source ∧
    (source = .submitting → target = .aborted ∨ target = .failed) ∧
    events = before ++ .stateChanged source target reason :: outputsEvent failure
  final : target.isTerminal = true

theorem Event.IsNote.change? {e : Event} (note : e.IsNote) : e.change? = none := by
  cases note <;> rfl

theorem Event.IsNote.not_concludes {e : Event} (note : e.IsNote) : ¬ e.Concludes := by
  cases note <;> exact id

theorem Event.IsNote.ne_stackMissing {e : Event} (note : e.IsNote) : e ≠ .stackMissing := by
  cases note <;> exact Event.noConfusion

theorem changes_notes {notes : List Event} (quiet : ∀ e ∈ notes, e.IsNote) : changes notes = [] := by
  rw [changes, List.filterMap_eq_nil_iff]
  exact fun e noted => (quiet e noted).change?

theorem changes_outputsEvent (failure : Option ServiceError) : changes (outputsEvent failure) = [] := by
  cases failure <;> rfl

namespace Ongoing
variable {events : List Event} {state : State}

theorem not_terminal (ongoing : Ongoing events state) : state.isTerminal = false := by
  cases ongoing <;> rfl

theorem changes (ongoing : Ongoing events state) :
    state = .submitting ∧ events = [] ∨
    state = .inProgress ∧ ∃ rest, events = .opening :: rest ∧
      Lifecycle.changes events = [(.submitting, .inProgress, "submitted")] := by
  cases ongoing with
  | unsubmitted => exact .inl ⟨rfl, rfl⟩
  | polled notes quiet =>
      refine .inr ⟨rfl, notes, rfl, ?_⟩
      exact congrArg (_ :: ·) (changes_notes quiet)
  | missing notes quiet =>
      refine .inr ⟨rfl, notes ++ [.stackMissing], rfl, ?_⟩
      refine congrArg (_ :: ·) ?_
      change Lifecycle.changes (notes ++ [.stackMissing]) = []
      rw [changes_append, changes_notes quiet]
      rfl

theorem not_concludes (ongoing : Ongoing events state) : ∀ e ∈ events, ¬ e.Concludes := by
  have opens : ¬ Event.opening.Concludes := Bool.false_ne_true
  cases ongoing with
  | unsubmitted => exact fun e listed => absurd listed List.not_mem_nil
  | polled notes quiet =>
      intro e listed
      rcases List.mem_cons.mp listed with rfl | noted
      · exact opens
      · exact (quiet e noted).not_concludes
  | missing notes quiet =>
      intro e listed
      rcases List.mem_cons.mp listed with rfl | listed
      · exact opens
      · rcases List.mem_append.mp listed with noted | last
        · exact (quiet e noted).not_concludes
        · rw [List.mem_singleton.mp last]
          exact id

/-- An answer without a stack is the last thing that happens before the end. -/
theorem missing_last (ongoing : Ongoing events state) :
    .stackMissing ∉ events ∨
    state = .inProgress ∧ ∃ rest, events = rest ++ [.stackMissing] ∧ .stackMissing ∉ rest := by
  have opens : Event.stackMissing ≠ .opening := Event.noConfusion
  cases ongoing with
  | unsubmitted => exact .inl List.not_mem_nil
  | polled notes quiet =>
      refine .inl fun listed => ?_
      rcases List.mem_cons.mp listed with first | noted
      · exact opens first
      · exact (quiet _ noted).ne_stackMissing rfl
  | missing notes quiet =>
      refine .inr ⟨rfl, .opening :: notes, rfl, fun listed => ?_⟩
      rcases List.mem_cons.mp listed with first | noted
      · exact opens first
      · exact (quiet _ noted).ne_stackMissing rfl

end Ongoing

/-- Where one member alone has a property, it splits a list in one way. -/
theorem split_unique {α : Type} {P : α → Prop} {a b c d : List α} {x y : α}
    (before : ∀ z ∈ a, ¬ P z) (after : ∀ z ∈ b, ¬ P z) (here : P y)
    (same : a ++ x :: b = c ++ y :: d) : a = c ∧ x = y ∧ b = d := by
  rcases List.append_eq_append_iff.mp same with ⟨mid, rfl, rest⟩ | ⟨mid, rfl, rest⟩
  · cases mid with
    | nil =>
        cases rest
        exact ⟨(List.append_nil a).symm, rfl, rfl⟩
    | cons z mid =>
        cases rest
        exact absurd here (after y (List.mem_append_right _ (List.mem_cons_self ..)))
  · cases mid with
    | nil =>
        cases rest
        exact ⟨List.append_nil c, rfl, rfl⟩
    | cons z mid =>
        cases rest
        exact absurd here (before y (List.mem_append_right _ (List.mem_cons_self ..)))

namespace Finished
variable {events : List Event} {target : State} {reason : String} {failure : Option ServiceError}

theorem changes (finished : Finished events target reason failure) :
    (Lifecycle.changes events = [(.submitting, target, reason)] ∧
      (target = .aborted ∨ target = .failed)) ∨
    Lifecycle.changes events =
      [(.submitting, .inProgress, "submitted"), (.inProgress, target, reason)] := by
  obtain ⟨before, source, ongoing, early, rfl⟩ := finished.shape
  have last : Lifecycle.changes (.stateChanged source target reason :: outputsEvent failure) =
      [(source, target, reason)] :=
    congrArg ((source, target, reason) :: ·) (changes_outputsEvent failure)
  rw [changes_append, last]
  rcases ongoing.changes with ⟨rfl, rfl⟩ | ⟨rfl, rest, -, opened⟩
  · exact .inl ⟨rfl, early rfl⟩
  · rw [opened]
    exact .inr rfl

theorem head (finished : Finished events target reason failure) :
    ∃ next why, events.head? = some (.stateChanged .submitting next why) := by
  obtain ⟨before, source, ongoing, -, rfl⟩ := finished.shape
  rcases ongoing.changes with ⟨rfl, rfl⟩ | ⟨rfl, rest, rfl, -⟩
  · exact ⟨target, reason, rfl⟩
  · exact ⟨.inProgress, "submitted", rfl⟩

theorem not_missing_behind (source : State) (failure : Option ServiceError) :
    .stackMissing ∉ Event.stateChanged source target reason :: outputsEvent failure := by
  intro listed
  rcases List.mem_cons.mp listed with first | listed
  · cases first
  · cases failure with
    | none => cases listed
    | some e => cases List.mem_singleton.mp listed

theorem count_missing (finished : Finished events target reason failure) :
    events.count .stackMissing ≤ 1 := by
  obtain ⟨before, source, ongoing, -, rfl⟩ := finished.shape
  rw [List.count_append, List.count_eq_zero_of_not_mem (not_missing_behind source failure)]
  rcases ongoing.missing_last with never | ⟨-, rest, rfl, never⟩
  · rw [List.count_eq_zero_of_not_mem never]
    exact Nat.zero_le 1
  · rw [List.count_append, List.count_eq_zero_of_not_mem never]
    exact Nat.le_refl 1

theorem behind_missing (finished : Finished events target reason failure) {before after : List Event}
    (split : events = before ++ .stackMissing :: after) :
    after = .stateChanged .inProgress target reason :: outputsEvent failure := by
  obtain ⟨start, source, ongoing, -, rfl⟩ := finished.shape
  have never : Event.stackMissing ∉ .stateChanged source target reason :: outputsEvent failure :=
    not_missing_behind source failure
  rcases ongoing.missing_last with absent | ⟨rfl, rest, rfl, absent⟩
  · have listed : Event.stackMissing ∈
        start ++ .stateChanged source target reason :: outputsEvent failure := by
      rw [split]
      exact List.mem_append_right _ (List.mem_cons_self ..)
    exact absurd listed (List.not_mem_append absent never)
  · rw [List.append_assoc] at split
    have unique := split_unique (P := (· = Event.stackMissing))
      (fun e listed same => absent (same ▸ listed)) (fun e listed same => never (same ▸ listed)) rfl
      split
    exact unique.2.2.symm

theorem behind_end (finished : Finished events target reason failure) {before after : List Event}
    {e : Event} (concludes : e.Concludes) (split : events = before ++ e :: after) :
    after = outputsEvent failure := by
  obtain ⟨start, source, ongoing, -, rfl⟩ := finished.shape
  have quiet : ∀ e ∈ outputsEvent failure, ¬ e.Concludes := by
    intro e listed
    cases failure with
    | none => cases listed
    | some error =>
        rw [List.mem_singleton.mp listed]
        exact id
  exact (split_unique ongoing.not_concludes quiet concludes split).2.2.symm

theorem fail (finished : Finished events target reason none) (e : ServiceError) :
    Finished (events ++ [.outputsUnavailable e.message]) target reason (some e) := by
  obtain ⟨⟨before, source, ongoing, early, rfl⟩, final⟩ := finished
  refine ⟨⟨before, source, ongoing, early, ?_⟩, final⟩
  rw [List.append_assoc]
  rfl

end Finished

/-! ## What a run has written -/

namespace Setting
variable {s : Setting} {token : Bool} {started : Nat} {p : Progress} {m m' : Moment} {o : Outcome}

/-- The error of the question for the outputs, if it was asked and could not be answered. -/
def fetchFailure? (s : Setting) (o : Outcome) : Option ServiceError :=
  if .outputs s.options.stack ∈ o.calls.map Prod.snd then
    match s.service.outputs.result with
    | .ok _ => none
    | .error e => some e
  else none

/-- The same error, foreseen from the final state. -/
def missedOutputs? (s : Setting) (state : State) : Option ServiceError :=
  if state = .complete ∧ s.options.action ≠ .delete then
    match s.service.outputs.result with
    | .ok _ => none
    | .error e => some e
  else none

structure Reports (s : Setting) (o : Outcome) : Prop where
  state : o.state = o.trail.state
  trail : ∃ reason, Finished o.trail.events o.state reason (s.missedOutputs? o.state) ∧
    o.reason = reason ++ outputsRemark (s.missedOutputs? o.state)

def Polling (t : Trail) : Prop := ∃ notes, (∀ e ∈ notes, e.IsNote) ∧ t.events = .opening :: notes

def Written (s : Setting) (m : Moment) : Prop :=
  match m.phase with
  | .entering | .refused _ | .submitting _ => m.progress.trail.events = []
  | .asking _ _ | .resting _ _ => Polling m.progress.trail
  | .fetching reason _ =>
    s.options.action ≠ .delete ∧ Finished m.progress.trail.events .complete reason none
  | .ended o => s.Reports o

theorem events_start (s : Setting) : (Progress.start s).trail.events = [] := by
  unfold Progress.start
  cases s.streamed <;> rfl

theorem events_settle {state : State} (reason : String) (under : p.trail.state.isTerminal = false)
    (other : p.trail.state ≠ state) :
    (s.settle p state reason).trail.events =
      p.trail.events ++ [.stateChanged p.trail.state state reason] :=
  Trail.events_transition _ _ state reason under other

theorem Polling.ongoing (polling : Polling p.trail) (inProgress : p.trail.state = .inProgress) :
    Ongoing p.trail.events p.trail.state := by
  obtain ⟨notes, quiet, written⟩ := polling
  rw [written, inProgress]
  exact .polled notes quiet

/-- A run that comes to a final state has its trail closed. -/
theorem finished_settle (ongoing : Ongoing p.trail.events p.trail.state) {state : State}
    (final : state.isTerminal = true)
    (early : p.trail.state = .submitting → state = .aborted ∨ state = .failed) (reason : String) :
    Finished (s.settle p state reason).trail.events state reason none := by
  have under := ongoing.not_terminal
  have other : p.trail.state ≠ state := by
    intro same
    rw [same, final] at under
    cases under
  exact ⟨⟨p.trail.events, p.trail.state, ongoing, early, events_settle reason under other⟩, final⟩

theorem written_conclude (ongoing : Ongoing p.trail.events p.trail.state) {state : State}
    (final : state.isTerminal = true)
    (early : p.trail.state = .submitting → state = .aborted ∨ state = .failed) (reason : String) :
    s.Written (s.conclude token p state reason) := by
  have finished := finished_settle (s := s) ongoing final early reason
  refine conclude_cases (P := s.Written) (fun plain => ?_) (fun complete kept => ?_)
  · have settled : (s.settle p state reason).trail.state = state :=
      Trail.state_transition _ _ state reason (ongoing.not_terminal)
    have unmissed : s.missedOutputs? state = none :=
      if_neg fun asks => plain.elim (· asks.1) (asks.2 ·)
    refine ⟨rfl, reason, ?_⟩
    change Finished (s.settle p state reason).trail.events (s.settle p state reason).trail.state reason
        (s.missedOutputs? (s.settle p state reason).trail.state) ∧
      reason = reason ++ outputsRemark (s.missedOutputs? (s.settle p state reason).trail.state)
    rw [settled, unmissed]
    exact ⟨finished, (String.append_empty).symm⟩
  · subst complete
    exact ⟨kept, finished⟩

/-! ## One step -/

theorem written_look (polling : Polling p.trail) (inProgress : p.trail.state = .inProgress) :
    s.Written (s.look token started p) := by
  refine look_cases (P := s.Written) (fun state reason stopped => ?_) (fun _ _ => polling)
  refine written_conclude (polling.ongoing inProgress) ?_ (fun early => ?_) reason
  · rcases stopped with rfl | rfl <;> rfl
  · rw [inProgress] at early
    cases early

theorem state?_terminal {o : Observation} {state : State} (found : o.state? = some state) :
    state.isTerminal = true := by
  cases o <;> cases found <;> rfl

/-- What an answer adds to the trail.  That there is no stack is final for every action. -/
theorem heeded_events (s : Setting) (p : Progress) :
    ∃ more, (s.heeded p).1.trail.events = p.trail.events ++ more ∧
      ((∀ e ∈ more, e.IsNote) ∨ more = [.stackMissing] ∧ (s.heeded p).2 ≠ none) := by
  unfold heeded heed
  split
  · next status _ =>
    cases status with
    | none =>
        refine ⟨_, Trail.events_stackMissing _ _, .inr ⟨rfl, ?_⟩⟩
        cases s.options.action <;> exact Option.some_ne_none _
    | some status =>
        rcases p.trail.events_observe (s.clock p.now) status with same | more
        · exact ⟨[], same.trans (List.append_nil _).symm, .inl fun e noted => absurd noted List.not_mem_nil⟩
        · refine ⟨_, more, .inl fun e noted => ?_⟩
          rw [List.mem_singleton.mp noted]
          exact .remoteStatus status
  · next e _ =>
    refine ⟨_, Trail.events_pollFailed _ _ _ _, .inl fun event noted => ?_⟩
    rw [List.mem_singleton.mp noted]
    exact .pollFailed _ _

theorem heeded_terminal {q : Progress} {state : State} {reason : String}
    (answer : s.heeded p = (q, some (state, reason))) : state.isTerminal = true := by
  unfold heeded heed at answer
  split at answer
  · obtain ⟨state', found, same⟩ := Option.map_eq_some_iff.mp (Prod.mk.inj answer).2
    cases same
    exact state?_terminal found
  · have verdict := (Prod.mk.inj answer).2
    split at verdict
    · cases verdict
      rfl
    · cases verdict

theorem written_hear (polling : Polling p.trail) (inProgress : p.trail.state = .inProgress) :
    s.Written (s.hear token started p) := by
  obtain ⟨notes, quiet, written⟩ := polling
  obtain ⟨more, added, kinds⟩ := s.heeded_events p
  obtain ⟨-, -, -, state⟩ := s.heeded_course p
  rw [written] at added
  refine hear_cases (P := s.Written) (fun q verdict reason answer => ?_) (fun q answer => ?_)
  · rw [answer] at added state
    have ongoing : Ongoing q.trail.events q.trail.state := by
      rw [added, state, inProgress]
      rcases kinds with noted | ⟨rfl, -⟩
      · exact .polled (notes ++ more) (List.forall_mem_append.mpr ⟨quiet, noted⟩)
      · exact .missing notes quiet
    refine written_conclude ongoing (heeded_terminal answer) (fun early => ?_) reason
    rw [state, inProgress] at early
    cases early
  · rw [answer] at added kinds
    rcases kinds with noted | ⟨-, decided⟩
    · exact ⟨notes ++ more, List.forall_mem_append.mpr ⟨quiet, noted⟩, added⟩
    · exact absurd rfl decided

theorem written_accept (fresh : p.trail.events = []) (submitting : p.trail.state = .submitting) :
    s.Written (s.accept token p) := by
  have ongoing : Ongoing p.trail.events p.trail.state := by
    rw [fresh, submitting]
    exact .unsubmitted
  have under := ongoing.not_terminal
  refine accept_cases (P := s.Written) (fun e _ => ?_) (fun _ => ?_)
  · exact written_conclude ongoing rfl (fun _ => .inr rfl) _
  · have other : p.trail.state ≠ .inProgress := by
      rw [submitting]
      exact State.noConfusion
    have opened := events_settle (s := s) "submitted" under other
    rw [fresh, submitting] at opened
    refine written_look ⟨[], fun e noted => absurd noted List.not_mem_nil, opened⟩ ?_
    exact Trail.state_transition _ _ .inProgress "submitted" under

theorem written_enter (s : Setting) (token : Bool) : s.Written (s.enter token) := by
  have fresh := s.events_start
  refine enter_cases (P := s.Written) (fun _ _ => fresh) (fun _ => ?_) (fun _ => fresh)
  refine written_conclude ?_ rfl (fun _ => .inl rfl) _
  rw [fresh, s.state_start]
  exact .unsubmitted

theorem reports_fetched {reason : String} (kept : s.options.action ≠ .delete)
    (finished : Finished p.trail.events .complete reason none) (complete : p.trail.state = .complete) :
    s.Reports (s.fetched p reason) := by
  have asks : (State.complete = .complete ∧ s.options.action ≠ .delete) := ⟨rfl, kept⟩
  have foreseen : s.missedOutputs? .complete =
      match s.service.outputs.result with
      | .ok _ => none
      | .error e => some e := if_pos asks
  unfold fetched
  cases answer : s.service.outputs.result with
  | ok remote =>
      rw [answer] at foreseen
      refine ⟨rfl, reason, ?_⟩
      change Finished p.trail.events p.trail.state reason (s.missedOutputs? p.trail.state) ∧
        reason = reason ++ outputsRemark (s.missedOutputs? p.trail.state)
      rw [complete, foreseen]
      exact ⟨finished, (String.append_empty).symm⟩
  | error e =>
      rw [answer] at foreseen
      refine ⟨rfl, reason, ?_⟩
      have failed := finished.fail e
      rw [← Trail.events_outputsUnavailable p.trail (s.clock p.now)] at failed
      change Finished (p.trail.outputsUnavailable (s.clock p.now) e.message).events p.trail.state reason
          (s.missedOutputs? p.trail.state) ∧
        reason ++ "; outputs unavailable: " ++ e.message =
          reason ++ outputsRemark (s.missedOutputs? p.trail.state)
      rw [complete, foreseen]
      exact ⟨failed, String.append_assoc ..⟩

theorem written_move (placed : s.Placed m) (written : s.Written m) (move : s.Moves m m') :
    s.Written m' := by
  cases move with
  | cancel =>
      obtain ⟨phase, p, token⟩ := m
      cases phase <;> exact written
  | pass phase p token due time ends =>
      cases phase with
      | entering => cases ends
      | refused e => cases ends
      | ended o => cases ends
      | _ => exact written
  | enter token => exact s.written_enter token
  | accept since p token => exact written_accept written placed.1.state
  | hear started since p token => exact written_hear written placed.state
  | sleep started since p token => exact written_look written placed.state
  | wake started since p => exact written_look written placed.state
  | fetch reason since p token => exact reports_fetched written.1 written.2 placed.state

/-! ## The run as a whole -/

theorem Occurs.written (occurs : s.Occurs m) : s.Written m :=
  occurs.keeps_placed s.events_start fun _ _ => written_move

theorem Protocol.outputs_iff {calls : List Call} {state : State} (protocol : s.Protocol calls state) :
    .outputs s.options.stack ∈ calls ↔ state = .complete ∧ s.options.action ≠ .delete := by
  obtain ⟨n, state, submits⟩ := protocol
  constructor
  · intro made
    rcases List.mem_cons.mp made with first | later
    · rw [← first] at submits
      cases submits
    · rcases List.mem_append.mp later with question | last
      · cases List.eq_of_mem_replicate question
      · by_contra unasked
        rw [if_neg unasked] at last
        cases last
  · intro asks
    rw [if_pos asks]
    exact List.mem_cons_of_mem _ (List.mem_append_right _ (List.mem_cons_self ..))

/-- The error that the outcome shows is the one that its state lets expect. -/
theorem fetchFailure?_eq (occurs : s.Occurs ⟨.ended o, p, token⟩) :
    s.fetchFailure? o = s.missedOutputs? o.state := by
  have asked : .outputs s.options.stack ∈ o.calls.map Prod.snd ↔
      o.state = .complete ∧ s.options.action ≠ .delete := by
    obtain ⟨calls, -, ⟨silent, -, aborted⟩ | protocol⟩ := occurs.spoken
    · rw [calls, silent, aborted]
      exact ⟨fun made => absurd made List.not_mem_nil, fun asks => State.noConfusion asks.1⟩
    · rw [calls]
      exact protocol.outputs_iff
  unfold fetchFailure? missedOutputs?
  by_cases asks : o.state = .complete ∧ s.options.action ≠ .delete
  · rw [if_pos asks, if_pos (asked.mpr asks)]
  · rw [if_neg asks, if_neg (mt asked.mp asks)]

/-- The trail of a run that has ended, whenever it was cancelled.  The run has changed its state once, to
stop before it polled, or twice, and the last change gives its state and reason.  The first event is the
first change.  That there is no stack is noted once at most, and just before the end.  Behind the end
stands only the error of a question for the outputs that failed, and the reason says so too. -/
theorem run_trail (ended : s.Ends s.beginning o ∨ ∃ fuel, s.run fuel = .ok (some o)) :
    o.state = o.trail.state ∧ o.state.isTerminal = true ∧
    (∃ target why, o.trail.events.head? = some (.stateChanged .submitting target why)) ∧
    o.trail.events.count .stackMissing ≤ 1 ∧
    ∃ reason,
      ((changes o.trail.events = [(.submitting, o.state, reason)] ∧
          (o.state = .aborted ∨ o.state = .failed)) ∨
        changes o.trail.events =
          [(.submitting, .inProgress, "submitted"), (.inProgress, o.state, reason)]) ∧
      (∀ before after, o.trail.events = before ++ .stackMissing :: after →
        ∃ rest, after = .stateChanged .inProgress o.state reason :: rest) ∧
      (∀ before source target why after,
        o.trail.events = before ++ .stateChanged source target why :: after →
        target.isTerminal = true → after = outputsEvent (s.fetchFailure? o)) ∧
      o.reason = reason ++ outputsRemark (s.fetchFailure? o) := by
  obtain ⟨p, token, occurs⟩ : s.Ends s.beginning o := by
    rcases ended with ends | ⟨fuel, ran⟩
    · exact ends
    · exact ends_of_run ran
  obtain ⟨state, reason, finished, given⟩ := Occurs.written occurs
  rw [← fetchFailure?_eq occurs] at finished given
  refine ⟨state, finished.final, finished.head, finished.count_missing, reason, finished.changes, ?_, ?_,
    given⟩
  · exact fun before after split => ⟨_, finished.behind_missing split⟩
  · intro before source target why after split final
    exact finished.behind_end (e := .stateChanged source target why) final split

/-- A run whose outputs cannot be had. -/
theorem run_trail_lateOutputs : ∃ o, lateOutputs.run 4 = .ok (some o) ∧
    o.trail.events = [.opening, .pollFailed "network error: down" 1,
      .remoteStatus ⟨"CREATE_IN_PROGRESS", ""⟩, .remoteStatus ⟨"create_complete", "done"⟩,
      .stateChanged .inProgress .complete "create_complete: done", .outputsUnavailable "gone"] ∧
    lateOutputs.fetchFailure? o = some (.other "gone") ∧ o.trail.state = .complete ∧
    o.reason = "create_complete: done; outputs unavailable: gone" := by
  have profile : lateOutputs.profile.check = .ok () := check_localProfile
  obtain ⟨o, ran, complete, events, failure⟩ : ∃ o, lateOutputs.run 4 = .ok (some o) ∧
      o.state = .complete ∧
      o.trail.events = [.opening, .pollFailed "network error: down" 1,
        .remoteStatus ⟨"CREATE_IN_PROGRESS", ""⟩, .remoteStatus ⟨"create_complete", "done"⟩,
        .stateChanged .inProgress .complete "create_complete: done", .outputsUnavailable "gone"] ∧
      lateOutputs.fetchFailure? o = some (.other "gone") := by
    unfold run
    rw [profile]
    exact ⟨_, rfl, rfl, rfl, rfl⟩
  obtain ⟨state, -, -, -, reason, changed, -, -, given⟩ := run_trail (.inr ⟨4, ran⟩)
  refine ⟨o, ran, events, failure, state.symm.trans complete, ?_⟩
  rw [given, failure]
  rw [events, complete] at changed
  rcases changed with ⟨one, -⟩ | two
  · cases one
  · cases two
    rfl

end Setting
end HeatStack.Lifecycle
