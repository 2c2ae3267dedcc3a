import HeatStack.Proofs.FailedQuestions
import HeatStack.Proofs.TrailBroadcast
import Mathlib.Data.List.Destutter
import Mathlib.Data.List.ReduceOption

/-! # Changes of status

A trail records a status when it differs from the one before it, or when the stack was missing in between.
What is seen of the stack, a status or that it is missing, is a `sighting?` of a note and of an event alike;
`recorded` says which sightings of notes become events, and the stretches between missing stacks are compared
on both sides (`splitOn_recorded`).  A run tells its trail what the answers say (`Told`), so what holds of
trails holds of runs. -/
set_option autoImplicit false
namespace HeatStack.Lifecycle

/-! ## Sightings -/

/-- What a note says of the stack: its status, or that it is missing. -/
def Note.sighting? : Note → Option (Option RemoteStatus)
  | .observe _ status => some (some status)
  | .stackMissing _ => some none
  | _ => none

def TrailOperation.sighting? (op : TrailOperation) : Option (Option RemoteStatus) :=
  op.note?.bind Note.sighting?

/-- What an event records of the stack. -/
def Event.sighting? : Event → Option (Option RemoteStatus)
  | .remoteStatus status => some (some status)
  | .stackMissing => some none
  | _ => none

def sightings (events : List Event) : List (Option RemoteStatus) := events.filterMap Event.sighting?

/-- The sightings that a trail with this last status records of those that it is told. -/
def recorded (last : Option RemoteStatus) : List (Option RemoteStatus) → List (Option RemoteStatus)
  | [] => []
  | none :: seen => none :: recorded none seen
  | some status :: seen =>
    if last = some status then recorded last seen else some status :: recorded (some status) seen

theorem sightings_append (a b : List Event) : sightings (a ++ b) = sightings a ++ sightings b :=
  List.filterMap_append

/-- A note without a sighting leaves the last status and the sightings as they are. -/
theorem Trail.note_of_unseen (t : Trail) {n : Note} (unseen : n.sighting? = none) :
    (t.note n).lastStatus = t.lastStatus ∧ sightings (t.note n).events = sightings t.events := by
  cases n with
  | transition now target reason =>
      change (t.transition now target reason).lastStatus = _ ∧
        sightings (t.transition now target reason).events = _
      unfold transition
      split
      · exact ⟨rfl, rfl⟩
      · rw [events_push, sightings_append]
        exact ⟨rfl, List.append_nil _⟩
  | observe now status => cases unseen
  | stackMissing now => cases unseen
  | pollFailed now error consecutive =>
      refine ⟨rfl, ?_⟩
      change sightings (t.pollFailed now error consecutive).events = _
      rw [events_pollFailed, sightings_append]
      exact List.append_nil _
  | outputsUnavailable now error =>
      refine ⟨rfl, ?_⟩
      change sightings (t.outputsUnavailable now error).events = _
      rw [events_outputsUnavailable, sightings_append]
      exact List.append_nil _

theorem sightings_notes (t : Trail) (notes : List Note) :
    sightings (notes.foldl Trail.note t).events =
      sightings t.events ++ recorded t.lastStatus (notes.filterMap Note.sighting?) := by
  induction notes generalizing t with
  | nil => exact (List.append_nil _).symm
  | cons n notes ih =>
      rw [List.foldl_cons, ih]
      cases seen : n.sighting? with
      | none =>
          obtain ⟨last, same⟩ := t.note_of_unseen seen
          rw [List.filterMap_cons_none seen, last, same]
      | some sighting =>
          rw [List.filterMap_cons_some seen]
          cases n with
          | observe now status =>
              cases seen
              change sightings (t.observe now status).events ++
                recorded (t.observe now status).lastStatus _ = _
              rw [recorded]
              unfold Trail.observe
              split
              · rfl
              · rw [Trail.events_push, sightings_append, List.append_assoc]
                rfl
          | stackMissing now =>
              cases seen
              change sightings (t.stackMissing now).events ++ recorded none _ = _
              rw [Trail.events_stackMissing, sightings_append, List.append_assoc]
              rfl
          | _ => cases seen

/-! ## Stretches between missing stacks -/

theorem destutter_again {α : Type} [DecidableEq α] (a : α) (l : List α) :
    (a :: a :: l).destutter (· ≠ ·) = (a :: l).destutter (· ≠ ·) := by
  rw [List.destutter_cons', List.destutter'_cons_neg _ (not_not.mpr rfl), List.destutter_cons']

theorem destutter_other {α : Type} [DecidableEq α] {a b : α} (other : a ≠ b) (l : List α) :
    (a :: b :: l).destutter (· ≠ ·) = a :: (b :: l).destutter (· ≠ ·) := by
  rw [List.destutter_cons', List.destutter'_cons_pos _ other, List.destutter_cons']

section
variable (status : RemoteStatus) (seen : List (Option RemoteStatus))

theorem splitOn_missing : (none :: seen).splitOn none = [] :: seen.splitOn none := by
  rw [List.splitOn_cons_eq_if_modifyHead, if_pos (beq_self_eq_true _)]

theorem splitOn_status :
    (some status :: seen).splitOn none = (seen.splitOn none).modifyHead (some status :: ·) := by
  rw [List.splitOn_cons_eq_if_modifyHead, if_neg nofun]

theorem exists_splitOn : ∃ stretch stretches, seen.splitOn none = stretch :: stretches :=
  List.exists_cons_of_ne_nil (List.splitOn_ne_nil none seen)

end

/-- Each stretch is recorded without its repeats, from a missing stack on or from a status that has been
recorded before it. -/
theorem splitOn_recorded (seen : List (Option RemoteStatus)) :
    (recorded none seen).splitOn none = (seen.splitOn none).map (List.destutter (· ≠ ·)) ∧
    ∀ status, (some status :: recorded (some status) seen).splitOn none =
      ((some status :: seen).splitOn none).map (List.destutter (· ≠ ·)) := by
  -- Both at once: a sighting that is recorded is the status that the next one is compared with.
  induction seen with
  | nil => exact ⟨rfl, fun status => by simp [recorded, splitOn_status]⟩
  | cons sighting seen ih =>
      obtain ⟨fresh, after⟩ := ih
      cases sighting with
      | none =>
          refine ⟨?_, fun status => ?_⟩
          · rw [recorded, splitOn_missing, splitOn_missing, fresh]
            rfl
          · rw [recorded, splitOn_status, splitOn_status, splitOn_missing, splitOn_missing, fresh]
            rfl
      | some next =>
          refine ⟨?_, fun status => ?_⟩
          · rw [recorded, if_neg nofun]
            exact after next
          · obtain ⟨stretch, stretches, split⟩ := exists_splitOn seen
            rw [recorded]
            by_cases same : status = next
            · subst same
              rw [if_pos rfl, after, splitOn_status, splitOn_status, splitOn_status, split]
              simp only [List.modifyHead_cons, List.map_cons, destutter_again]
            · have other : some status ≠ some next := fun equal => same (Option.some.inj equal)
              rw [if_neg other, splitOn_status, after, splitOn_status, splitOn_status, splitOn_status, split]
              simp only [List.modifyHead_cons, List.map_cons, destutter_other other]

theorem Broadcast.sightings_run (stack : String) (ops : List TrailOperation) :
    (sightings ((Broadcast.new stack).run ops).trail.events).splitOn none =
      ((ops.filterMap TrailOperation.sighting?).splitOn none).map (List.destutter (· ≠ ·)) := by
  have told := sightings_notes (Trail.new stack) (ops.filterMap TrailOperation.note?)
  have unheard := (Broadcast.new stack).detach_run ops
  have same : (Broadcast.new stack).trail.detach = Trail.new stack := rfl
  rw [same] at unheard
  rw [← unheard, Trail.events_detach, List.filterMap_filterMap] at told
  rw [told]
  exact (splitOn_recorded _).1

/-! ## The answers to a run -/

/-- The status that an answer gives, if it is one and there is a stack. -/
def status? : StatusResult → Option RemoteStatus
  | .ok status => status
  | .error _ => none

theorem Reads.status? {r : StatusResult} {status : Option RemoteStatus} (reads : Reads r status) :
    status? r = status := by
  cases reads <;> rfl

def Event.status? : Event → Option RemoteStatus
  | .remoteStatus status => some status
  | _ => none

def statuses (events : List Event) : List RemoteStatus := events.filterMap Event.status?

theorem reduceOption_sightings (events : List Event) :
    (sightings events).reduceOption = statuses events := by
  rw [sightings, List.reduceOption, List.filterMap_filterMap, statuses]
  congr 1
  funext e
  cases e <;> rfl

section
variable {rest : List (Option RemoteStatus)} (missing : rest = [] ∨ rest = [none])
include missing

theorem reduceOption_recorded_after (status : RemoteStatus) (seen : List RemoteStatus) :
    status :: (recorded (some status) (seen.map some ++ rest)).reduceOption =
      (status :: seen).destutter (· ≠ ·) := by
  induction seen generalizing status with
  | nil => rcases missing with rfl | rfl <;> rfl
  | cons next seen ih =>
      rw [List.map_cons, List.cons_append, recorded]
      by_cases same : status = next
      · subst same
        rw [if_pos rfl, ih, destutter_again]
      · rw [if_neg (fun equal => same (Option.some.inj equal)), List.reduceOption_cons_of_some, ih,
          destutter_other same]

/-- Where a stack is missing only in the end, the statuses are recorded without their repeats. -/
theorem reduceOption_recorded (seen : List RemoteStatus) :
    (recorded none (seen.map some ++ rest)).reduceOption = seen.destutter (· ≠ ·) := by
  cases seen with
  | nil => rcases missing with rfl | rfl <;> rfl
  | cons status seen =>
      rw [List.map_cons, List.cons_append, recorded, if_neg nofun, List.reduceOption_cons_of_some]
      exact reduceOption_recorded_after missing status seen

end

namespace Setting
variable {s : Setting} {token : Bool} {started n : Nat} {p : Progress} {m m' : Moment} {o : Outcome}
  {t : Trail}

/-- What the first answers say of the stack; errors say nothing. -/
def sighted (s : Setting) (n : Nat) : List (Option RemoteStatus) :=
  (List.range n).filterMap fun k => (settled (s.service.status k).result).toOption

/-- The statuses among the first answers. -/
def answeredStatuses (s : Setting) (n : Nat) : List RemoteStatus :=
  (List.range n).filterMap fun k => status? (s.service.status k).result

theorem sighted_succ (s : Setting) (n : Nat) :
    s.sighted (n + 1) = s.sighted n ++ (settled (s.service.status n).result).toOption.toList := by
  rw [sighted, List.range_succ, List.filterMap_append]
  rfl

theorem answeredStatuses_succ (s : Setting) (n : Nat) :
    s.answeredStatuses (n + 1) =
      s.answeredStatuses n ++ (status? (s.service.status n).result).toList := by
  rw [answeredStatuses, List.range_succ, List.filterMap_append]
  rfl

/-- The trail has been told what the first answers say, and other things that say nothing of the stack. -/
def Told (s : Setting) (t : Trail) (n : Nat) : Prop :=
  ∃ notes : List Note, t.detach = notes.foldl Trail.note (Trail.new s.options.stack) ∧
    notes.filterMap Note.sighting? = s.sighted n

theorem told_start (s : Setting) : s.Told (Progress.start s).trail 0 := by
  refine ⟨[], ?_, rfl⟩
  unfold Progress.start
  cases s.streamed <;> rfl

theorem Told.note (told : s.Told t n) (note : Note) {n' : Nat}
    (sights : s.sighted n ++ note.sighting?.toList = s.sighted n') : s.Told (t.note note) n' := by
  obtain ⟨notes, trail, seen⟩ := told
  refine ⟨notes ++ [note], ?_, ?_⟩
  · rw [List.foldl_append, ← trail]
    exact t.note_attended note false
  · rw [List.filterMap_append, seen, ← sights]
    cases sighting : note.sighting? <;> simp [sighting]

theorem Told.unseen (told : s.Told t n) (note : Note) (unseen : note.sighting? = none) :
    s.Told (t.note note) n := by
  refine told.note note ?_
  rw [unseen]
  exact List.append_nil _

theorem Told.settle (told : s.Told p.trail n) (state : State) (reason : String) :
    s.Told (s.settle p state reason).trail n :=
  told.unseen (.transition (s.clock p.now) state reason) rfl

theorem Told.heeded (told : s.Told p.trail p.polls) :
    s.Told (s.heeded p).1.trail (s.heeded p).1.polls := by
  have next := s.sighted_succ p.polls
  rw [(s.heeded_course p).2.1]
  unfold Setting.heeded heed
  cases answer : settled (s.service.status p.polls).result with
  | ok status =>
      rw [answer] at next
      cases status with
      | some status => exact told.note (.observe (s.clock p.now) status) next.symm
      | none => exact told.note (.stackMissing (s.clock p.now)) next.symm
  | error e =>
      rw [answer] at next
      exact told.note (.pollFailed (s.clock p.now) e.message (p.failures + 1)) next.symm

theorem told_fetched (told : s.Told p.trail n) (reason : String) :
    s.Told (s.fetched p reason).trail n := by
  unfold fetched
  split
  · exact told
  · exact told.unseen (.outputsUnavailable (s.clock p.now) _) rfl

/-- The trail of a run, and that of its outcome, have been told the answers so far. -/
def Informed (s : Setting) (m : Moment) : Prop :=
  s.Told m.progress.trail m.progress.polls ∧ ∀ o, m.phase = .ended o → s.Told o.trail m.progress.polls

theorem informed_conclude (told : s.Told p.trail p.polls) (state : State) (reason : String) :
    s.Informed (s.conclude token p state reason) := by
  have settled := told.settle state reason
  refine conclude_cases (P := s.Informed) (fun _ => ⟨settled, fun o ended => ?_⟩)
    (fun _ _ => ⟨settled, fun _ ended => nomatch ended⟩)
  cases ended
  exact settled

theorem informed_look (told : s.Told p.trail p.polls) : s.Informed (s.look token started p) :=
  look_cases (P := s.Informed) (fun state reason _ => informed_conclude told state reason)
    (fun _ _ => ⟨told, fun _ ended => nomatch ended⟩)

theorem informed_hear (told : s.Told p.trail p.polls) : s.Informed (s.hear token started p) := by
  have heard := told.heeded
  refine hear_cases (P := s.Informed) (fun q state reason answer => ?_) (fun q answer => ?_)
  · rw [answer] at heard
    exact informed_conclude heard state reason
  · rw [answer] at heard
    exact ⟨heard, fun _ ended => nomatch ended⟩

theorem informed_move (informed : s.Informed m) (move : s.Moves m m') : s.Informed m' := by
  cases move with
  | cancel => exact informed
  | pass phase p token => exact informed
  | enter token =>
      exact enter_cases (P := s.Informed) (fun _ _ => ⟨s.told_start, fun _ ended => nomatch ended⟩)
        (fun _ => informed_conclude s.told_start _ _)
        (fun _ => ⟨s.told_start, fun _ ended => nomatch ended⟩)
  | accept since p token =>
      exact accept_cases (P := s.Informed) (fun _ _ => informed_conclude informed.1 _ _)
        (fun _ => informed_look (informed.1.settle .inProgress "submitted"))
  | hear started since p token => exact informed_hear informed.1
  | sleep started since p token => exact informed_look informed.1
  | wake started since p => exact informed_look informed.1
  | fetch reason since p token =>
      refine ⟨informed.1, fun o ended => ?_⟩
      cases ended
      exact told_fetched informed.1 reason

theorem Occurs.informed (occurs : s.Occurs m) : s.Informed m :=
  occurs.keeps ⟨s.told_start, fun _ ended => nomatch ended⟩ fun _ _ => informed_move

/-- That there is no stack ends a run. -/
theorem decides_of_missing {k : Nat} (reads : Reads (s.service.status k).result none) :
    ∃ state, s.Decides k state := by
  cases action : s.options.action with
  | delete => exact ⟨.complete, .final none _ reads (by rw [action]; exact .complete)⟩
  | create => exact ⟨.failed, .final none _ reads (by rw [action]; exact .failed)⟩
  | update => exact ⟨.failed, .final none _ reads (by rw [action]; exact .failed)⟩

theorem toOption_settled {r : StatusResult} (present : ¬ Reads r none) :
    (settled r).toOption = (status? r).map some := by
  cases r with
  | ok status =>
      cases status with
      | some status => rfl
      | none => exact absurd (.answered none) present
  | error e =>
      cases e with
      | notFound message => exact absurd (.notFound message) present
      | _ => rfl

/-- Only the last answer can be that there is no stack. -/
theorem sighted_eq (undecided : ∀ k, k + 1 < n → ∀ state, ¬ s.Decides k state) :
    ∃ rest, (rest = [] ∨ rest = [none]) ∧
      s.sighted n = (s.answeredStatuses n).map some ++ rest := by
  cases n with
  | zero => exact ⟨[], .inl rfl, rfl⟩
  | succ n =>
      have before : s.sighted n = (s.answeredStatuses n).map some := by
        rw [answeredStatuses, List.map_filterMap]
        refine List.filterMap_congr fun k inside => toOption_settled fun reads => ?_
        obtain ⟨state, decides⟩ := decides_of_missing reads
        exact undecided k (Nat.succ_lt_succ (List.mem_range.mp inside)) state decides
      rw [sighted_succ, before, answeredStatuses_succ, List.map_append]
      by_cases reads : Reads (s.service.status n).result none
      · refine ⟨[none], .inr rfl, ?_⟩
        rw [(settled_eq_ok_iff _ none).mpr reads, reads.status?]
        exact congrArg (· ++ [none]) (List.append_nil _).symm
      · refine ⟨[], .inl rfl, ?_⟩
        rw [toOption_settled reads, List.append_nil, Option.toList_map]

theorem Told.statuses (told : s.Told t n) (undecided : ∀ k, k + 1 < n → ∀ state, ¬ s.Decides k state) :
    Lifecycle.statuses t.events = (s.answeredStatuses n).destutter (· ≠ ·) := by
  obtain ⟨notes, trail, seen⟩ := told
  obtain ⟨rest, missing, sighted⟩ := sighted_eq undecided
  have noted := sightings_notes (Trail.new s.options.stack) notes
  rw [← trail, seen, sighted, Trail.events_detach] at noted
  rw [← reduceOption_sightings, noted]
  exact reduceOption_recorded missing _

/-- Between two times when a trail is told that the stack is missing, each of which it records, it records
the statuses that it is told without those that repeat the one before; the first and the last stretch are
bounded by the ends of the trail, and whatever else happens makes no difference.  So the statuses in the
trail of a run are those that it has been answered, without the repeats, and an error between two answers
is no change. -/
theorem statuses_recorded :
    (∀ (stack : String) (ops : List TrailOperation),
      (sightings ((Broadcast.new stack).run ops).trail.events).splitOn none =
        ((ops.filterMap TrailOperation.sighting?).splitOn none).map (List.destutter (· ≠ ·))) ∧
    (∀ (b : Broadcast) (now : Time.Instant),
      (b.step (.note (.stackMissing now))).trail.records = b.trail.records ++ [⟨now, .stackMissing⟩]) ∧
    (∀ (s : Setting) (m : Moment), s.Occurs m →
      Lifecycle.statuses m.progress.trail.events =
        (s.answeredStatuses m.progress.polls).destutter (· ≠ ·)) ∧
    ∀ (s : Setting) (o : Outcome), (s.Ends s.beginning o ∨ ∃ fuel, s.run fuel = .ok (some o)) →
      Lifecycle.statuses o.trail.events =
        (s.answeredStatuses (questions o.calls)).destutter (· ≠ ·) := by
  refine ⟨Broadcast.sightings_run, fun _ _ => rfl, fun s m occurs => ?_, fun s o ended => ?_⟩
  · exact occurs.informed.1.statuses occurs.undecided
  · obtain ⟨p, token, occurs⟩ := occurs_of_end ended
    rw [Occurs.questions_eq occurs]
    exact ((Occurs.informed occurs).2 o rfl).statuses (Occurs.undecided occurs)

/-- A service that reports one status three times, with an error in between, before the stack is complete. -/
def flickering : Setting :=
  { lateOutputs with
    service := { lateOutputs.service with
      status := fun k => .now (match k with
        | 0 | 1 | 3 => .ok (some ⟨"CREATE_IN_PROGRESS", ""⟩)
        | 2 => .error (.network "down")
        | _ => .ok (some ⟨"CREATE_COMPLETE", ""⟩)) }
    cancellation := .never }

theorem statuses_recorded_flickering : ∃ o, flickering.run 5 = .ok (some o) ∧
    o.trail.events = [.stateChanged .submitting .inProgress "submitted",
      .remoteStatus ⟨"CREATE_IN_PROGRESS", ""⟩, .pollFailed "network error: down" 1,
      .remoteStatus ⟨"CREATE_COMPLETE", ""⟩,
      .stateChanged .inProgress .complete "CREATE_COMPLETE", .outputsUnavailable "gone"] ∧
    flickering.answeredStatuses 5 = [⟨"CREATE_IN_PROGRESS", ""⟩, ⟨"CREATE_IN_PROGRESS", ""⟩,
      ⟨"CREATE_IN_PROGRESS", ""⟩, ⟨"CREATE_COMPLETE", ""⟩] ∧
    (flickering.answeredStatuses 5).destutter (· ≠ ·) =
      [⟨"CREATE_IN_PROGRESS", ""⟩, ⟨"CREATE_COMPLETE", ""⟩] := by
  obtain ⟨o, ran, events, asked⟩ : ∃ o, flickering.run 5 = .ok (some o) ∧
      o.trail.events = [.stateChanged .submitting .inProgress "submitted",
        .remoteStatus ⟨"CREATE_IN_PROGRESS", ""⟩, .pollFailed "network error: down" 1,
        .remoteStatus ⟨"CREATE_COMPLETE", ""⟩,
        .stateChanged .inProgress .complete "CREATE_COMPLETE", .outputsUnavailable "gone"] ∧
      questions o.calls = 5 := by
    rw [run_of_checked check_localProfile rfl]
    exact ⟨_, rfl, rfl, rfl⟩
  have shown := statuses_recorded.2.2.2 flickering o (.inr ⟨5, ran⟩)
  rw [events, asked] at shown
  exact ⟨o, ran, events, rfl, shown.symm⟩

end Setting
end HeatStack.Lifecycle
