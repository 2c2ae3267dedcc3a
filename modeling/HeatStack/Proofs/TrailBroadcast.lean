import HeatStack.Proofs.TrailState
import Mathlib.Data.List.TakeWhile

/-! # The listeners of a trail

A trail hands its records to one listener at a time.  Here are all the listeners that a trail has had, in
their order, with what they have been handed.  A listener is `Attached` until another one takes its place,
the stream is closed or the listener leaves; from then on it is `Settled`, and nothing that happens to the
trail gets to it any more.  The trail itself does not know whether anybody listens. -/
set_option autoImplicit false
namespace HeatStack.Lifecycle
open HeatStack.Time

/-- What is told to a trail by the run that it follows. -/
inductive Note
  | transition (now : Instant) (target : State) (reason : String)
  | observe (now : Instant) (status : RemoteStatus)
  | stackMissing (now : Instant)
  | pollFailed (now : Instant) (error : String) (consecutive : UInt32)
  | outputsUnavailable (now : Instant) (error : String)
deriving DecidableEq

def Trail.note (t : Trail) : Note → Trail
  | .transition now target reason => t.transition now target reason
  | .observe now status => t.observe now status
  | .stackMissing now => t.stackMissing now
  | .pollFailed now error consecutive => t.pollFailed now error consecutive
  | .outputsUnavailable now error => t.outputsUnavailable now error

/-- What can happen to a trail.  The listeners are counted from the first on. -/
inductive TrailOperation
  | note (n : Note)
  | attach
  | detach
  | abandon (listener : Nat)
deriving DecidableEq

def TrailOperation.note? : TrailOperation → Option Note
  | .note n => some n
  | _ => none

/-- The operation takes the stream away from a listener. -/
def TrailOperation.Ends (listener : Nat) (op : TrailOperation) : Prop :=
  op = .attach ∨ op = .detach ∨ op = .abandon listener

instance (listener : Nat) (op : TrailOperation) : Decidable (op.Ends listener) :=
  inferInstanceAs (Decidable (_ ∨ _ ∨ _))

/-- A trail, and the streams that it has had before. -/
structure Broadcast where
  trail : Trail
  former : List Stream

def Stream.deserted (s : Stream) : Stream := { s with listening := false }

namespace Broadcast

def new (stack : String) : Broadcast := ⟨.new stack, []⟩

def streams (b : Broadcast) : List Stream := b.former ++ b.trail.stream.toList

def step (b : Broadcast) : TrailOperation → Broadcast
  | .note n => { b with trail := b.trail.note n }
  | .attach => ⟨b.trail.attach, b.streams⟩
  | .detach => ⟨b.trail.detach, b.streams⟩
  | .abandon listener =>
    if listener = b.former.length then { b with trail := b.trail.abandon }
    else { b with former := b.former.modify listener Stream.deserted }

def run (b : Broadcast) (ops : List TrailOperation) : Broadcast := ops.foldl step b

theorem run_append (b : Broadcast) (before after : List TrailOperation) :
    b.run (before ++ after) = (b.run before).run after := List.foldl_append

end Broadcast

/-! ## A note and its record -/

/-- The trail with one listener from its beginning, or without any. -/
def Trail.attended (live : Bool) (t : Trail) : Trail :=
  { t with stream := if live then some ⟨true, t.records⟩ else none }

namespace Trail
variable (t : Trail) (n : Note)

/-- A note is recorded once, or not at all; the listener is handed what is recorded. -/
theorem note_cases {P : Trail → Prop} (ignored : P t)
    (recorded : ∀ (state : State) (last : Option RemoteStatus) (r : Record),
      P ({ t with state := state, lastStatus := last }.push r)) : P (t.note n) := by
  cases n with
  | transition now target reason =>
      change P (t.transition now target reason)
      unfold transition
      split
      · exact ignored
      · exact recorded _ _ _
  | observe now status =>
      change P (t.observe now status)
      unfold observe
      split
      · exact ignored
      · exact recorded _ _ _
  | stackMissing now => exact recorded _ _ _
  | pollFailed now error consecutive => exact recorded _ _ _
  | outputsUnavailable now error => exact recorded _ _ _

theorem note_listening {received : List Record} (listening : t.stream = some ⟨true, received⟩) :
    ∃ more, (t.note n).records = t.records ++ more ∧
      (t.note n).stream = some ⟨true, received ++ more⟩ := by
  refine t.note_cases (P := fun u => ∃ more, u.records = t.records ++ more ∧
    u.stream = some ⟨true, received ++ more⟩) n ⟨[], ?_, ?_⟩ fun state last r => ⟨[r], rfl, ?_⟩
  · rw [List.append_nil]
  · rw [List.append_nil, listening]
  · simp only [push, listening, Option.map_some, if_true]

theorem note_deserted {received : List Record} (deserted : t.stream = some ⟨false, received⟩) :
    (t.note n).stream = some ⟨false, received⟩ := by
  refine t.note_cases (P := fun u => u.stream = some ⟨false, received⟩) n deserted fun state last r => ?_
  simp only [push, deserted, Option.map_some, Bool.false_eq_true, if_false]

theorem push_attended (live : Bool) (r : Record) : (t.push r).attended live = (t.attended live).push r := by
  cases live <;> rfl

/-- A trail takes a note in the same way whether somebody listens or not. -/
theorem note_attended (live : Bool) : (t.note n).attended live = (t.attended live).note n := by
  cases n with
  | transition now target reason =>
      change (t.transition now target reason).attended live = (t.attended live).transition now target reason
      unfold transition
      rw [apply_ite (Trail.attended live)]
      exact if_congr Iff.rfl rfl (push_attended _ live _)
  | observe now status =>
      change (t.observe now status).attended live = (t.attended live).observe now status
      unfold observe
      rw [apply_ite (Trail.attended live)]
      exact if_congr Iff.rfl rfl (push_attended _ live _)
  | stackMissing now => exact push_attended _ live _
  | pollFailed now error consecutive => exact push_attended _ live _
  | outputsUnavailable now error => exact push_attended _ live _

end Trail

namespace Broadcast
variable {b : Broadcast} {listener : Nat} {old got : List Record} {op : TrailOperation}
  {ops : List TrailOperation}

/-! ## While a listener is attached -/

/-- The listener is handed all records, from the time on when there were the old ones. -/
structure Attached (listener : Nat) (old : List Record) (b : Broadcast) (got : List Record) :
    Prop where
  listener : b.former.length = listener
  stream : b.trail.stream = some ⟨true, got⟩
  records : b.trail.records = old ++ got

theorem attached_attach (b : Broadcast) :
    Attached b.streams.length b.trail.records (b.step .attach) [] :=
  ⟨rfl, rfl, (List.append_nil _).symm⟩

theorem Attached.step (attached : Attached listener old b got) (kept : ¬ op.Ends listener) :
    ∃ more, Attached listener old (b.step op) more := by
  cases op with
  | note n =>
      obtain ⟨more, records, stream⟩ := b.trail.note_listening n attached.stream
      refine ⟨got ++ more, attached.listener, stream, ?_⟩
      change (b.trail.note n).records = old ++ (got ++ more)
      rw [records, attached.records, List.append_assoc]
  | attach => exact absurd (.inl rfl) kept
  | detach => exact absurd (.inr (.inl rfl)) kept
  | abandon other =>
      -- Another listener leaves, one that has been replaced before.
      have different : other ≠ b.former.length := fun same =>
        kept (.inr (.inr (congrArg TrailOperation.abandon (same.trans attached.listener))))
      refine ⟨got, ?_⟩
      rw [Broadcast.step, if_neg different]
      exact ⟨(List.length_modify ..).trans attached.listener, attached.stream, attached.records⟩

theorem Attached.run (attached : Attached listener old b got)
    (kept : ∀ op ∈ ops, ¬ op.Ends listener) : ∃ more, Attached listener old (b.run ops) more := by
  induction ops generalizing b got with
  | nil => exact ⟨got, attached⟩
  | cons op ops ih =>
      obtain ⟨first, rest⟩ := List.forall_mem_cons.mp kept
      obtain ⟨more, attached⟩ := attached.step first
      exact ih attached rest

/-! ## When the stream is taken away -/

/-- The listener has got all that it will ever get: it has been replaced, or it has left. -/
inductive Settled (listener : Nat) (got : List Record) (b : Broadcast) : Prop
  | former (listening : Bool) :
      b.former[listener]? = some ⟨listening, got⟩ → Settled listener got b
  | deserted : b.former.length = listener → b.trail.stream = some ⟨false, got⟩ →
      Settled listener got b

theorem Settled.received (settled : Settled listener got b) :
    ∃ stream, b.streams[listener]? = some stream ∧ stream.received = got := by
  cases settled with
  | former listening found =>
      obtain ⟨inside, -⟩ := List.getElem?_eq_some_iff.mp found
      refine ⟨⟨listening, got⟩, ?_, rfl⟩
      rw [streams, List.getElem?_append_left inside]
      exact found
  | deserted last stream =>
      refine ⟨⟨false, got⟩, ?_, rfl⟩
      rw [streams, List.getElem?_append_right (Nat.le_of_eq last), last, Nat.sub_self, stream]
      rfl

theorem Attached.streams (attached : Attached listener old b got) :
    b.streams = b.former ++ [⟨true, got⟩] := by
  rw [Broadcast.streams, attached.stream]
  rfl

theorem Attached.received (attached : Attached listener old b got) :
    b.streams[listener]? = some ⟨true, got⟩ := by
  rw [attached.streams, ← attached.listener, List.getElem?_concat_length]

theorem Attached.ends (attached : Attached listener old b got) (ends : op.Ends listener) :
    Settled listener got (b.step op) := by
  rcases ends with rfl | rfl | rfl
  · exact .former true attached.received
  · exact .former true attached.received
  · rw [Broadcast.step, if_pos attached.listener.symm]
    refine .deserted attached.listener ?_
    change b.trail.stream.map Stream.deserted = some ⟨false, got⟩
    rw [attached.stream]
    rfl

theorem Settled.replaced (settled : Settled listener got b) (t : Trail) :
    Settled listener got ⟨t, b.streams⟩ := by
  obtain ⟨⟨listening, rest⟩, found, rfl⟩ := settled.received
  exact .former listening found

theorem Settled.step (settled : Settled listener got b) (op : TrailOperation) :
    Settled listener got (b.step op) := by
  cases op with
  | attach => exact settled.replaced _
  | detach => exact settled.replaced _
  | note n =>
      cases settled with
      | former listening found => exact .former listening found
      | deserted last stream => exact .deserted last (b.trail.note_deserted n stream)
  | abandon other =>
      rw [Broadcast.step]
      cases settled with
      | former listening found =>
          split
          · exact .former listening found
          · -- Even who leaves later keeps what has been handed out.
            by_cases same : other = listener
            · refine .former false ?_
              rw [same, List.getElem?_modify_eq, found]
              rfl
            · refine .former listening ?_
              rw [List.getElem?_modify_ne _ _ same, found]
      | deserted last stream =>
          split
          · refine .deserted last ?_
            change b.trail.stream.map Stream.deserted = some ⟨false, got⟩
            rw [stream]
            rfl
          · exact .deserted ((List.length_modify ..).trans last) stream

theorem Settled.run (settled : Settled listener got b) (ops : List TrailOperation) :
    Settled listener got (b.run ops) := by
  induction ops generalizing b with
  | nil => exact settled
  | cons op ops ih => exact ih (settled.step op)

/-! ## What a listener gets -/

theorem received_of_split (b : Broadcast) {during later : List TrailOperation}
    (kept : ∀ op ∈ during, ¬ op.Ends b.streams.length)
    (ends : ∀ op ∈ later.head?, op.Ends b.streams.length) :
    ∃ stream, (b.run (.attach :: (during ++ later))).streams[b.streams.length]? = some stream ∧
      (b.run (.attach :: during)).trail.records = b.trail.records ++ stream.received := by
  obtain ⟨got, attached⟩ := b.attached_attach.run kept
  have split : b.run (.attach :: (during ++ later)) = ((b.step .attach).run during).run later :=
    run_append ..
  rw [split]
  cases later with
  | nil => exact ⟨_, attached.received, attached.records⟩
  | cons op rest =>
      obtain ⟨stream, found, same⟩ := ((attached.ends (ends op rfl)).run rest).received
      refine ⟨stream, found, ?_⟩
      rw [same]
      exact attached.records

/-- A new listener gets the records that are appended until the stream is taken away from it, whatever
else happens later. -/
theorem received_of_attach (b : Broadcast) (ops : List TrailOperation) :
    ∃ stream, (b.run (.attach :: ops)).streams[b.streams.length]? = some stream ∧
      (b.run (.attach :: ops.takeWhile fun op => ¬ op.Ends b.streams.length)).trail.records =
        b.trail.records ++ stream.received := by
  have kept : ∀ op ∈ ops.takeWhile fun op => ¬ op.Ends b.streams.length, ¬ op.Ends b.streams.length := by
    intro op inside
    have passed := List.mem_takeWhile_imp inside
    exact of_decide_eq_true passed
  have ends : ∀ op ∈ (ops.dropWhile fun op => ¬ op.Ends b.streams.length).head?,
      op.Ends b.streams.length := by
    intro op first
    have stopped := List.head?_dropWhile_not (fun op => ¬ op.Ends b.streams.length) ops
    rw [Option.mem_def.mp first] at stopped
    exact Decidable.not_not.mp (of_decide_eq_false stopped)
  obtain ⟨stream, found, records⟩ := b.received_of_split kept ends
  rw [List.takeWhile_append_dropWhile] at found
  exact ⟨stream, found, records⟩

/-- Without the listeners nothing changes but the stream. -/
theorem detach_run (b : Broadcast) (ops : List TrailOperation) :
    (b.run ops).trail.detach = (ops.filterMap TrailOperation.note?).foldl Trail.note b.trail.detach := by
  induction ops generalizing b with
  | nil => rfl
  | cons op ops ih =>
      refine (ih (b.step op)).trans ?_
      cases op with
      | note n =>
          have noted : (b.trail.note n).detach = b.trail.detach.note n := b.trail.note_attended n false
          exact congrArg (List.foldl Trail.note · _) noted
      | attach => rfl
      | detach => rfl
      | abandon listener =>
          rw [step]
          split <;> rfl

end Broadcast
end HeatStack.Lifecycle
