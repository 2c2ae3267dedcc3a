import HeatStack.Proofs.CallProtocol
import HeatStack.Proofs.TrailBroadcast

/-! # The live stream of a run

A run acts in the same way whether somebody listens or not: every step of it commutes with `attended`, which
puts one listener from the beginning in the place of the stream, or none.  So the outcomes with and without
a listener are the same, and a listener that stays has got all records in the end (`Occurs.attended_eq`). -/
set_option autoImplicit false
namespace HeatStack.Lifecycle

/-- The run with or without a listener. -/
def Setting.attended (live : Bool) (s : Setting) : Setting := { s with streamed := live }

def Progress.attended (live : Bool) (p : Progress) : Progress := { p with trail := p.trail.attended live }

/-- The same outcome for a listener that has been there from the beginning, or without any. -/
def Outcome.attended (live : Bool) (o : Outcome) : Outcome :=
  { o with streamed := if live then o.trail.records else [] }

def Phase.attended (live : Bool) : Phase → Phase
  | .ended o => .ended (o.attended live)
  | phase => phase

def Moment.attended (live : Bool) (m : Moment) : Moment :=
  ⟨m.phase.attended live, m.progress.attended live, m.cancelled⟩

def Moment.deserted (m : Moment) : Moment := { m with progress := m.progress.onTrail Trail.abandon }

/-- The channel to the listener is open as long as there is a sender: the options of the run hold one while
they are kept, and so does a trail that has a stream. -/
def ChannelOpen (kept : Bool) (t : Trail) : Prop := kept = true ∨ t.stream.isSome = true

namespace Setting
variable {s : Setting} {live token : Bool} {started : Nat} {p : Progress} {m m' : Moment} {o : Outcome}

/-- The run, and a listener that may go away once the run has been entered. -/
inductive Watched (s : Setting) : Moment → Moment → Prop
  | move {m m' : Moment} : s.Moves m m' → Watched s m m'
  | desert (m : Moment) : m.phase ≠ .entering → Watched s m m.deserted

/-! ## What is done between two waits -/

section
variable (s live)

theorem start_attended : (Progress.start s).attended live = Progress.start (s.attended live) := by
  unfold Progress.start
  cases s.streamed <;> cases live <;> rfl

theorem outcome_attended (p : Progress) (status : BuildStatus) (reason : String)
    (outputs : Table (Option String)) :
    (outcome p status reason outputs).attended live = outcome (p.attended live) status reason outputs := by
  cases live <;> rfl

theorem settle_attended (p : Progress) (state : State) (reason : String) :
    (s.settle p state reason).attended live = (s.attended live).settle (p.attended live) state reason :=
  congrArg (fun t => { p with trail := t })
    (p.trail.note_attended (.transition (s.clock p.now) state reason) live)

theorem fetched_attended (p : Progress) (reason : String) :
    (s.fetched p reason).attended live = (s.attended live).fetched (p.attended live) reason := by
  have noted (e : ServiceError) :=
    p.trail.note_attended (.outputsUnavailable (s.clock p.now) e.message) live
  have answered : (s.attended live).service = s.service := rfl
  unfold fetched
  rw [answered]
  cases s.service.outputs.result with
  | ok remote => exact outcome_attended live _ _ _ _
  | error e =>
      refine (outcome_attended live _ _ _ _).trans ?_
      exact congrArg (fun t => outcome { p with trail := t } _ _ _) (noted e)

theorem heed_attended (p : Progress) (r : StatusResult) :
    ((s.heed p r).1.attended live, (s.heed p r).2) = (s.attended live).heed (p.attended live) r := by
  unfold heed
  cases settled r with
  | error e =>
      exact Prod.ext (congrArg (fun t => { p with failures := p.failures + 1, trail := t })
        (p.trail.note_attended (.pollFailed (s.clock p.now) e.message (p.failures + 1)) live)) rfl
  | ok status =>
      cases status with
      | none =>
          exact Prod.ext (congrArg (fun t => { p with failures := 0, trail := t })
            (p.trail.note_attended (.stackMissing (s.clock p.now)) live)) rfl
      | some status =>
          exact Prod.ext (congrArg (fun t => { p with failures := 0, trail := t })
            (p.trail.note_attended (.observe (s.clock p.now) status) live)) rfl

theorem heeded_attended (p : Progress) :
    ((s.heeded p).1.attended live, (s.heeded p).2) = (s.attended live).heeded (p.attended live) :=
  s.heed_attended live _ _

theorem conclude_attended (token : Bool) (p : Progress) (state : State) (reason : String) :
    (s.conclude token p state reason).attended live =
      (s.attended live).conclude token (p.attended live) state reason := by
  unfold conclude
  rw [apply_ite (Moment.attended live), ← settle_attended, ← outcome_attended]
  rfl

theorem look_attended (token : Bool) (started : Nat) (p : Progress) :
    (s.look token started p).attended live = (s.attended live).look token started (p.attended live) := by
  have late : (s.attended live).expired? started (p.attended live) = s.expired? started p := rfl
  unfold look
  rw [late]
  cases token with
  | true => exact s.conclude_attended live true p .aborted "aborted while waiting"
  | false =>
      cases s.expired? started p with
      | none => rfl
      | some limit =>
          exact s.conclude_attended live false p .timedOut
            (s.subject ++ " timed out after " ++ toString limit ++ "s")

theorem hear_attended (token : Bool) (started : Nat) (p : Progress) :
    (s.hear token started p).attended live = (s.attended live).hear token started (p.attended live) := by
  have same := s.heeded_attended live p
  unfold hear
  rw [← same]
  cases s.heeded p with
  | mk q verdict =>
      cases verdict with
      | none => rfl
      | some verdict => exact s.conclude_attended live token q _ _

theorem accept_attended (token : Bool) (p : Progress) :
    (s.accept token p).attended live = (s.attended live).accept token (p.attended live) := by
  have answered : (s.attended live).service = s.service := rfl
  unfold accept
  rw [answered]
  cases s.service.submission.result with
  | error e => exact s.conclude_attended live token p _ _
  | ok =>
      dsimp only
      rw [look_attended, settle_attended]
      rfl

theorem enter_attended (token : Bool) : (s.enter token).attended live = (s.attended live).enter token := by
  have profile : (s.attended live).profile = s.profile := rfl
  have parameters : (s.attended live).parameters.checkFor (s.attended live).bundle =
      s.parameters.checkFor s.bundle := rfl
  unfold enter
  rw [profile, parameters, ← start_attended]
  cases s.profile.check with
  | error e => rfl
  | ok =>
      cases s.parameters.checkFor s.bundle with
      | error e => rfl
      | ok =>
          cases token with
          | true => exact s.conclude_attended live true _ .aborted "aborted before submission"
          | false => rfl

end

/-! ## A run, moment by moment -/

theorem due?_attended (p : Progress) (phase : Phase) :
    (s.attended live).due? (p.attended live) (phase.attended live) = s.due? p phase := by
  cases phase <;> rfl

theorem Moves.attended (move : s.Moves m m') (live : Bool) :
    (s.attended live).Moves (m.attended live) (m'.attended live) := by
  cases move with
  | cancel => exact .cancel _
  | pass phase p token due time ends later inTime asleep =>
      refine .pass (phase.attended live) (p.attended live) token due time ?_ later inTime ?_
      · rw [due?_attended]
        exact ends
      · cases phase <;> exact asleep
  | enter token =>
      have enters := Moves.enter (s := s.attended live) token
      rw [← enter_attended, ← start_attended] at enters
      exact enters
  | accept since p token answered =>
      rw [accept_attended]
      exact .accept since (p.attended live) token answered
  | hear started since p token answered =>
      rw [hear_attended]
      exact .hear started since (p.attended live) token answered
  | sleep started since p token slept =>
      rw [look_attended]
      exact .sleep started since (p.attended live) token slept
  | wake started since p =>
      rw [look_attended]
      exact .wake started since (p.attended live)
  | fetch reason since p token answered =>
      have fetches := Moves.fetch (s := s.attended live) reason since (p.attended live) token answered
      rw [← fetched_attended] at fetches
      exact fetches

theorem beginning_attended (s : Setting) (live : Bool) :
    s.beginning.attended live = (s.attended live).beginning := by
  unfold beginning
  rw [← start_attended]
  rfl

/-- Whatever the listener does, the run goes on as with another one, or with none. -/
theorem occurs_of_watched (watched : Relation.ReflTransGen s.Watched s.beginning m) (live : Bool) :
    (s.attended live).Occurs (m.attended live) := by
  induction watched with
  | refl =>
      rw [beginning_attended]
      exact .refl
  | tail _ step ih =>
      cases step with
      | move move => exact ih.tail (move.attended live)
      | desert m => exact ih

theorem Occurs.attended (occurs : s.Occurs m) (live : Bool) : (s.attended live).Occurs (m.attended live) :=
  occurs_of_watched (Relation.ReflTransGen.mono (fun _ _ => Watched.move) _ _ occurs) live

theorem Ends.attended (ends : s.Ends s.beginning o) (live : Bool) :
    (s.attended live).Ends (s.attended live).beginning (o.attended live) := by
  obtain ⟨p, token, reaches⟩ := ends
  exact ⟨p.attended live, token, Occurs.attended reaches live⟩

/-- A run keeps the listener that it has from the beginning, with all records so far. -/
theorem attended_eq_move (same : m.attended s.streamed = m) (move : s.Moves m m') :
    m'.attended s.streamed = m' := by
  have progress : m.progress.attended s.streamed = m.progress := congrArg Moment.progress same
  -- What a step makes of the run with its own listener is what it makes of the run.
  cases move with
  | cancel => exact congrArg Moment.cancel same
  | pass phase p token due time =>
      have phase' : phase.attended s.streamed = phase := congrArg Moment.phase same
      have waited : (p.until time).attended s.streamed = p.until time :=
        congrArg (Progress.until · time) progress
      exact congr (congrArg (fun f q => Moment.mk f q token) phase') waited
  | enter token => exact s.enter_attended s.streamed token
  | accept since p token =>
      exact (s.accept_attended s.streamed token p).trans (congrArg (s.accept token) progress)
  | hear started since p token =>
      exact (s.hear_attended s.streamed token started p).trans (congrArg (s.hear token started) progress)
  | sleep started since p token =>
      exact (s.look_attended s.streamed token started p).trans (congrArg (s.look token started) progress)
  | wake started since p =>
      exact (s.look_attended s.streamed true started p).trans (congrArg (s.look true started) progress)
  | fetch reason since p token =>
      have fetched : (s.fetched p reason).attended s.streamed = s.fetched p reason :=
        (s.fetched_attended s.streamed p reason).trans (congrArg (s.fetched · reason) progress)
      exact congr (congrArg (fun o q => Moment.mk (.ended o) q token) fetched) progress

theorem Occurs.attended_eq (occurs : s.Occurs m) : m.attended s.streamed = m :=
  occurs.keeps (I := fun m => m.attended s.streamed = m) (s.beginning_attended s.streamed)
    fun _ _ => attended_eq_move

/-! ## The trail of an outcome -/

/-- An outcome holds on to no listener. -/
def Closed (m : Moment) : Prop :=
  match m.phase with
  | .ended o => o.trail.stream = none
  | _ => True

theorem closed_conclude (state : State) (reason : String) : Closed (s.conclude token p state reason) :=
  conclude_cases (P := Closed) (fun _ => rfl) (fun _ _ => trivial)

theorem closed_look : Closed (s.look token started p) :=
  look_cases (P := Closed) (fun _ _ _ => closed_conclude _ _) (fun _ _ => trivial)

theorem stream_fetched (s : Setting) (p : Progress) (reason : String) :
    (s.fetched p reason).trail.stream = none := by
  unfold fetched
  split <;> rfl

theorem closed_move (closed : Closed m) (move : s.Moves m m') : Closed m' := by
  cases move with
  | cancel => exact closed
  | pass => exact closed
  | enter token =>
      exact enter_cases (P := Closed) (fun _ _ => trivial) (fun _ => closed_conclude _ _) (fun _ => trivial)
  | accept since p token =>
      exact accept_cases (P := Closed) (fun _ _ => closed_conclude _ _) (fun _ => closed_look)
  | hear started since p token =>
      exact hear_cases (P := Closed) (fun _ _ _ _ => closed_conclude _ _) (fun _ _ => trivial)
  | sleep started since p token => exact closed_look
  | wake started since p => exact closed_look
  | fetch reason since p token => exact s.stream_fetched p reason

theorem closed_of_watched (watched : Relation.ReflTransGen s.Watched s.beginning m) : Closed m := by
  induction watched with
  | refl => trivial
  | tail _ step ih =>
      cases step with
      | move move => exact closed_move ih move
      | desert m => exact ih

/-! ## A run that is told when it is cancelled -/

theorem finish_attended (s : Setting) (live : Bool) (p : Progress) (state : State) (reason : String) :
    (s.finish p state reason).attended live = (s.attended live).finish (p.attended live) state reason := by
  rw [finish_eq, finish_eq, apply_ite (Outcome.attended live), outcome_attended, fetched_attended,
    ← settle_attended]
  rfl

theorem poll_attended (s : Setting) (live : Bool) (started fuel : Nat) (p : Progress) :
    (s.attended live).poll started fuel (p.attended live) =
      (s.poll started fuel p).map fun (q, state, reason) => (q.attended live, state, reason) := by
  -- A turn with another listener ends or waits as the turn itself does.
  induction fuel generalizing p with
  | zero => rfl
  | succ fuel ih =>
      have running : (s.attended live).cancelled (p.attended live) = s.cancelled p := rfl
      have late : (s.attended live).expired? started (p.attended live) = s.expired? started p := rfl
      have answer : (s.attended live).heeded ((s.attended live).asked (p.attended live)) =
          ((s.heeded (s.asked p)).1.attended live, (s.heeded (s.asked p)).2) :=
        (s.heeded_attended live (s.asked p)).symm
      rw [poll, poll, turn_eq, turn_eq, running, late, answer]
      cases s.cancelled p with
      | true => rfl
      | false =>
          cases s.expired? started p with
          | some limit => rfl
          | none =>
              cases s.heeded (s.asked p) with
              | mk q verdict =>
                  cases verdict with
                  | some verdict => rfl
                  | none => exact ih (s.rest q)

theorem drive_attended (s : Setting) (live : Bool) (fuel : Nat) :
    (s.attended live).drive fuel = (s.drive fuel).map (Outcome.attended live) := by
  have early : (s.attended live).cancellation = s.cancellation := rfl
  have answered : (s.attended live).service = s.service := rfl
  have submitted : (s.attended live).submitted = s.submitted.attended live := by
    unfold submitted
    rw [← start_attended]
    rfl
  rw [drive_eq, drive_eq, early, answered, submitted, ← start_attended]
  cases s.cancellation.holds 0 0 with
  | true => exact congrArg some (s.finish_attended live _ _ _).symm
  | false =>
      cases s.service.submission.result with
      | error e => exact congrArg some (s.finish_attended live _ _ _).symm
      | ok =>
          change Option.map _ ((s.attended live).poll _ fuel ((s.attended live).settle _ _ _)) = _
          rw [← settle_attended, poll_attended]
          change _ = Option.map (Outcome.attended live) (Option.map _ _)
          rw [Option.map_map, Option.map_map]
          refine congrArg (Option.map · _) (funext fun last => ?_)
          exact (s.finish_attended live last.1 last.2.1 last.2.2).symm

theorem run_attended (s : Setting) (live : Bool) (fuel : Nat) :
    (s.attended live).run fuel = (s.run fuel).map (Option.map (Outcome.attended live)) := by
  have profile : (s.attended live).profile = s.profile := rfl
  have parameters : (s.attended live).parameters.checkFor (s.attended live).bundle =
      s.parameters.checkFor s.bundle := rfl
  unfold run
  rw [profile, parameters, drive_attended]
  cases s.profile.check with
  | error e => rfl
  | ok =>
      cases s.parameters.checkFor s.bundle with
      | error e => rfl
      | ok => rfl

/-! ## The stream as a whole -/

theorem channelOpen_iff {t : Trail} (closed : t.stream = none) (kept : Bool) :
    ChannelOpen kept t ↔ kept = true := by
  unfold ChannelOpen
  rw [closed]
  simp

theorem streamed_of_occurs (occurs : s.Occurs ⟨.ended o, p, token⟩) :
    o.streamed = if s.streamed then o.trail.records else [] := by
  have same : Phase.ended (o.attended s.streamed) = .ended o := congrArg Moment.phase occurs.attended_eq
  have outcome := Phase.ended.inj same
  exact (congrArg Outcome.streamed outcome).symm

/-- Each listener gets the records that are appended from the time on when it is attached, until another
takes its place, the stream is closed or the listener leaves; and none of this makes a difference to the
trail.  So the listener of a run has got what the trail of the outcome holds, whatever is answered and
whenever the run is cancelled, and its channel is closed once the options are given up.  Without it, or if
it leaves, the outcome is the same. -/
theorem live_stream :
    (∀ (b : Broadcast) (ops : List TrailOperation), ∃ stream,
      (b.run (.attach :: ops)).streams[b.streams.length]? = some stream ∧
      (b.run (.attach :: ops.takeWhile fun op => ¬ op.Ends b.streams.length)).trail.records =
        b.trail.records ++ stream.received) ∧
    (∀ (b : Broadcast) (ops : List TrailOperation),
      (b.run ops).trail.detach =
        (ops.filterMap TrailOperation.note?).foldl Trail.note b.trail.detach) ∧
    (∀ (s : Setting) (o : Outcome), (s.Ends s.beginning o ∨ ∃ fuel, s.run fuel = .ok (some o)) →
      (o.streamed = if s.streamed then o.trail.records else []) ∧
      ∀ kept, ChannelOpen kept o.trail ↔ kept = true) ∧
    (∀ (s : Setting) (live : Bool),
      (∀ fuel, (s.attended live).run fuel = (s.run fuel).map (Option.map (Outcome.attended live))) ∧
      ∀ o, s.Ends s.beginning o → (s.attended live).Ends (s.attended live).beginning (o.attended live)) ∧
    (∀ (s : Setting) (live : Bool) (m : Moment) (o : Outcome),
      Relation.ReflTransGen s.Watched s.beginning m → m.phase = .ended o →
      (s.attended live).Ends (s.attended live).beginning (o.attended live) ∧
      ∀ kept, ChannelOpen kept o.trail ↔ kept = true) := by
  refine ⟨Broadcast.received_of_attach, Broadcast.detach_run, fun s o ended => ?_, fun s live => ?_,
    fun s live m o watched ended => ?_⟩
  · obtain ⟨p, token, occurs⟩ : s.Ends s.beginning o := by
      rcases ended with ends | ⟨fuel, ran⟩
      · exact ends
      · exact ends_of_run ran
    have closed := closed_of_watched (Relation.ReflTransGen.mono (fun _ _ => Watched.move) _ _ occurs)
    exact ⟨streamed_of_occurs occurs, channelOpen_iff closed⟩
  · exact ⟨s.run_attended live, fun o ends => ends.attended live⟩
  · obtain ⟨phase, p, token⟩ := m
    cases ended
    exact ⟨⟨_, _, occurs_of_watched watched live⟩, channelOpen_iff (closed_of_watched watched)⟩

theorem live_stream_lateOutputs : ∃ o, (lateOutputs.attended true).run 4 = .ok (some o) ∧
    o.streamed = o.trail.records ∧ o.trail.records.length = 6 ∧ ¬ ChannelOpen false o.trail ∧
    lateOutputs.run 4 = .ok (some (o.attended false)) := by
  have profile : (lateOutputs.attended true).profile.check = .ok () := check_localProfile
  obtain ⟨o, ran, count⟩ : ∃ o, (lateOutputs.attended true).run 4 = .ok (some o) ∧
      o.trail.records.length = 6 := by
    unfold run
    rw [profile]
    exact ⟨_, rfl, rfl⟩
  obtain ⟨-, -, streams, unheard, -⟩ := live_stream
  obtain ⟨streamed, channel⟩ := streams (lateOutputs.attended true) o (.inr ⟨4, ran⟩)
  have same := (unheard (lateOutputs.attended true) false).1 4
  rw [ran] at same
  exact ⟨o, ran, streamed, count, fun held => Bool.false_ne_true ((channel false).mp held), same⟩

end Setting
end HeatStack.Lifecycle
