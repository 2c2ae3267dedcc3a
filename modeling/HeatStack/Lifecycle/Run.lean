import HeatStack.Connection.Profile
import HeatStack.Lifecycle.Options
import HeatStack.Lifecycle.Service
import HeatStack.Lifecycle.Trail

/-! # Runs

A run submits one action, asks for the status of the stack until it is final, and looks up the
outputs of a stack that has been made or changed.  Profile and parameters are checked before the
service hears of anything; from then on every end of the run is an outcome, not an error.

Before each question the run looks first whether it has been cancelled, then whether its time is up.
Between two questions it waits, and wakes up early when it is cancelled.  `poll` asks a given number
of times at most and has no outcome if that does not suffice. -/
set_option autoImplicit false
namespace HeatStack.Lifecycle
open HeatStack.Connection HeatStack.Template HeatStack.Time

inductive Cancellation
  | never
  /-- At this time, in milliseconds since the start. -/
  | atTime (ms : Nat)
  /-- While a call is being answered: the submission is the first, and the questions follow. -/
  | duringCall (n : Nat)
deriving DecidableEq

namespace Cancellation

/-- Whether the run is cancelled at a time when some calls have been answered. -/
def holds (c : Cancellation) (now answered : Nat) : Bool :=
  match c with
  | .never => false
  | .atTime t => t ≤ now
  | .duringCall n => n ≤ answered

/-- When a wait ends that would last until `due`. -/
def wake (c : Cancellation) (now answered due : Nat) : Nat :=
  if c.holds now answered then now
  else match c with
    | .atTime t => min t due
    | _ => due

end Cancellation

structure Setting where
  service : Service
  bundle : Bundle
  profile : Profile
  parameters : Resolution
  options : Options
  cancellation : Cancellation
  /-- The time of day, so many milliseconds after the start. -/
  clock : Nat → Instant
  /-- Whether somebody listens to the trail. -/
  streamed : Bool

structure Progress where
  /-- Milliseconds since the start. -/
  now : Nat
  /-- The calls so far, each with its time. -/
  calls : List (Nat × Call)
  /-- Questions for the status that have been answered. -/
  polls : Nat
  /-- Failed questions since the last one that did not fail. -/
  failures : UInt32
  trail : Trail

namespace Progress

def start (s : Setting) : Progress :=
  let trail := Trail.new s.options.stack
  ⟨0, [], 0, 0, if s.streamed then trail.attach else trail⟩

/-- A call at this time, whose answer takes `delay`. -/
def call (p : Progress) (c : Call) (delay : Nat) : Progress :=
  { p with calls := p.calls ++ [(p.now, c)], now := p.now + delay }

def onTrail (p : Progress) (f : Trail → Trail) : Progress := { p with trail := f p.trail }

end Progress

inductive BuildStatus
  | success
  | failure
  | unstable
  | aborted
deriving DecidableEq

def BuildStatus.name : BuildStatus → String
  | .success => "SUCCESS"
  | .failure => "FAILURE"
  | .unstable => "UNSTABLE"
  | .aborted => "ABORTED"

def BuildStatus.ofState : State → BuildStatus
  | .complete => .success
  | .timedOut => .unstable
  | .aborted => .aborted
  | _ => .failure

structure Outcome where
  status : BuildStatus
  state : State
  reason : String
  /-- The declared outputs, those that the service does not have without a value. -/
  outputs : Table (Option String)
  trail : Trail
  /-- What the listener got, if there was one. -/
  streamed : List Record
  calls : List (Nat × Call)
  /-- Milliseconds from start to end. -/
  elapsed : Nat

def Observation.state? : Observation → Option State
  | .pending => none
  | .complete => some .complete
  | .failed => some .failed
  | .rolledBack => some .rollbackComplete

/-- That the stack was not found is an answer and no error. -/
def settled : StatusResult → StatusResult
  | .error (.notFound _) => .ok none
  | r => r

namespace Setting

def request (s : Setting) : Request :=
  ⟨s.options.stack, s.bundle.name, s.bundle.source, s.parameters⟩

def submission (s : Setting) : Call :=
  match s.options.action with
  | .create => .create s.request
  | .update => .update s.request
  | .delete => .delete s.options.stack

def subject (s : Setting) : String := s.options.action.name ++ " " ++ s.options.stack

def cancelled (s : Setting) (p : Progress) : Bool := s.cancellation.holds p.now (p.polls + 1)

def describe (s : Setting) : Option RemoteStatus → String
  | some status => status.text
  | none => "stack " ++ s.options.stack ++ " not found"

/-! ## Polling -/

inductive Turn
  | finished (p : Progress) (state : State) (reason : String)
  | waiting (p : Progress)

/-- The time that a run has, if it is over at this time. -/
def expired? (s : Setting) (started : Nat) (p : Progress) : Option Timeout :=
  s.options.timeout.filter fun limit => limit.milliseconds ≤ p.now - started

def rest (s : Setting) (p : Progress) : Progress :=
  { p with
    now := s.cancellation.wake p.now (p.polls + 1) (p.now + s.options.effectiveInterval) }

/-- A status, or its absence, as an answer. -/
def receive (s : Setting) (p : Progress) (status : Option RemoteStatus) : Turn :=
  let time := s.clock p.now
  let p := { p with failures := 0 }.onTrail fun t =>
    match status with
    | some status => t.observe time status
    | none => t.stackMissing time
  match (classify s.options.action status).state? with
  | some state => .finished p state (s.describe status)
  | none => .waiting (s.rest p)

/-- An error as an answer, which is tolerated so many times in a row. -/
def suffer (s : Setting) (p : Progress) (e : ServiceError) : Turn :=
  let failures := p.failures + 1
  let p := { p with failures := failures }.onTrail fun t =>
    t.pollFailed (s.clock p.now) e.message failures
  if s.options.maxFailures < failures then
    .finished p .failed ("status of " ++ s.options.stack ++ " unavailable after "
      ++ toString failures.toNat ++ " consecutive failures: " ++ e.message)
  else .waiting (s.rest p)

/-- One question, unless the run is cancelled or out of time. -/
def turn (s : Setting) (started : Nat) (p : Progress) : Turn :=
  if s.cancelled p then .finished p .aborted "aborted while waiting"
  else match s.expired? started p with
    | some limit =>
      .finished p .timedOut (s.subject ++ " timed out after " ++ toString limit ++ "s")
    | none =>
      let answer := s.service.status p.polls
      let p := { p.call (.status s.options.stack) answer.delay with polls := p.polls + 1 }
      match settled answer.result with
      | .ok status => s.receive p status
      | .error e => s.suffer p e

def poll (s : Setting) (started : Nat) : (fuel : Nat) → Progress → Option (Progress × State × String)
  | 0, _ => none
  | fuel + 1, p =>
    match s.turn started p with
    | .finished p state reason => some (p, state, reason)
    | .waiting p => s.poll started fuel p

/-! ## Outcomes -/

def outcome (p : Progress) (status : BuildStatus) (reason : String) (outputs : Table (Option String)) :
    Outcome :=
  ⟨status, p.trail.state, reason, outputs, p.trail.detach, p.trail.received, p.calls, p.now⟩

def finish (s : Setting) (p : Progress) (state : State) (reason : String) : Outcome :=
  let p := p.onTrail fun t => t.transition (s.clock p.now) state reason
  if state ≠ .complete ∨ s.options.action = .delete then
    outcome p (.ofState state) reason {}
  else
    let answer := s.service.outputs
    let p := p.call (.outputs s.options.stack) answer.delay
    match answer.result with
    | .ok remote => outcome p .success reason (s.bundle.outputs.map fun name _ => remote.get? name)
    | .error e =>
      let p := p.onTrail fun t => t.outputsUnavailable (s.clock p.now) e.message
      outcome p .unstable (reason ++ "; outputs unavailable: " ++ e.message) {}

/-- The run from its start, with up to `fuel` questions for the status. -/
def drive (s : Setting) (fuel : Nat) : Option Outcome :=
  let p := Progress.start s
  if s.cancellation.holds 0 0 then some (s.finish p .aborted "aborted before submission")
  else
    let answer := s.service.submission
    let p := p.call s.submission answer.delay
    match answer.result with
    | .error e => some (s.finish p .failed (s.subject ++ " rejected: " ++ e.message))
    | .ok () =>
      let p := p.onTrail fun t => t.transition (s.clock p.now) .inProgress "submitted"
      (s.poll p.now fuel p).map fun (p, state, reason) => s.finish p state reason

/-- The run, unless the profile or the parameters are at fault. -/
def run (s : Setting) (fuel : Nat) : Except InputError (Option Outcome) :=
  match s.profile.check with
  | .error e => .error e
  | .ok () =>
    match s.parameters.checkFor s.bundle with
    | .error e => .error e
    | .ok () => .ok (s.drive fuel)

/-- Questions enough for the run to end, if it ends at all, with a service whose answers do not
change any more after the first `steady` ones. -/
def enough (s : Setting) (steady : Nat) : Nat :=
  let cancelled := match s.cancellation with
    | .never => 0
    | .atTime t => t / shortestInterval + 2
    | .duringCall n => n + 2
  let inTime := (s.options.timeout.map fun limit => limit.milliseconds / shortestInterval + 1).getD 0
  steady + s.options.maxFailures.toNat + 2 + inTime + cancelled

end Setting
end HeatStack.Lifecycle
