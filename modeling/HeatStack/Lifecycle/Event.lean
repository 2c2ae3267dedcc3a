import HeatStack.Lifecycle.Status

/-! # States and events of a run -/
set_option autoImplicit false
namespace HeatStack.Lifecycle

inductive State
  | submitting
  | inProgress
  | complete
  | failed
  | rollbackComplete
  | timedOut
  | aborted
deriving DecidableEq

namespace State

def isTerminal : State → Bool
  | .submitting => false
  | .inProgress => false
  | _ => true

def name : State → String
  | .submitting => "SUBMITTING"
  | .inProgress => "IN_PROGRESS"
  | .complete => "COMPLETE"
  | .failed => "FAILED"
  | .rollbackComplete => "ROLLBACK_COMPLETE"
  | .timedOut => "TIMED_OUT"
  | .aborted => "ABORTED"

def word : State → String
  | .submitting => "submitting"
  | .inProgress => "in_progress"
  | .complete => "complete"
  | .failed => "failed"
  | .rollbackComplete => "rollback_complete"
  | .timedOut => "timed_out"
  | .aborted => "aborted"

def all : List State :=
  [.submitting, .inProgress, .complete, .failed, .rollbackComplete, .timedOut, .aborted]

def ofWord? (s : String) : Option State := all.find? (·.word = s)

end State

inductive Event
  | stateChanged (source target : State) (reason : String)
  | remoteStatus (status : RemoteStatus)
  | stackMissing
  | pollFailed (error : String) (consecutive : UInt32)
  | outputsUnavailable (error : String)
deriving DecidableEq

def RemoteStatus.text (s : RemoteStatus) : String :=
  if s.reason = "" then s.status else s.status ++ ": " ++ s.reason

def Event.text : Event → String
  | .stateChanged source target reason => source.name ++ " -> " ++ target.name ++ ": " ++ reason
  | .remoteStatus s => s.text
  | .stackMissing => "stack not found"
  | .pollFailed error consecutive =>
    "poll failed (" ++ toString consecutive.toNat ++ " in a row): " ++ error
  | .outputsUnavailable error => "outputs unavailable: " ++ error

end HeatStack.Lifecycle
