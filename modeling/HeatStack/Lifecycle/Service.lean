import HeatStack.Lifecycle.Status
import HeatStack.Table
import HeatStack.Template.Resolution

/-! # The orchestration service

The calls that the service takes, and what it answers.  A service is known by its answers: to the
submission, to the n-th question for the status, and to the question for the outputs, each with the
time that it takes. -/
set_option autoImplicit false
namespace HeatStack.Lifecycle
open HeatStack.Template

inductive ServiceError
  | auth (message : String)
  | rejected (message : String)
  | network (message : String)
  | notFound (message : String)
  | other (message : String)
deriving DecidableEq

def ServiceError.message : ServiceError → String
  | .auth m => "authentication failed: " ++ m
  | .rejected m => "request rejected: " ++ m
  | .network m => "network error: " ++ m
  | .notFound m => "stack not found: " ++ m
  | .other m => m

structure Request where
  stack : String
  templateName : String
  template : String
  parameters : Resolution
deriving DecidableEq

inductive Call
  | create (request : Request)
  | update (request : Request)
  | delete (stack : String)
  | status (stack : String)
  | outputs (stack : String)
  /-- Authenticates and touches no stack. -/
  | checkConnection
deriving DecidableEq

/-- An answer, or an error, that comes some milliseconds after the call. -/
structure Answer (α : Type) where
  delay : Nat
  result : Except ServiceError α

def Answer.now {α : Type} (result : Except ServiceError α) : Answer α := ⟨0, result⟩

/-- No status means that there is no stack. -/
abbrev StatusResult := Except ServiceError (Option RemoteStatus)

structure Service where
  submission : Answer Unit
  /-- By the number of questions before this one. -/
  status : Nat → Answer (Option RemoteStatus)
  outputs : Answer (Table String)
  connection : Answer Unit

/-- Answers in their order, the last of them again and again; without any there is no stack. -/
def repeatLast (answers : List StatusResult) (n : Nat) : StatusResult :=
  answers.getD n (answers.getLastD (.ok none))

end HeatStack.Lifecycle
