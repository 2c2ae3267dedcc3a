import HeatStack.Text.Ascii
import HeatStack.Text.Blank

/-! # Actions and statuses

What is asked of the orchestration service, what it reports of a stack, and what a report means for
the action in hand. -/
set_option autoImplicit false
namespace HeatStack.Lifecycle
open HeatStack.Text

inductive Action
  | create
  | update
  | delete
deriving DecidableEq

namespace Action

def name : Action → String
  | .create => "CREATE"
  | .update => "UPDATE"
  | .delete => "DELETE"

def word : Action → String
  | .create => "create"
  | .update => "update"
  | .delete => "delete"

def all : List Action := [.create, .update, .delete]

def ofWord? (s : String) : Option Action := all.find? (·.word = s)

end Action

/-- The status of a stack in the words of the service. -/
structure RemoteStatus where
  status : String
  reason : String
deriving DecidableEq

inductive Observation
  | pending
  | complete
  | failed
  | rolledBack
deriving DecidableEq

/-- A status without the blanks around it, in capital letters. -/
def normalStatus (status : String) : List Char := (trimChars status.toList).map upperChar

/-- What a status means for an action, when no stack gives no status.  The end of a rollback, a
failure and the completion of this very action are final; everything else, the completion of
another action too, is still under way. -/
def classify (action : Action) : Option RemoteStatus → Observation
  | none => if action = .delete then .complete else .failed
  | some s =>
    let u := normalStatus s.status
    if "ROLLBACK_COMPLETE".toList.isSuffixOf u then .rolledBack
    else if "_FAILED".toList.isSuffixOf u then .failed
    else if u = action.name.toList ++ "_COMPLETE".toList then .complete
    else .pending

end HeatStack.Lifecycle
