import HeatStack.Files.Disk

/-! # Records on disk

A record is a text in a file of its own.  A file that is not there holds no record, which is no
error. -/
set_option autoImplicit false
namespace HeatStack.Files

inductive RecordError
  | inaccessible (path : FilePath) (fault : Fault)
  | malformed (path : FilePath)
deriving DecidableEq

def RecordError.message : RecordError → String
  | .inaccessible p fault => "cannot access " ++ p.text ++ ": " ++ fault.message
  | .malformed p => "invalid record " ++ p.text ++ ": malformed"

namespace Disk
variable {m : Type → Type} [Monad m]

def saveRecord (d : Disk m) (p : FilePath) (text : String) : m (Except RecordError Unit) := do
  return (← d.replace p text).mapError fun refusal => .inaccessible refusal.1 refusal.2

def recordOf {α : Type} (ofText? : String → Option α) (p : FilePath) (text : Except Fault String) :
    Except RecordError α :=
  match text with
  | .error fault => .error (.inaccessible p fault)
  | .ok text => (ofText? text).elim (.error (.malformed p)) .ok

def loadRecord {α : Type} (d : Disk m) (ofText? : String → Option α) (p : FilePath) :
    m (Except RecordError (Option α)) := do
  if ← d.holds p then return (recordOf ofText? p (← d.readText p)).map some
  else return .ok none

end Disk
end HeatStack.Files
