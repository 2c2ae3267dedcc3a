import HeatStack.Config
import HeatStack.Files.Disk
import HeatStack.Lifecycle.Script
import HeatStack.Template.Document

/-! # What commands read

Templates, configurations and scripts, each in a file of its own. -/
set_option autoImplicit false
namespace HeatStack.CommandLine
open HeatStack.Files HeatStack.Lifecycle HeatStack.Template

inductive ScriptError
  | unreadable (path : FilePath) (fault : Fault)
  | malformed (path : FilePath)
deriving DecidableEq

def ScriptError.message : ScriptError → String
  | .unreadable p fault => "cannot read " ++ p.text ++ ": " ++ fault.message
  | .malformed p => p.text ++ ": invalid script: malformed"

variable {m : Type → Type} [Monad m]

/-- The name of the template in a file: that of the file, if the path ends in a name. -/
def templateName (p : FilePath) : String := p.name?.getD p.text

def readTemplate (d : Disk m) (p : FilePath) : m (Except CompileError Bundle) := do
  match ← d.readText p with
  | .error fault => return .error (.unreadable p.text fault.message)
  | .ok source => return compile (templateName p) source

def readConfig (d : Disk m) (p : FilePath) : m (Except ConfigError Config) := do
  match ← d.readText p with
  | .error fault => return .error (.unreadable p.text fault.message)
  | .ok text => return (Config.parse text).mapError (.invalid p.text)

def readScript (d : Disk m) (p : FilePath) : m (Except ScriptError Script) := do
  match ← d.readText p with
  | .error fault => return .error (.unreadable p fault)
  | .ok text => return (Script.parse? text).elim (.error (.malformed p)) .ok

end HeatStack.CommandLine
