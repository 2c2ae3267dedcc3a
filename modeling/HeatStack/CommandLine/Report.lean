import HeatStack.Lifecycle.Run
import HeatStack.Template.Record

/-! # What commands print -/
set_option autoImplicit false
namespace HeatStack.CommandLine
open HeatStack.Connection HeatStack.Lifecycle HeatStack.Template

/-- What a command prints, each text with a line's end after it, and why it failed, if it did. -/
structure Report where
  output : List String
  errors : List String
  failure : Option String
deriving DecidableEq

namespace Report

def printed (output : List String) : Report := ⟨output, [], none⟩

def failed (message : String) : Report := ⟨[], [], some message⟩

def after (output : List String) (r : Report) : Report := { r with output := output ++ r.output }

end Report

/-! ## Templates -/

def parameterLines (p : Parameter) : List String :=
  let default := (p.default.map fun d => " = " ++ p.displayed d).getD ""
  ("  param " ++ p.name ++ ": " ++ p.type.name ++ default)
    :: p.constraints.map fun c => "    " ++ c.kind.name ++ ": " ++ c.description

def outputLine (o : Output) : String :=
  "  output " ++ o.name ++ (o.description.map fun d => ": " ++ d).getD ""

def bundleLines (b : Bundle) : List String :=
  (b.name ++ " (" ++ toString b.parameters.size ++ " parameters, " ++ toString b.outputs.size
      ++ " outputs)")
    :: ("  fingerprint: " ++ b.fingerprint)
    :: (b.tags.map fun tags => "  tags: " ++ tags).toList
    ++ b.parameters.values.flatMap parameterLines
    ++ b.outputs.values.map outputLine

def resolutionLines (b : Bundle) (r : Resolution) : List String :=
  ("OK: " ++ b.name ++ " (" ++ toString r.size ++ " parameters)")
    :: r.masked.entries.map fun e => "  " ++ e.1 ++ " = " ++ e.2

/-! ## Profiles -/

/-- The profile as it may be shown; a domain only where it counts. -/
def profileLines (p : Profile) : List String :=
  ["project:  " ++ p.project, "url:      " ++ p.url]
    ++ (if p.v3 then ["domain:   " ++ p.domain] else [])
    ++ ["user:     " ++ p.user, "password: " ++ p.password.display]
    ++ (if p.region = "" then [] else ["region:   " ++ p.region])

/-! ## Runs -/

def headline (o : Options) (b : Bundle) : String :=
  "Rehearsing " ++ o.action.name ++ " " ++ o.stack ++ " (" ++ b.name ++ ")"

def progressLine (r : Record) : String := "  [" ++ r.time.timeOfDay ++ "] " ++ r.event.text

def outputValueLine (e : String × Option String) : String :=
  match e.2 with
  | some value => "  " ++ e.1 ++ " = " ++ value
  | none => "  " ++ e.1 ++ " (missing)"

def outcomeLines (o : Outcome) : List String :=
  (o.status.name ++ ": " ++ o.reason ++ " (" ++ o.state.name ++ ")")
    :: o.outputs.entries.map outputValueLine

def outcomeFailure? (o : Outcome) : Option String :=
  if o.status = .success then none else some (o.status.name ++ ": " ++ o.reason)

end HeatStack.CommandLine
