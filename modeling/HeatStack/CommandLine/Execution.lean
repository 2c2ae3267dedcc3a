import HeatStack.CommandLine.Assignment
import HeatStack.CommandLine.Command
import HeatStack.CommandLine.Report
import HeatStack.CommandLine.Schema
import HeatStack.CommandLine.Source
import HeatStack.Connection.Check
import HeatStack.Files.Record

/-! # Carrying out commands

A command asks its host for files, for a line of input and for a nonce, and makes a report.  The
first thing that goes wrong is the failure that it reports. -/
set_option autoImplicit false
namespace HeatStack.CommandLine
open HeatStack.Connection HeatStack.Files HeatStack.Lifecycle HeatStack.Template HeatStack.Time

structure Host (m : Type → Type) where
  disk : Disk m
  /-- The value of the variable that holds the passphrase. -/
  passphrase : Option String
  /-- What can be read as input, at least to the end of its first line. -/
  input : m Bytes
  nonce : m Bytes
  /-- The time of day, so many milliseconds after the start. -/
  clock : Nat → Instant

variable {m : Type → Type} [Monad m]

def orMessage {ε α : Type} (message : ε → String) (result : Except ε α) : ExceptT String m α :=
  ExceptT.mk (pure (result.mapError message))

def askOrMessage {ε α : Type} (message : ε → String) (ask : m (Except ε α)) : ExceptT String m α := do
  orMessage message (← ask)

def reportOf (make : ExceptT String m Report) : m Report := do
  match ← make.run with
  | .ok report => return report
  | .error message => return .failed message

namespace Host

def sealingKey (h : Host m) : ExceptT String m SealingKey :=
  orMessage SecretError.message (SealingKey.ofVariable h.passphrase)

def template (h : Host m) (p : FilePath) : ExceptT String m Bundle :=
  askOrMessage CompileError.message (readTemplate h.disk p)

def profileOf (h : Host m) (p : FilePath) (key : SealingKey) : ExceptT String m (Config × Profile) := do
  let config ← askOrMessage ConfigError.message (readConfig h.disk p)
  let profile ← orMessage ConfigError.message (config.openProfile key)
  return (config, profile)

def script (h : Host m) (p : FilePath) : ExceptT String m Script :=
  askOrMessage ScriptError.message (readScript h.disk p)

/-! ## Commands -/

/-- Compiles a template and saves its record if asked to.  What is printed is masked, what is saved
is not. -/
def compile (h : Host m) (template : FilePath) (asJson : Bool) (output : Option FilePath) :
    ExceptT String m Report := do
  let bundle ← h.template template
  match output with
  | some p => askOrMessage RecordError.message (h.disk.saveRecord p bundle.text)
  | none => pure ()
  return .printed (if asJson then [bundle.masked.text] else bundleLines bundle)

def resolved (h : Host m) (template : FilePath) (assignments : List String) :
    ExceptT String m (Bundle × Resolution) := do
  let bundle ← h.template template
  let supplied ← orMessage AssignmentError.message (parseAssignments assignments)
  let resolution ← orMessage InputError.message (resolve bundle supplied)
  return (bundle, resolution)

def validate (h : Host m) (template : FilePath) (assignments : List String) :
    ExceptT String m Report := do
  let (bundle, resolution) ← h.resolved template assignments
  return .printed (resolutionLines bundle resolution)

/-- Checks a profile that has been shown, and tries it out if there is a script. -/
def checkProfile (h : Host m) (p : Profile) (script : Option FilePath) : ExceptT String m Report := do
  orMessage InputError.message p.check
  match script with
  | none => return .printed ["Profile OK"]
  | some path =>
    let script ← h.script path
    orMessage ConnectionError.message (p.tryOut script.service).2
    return .printed ["Connection OK"]

def profile (h : Host m) (config : FilePath) (script : Option FilePath) : ExceptT String m Report := do
  let key ← h.sealingKey
  let (_, p) ← h.profileOf config key
  let report ← match p.missingFields with
    | [] => (reportOf (h.checkProfile p script) : m Report)
    | missing => pure ⟨[], missing.map fun f => "  ERROR: " ++ f.name ++ " must be filled in",
        some (toString missing.length ++ " missing field(s)")⟩
  return report.after (profileLines p)

def firstLine (input : Bytes) : Bytes :=
  let line := input.takeWhile (· != 10)
  if line.length < input.length then line ++ [10] else line

def withoutEnd (line : String) : String :=
  String.ofList (line.toList.reverse.dropWhile fun c => c == '\r' || c == '\n').reverse

def sealSecret (h : Host m) : ExceptT String m Report := do
  let key ← h.sealingKey
  let line ← orMessage (fun fault => "cannot read secret from stdin: " ++ fault.message)
    (decode (firstLine (← h.input)))
  let secret := withoutEnd line
  if secret = "" then throw "no secret on stdin"
  return .printed [sealWith (← h.nonce) ⟨secret⟩ key]

def stackName (template : FilePath) : String := template.stem?.getD "stack"

def runOptions (c : Config) (r : Rehearsal) : Options :=
  let o := c.options (r.stack.getD (stackName r.template)) r.action
  let o := (r.interval.map o.withIntervalSeconds).getD o
  (r.timeout.map o.withTimeoutSeconds).getD o

def runReport (r : Rehearsal) (result : Except InputError (Option Outcome)) : Report :=
  match result with
  | .error e => .failed e.message
  | .ok none => .failed "the run has no end"
  | .ok (some o) =>
    let progress := if r.verbose then o.streamed.map progressLine else []
    let trail := if r.printTrail then o.trail.records.map Record.line else []
    ⟨progress ++ outcomeLines o ++ trail, [], outcomeFailure? o⟩

/-- Runs an action against the service of a script.  The clock of the run does not wait for the
time of day. -/
def rehearse (h : Host m) (r : Rehearsal) : ExceptT String m Report := do
  let key ← h.sealingKey
  let (bundle, resolution) ← h.resolved r.template r.assignments
  let (config, profile) ← h.profileOf r.config key
  let script ← h.script r.script
  let options := runOptions config r
  let setting : Setting :=
    ⟨script.service, bundle, profile, resolution, options, .never, h.clock, r.verbose⟩
  let report := runReport r (setting.run (setting.enough script.statuses.length))
  return report.after [headline options bundle]

def schema : SchemaKind → Json.Value
  | .bundle => Schema.bundle
  | .profile => Schema.profile
  | .config => Schema.config

def carryOut (h : Host m) (c : Command) : m Report :=
  reportOf (match c with
    | .compile template asJson output => h.compile template asJson output
    | .validate template assignments => h.validate template assignments
    | .profile config script => h.profile config script
    | .sealSecret => h.sealSecret
    | .rehearse r => h.rehearse r
    | .schema kind => pure (.printed [(schema kind).indented]))

end Host
end HeatStack.CommandLine
