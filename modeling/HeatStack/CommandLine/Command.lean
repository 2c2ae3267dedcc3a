import HeatStack.CommandLine.Argument
import HeatStack.Files.FilePath
import HeatStack.Lifecycle.Status

/-! # Commands

What can be asked for on a command line: to compile a template, to validate values against it, to
look at a connection profile, to seal a secret, to rehearse a run, and to print the schema of a
record. -/
set_option autoImplicit false
namespace HeatStack.CommandLine
open HeatStack.Files HeatStack.Lifecycle

inductive SchemaKind
  | bundle
  | profile
  | config
deriving DecidableEq

namespace SchemaKind

def word : SchemaKind → String
  | .bundle => "bundle"
  | .profile => "profile"
  | .config => "config"

def all : List SchemaKind := [.bundle, .profile, .config]

def ofWord? (s : String) : Option SchemaKind := all.find? (·.word = s)

end SchemaKind

structure Rehearsal where
  template : FilePath
  script : FilePath
  action : Action
  /-- Without a name the stack is called after its template. -/
  stack : Option String
  assignments : List String
  config : FilePath
  interval : Option UInt64
  timeout : Option Int64
  /-- Print the trail at the end. -/
  printTrail : Bool
  /-- Print each record as it is made. -/
  verbose : Bool
deriving DecidableEq

inductive Command
  | compile (template : FilePath) (asJson : Bool) (output : Option FilePath)
  | validate (template : FilePath) (assignments : List String)
  | profile (config : FilePath) (script : Option FilePath)
  | sealSecret
  | rehearse (rehearsal : Rehearsal)
  | schema (kind : SchemaKind)
deriving DecidableEq

/-! ## Their arguments -/

def compileForm : Form where
  options := [.mandatory "file" (some 'f') .path, .flag "json" none,
    .optional "output" (some 'o') .path, .help]
  operand := none

def validateForm : Form where
  options := [.mandatory "file" (some 'f') .path, .collected "param" (some 'p') .text, .help]
  operand := none

def profileForm : Form where
  options := [.optional "config" (some 'c') .path, .optional "script" none .path, .help]
  operand := none

def sealForm : Form := ⟨[.help], none⟩

def rehearseForm : Form where
  options := [.mandatory "file" (some 'f') .path, .mandatory "script" (some 's') .path,
    .optional "action" (some 'a') (.word (Action.all.map Action.word)), .optional "stack" none .text,
    .collected "param" (some 'p') .text, .optional "config" (some 'c') .path,
    .optional "interval" none .positive, .optional "timeout" none .integer,
    .flag "trail" none, .flag "verbose" (some 'v'), .help]
  operand := none

def schemaForm : Form where
  options := [.help]
  operand := some (.optional "kind" none (.word (SchemaKind.all.map SchemaKind.word)))

/-! ## What was given -/

namespace Given

def path? (g : Given) (name : String) : Option FilePath := (g.lookup name).map FilePath.mk

def path (g : Given) (name : String) : FilePath := (g.path? name).getD ⟨""⟩

def has (g : Given) (name : String) : Bool := (g.lookup name).isSome

def all (g : Given) (name : String) : List String := (g.filter fun e => e.1 == name).map Prod.snd

end Given

def defaultConfig : FilePath := ⟨"hotstack.toml"⟩

def Rehearsal.ofGiven (g : Given) : Rehearsal where
  template := g.path "file"
  script := g.path "script"
  action := ((g.lookup "action").bind Action.ofWord?).getD .create
  stack := g.lookup "stack"
  assignments := g.all "param"
  config := (g.path? "config").getD defaultConfig
  interval := (g.lookup "interval").bind positive?
  timeout := (g.lookup "timeout").bind signed?
  printTrail := g.has "trail"
  verbose := g.has "verbose"

/-! ## Command lines -/

/-- The commands by name, each with its arguments and what they make of it. -/
def commands : List (String × Form × (Given → Command)) := [
  ("compile", compileForm, fun g => .compile (g.path "file") (g.has "json") (g.path? "output")),
  ("validate", validateForm, fun g => .validate (g.path "file") (g.all "param")),
  ("profile", profileForm, fun g =>
    .profile ((g.path? "config").getD defaultConfig) (g.path? "script")),
  ("seal", sealForm, fun _ => .sealSecret),
  ("rehearse", rehearseForm, fun g => .rehearse (.ofGiven g)),
  ("schema", schemaForm, fun g => .schema (((g.lookup "kind").bind SchemaKind.ofWord?).getD .bundle))]

def leadingForm : Form where
  options := [.help, ⟨"version", some 'V', .stop .versionRequested, false, false⟩]
  operand := none

/-- Whether a word can follow as a command; `help` is one that names another. -/
def isCommandName (word : String) : Bool := word == "help" || (commands.lookup word).isSome

def readCommand (word : String) (rest : List String) : Except UsageError Command :=
  match commands.lookup word with
  | some (form, make) => (form.read rest).map make
  | none =>
    if word ≠ "help" then .error .unknownCommand
    else match rest with
      | [] => .error .helpRequested
      | [named] => if isCommandName named then .error .helpRequested else .error .unknownCommand
      | _ => .error .unknownCommand

def isOption (word : String) : Bool :=
  match word.toList with
  | '-' :: _ :: _ => true
  | _ => false

/-- The command in the words of a command line.  An option in its place ends it, but for a lone
`--`, after which nothing is taken for a command. -/
def Command.read : List String → Except UsageError Command
  | [] => .error .noCommand
  | word :: rest =>
    if !isOption word then readCommand word rest
    else match Progress.start.takeWord leadingForm word, rest with
      | .error e, _ => .error e
      | .ok _, [] => .error .noCommand
      | .ok _, word :: _ =>
        .error (if isCommandName word then .unknownArgument else .unknownCommand)

end HeatStack.CommandLine
