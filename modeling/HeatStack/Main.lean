import HeatStack.CommandLine.Execution
import Std.Time.DateTime.Timestamp

/-! # The program

Reads the command line, carries the command out on the files of this machine, prints its report and
tells by its exit status how it went. -/
set_option autoImplicit false
namespace HeatStack
open HeatStack.CommandLine HeatStack.Files HeatStack.Time

/-! ## Files of this machine -/

/-- The number of an error, which some calls negate. -/
def errorNumber (code : UInt32) : UInt32 := if code < 0x80000000 then code else 0 - code

def systemFault (code : UInt32) (details : String) : Fault :=
  .other (details ++ " (os error " ++ toString (errorNumber code) ++ ")")

def faultOf : IO.Error → Fault
  | .noFileOrDirectory .. => .missing
  | .alreadyExists .. => .alreadyThere
  | .resourceBusy .. => .busy
  | .inappropriateType _ code details =>
    if errorNumber code = 20 then .notDirectory
    else if errorNumber code = 21 then .isDirectory
    else systemFault code details
  | .permissionDenied _ code details => systemFault code details
  | .resourceExhausted _ code details => systemFault code details
  | .invalidArgument _ code details => systemFault code details
  | .otherError code details => systemFault code details
  | e => .other (toString e)

def tryOut {α : Type} (act : IO α) : IO (Except Fault α) := do
  try return .ok (← act)
  catch e => return .error (faultOf e)

def isDirectoryHere (p : FilePath) : IO Bool := do
  let here ← IO.currentDir
  (here / p.text).isDir

def holdsHere (p : FilePath) : IO Bool := do
  let here ← IO.currentDir
  (here / p.text).pathExists

def systemDisk : Disk IO where
  read p := tryOut do
    if ← isDirectoryHere p then throw (.inappropriateType none 21 "Is a directory")
    return (← IO.FS.readBinFile p.text).toList
  holds := holdsHere
  isDirectory := isDirectoryHere
  makeDirectory p := tryOut (IO.FS.createDir p.text)
  write p content := tryOut (IO.FS.writeBinFile p.text ⟨content.toArray⟩)
  rename source target := tryOut (IO.FS.rename source.text target.text)

partial def readLine (input : IO.FS.Stream) (done : Bytes) : IO Bytes := do
  let block := (← input.read 4096).toList
  let done := done ++ block
  if block.isEmpty || block.contains 10 then return done else readLine input done

/-- This machine as a host.  The clock of a run starts now. -/
def systemHost : IO (Host IO) := do
  let start := (← Std.Time.Timestamp.now).toNanosecondsSinceUnixEpoch.val.toNat
  return {
    disk := systemDisk
    passphrase := ← IO.getEnv Connection.passphraseVariable
    input := do readLine (← IO.getStdin) []
    nonce := do return (← IO.getRandomBytes (.ofNat Connection.nonceLength)).toList
    clock := fun ms => .afterEpoch (start + ms * 1000000) }

/-! ## Usage -/

def usageLines : List String :=
  "Usage: hotstack <COMMAND>" :: "" :: "Commands:" :: commands.map fun c => "  " ++ c.1

/-- What is printed instead of carrying a command out, and the exit status. -/
def refuse (e : UsageError) : IO UInt32 := do
  match e with
  | .helpRequested => usageLines.forM IO.println; return 0
  | .versionRequested => IO.println "hotstack 0.3.0"; return 0
  | .noCommand => usageLines.forM IO.eprintln; return 2
  | e => IO.eprintln ("error: " ++ e.message); return 2

end HeatStack

open HeatStack HeatStack.CommandLine in
def main (args : List String) : IO UInt32 := do
  match Command.read args with
  | .error e => refuse e
  | .ok command =>
    let report ← (← systemHost).carryOut command
    report.output.forM IO.println
    report.errors.forM IO.eprintln
    match report.failure with
    | none => return 0
    | some message =>
      IO.eprintln ("error: " ++ message)
      return 1
