import HeatStack.Files.FilePath

/-! # Disks

A disk is known by what can be asked of it, in whatever monad the answers come.  Built on that are
the reading of texts, the making of nested directories and the safe replacement of a file: its new
content is written beside it under a temporary name and moved into place in one step. -/
set_option autoImplicit false
namespace HeatStack.Files

inductive Fault
  | missing
  | notDirectory
  | isDirectory
  | alreadyThere
  | busy
  | nameTooLong
  | nulInName
  | notText
  /-- Any other reason, in the words of the system. -/
  | other (message : String)
deriving DecidableEq

def Fault.message : Fault → String
  | .missing => "No such file or directory (os error 2)"
  | .notDirectory => "Not a directory (os error 20)"
  | .isDirectory => "Is a directory (os error 21)"
  | .alreadyThere => "File exists (os error 17)"
  | .busy => "Device or resource busy (os error 16)"
  | .nameTooLong => "File name too long (os error 36)"
  | .nulInName => "file name contained an unexpected NUL byte"
  | .notText => "stream did not contain valid UTF-8"
  | .other message => message

abbrev Bytes := List UInt8

def decode (content : Bytes) : Except Fault String :=
  match String.fromUTF8? ⟨content.toArray⟩ with
  | some text => .ok text
  | none => .error .notText

structure Disk (m : Type → Type) where
  read : FilePath → m (Except Fault Bytes)
  /-- Whether there is a file or directory that can be reached. -/
  holds : FilePath → m Bool
  isDirectory : FilePath → m Bool
  makeDirectory : FilePath → m (Except Fault Unit)
  /-- Makes a file, or gives it this content alone. -/
  write : FilePath → Bytes → m (Except Fault Unit)
  /-- Moves a file; one that has the new name already gives way. -/
  rename : FilePath → FilePath → m (Except Fault Unit)

namespace Disk
variable {m : Type → Type} [Monad m]

def readText (d : Disk m) (p : FilePath) : m (Except Fault String) := do
  return (← d.read p).bind decode

/-- Makes the first of these paths a directory, each path lying in the next one. -/
def makeLineage (d : Disk m) : List FilePath → m (Except Fault Unit)
  | [] => return .ok ()
  | p :: above => do
    match ← d.makeDirectory p with
    | .ok () => return .ok ()
    | .error .missing =>
      match ← d.makeLineage above with
      | .error fault => return .error fault
      | .ok () => unlessDirectory p (← d.makeDirectory p)
    | .error fault => unlessDirectory p (.error fault)
where
  /-- That a directory is there already is no fault. -/
  unlessDirectory (p : FilePath) (result : Except Fault Unit) : m (Except Fault Unit) := do
    match result with
    | .ok () => return .ok ()
    | .error fault => return if ← d.isDirectory p then .ok () else .error fault

def makeDirectories (d : Disk m) (p : FilePath) : m (Except Fault Unit) := d.makeLineage p.lineage

abbrev Refusal := FilePath × Fault

def makeParent (d : Disk m) (p : FilePath) : m (Except Refusal Unit) := do
  match p.parent? with
  | none => return .ok ()
  | some above => return (← d.makeDirectories above).mapError fun fault => (above, fault)

/-- Where the new content of a file is written first. -/
def temporary (p : FilePath) : FilePath := p.withExtension "json.tmp"

/-- Puts the content of a file in place in one step, in directories that are made as needed.  If
the last step fails, the temporary file stays. -/
def replace (d : Disk m) (p : FilePath) (content : String) : m (Except Refusal Unit) := do
  match ← d.makeParent p with
  | .error refusal => return .error refusal
  | .ok () =>
    match ← d.write (temporary p) content.toUTF8.toList with
    | .error fault => return .error (temporary p, fault)
    | .ok () => return (← d.rename (temporary p) p).mapError fun fault => (p, fault)

end Disk
end HeatStack.Files
