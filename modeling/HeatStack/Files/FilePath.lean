import HeatStack.Text.Ascii

/-! # Paths

A path is a text of steps with slashes between them.  What it is called and where it lies is read
off the text alone, without a look at any file.  Empty steps and steps that stay where they are do
not count at the end of a path. -/
set_option autoImplicit false
namespace HeatStack.Files
open HeatStack.Text

structure FilePath where
  text : String
deriving DecidableEq

namespace FilePath

abbrev Step := List Char

def isIdle (s : Step) : Bool := s == [] || s == ['.']

def isRooted (p : FilePath) : Bool := p.text.toList.head? == some '/'

def backwards (p : FilePath) : List Step := (splitOn '/' p.text.toList).reverse

/-- The steps of the path and of the paths above it, each without idle steps at its end.  The first
step of a path stays, whatever it is. -/
def prefixes : List Step → List (List Step)
  | [] => []
  | [first] => [[first]]
  | s :: rest => if isIdle s then prefixes rest else (s :: rest) :: prefixes rest

/-- The path of steps that are given from the last to the first. -/
def ofBackwards (rooted : Bool) (steps : List Step) : FilePath :=
  ⟨if rooted && steps == [[]] then "/" else String.ofList (['/'].intercalate steps.reverse)⟩

def lineage (p : FilePath) : List FilePath :=
  ((prefixes p.backwards).map (ofBackwards p.isRooted)).filter fun q => q.text != ""

/-- The path above this one, unless its text is empty. -/
def parent? (p : FilePath) : Option FilePath := (p.lineage.drop 1).head?

/-- The last step and the steps before it, last step first, where the last step is a name. -/
def split? (p : FilePath) : Option (Step × List Step) :=
  match (prefixes p.backwards).head? with
  | some (name :: above) => if isIdle name || name == ['.', '.'] then none else some (name, above)
  | _ => none

def name? (p : FilePath) : Option String := p.split?.map fun s => String.ofList s.1

/-- A name up to its last dot; a dot at the start ends nothing. -/
def stemOf (name : Step) : Step :=
  match (name.reverse.dropWhile (· != '.')).drop 1 with
  | [] => name
  | kept => kept.reverse

def stem? (p : FilePath) : Option String := p.split?.map fun s => String.ofList (stemOf s.1)

def withExtension (p : FilePath) (extension : String) : FilePath :=
  match p.split? with
  | none => p
  | some (name, above) =>
    ofBackwards p.isRooted ((stemOf name ++ '.' :: extension.toList) :: above)

end FilePath
end HeatStack.Files
