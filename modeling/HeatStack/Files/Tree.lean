import HeatStack.Files.Disk

/-! # Trees of files

Files and directories in memory.  A place is told by the names that lead to it from the root; a path
is followed from the working directory, step by step, and each place on the way has to be a
directory.  `find?_put` and `find?_remove` say what a change leaves. -/
set_option autoImplicit false
namespace HeatStack.Files
open HeatStack.Text

/-- The names that lead to a file or directory from the root. -/
abbrev Place := List (List Char)

inductive Node
  | directory
  | file (content : Bytes)
deriving DecidableEq

/-- What is where; the root is always a directory. -/
structure Tree where
  entries : List (Place × Node)
  workingDirectory : Place

namespace Tree

/-- The empty directory that is worked in, and those above it. -/
def empty (workingDirectory : Place) : Tree :=
  ⟨(List.range (workingDirectory.length + 1)).map fun n => (workingDirectory.take n, .directory),
    workingDirectory⟩

def find? (t : Tree) (place : Place) : Option Node :=
  if place = [] then some .directory else t.entries.lookup place

def remove (t : Tree) (place : Place) : Tree :=
  { t with entries := t.entries.filter fun e => e.1 != place }

def put (t : Tree) (place : Place) (node : Node) : Tree :=
  { t with entries := (place, node) :: (t.remove place).entries }

theorem lookup_filter_ne (place other : Place) (entries : List (Place × Node)) :
    (entries.filter fun e => e.1 != place).lookup other
      = if other = place then none else entries.lookup other := by
  induction entries with
  | nil => simp
  | cons e rest ih =>
    obtain ⟨q, node⟩ := e
    by_cases hq : q = place
    · subst hq
      by_cases ho : other = q
      · simpa [ho] using ih
      · simpa [List.lookup_cons, ho, beq_false_of_ne ho] using ih
    · by_cases ho : other = q
      · subst ho
        simp [hq]
      · simpa [List.lookup_cons, hq, beq_false_of_ne ho] using ih

theorem find?_remove (t : Tree) (place other : Place) (named : other ≠ []) :
    (t.remove place).find? other = if other = place then none else t.find? other := by
  simp [find?, remove, named, lookup_filter_ne]

theorem find?_put (t : Tree) (place other : Place) (node : Node) (named : other ≠ []) :
    (t.put place node).find? other = if other = place then some node else t.find? other := by
  by_cases ho : other = place
  · subst ho
    simp [find?, put, named]
  · simp [find?, put, remove, named, ho, List.lookup_cons, beq_false_of_ne ho, lookup_filter_ne]

/-! ## Following paths -/

/-- No path is longer than this many bytes, and no name longer than `longestName`. -/
def longestPath : Nat := 4095

def longestName : Nat := 255

def isDirectoryAt (t : Tree) (place : Place) : Bool := t.find? place == some .directory

def place? (directory : Place) (name : List Char) : Except Fault Place :=
  if longestName < (String.ofList name).utf8ByteSize then .error .nameTooLong
  else .ok (directory ++ [name])

def step (t : Tree) (here : Place) (s : FilePath.Step) : Except Fault Place :=
  if !t.isDirectoryAt here then .error .notDirectory
  else if s = ['.'] then .ok here
  else if s = ['.', '.'] then .ok here.dropLast
  else do
    let next ← place? here s
    if (t.find? next).isSome then .ok next else .error .missing

def follow (t : Tree) (here : Place) : List FilePath.Step → Except Fault Place
  | [] => .ok here
  | s :: rest => do t.follow (← t.step here s) rest

def stepsOf (p : FilePath) : List FilePath.Step := (splitOn '/' p.text.toList).filter (· != [])

/-- Whether a path ends as only the path of a directory may. -/
def endsOpen (p : FilePath) : Bool := p.text.toList.getLast? == some '/'

def start (t : Tree) (p : FilePath) : Place := if p.isRooted then [] else t.workingDirectory

def checkPath (p : FilePath) : Except Fault Unit :=
  if p.text.toList.contains '\x00' then .error .nulInName
  else if p.text = "" then .error .missing
  else if longestPath < p.text.utf8ByteSize then .error .nameTooLong
  else .ok ()

def reach (t : Tree) (p : FilePath) : Except Fault (Place × Node) := do
  checkPath p
  let place ← t.follow (t.start p) (stepsOf p)
  match t.find? place with
  | none => .error .missing
  | some (.file content) =>
    if endsOpen p then .error .notDirectory else .ok (place, .file content)
  | some .directory => .ok (place, .directory)

/-- The directory that a path leads to with all steps but the last, and the last one, if it is a
name. -/
def reachParent (t : Tree) (p : FilePath) : Except Fault (Place × Option (List Char)) := do
  checkPath p
  let steps := stepsOf p
  let place ← t.follow (t.start p) steps.dropLast
  if !t.isDirectoryAt place then .error .notDirectory
  else .ok (place, steps.getLast?.filter fun s => s != ['.'] && s != ['.', '.'])

/-! ## The tree as a disk -/

def read (t : Tree) (p : FilePath) : Except Fault Bytes := do
  match ← t.reach p with
  | (_, .file content) => .ok content
  | (_, .directory) => .error .isDirectory

def holds (t : Tree) (p : FilePath) : Bool := (t.reach p).toOption.isSome

def isDirectory (t : Tree) (p : FilePath) : Bool :=
  match t.reach p with
  | .ok (_, node) => node == .directory
  | .error _ => false

def makeDirectory (t : Tree) (p : FilePath) : Except Fault Tree := do
  match ← t.reachParent p with
  | (_, none) => .error .alreadyThere
  | (directory, some name) =>
    let place ← place? directory name
    if (t.find? place).isSome then .error .alreadyThere else .ok (t.put place .directory)

def write (t : Tree) (p : FilePath) (content : Bytes) : Except Fault Tree := do
  match ← t.reachParent p with
  | (_, none) => .error .isDirectory
  | (directory, some name) =>
    if endsOpen p then .error .isDirectory
    else
      let place ← place? directory name
      if t.isDirectoryAt place then .error .isDirectory else .ok (t.put place (.file content))

def rename (t : Tree) (source target : FilePath) : Except Fault Tree := do
  let (sourceDirectory, sourceName) ← t.reachParent source
  let (targetDirectory, targetName) ← t.reachParent target
  match sourceName, targetName with
  | some sourceName, some targetName =>
    let sourcePlace ← place? sourceDirectory sourceName
    let node ← ((t.find? sourcePlace).elim (.error .missing) .ok : Except Fault Node)
    let targetPlace ← place? targetDirectory targetName
    if endsOpen source || endsOpen target then .error .notDirectory
    else if t.isDirectoryAt targetPlace then .error .isDirectory
    else .ok ((t.remove sourcePlace).put targetPlace node)
  | _, _ => .error .busy

def change (f : Tree → Except Fault Tree) : StateM Tree (Except Fault Unit) := fun t =>
  match f t with
  | .ok changed => (.ok (), changed)
  | .error fault => (.error fault, t)

def disk : Disk (StateM Tree) where
  read p t := (t.read p, t)
  holds p t := (t.holds p, t)
  isDirectory p t := (t.isDirectory p, t)
  makeDirectory p := change fun t => t.makeDirectory p
  write p content := change fun t => t.write p content
  rename source target := change fun t => t.rename source target

/-! ## Listing -/

def below? (t : Tree) (place : Place) : Option Place :=
  if t.workingDirectory.isPrefixOf place && place != t.workingDirectory then
    some (place.drop t.workingDirectory.length)
  else none

/-- All paths below the working directory in order, those of directories with a slash at the end,
each with what is there. -/
def listing (t : Tree) : List (String × Node) :=
  let named := t.entries.filterMap fun (place, node) => (t.below? place).map fun steps =>
    let text := String.ofList (['/'].intercalate steps)
    (if node = .directory then text ++ "/" else text, node)
  named.mergeSort fun a b => a.1 ≤ b.1

end Tree
end HeatStack.Files
