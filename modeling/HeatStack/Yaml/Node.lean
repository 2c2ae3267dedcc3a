import HeatStack.Yaml.Lexer

/-! # YAML documents

A document is a tree of scalars, sequences and mappings, with aliases that refer to anchors.
`Node.read?` builds the tree from tokens.  `Document.ofNode?` then binds every alias to the
anchor read last before it, and counts what a document consists of, which later limits how often
aliases may be followed. -/
set_option autoImplicit false
namespace HeatStack.Yaml

structure Mark where
  anchor : Option String
  tag : Option String
deriving DecidableEq

def Mark.none : Mark := ⟨.none, .none⟩

/-- A node whose aliases refer to anchors by values of type `ref`. -/
inductive Node (ref : Type)
  | alias (target : ref)
  | scalar (mark : Mark) (plain : Bool) (text : String)
  | sequence (mark : Mark) (items : List (Node ref))
  | mapping (mark : Mark) (entries : List (Node ref × Node ref))

def Node.absent {ref : Type} : Node ref := .scalar .none true ""

/-! ## Directives -/

abbrev Handles := List (String × String)

def defaultHandles : Handles := [("!", "!"), ("!!", "tag:yaml.org,2002:")]

/-- Directives before a document: at most one version, which has to be 1.1 or 1.2, and each handle
at most once. -/
def directives? : (versionSeen : Bool) → Handles → List Token → Option (Handles × List Token)
  | seen, hs, .versionDirective major minor :: ts =>
    if seen ∨ major ≠ 1 ∨ (minor ≠ 1 ∧ minor ≠ 2) then none else directives? true hs ts
  | seen, hs, .tagDirective handle start :: ts =>
    if (hs.lookup handle).isSome then none else directives? seen (hs ++ [(handle, start)]) ts
  | _, hs, ts => some (hs ++ defaultHandles, ts)

/-! ## Nodes -/

namespace Node

/-- The full tag; a suffix without a handle is one already. -/
def fullTag? (hs : Handles) (handle suffix : String) : Option String :=
  if handle = "" then some suffix else (hs.lookup handle).map (· ++ suffix)

/-- An anchor and a tag, each at most once and in any order. -/
def mark? (hs : Handles) : List Token → Option (Mark × List Token)
  | .anchor a :: .tag h s :: ts => (fullTag? hs h s).map fun t => (⟨some a, some t⟩, ts)
  | .tag h s :: .anchor a :: ts => (fullTag? hs h s).map fun t => (⟨some a, some t⟩, ts)
  | .anchor a :: ts => some (⟨some a, .none⟩, ts)
  | .tag h s :: ts => (fullTag? hs h s).map fun t => (⟨.none, some t⟩, ts)
  | ts => some (.none, ts)

def endsBlockItem : List Token → Bool
  | .blockEntry :: _ => true
  | .blockEnd :: _ => true
  | _ => false

def endsBlockPart : List Token → Bool
  | .key :: _ => true
  | .value :: _ => true
  | .blockEnd :: _ => true
  | _ => false

def endsLooseItem (ts : List Token) : Bool := endsBlockItem ts || endsBlockPart ts

def endsFlowPair : List Token → Bool
  | .value :: _ => true
  | .flowEntry :: _ => true
  | .flowSequenceEnd :: _ => true
  | _ => false

def endsFlowKey : List Token → Bool
  | .value :: _ => true
  | .flowEntry :: _ => true
  | .flowMappingEnd :: _ => true
  | _ => false

def endsFlowItem : List Token → Bool
  | .flowEntry :: _ => true
  | .flowSequenceEnd :: _ => true
  | _ => false

def endsFlowValue : List Token → Bool
  | .flowEntry :: _ => true
  | .flowMappingEnd :: _ => true
  | _ => false

/-- The token after an item and before the next: a comma, which the first item does without. -/
def comma? (first : Bool) : List Token → Option (List Token)
  | .flowEntry :: ts => if first then some (.flowEntry :: ts) else some ts
  | ts => if first then some ts else none

mutual
/-- One node.  `block` admits collections in block style, and `loose` sequences whose dashes are
not indented, as they may stand in a block mapping. -/
def read? (hs : Handles) (block loose : Bool) : (fuel : Nat) → List Token → Option (Node String × List Token)
  | 0, _ => .none
  | _ + 1, .alias n :: ts => some (.alias n, ts)
  | fuel + 1, ts => do
    let (m, ts) ← mark? hs ts
    match ts with
    | .blockEntry :: _ =>
      if loose then (looseItems? hs fuel ts).map fun (vs, ts) => (.sequence m vs, ts)
      else if m = .none then .none
      else some (.scalar m true "", ts)
    | .scalar plain text :: ts => some (.scalar m plain text, ts)
    | .flowSequenceStart :: ts =>
      (flowItems? hs true fuel ts).map fun (vs, ts) => (.sequence m vs, ts)
    | .flowMappingStart :: ts =>
      (flowEntries? hs true fuel ts).map fun (es, ts) => (.mapping m es, ts)
    | .blockSequenceStart :: rest =>
      if block then (blockItems? hs fuel rest).map fun (vs, ts) => (.sequence m vs, ts)
      else if m = .none then .none
      else some (.scalar m true "", ts)
    | .blockMappingStart :: rest =>
      if block then (blockEntries? hs fuel rest).map fun (es, ts) => (.mapping m es, ts)
      else if m = .none then .none
      else some (.scalar m true "", ts)
    | ts => if m = .none then .none else some (.scalar m true "", ts)

def blockItems? (hs : Handles) : (fuel : Nat) → List Token → Option (List (Node String) × List Token)
  | 0, _ => .none
  | fuel + 1, .blockEntry :: ts => do
    let (v, ts) ← if endsBlockItem ts then some (absent, ts) else read? hs true false fuel ts
    let (vs, ts) ← blockItems? hs fuel ts
    some (v :: vs, ts)
  | _ + 1, .blockEnd :: ts => some ([], ts)
  | _ + 1, _ => .none

def looseItems? (hs : Handles) : (fuel : Nat) → List Token → Option (List (Node String) × List Token)
  | 0, _ => .none
  | fuel + 1, .blockEntry :: ts => do
    let (v, ts) ← if endsLooseItem ts then some (absent, ts) else read? hs true false fuel ts
    let (vs, ts) ← looseItems? hs fuel ts
    some (v :: vs, ts)
  | _ + 1, ts => some ([], ts)

def blockEntries? (hs : Handles) :
    (fuel : Nat) → List Token → Option (List (Node String × Node String) × List Token)
  | 0, _ => .none
  | fuel + 1, .key :: ts => do
    let (k, ts) ← if endsBlockPart ts then some (absent, ts) else read? hs true true fuel ts
    let (v, ts) ← blockValue? hs fuel ts
    let (es, ts) ← blockEntries? hs fuel ts
    some ((k, v) :: es, ts)
  | _ + 1, .blockEnd :: ts => some ([], ts)
  | _ + 1, _ => .none

def blockValue? (hs : Handles) : (fuel : Nat) → List Token → Option (Node String × List Token)
  | 0, _ => .none
  | fuel + 1, .value :: ts =>
    if endsBlockPart ts then some (absent, ts) else read? hs true true fuel ts
  | _ + 1, ts => some (absent, ts)

def flowItems? (hs : Handles) (first : Bool) :
    (fuel : Nat) → List Token → Option (List (Node String) × List Token)
  | 0, _ => .none
  | _ + 1, .flowSequenceEnd :: ts => some ([], ts)
  | fuel + 1, ts => do
    let ts ← comma? first ts
    match ts with
    | .flowSequenceEnd :: ts => some ([], ts)
    | .key :: ts => do
      let (e, ts) ← flowPair? hs fuel ts
      let (vs, ts) ← flowItems? hs false fuel ts
      some (.mapping .none [e] :: vs, ts)
    | ts => do
      let (v, ts) ← read? hs false false fuel ts
      let (vs, ts) ← flowItems? hs false fuel ts
      some (v :: vs, ts)

/-- A pair that stands as an item of a flow sequence.  Where the key is left out, the token that
follows the key mark is passed over. -/
def flowPair? (hs : Handles) : (fuel : Nat) → List Token → Option ((Node String × Node String) × List Token)
  | 0, _ => .none
  | fuel + 1, ts => do
    let (k, ts) ← if endsFlowPair ts then some (absent, ts.tail) else read? hs false false fuel ts
    match ts with
    | .value :: ts =>
      if endsFlowItem ts then some ((k, absent), ts)
      else (read? hs false false fuel ts).map fun (v, ts) => ((k, v), ts)
    | ts => some ((k, absent), ts)

def flowEntries? (hs : Handles) (first : Bool) :
    (fuel : Nat) → List Token → Option (List (Node String × Node String) × List Token)
  | 0, _ => .none
  | _ + 1, .flowMappingEnd :: ts => some ([], ts)
  | fuel + 1, ts => do
    let ts ← comma? first ts
    match ts with
    | .flowMappingEnd :: ts => some ([], ts)
    | .key :: ts => do
      let (k, ts) ← if endsFlowKey ts then some (absent, ts) else read? hs false false fuel ts
      let (v, ts) ← flowValue? hs fuel ts
      let (es, ts) ← flowEntries? hs false fuel ts
      some ((k, v) :: es, ts)
    | ts => do
      let (k, ts) ← read? hs false false fuel ts
      let (es, ts) ← flowEntries? hs false fuel ts
      some ((k, absent) :: es, ts)

def flowValue? (hs : Handles) : (fuel : Nat) → List Token → Option (Node String × List Token)
  | 0, _ => .none
  | fuel + 1, .value :: ts =>
    if endsFlowValue ts then some (absent, ts) else read? hs false false fuel ts
  | _ + 1, ts => some (absent, ts)
end

end Node

/-! ## Documents -/

def onlyEndMarks (ts : List Token) : Bool := ts.all (· == .documentEnd)

def endsDocument : List Token → Bool
  | [] => true
  | .documentEnd :: _ => true
  | .documentStart :: _ => true
  | .versionDirective .. :: _ => true
  | .tagDirective .. :: _ => true
  | _ => false

/-- Steps for reading a node from so many tokens: at most three of them take no token. -/
def readFuel (ts : List Token) : Nat := 4 * ts.length + 8

/-- The root of the only document of a text; an empty text has none. -/
def root? (ts : List Token) : Option (Option (Node String)) :=
  let finish : Node String × List Token → Option (Option (Node String))
    | (n, ts) => if onlyEndMarks ts then some (some n) else none
  match ts with
  | [] => some none
  | t :: _ => do
    let explicit := match t with
      | .versionDirective .. => true
      | .tagDirective .. => true
      | .documentStart => true
      | _ => false
    if explicit then
      let (hs, ts) ← directives? false [] ts
      match ts with
      | .documentStart :: ts =>
        if endsDocument ts then finish (Node.absent, ts)
        else do
          let r ← Node.read? hs true false (readFuel ts) ts
          finish r
      | _ => none
    else do
      let r ← Node.read? defaultHandles true false (readFuel ts) ts
      finish r

/-! ## Anchors -/

/-- The anchored nodes under the numbers of their anchors, the one that begins last in front, and
the names bound so far with their numbers. -/
structure Anchors where
  names : List (String × Nat)
  nodes : List (Nat × Node Nat)
  count : Nat

def Anchors.none : Anchors := ⟨[], [], 0⟩

/-- How many different names are bound.  A new anchor takes this as its number, and a name that
is bound again keeps counting once. -/
def Anchors.size (a : Anchors) : Nat := (a.names.map Prod.fst).eraseDups.length

/-- Binds the anchor of a mark, if there is one, before the content of its node is read. -/
def Anchors.enter (a : Anchors) (m : Mark) : Anchors × Option Nat :=
  match m.anchor with
  | .none => (a, .none)
  | some name => ({ a with names := (name, a.size) :: a.names }, some a.size)

/-- Keeps a node that has been read, behind the nodes that began inside it. -/
def Anchors.leave (a before : Anchors) (number : Option Nat) (n : Node Nat) (events : Nat) :
    Anchors :=
  let inner := a.nodes.length - before.nodes.length
  { a with
    nodes := match number with
      | .none => a.nodes
      | some i => a.nodes.take inner ++ (i, n) :: a.nodes.drop inner
    count := a.count + events }

mutual
/-- Replaces the names in aliases by the numbers of the anchors that they refer to. -/
def Node.bind? (a : Anchors) : Node String → Option (Node Nat × Anchors)
  | .alias name => (a.names.lookup name).map fun i => (.alias i, { a with count := a.count + 1 })
  | .scalar m plain text =>
    let (a, i) := a.enter m
    let n : Node Nat := .scalar m plain text
    some (n, a.leave a i n 1)
  | .sequence m items => do
    let (before, i) := a.enter m
    let (items, a) ← Node.bindItems? before items
    let n : Node Nat := .sequence m items
    some (n, a.leave before i n 2)
  | .mapping m entries => do
    let (before, i) := a.enter m
    let (entries, a) ← Node.bindEntries? before entries
    let n : Node Nat := .mapping m entries
    some (n, a.leave before i n 2)

def Node.bindItems? (a : Anchors) : List (Node String) → Option (List (Node Nat) × Anchors)
  | [] => some ([], a)
  | n :: rest => do
    let (n, a) ← Node.bind? a n
    let (ns, a) ← Node.bindItems? a rest
    some (n :: ns, a)

def Node.bindEntries? (a : Anchors) :
    List (Node String × Node String) → Option (List (Node Nat × Node Nat) × Anchors)
  | [] => some ([], a)
  | (k, v) :: rest => do
    let (k, a) ← Node.bind? a k
    let (v, a) ← Node.bind? a v
    let (es, a) ← Node.bindEntries? a rest
    some ((k, v) :: es, a)
end

structure Document where
  root : Option (Node Nat)
  anchored : List (Nat × Node Nat)
  /-- One for a scalar or alias, two for a sequence or mapping. -/
  size : Nat

def Document.parse? (s : String) : Option Document := do
  let ts ← tokens? s
  let root ← root? ts
  match root with
  | none => some ⟨none, [], 1⟩
  | some n =>
    let (n, a) ← Node.bind? .none n
    some ⟨some n, a.nodes, a.count⟩

/-- Following one alias costs one step; a document of size `n` admits `100 · n` of them. -/
def Document.aliasLimit (d : Document) : Nat := 100 * d.size

end HeatStack.Yaml
