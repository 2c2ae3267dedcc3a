import HeatStack.Yaml.Token

/-! # The texts of YAML scalars

A plain or quoted scalar is words with gaps between them.  Blanks within a line are kept; a line
break folds into a blank, and further breaks stay.  A block scalar keeps its lines, or folds
those that are not indented further. -/
set_option autoImplicit false
namespace HeatStack.Yaml
open HeatStack.Text

inductive Gap
  | blanks (text : List Char)
  /-- Line breaks, the first apart from the others. -/
  | breaks (first others : List Char)

def Gap.none : Gap := .blanks []

def Gap.isBreaks : Gap → Bool
  | .breaks .. => true
  | .blanks _ => false

def Gap.text : Gap → List Char
  | .blanks cs => cs
  | .breaks first others =>
    if first = ['\n'] then (if others.isEmpty then [' '] else others) else first ++ others

/-- Reads blanks and breaks.  Where `tabsFrom` is given, a tab before that column of a
continuation line is refused. -/
def Gap.read? (tabsFrom : Option Int) : (fuel : Nat) → Cursor → Gap → Option (Gap × Cursor)
  | 0, c, g => some (g, c)
  | fuel + 1, c, g =>
    match c.rest with
    | [] => some (g, c)
    | ch :: _ =>
      if isSpace ch then
        match g with
        | .blanks cs => read? tabsFrom fuel c.skip (.blanks (cs ++ [ch]))
        | .breaks .. =>
          if ch = '\t' ∧ tabsFrom.any (fun i => (c.column : Int) < i) then Option.none
          else read? tabsFrom fuel c.skip g
      else if isBreak ch then
        match g with
        | .blanks _ => read? tabsFrom fuel c.skipBreak (.breaks c.breakText [])
        | .breaks first others =>
          read? tabsFrom fuel c.skipBreak (.breaks first (others ++ c.breakText))
      else some (g, c)

/-! ## Plain scalars -/

def isFlowMark (c : Char) : Bool := c == ',' || c == '[' || c == ']' || c == '\x7b' || c == '\x7d'

/-- The characters of a plain scalar up to the next gap or the end of the scalar.  Inside
brackets a colon before a mark of the flow style is refused. -/
def plainWord? (flow : Bool) : List Char → Option (List Char)
  | [] => some []
  | ch :: r =>
    if isSpaceOrBreak ch then some []
    else if ch = ':' ∧ flow ∧ r.head?.any (fun n => isFlowMark n || n == '?') then none
    else if ch = ':' ∧ atGap r then some []
    else if flow ∧ isFlowMark ch then some []
    else (plainWord? flow r).map (ch :: ·)

structure Scanned where
  text : List Char
  /-- The scalar stopped after a line break. -/
  afterBreak : Bool
  next : Cursor

/-- Words and gaps until a document mark, a comment, the end of a word without a gap after it,
or a line that is indented too little. -/
def plain? (flow : Bool) (indent : Int) : (fuel : Nat) → Cursor → Gap → Option Scanned
  | 0, _, _ => none
  | fuel + 1, c, gap =>
    if (c.column = 0 ∧ atDocumentMark c.rest) ∨ c.rest.head? = some '#' then
      some ⟨[], gap.isBreaks, c⟩
    else do
      let word ← plainWord? flow c.rest
      let after := c.skipMany word.length
      let lead := if word.isEmpty then [] else gap.text ++ word
      let gap := if word.isEmpty then gap else .none
      if after.rest.isEmpty || !atGap after.rest then some ⟨lead, gap.isBreaks, after⟩
      else
        let (gap, after) ← Gap.read? (some indent) after.rest.length after gap
        if !flow && (after.column : Int) < indent then some ⟨lead, gap.isBreaks, after⟩
        else do
          let more ← plain? flow indent fuel after gap
          some { more with text := lead ++ more.text }

/-! ## Quoted scalars -/

def escapeLetter? : Char → Option Char
  | '0' => some '\x00'
  | 'a' => some '\x07'
  | 'b' => some '\x08'
  | 't' => some '\t'
  | '\t' => some '\t'
  | 'n' => some '\n'
  | 'v' => some '\x0b'
  | 'f' => some '\x0c'
  | 'r' => some '\r'
  | 'e' => some '\x1b'
  | ' ' => some ' '
  | '"' => some '"'
  | '/' => some '/'
  | '\\' => some '\\'
  | 'N' => some '\u0085'
  | '_' => some '\u00a0'
  | 'L' => some '\u2028'
  | 'P' => some '\u2029'
  | _ => none

def escapeDigits? : Char → Option Nat
  | 'x' => some 2
  | 'u' => some 4
  | 'U' => some 8
  | _ => none

def escape? : List Char → Option (Char × Nat)
  | [] => none
  | letter :: r =>
    match escapeLetter? letter, escapeDigits? letter with
    | some c, _ => some (c, 1)
    | none, some n =>
      if r.length < n then none
      else do
        let code ← numeral? 16 (r.take n)
        if Nat.isValidChar code then some (Char.ofNat code, n + 1) else none
    | none, none => none

/-- The characters of a quoted scalar up to the next gap or the closing quote, and whether an
escaped line break ended them. -/
def quotedWord? (single : Bool) : (fuel : Nat) → Cursor → Option (List Char × Bool × Cursor)
  | 0, c => some ([], false, c)
  | fuel + 1, c =>
    match c.rest with
    | [] => some ([], false, c)
    | ch :: r =>
      if isSpaceOrBreak ch then some ([], false, c)
      else if single then
        if ch = '\'' then
          if r.head? = some '\'' then
            (quotedWord? single fuel (c.skipMany 2)).map fun (w, b, c) => ('\'' :: w, b, c)
          else some ([], false, c)
        else (quotedWord? single fuel c.skip).map fun (w, b, c) => (ch :: w, b, c)
      else if ch = '"' then some ([], false, c)
      else if ch = '\\' then
        if r.head?.any isBreak then some ([], true, c.skip.skipBreak)
        else do
          let (e, n) ← escape? r
          let (w, b, c) ← quotedWord? single fuel (c.skipMany (n + 1))
          some (e :: w, b, c)
      else (quotedWord? single fuel c.skip).map fun (w, b, c) => (ch :: w, b, c)

def quoted? (single : Bool) : (fuel : Nat) → Cursor → Option (List Char × Cursor)
  | 0, _ => none
  | fuel + 1, c =>
    if (c.column = 0 ∧ atDocumentMark c.rest) ∨ c.rest.isEmpty then none
    else do
      let (word, joined, c) ← quotedWord? single c.rest.length c
      let quote := if single then '\'' else '"'
      if c.rest.head? = some quote then some (word, c.skip)
      else do
        let (gap, c) ← Gap.read? none c.rest.length c (if joined then .breaks [] [] else .none)
        let (more, c) ← quoted? single fuel c
        some (word ++ gap.text ++ more, c)

/-! ## Block scalars -/

inductive Chomp
  | strip
  | clip
  | keep

def chomp? : Char → Option Chomp
  | '+' => some .keep
  | '-' => some .strip
  | _ => none

/-- The signs after the indicator: a chomping sign and a digit from one to nine, in any order. -/
def blockHeader? (cs : List Char) : Option (Chomp × Option Nat × Nat) :=
  let digit? : List Char → Option (Option Nat × Nat)
    | d :: _ => if isDigit d then (if d = '0' then none else some (some (digitValue d), 1)) else some (none, 0)
    | [] => some (none, 0)
  match cs with
  | [] => some (.clip, none, 0)
  | ch :: r =>
    match chomp? ch with
    | some k => (digit? r).map fun (d, n) => (k, d, n + 1)
    | none => do
      let (d, n) ← digit? cs
      if n = 0 then some (.clip, none, 0)
      else match r.head?.bind chomp? with
        | some k => some (k, d, 2)
        | none => some (.clip, d, 1)

/-- Passes indentation and empty lines.  While the indentation is not known (`none`) every blank
is passed and the deepest column is kept.  A tab in the indentation is refused. -/
def emptyLines? (indent : Option Nat) :
    (fuel : Nat) → (deepest : Nat) → List Char → Cursor → Option (Nat × List Char × Cursor)
  | 0, deepest, breaks, c => some (deepest, breaks, c)
  | fuel + 1, deepest, breaks, c =>
    let blanks := (c.rest.takeWhile (· == ' ')).length
    let c := c.skipMany (match indent with
      | none => blanks
      | some i => min blanks (i - c.column))
    let deepest := max deepest c.column
    if indent.all (fun i => c.column < i) && c.rest.head? = some '\t' then none
    else if c.rest.head?.any isBreak then
      emptyLines? indent fuel deepest (breaks ++ c.breakText) c.skipBreak
    else some (deepest, breaks, c)

structure BlockLines where
  text : List Char
  /-- The break after the last line, and those of the empty lines behind it. -/
  lastBreak : List Char
  trailing : List Char
  next : Cursor

/-- The lines at the given indentation.  `pending` is the break before the line at hand,
`empties` those of the empty lines before it, and `blankBefore` says whether the line before
began with a blank: folding needs a plain line on both sides. -/
def blockLines? (literal : Bool) (indent : Nat) :
    (fuel : Nat) → (pending empties : List Char) → (blankBefore : Bool) → Cursor → Option BlockLines
  | 0, _, _, _, _ => none
  | fuel + 1, pending, empties, blankBefore, c =>
    if c.column = indent ∧ !c.rest.isEmpty then do
      let blankHere := c.rest.head?.any isSpace
      let folds := !literal && pending = ['\n'] && !blankBefore && !blankHere
      let joint := if folds then (if empties.isEmpty then [' '] else []) else pending
      let line := c.rest.takeWhile (fun ch => !isBreak ch)
      let c := c.skipMany line.length
      let pending := c.breakText
      let (_, after, c) ← emptyLines? (some indent) (c.rest.length + 1) 0 [] c.skipBreak
      let more ← blockLines? literal indent fuel pending after blankHere c
      some { more with text := joint ++ empties ++ line ++ more.text }
    else some ⟨[], pending, empties, c⟩

def block? (literal : Bool) (parent : Int) (c : Cursor) : Option (List Char × Cursor) := do
  let (chomp, given, n) ← blockHeader? c.rest
  let c := (c.skipMany n).skipWhile isSpace
  let c := if c.rest.head? = some '#' then c.skipLine else c
  if !atBreak c.rest then none
  else
    let c := c.skipBreak
    let fixed := given.map fun (g : Nat) => if 0 ≤ parent then (parent + g).toNat else g
    let (deepest, empties, c) ← emptyLines? fixed (c.rest.length + 1) 0 [] c
    let indent := fixed.getD (max deepest (max (parent + 1).toNat 1))
    let b ← blockLines? literal indent (c.rest.length + 1) [] empties false c
    match chomp with
    | .strip => some (b.text, b.next)
    | .clip => some (b.text ++ b.lastBreak, b.next)
    | .keep => some (b.text ++ b.lastBreak ++ b.trailing, b.next)

end HeatStack.Yaml
