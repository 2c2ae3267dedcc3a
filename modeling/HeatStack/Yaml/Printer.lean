import HeatStack.Text.Blank
import HeatStack.Yaml.Value

/-! # Writing YAML

Values are written in block style, two blanks a level, with empty collections in brackets.  A
text is written plain where that reads back as the same text, as a literal block where it has
line feeds, and quoted otherwise. -/
set_option autoImplicit false
namespace HeatStack.Yaml
open HeatStack.Number HeatStack.Text

/-- Numbers: sixteen digits before the point are written out, and five zeros after it. -/
def numberStyle : NumberStyle where
  positional e := -5 ≤ e && e ≤ 15
  pointZero := true
  plusSign := false
  tie := .toEven
  infinity := ".inf"
  negativeInfinity := "-.inf"
  notANumber := ".nan"

/-! ## What the characters of a text admit -/

def isPrintable (c : Char) : Bool :=
  let n := c.toNat
  n == 0x0A || (0x20 ≤ n && n ≤ 0x7E) || (0xA0 ≤ n && n ≤ 0xD7FF)
    || (0xE000 ≤ n && n ≤ 0xFFFD && n != 0xFEFF) || 0x10000 ≤ n

structure Analysis where
  plain : Bool
  single : Bool
  block : Bool

def anyPair (p : Char → Char → Bool) : List Char → Bool
  | a :: b :: r => p a b || anyPair p (b :: r)
  | _ => false

/-- A character inside the text that ends a plain scalar: a colon before a gap, or a number sign
after one. -/
def hasInnerIndicator : (afterGap : Bool) → List Char → Bool
  | _, [] => false
  | afterGap, c :: r =>
    (c == ':' && atGap r) || (c == '#' && afterGap) || hasInnerIndicator (isSpaceOrBreak c) r

def startsWithIndicator : List Char → Bool
  | [] => false
  | c :: r =>
    "#,[]\x7b\x7d&*!|>'\"%@\x60".toList.contains c || ((c == '?' || c == ':' || c == '-') && atGap r)

def startsLikeDocumentMark (cs : List Char) : Bool :=
  "---".toList.isPrefixOf cs || "...".toList.isPrefixOf cs

def analyse (cs : List Char) : Analysis :=
  if cs.isEmpty then ⟨true, true, false⟩
  else
    let isBlank (c : Char) : Bool := c == ' '
    let lineBreaks := cs.any isBreak
    let spaceAtEnd := cs.getLast?.any isBlank
    let gapAtEnds := cs.head?.any (fun c => isBlank c || isBreak c) || cs.getLast?.any isBreak || spaceAtEnd
    let breakSpace := anyPair (fun a b => isBreak a && isBlank b) cs
    let spaceBreak := anyPair (fun a b => isBlank a && isBreak b) cs
    let special := cs.any fun c => !isPrintable c
    let indicators := startsLikeDocumentMark cs || startsWithIndicator cs || hasInnerIndicator false cs.tail
    { plain := !gapAtEnds && !breakSpace && !spaceBreak && !special && !lineBreaks && !indicators
      single := !breakSpace && !spaceBreak && !special
      block := !spaceAtEnd && !spaceBreak && !special }

inductive ScalarStyle
  | plain
  | single
  | double
  | literal
deriving DecidableEq

/-- Whether the plain text is read as itself, and is not a row of digits after a zero. -/
def readsAsText (s : String) : Bool :=
  match Scalar.plain? s with
  | some (.string _) => !Scalar.hasLeadingZero s.toList
  | _ => false

def wantedStyle (s : String) : ScalarStyle :=
  if s.toList.contains '\n' then .literal
  else if readsAsText s then .plain
  else .single

def textStyle (s : String) : ScalarStyle :=
  let a := analyse s.toList
  let quotes : ScalarStyle := if a.single then .single else .double
  match wantedStyle s with
  | .plain => if a.plain then .plain else quotes
  | .literal => if a.block then .literal else .double
  | _ => quotes

/-! ## The text so far -/

structure Writer where
  /-- The last character first. -/
  written : List Char
  column : Nat
  /-- A blank or the start of a line stands before the next character. -/
  spaced : Bool
  /-- Nothing but indentation and block marks stands on the line. -/
  fresh : Bool

namespace Writer

def start : Writer := ⟨[], 0, true, true⟩

def put (w : Writer) (c : Char) : Writer := { w with written := c :: w.written, column := w.column + 1 }

def puts (w : Writer) (cs : List Char) : Writer := cs.foldl put w

def putBreak (w : Writer) (c : Char) : Writer := { w with written := c :: w.written, column := 0 }

/-- Goes to the given column, on a new line unless only indentation stands on this one. -/
def indentTo (w : Writer) (indent : Nat) : Writer :=
  let w := if !w.fresh || indent < w.column || (w.column = indent && !w.spaced) then w.putBreak '\n' else w
  let w := w.puts (List.replicate (indent - w.column) ' ')
  { w with spaced := true, fresh := true }

/-- A mark, after a blank if `apart`; `block` keeps a fresh line fresh. -/
def mark (w : Writer) (cs : List Char) (apart spaced block : Bool) : Writer :=
  let w := if apart && !w.spaced then w.put ' ' else w
  let w := w.puts cs
  { w with spaced := spaced, fresh := w.fresh && block }

def word (w : Writer) (cs : List Char) : Writer :=
  let w := if w.spaced || cs.isEmpty then w else w.put ' '
  let w := w.puts cs
  { w with spaced := false, fresh := false }

/-! ## Scalars -/

/-- Characters of a single-quoted or literal text; a line is indented when its first character
comes. -/
def lines (indent : Nat) (double : Char → List Char) : (broken : Bool) → List Char → Writer → Writer × Bool
  | broken, [], w => (w, broken)
  | broken, c :: r, w =>
    if isBreak c then lines indent double true r { w.putBreak c with fresh := true }
    else
      let w := if broken then w.indentTo indent else w
      lines indent double false r { w.puts (double c) with fresh := false }

def single (w : Writer) (indent : Nat) (cs : List Char) : Writer :=
  let w := w.mark ['\''] true false false
  let (w, broken) := lines indent (fun c => if c = '\'' then ['\'', '\''] else [c]) false cs w
  let w := if broken then w.indentTo indent else w
  w.mark ['\''] false false false

/-- The sign after the bar: what is kept of the line feeds at the end. -/
def chompMark (cs : List Char) : List Char :=
  match cs.reverse with
  | [] => ['-']
  | [c] => if isBreak c then ['+'] else ['-']
  | c :: d :: _ => if !isBreak c then ['-'] else if isBreak d then ['+'] else []

def literal (w : Writer) (indent : Nat) (cs : List Char) : Writer :=
  let hint := if cs.head?.any (fun c => c == ' ' || isBreak c) then ['2'] else []
  let w := w.mark ('|' :: hint ++ chompMark cs) true false false
  let w := { w.putBreak '\n' with fresh := true, spaced := true }
  (lines indent (fun c => [c]) true cs w).1

def hexUpper (width n : Nat) : List Char := (hexPadded width n).map upperChar

def escapeLetter (c : Char) : List Char :=
  let n := c.toNat
  match n with
  | 0x00 => ['0']
  | 0x07 => ['a']
  | 0x08 => ['b']
  | 0x09 => ['t']
  | 0x0A => ['n']
  | 0x0B => ['v']
  | 0x0C => ['f']
  | 0x0D => ['r']
  | 0x1B => ['e']
  | 0x22 => ['"']
  | 0x5C => ['\\']
  | 0x85 => ['N']
  | 0xA0 => ['_']
  | 0x2028 => ['L']
  | 0x2029 => ['P']
  | _ =>
    if n ≤ 0xFF then 'x' :: hexUpper 2 n
    else if n ≤ 0xFFFF then 'u' :: hexUpper 4 n
    else 'U' :: hexUpper 8 n

def escape (c : Char) : List Char :=
  if !isPrintable c || isBreak c || c == '"' || c == '\\' then '\\' :: escapeLetter c else [c]

def text (w : Writer) (indent : Nat) (s : String) : Writer :=
  let cs := s.toList
  match textStyle s with
  | .plain => w.word cs
  | .single => w.single indent cs
  | .double => w.word ('"' :: cs.flatMap escape ++ ['"'])
  | .literal => w.literal indent cs

/-! ## Tags -/

def isTagText (c : Char) : Bool :=
  isNameChar c || ";/?:@&=+$,.~*'()[]".toList.contains c

def tagOctets (c : Char) : List Char :=
  if isTagText c then [c]
  else (String.singleton c).toUTF8.toList.flatMap fun b => '%' :: hexUpper 2 b.toNat

def tagText (tag : String) : List Char := '!' :: tag.toList.flatMap tagOctets

def tag (w : Writer) : Option String → Writer
  | none => w
  | some t => w.word (tagText t)

end Writer

/-! ## Values -/

/-- The text of a scalar as it counts for the length of a key. -/
def scalarText : Value → Option (String × Bool)
  | .null => some ("null", false)
  | .bool b => some (if b then "true" else "false", false)
  | .number n => some (numberStyle.numericText n, false)
  | .string s => some (s, s.toList.any isBreak)
  | _ => none

def longestWrittenKey : Nat := 128

/-- A key on one line: a scalar without line breaks or an empty collection, and not too long. -/
def isSimpleKey (k : Value) : Bool :=
  let (tagSize, k) := match k with
    | .tagged t v => (t.utf8ByteSize + 1, v)
    | v => (0, v)
  let size := match k with
    | .sequence [] => some 0
    | .mapping [] => some 0
    | v => (scalarText v).bind fun (s, broken) => if broken then none else some s.utf8ByteSize
  size.any fun n => tagSize + n ≤ longestWrittenKey

/-- A mapping whose only key is a mapping with one entry, or carries a tag, has no written form. -/
def isWritable : List (Value × Value) → Bool
  | [(.mapping [_], _)] => false
  | [(.tagged .., _)] => false
  | _ => true

structure Place where
  indent : Int
  inMapping : Bool

def Place.deeper (p : Place) : Nat := if p.indent < 0 then 2 else p.indent.toNat + 2

def Place.inner (p : Place) (flush : Bool) : Nat :=
  if p.indent < 0 then 0 else if flush then p.indent.toNat else p.indent.toNat + 2

mutual
def printNode (p : Place) (tag : Option String) (w : Writer) : Value → Option Writer
  | .null => some ((w.tag tag).word "null".toList)
  | .bool b => some ((w.tag tag).word (if b then "true".toList else "false".toList))
  | .number n => some ((w.tag tag).word (numberStyle.numericText n).toList)
  | .string s => some ((w.tag tag).text p.deeper s)
  | .sequence [] => some (((w.tag tag).mark ['['] true true false).mark [']'] false false false)
  | .mapping [] => some (((w.tag tag).mark ['\x7b'] true true false).mark ['\x7d'] false false false)
  | .sequence items =>
    let w := w.tag tag
    printItems (p.inner (p.inMapping && !w.fresh)) w items
  | .mapping entries =>
    if tag.isNone && !isWritable entries then none
    else printEntries (p.inner false) (w.tag tag) entries
  | .tagged t v => if tag.isSome then none else printNode p (some t) w v

def printItems (indent : Nat) (w : Writer) : List Value → Option Writer
  | [] => some w
  | v :: rest => do
    let w := (w.indentTo indent).mark ['-'] true false true
    let w ← printNode ⟨indent, false⟩ none w v
    printItems indent w rest

def printEntries (indent : Nat) (w : Writer) : List (Value × Value) → Option Writer
  | [] => some w
  | (k, v) :: rest => do
    let w := w.indentTo indent
    let w ←
      if isSimpleKey k then do
        let w ← printNode ⟨indent, true⟩ none w k
        some (w.mark [':'] false false false)
      else do
        let w ← printNode ⟨indent, true⟩ none (w.mark ['?'] true false true) k
        some ((w.indentTo indent).mark [':'] true false true)
    let w ← printNode ⟨indent, true⟩ none w v
    printEntries indent w rest
end

/-- The text of a value without blanks at its end; some mappings have none. -/
def Value.print? (v : Value) : Option String :=
  (printNode ⟨-1, false⟩ none .start v).map fun w =>
    String.ofList ((w.written.dropWhile isBlank).reverse)

end HeatStack.Yaml
