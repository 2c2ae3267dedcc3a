import HeatStack.Regex.Size
import HeatStack.Text.Ascii
import HeatStack.Text.Blank
import HeatStack.Unicode.Age
import HeatStack.Unicode.CaseFolding
import HeatStack.Unicode.Property
import HeatStack.Unicode.Script
import HeatStack.Unicode.Segmentation

/-! # The syntax of regular expressions

Expressions are read from left to right.  The flags hold from where they are set to the end of
the group, across alternatives; how deep the parts nest is counted on the way. -/
set_option autoImplicit false
namespace HeatStack.Regex
open HeatStack.Text HeatStack.Unicode

structure Flags where
  caseless : Bool
  multiline : Bool
  /-- The dot matches line ends as well. -/
  dotAll : Bool
  unicode : Bool
  /-- Blanks and comments in the pattern are passed over. -/
  verbose : Bool
  /-- A carriage return ends a line as well. -/
  crlf : Bool

def Flags.initial : Flags := ⟨false, false, false, true, false, false⟩

structure State where
  rest : List Char
  flags : Flags
  /-- Names of groups so far. -/
  names : List (List Char)

abbrev Parse := StateT State Option

/-- A part of the pattern and how deep its parts nest. -/
structure Part where
  expr : Expr
  depth : Nat

/-! ## Characters of the pattern -/

def dropComment (cs : List Char) : List Char := (cs.dropWhile (· != '\n')).tail

def dropVerbose : (fuel : Nat) → List Char → List Char
  | 0, cs => cs
  | fuel + 1, cs =>
    match cs.dropWhile isBlank with
    | '#' :: r => dropVerbose fuel (dropComment r)
    | r => r

def peek : Parse (Option Char) := fun s => some (s.rest.head?, s)

def flags : Parse Flags := fun s => some (s.flags, s)

def setFlags (f : Flags) : Parse Unit := fun s => some ((), { s with flags := f })

def skipSpace : Parse Unit := fun s =>
  some ((), if s.flags.verbose then { s with rest := dropVerbose s.rest.length s.rest } else s)

def bump : Parse Unit := fun s => some ((), { s with rest := s.rest.tail })

def bumpSpace : Parse Unit := do
  bump
  skipSpace

def next : Parse Char := fun s =>
  match s.rest with
  | c :: r => some (c, { s with rest := r })
  | [] => none

def expect (c : Char) : Parse Unit := do
  if (← next) != c then failure

def bumpIf (word : String) : Parse Bool := fun s =>
  if word.toList.isPrefixOf s.rest then some (true, { s with rest := s.rest.drop word.length })
  else some (false, s)

/-- The character behind the next one; in verbose patterns blanks between them, and a number sign
with blanks after it, are looked past. -/
def peekBehind : Parse (Option Char) := fun s =>
  let r := s.rest.tail
  if s.flags.verbose then
    match r.dropWhile isBlank with
    | '#' :: r => some ((r.dropWhile isBlank).head?, s)
    | r => some (r.head?, s)
  else some (r.head?, s)

/-! ## Sets -/

def asciiClass? : String → Option CharSet
  | "alnum" => some [⟨48, 57⟩, ⟨65, 90⟩, ⟨97, 122⟩]
  | "alpha" => some [⟨65, 90⟩, ⟨97, 122⟩]
  | "ascii" => some [⟨0, 127⟩]
  | "blank" => some [⟨9, 9⟩, ⟨32, 32⟩]
  | "cntrl" => some [⟨0, 31⟩, ⟨127, 127⟩]
  | "digit" => some [⟨48, 57⟩]
  | "graph" => some [⟨33, 126⟩]
  | "lower" => some [⟨97, 122⟩]
  | "print" => some [⟨32, 126⟩]
  | "punct" => some [⟨33, 47⟩, ⟨58, 64⟩, ⟨91, 96⟩, ⟨123, 126⟩]
  | "space" => some [⟨9, 13⟩, ⟨32, 32⟩]
  | "upper" => some [⟨65, 90⟩]
  | "word" => some [⟨48, 57⟩, ⟨65, 90⟩, ⟨95, 95⟩, ⟨97, 122⟩]
  | "xdigit" => some [⟨48, 57⟩, ⟨65, 70⟩, ⟨97, 102⟩]
  | _ => none

def asciiWord : CharSet := (asciiClass? "word").getD []

def foldAscii (s : CharSet) : CharSet :=
  let letters := (CharSet.ofChars (String.toList "abcdefghijklmnopqrstuvwxyz"))
  let shift (k : Int) (t : CharSet) : CharSet :=
    t.map fun r => ⟨((r.first : Int) + k).toNat, ((r.last : Int) + k).toNat⟩
  let capitals := shift (-32) letters
  CharSet.normalize (s ++ shift (-32) (CharSet.inter s letters) ++ shift 32 (CharSet.inter s capitals))

def fold (f : Flags) (s : CharSet) : CharSet :=
  if f.caseless then (if f.unicode then foldCase s else foldAscii s) else s

/-- A set after folding, or its complement.  Without Unicode a set holds octets, and one with
octets above the ASCII range would match pieces of characters. -/
def finish (f : Flags) (negated : Bool) (s : CharSet) : Option CharSet :=
  let s := fold f (CharSet.normalize s)
  if f.unicode then some (if negated then CharSet.complement s else s)
  else if negated || !s.isAscii then none else some s

def perlClass? (f : Flags) (c : Char) : Option CharSet :=
  let s? := match lowerChar c with
    | 'd' => some (if f.unicode then digits else [⟨48, 57⟩])
    | 's' => some (if f.unicode then whiteSpace else [⟨9, 13⟩, ⟨32, 32⟩])
    | 'w' => some (if f.unicode then wordChars else asciiWord)
    | _ => none
  s?.bind fun s =>
    if lowerChar c == c then some s
    else if f.unicode then some (CharSet.complement s) else none

/-- Names count without case, blanks, dashes and underscores, and without `is` in front. -/
def looseName (name : List Char) : String :=
  let clean (cs : List Char) : List Char :=
    (cs.filter fun c => c != ' ' && c != '_' && c != '-' && c.toNat < 128).map lowerChar
  let stripped := if (name.take 2).map lowerChar = ['i', 's'] then clean (name.drop 2) else clean name
  String.ofList (if stripped = ['c'] ∧ name.length ≠ 1 ∧ clean name = "isc".toList then "isc".toList else stripped)

/-- Names that are properties of another kind and categories: the category is meant. -/
def categoryFirst : List String := ["cf", "sc", "lc"]

def namedSet? (name : String) : Option CharSet :=
  match (if categoryFirst.contains name then none else property? name) with
  | some s => some s
  | none => match category? name with
    | some s => some s
    | none => script? name

def valuedSet? (name value : String) : Option CharSet :=
  if ["gc", "generalcategory"].contains name then category? value
  else if ["sc", "script"].contains name then script? value
  else if ["scx", "scriptextensions"].contains name then scriptExtension? value
  else if name = "age" then age? value
  else (division? name).bind (·.class? value)

def splitNotEqual : List Char → Option (List Char × List Char)
  | '!' :: '=' :: r => some ([], r)
  | c :: r => (splitNotEqual r).map fun (a, b) => (c :: a, b)
  | [] => none

/-- Splits at the first `!=`, else at the first colon, else at the first equals sign.  All three
mean the same. -/
def splitProperty (cs : List Char) : Option (List Char × List Char) :=
  splitNotEqual cs <|> splitOnce ':' cs <|> splitOnce '=' cs

def takeUntil (stop : Char) : (fuel : Nat) → Parse (List Char)
  | 0 => failure
  | fuel + 1 => do
    match ← peek with
    | none => failure
    | some c =>
      if c = stop then return []
      else
        bumpSpace
        let cs ← takeUntil stop fuel
        return c :: cs

def fuelHere : Parse Nat := fun s => some (s.rest.length + 2, s)

def unicodeClass (negated : Bool) : Parse CharSet := do
  skipSpace
  let f ← flags
  let set? ←
    match ← peek with
    | none => failure
    | some '\x7b' =>
      bumpSpace
      let cs ← takeUntil '\x7d' (← fuelHere)
      bump
      pure (match splitProperty cs with
        | some (a, b) => valuedSet? (looseName a) (looseName b)
        | none => namedSet? (looseName cs))
    | some '\\' => failure
    | some c =>
      bump
      pure (namedSet? (looseName [c]))
  if !f.unicode then failure
  let s ← (set? : Option CharSet)
  let s := fold f s
  return if negated then CharSet.complement s else s

/-! ## Escapes -/

inductive Atom
  /-- A character; `octet` where it is written as two hexadecimal digits. -/
  | literal (c : Char) (octet : Bool)
  | set (s : CharSet)
  | look (l : Look)

def isMeta (c : Char) : Bool := "\\.+*?()|[]\x7b\x7d^$#&-~".toList.contains c

/-- ASCII characters that stand for themselves after a backslash. -/
def isEscapable (c : Char) : Bool :=
  isMeta c || (c.toNat < 128 && !isDigit c && !isLetter c && c != '<' && c != '>')

def charOfHex (ds : List Char) : Option Char :=
  if ds.isEmpty then none
  else (numeral? 16 ds).bind fun n => if Nat.isValidChar n then some (Char.ofNat n) else none

def hexDigits : (n : Nat) → Parse (List Char)
  | 0 => return []
  | n + 1 => do
    let c ← next
    if !isHex c then failure
    skipSpace
    let ds ← hexDigits n
    return c :: ds

/-- A character as hexadecimal digits: so many of them, or any number between braces. -/
def hexAtom (width : Nat) : Parse Atom := do
  skipSpace
  if (← peek) == some '\x7b' then
    bumpSpace
    let ds ← takeUntil '\x7d' (← fuelHere)
    bumpSpace
    let c ← (charOfHex ds : Option Char)
    return .literal c false
  else
    let ds ← hexDigits width
    let c ← (charOfHex ds : Option Char)
    return .literal c (width == 2)

def wordSet (f : Flags) : CharSet := if f.unicode then wordChars else asciiWord

def wordLook (f : Flags) (e : WordEdge) : Atom := .look (.word e (wordSet f))

def wordEdge? : String → Option WordEdge
  | "start" => some .start
  | "end" => some .finish
  | "start-half" => some .startHalf
  | "end-half" => some .finishHalf
  | _ => none

def isEdgeChar (c : Char) : Bool := isLetter c || c == '-'

def edgeChars : (fuel : Nat) → Parse (List Char)
  | 0 => return []
  | fuel + 1 => do
    match ← peek with
    | some c =>
      if isEdgeChar c then
        bumpSpace
        let cs ← edgeChars fuel
        return c :: cs
      else return []
    | none => return []

/-- The kind of a word boundary between braces.  Braces that hold anything but a name are left
for a repetition. -/
def boundary : Parse Atom := do
  let f ← flags
  let before ← get
  if (← peek) != some '\x7b' then return wordLook f .boundary
  bumpSpace
  match ← peek with
  | none => failure
  | some c =>
    if !isEdgeChar c then
      set before
      return wordLook f .boundary
    let name ← edgeChars (← fuelHere)
    expect '\x7d'
    let e ← (wordEdge? (String.ofList name) : Option WordEdge)
    return wordLook f e

def escape : Parse Atom := do
  let f ← flags
  let c ← next
  match c with
  | 'x' => hexAtom 2
  | 'u' => hexAtom 4
  | 'U' => hexAtom 8
  | 'p' => return .set (← unicodeClass false)
  | 'P' => return .set (← unicodeClass true)
  | 'a' => return .literal '\x07' false
  | 'f' => return .literal '\x0c' false
  | 't' => return .literal '\t' false
  | 'n' => return .literal '\n' false
  | 'r' => return .literal '\r' false
  | 'v' => return .literal '\x0b' false
  | 'A' => return .look .textStart
  | 'z' => return .look .textEnd
  | 'b' => boundary
  | 'B' => return wordLook f .inside
  | '<' => return wordLook f .start
  | '>' => return wordLook f .finish
  | c =>
    if ['d', 's', 'w', 'D', 'S', 'W'].contains c then
      let s ← (perlClass? f c : Option CharSet)
      return .set s
    else if isEscapable c then return .literal c false
    else failure

/-- An octet above the ASCII range is no character where Unicode is off. -/
def literalExpr (f : Flags) (c : Char) (octet : Bool) : Option Expr :=
  if !f.unicode && octet && 128 ≤ c.toNat then none
  else if f.caseless && f.unicode then some (.set (caseGroup c))
  else some (.set (fold f (CharSet.single c.toNat)))

/-! ## Bracketed sets -/

inductive SetOp
  | inter
  | diff
  | symmetricDiff

def SetOp.apply (f : Flags) (op : SetOp) (a b : CharSet) : CharSet :=
  let a := fold f (CharSet.normalize a)
  let b := fold f (CharSet.normalize b)
  match op with
  | .inter => CharSet.inter a b
  | .diff => CharSet.diff a b
  | .symmetricDiff => CharSet.symmetricDiff a b

/-- The members read since the last operator. -/
structure Union where
  set : CharSet
  count : Nat
  depth : Nat

def Union.empty : Union := ⟨[], 0, 0⟩

def Union.add (u : Union) (s : CharSet) (depth : Nat) : Union :=
  ⟨u.set ++ s, u.count + 1, max u.depth depth⟩

/-- How deep the members nest: several members are one part more. -/
def Union.nesting (u : Union) : Nat := if u.count ≤ 1 then u.depth else u.depth + 1

structure Pending where
  op : SetOp
  left : CharSet
  depth : Nat

def settle (f : Flags) (p : Option Pending) (u : Union) : CharSet × Nat :=
  match p with
  | none => (u.set, u.nesting)
  | some p => (p.op.apply f p.left u.set, 1 + max p.depth u.nesting)

/-- Where Unicode is off, a set has ASCII members only. -/
def memberSet (f : Flags) (first last : Char) : Option CharSet :=
  if f.unicode || (first.toNat < 128 && last.toNat < 128) then some [⟨first.toNat, last.toNat⟩]
  else none

def asciiClassHere : Parse (Option CharSet) := fun s =>
  let body := match s.rest with
    | '[' :: ':' :: '^' :: r => some (true, r)
    | '[' :: ':' :: r => some (false, r)
    | _ => none
  match body with
  | none => some (none, s)
  | some (negated, r) =>
    let name := r.takeWhile (· != ':')
    match r.dropWhile (· != ':'), asciiClass? (String.ofList name) with
    | ':' :: ']' :: r, some set => (finish s.flags negated set).map fun set => (some set, { s with rest := r })
    | _, _ => some (none, s)

def setAtom : Parse Atom := do
  let c ← next
  if c = '\\' then escape else return .literal c false

def literalOf : Atom → Option Char
  | .literal c _ => some c
  | _ => none

/-- A member of a bracketed set: a character, a class, or a range.  A dash before a bracket or
another dash makes no range. -/
def setRange : Parse CharSet := do
  let f ← flags
  let first ← setAtom
  skipSpace
  let here ← peek
  if here.isNone then failure
  let behind ← peekBehind
  if here != some '-' || behind == some ']' || behind == some '-' then
    match first with
    | .literal c _ => (memberSet f c c : Option CharSet)
    | .set s => return s
    | .look _ => failure
  else
    bumpSpace
    let last ← setAtom
    let a ← (literalOf first : Option Char)
    let b ← (literalOf last : Option Char)
    if b < a then failure
    (memberSet f a b : Option CharSet)

/-- Dashes right after the opening bracket stand for themselves. -/
def openingDashes : (fuel : Nat) → Union → Parse Union
  | 0, u => return u
  | fuel + 1, u => do
    match ← peek with
    | none => failure
    | some '-' =>
      bumpSpace
      openingDashes fuel (u.add (CharSet.single 45) 0)
    | some _ => return u

/-- What stands between an opening bracket and the first ordinary member: a circumflex, dashes, or
a closing bracket that is a member. -/
def opening : Parse (Bool × Union) := do
  skipSpace
  let negated := (← peek) == some '^'
  if negated then bumpSpace
  let u ← openingDashes (← fuelHere) .empty
  if u.count = 0 && (← peek) == some ']' then
    bumpSpace
    if (← peek).isNone then failure
    return (negated, u.add (CharSet.single 93) 0)
  if (← peek).isNone then failure
  return (negated, u)

def setOp? : List Char → Option SetOp
  | '&' :: '&' :: _ => some .inter
  | '-' :: '-' :: _ => some .diff
  | '~' :: '~' :: _ => some .symmetricDiff
  | _ => none

mutual
def bracketed : (fuel : Nat) → Parse (CharSet × Nat)
  | 0 => failure
  | fuel + 1 => do
    let (negated, u) ← opening
    members fuel negated none u

def members : (fuel : Nat) → (negated : Bool) → Option Pending → Union → Parse (CharSet × Nat)
  | 0, _, _, _ => failure
  | fuel + 1, negated, pending, u => do
    skipSpace
    let f ← flags
    match ← peek with
    | none => failure
    | some '[' =>
      match ← asciiClassHere with
      | some s => members fuel negated pending (u.add s 0)
      | none =>
        bump
        let (s, depth) ← bracketed fuel
        members fuel negated pending (u.add s (depth + 1))
    | some ']' =>
      bump
      let (s, depth) := settle f pending u
      let s ← (finish f negated s : Option CharSet)
      return (s, depth)
    | some _ =>
      match setOp? (← get).rest with
      | some op =>
        bump
        bump
        let (left, depth) := settle f pending u
        members fuel negated (some ⟨op, left, depth⟩) .empty
      | none =>
        let s ← setRange
        members fuel negated pending (u.add s 0)
end

/-! ## Groups and repetitions -/

def setFlag (f : Flags) (letter : Char) (on : Bool) : Option Flags :=
  match letter with
  | 'i' => some { f with caseless := on }
  | 'm' => some { f with multiline := on }
  | 's' => some { f with dotAll := on }
  | 'u' => some { f with unicode := on }
  | 'x' => some { f with verbose := on }
  | 'R' => some { f with crlf := on }
  | 'U' => some f
  | _ => none

/-- Flags up to a colon or closing parenthesis, which is returned; letters after a dash are
taken away. -/
def flagLetters : (fuel : Nat) → (seen : List Char) → (negative dangling : Bool) → Flags →
    Parse (Flags × List Char × Char)
  | 0, _, _, _, _ => failure
  | fuel + 1, seen, negative, dangling, f => do
    let c ← next
    if c = ':' ∨ c = ')' then
      if dangling then failure
      return (f, seen, c)
    if seen.contains c then failure
    if c = '-' then flagLetters fuel ('-' :: seen) true true f
    else
      let f ← (setFlag f c (!negative) : Option Flags)
      flagLetters fuel (c :: seen) negative false f

def isNameStart (c : Char) : Bool := c == '_' || alphabetic.mem c

def isNameRest (c : Char) : Bool := c == '_' || c == '.' || c == '[' || c == ']' || alphanumeric.mem c

def groupName : Parse Unit := fun s =>
  let name := s.rest.takeWhile (· != '>')
  match name, s.rest.dropWhile (· != '>') with
  | c :: r, _ :: rest =>
    if isNameStart c && r.all isNameRest && !s.names.contains name then
      some ((), { s with rest := rest, names := name :: s.names })
    else none
  | _, _ => none

inductive Opening
  | group (capturing : Bool)
  /-- Flags for the rest of the group around. -/
  | directive

def groupOpening : Parse Opening := do
  skipSpace
  let f ← flags
  if (← bumpIf "?=") then failure
  if (← bumpIf "?!") then failure
  if (← bumpIf "?<=") then failure
  if (← bumpIf "?<!") then failure
  if (← bumpIf "?P<") then
    groupName
    return .group true
  if (← bumpIf "?<") then
    groupName
    return .group true
  if (← bumpIf "?") then
    let (g, seen, stop) ← flagLetters (← fuelHere) [] false false f
    setFlags g
    if stop = ':' then return .group false
    if seen.isEmpty then failure
    return .directive
  return .group true

def digitsHere : (fuel : Nat) → Parse (List Char)
  | 0 => return []
  | fuel + 1 => do
    match ← peek with
    | some c =>
      if isDigit c then
        bumpSpace
        let ds ← digitsHere fuel
        return c :: ds
      else return []
    | none => return []

def skipBlanks : Parse Unit := fun s => some ((), { s with rest := s.rest.dropWhile isBlank })

/-- A count with blanks around it: `some none` where there are no digits. -/
def count : Parse (Option Nat) := do
  skipBlanks
  let ds ← digitsHere (← fuelHere)
  skipBlanks
  skipSpace
  if ds.isEmpty then return none
  let n := decimal ds
  if n < Nat.pow 2 32 then return some n else failure

def bounds : Parse (Nat × Option Nat) := do
  skipSpace
  if (← peek).isNone then failure
  let least ← count
  match ← peek with
  | some ',' =>
    bumpSpace
    match ← peek with
    | none => failure
    | some '\x7d' =>
      bumpSpace
      let n ← least
      return (n, none)
    | some _ =>
      let n ← least
      let most ← count
      let m ← most
      expect '\x7d'
      skipSpace
      if m < n then failure
      return (n, some m)
  | some '\x7d' =>
    bumpSpace
    let n ← least
    return (n, some n)
  | _ => failure

/-- A question mark after a repetition changes which match is preferred, not whether there is
one. -/
def lazyMark : Parse Unit := do
  if (← peek) == some '?' then bump

def repetition (c : Char) : Parse (Nat × Option Nat) := do
  bump
  let b ← match c with
    | '?' => pure (0, some 1)
    | '*' => pure (0, none)
    | '+' => pure (1, none)
    | _ => bounds
  lazyMark
  return b

/-- What a repetition applies to; what stands alone is not repeated. -/
def iterateExpr (b : Nat × Option Nat) (e : Expr) : Expr :=
  match b with
  | (1, some 1) => e
  | (0, some 0) => .empty
  | (least, most) => .iterate least most e

/-- Parts in a row.  A directive is a part without an expression. -/
def sequencePart (parts : List (Option Part)) : Part :=
  let depth := (parts.map fun p => (p.map Part.depth).getD 0).foldl max 0
  match parts.filterMap (·.map Part.expr) with
  | [] => ⟨.empty, if parts.length ≤ 1 then depth else depth + 1⟩
  | [e] => ⟨e, if parts.length ≤ 1 then depth else depth + 1⟩
  | es => ⟨.sequence es, depth + 1⟩

def setOf : Expr → Option CharSet
  | .set s => some s
  | _ => none

/-- Alternatives; sets among themselves make one set. -/
def choicePart (parts : List Part) : Part :=
  match parts with
  | [p] => p
  | _ =>
    let es := parts.map Part.expr
    let depth := (parts.map Part.depth).foldl max 0 + 1
    match es.mapM setOf with
    | some ss => ⟨.set (CharSet.normalize ss.flatten), depth⟩
    | none => ⟨.choice es, depth⟩

def dot (f : Flags) : Option Expr :=
  if !f.unicode then none
  else if f.dotAll then some (.set CharSet.everything)
  else some (.set (CharSet.complement (CharSet.ofChars (if f.crlf then ['\n', '\r'] else ['\n']))))

def circumflex (f : Flags) : Look :=
  if f.multiline then (if f.crlf then .lineStartCr else .lineStart) else .textStart

def dollar (f : Flags) : Look :=
  if f.multiline then (if f.crlf then .lineEndCr else .lineEnd) else .textEnd

def primitive : Parse Expr := do
  let f ← flags
  let c ← next
  match c with
  | '.' => (dot f : Option Expr)
  | '^' => return .look (circumflex f)
  | '$' => return .look (dollar f)
  | '\\' =>
    match ← escape with
    | .literal c octet => (literalExpr f c octet : Option Expr)
    | .set s => return .set s
    | .look l => return .look l
  | c => (literalExpr f c false : Option Expr)

mutual
def alternatives : (fuel : Nat) → List Part → Parse Part
  | 0, _ => failure
  | fuel + 1, done => do
    let p ← row fuel []
    if (← peek) == some '|' then
      bump
      alternatives fuel (p :: done)
    else return choicePart (p :: done).reverse

def row : (fuel : Nat) → List (Option Part) → Parse Part
  | 0, _ => failure
  | fuel + 1, parts => do
    skipSpace
    match ← peek with
    | none => return sequencePart parts.reverse
    | some '|' => return sequencePart parts.reverse
    | some ')' => return sequencePart parts.reverse
    | some '(' =>
      bump
      let outer ← flags
      match ← groupOpening with
      | .directive => row fuel (none :: parts)
      | .group capturing =>
        let p ← alternatives fuel []
        expect ')'
        setFlags outer
        let e := if capturing then .capture p.expr else p.expr
        row fuel (some ⟨e, p.depth + 1⟩ :: parts)
    | some '[' =>
      bump
      let (s, depth) ← bracketed fuel
      row fuel (some ⟨.set s, depth + 1⟩ :: parts)
    | some c =>
      if c = '?' ∨ c = '*' ∨ c = '+' ∨ c = '\x7b' then
        match parts with
        | some p :: before => do
          let b ← repetition c
          row fuel (some ⟨iterateExpr b p.expr, p.depth + 1⟩ :: before)
        | _ => failure
      else
        let e ← primitive
        row fuel (some ⟨e, 0⟩ :: parts)
end

def nestingLimit : Nat := 250

/-- Reads a pattern.  It has to be complete, not nested too deep, and not too large. -/
def Expr.parse? (pattern : String) : Option Expr := do
  let cs := pattern.toList
  let (p, s) ← (alternatives (2 * cs.length + 4) []).run ⟨cs, .initial, []⟩
  if s.rest.isEmpty && p.depth ≤ nestingLimit && p.expr.fits then some p.expr else none

end HeatStack.Regex
