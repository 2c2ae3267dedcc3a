import HeatStack.Unicode.Bidirectional
import HeatStack.Unicode.Category
import HeatStack.Unicode.Composition
import HeatStack.Unicode.DomainMapping
import HeatStack.Unicode.Joining
import HeatStack.Url.Punycode

/-! # Domains

The name of a domain is a text of labels with points between them.  Its characters are brought into
their common forms, and each label is checked on its own; then all are checked together, if some are
written to the left.  `toAscii?` gives the name as it is looked up: a label with characters outside
ASCII is written in Punycode after the mark `xn--`, and one that is given so has to be well formed
too. -/
set_option autoImplicit false
namespace HeatStack.Url.Domain
open HeatStack.Text HeatStack.Unicode

/-! ## Texts -/

/-- The octets of a text whose percent escapes are replaced by what they stand for. -/
def octets : List Char → List UInt8
  | '%' :: a :: b :: r =>
    match hexValue? a, hexValue? b with
    | some x, some y => UInt8.ofNat (16 * x + y) :: octets r
    | _, _ => 37 :: octets (a :: b :: r)
  | c :: r => (String.singleton c).toUTF8.toList ++ octets r
  | [] => []

def isForbidden (c : Char) : Bool :=
  c.toNat ≤ 32 || c.toNat = 127 || "%#/:<>?@[\\]^|".toList.contains c

def mapText? (cs : List Char) : Option (List Char) :=
  (cs.mapM mapChar?).map fun parts => compose parts.flatten

/-! ## Labels -/

def isAscii (cs : List Char) : Bool := cs.all Punycode.isAscii

def marks : CharSet := (category? "m").getD []

/-- No label begins with a mark. -/
def beginsWell (cs : List Char) : Bool := !(cs.head?.map marks.mem).getD false

def nonJoiner : Char := '\u200c'

def joiner : Char := '\u200d'

/-- The way that the next character joins through transparent ones. -/
def joiningNext (cs : List Char) : Joining :=
  ((cs.map joining).find? (· != .transparent)).getD .none

/-- Whether a character may stand between those before it, the last one first, and those after it.
A joiner belongs after the mark that silences a vowel; a non-joiner also between letters that would
join. -/
def joinsWell (before : List Char) (c : Char) (after : List Char) : Bool :=
  let afterVirama := (before.head?.map combiningClass).getD 0 == viramaClass
  if c = joiner then afterVirama
  else if c = nonJoiner then
    afterVirama || ([Joining.left, .both].contains (joiningNext before)
      && [Joining.right, .both].contains (joiningNext after))
  else true

def allJoinWell (before : List Char) : List Char → Bool
  | [] => true
  | c :: rest => joinsWell before c rest && allJoinWell (c :: before) rest

def mark : List Char := "xn--".toList

def label? (cs : List Char) : Option (List Char) :=
  if mark.isPrefixOf cs then do
    let decoded ← if isAscii cs then Punycode.decode? (cs.drop mark.length) else none
    if !isAscii decoded && decoded.all isKept && compose decoded == decoded
        && !mark.isPrefixOf decoded && beginsWell decoded && allJoinWell [] decoded then
      some decoded
    else none
  else if beginsWell cs && allJoinWell [] cs then some cs
  else none

def asciiLabel (cs : List Char) : List Char :=
  if isAscii cs then cs else mark ++ Punycode.encode cs

/-! ## Directions -/

def isLeftward (d : Direction) : Bool := d == .rightToLeft || d == .arabicLetter

def isNeutral (d : Direction) : Bool :=
  [Direction.number, .numberSign, .numberSeparator, .numberEnd, .neutral, .boundary, .mark].contains d

/-- Whether a label has one direction, which its first character gives, and ends with it or with a
number, marks aside; numbers of two kinds do not go together. -/
def directedWell (cs : List Char) : Bool :=
  let ds := cs.map direction
  let last := ds.reverse.find? (· != .mark)
  match ds with
  | [] => true
  | .leftToRight :: _ =>
    ds.all (fun d => d == .leftToRight || isNeutral d)
      && (last == some .leftToRight || last == some .number)
  | d :: _ =>
    isLeftward d && ds.all (fun d => isLeftward d || d == .arabicNumber || isNeutral d)
      && (last.map fun d => isLeftward d || d == .number || d == .arabicNumber).getD false
      && !(ds.contains .number && ds.contains .arabicNumber)

/-- Directions count as soon as one label has characters that are written to the left. -/
def allDirectedWell (labels : List (List Char)) : Bool :=
  let leftward (c : Char) : Bool :=
    let d := direction c
    isLeftward d || d == .arabicNumber
  !(labels.any fun cs => cs.any leftward) || labels.all directedWell

/-! ## Names -/

def toAscii? (cs : List Char) : Option (List Char) := do
  let mapped ← mapText? cs
  if mapped.any isForbidden then failure
  let labels ← (splitOn '.' mapped).mapM label?
  if allDirectedWell labels then some (['.'].intercalate (labels.map asciiLabel)) else none

def ofHost? (cs : List Char) : Option (List Char) := do
  let text ← String.fromUTF8? ⟨(octets cs).toArray⟩
  toAscii? text.toList

end HeatStack.Url.Domain
