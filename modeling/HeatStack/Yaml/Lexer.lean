import HeatStack.Yaml.ScalarText

/-! # From YAML text to tokens

The lexer keeps a stack of block indentations and, for every level of brackets, the place where
a key may have begun.  A colon turns that place into a key: the key token, and the start of a
block mapping where the indentation asks for one, are put in front of what was read since. -/
set_option autoImplicit false
namespace HeatStack.Yaml
open HeatStack.Text

/-- A place where a key may have begun. -/
structure KeyPlace where
  /-- Nothing but a key can stand here, being at the indentation of the block mapping. -/
  required : Bool
  /-- Tokens emitted before it. -/
  position : Nat
  index : Nat
  line : Nat
  column : Nat

/-- A key is on one line and at most this many characters long. -/
def longestKey : Nat := 1024

structure Lexer where
  cursor : Cursor
  /-- The newest first. -/
  emitted : List Token
  /-- The possible key of the innermost bracket, then those of the brackets around it and of the
  block. -/
  keys : List (Option KeyPlace)
  indent : Int
  outer : List Int
  keyAllowed : Bool

namespace Lexer

def start (cs : List Char) : Lexer := ⟨.start cs, [], [none], -1, [], true⟩

def inFlow (l : Lexer) : Bool := 1 < l.keys.length

def emit (l : Lexer) (t : Token) : Lexer := { l with emitted := t :: l.emitted }

/-- Puts a token in front of all but the first `position` tokens. -/
def insertAt (l : Lexer) (position : Nat) (t : Token) : Lexer :=
  let behind := l.emitted.length - position
  { l with emitted := l.emitted.take behind ++ t :: l.emitted.drop behind }

def setKey (l : Lexer) (k : Option KeyPlace) : Lexer :=
  { l with keys := k :: l.keys.tail }

def allowKey (l : Lexer) (b : Bool) : Lexer := { l with keyAllowed := b }

def withCursor (l : Lexer) (c : Cursor) : Lexer := { l with cursor := c }

/-- Gives up the possible key; a required one must not be given up. -/
def dropKey? (l : Lexer) : Option Lexer :=
  match l.keys with
  | some k :: _ => if k.required then none else some (l.setKey none)
  | _ => some l

def noteKey? (l : Lexer) : Option Lexer :=
  if l.keyAllowed then do
    let l ← l.dropKey?
    let c := l.cursor
    some (l.setKey (some
      ⟨!l.inFlow && l.indent = c.column, l.emitted.length, c.index, c.line, c.column⟩))
  else some l

/-- Closes the blocks that are indented deeper than `column`. -/
def unroll (column : Int) : Nat → Lexer → Lexer
  | 0, l => l
  | n + 1, l =>
    if l.inFlow ∨ l.indent ≤ column then l
    else unroll column n
      { l.emit .blockEnd with indent := l.outer.headD (-1), outer := l.outer.tail }

def unrollTo (l : Lexer) (column : Int) : Lexer := unroll column l.outer.length l

/-- Opens a block at `column` if none is open there. -/
def roll (l : Lexer) (column : Nat) (position : Nat) (t : Token) : Lexer :=
  if !l.inFlow && l.indent < column then
    { l.insertAt position t with indent := column, outer := l.indent :: l.outer }
  else l

def rollHere (l : Lexer) (t : Token) : Lexer := l.roll l.cursor.column l.emitted.length t

/-- Passes blanks, comments and line breaks up to the next token. -/
def toToken : (fuel : Nat) → Lexer → Lexer
  | 0, l => l
  | fuel + 1, l =>
    let c := l.cursor
    let c := if c.column = 0 ∧ c.rest.head? = some '\ufeff' then c.skip else c
    let c := c.skipWhile fun ch => ch == ' ' || (ch == '\t' && (l.inFlow || !l.keyAllowed))
    let c := if c.rest.head? = some '#' then c.skipLine else c
    if c.rest.head?.any isBreak then
      toToken fuel { l with cursor := c.skipBreak, keyAllowed := l.keyAllowed || !l.inFlow }
    else l.withCursor c

/-! ## Directives, tags and names -/

def name (c : Cursor) : String × Cursor :=
  let cs := c.rest.takeWhile isNameChar
  (String.ofList cs, c.skipMany cs.length)

/-- A part of a version: one to nine digits. -/
def versionPart? (c : Cursor) : Option (Nat × Cursor) :=
  let ds := c.rest.takeWhile isDigit
  if ds.isEmpty ∨ 9 < ds.length then none else some (decimal ds, c.skipMany ds.length)

/-- A handle is `!`, or a name between two of them.  A directive admits no other form, but at a
tag the rest of a name is part of the tag itself. -/
def handle? (directive : Bool) (c : Cursor) : Option (List Char × Cursor) :=
  match c.rest with
  | '!' :: r =>
    let body := r.takeWhile isNameChar
    let c := c.skipMany (body.length + 1)
    if c.rest.head? = some '!' then some ('!' :: body ++ ['!'], c.skip)
    else if directive ∧ !body.isEmpty then none
    else some ('!' :: body, c)
  | _ => none

def isTagChar (full : Bool) (c : Char) : Bool :=
  isNameChar c || ";/?:@&=+$.!~*'()".toList.contains c || (full && (c == ',' || c == '[' || c == ']'))

def octet? : List Char → Option (Nat × List Char)
  | '%' :: a :: b :: r => do
    let a ← hexValue? a
    let b ← hexValue? b
    some (a * 16 + b, r)
  | _ => none

def continuation? : (n : Nat) → (code : Nat) → List Char → Option (Nat × List Char)
  | 0, code, cs => some (code, cs)
  | n + 1, code, cs => do
    let (o, r) ← octet? cs
    if o / 64 = 2 then continuation? n (code * 64 + o % 64) r else none

def octets? (cs : List Char) : Option (Char × List Char) := do
  let (o, r) ← octet? cs
  let (code, r) ←
    if o < 0x80 then some (o, r)
    else if o / 32 = 6 then continuation? 1 (o % 32) r
    else if o / 16 = 14 then continuation? 2 (o % 16) r
    else if o / 8 = 30 then continuation? 3 (o % 8) r
    else none
  some (Char.ofNat code, r)

def tagChars? (full : Bool) : (fuel : Nat) → List Char → Option (List Char × List Char)
  | 0, cs => some ([], cs)
  | fuel + 1, cs =>
    match cs with
    | [] => some ([], [])
    | c :: r =>
      if c = '%' then do
        let (ch, r) ← octets? cs
        let (more, r) ← tagChars? full fuel r
        some (ch :: more, r)
      else if isTagChar full c then (tagChars? full fuel r).map fun (more, r) => (c :: more, r)
      else some ([], cs)

def tagText? (full : Bool) (before : List Char) (c : Cursor) : Option (List Char × Cursor) := do
  let (cs, r) ← tagChars? full c.rest.length c.rest
  if before.isEmpty ∧ cs.isEmpty then none
  else some (before.tail ++ cs, c.skipMany (c.rest.length - r.length))

def isLongHandle (h : List Char) : Bool := 1 < h.length && h.getLast? = some '!'

/-- A tag with its text written out between angle brackets, or a handle and a suffix. -/
def tag? (flow : Bool) (c : Cursor) : Option (Token × Cursor) := do
  let (handle, suffix, c) ←
    if c.rest.tail.head? = some '<' then do
      let (text, c) ← tagText? true [] (c.skipMany 2)
      if c.rest.head? = some '>' then some ([], text, c.skip) else none
    else do
      let (h, c) ← handle? false c
      if isLongHandle h then do
        let (text, c) ← tagText? false [] c
        some (h, text, c)
      else do
        let (text, c) ← tagText? false h c
        if text.isEmpty then some ([], ['!'], c) else some (['!'], text, c)
  if (flow ∧ c.rest.head? = some ',') ∨ atGap c.rest then
    some (.tag (String.ofList handle) (String.ofList suffix), c)
  else none

def anchorName? (c : Cursor) : Option (String × Cursor) :=
  let (n, c) := name c.skip
  let ends := match c.rest with
    | [] => true
    | ch :: _ => isSpaceOrBreak ch || "?:,]\x7d%@\x60".toList.contains ch
  if n = "" ∨ !ends then none else some (n, c)

def directive? (c : Cursor) : Option (Token × Cursor) := do
  let (n, c) := name c.skip
  let blanks (c : Cursor) : Cursor := c.skipWhile isSpace
  if n = "" ∨ !atGap c.rest then none
  else
    let (t, c) ←
      if n = "YAML" then do
        let (major, c) ← versionPart? (blanks c)
        if c.rest.head? = some '.' then do
          let (minor, c) ← versionPart? c.skip
          some (Token.versionDirective major minor, c)
        else none
      else if n = "TAG" then do
        let (h, c) ← handle? true (blanks c)
        if !c.rest.head?.any isSpace then none
        else do
          let (text, c) ← tagText? true [] (blanks c)
          if atGap c.rest then some (Token.tagDirective (String.ofList h) (String.ofList text), c)
          else none
      else none
    let c := blanks c
    let c := if c.rest.head? = some '#' then c.skipLine else c
    if atBreak c.rest then some (t, c.skipBreak) else none

/-! ## One token at a time -/

def mark (l : Lexer) (t : Token) : Lexer := (l.withCursor l.cursor.skip).emit t

def openFlow? (l : Lexer) (t : Token) : Option Lexer := do
  let l ← l.noteKey?
  some ({ l with keys := none :: l.keys, keyAllowed := true }.mark t)

def closeFlow? (l : Lexer) (t : Token) : Option Lexer := do
  let l ← l.dropKey?
  let keys := if l.inFlow then l.keys.tail else l.keys
  some ({ l with keys := keys, keyAllowed := false }.mark t)

def documentMark? (l : Lexer) (t : Token) : Option Lexer := do
  let l ← (l.unrollTo (-1)).dropKey?
  some (((l.allowKey false).withCursor (l.cursor.skipMany 3)).emit t)

def blockEntry? (l : Lexer) : Option Lexer := do
  if !l.inFlow && !l.keyAllowed then none
  else
    let l ← (l.rollHere .blockSequenceStart).dropKey?
    some ((l.allowKey true).mark .blockEntry)

def key? (l : Lexer) : Option Lexer := do
  if !l.inFlow && !l.keyAllowed then none
  else
    let l ← (l.rollHere .blockMappingStart).dropKey?
    some ((l.allowKey (!l.inFlow)).mark .key)

/-- Whether the possible key is on this line and not too far back. -/
def KeyPlace.reaches (k : KeyPlace) (c : Cursor) : Bool :=
  k.line == c.line && c.index ≤ k.index + longestKey

def value? (l : Lexer) : Option Lexer :=
  let unkeyed (l : Lexer) : Option Lexer :=
    if !l.inFlow && !l.keyAllowed then none
    else some (((l.rollHere .blockMappingStart).allowKey (!l.inFlow)).mark .value)
  match l.keys with
  | some k :: _ =>
    if KeyPlace.reaches k l.cursor then
      let l := (l.insertAt k.position .key).roll k.column k.position .blockMappingStart
      some (((l.setKey none).allowKey false).mark .value)
    else if k.required then none
    else unkeyed (l.setKey none)
  | _ => unkeyed l

def keyToken? (l : Lexer) (read : Cursor → Option (Token × Cursor)) : Option Lexer := do
  let l ← l.noteKey?
  let (t, c) ← read l.cursor
  some (((l.allowKey false).withCursor c).emit t)

def quotedToken? (single : Bool) (c : Cursor) : Option (Token × Cursor) :=
  (quoted? single (c.rest.length + 1) c.skip).map fun (text, c) =>
    (.scalar false (String.ofList text), c)

def blockToken? (l : Lexer) (literal : Bool) : Option Lexer := do
  let l ← l.dropKey?
  let (text, c) ← block? literal l.indent l.cursor.skip
  some (((l.allowKey true).withCursor c).emit (.scalar false (String.ofList text)))

def plainToken? (l : Lexer) : Option Lexer := do
  let l ← l.noteKey?
  let s ← plain? l.inFlow (l.indent + 1) (l.cursor.rest.length + 1) l.cursor .none
  some (((l.allowKey s.afterBreak).withCursor s.next).emit (.scalar true (String.ofList s.text)))

/-- Whether a plain scalar may begin here: its first character is no indicator, or is a dash, a
question mark or a colon with something directly behind it. -/
def startsPlain (flow : Bool) : List Char → Bool
  | [] => false
  | c :: r =>
    if c = '-' then !r.head?.any isSpace
    else if c = '?' ∨ c = ':' then !flow && !atGap r
    else !isSpaceOrBreak c && !",[]\x7b\x7d#&*!|>'\"%@\x60".toList.contains c

def next? (l : Lexer) : Option Lexer :=
  let c := l.cursor
  let flow := l.inFlow
  let gapBehind := flow || atGap c.rest.tail
  match c.rest with
  | [] => none
  | ch :: r =>
    if c.column = 0 ∧ ch = '%' then do
      let l ← (l.unrollTo (-1)).dropKey?
      let (t, c) ← directive? l.cursor
      some (((l.allowKey false).withCursor c).emit t)
    else if c.column = 0 ∧ atDocumentMark c.rest then
      l.documentMark? (if ch = '-' then .documentStart else .documentEnd)
    else if ch = '[' then l.openFlow? .flowSequenceStart
    else if ch = '\x7b' then l.openFlow? .flowMappingStart
    else if ch = ']' then l.closeFlow? .flowSequenceEnd
    else if ch = '\x7d' then l.closeFlow? .flowMappingEnd
    else if ch = ',' then l.dropKey?.map fun l => (l.allowKey true).mark .flowEntry
    else if ch = '-' ∧ atGap r then l.blockEntry?
    else if ch = '?' ∧ gapBehind then l.key?
    else if ch = ':' ∧ gapBehind then l.value?
    else if ch = '*' then
      l.keyToken? fun c => (anchorName? c).map fun (n, c) => (.alias n, c)
    else if ch = '&' then
      l.keyToken? fun c => (anchorName? c).map fun (n, c) => (.anchor n, c)
    else if ch = '!' then l.keyToken? (tag? flow)
    else if ch = '|' ∧ !flow then l.blockToken? true
    else if ch = '>' ∧ !flow then l.blockToken? false
    else if ch = '\'' then l.keyToken? (quotedToken? true)
    else if ch = '"' then l.keyToken? (quotedToken? false)
    else if startsPlain flow c.rest then l.plainToken?
    else none

/-- Reads tokens until the text ends and closes the blocks that are open then. -/
def run? : (fuel : Nat) → Lexer → Option Lexer
  | 0, _ => none
  | fuel + 1, l =>
    let l := toToken (l.cursor.rest.length + 1) l
    let l := l.unrollTo l.cursor.column
    if l.cursor.rest.isEmpty then (l.unrollTo (-1)).dropKey?
    else do
      let l ← l.next?
      run? fuel l

end Lexer

/-- The tokens of a text.  Every token takes a character, so their number bounds the steps. -/
def tokens? (s : String) : Option (List Token) :=
  let cs := s.toList
  if cs.all isAdmitted then
    (Lexer.run? (cs.length + 1) (.start cs)).map fun l => l.emitted.reverse
  else none

end HeatStack.Yaml
