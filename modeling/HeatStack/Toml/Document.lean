import HeatStack.Toml.Scalar

/-! # TOML documents

A document is read line by line: comments, headers of tables, and assignments to keys of the table
whose header came last.  The document as a whole is one table. -/
set_option autoImplicit false
namespace HeatStack.Toml
open HeatStack.Text

/-! ## Keys -/

/-- How long a path of keys may be, and how deep arrays and inline tables may be nested. -/
def depthLimit : Nat := 79

def isBareKeyChar (c : Char) : Bool := isLetter c || isDigit c || c == '-' || c == '_'

def simpleKey? (cs : List Char) : Option (String × List Char) :=
  match cs with
  | '"' :: r => (basic? (r.length + 1) r).map fun (s, r) => (String.ofList s, r)
  | '\'' :: r => (literal? r).map fun (s, r) => (String.ofList s, r)
  | r =>
    let s := r.takeWhile isBareKeyChar
    if s.isEmpty then none else some (String.ofList s, r.drop s.length)

/-- Keys with points between them, and blanks anywhere around them. -/
def keys? : (fuel : Nat) → List Char → Option (List String × List Char)
  | 0, _ => none
  | fuel + 1, cs => do
    let (k, r) ← simpleKey? (skipSpaces cs)
    match skipSpaces r with
    | '.' :: r => (keys? fuel r).map fun (ks, r) => (k :: ks, r)
    | r => some ([k], r)

def path? (cs : List Char) : Option (List String × String × List Char) := do
  let (ks, r) ← keys? (depthLimit + 1) cs
  let key ← ks.getLast?
  if ks.length ≤ depthLimit then some (ks.dropLast, key, r) else none

/-! ## Values -/

def skipLines? : (fuel : Nat) → List Char → Option (List Char)
  | 0, _ => none
  | fuel + 1, cs =>
    match skipSpaces cs with
    | '#' :: r => (newline? (r.dropWhile isTextChar)).bind (skipLines? fuel)
    | '\n' :: r => skipLines? fuel r
    | '\r' :: r => (newline? ('\r' :: r)).bind (skipLines? fuel)
    | r => some r

def word? (word : String) (v : Value) (cs : List Char) : Option (Value × List Char) :=
  if word.toList.isPrefixOf cs then some (v, cs.drop word.length) else none

mutual
/-- One value, in which `room` more levels may be nested. -/
def value? (room : Nat) : (fuel : Nat) → List Char → Option (Value × List Char)
  | 0, _ => none
  | fuel + 1, cs =>
    match cs with
    | '[' :: r =>
      if room = 0 then none
      else (items? (room - 1) fuel r).map fun (vs, r) => (.array vs, r)
    | '\x7b' :: r =>
      if room = 0 then none
      else
        match skipSpaces r with
        | '\x7d' :: r => some (.table [], r)
        | r => (pairs? (room - 1) fuel [] r).map fun (es, r) => (.table (entryValues es), r)
    | '"' :: _ => (string? cs).map fun (s, r) => (.string s, r)
    | '\'' :: _ => (string? cs).map fun (s, r) => (.string s, r)
    | 't' :: _ => word? "true" (.boolean true) cs
    | 'f' :: _ => word? "false" (.boolean false) cs
    | _ =>
      match datetime? cs with
      | some r => some (.datetime, r)
      | none => number? cs

/-- The items of an array up to its bracket; a comma may follow the last. -/
def items? (room : Nat) : (fuel : Nat) → List Char → Option (List Value × List Char)
  | 0, _ => none
  | fuel + 1, cs => do
    match ← skipLines? (cs.length + 1) cs with
    | ']' :: r => some ([], r)
    | r => do
      let (v, r) ← value? room fuel r
      match ← skipLines? (r.length + 1) r with
      | ',' :: r => do
        let (vs, r) ← items? room fuel r
        some (v :: vs, r)
      | ']' :: r => some ([v], r)
      | _ => none

/-- The assignments of an inline table up to its brace, all on one line and without a comma after
the last. -/
def pairs? (room : Nat) : (fuel : Nat) → Entries → List Char → Option (Entries × List Char)
  | 0, _, _ => none
  | fuel + 1, entries, cs => do
    let (path, key, r) ← path? cs
    match r with
    | '=' :: r => do
      let (v, r) ← value? room fuel (skipSpaces r)
      let entries ← Entries.assign? path key v .header entries
      match skipSpaces r with
      | ',' :: r => pairs? room fuel entries r
      | '\x7d' :: r => some (entries, r)
      | _ => none
    | _ => none
end

/-! ## Lines -/

def lineEnd? (cs : List Char) : Option (List Char) :=
  let r := match skipSpaces cs with
    | '#' :: r => r.dropWhile isTextChar
    | r => r
  if r.isEmpty then some [] else newline? r

/-- The entries so far and the path of the table that is being filled. -/
structure Progress where
  entries : Entries
  current : List String

def header? (p : Progress) (many : Bool) (cs : List Char) : Option (Progress × List Char) := do
  let (path, key, r) ← path? cs
  let r ← match many, r with
    | false, ']' :: r => some r
    | true, ']' :: ']' :: r => some r
    | _, _ => none
  let entries ←
    if many then Entries.openNext? path key p.entries else Entries.open? path key p.entries
  some (⟨entries, path ++ [key]⟩, ← lineEnd? r)

def assignment? (p : Progress) (cs : List Char) : Option (Progress × List Char) := do
  let (path, key, r) ← path? cs
  match r with
  | '=' :: r => do
    let r := skipSpaces r
    let (v, r) ← value? depthLimit (r.length + 1) r
    let entries ←
      Entries.within? false (Entries.assign? path key v) p.current .header p.entries
    some ({ p with entries := entries }, ← lineEnd? r)
  | _ => none

def line? (p : Progress) (cs : List Char) : Option (Progress × List Char) :=
  match cs with
  | '#' :: _ => (lineEnd? cs).map fun r => (p, r)
  | '\n' :: r => some (p, r)
  | '\r' :: _ => (newline? cs).map fun r => (p, r)
  | '[' :: '[' :: r => header? p true r
  | '[' :: r => header? p false r
  | cs => assignment? p cs

/-- The lines one after the other; each takes at least a character. -/
def lines? : (fuel : Nat) → Progress → List Char → Option Entries
  | 0, _, _ => none
  | fuel + 1, p, cs =>
    match skipSpaces cs with
    | [] => some p.entries
    | cs => do
      let (p, r) ← line? p cs
      lines? fuel p r

/-- The entries of a whole document, before which a mark of the byte order may stand. -/
def parse? (text : String) : Option (List (String × Value)) :=
  let cs := match text.toList with
    | '\ufeff' :: r => r
    | cs => cs
  (lines? (cs.length + 1) ⟨[], []⟩ cs).map entryValues

end HeatStack.Toml
