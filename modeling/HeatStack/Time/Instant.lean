import HeatStack.Text.Ascii
import HeatStack.Text.Blank

/-! # Points in time

A point in time is a date and a time of day in UTC, to the nanosecond; the sixtieth second of a
minute is a leap second.  `Instant.text` writes it in ISO 8601, with as many groups of three places
as it needs.  `Instant.parse?` also reads texts with blanks between their parts, a blank before the
time, short fields, signed years, and an offset of hours and minutes. -/
set_option autoImplicit false
namespace HeatStack.Time
open HeatStack.Text

structure Date where
  year : Int
  month : Nat
  day : Nat
deriving DecidableEq

namespace Date

def isLeap (year : Int) : Bool := year % 4 == 0 && (year % 100 != 0 || year % 400 == 0)

def daysIn (year : Int) (month : Nat) : Nat :=
  if month = 2 then (if isLeap year then 29 else 28)
  else if [4, 6, 9, 11].contains month then 30 else 31

def firstYear : Int := -262143

def lastYear : Int := 262142

def isValid (d : Date) : Bool :=
  firstYear ≤ d.year && d.year ≤ lastYear && 1 ≤ d.month && d.month ≤ 12
    && 1 ≤ d.day && d.day ≤ daysIn d.year d.month

def next (d : Date) : Date :=
  if d.day < daysIn d.year d.month then { d with day := d.day + 1 }
  else if d.month < 12 then ⟨d.year, d.month + 1, 1⟩
  else ⟨d.year + 1, 1, 1⟩

def previous (d : Date) : Date :=
  if 1 < d.day then { d with day := d.day - 1 }
  else if 1 < d.month then ⟨d.year, d.month - 1, daysIn d.year (d.month - 1)⟩
  else ⟨d.year - 1, 12, 31⟩

/-- The date so many days after the first of January 1970.  Years are counted from March on, so that
a leap day ends its year. -/
def afterEpoch (days : Nat) : Date :=
  let shifted := days + 719468
  let cycle := shifted / 146097
  let ofCycle := shifted % 146097
  let year := (ofCycle - ofCycle / 1460 + ofCycle / 36524 - ofCycle / 146096) / 365
  let ofYear := ofCycle - (365 * year + year / 4 - year / 100)
  let monthFromMarch := (5 * ofYear + 2) / 153
  let month := if monthFromMarch < 10 then monthFromMarch + 3 else monthFromMarch - 9
  ⟨cycle * 400 + year + (if month ≤ 2 then 1 else 0), month,
    ofYear - (153 * monthFromMarch + 2) / 5 + 1⟩

end Date

/-- The parts of a point in time, which may be out of their ranges. -/
structure Fields where
  date : Date
  hour : Nat
  minute : Nat
  second : Nat
  nano : Nat
deriving DecidableEq

def Fields.isValid (f : Fields) : Bool :=
  f.date.isValid && f.hour < 24 && f.minute < 60 && f.second ≤ 60 && f.nano < 1000000000

structure Instant where
  fields : Fields
  valid : fields.isValid = true
deriving DecidableEq

namespace Instant

def ofFields? (f : Fields) : Option Instant :=
  if h : f.isValid = true then some ⟨f, h⟩ else none

def epoch : Instant := ⟨⟨⟨1970, 1, 1⟩, 0, 0, 0, 0⟩, by decide⟩

/-- The time so many nanoseconds after the epoch, without leap seconds. -/
def afterEpoch (nanoseconds : Nat) : Instant :=
  let seconds := nanoseconds / 1000000000
  let ofDay := seconds % 86400
  (ofFields? ⟨.afterEpoch (seconds / 86400), ofDay / 3600, ofDay / 60 % 60, ofDay % 60,
    nanoseconds % 1000000000⟩).getD epoch

/-! ## Writing -/

def padded : (width n : Nat) → List Char
  | 0, _ => []
  | width + 1, n => padded width (n / 10) ++ [Char.ofNat (48 + n % 10)]

/-- A year of four digits; every other one has a sign. -/
def yearText (y : Int) : List Char :=
  if 0 ≤ y ∧ y ≤ 9999 then padded 4 y.toNat
  else
    let width := max 4 (toString y.natAbs).length
    (if y < 0 then '-' else '+') :: padded width y.natAbs

def fractionText (nano : Nat) : List Char :=
  if nano = 0 then []
  else if nano % 1000000 = 0 then '.' :: padded 3 (nano / 1000000)
  else if nano % 1000 = 0 then '.' :: padded 6 (nano / 1000)
  else '.' :: padded 9 nano

def clockText (f : Fields) : List Char :=
  padded 2 f.hour ++ ':' :: padded 2 f.minute ++ ':' :: padded 2 f.second

def text (t : Instant) : String :=
  let f := t.fields
  String.ofList (yearText f.date.year ++ '-' :: padded 2 f.date.month ++ '-' :: padded 2 f.date.day
    ++ 'T' :: clockText f ++ fractionText f.nano ++ ['Z'])

def timeOfDay (t : Instant) : String := String.ofList (clockText t.fields)

/-! ## Reading -/

/-- Up to `width` digits, at least one, after blanks. -/
def natural? (width : Nat) (cs : List Char) : Option (Nat × List Char) :=
  let cs := trimLeft cs
  let ds := (cs.take width).takeWhile isDigit
  if ds.isEmpty then none else some (decimal ds, cs.drop ds.length)

/-- Four digits, or any number after a sign. -/
def year? (cs : List Char) : Option (Int × List Char) :=
  let signed (r : List Char) : Option (Nat × List Char) :=
    let ds := r.takeWhile isDigit
    if ds.isEmpty then none else some (decimal ds, r.drop ds.length)
  match trimLeft cs with
  | '-' :: r => (signed r).map fun (n, r) => (-(n : Int), r)
  | '+' :: r => (signed r).map fun (n, r) => ((n : Int), r)
  | r => (natural? 4 r).map fun (n, r) => ((n : Int), r)

def mark? (c : Char) (cs : List Char) : Option (List Char) :=
  match trimLeft cs with
  | d :: r => if d = c then some r else none
  | [] => none

/-- The places after a point, cut after nine. -/
def fraction? (cs : List Char) : Option (Nat × List Char) :=
  match cs with
  | '.' :: r =>
    let ds := r.takeWhile isDigit
    if ds.isEmpty then none
    else
      let kept := ds.take 9
      some (decimal kept * Nat.pow 10 (9 - kept.length), r.drop ds.length)
  | r => some (0, r)

def twoDigits? : List Char → Option (Nat × List Char)
  | a :: b :: r => if isDigit a && isDigit b then some (decimal [a, b], r) else none
  | _ => none

/-- The minutes by which a local time is ahead of UTC. -/
def offset? (cs : List Char) : Option (Int × List Char) :=
  if lower (String.ofList (cs.take 3)) = "utc" then some (0, cs.drop 3)
  else
    let signed (sign : Int) (r : List Char) : Option (Int × List Char) := do
      let (hours, r) ← twoDigits? r
      let (minutes, r) ← twoDigits? (r.dropWhile fun c => c = ':' || isBlank c)
      if hours < 24 ∧ minutes < 60 then some (sign * (hours * 60 + minutes : Nat), r) else none
    match cs with
    | 'Z' :: r => some (0, r)
    | 'z' :: r => some (0, r)
    | '+' :: r => signed 1 r
    | '-' :: r => signed (-1) r
    | '\u2212' :: r => signed (-1) r
    | _ => none

/-- The same point in time for a clock that is `minutes` behind. -/
def shift (f : Fields) (minutes : Int) : Fields :=
  let total := (f.hour * 60 + f.minute : Nat) - minutes
  let ofDay := total % 1440
  let date := if total < 0 then f.date.previous else if 1440 ≤ total then f.date.next else f.date
  { f with date := date, hour := (ofDay / 60).toNat, minute := (ofDay % 60).toNat }

def parse? (s : String) : Option Instant := do
  let (year, r) ← year? s.toList
  let (month, r) ← natural? 2 (← mark? '-' r)
  let (day, r) ← natural? 2 (← mark? '-' r)
  let r ← match r with
    | c :: r => if c = 't' ∨ c = 'T' ∨ c = ' ' then some r else none
    | [] => none
  let (hour, r) ← natural? 2 r
  let (minute, r) ← natural? 2 (← mark? ':' r)
  let (second, r) ← natural? 2 (← mark? ':' r)
  let (nano, r) ← fraction? r
  let (offset, r) ← offset? (trimLeft r)
  if !(trimLeft r).isEmpty then failure
  let wall ← ofFields? ⟨⟨year, month, day⟩, hour, minute, second, nano⟩
  ofFields? (shift wall.fields offset)

end Instant
end HeatStack.Time
