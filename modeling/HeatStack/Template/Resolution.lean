import HeatStack.Template.Bundle
import HeatStack.Text.Quoted

/-! # Resolution of parameters

The supplied values and the defaults of a template, merged and checked.  A resolution remembers
the template that it was made for. -/
set_option autoImplicit false
namespace HeatStack.Template
open HeatStack.Text

structure Resolution where
  template : String
  fingerprint : String
  /-- The value of each parameter, and whether it is hidden. -/
  values : Table (String × Bool)
deriving DecidableEq

namespace Resolution

def get? (r : Resolution) (name : String) : Option String := (r.values.get? name).map Prod.fst

def plain (r : Resolution) : Table String := r.values.map fun _ v => v.1

def masked (r : Resolution) : Table String := r.values.map fun _ v => if v.2 then mask else v.1

def size (r : Resolution) : Nat := r.values.entries.length

/-- A rendering for logs, which shows no hidden value. -/
def debugText (r : Resolution) : String :=
  "ResolvedParameters \x7b template: " ++ quoted r.template ++ ", values: \x7b"
    ++ String.intercalate ", " (r.masked.entries.map fun e => quoted e.1 ++ ": " ++ quoted e.2)
    ++ "\x7d \x7d"

/-- Accepts only the template that the values were resolved for. -/
def checkFor (r : Resolution) (b : Bundle) : Except InputError Unit :=
  if r.fingerprint = b.fingerprint then .ok ()
  else .error (.foreignTemplate r.template b.name)

end Resolution

/-- The value that counts for a parameter: the supplied one, else the default. -/
def effectiveValue? (supplied : Table String) (name : String) (p : Parameter) : Option String :=
  (supplied.get? name).or p.default

def resolveEntry (supplied : Table String) (name : String) (p : Parameter) :
    Except InputError (String × Bool) :=
  match effectiveValue? supplied name p with
  | none => .error (.missingValue name)
  | some value => (p.check value).map fun _ => (value, p.hidden)

/-- The entries changed one after the other; the first error ends it. -/
def resolveEntries (supplied : Table String) :
    List (String × Parameter) → Except InputError (List (String × (String × Bool)))
  | [] => .ok []
  | (name, p) :: rest =>
    match resolveEntry supplied name p with
    | .error e => .error e
    | .ok v => (resolveEntries supplied rest).map ((name, v) :: ·)

/-- Merges supplied values with defaults.  The first problem is reported: a supplied name that the
template does not declare, then, by the names of the parameters, a value that is missing or fails
its check. -/
def resolve (b : Bundle) (supplied : Table String) : Except InputError Resolution :=
  match supplied.keys.find? fun name => (b.parameters.get? name).isNone with
  | some name => .error (.unknownParameter name b.name)
  | none =>
    (resolveEntries supplied b.parameters.entries).map fun values =>
      ⟨b.name, b.fingerprint, Table.ofList values⟩

end HeatStack.Template
