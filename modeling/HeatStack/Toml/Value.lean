/-! # TOML values

Tables are built from headers and assignments.  A table remembers how it came about, because a table
is defined only once: by its header, or by dotted keys in one place. -/
set_option autoImplicit false
namespace HeatStack.Toml

/-- Points in time and numbers with a fraction are told apart from the rest and not read further. -/
inductive Value
  | string (s : String)
  | integer (n : Int)
  | boolean (b : Bool)
  | float
  | datetime
  | array (items : List Value)
  | table (entries : List (String × Value))

inductive Origin
  | header
  /-- On the way to a header. -/
  | path
  | dottedKey
deriving DecidableEq

inductive Item
  | value (v : Value)
  | table (origin : Origin) (entries : List (String × Item))
  /-- A table for each header in double brackets. -/
  | tables (tables : List (List (String × Item)))

abbrev Entries := List (String × Item)

namespace Entries

def put (entries : Entries) (key : String) (item : Item) : Entries :=
  if (entries.lookup key).isSome then entries.map fun e => if e.1 = key then (key, item) else e
  else entries ++ [(key, item)]

/-- A step to change the table at the end of a path.  The step gets the origin of the table, and what
is missing on the way is made.  Of several tables under one name the last is meant.  A dotted key
may not enter a table that has a header. -/
def within? (dotted : Bool) (change : Origin → Entries → Option Entries) :
    (path : List String) → Origin → Entries → Option Entries
  | [], origin, entries => change origin entries
  | key :: path, _, entries =>
    match entries.lookup key with
    | none =>
      let origin : Origin := if dotted then .dottedKey else .path
      (within? dotted change path origin []).map fun es => entries.put key (.table origin es)
    | some (.value _) => none
    | some (.table origin es) =>
      if dotted && origin == .header then none
      else (within? dotted change path origin es).map fun es => entries.put key (.table origin es)
    | some (.tables ts) =>
      (within? dotted change path .header (ts.getLastD [])).map fun es =>
        entries.put key (.tables (ts.dropLast ++ [es]))

/-- Assigns a value to a key that is not taken.  A key with a path goes into a table made by dotted
keys, any other into one that is not. -/
def assign? (path : List String) (key : String) (v : Value) (origin : Origin) (entries : Entries) :
    Option Entries :=
  within? true (fun origin es =>
    if (origin == .dottedKey) == path.isEmpty || (es.lookup key).isSome then none
    else some (es ++ [(key, .value v)])) path origin entries

/-- Opens a table by its header; it may exist only as a table on the way to another. -/
def open? (path : List String) (key : String) (entries : Entries) : Option Entries :=
  within? false (fun _ es =>
    match es.lookup key with
    | none => some (es ++ [(key, .table .header [])])
    | some (.table .path inner) => some (put es key (.table .header inner))
    | some _ => none) path .header entries

def openNext? (path : List String) (key : String) (entries : Entries) : Option Entries :=
  within? false (fun _ es =>
    match es.lookup key with
    | none => some (es ++ [(key, .tables [[]])])
    | some (.tables ts) => some (put es key (.tables (ts ++ [[]])))
    | some _ => none) path .header entries

end Entries

mutual
def Item.toValue : Item → Value
  | .value v => v
  | .table _ entries => .table (entryValues entries)
  | .tables ts => .array (tableValues ts)

def entryValues : List (String × Item) → List (String × Value)
  | [] => []
  | (k, item) :: rest => (k, item.toValue) :: entryValues rest

def tableValues : List (List (String × Item)) → List Value
  | [] => []
  | t :: rest => .table (entryValues t) :: tableValues rest
end

end HeatStack.Toml
