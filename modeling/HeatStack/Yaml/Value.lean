import HeatStack.Number.Numeric
import HeatStack.Yaml.Node

/-! # YAML values

A value is what a document means: scalars are resolved, aliases are followed, and tags of one's
own (those that begin with `!`) are kept around what they mark.  A mapping keeps the order of its
entries, but equality does not look at it. -/
set_option autoImplicit false
namespace HeatStack.Yaml
open HeatStack.Number HeatStack.Text

inductive Value
  | null
  | bool (b : Bool)
  | number (n : Numeric)
  | string (s : String)
  | sequence (items : List Value)
  | mapping (entries : List (Value × Value))
  | tagged (tag : String) (value : Value)

namespace Value

mutual
/-- Equality of meaning.  Numbers are equal only within their kind. -/
def same : Value → Value → Bool
  | .null, .null => true
  | .bool a, .bool b => a == b
  | .number a, .number b => a.same b
  | .string a, .string b => a == b
  | .sequence as, .sequence bs => sameItems as bs
  | .mapping as, .mapping bs => as.length == bs.length && allFound as bs
  | .tagged s a, .tagged t b => s == t && same a b
  | _, _ => false

def sameItems : List Value → List Value → Bool
  | [], [] => true
  | a :: as, b :: bs => same a b && sameItems as bs
  | _, _ => false

def allFound : List (Value × Value) → List (Value × Value) → Bool
  | [], _ => true
  | (k, v) :: as, bs => bs.any (fun e => same k e.1 && same v e.2) && allFound as bs
end

def distinctKeys : List (Value × Value) → Bool
  | [] => true
  | (k, _) :: rest => !rest.any (fun e => same k e.1) && distinctKeys rest

def untagged : Value → Value
  | .tagged _ v => v.untagged
  | v => v

end Value

/-! ## Scalars -/

namespace Scalar

def isNullWord (s : String) : Bool := ["null", "Null", "NULL", "~"].contains s

def bool? (s : String) : Option Bool :=
  if ["true", "True", "TRUE"].contains s then some true
  else if ["false", "False", "FALSE"].contains s then some false
  else none

def dropSign : List Char → List Char
  | '-' :: r => r
  | '+' :: r => r
  | r => r

/-- Digits after a leading zero are no number. -/
def hasLeadingZero (cs : List Char) : Bool :=
  match dropSign cs with
  | '0' :: c :: r => (c :: r).all isDigit
  | _ => false

def startsSigned (cs : List Char) : Bool := cs.head? = some '+' || cs.head? = some '-'

def digits? (base : Nat) (ds : List Char) : Option Nat :=
  if ds.isEmpty then none else numeral? base ds

def base? : Char → Option Nat
  | 'x' => some 16
  | 'o' => some 8
  | 'b' => some 2
  | _ => none

def based? : List Char → Option Nat
  | '0' :: m :: r => (base? m).bind fun b => digits? b r
  | _ => none

def natural? (cs : List Char) : Option Nat :=
  let body := match cs with
    | '+' :: r => r
    | r => r
  match based? body with
  | some n => some n
  | none => if hasLeadingZero cs then none else digits? 10 body

def negated? : List Char → Option Nat
  | '-' :: r =>
    match based? r with
    | some n => some n
    | none => if hasLeadingZero r then none else digits? 10 r
  | _ => none

def integer? (cs : List Char) : Option Int :=
  match natural? cs with
  | some n => some n
  | none => (negated? cs).map fun n => -(n : Int)

def fitsWord (n : Int) : Bool := -(Nat.pow 2 63 : Int) ≤ n && n < (Nat.pow 2 64 : Int)

/-- An integer that needs more than 64 but not more than 128 bits has no value at all. -/
def fitsDoubleWord (n : Int) : Bool := -(Nat.pow 2 127 : Int) ≤ n && n < (Nat.pow 2 128 : Int)

def float? (cs : List Char) : Option Binary64 :=
  let s := String.ofList cs
  let positive := match cs with
    | '+' :: r => r
    | r => r
  if cs.head? = some '+' ∧ startsSigned positive then none
  else if [".inf", ".Inf", ".INF"].contains (String.ofList positive) then some (.infinity false)
  else if ["-.inf", "-.Inf", "-.INF"].contains s then some (.infinity true)
  else if [".nan", ".NaN", ".NAN"].contains s then some .nan
  else (Binary64.parse? positive).filter Binary64.isFinite

/-- The value of an integer text: `none` where the text is none, `some none` where it is one
that no value can hold. -/
def integerValue? (cs : List Char) : Option (Option Value) :=
  match integer? cs with
  | none => none
  | some n =>
    if fitsWord n then some (some (.number (.integer n)))
    else if fitsDoubleWord n then some none
    else none

def plain? (s : String) : Option Value :=
  if s = "" ∨ isNullWord s then some .null
  else match bool? s with
    | some b => some (.bool b)
    | none =>
      match integerValue? s.toList with
      | some v => v
      | none =>
        if hasLeadingZero s.toList then some (.string s)
        else match float? s.toList with
          | some x => some (.number (.binary x))
          | none => some (.string s)

/-- The value of a scalar under a tag that is not of one's own.  The four tags for other kinds
than text force the kind; every other tag makes a text. -/
def forced? (tag s : String) : Option Value :=
  if tag = "tag:yaml.org,2002:bool" then (bool? s).map .bool
  else if tag = "tag:yaml.org,2002:int" then (integerValue? s.toList).join
  else if tag = "tag:yaml.org,2002:float" then (float? s.toList).map fun x => .number (.binary x)
  else if tag = "tag:yaml.org,2002:null" then (if isNullWord s then some .null else none)
  else some (.string s)

def value? (tag : Option String) (plain : Bool) (s : String) : Option Value :=
  match tag with
  | some t => forced? t s
  | none => if plain then plain? s else some (.string s)

end Scalar

/-! ## Values of documents -/

abbrev Budget := StateT Nat Option

/-- The node itself, or for an alias the anchored node, which costs a step. -/
def Document.follow (d : Document) : Node Nat → Budget (Node Nat)
  | .alias i => fun left =>
    match left, d.anchored.lookup i with
    | left + 1, some n => some (n, left)
    | _, _ => none
  | n => pure n

/-- A tag of one's own without its mark; the mark alone stays. -/
def ownTag? (tag : Option String) : Option String :=
  match tag.map String.toList with
  | some ['!'] => some "!"
  | some ('!' :: '!' :: c :: r) => some (String.ofList (c :: r))
  | some ('!' :: r) => some (String.ofList r)
  | _ => none

def nestingLimit : Nat := 128

structure Admission where
  ownTags : Bool
  repeatedKeys : Bool

def Admission.tagged (a : Admission) (m : Mark) (v : Value) : Budget Value :=
  match ownTag? m.tag with
  | some t => if a.ownTags then return .tagged t v else failure
  | none => return v

/-- A tag of one's own leaves the scalar below it to be resolved by its own look. -/
def Admission.scalar (a : Admission) (m : Mark) (plain : Bool) (text : String) : Budget Value :=
  match ownTag? m.tag with
  | some _ => do a.tagged m (← Scalar.value? none plain text)
  | none => Scalar.value? m.tag plain text

def Document.read (d : Document) (a : Admission) : (room : Nat) → Node Nat → Budget Value
  | 0, n => do
    match ← d.follow n with
    | .scalar m plain text => a.scalar m plain text
    | _ => failure
  | room + 1, n => do
    match ← d.follow n with
    | .alias _ => failure
    | .scalar m plain text => a.scalar m plain text
    | .sequence m items => do
      let vs ← items.mapM (d.read a room)
      a.tagged m (.sequence vs)
    | .mapping m entries => do
      let es ← entries.mapM fun (k, v) => do
        let k ← d.read a room k
        let v ← d.read a room v
        return (k, v)
      if a.repeatedKeys || Value.distinctKeys es then a.tagged m (.mapping es) else failure

/-- A value with its tags; the keys of a mapping have to be different. -/
def Document.value (d : Document) : (room : Nat) → Node Nat → Budget Value := d.read ⟨true, false⟩

/-- A value without tags of one's own, whose mappings may repeat keys. -/
def Document.untagged (d : Document) : (room : Nat) → Node Nat → Budget Value := d.read ⟨false, true⟩

/-- The value of a whole text; nothing means null. -/
def Value.parse? (s : String) : Option Value := do
  let d ← Document.parse? s
  match d.root with
  | none => some .null
  | some n => ((d.value nestingLimit n).run d.aliasLimit).map Prod.fst

def isEmptyPlain : Node Nat → Bool
  | .scalar _ plain text => plain && text == ""
  | _ => false

/-- The items of a text that is a sequence; nothing, or a plain scalar with no text, has none. -/
def parseItems? (s : String) : Option (List Value) := do
  let d ← Document.parse? s
  match d.root with
  | none => some []
  | some n =>
    let read : Budget (List Value) := do
      match ← d.follow n with
      | .sequence _ items => items.mapM (d.value (nestingLimit - 1))
      | n => if isEmptyPlain n then return [] else failure
    (read.run d.aliasLimit).map Prod.fst

end HeatStack.Yaml
