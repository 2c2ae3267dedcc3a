import HeatStack.Regex.Parser
import HeatStack.Template.ValueType
import HeatStack.Yaml.Reading
import HeatStack.Yaml.Text

/-! # Constraints on parameter values

A constraint comes from a clause of the template.  Clauses are read one by one, and a clause that
cannot be read gives no constraint and does not touch the others. -/
set_option autoImplicit false
namespace HeatStack.Template
open HeatStack.Number HeatStack.Text

inductive ConstraintKind
  | allowedValues
  | range
  | length
  | allowedPattern
  | custom
deriving DecidableEq

def ConstraintKind.name : ConstraintKind → String
  | .allowedValues => "allowed_values"
  | .range => "range"
  | .length => "length"
  | .allowedPattern => "allowed_pattern"
  | .custom => "custom"

inductive Constraint
  | allowedValues (values : List String) (description : String)
  | range (min max : Option Binary64) (description : String)
  | length (min max : Option UInt64) (description : String)
  | allowedPattern (pattern description : String)
  /-- Checked by the orchestration service alone. -/
  | custom (name description : String)
deriving DecidableEq

namespace Constraint

def kind : Constraint → ConstraintKind
  | .allowedValues .. => .allowedValues
  | .range .. => .range
  | .length .. => .length
  | .allowedPattern .. => .allowedPattern
  | .custom .. => .custom

def description : Constraint → String
  | .allowedValues _ d => d
  | .range _ _ d => d
  | .length _ _ d => d
  | .allowedPattern _ d => d
  | .custom _ d => d

/-- A pattern as it is looked for: it has to span the value from its start to its end. -/
def fullMatch? (pattern : String) : Option Regex.Expr :=
  Regex.Expr.parse? ("^(?:" ++ pattern ++ ")$")

/-- Numbers are the same by value, everything else by its text. -/
def sameValue (type : ValueType) (allowed candidate : String) : Bool :=
  allowed == candidate ||
    (type == .number && match numberOf? allowed, numberOf? candidate with
      | some a, some b => a.same b
      | _, _ => false)

/-- How long a value is: the items of a list, or the characters of anything else. -/
def measure (type : ValueType) (value : String) : Nat :=
  if type = .commaDelimitedList then (listItems value).length else value.length

def admits (type : ValueType) (value : String) : Constraint → Bool
  | .allowedValues values _ =>
    let allowed (candidate : String) : Bool := values.any fun v => sameValue type v candidate
    if type = .commaDelimitedList then (listItems value).all allowed else allowed value
  | .range min max _ =>
    !type.isMeasurable || match numberOf? value with
      | some n => min.all (fun lo => lo.le n) && max.all (fun hi => n.le hi)
      | none => false
  | .length min max _ =>
    !type.isMeasurable ||
      (min.all (fun lo => lo.toNat ≤ measure type value)
        && max.all (fun hi => measure type value ≤ hi.toNat))
  | .allowedPattern pattern _ =>
    match fullMatch? pattern with
    | some e => e.occursIn value
    | none => false
  | .custom .. => true

/-! ## Clauses -/

def describeBounds (subject : String) (min max : Option String) : String :=
  match min, max with
  | some lo, some hi => subject ++ " must be between " ++ lo ++ " and " ++ hi
  | some lo, none => subject ++ " must be at least " ++ lo
  | none, some hi => subject ++ " must be at most " ++ hi
  | none, none => subject ++ " is unbounded"

def bounds? {α : Type} (read : Yaml.Value → Option α) (v : Yaml.Value) : Option (Option α × Option α) := do
  let fields ← v.fields? ["min", "max"]
  let min ← Yaml.Value.optional? fields "min" read
  let max ← Yaml.Value.optional? fields "max" read
  some (min, max)

/-- A clause with its parts read: every one that is there has to be well formed. -/
structure Clause where
  description : Option String
  allowedValues : Option (List Yaml.Value)
  range : Option (Option Binary64 × Option Binary64)
  length : Option (Option UInt64 × Option UInt64)
  allowedPattern : Option String
  customConstraint : Option String
  modulo : Option Yaml.Value

def Clause.names : List String :=
  ["description", "allowed_values", "range", "length", "allowed_pattern", "custom_constraint", "modulo"]

def Clause.ofValue? (v : Yaml.Value) : Option Clause := do
  let fields ← v.fields? Clause.names
  let description ← Yaml.Value.optional? fields "description" Yaml.Value.text?
  let allowedValues ← Yaml.Value.optional? fields "allowed_values" Yaml.Value.items?
  let range ← Yaml.Value.optional? fields "range" (bounds? Yaml.Value.float?)
  let length ← Yaml.Value.optional? fields "length" (bounds? Yaml.Value.word?)
  let allowedPattern ← Yaml.Value.optional? fields "allowed_pattern" Yaml.Value.text?
  let customConstraint ← Yaml.Value.optional? fields "custom_constraint" Yaml.Value.text?
  let modulo ← Yaml.Value.optional? fields "modulo" some
  some ⟨description, allowedValues, range, length, allowedPattern, customConstraint, modulo⟩

/-- The constraint of a clause: the first rule that it names, in the order of the fields.  A range
or length needs a bound, and a pattern has to be an expression.  A description that is blank
counts as none, and then one is made from the rule. -/
def Clause.constraint? (c : Clause) : Option Constraint :=
  let described (default : String) : String :=
    (c.description.filter fun d => !allBlank d).getD default
  match c.allowedValues, c.range, c.length, c.allowedPattern, c.customConstraint, c.modulo with
  | some values, _, _, _, _, _ =>
    let values := values.map Yaml.Value.text
    some (.allowedValues values (described ("allowed values: " ++ String.intercalate ", " values)))
  | none, some (none, none), _, _, _, _ => none
  | none, some (min, max), _, _, _, _ =>
    let shown := fun (x : Binary64) => NumberStyle.plain.text x
    some (.range min max (described (describeBounds "value" (min.map shown) (max.map shown))))
  | none, none, some (none, none), _, _, _ => none
  | none, none, some (min, max), _, _, _ =>
    let shown := fun (n : UInt64) => toString n.toNat
    some (.length min max (described (describeBounds "length" (min.map shown) (max.map shown))))
  | none, none, none, some pattern, _, _ =>
    (fullMatch? pattern).map fun _ =>
      .allowedPattern pattern (described ("must match pattern " ++ pattern))
  | none, none, none, none, some name, _ =>
    some (.custom name (described ("custom constraint " ++ name)))
  | none, none, none, none, none, some _ => some (.custom "modulo" (described "modulo constraint"))
  | none, none, none, none, none, none => none

def ofValue? (v : Yaml.Value) : Option Constraint := (Clause.ofValue? v).bind Clause.constraint?

/-- The constraints of the clauses that can be read, in their order. -/
def ofValues (clauses : List Yaml.Value) : List Constraint := clauses.filterMap ofValue?

end Constraint
end HeatStack.Template
