import HeatStack.Template.Constraint
import HeatStack.Url.Fault

/-! # Rejected input

What is wrong with a connection profile or with the values of parameters.  Such a fault is found
before the orchestration service hears of anything. -/
set_option autoImplicit false
namespace HeatStack
open HeatStack.Template

/-- The fields that a connection profile has to fill in, in the order of its form. -/
inductive ProfileField
  | project
  | url
  | domain
  | user
  | password
deriving DecidableEq

def ProfileField.name : ProfileField → String
  | .project => "project"
  | .url => "url"
  | .domain => "domain"
  | .user => "user"
  | .password => "password"

inductive InputError
  | missingField (field : ProfileField)
  | invalidUrl (fault : Url.Fault)
  /-- Neither a value was supplied nor does the template have one. -/
  | missingValue (parameter : String)
  | unknownParameter (parameter template : String)
  | typeMismatch (parameter : String) (expected : ValueType)
  /-- The first constraint, in the order of the template, that the value violates. -/
  | constraintViolated (parameter : String) (kind : ConstraintKind) (description : String)
  /-- The values were checked against another template. -/
  | foreignTemplate (resolved template : String)
deriving DecidableEq

def InputError.message : InputError → String
  | .missingField field => field.name ++ " must be filled in"
  | .invalidUrl fault => "url is invalid: " ++ fault.message
  | .missingValue p => "parameter '" ++ p ++ "' has no value and no default"
  | .unknownParameter p t => "parameter '" ++ p ++ "' is not declared by template '" ++ t ++ "'"
  | .typeMismatch p t => "parameter '" ++ p ++ "' expects a " ++ t.name ++ " value"
  | .constraintViolated p kind d =>
    "parameter '" ++ p ++ "' violates " ++ kind.name ++ " constraint: " ++ d
  | .foreignTemplate resolved t =>
    "parameters were resolved against template '" ++ resolved ++ "', not '" ++ t ++ "'"

end HeatStack
