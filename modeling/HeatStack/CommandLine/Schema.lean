import HeatStack.Config
import HeatStack.Template.Record

/-! # Schemas of records

The JSON Schemas, draft 7, of what is kept: bundles, connection profiles and configurations.  The
properties of an object are listed by name, and so are its definitions. -/
set_option autoImplicit false
namespace HeatStack.CommandLine.Schema
open HeatStack.Json HeatStack.Lifecycle HeatStack.Number HeatStack.Template

abbrev Members := List (String × Value)

/-! ## Building blocks -/

def typed (type : String) : Members := [("type", .string type)]

def nullable (type : String) : Members := [("type", .strings [type, "null"])]

def described (description : String) (members : Members) : Members :=
  ("description", .string description) :: members

def defaulting (default : Value) (members : Members) : Members := ("default", default) :: members

def oneWord (words : List String) : Members := typed "string" ++ [("enum", .strings words)]

def unsigned (members : Members) (format : String) : Members :=
  members ++ [("format", .string format), ("minimum", .number (.binary (.zero false)))]

def reference (name : String) : Value := .object [("$ref", .string ("#/definitions/" ++ name))]

def referring (name : String) : Members := [("allOf", .array [reference name])]

def list (items : Value) : Members := typed "array" ++ [("items", items)]

def tableOf (name : String) : Members :=
  typed "object" ++ [("additionalProperties", reference name)]

def properties (fields : List (String × Members)) : String × Value :=
  ("properties", .object (fields.map fun f => (f.1, .object f.2)))

def object (required : List String) (fields : List (String × Members)) : Members :=
  typed "object" ++ [("required", .strings required), properties fields]

def closed (members : Members) : Members := members ++ [("additionalProperties", .bool false)]

def document (title : String) (members : Members) (definitions : List (String × Members)) : Value :=
  .object ([("$schema", .string "http://json-schema.org/draft-07/schema#"), ("title", .string title)]
    ++ members
    ++ if definitions.isEmpty then []
      else [("definitions", .object (definitions.map fun d => (d.1, .object d.2)))])

/-! ## Bundles -/

/-- A constraint of one kind: the kind itself, a description and the fields of its rule. -/
def rule (kind : ConstraintKind) (required : List String) (fields : List (String × Members)) :
    Members :=
  object required (("description", typed "string") :: ("kind", oneWord [kind.name]) :: fields)

def bounds (bound : Members) : List (String × Members) :=
  [("max", defaulting .null bound), ("min", defaulting .null bound)]

def constraint : Members :=
  described ("A validation rule attached to a parameter.\n\nEvery variant carries a description; "
    ++ "when the template gives none, one is synthesized from the payload.")
    [("oneOf", .array ([
      rule .allowedValues ["description", "kind", "values"]
        [("values", list (.object (typed "string")))],
      rule .range ["description", "kind"]
        (bounds (nullable "number" ++ [("format", .string "double")])),
      rule .length ["description", "kind"] (bounds (unsigned (nullable "integer") "uint64")),
      rule .allowedPattern ["description", "kind", "pattern"] [("pattern", typed "string")],
      described "Checked by the orchestration service, not locally."
        (rule .custom ["description", "kind", "name"] [("name", typed "string")])].map .object))]

def sections : Members :=
  described "Which optional sections a template carries." (object ["outputs", "parameters", "tags"]
    [("outputs", typed "boolean"), ("parameters", typed "boolean"), ("tags", typed "boolean")])

def output : Members :=
  described "A named value exposed by a completed stack." (object ["name"]
    [("description", nullable "string"), ("name", typed "string")])

def parameter : Members :=
  described "A typed, user-suppliable template input." (object ["name"] [
    ("constraints", described "Constraints in declaration order"
      (defaulting (.array []) (list (reference "Constraint")))),
    ("default", described "Default value in its string form" (nullable "string")),
    ("description", described "Display description" (nullable "string")),
    ("hidden", described "Mask the value wherever it is displayed"
      (defaulting (.bool false) (typed "boolean"))),
    ("label", described "Display label" (nullable "string")),
    ("name", described "Unique key within the template" (typed "string")),
    ("type", described "Declared type (string when undeclared)"
      (defaulting (.string ValueType.string.name) (referring "ValueType")))])

def valueType : Members :=
  described "Internal value type of a template parameter." (oneWord (ValueType.all.map ValueType.name))

def bundle : Value :=
  document "Bundle"
    (described "A compiled template." (object ["fingerprint", "name", "source"] [
      ("fingerprint", described "BLAKE3 digest of `source`" (typed "string")),
      ("label", described "Free-form label, assigned by the caller"
        (defaulting (.string "") (typed "string"))),
      ("name", described "Template name (usually the file name)" (typed "string")),
      ("outputs", described "Outputs keyed by name" (defaulting (.object []) (tableOf "Output"))),
      ("parameters", described "Parameters keyed by name"
        (defaulting (.object []) (tableOf "Parameter"))),
      ("sections", described "Sections present in the source"
        (defaulting
          (.object [("outputs", .bool false), ("parameters", .bool false), ("tags", .bool false)])
          (referring "DetectedSections"))),
      ("source", described "Template source text as submitted to the orchestration service"
        (typed "string")),
      ("tags", described "Raw tag payload, not interpreted" (nullable "string")),
      ("version", described "Free-form version, assigned by the caller"
        (defaulting (.string "") (typed "string")))]))
    [("Constraint", constraint), ("DetectedSections", sections), ("Output", output),
      ("Parameter", parameter), ("ValueType", valueType)]

/-! ## Profiles and configurations -/

def profileRecord : Members :=
  described "Persisted form of a profile. The password is sealed."
    (object ["password", "project", "url", "user"] [
      ("domain", defaulting (.string "") (typed "string")),
      ("password", described "Sealed password (see `hotstack seal`)" (typed "string")),
      ("project", typed "string"),
      ("region", defaulting (.string "") (typed "string")),
      ("url", typed "string"),
      ("user", typed "string"),
      ("v3", defaulting (.bool false) (typed "boolean"))])

def profile : Value := document "ProfileRecord" profileRecord []

def maxFailures : Value := .nat RunSettings.default.maxFailures.toNat

def pollInterval : Value := .nat RunSettings.default.pollInterval.toNat

def timeout : Value := .number (.integer RunSettings.default.timeout.toInt)

def runSettings : Members :=
  closed (described "Polling behaviour of stack runs." (typed "object" ++ [properties [
    ("max_poll_failures", defaulting maxFailures (unsigned (typed "integer") "uint32")),
    ("poll_interval_secs", described "At least one second"
      (defaulting pollInterval (unsigned (typed "integer") "uint64"))),
    ("timeout_secs", described "Zero or negative waits indefinitely"
      (defaulting timeout (typed "integer" ++ [("format", .string "int64")])))]]))

def config : Value :=
  document "Config"
    (closed (typed "object" ++ [("required", .strings ["profile"]),
      ("properties", .object [
        ("profile", reference "ProfileRecord"),
        ("run", .object (defaulting
          (.object [("max_poll_failures", maxFailures), ("poll_interval_secs", pollInterval),
            ("timeout_secs", timeout)])
          (referring "RunSettings")))])]))
    [("ProfileRecord", profileRecord), ("RunSettings", runSettings)]

end HeatStack.CommandLine.Schema
