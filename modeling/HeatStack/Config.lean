import HeatStack.Connection.Profile
import HeatStack.Lifecycle.Options
import HeatStack.Toml.Document

/-! # Configuration

The configuration is a TOML document with a sealed connection profile and the settings of runs. -/
set_option autoImplicit false
namespace HeatStack
open HeatStack.Connection HeatStack.Lifecycle

structure RunSettings where
  pollInterval : UInt64
  timeout : Int64
  maxFailures : UInt32
deriving DecidableEq

def RunSettings.default : RunSettings := ⟨10, 0, defaultMaxFailures⟩

structure Config where
  profile : ProfileRecord
  run : RunSettings
deriving DecidableEq

inductive ConfigFault
  | malformed
  | zeroInterval
deriving DecidableEq

def ConfigFault.message : ConfigFault → String
  | .malformed => "malformed"
  | .zeroInterval => "run.poll_interval_secs must be at least 1"

inductive ConfigError
  | unreadable (path reason : String)
  | invalid (path : String) (fault : ConfigFault)
  | secret (error : SecretError)
deriving DecidableEq

def ConfigError.message : ConfigError → String
  | .unreadable path reason => "cannot read " ++ path ++ ": " ++ reason
  | .invalid path fault => "invalid config " ++ path ++ ": " ++ fault.message
  | .secret e => e.message

namespace Config
open Toml (Value)

/-- The fields of a table, or of an array that lists their values in order.  A closed table admits
no others. -/
def fields? (closed : Bool) (names : List String) : Value → Option (List (String × Value))
  | .table entries =>
    if closed && !entries.all (fun e => names.contains e.1) then none else some entries
  | .array items => some (names.zip items)
  | _ => none

def text? : Value → Option String
  | .string s => some s
  | _ => none

def flag? : Value → Option Bool
  | .boolean b => some b
  | _ => none

def natural? (limit : Nat) : Value → Option Nat
  | .integer (.ofNat n) => if n < limit then some n else none
  | _ => none

def integer? : Value → Option Int
  | .integer n => some n
  | _ => none

def required? {α : Type} (fields : List (String × Value)) (name : String) (read : Value → Option α) :
    Option α :=
  (fields.lookup name).bind read

def defaulted? {α : Type} (fields : List (String × Value)) (name : String) (default : α)
    (read : Value → Option α) : Option α :=
  match fields.lookup name with
  | none => some default
  | some v => read v

def profile? (v : Value) : Option ProfileRecord := do
  let fields ← fields? false ["project", "url", "v3", "domain", "user", "password", "region"] v
  let project ← required? fields "project" text?
  let url ← required? fields "url" text?
  let v3 ← defaulted? fields "v3" false flag?
  let domain ← defaulted? fields "domain" "" text?
  let user ← required? fields "user" text?
  let password ← required? fields "password" text?
  let region ← defaulted? fields "region" "" text?
  some ⟨project, url, v3, domain, user, password, region⟩

def runSettings? (v : Value) : Option RunSettings := do
  let fields ← fields? true ["poll_interval_secs", "timeout_secs", "max_poll_failures"] v
  let interval ← defaulted? fields "poll_interval_secs" RunSettings.default.pollInterval
    fun v => (natural? (Nat.pow 2 64) v).map UInt64.ofNat
  let timeout ← defaulted? fields "timeout_secs" RunSettings.default.timeout
    fun v => (integer? v).map Int64.ofInt
  let maxFailures ← defaulted? fields "max_poll_failures" RunSettings.default.maxFailures
    fun v => (natural? (Nat.pow 2 32) v).map UInt32.ofNat
  some ⟨interval, timeout, maxFailures⟩

def ofValue? (v : Value) : Option Config := do
  let fields ← fields? true ["profile", "run"] v
  let profile ← required? fields "profile" profile?
  let run ← defaulted? fields "run" RunSettings.default runSettings?
  some ⟨profile, run⟩

def parse (text : String) : Except ConfigFault Config :=
  match (Toml.parse? text).bind fun entries => ofValue? (.table entries) with
  | none => .error .malformed
  | some c => if c.run.pollInterval = 0 then .error .zeroInterval else .ok c

def options (c : Config) (stack : String) (action : Action) : Options :=
  ((Options.new stack action).withIntervalSeconds c.run.pollInterval).withTimeoutSeconds c.run.timeout
    |>.withMaxFailures c.run.maxFailures

def openProfile (c : Config) (key : SealingKey) : Except ConfigError Profile :=
  (c.profile.open? key).mapError .secret

end Config
end HeatStack
