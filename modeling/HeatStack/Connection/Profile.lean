import HeatStack.Connection.Secret
import HeatStack.InputError
import HeatStack.Json.Reading
import HeatStack.Text.Quoted
import HeatStack.Url.Basic

/-! # Connection profiles

Where the orchestration service is found, and in whose name it is asked.  A profile is kept as a
record with its password sealed. -/
set_option autoImplicit false
namespace HeatStack.Connection
open HeatStack.Text

structure Profile where
  project : String
  url : String
  /-- The third version of the identity service, which needs a domain. -/
  v3 : Bool
  domain : String
  user : String
  password : Secret
  region : String
deriving DecidableEq

namespace Profile

/-- Whether a field that the profile needs is not filled in.  A password may be blank. -/
def lacks (p : Profile) : ProfileField → Bool
  | .project => allBlank p.project
  | .url => allBlank p.url
  | .domain => p.v3 && allBlank p.domain
  | .user => allBlank p.user
  | .password => p.password.plain == ""

/-- Every field that is not filled in, in the order of the form. -/
def missingFields (p : Profile) : List ProfileField :=
  [ProfileField.project, .url, .domain, .user, .password].filter p.lacks

/-- The first problem: a missing field, then the address. -/
def check (p : Profile) : Except InputError Unit :=
  match p.missingFields with
  | field :: _ => .error (.missingField field)
  | [] => (Url.check (trim p.url)).mapError .invalidUrl

def debugText (p : Profile) : String :=
  "ConnectionProfile \x7b project: " ++ quoted p.project ++ ", url: " ++ quoted p.url
    ++ ", v3: " ++ (if p.v3 then "true" else "false") ++ ", domain: " ++ quoted p.domain
    ++ ", user: " ++ quoted p.user ++ ", password: " ++ p.password.debugText
    ++ ", region: " ++ quoted p.region ++ " \x7d"

end Profile

/-- A profile with its password sealed. -/
structure ProfileRecord where
  project : String
  url : String
  v3 : Bool
  domain : String
  user : String
  sealedPassword : String
  region : String
deriving DecidableEq

namespace ProfileRecord

def ofProfile (nonce : List UInt8) (p : Profile) (key : SealingKey) : ProfileRecord :=
  ⟨p.project, p.url, p.v3, p.domain, p.user, sealWith nonce p.password key, p.region⟩

/-- The profile with its password opened; an empty text stands for no password. -/
def open? (r : ProfileRecord) (key : SealingKey) : Except SecretError Profile :=
  let password : Except SecretError Secret :=
    if r.sealedPassword = "" then .ok ⟨""⟩ else unsealWith r.sealedPassword key
  password.map fun p => ⟨r.project, r.url, r.v3, r.domain, r.user, p, r.region⟩

def json (r : ProfileRecord) : Json.Value :=
  .object [("project", .string r.project), ("url", .string r.url), ("v3", .bool r.v3),
    ("domain", .string r.domain), ("user", .string r.user), ("password", .string r.sealedPassword),
    ("region", .string r.region)]

open Json Json.Reading

def ofSyntax? (v : Syntax) : Option ProfileRecord := do
  let fields ← fields? ["project", "url", "v3", "domain", "user", "password", "region"] v
  let project ← required? fields "project" text?
  let url ← required? fields "url" text?
  let v3 ← defaulted? fields "v3" false flag?
  let domain ← defaulted? fields "domain" "" text?
  let user ← required? fields "user" text?
  let password ← required? fields "password" text?
  let region ← defaulted? fields "region" "" text?
  some ⟨project, url, v3, domain, user, password, region⟩

def ofText? (text : String) : Option ProfileRecord := (Syntax.parse? text).bind ofSyntax?

end ProfileRecord
end HeatStack.Connection
