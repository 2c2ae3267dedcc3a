import HeatStack.Text.Blank
import HeatStack.Url.Domain
import HeatStack.Url.Fault
import HeatStack.Url.Host

/-! # Addresses of web services

An address is a scheme, a colon and what the scheme makes of the rest.  Schemes of the web know an
authority, with or without slashes before it, and domains as hosts; other schemes have an authority
only after two slashes, and any text as a host.  Paths, queries and fragments are never at fault. -/
set_option autoImplicit false
namespace HeatStack.Url
open HeatStack.Text

/-! ## Scheme -/

def isSchemeChar (c : Char) : Bool := isLetter c || isDigit c || c == '+' || c == '-' || c == '.'

/-- The scheme in small letters, and what follows its colon. -/
def scheme? (cs : List Char) : Option (List Char × List Char) :=
  let name := cs.takeWhile isSchemeChar
  match name, cs.drop name.length with
  | c :: _, ':' :: r => if isLetter c then some (name.map lowerChar, r) else none
  | _, _ => none

inductive SchemeKind
  /-- Domains, and an authority that cannot be left out. -/
  | web
  /-- Domains, and an authority that may be left out. -/
  | file
  | other
deriving DecidableEq

def schemeKind (scheme : List Char) : SchemeKind :=
  let s := String.ofList scheme
  if ["http", "https", "ws", "wss", "ftp"].contains s then .web
  else if s = "file" then .file
  else .other

/-! ## Authority -/

def isSlash (c : Char) : Bool := c == '/' || c == '\\'

def endsAuthority (web : Bool) (c : Char) : Bool :=
  c == '/' || c == '?' || c == '#' || (web && c == '\\')

def splitUser (cs : List Char) : Option (List Char × List Char) :=
  (splitOnce '@' cs.reverse).map fun (host, user) => (user.reverse, host.reverse)

/-- The host of `host:port`: up to the first colon outside brackets. -/
def hostLength : (inBrackets : Bool) → List Char → Nat
  | _, [] => 0
  | inBrackets, c :: r =>
    if c = ':' ∧ ¬ inBrackets then 0
    else hostLength (if c = '[' then true else if c = ']' then false else inBrackets) r + 1

/-- A number below the limit of ports, or nothing; a backslash ends it under every scheme. -/
def isPort (cs : List Char) : Bool :=
  let digits := cs.takeWhile (· != '\\')
  digits.all isDigit && decimal digits < 65536

def isForbiddenInHost (c : Char) : Bool := "\x00\t\n\r #/:<>?@[\\]^|".toList.contains c

def bracketed (cs : List Char) : Except Fault Unit :=
  if cs.getLast? = some ']' ∧ isIpv6 cs.tail.dropLast then .ok () else .error .ipv6

/-- A domain, or what its percent escapes stand for; a numeric host is of version four. -/
def checkDomain (cs : List Char) : Except Fault Unit :=
  if cs.head? = some '[' then bracketed cs
  else match Domain.ofHost? cs with
    | none => .error .domain
    | some d =>
      if d.isEmpty then .error .emptyHost
      else if endsInNumber d ∧ ¬ isIpv4 d then .error .ipv4
      else .ok ()

def checkOpaque (cs : List Char) : Except Fault Unit :=
  if cs.head? = some '[' then bracketed cs
  else if cs.any isForbiddenInHost then .error .hostCharacter
  else .ok ()

/-- Checks user, host and port.  An empty host is admitted only under a scheme that is not of the
web, and only without a user, without a port, and without a path after a lone at sign. -/
def checkAuthority (web : Bool) (cs : List Char) : Except Fault Unit := do
  let authority := cs.takeWhile fun c => !endsAuthority web c
  let (user, place) := (splitUser authority).getD ([], authority)
  let host := place.take (hostLength false place)
  let port := place.drop host.length
  if authority = ['@'] ∧ authority.length < cs.length then throw .emptyHost
  if web then
    if host.isEmpty then throw .emptyHost
    checkDomain host
  else
    checkOpaque host
    if host.isEmpty ∧ ¬ port.isEmpty then throw .emptyHost
  if !isPort port.tail then throw .port
  if host.isEmpty ∧ user ≠ [] ∧ user ≠ [':'] then throw .emptyHost

/-! ## Addresses -/

def isDriveLetter : List Char → Bool
  | [a, b] => isLetter a && (b == ':' || b == '|')
  | _ => false

/-- A file has a host after two slashes, unless a drive stands there. -/
def checkFile : List Char → Except Fault Unit
  | a :: b :: r =>
    let host := r.takeWhile fun c => !endsAuthority true c
    if isSlash a && isSlash b && !host.isEmpty && !isDriveLetter host then checkDomain host
    else .ok ()
  | _ => .ok ()

def checkOther : List Char → Except Fault Unit
  | '/' :: '/' :: r => checkAuthority false r
  | _ => .ok ()

/-- The text without blanks and control characters around it, and without tabs and line breaks
anywhere. -/
def clean (cs : List Char) : List Char :=
  let isOuter (c : Char) : Bool := c.toNat ≤ 32
  let inner := ((cs.dropWhile isOuter).reverse.dropWhile isOuter).reverse
  inner.filter fun c => c != '\t' && c != '\n' && c != '\r'

def schemeOf (text : String) : Except Fault String :=
  match scheme? (clean text.toList) with
  | none => .error .noScheme
  | some (scheme, r) =>
    let checked := match schemeKind scheme with
      | .web => checkAuthority true (r.dropWhile isSlash)
      | .file => checkFile r
      | .other => checkOther r
    checked.map fun _ => String.ofList scheme

/-- Accepts the addresses of web services. -/
def check (text : String) : Except Fault Unit :=
  match schemeOf text with
  | .error fault => .error fault
  | .ok scheme => if scheme = "http" ∨ scheme = "https" then .ok () else .error (.unsupportedScheme scheme)

end HeatStack.Url
