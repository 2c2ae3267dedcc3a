import HeatStack.Crypto.Base64
import HeatStack.Crypto.Blake3
import HeatStack.Crypto.Gcm
import HeatStack.Text.Blank

/-! # Secrets

A secret is masked wherever it is shown, and sealed where it is kept.  A sealed secret is the base64
text of a nonce, a tag and the enciphered octets of the secret, under a key that comes from a
passphrase. -/
set_option autoImplicit false
namespace HeatStack.Connection
open HeatStack.Crypto

structure Secret where
  plain : String
deriving DecidableEq

namespace Secret

def display (_ : Secret) : String := "******"

def debugText (_ : Secret) : String := "Secret(******)"

end Secret

structure SealingKey where
  octets : List UInt8

namespace SealingKey

def context : String := "hotstack 2024-06 connection profile sealing key"

def ofPassphrase (passphrase : String) : SealingKey :=
  ⟨Blake3.deriveKey context.toUTF8.toList passphrase.toUTF8.toList⟩

def debugText (_ : SealingKey) : String := "SealingKey(******)"

end SealingKey

def passphraseVariable : String := "HOTSTACK_PASSPHRASE"

inductive SecretError
  | noPassphrase
  | encoding (fault : Base64.Fault)
  | truncated
  /-- Another passphrase, a changed text, or octets that are no text. -/
  | rejected
deriving DecidableEq

def SecretError.message : SecretError → String
  | .noPassphrase => "no passphrase available: set " ++ passphraseVariable
  | .encoding fault => "sealed value is not valid base64: " ++ fault.message
  | .truncated => "sealed value is truncated"
  | .rejected => "sealed value was not produced with this passphrase or was tampered with"

/-- A passphrase has to be set and not empty. -/
def SealingKey.ofVariable : Option String → Except SecretError SealingKey
  | some p => if p = "" then .error .noPassphrase else .ok (ofPassphrase p)
  | none => .error .noPassphrase

def nonceLength : Nat := 12

def tagLength : Nat := 16

/-- What the tag also vouches for. -/
def purpose : List UInt8 := "hotstack-profile-secret".toUTF8.toList

def sealWith (nonce : List UInt8) (secret : Secret) (key : SealingKey) : String :=
  let (tag, enciphered) := Gcm.encrypt key.octets nonce purpose secret.plain.toUTF8.toList
  Base64.encodeText (nonce ++ tag ++ enciphered)

def textOfOctets? (octets : List UInt8) : Option String := String.fromUTF8? ⟨octets.toArray⟩

/-- Opens a sealed text; blanks around it do not count. -/
def unsealWith (sealed : String) (key : SealingKey) : Except SecretError Secret :=
  match Base64.decode (Text.trim sealed).toUTF8.toList with
  | .error fault => .error (.encoding fault)
  | .ok octets =>
    if octets.length < nonceLength + tagLength then .error .truncated
    else
      let nonce := octets.take nonceLength
      let tag := (octets.drop nonceLength).take tagLength
      let enciphered := octets.drop (nonceLength + tagLength)
      match (Gcm.decrypt? key.octets nonce purpose tag enciphered).bind textOfOctets? with
      | some plain => .ok ⟨plain⟩
      | none => .error .rejected

end HeatStack.Connection
