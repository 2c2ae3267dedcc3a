import HeatStack.Crypto.Aes

/-! # Galois counter mode

A text is enciphered by exclusive or with a keystream, and a tag over the enciphered text and
over data that is only authenticated guards it.  Opening computes the tag anew and gives the
plain text where the tags agree; `decrypt?_encrypt` says that it then is what was enciphered. -/
set_option autoImplicit false
namespace HeatStack.Crypto.Gcm
open HeatStack.Crypto.Aes (Block encipher schedule blockOfBytes)

/-- The bytes as one number, the first byte the highest. -/
def numberOfBytes (bytes : List UInt8) : Nat := bytes.foldl (fun n b => n * 256 + b.toNat) 0

def bytesOfNumber : (width n : Nat) → List UInt8
  | 0, _ => []
  | width + 1, n => bytesOfNumber width (n / 256) ++ [UInt8.ofNat n]

def reduction : Nat := 0xE1 * Nat.pow 2 120

/-- The product in the field of `2 ^ 128` elements, the highest bit of a number standing for the
constant term: `x` is read bit by bit from the top while `y` is multiplied by the generator. -/
def multiply : (bits : Nat) → (x y product : Nat) → Nat
  | 0, _, _, product => product
  | bits + 1, x, y, product =>
    multiply bits x (if y % 2 = 1 then (y / 2) ^^^ reduction else y / 2)
      (if x.testBit bits then product ^^^ y else product)

/-- Groups of sixteen bytes, the last filled with zeros. -/
def groups (bytes : List UInt8) : List Nat :=
  (List.range ((bytes.length + 15) / 16)).map fun i =>
    let part := (bytes.drop (16 * i)).take 16
    numberOfBytes (part ++ List.replicate (16 - part.length) 0)

def hash (h : Nat) (blocks : List Nat) : Nat :=
  blocks.foldl (fun y x => multiply 128 (y ^^^ x) h 0) 0

/-- The enciphered counter blocks from `counter` on, enough for `n` bytes. -/
def keystream (keys : List Block) (nonce : List UInt8) (counter n : Nat) : List UInt8 :=
  (List.range ((n + 15) / 16)).flatMap fun i =>
    (encipher keys (blockOfBytes (nonce ++ bytesOfNumber 4 (counter + i)))).toList

/-- The text under a keystream; a byte that the stream does not reach stays as it is. -/
def mask : List UInt8 → List UInt8 → List UInt8
  | [], _ => []
  | bs, [] => bs
  | b :: bs, k :: ks => (b ^^^ k) :: mask bs ks

theorem length_mask (bs ks : List UInt8) : (mask bs ks).length = bs.length := by
  induction bs generalizing ks with
  | nil => simp [mask]
  | cons b bs ih => cases ks <;> simp [mask, ih]

theorem mask_mask (bs ks : List UInt8) : mask (mask bs ks) ks = bs := by
  induction bs generalizing ks with
  | nil => simp [mask]
  | cons b bs ih =>
    cases ks with
    | nil => simp [mask]
    | cons k ks => simp [mask, ih, UInt8.xor_assoc]

/-- The enciphered text: counter block 1 is kept for the tag. -/
def stream (key nonce text : List UInt8) : List UInt8 :=
  mask text (keystream (schedule key) nonce 2 text.length)

theorem stream_stream (key nonce text : List UInt8) :
    stream key nonce (stream key nonce text) = text := by
  simp [stream, length_mask, mask_mask]

def tag (key nonce data enciphered : List UInt8) : List UInt8 :=
  let keys := schedule key
  let h := numberOfBytes (encipher keys (blockOfBytes [])).toList
  let lengths := data.length * 8 * Nat.pow 2 64 + enciphered.length * 8
  mask (bytesOfNumber 16 (hash h (groups data ++ groups enciphered ++ [lengths])))
    (keystream keys nonce 1 16)

def encrypt (key nonce data text : List UInt8) : List UInt8 × List UInt8 :=
  let enciphered := stream key nonce text
  (tag key nonce data enciphered, enciphered)

def decrypt? (key nonce data given enciphered : List UInt8) : Option (List UInt8) :=
  if tag key nonce data enciphered = given then some (stream key nonce enciphered) else none

theorem decrypt?_encrypt (key nonce data text : List UInt8) :
    decrypt? key nonce data (encrypt key nonce data text).1 (encrypt key nonce data text).2 = some text := by
  simp [decrypt?, encrypt, stream_stream]

end HeatStack.Crypto.Gcm
