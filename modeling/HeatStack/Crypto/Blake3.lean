/-! # BLAKE3

The hash function and its key derivation.  The text is cut into chunks of 1024 bytes, each chunk
into blocks of 64; a chunk chains its blocks, and the chunks are the leaves of a binary tree
whose left part is always as large a full tree as possible. -/
set_option autoImplicit false
namespace HeatStack.Crypto.Blake3

abbrev Word := UInt32

abbrev Chain := Vector Word 8

abbrev State := Vector Word 16

def initial : Chain :=
  #v[0x6A09E667, 0xBB67AE85, 0x3C6EF372, 0xA54FF53A, 0x510E527F, 0x9B05688C, 0x1F83D9AB, 0x5BE0CD19]

structure Flags where
  value : Word

namespace Flags

def none : Flags := ⟨0⟩
def chunkStart : Word := 1
def chunkEnd : Word := 2
def parent : Word := 4
def root : Word := 8
def keyContext : Flags := ⟨32⟩
def keyMaterial : Flags := ⟨64⟩

end Flags

def rotate (x : Word) (n : Word) : Word := (x >>> n) ||| (x <<< (32 - n))

/-- Mixes two message words into a column or diagonal. -/
def quarter (s : State) (a b c d : Fin 16) (x y : Word) : State :=
  let a₁ := s.get a + s.get b + x
  let d₁ := rotate (s.get d ^^^ a₁) 16
  let c₁ := s.get c + d₁
  let b₁ := rotate (s.get b ^^^ c₁) 12
  let a₂ := a₁ + b₁ + y
  let d₂ := rotate (d₁ ^^^ a₂) 8
  let c₂ := c₁ + d₂
  let b₂ := rotate (b₁ ^^^ c₂) 7
  (((s.setIfInBounds a a₂).setIfInBounds b b₂).setIfInBounds c c₂).setIfInBounds d d₂

def round (s : State) (m : State) : State :=
  let s := quarter s 0 4 8 12 m[0] m[1]
  let s := quarter s 1 5 9 13 m[2] m[3]
  let s := quarter s 2 6 10 14 m[4] m[5]
  let s := quarter s 3 7 11 15 m[6] m[7]
  let s := quarter s 0 5 10 15 m[8] m[9]
  let s := quarter s 1 6 11 12 m[10] m[11]
  let s := quarter s 2 7 8 13 m[12] m[13]
  quarter s 3 4 9 14 m[14] m[15]

def permute (m : State) : State :=
  #v[m[2], m[6], m[3], m[10], m[7], m[0], m[4], m[13], m[1], m[11], m[12], m[5], m[9], m[14], m[15], m[8]]

def rounds : Nat → State → State → State
  | 0, s, _ => s
  | n + 1, s, m => rounds n (round s m) (permute m)

structure Block where
  chain : Chain
  message : State
  counter : Nat
  length : Nat
  flags : Word

def Block.compress (b : Block) : State :=
  let h := b.chain
  let s := #v[h[0], h[1], h[2], h[3], h[4], h[5], h[6], h[7],
    initial[0], initial[1], initial[2], initial[3],
    UInt32.ofNat b.counter, UInt32.ofNat (b.counter / Nat.pow 2 32), UInt32.ofNat b.length, b.flags]
  rounds 7 s b.message

def Block.next (b : Block) : Chain :=
  let s := b.compress
  Vector.ofFn fun i : Fin 8 => s[i.val] ^^^ s[i.val + 8]

def wordOfBytes (bytes : List UInt8) : Word :=
  bytes.foldr (fun b w => w * 256 + b.toUInt32) 0

def bytesOfWord (w : Word) : List UInt8 :=
  [w.toUInt8, (w >>> 8).toUInt8, (w >>> 16).toUInt8, (w >>> 24).toUInt8]

/-- Up to 64 bytes as sixteen words, missing bytes counting as zero. -/
def message (bytes : List UInt8) : State :=
  Vector.ofFn fun i : Fin 16 => wordOfBytes ((bytes.drop (4 * i.val)).take 4)

/-- The last block of a chunk, after the others have been chained. -/
def chunk (key : Chain) (flags : Flags) (counter : Nat) (bytes : List UInt8) : Block :=
  go 16 key Flags.chunkStart bytes
where
  go : (fuel : Nat) → Chain → Word → List UInt8 → Block
    | 0, chain, mark, _ => ⟨chain, message [], counter, 0, flags.value ||| mark⟩
    | fuel + 1, chain, mark, bytes =>
      let b : Block := ⟨chain, message (bytes.take 64), counter, min 64 bytes.length, flags.value ||| mark⟩
      if bytes.length ≤ 64 then { b with flags := b.flags ||| Flags.chunkEnd }
      else go fuel b.next 0 (bytes.drop 64)

def parent (key : Chain) (flags : Flags) (left right : Chain) : Block :=
  ⟨key, left ++ right, 0, 64, flags.value ||| Flags.parent⟩

/-- Bytes in the left part of a tree over `n > 1024` bytes: the greatest power of two of chunks
that leaves something for the right part. -/
def leftSize (n : Nat) : Nat := 1024 * Nat.pow 2 (Nat.log2 ((n - 1) / 1024))

/-- The top block of the tree over the bytes; `depth` bounds the height of the tree. -/
def tree (key : Chain) (flags : Flags) : (depth counter : Nat) → List UInt8 → Block
  | 0, counter, bytes => chunk key flags counter bytes
  | depth + 1, counter, bytes =>
    if bytes.length ≤ 1024 then chunk key flags counter bytes
    else
      let left := leftSize bytes.length
      parent key flags
        (tree key flags depth counter (bytes.take left)).next
        (tree key flags depth (counter + left / 1024) (bytes.drop left)).next

def digest (key : Chain) (flags : Flags) (bytes : List UInt8) : List UInt8 :=
  let top := tree key flags (Nat.log2 bytes.length + 1) 0 bytes
  let root := { top with flags := top.flags ||| Flags.root }
  root.next.toList.flatMap bytesOfWord

def hash (bytes : List UInt8) : List UInt8 := digest initial .none bytes

def chainOfBytes (bytes : List UInt8) : Chain :=
  Vector.ofFn fun i : Fin 8 => wordOfBytes ((bytes.drop (4 * i.val)).take 4)

def deriveKey (context material : List UInt8) : List UInt8 :=
  digest (chainOfBytes (digest initial .keyContext context)) .keyMaterial material

end HeatStack.Crypto.Blake3
