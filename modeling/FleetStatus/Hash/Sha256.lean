import FleetStatus.Bytes

set_option relaxedAutoImplicit false
set_option autoImplicit false

/-!
# SHA-256

The hash function of the Secure Hash Standard with a digest of 256 bits.

## Main definitions

* `FleetStatus.Hash.sha256` — the 32-byte digest of a message.

## Main results

* `FleetStatus.Hash.length_sha256` — the digest has 32 bytes.
-/

namespace FleetStatus.Hash

/-! ## The words of the standard -/

/-- The first 32 bits of the fractional parts of the cube roots of the first 64 primes. -/
def roundConstants : List UInt32 := [
  0x428a2f98, 0x71374491, 0xb5c0fbcf, 0xe9b5dba5, 0x3956c25b, 0x59f111f1, 0x923f82a4, 0xab1c5ed5,
  0xd807aa98, 0x12835b01, 0x243185be, 0x550c7dc3, 0x72be5d74, 0x80deb1fe, 0x9bdc06a7, 0xc19bf174,
  0xe49b69c1, 0xefbe4786, 0x0fc19dc6, 0x240ca1cc, 0x2de92c6f, 0x4a7484aa, 0x5cb0a9dc, 0x76f988da,
  0x983e5152, 0xa831c66d, 0xb00327c8, 0xbf597fc7, 0xc6e00bf3, 0xd5a79147, 0x06ca6351, 0x14292967,
  0x27b70a85, 0x2e1b2138, 0x4d2c6dfc, 0x53380d13, 0x650a7354, 0x766a0abb, 0x81c2c92e, 0x92722c85,
  0xa2bfe8a1, 0xa81a664b, 0xc24b8b70, 0xc76c51a3, 0xd192e819, 0xd6990624, 0xf40e3585, 0x106aa070,
  0x19a4c116, 0x1e376c08, 0x2748774c, 0x34b0bcb5, 0x391c0cb3, 0x4ed8aa4a, 0x5b9cca4f, 0x682e6ff3,
  0x748f82ee, 0x78a5636f, 0x84c87814, 0x8cc70208, 0x90befffa, 0xa4506ceb, 0xbef9a3f7, 0xc67178f2]

/-- The eight working words. -/
structure State where
  a : UInt32
  b : UInt32
  c : UInt32
  d : UInt32
  e : UInt32
  f : UInt32
  g : UInt32
  h : UInt32
  deriving DecidableEq, Inhabited

/-- The first 32 bits of the fractional parts of the square roots of the first eight primes. -/
def State.initial : State :=
  ⟨0x6a09e667, 0xbb67ae85, 0x3c6ef372, 0xa54ff53a, 0x510e527f, 0x9b05688c, 0x1f83d9ab, 0x5be0cd19⟩

/-- Rotation to the right. -/
def rotate (x : UInt32) (n : UInt32) : UInt32 := (x >>> n) ||| (x <<< (32 - n))

/-! ## Compression -/

/-- One round with the round constant `k` and the message word `w`. -/
def State.round (s : State) (k w : UInt32) : State :=
  let s1 := rotate s.e 6 ^^^ rotate s.e 11 ^^^ rotate s.e 25
  let choice := (s.e &&& s.f) ^^^ (~~~s.e &&& s.g)
  let t1 := s.h + s1 + choice + k + w
  let s0 := rotate s.a 2 ^^^ rotate s.a 13 ^^^ rotate s.a 22
  let majority := (s.a &&& s.b) ^^^ (s.a &&& s.c) ^^^ (s.b &&& s.c)
  ⟨t1 + (s0 + majority), s.a, s.b, s.c, s.d + t1, s.e, s.f, s.g⟩

/-- The message word that follows the sixteen words of a window. -/
def nextWord (window : List UInt32) : UInt32 :=
  let word (i : Nat) : UInt32 := window.getD i 0
  let s0 := rotate (word 1) 7 ^^^ rotate (word 1) 18 ^^^ (word 1 >>> 3)
  let s1 := rotate (word 14) 17 ^^^ rotate (word 14) 19 ^^^ (word 14 >>> 10)
  word 0 + s0 + word 9 + s1

/-- The rounds for the given constants. The window holds the sixteen message words that come
next. -/
def rounds : List UInt32 → List UInt32 → State → State
  | [], _, s => s
  | k :: ks, window, s =>
    rounds ks (window.drop 1 ++ [nextWord window]) (s.round k (window.headD 0))

/-- The word-wise sum. -/
def State.add (s t : State) : State :=
  ⟨s.a + t.a, s.b + t.b, s.c + t.c, s.d + t.d, s.e + t.e, s.f + t.f, s.g + t.g, s.h + t.h⟩

/-- The sixteen words of a 64-byte block. -/
def blockWords (block : Bytes) : List UInt32 :=
  (List.range 16).map fun i => UInt32.ofNat (Bytes.ofBig ((block.drop (4 * i)).take 4))

/-- Take one block into the state. -/
def compress (s : State) (block : Bytes) : State :=
  s.add (rounds roundConstants (blockWords block) s)

/-! ## Messages -/

/-- The message with a one bit, zeros up to whole blocks, and its length in bits. -/
def pad (message : Bytes) : Bytes :=
  let zeros := (119 - message.length % 64) % 64
  message ++ 0x80 :: List.replicate zeros 0 ++ Bytes.big 8 (8 * message.length)

/-- The state after `count` blocks from the front of `data`. -/
def compressAll (count : Nat) (data : Bytes) (s : State) : State :=
  match count with
  | 0 => s
  | count + 1 => compressAll count (data.drop 64) (compress s (data.take 64))

/-- The bytes of the working words. -/
def State.bytes (s : State) : Bytes :=
  [s.a, s.b, s.c, s.d, s.e, s.f, s.g, s.h].flatMap fun w => Bytes.big 4 w.toNat

/-- The **SHA-256 digest** of a message. -/
def sha256 (message : Bytes) : Bytes :=
  let padded := pad message
  (compressAll (padded.length / 64) padded .initial).bytes

/-- Eight words of four bytes make 32 bytes. -/
theorem State.length_bytes (s : State) : s.bytes.length = 32 := by simp [State.bytes]

/-- A digest has 32 bytes, however long the message is. -/
@[simp]
theorem length_sha256 (message : Bytes) : (sha256 message).length = 32 := State.length_bytes _

end FleetStatus.Hash
