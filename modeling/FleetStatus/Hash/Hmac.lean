import FleetStatus.Hash.Sha256

set_option relaxedAutoImplicit false
set_option autoImplicit false

/-!
# Keyed digests

The keyed-hash message authentication code over SHA-256.

## Main definitions

* `FleetStatus.Hash.hmac` — the 32-byte digest of a message under a key.
-/

namespace FleetStatus.Hash

/-- The size of the blocks that the hash function takes in. -/
def blockSize : Nat := 64

/-- The key as one block: a longer key is hashed first, a shorter one is filled with zeros. -/
def keyBlock (key : Bytes) : Bytes :=
  let short := if key.length > blockSize then sha256 key else key
  short ++ List.replicate (blockSize - short.length) 0

/-- The **keyed digest** of a message. -/
def hmac (key message : Bytes) : Bytes :=
  let block := keyBlock key
  let inner := sha256 (block.map (· ^^^ 0x36) ++ message)
  sha256 (block.map (· ^^^ 0x5c) ++ inner)

/-- An authentication code has the length of a digest. -/
@[simp]
theorem length_hmac (key message : Bytes) : (hmac key message).length = 32 := length_sha256 _

end FleetStatus.Hash
