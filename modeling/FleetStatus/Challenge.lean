import FleetStatus.Address
import FleetStatus.Hash.Hmac

set_option relaxedAutoImplicit false
set_option autoImplicit false

/-!
# Challenge tokens

A client proves that it can receive at the address it sends from by repeating a token. A token binds
a time bucket of thirty seconds and the address through a keyed digest; nothing is remembered about
it.

```text
+-------------+-------------+------------------------------+
| bucket      | zeros       | keyed digest                 |
| 4 bytes     | 4 bytes     | first 24 bytes               |
+-------------+-------------+------------------------------+
```

## Main definitions

* `FleetStatus.Challenge.Codec` — a secret and the number of buckets a token is accepted for.
* `FleetStatus.Challenge.Codec.issue` — the token of an address at a time.
* `FleetStatus.Challenge.Codec.accepts` — whether a token is one issued in the last buckets.
-/

namespace FleetStatus.Challenge

/-- The seconds of a time bucket. -/
def bucketSeconds : Nat := 30

/-- The seconds that a token is accepted for unless told otherwise. -/
def defaultValidity : Nat := 120

/-- The size of a token in bytes. -/
def tokenSize : Nat := 32

/-- A token: 32 bytes. -/
abbrev Token := { bs : Bytes // bs.length = tokenSize }

/-- The reason for which no codec is made. -/
inductive CodecError where
  /-- The secret has no bytes. -/
  | emptySecret
  deriving DecidableEq, Inhabited

/-- The wording of an error. -/
def CodecError.message : CodecError → String
  | .emptySecret => "Challenge secret must not be empty"

/-- What is needed to issue and to check tokens. -/
structure Codec where
  /-- The key of the digest. -/
  secret : Bytes
  /-- How many buckets, the current one included, a token is accepted for. -/
  windows : Nat
  secret_ne_nil : secret ≠ []
  windows_pos : 0 < windows
  windows_lt : windows < UInt32.size
  deriving DecidableEq

/-- The number of buckets that cover `validity` seconds: at least one, and in the range of 32-bit
numbers. -/
def windowsFor (validity : Nat) : Nat :=
  min (max 1 ((validity + (bucketSeconds - 1)) / bucketSeconds)) (UInt32.size - 1)

/-- The bucket of a time in seconds, reduced to 32 bits. -/
def bucket (seconds : Int) : BitVec 32 := BitVec.ofInt 32 (seconds / bucketSeconds)

/-- The bytes of the token for an address and a bucket. -/
def tokenBytes (secret : Bytes) (ip : Ip) (b : BitVec 32) : Bytes :=
  let stamp := Bytes.big 4 b.toNat
  stamp ++ List.replicate 4 0 ++ (Hash.hmac secret (stamp ++ ip.canonical.octets)).take 24

/-- A token has one length, since the digest has one. -/
@[simp]
theorem length_tokenBytes (secret : Bytes) (ip : Ip) (b : BitVec 32) :
    (tokenBytes secret ip b).length = tokenSize := by
  simp [tokenBytes, tokenSize]

/-- The bucket that the first four bytes of a token name. -/
def namedBucket (token : Bytes) : BitVec 32 := BitVec.ofNat 32 (Bytes.ofBig (token.take 4))

/-- A token names the bucket it is for. -/
@[simp]
theorem namedBucket_tokenBytes (secret : Bytes) (ip : Ip) (b : BitVec 32) :
    namedBucket (tokenBytes secret ip b) = b := by
  have h : b.toNat < Bytes.capacity 4 := b.isLt
  have ht : (tokenBytes secret ip b).take 4 = Bytes.big 4 b.toNat := by
    simp only [tokenBytes, List.append_assoc]
    exact List.take_left' (by simp)
  simp [namedBucket, ht, Bytes.ofBig_big h]

namespace Codec

/-- The codec for a secret whose tokens are accepted for `validity` seconds. -/
def make (secret : Bytes) (validity : Nat := defaultValidity) : Except CodecError Codec :=
  if h : secret = [] then .error .emptySecret
  else .ok {
    secret
    windows := windowsFor validity
    secret_ne_nil := h
    windows_pos := by simp only [windowsFor, UInt32.size]; omega
    windows_lt := by simp only [windowsFor, UInt32.size]; omega }

/-- The **token** of an address at a time. -/
def issue (codec : Codec) (ip : Ip) (seconds : Int) : Token :=
  ⟨tokenBytes codec.secret ip (bucket seconds), length_tokenBytes ..⟩

/-- Whether `token` is the token of `ip` for one of the last `windows` buckets. The bucket is the
one that the token names: no other bucket has a token with the same first four bytes. -/
def accepts (codec : Codec) (token : Bytes) (ip : Ip) (seconds : Int) : Bool :=
  let named := namedBucket token
  (bucket seconds - named).toNat < codec.windows && token == tokenBytes codec.secret ip named

end Codec

end FleetStatus.Challenge
