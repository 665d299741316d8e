import FleetStatus.Challenge
import FleetStatus.Proofs.Address

set_option relaxedAutoImplicit false
set_option autoImplicit false

/-!
# Which tokens are accepted, and for how long

A token stands for a bucket and an address, and a codec accepts the tokens for an address and one of
the last buckets, the current one included. Times may be negative or beyond what 32 bits can count
in buckets: all that is said of buckets is said of their numbers of 32 bits.

The validity of a codec is given in seconds and kept in buckets. The bucket in which a token is
issued counts as a whole, however little of it is left, so a token that is issued late in its bucket
is refused before its validity has gone by.

## Main definitions

* `FleetStatus.Challenge.message`, `FleetStatus.Challenge.shortDigest` — the digest in a token, and
  what it is taken of.
* `FleetStatus.Challenge.Separates` — a secret tells two messages apart.

## Main results

* `FleetStatus.Challenge.Codec.accepts_iff_exists_age` — the accepted tokens.
* `FleetStatus.Challenge.Codec.accepts_issue`, `FleetStatus.Challenge.Codec.accepts_issue_add` —
  when a token is accepted for the address that it was issued for.
* `FleetStatus.Challenge.Codec.accepts_issue_of_separates` — when it is accepted for another one.
* `FleetStatus.Challenge.Codec.accepts_make_iff` — all of this for the codec of a secret and a
  validity.
* `FleetStatus.Challenge.Codec.accepts_throughout_iff` — how long a token lives, and when it lasts for
  the whole validity.
-/

namespace FleetStatus

namespace Challenge

/-- What the digest in the token of an address and a bucket is taken of. -/
def message (ip : Ip) (b : BitVec 32) : Bytes := Bytes.big 4 b.toNat ++ ip.canonical.octets

/-- The part of a keyed digest that stands in a token. -/
def shortDigest (secret message : Bytes) : Bytes := (Hash.hmac secret message).take 24

/-- The three parts of a token: its bucket, four zeros and the digest. -/
theorem tokenBytes_eq (secret : Bytes) (ip : Ip) (b : BitVec 32) : tokenBytes secret ip b =
    Bytes.big 4 b.toNat ++ List.replicate 4 0 ++ shortDigest secret (message ip b) := rfl

/-- The digests of two messages in tokens differ if the messages do. -/
def Separates (secret m m' : Bytes) : Prop := shortDigest secret m = shortDigest secret m' → m = m'

/-- Tokens for one bucket differ in their digests only. -/
theorem tokenBytes_inj {secret : Bytes} {ip ip' : Ip} {b : BitVec 32} :
    tokenBytes secret ip b = tokenBytes secret ip' b ↔
      shortDigest secret (message ip b) = shortDigest secret (message ip' b) := by
  rw [tokenBytes_eq, tokenBytes_eq, List.append_cancel_left_eq]

/-- The messages for one bucket are equal exactly for addresses with one canonical form. -/
theorem message_inj {ip ip' : Ip} {b : BitVec 32} :
    message ip b = message ip' b ↔ ip.canonical = ip'.canonical := by
  rw [message, message, List.append_cancel_left_eq, Ip.octets_inj]

/-! ## Buckets -/

/-- A bucket is a number of 32 bits, which starts again at zero after the last one. -/
theorem bucket_eq (seconds : Int) : bucket seconds = BitVec.ofInt 32 (seconds / 30) := rfl

/-- The distance of two buckets is that of their numbers before they are cut to 32 bits. -/
theorem bucket_sub_bucket (seconds seconds' : Int) : bucket seconds - bucket seconds' =
    BitVec.ofInt 32 (seconds / 30 - seconds' / 30) := by
  rw [BitVec.sub_eq_iff_eq_add, bucket_eq, bucket_eq, ← BitVec.ofInt_add, Int.sub_add_cancel]

/-- How many buckets a time is after another one, in the numbers of 32 bits. -/
theorem toNat_bucket_sub_bucket (seconds seconds' : Int) :
    ((bucket seconds - bucket seconds').toNat : Int) =
      (seconds / 30 - seconds' / 30) % UInt32.size := by
  have hnonneg := Int.emod_nonneg (seconds / 30 - seconds' / 30) (b := UInt32.size) (by decide)
  rw [bucket_sub_bucket, BitVec.toNat_ofInt]
  exact Int.toNat_of_nonneg hnonneg

/-- The bucket of a given age. -/
theorem bucket_sub_ofNat (seconds : Int) (age : Nat) : bucket seconds - BitVec.ofNat 32 age =
    BitVec.ofInt 32 (seconds / 30 - age) := by
  rw [BitVec.sub_eq_iff_eq_add, bucket_eq, ← BitVec.ofInt_natCast, ← BitVec.ofInt_add,
    Int.sub_add_cancel]

/-- The age of a bucket. -/
theorem bucket_sub_eq_iff {seconds : Int} {b age : BitVec 32} :
    bucket seconds - b = age ↔ b = bucket seconds - age := by
  rw [BitVec.sub_eq_iff_eq_add, eq_comm (a := b), BitVec.sub_eq_iff_eq_add, BitVec.add_comm]

/-! ## Acceptance -/

namespace Codec

variable (codec : Codec)

/-- A token for some bucket and address is accepted while the bucket is among the last ones. -/
theorem accepts_tokenBytes (ip : Ip) (b : BitVec 32) (seconds : Int) :
    codec.accepts (tokenBytes codec.secret ip b) ip seconds ↔
      (bucket seconds - b).toNat < codec.windows := by
  simp [accepts]

/-- A token is accepted when it is the one of the bucket that it names. -/
theorem accepts_iff {token : Bytes} {ip : Ip} {seconds : Int} : codec.accepts token ip seconds ↔
    (bucket seconds - namedBucket token).toNat < codec.windows ∧
      token = tokenBytes codec.secret ip (namedBucket token) := by
  simp [accepts]

/-- **The accepted tokens** are those for the address and one of the last buckets.

**Proof sketch.** From left to right the age is the distance from the present bucket to the one that
the token names. From right to left a token that is made for a bucket names it, and its age is less
than the number of buckets there are, so the distance is the age. -/
theorem accepts_iff_exists_age {token : Bytes} {ip : Ip} {seconds : Int} :
    codec.accepts token ip seconds ↔
      ∃ age < codec.windows, token =
        tokenBytes codec.secret ip (BitVec.ofInt 32 (seconds / 30 - age)) := by
  constructor
  · intro h
    obtain ⟨hlt, htoken⟩ := codec.accepts_iff.1 h
    have hnamed : namedBucket token =
        bucket seconds - BitVec.ofNat 32 (bucket seconds - namedBucket token).toNat := by
      rw [← bucket_sub_eq_iff, BitVec.ofNat_toNat, BitVec.setWidth_eq]
    refine ⟨(bucket seconds - namedBucket token).toNat, hlt, ?_⟩
    rw [← bucket_sub_ofNat, ← hnamed]
    exact htoken
  · rintro ⟨age, hage, rfl⟩
    have hfits : age < UInt32.size := Nat.lt_trans hage codec.windows_lt
    have hage' : bucket seconds - (bucket seconds - BitVec.ofNat 32 age) = BitVec.ofNat 32 age :=
      bucket_sub_eq_iff.2 rfl
    rw [accepts_tokenBytes, ← bucket_sub_ofNat, hage', BitVec.toNat_ofNat, Nat.mod_eq_of_lt hfits]
    exact hage

/-- **How long a token is accepted** for the address that it was issued for. -/
theorem accepts_issue (ip : Ip) (issued seconds : Int) :
    codec.accepts (codec.issue ip issued).val ip seconds ↔
      (seconds / 30 - issued / 30) % UInt32.size < codec.windows := by
  rw [issue, accepts_tokenBytes, ← toNat_bucket_sub_bucket, Int.ofNat_lt]

/-- A token is accepted when it is issued. -/
theorem accepts_issue_self (ip : Ip) (seconds : Int) :
    codec.accepts (codec.issue ip seconds).val ip seconds := by
  rw [accepts_issue, Int.sub_self, Int.zero_emod]
  exact Int.natCast_pos.2 codec.windows_pos

/-- At any time there is a token that is accepted. -/
theorem exists_accepts (ip : Ip) (seconds : Int) :
    ∃ token : Token, codec.accepts token.val ip seconds :=
  ⟨codec.issue ip seconds, codec.accepts_issue_self ip seconds⟩

/-- **A token is for one address only**, unless its digest is that of another message too.

**Proof sketch.** The token names the bucket that it was issued in, so it is compared with the one
that the other address would have been given then. The two differ in their digests only, and the
secret tells the messages apart unless the addresses have one canonical form. -/
theorem accepts_issue_of_separates {ip ip' : Ip} {issued : Int} (seconds : Int)
    (hseparates : Separates codec.secret (message ip (bucket issued))
      (message ip' (bucket issued))) :
    codec.accepts (codec.issue ip issued).val ip' seconds ↔
      (seconds / 30 - issued / 30) % UInt32.size < codec.windows ∧
        ip.canonical = ip'.canonical := by
  rw [accepts_iff, issue, namedBucket_tokenBytes, tokenBytes_inj, ← toNat_bucket_sub_bucket,
    Int.ofNat_lt]
  refine and_congr_right fun _ => ⟨fun h => message_inj.1 (hseparates h), fun h => ?_⟩
  rw [message_inj.2 h]

/-- A secret that is not empty makes a codec, whatever the validity. -/
theorem make_eq_ok {secret : Bytes} (h : secret ≠ []) (validity : Nat) :
    ∃ codec, make secret validity = .ok codec ∧ codec.secret = secret ∧
      codec.windows = windowsFor validity := by
  rw [make, dif_neg h]
  exact ⟨_, rfl, rfl, rfl⟩

/-- **Which tokens the codec of a secret accepts.** It looks back over as many buckets as cover the
validity, and never over all that 32 bits can tell apart. A token is accepted exactly when it is
made of one of these buckets, four zeros and the first 24 bytes of the digest of the bucket and the
address. So the token that was issued for an address is accepted for it while fewer buckets have
gone by; and for another one only if both have the same canonical form, provided that the secret
tells the two messages apart, as it does when no two digests are equal.

**Proof sketch.** The codec that is made has the secret and the number of buckets that the validity
asks for. The four parts are `accepts_iff_exists_age`, `accepts_issue`, `accepts_issue_of_separates`
and `Ip.canonical_eq_iff`. -/
theorem accepts_make_iff {secret : Bytes} (hsecret : secret ≠ []) (validity : Nat) :
    ∃ codec, make secret validity = .ok codec ∧
      let windows := min (max 1 ((validity + 29) / 30)) (UInt32.size - 1)
      (∀ (token : Bytes) (ip : Ip) (seconds : Int), codec.accepts token ip seconds ↔
        ∃ age < windows,
          let stamp := Bytes.big 4 (BitVec.ofInt 32 (seconds / 30 - age)).toNat
          token = stamp ++ [0, 0, 0, 0] ++
            (Hash.hmac secret (stamp ++ ip.canonical.octets)).take 24) ∧
      (∀ (ip : Ip) (issued seconds : Int),
        codec.accepts (codec.issue ip issued).val ip seconds ↔
          (seconds / 30 - issued / 30) % UInt32.size < windows) ∧
      (∀ (ip ip' : Ip) (issued seconds : Int),
        Separates secret (message ip (bucket issued)) (message ip' (bucket issued)) →
        (codec.accepts (codec.issue ip issued).val ip' seconds ↔
          (seconds / 30 - issued / 30) % UInt32.size < windows ∧ ip.canonical = ip'.canonical)) ∧
      ∀ ip ip' : Ip, ip.canonical = ip'.canonical ↔
        ip = ip' ∨ (∃ a, ip = .v4 a ∧ ip' = .mapped a) ∨ ∃ a, ip = .mapped a ∧ ip' = .v4 a := by
  obtain ⟨codec, hmake, rfl, hwindows⟩ := make_eq_ok hsecret validity
  refine ⟨codec, hmake, ?_⟩
  intro windows
  have hcount : codec.windows = windows := hwindows
  rw [← hcount]
  exact ⟨fun _ _ _ => codec.accepts_iff_exists_age, codec.accepts_issue,
    fun _ _ _ seconds => codec.accepts_issue_of_separates seconds, Ip.canonical_eq_iff⟩

/-- The token of an address is accepted for it and for the version 6 address that stands for it, not
for the next address, and not in the next bucket. -/
theorem accepts_make_iff_mapped :
    let ip : Ip := .v4 0xc0a80101
    let other : Ip := .v4 0xc0a80102
    ∃ codec, make [0x6b] 1 = .ok codec ∧
      codec.accepts (codec.issue ip (-1)).val (.mapped 0xc0a80101) (-30) ∧
      ¬codec.accepts (codec.issue ip (-1)).val other (-30) ∧
      ¬codec.accepts (codec.issue ip (-1)).val ip 0 := by
  intro ip other
  have hsecret : ([0x6b] : Bytes) ≠ [] := by decide
  obtain ⟨codec, hmake, -, hself, hother, hcanonical⟩ := accepts_make_iff hsecret 1
  have hmapped : ip.canonical = (Ip.mapped 0xc0a80101).canonical :=
    (hcanonical _ _).2 (.inr (.inl ⟨_, rfl, rfl⟩))
  have hne : ip.canonical ≠ other.canonical := by decide
  have hseparates : Separates [0x6b] (message ip (bucket (-1))) (message other (bucket (-1))) :=
    fun h => absurd h (by decide +kernel)
  refine ⟨codec, hmake, ?_, ?_, ?_⟩
  · exact (hother ip _ (-1) (-30) fun _ => message_inj.2 hmapped).2 ⟨by decide, hmapped⟩
  · exact fun h => hne ((hother ip other (-1) (-30) hseparates).1 h).2
  · exact fun h => absurd ((hself ip (-1) 0).1 h) (by decide)

/-! ## Lifetime -/

/-- **A token is accepted while fewer buckets have begun than the codec looks back over**, the one
that it was issued in counted as a whole. -/
theorem accepts_issue_add (ip : Ip) (issued : Int) {d : Nat}
    (hd : (issued + d) / 30 - issued / 30 < UInt32.size) :
    codec.accepts (codec.issue ip issued).val ip (issued + d) ↔
      (issued + d) / 30 - issued / 30 < codec.windows := by
  have hlater : 0 ≤ (issued + d) / 30 - issued / 30 := by omega
  rw [accepts_issue, Int.emod_eq_of_lt hlater hd]

/-- The buckets of a codec cover its validity, where 32 bits can count them. -/
theorem windowsFor_eq {validity : Nat} (hpos : 1 ≤ validity)
    (hmax : validity ≤ 30 * (UInt32.size - 1)) : windowsFor validity = (validity + 29) / 30 := by
  simp only [windowsFor, bucketSeconds, UInt32.size] at hmax ⊢
  omega

/-- **How long a token lives.** A token is accepted exactly while fewer buckets have gone by than
cover the validity, where the bucket in which it was issued counts as a whole. So all but one of them
go by before it is refused, and it lasts for the whole validity exactly when the seconds of its
bucket that were over at its issue fit between the validity and the next multiple of thirty.

**Proof sketch.** The codec looks back over as many buckets as cover the validity (`windowsFor_eq`),
and from one time to a later one as many buckets go by as their numbers differ
(`accepts_issue_add`). The last second of the validity is the one that would be missed first. -/
theorem accepts_throughout_iff {secret : Bytes} (hsecret : secret ≠ []) (validity : Nat)
    (hpos : 1 ≤ validity) (hmax : validity ≤ 30 * (UInt32.size - 1)) (ip : Ip) (issued : Int) :
    ∃ codec, make secret validity = .ok codec ∧
      (∀ d : Nat, (issued + d) / 30 - issued / 30 < UInt32.size →
        (codec.accepts (codec.issue ip issued).val ip (issued + d) ↔
          (issued + d) / 30 - issued / 30 < ((validity + 29) / 30 : Nat))) ∧
      (∀ d ≤ 30 * ((validity + 29) / 30 - 1),
        codec.accepts (codec.issue ip issued).val ip (issued + d)) ∧
      ((∀ d < validity, codec.accepts (codec.issue ip issued).val ip (issued + d)) ↔
        issued % 30 + validity ≤ 30 * ((validity + 29) / 30)) := by
  obtain ⟨codec, hmake, rfl, hwindows⟩ := make_eq_ok hsecret validity
  rw [windowsFor_eq hpos hmax] at hwindows
  have hcount : (validity + 29) / 30 < UInt32.size := hwindows ▸ codec.windows_lt
  have hone : ∀ d : Nat, (issued + d) / 30 - issued / 30 < UInt32.size →
      (codec.accepts (codec.issue ip issued).val ip (issued + d) ↔
        (issued + d) / 30 - issued / 30 < ((validity + 29) / 30 : Nat)) := by
    intro d hd
    rw [codec.accepts_issue_add ip issued hd, hwindows]
  refine ⟨codec, hmake, hone, fun d hd => (hone d (by omega)).2 (by omega), fun hall => ?_,
    fun hlong d hd => (hone d (by omega)).2 (by omega)⟩
  have hlast := (hone (validity - 1) (by omega)).1 (hall (validity - 1) (by omega))
  omega

/-- A token that is issued in the last second of a bucket is refused 91 seconds later, with a
validity of 120 seconds. -/
theorem refuses_within_validity :
    ¬∀ (secret : Bytes) (validity : Nat) (ip : Ip) (issued : Int) (d : Nat), secret ≠ [] →
      1 ≤ validity → validity ≤ 30 * (UInt32.size - 1) → d < validity →
      ∃ codec, make secret validity = .ok codec ∧
        codec.accepts (codec.issue ip issued).val ip (issued + d) := by
  intro hclaim
  obtain ⟨codec, hmake, haccepts⟩ := hclaim [0x6b] 120 (.v4 0xc0a80101) 1700000039 91 (by decide)
    (by decide) (by decide) (by decide)
  obtain rfl : _ = codec := Except.ok.inj hmake
  exact absurd ((accepts_issue_add _ _ _ (by decide)).1 haccepts) (by decide)

/-- With a validity of 100 seconds a token lasts when it is issued up to twenty seconds into a
bucket, and does not when it is issued one second later; but it lives for 90 seconds. -/
theorem accepts_throughout_iff_twenty :
    let ip : Ip := .v4 0xc0a80101
    ∃ codec, make [0x6b] 100 = .ok codec ∧
      (∀ d : Nat, d < 100 → codec.accepts (codec.issue ip 1700000030).val ip (1700000030 + d)) ∧
      codec.accepts (codec.issue ip 1700000031).val ip (1700000031 + 90) ∧
      ¬codec.accepts (codec.issue ip 1700000031).val ip (1700000031 + 99) := by
  intro ip
  have hsecret : ([0x6b] : Bytes) ≠ [] := by decide
  obtain ⟨codec, hmake, -, -, hlasts⟩ :=
    accepts_throughout_iff hsecret 100 (by decide) (by decide) ip 1700000030
  obtain ⟨codec', hmake', hone, hlives, -⟩ :=
    accepts_throughout_iff hsecret 100 (by decide) (by decide) ip 1700000031
  obtain rfl : codec = codec' := Except.ok.inj (hmake.symm.trans hmake')
  refine ⟨codec, hmake, hlasts.2 (by decide), hlives 90 (by decide), fun h => ?_⟩
  exact absurd ((hone 99 (by decide)).1 h) (by decide)

end Codec
end Challenge
end FleetStatus
