import FleetStatus.Address

set_option relaxedAutoImplicit false
set_option autoImplicit false

/-!
# Canonical addresses

A version 4 address can be written as an address of version 6. The canonical form takes such an
address back, so that both count as one, and leaves all others as they are.

## Main definitions

* `FleetStatus.Ip.mapped` — the version 6 address that stands for a version 4 address.

## Main results

* `FleetStatus.Ip.canonical_eq_iff` — which addresses have the same canonical form.
* `FleetStatus.Ip.octets_inj` — the bytes of an address tell which address it is.
-/

namespace FleetStatus

namespace Ip

/-- The version 6 address that stands for a version 4 address, `::ffff:0:0` with the address in its
last 32 bits. -/
def mapped (a : BitVec 32) : Ip := .v6 (BitVec.ofNat 128 (0xffff * UInt32.size + a.toNat))

/-- **Exactly the addresses `mapped a` stand for a version 4 address.** -/
theorem mapped?_eq_some_iff {a : BitVec 128} {b : BitVec 32} :
    mapped? a = some b ↔ Ip.v6 a = mapped b := by
  have hb : b.toNat < UInt32.size := b.isLt
  simp only [mapped?, mapped, v6.injEq, Option.ite_none_right_eq_some, Option.some.injEq,
    BitVec.toNat_eq, BitVec.toNat_ofNat, UInt32.size] at hb ⊢
  omega

/-- The address that stands for a version 4 address is taken back to it. -/
theorem canonical_mapped (a : BitVec 32) : (mapped a).canonical = .v4 a := by
  obtain ⟨b, hb⟩ : ∃ b, mapped a = .v6 b := ⟨_, rfl⟩
  rw [hb, canonical, mapped?_eq_some_iff.2 hb.symm]
  rfl

/-- An address is its own canonical form unless it stands for a version 4 address.

**Proof sketch.** By cases on the version and on whether the address is one of those that stand for
a version 4 address. -/
theorem canonical_eq_self_or (a : Ip) : a.canonical = a ∨ ∃ b, a = mapped b := by
  cases a with
  | v4 a => exact .inl rfl
  | v6 a =>
    cases hmapped : mapped? a with
    | none => exact .inl (by rw [canonical, hmapped]; rfl)
    | some b => exact .inr ⟨b, mapped?_eq_some_iff.1 hmapped⟩

/-- **Which addresses have the same canonical form**: a version 4 address and the version 6 address
that stands for it, and no others.

**Proof sketch.** Each of the two addresses is its own canonical form or stands for a version 4
address, which makes four cases. In each of them the equation of the canonical forms is one of the
addresses or of the version 4 addresses that they stand for. -/
theorem canonical_eq_iff (a b : Ip) : a.canonical = b.canonical ↔
    a = b ∨ (∃ c, a = .v4 c ∧ b = mapped c) ∨ ∃ c, a = mapped c ∧ b = .v4 c := by
  constructor
  · intro h
    obtain ha | ⟨c, rfl⟩ := a.canonical_eq_self_or <;> obtain hb | ⟨d, rfl⟩ := b.canonical_eq_self_or
    · exact .inl (ha.symm.trans (h.trans hb))
    · rw [ha, canonical_mapped] at h
      exact .inr (.inl ⟨d, h, rfl⟩)
    · rw [hb, canonical_mapped] at h
      exact .inr (.inr ⟨c, rfl, h.symm⟩)
    · rw [canonical_mapped, canonical_mapped, v4.injEq] at h
      exact .inl (by rw [h])
  · rintro (rfl | ⟨c, rfl, rfl⟩ | ⟨c, rfl, rfl⟩)
    · rfl
    · rw [canonical_mapped]
      rfl
    · rw [canonical_mapped]
      rfl

/-- The bytes of an address tell which address it is.

**Proof sketch.** The number of bytes tells the version, and the bytes tell the number that they
write. -/
theorem octets_inj {a b : Ip} : a.octets = b.octets ↔ a = b := by
  refine ⟨fun h => ?_, fun h => h ▸ rfl⟩
  have hlength := congrArg List.length h
  cases a with
  | v4 a =>
    cases b with
    | v4 b => exact congrArg v4 (BitVec.eq_of_toNat_eq ((Bytes.big_inj a.isLt b.isLt).1 h))
    | v6 b => simp [octets] at hlength
  | v6 a =>
    cases b with
    | v4 b => simp [octets] at hlength
    | v6 b => exact congrArg v6 (BitVec.eq_of_toNat_eq ((Bytes.big_inj a.isLt b.isLt).1 h))

end Ip

end FleetStatus
