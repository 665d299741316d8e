import FleetStatus.Proofs.Wire.Reading

set_option relaxedAutoImplicit false
set_option autoImplicit false

/-!
# Bytes that are cut short

A reader needs all of some bytes when it refuses every strict prefix of them as too short, with the
place where more bytes would be wanted. Readers that follow one another need all of the bytes that
they read: the cut is in the bytes of one of them, and those before it are read as if there was
none.

## Main definitions

* `FleetStatus.Wire.Reader.Needs` — a reader refuses every strict prefix of some bytes.

## Main results

* `FleetStatus.Wire.Reader.Needs.bind` — one reader after the other.
* `FleetStatus.Wire.Reader.Needs.run` — a datagram that is cut short.
-/

namespace FleetStatus.Wire.Reader

variable {α β : Type} {r : Reader α} {f : α → Reader β} {bs bs' : Bytes} {a : α}

/-- The reader **needs all of the bytes**: where less of them is left, it tells of a byte behind the
data that it would want. -/
def Needs (r : Reader α) (bs : Bytes) : Prop :=
  ∀ c : Cursor, c.rest <+: bs → c.rest.length < bs.length →
    ∃ needed, c.size < needed ∧ (r c).1 = .error (.truncated needed c.size)

/-- Of no bytes there is no strict prefix. -/
theorem needs_nil : r.Needs [] := fun _ _ hshort => absurd hshort (Nat.not_lt_zero _)

/-- What fails in the first reader fails. -/
theorem Needs.bind_left (h : r.Needs bs) : (r >>= f).Needs bs := by
  intro c hpre hshort
  obtain ⟨needed, hlt, herror⟩ := h c hpre hshort
  refine ⟨needed, hlt, ?_⟩
  rw [bind_apply]
  cases hstep : r c with
  | mk o c' =>
    rw [hstep] at herror
    simp only at herror
    subst herror
    rfl

/-- **One reader after the other** needs the bytes of both.

**Proof sketch.** If the bytes of the first reader are not all there, the first one fails. If they
are, the first one reads them, and those of the second are not all there. -/
theorem Needs.bind (h : r.Needs bs) (hr : r.Reads bs a) (hf : (f a).Needs bs') :
    (r >>= f).Needs (bs ++ bs') := by
  intro c hpre hshort
  rcases Nat.lt_or_ge c.rest.length bs.length with hfirst | hsecond
  · exact h.bind_left c (List.prefix_of_prefix_length_le hpre (List.prefix_append ..)
      (Nat.le_of_lt hfirst)) hfirst
  · obtain ⟨left, hleft⟩ := List.prefix_of_prefix_length_le (List.prefix_append ..) hpre hsecond
    rw [← hleft] at hpre hshort
    have hrest := c.rest_skip hleft.symm (c.le_remaining hleft.symm)
    rw [bind_apply, hr c left hleft.symm]
    refine hf (c.skip bs.length _) ?_ ?_
    · rw [hrest]
      exact (List.prefix_append_right_inj bs).1 hpre
    · rw [hrest]
      simp only [List.length_append] at hshort
      omega

/-- The error tells of the length of the data. -/
theorem Needs.run (h : r.Needs bs) {n : Nat} (hn : n < bs.length) :
    ∃ needed, n < needed ∧ r.run (bs.take n) = .error (.truncated needed n) := by
  have hlength : (bs.take n).length = n := List.length_take_of_le (Nat.le_of_lt hn)
  have hshort : (bs.take n).length < bs.length := by
    rw [hlength]
    exact hn
  obtain ⟨needed, hlt, herror⟩ := h (.start (bs.take n)) (List.take_prefix n bs) hshort
  have hsize : (Cursor.start (bs.take n)).size = n := hlength
  rw [hsize] at hlt herror
  exact ⟨needed, hlt, herror⟩

/-! ## Fields -/

/-- Bytes are needed in full. -/
theorem needs_take {n : Nat} (h : bs.length = n) : (take n).Needs bs := by
  intro c _ hshort
  have hplace := c.complete
  have hover : ¬n ≤ c.remaining := by
    rw [c.remaining_eq]
    omega
  refine ⟨c.position + n, by omega, ?_⟩
  rw [take, dif_neg hover]

/-- A byte is needed. -/
theorem needs_u8 (v : UInt8) : u8.Needs (Wire.u8 v) := (needs_take rfl).bind_left

/-- Both bytes of a number are needed. -/
theorem needs_u16 (v : UInt16) : u16.Needs (Wire.u16 v) :=
  (needs_take (Bytes.length_little 2 v.toNat)).bind_left

/-- All four bytes of a number are needed. -/
theorem needs_u32 (v : UInt32) : u32.Needs (Wire.u32 v) :=
  (needs_take (Bytes.length_little 4 v.toNat)).bind_left

/-- Counted bytes are needed as far as they are kept.

**Proof sketch.** First the two bytes of the length, and then as many as the length tells. -/
theorem needs_counted (bs : Bytes) : counted.Needs (Wire.counted bs) := by
  have hlt : (bs.take maxLength).length < UInt16.size := Nat.lt_succ_of_le (List.length_take_le ..)
  refine Needs.bind ?_ (reads_u16_little hlt) (needs_take ?_)
  · exact (needs_take (Bytes.length_little 2 _)).bind_left
  · rw [UInt16.toNat_ofNat_of_lt' hlt]

end FleetStatus.Wire.Reader
