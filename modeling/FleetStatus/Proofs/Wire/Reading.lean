import FleetStatus.Proofs.Text.Truncate
import FleetStatus.Wire.Field

set_option relaxedAutoImplicit false
set_option autoImplicit false

/-!
# What is written is read

A reader reads some bytes as a value when it yields the value wherever these bytes come next, and
stops right behind them. Readers that follow one another read bytes that follow one another, so a
statement about a datagram is put together from statements about its fields.

## Main definitions

* `FleetStatus.Wire.Reader.Reads` — a reader reads some bytes as a value.
* `FleetStatus.Wire.Reader.Finishes` — the outcome of a reader when given bytes are all that is
  left.

## Main results

* `FleetStatus.Wire.Reader.Reads.bind`, `FleetStatus.Wire.Reader.Reads.bind_finishes` — one reader
  after the other.
* `FleetStatus.Wire.Reader.reads_u16`, `FleetStatus.Wire.Reader.reads_counted`, … — each field is
  read as what was written.
-/

namespace FleetStatus.Wire

/-! ## Cursors -/

namespace Cursor

variable (c : Cursor)

/-- A cursor is its size, its place and what is left. -/
theorem eq_of_fields {c c' : Cursor} (hsize : c.size = c'.size) (hposition : c.position = c'.position)
    (hrest : c.rest = c'.rest) : c = c' := by
  cases c
  cases c'
  simp_all

/-- To skip nothing is to stay. -/
theorem skip_zero (h : 0 ≤ c.remaining) : c.skip 0 h = c := eq_of_fields rfl rfl rfl

/-- To skip twice is to skip both at once. -/
theorem skip_skip {n m : Nat} (h : n ≤ c.remaining) (h' : m ≤ (c.skip n h).remaining)
    (hboth : n + m ≤ c.remaining) : (c.skip n h).skip m h' = c.skip (n + m) hboth :=
  eq_of_fields rfl (Nat.add_assoc ..) List.drop_drop

/-- What comes first is left. -/
theorem le_remaining {bs rest : Bytes} (h : c.rest = bs ++ rest) : bs.length ≤ c.remaining := by
  rw [c.remaining_eq, h, List.length_append]
  exact Nat.le_add_right _ _

/-- What comes after the bytes that were skipped. -/
theorem rest_skip {bs rest : Bytes} (h : c.rest = bs ++ rest) (hle : bs.length ≤ c.remaining) :
    (c.skip bs.length hle).rest = rest := by
  show c.rest.drop bs.length = rest
  rw [h, List.drop_left]

end Cursor

/-! ## Bytes behind their length -/

/-- Bytes that two bytes can count are not cut. -/
theorem counted_of_le {bs : Bytes} (h : bs.length ≤ maxLength) :
    counted bs = length bs.length ++ bs := by
  simp only [counted, List.take_of_length_le h]

/-- How long counted bytes are. -/
theorem length_counted {bs : Bytes} (h : bs.length ≤ maxLength) :
    (counted bs).length = 2 + bs.length := by
  rw [counted_of_le h, List.length_append, length, Bytes.length_little]

/-- How long a written text is. -/
theorem length_text_eq (s : String) :
    (text s).length = 2 + (Text.truncate s maxLength).utf8ByteSize := by
  rw [text, List.length_append, length, Bytes.length_little, Text.length_utf8]

/-- How long a text is that is not cut. -/
theorem length_text {s : String} (h : s.utf8ByteSize ≤ maxLength) :
    (text s).length = 2 + s.utf8ByteSize := by
  rw [length_text_eq, Text.truncate_eq_self h]

/-- What is not kept is not sent. -/
theorem counted_take (bs : Bytes) : counted (bs.take maxLength) = counted bs := by
  rw [counted_of_le (List.length_take_le ..)]
  rfl

/-- A text is written as the counted bytes of what is kept of it. -/
theorem text_eq_counted (s : String) :
    text s = counted (Text.utf8 (Text.truncate s maxLength)) := by
  have hkept : (Text.utf8 (Text.truncate s maxLength)).length ≤ maxLength :=
    Text.utf8ByteSize_truncate_le s maxLength
  rw [counted_of_le hkept]
  rfl

/-- A text counts for as much as is kept of it. -/
theorem text_truncate (s : String) : text (Text.truncate s maxLength) = text s := by
  have htwice : Text.truncate (Text.truncate s maxLength) maxLength = Text.truncate s maxLength :=
    Text.truncate_eq_self (Text.utf8ByteSize_truncate_le s maxLength)
  rw [text, htwice]
  rfl

namespace Reader

variable {α β : Type}

/-! ## Reading some bytes as a value -/

/-- The reader **reads the bytes as a value**: where they come next it yields the value and stops
behind them, whatever follows. -/
def Reads (r : Reader α) (bs : Bytes) (a : α) : Prop :=
  ∀ (c : Cursor) (rest : Bytes) (h : c.rest = bs ++ rest),
    r c = (.ok a, c.skip bs.length (c.le_remaining h))

section Reads

variable {r : Reader α} {f : α → Reader β} {bs bs' : Bytes} {a : α} {b : β}

/-- To read nothing reads no bytes. -/
theorem reads_pure (a : α) : (pure a : Reader α).Reads [] a := fun c _ _ => by
  rw [pure_apply]
  exact congrArg _ (c.skip_zero _).symm

/-- **One reader after the other.**

**Proof sketch.** The first reader leaves what comes behind its bytes, and the second one starts
there. -/
theorem Reads.bind (hr : r.Reads bs a) (hf : (f a).Reads bs' b) : (r >>= f).Reads (bs ++ bs') b := by
  intro c rest h
  have hfirst : c.rest = bs ++ (bs' ++ rest) := by rw [h, List.append_assoc]
  have hboth : bs.length + bs'.length ≤ c.remaining := by
    rw [← List.length_append]
    exact c.le_remaining h
  rw [bind_apply, hr c _ hfirst]
  show f a (c.skip bs.length _) = _
  rw [hf _ rest (c.rest_skip hfirst _), c.skip_skip _ _ hboth]
  simp only [List.length_append]

/-- The last step of a reader only works on what was read. -/
theorem Reads.map (hr : r.Reads bs a) (g : α → β) : (r >>= fun a => pure (g a)).Reads bs (g a) := by
  have hboth : (r >>= fun a => pure (g a)).Reads (bs ++ []) (g a) := hr.bind (reads_pure (g a))
  rwa [List.append_nil] at hboth

end Reads

/-! ## Reading what is left -/

/-- The outcome is as told when the bytes are **all that is left**. -/
def Finishes (r : Reader α) (bs : Bytes) (outcome : Except ReadError α → Prop) : Prop :=
  ∀ c : Cursor, c.rest = bs → outcome (r c).1

section Finishes

variable {r : Reader α} {f : α → Reader β} {bs bs' : Bytes} {a : α} {b : β}
  {outcome : Except ReadError β → Prop}

/-- What comes out at the end comes out on the whole of some bytes. -/
theorem Finishes.run {outcome : Except ReadError α → Prop} (h : r.Finishes bs outcome) :
    outcome (r.run bs) := h (.start bs) rfl

/-- One reader after the other, the second to the end. -/
theorem Reads.bind_finishes (hr : r.Reads bs a) (hf : (f a).Finishes bs' outcome) :
    (r >>= f).Finishes (bs ++ bs') outcome := by
  intro c hc
  rw [bind_apply, hr c bs' hc]
  exact hf _ (c.rest_skip hc _)

/-- How many bytes are left is known before they are read. -/
theorem finishes_remaining_bind {g : Nat → Reader β} (hg : (g bs.length).Finishes bs outcome) :
    (remaining >>= g).Finishes bs outcome := by
  intro c hc
  have hleft : c.remaining = bs.length := by rw [c.remaining_eq, hc]
  show outcome (g c.remaining c).1
  rw [hleft]
  exact hg c hc

/-- A reader that fails on what is left leaves nothing to the next one. -/
theorem Finishes.bind_error (hr : r.Finishes bs fun o => ∃ e, o = .error e) :
    (r >>= f).Finishes bs fun o => ∃ e, o = .error e := by
  intro c hc
  obtain ⟨e, he⟩ := hr c hc
  rw [bind_apply]
  cases hstep : r c with
  | mk o c' =>
    rw [hstep] at he
    simp only at he
    subst he
    exact ⟨e, rfl⟩

end Finishes

/-! ## Fields -/

/-- Bytes that are not all there are refused. -/
theorem finishes_take_error {bs : Bytes} {n : Nat} (h : bs.length < n) :
    (take n).Finishes bs fun o => ∃ e, o = .error e := by
  intro c hc
  have hshort : ¬n ≤ c.remaining := by
    rw [c.remaining_eq, hc]
    omega
  rw [take, dif_neg hshort]
  exact ⟨_, rfl⟩

/-- Bytes are taken as they are. -/
theorem reads_take {bs : Bytes} {n : Nat} (h : bs.length = n) : (take n).Reads bs bs := by
  subst h
  intro c rest h
  rw [take, dif_pos (c.le_remaining h), h, List.take_left]

/-- A byte is read as it was written. -/
theorem reads_u8 (v : UInt8) : u8.Reads (Wire.u8 v) v := by
  have hbyte : (take 1).Reads (Wire.u8 v) (Wire.u8 v) := reads_take rfl
  have hread := hbyte.map fun bs => UInt8.ofNat (Bytes.ofLittle bs)
  have hvalue : Bytes.ofLittle (Wire.u8 v) = v.toNat := by simp [Wire.u8, Bytes.ofLittle]
  rwa [hvalue, UInt8.ofNat_toNat] at hread

/-- A two-byte number is read as what was written. -/
theorem reads_u16_little {n : Nat} (h : n < UInt16.size) :
    u16.Reads (Bytes.little 2 n) (UInt16.ofNat n) := by
  have hread := (reads_take (Bytes.length_little 2 n)).map fun bs => UInt16.ofNat (Bytes.ofLittle bs)
  rwa [Bytes.ofLittle_little h] at hread

/-- A number of two bytes is read as it was written. -/
theorem reads_u16 (v : UInt16) : u16.Reads (Wire.u16 v) v := by
  have hread := reads_u16_little v.toNat_lt
  rwa [UInt16.ofNat_toNat] at hread

/-- A number of four bytes is read as it was written. -/
theorem reads_u32 (v : UInt32) : u32.Reads (Wire.u32 v) v := by
  have hread :=
    (reads_take (Bytes.length_little 4 v.toNat)).map fun bs => UInt32.ofNat (Bytes.ofLittle bs)
  rwa [Bytes.ofLittle_little v.toNat_lt, UInt32.ofNat_toNat] at hread

/-- A signed number of four bytes is read as it was written. -/
theorem reads_i32 (v : Int32) : i32.Reads (Wire.i32 v) v := by
  have hread := (reads_u32 v.toUInt32).map UInt32.toInt32
  rwa [Int32.toInt32_toUInt32] at hread

/-- An identity is read as it was written. -/
theorem reads_uuid (u : Uuid) : uuid.Reads u.toBytes u := by
  have hread := (reads_take u.length_toBytes).map Uuid.ofBytes
  rwa [Uuid.ofBytes_toBytes] at hread

/-- Bytes that two bytes can count are read as what was written.

**Proof sketch.** The length is told as it is, and as many bytes are taken. -/
theorem reads_counted_of_le {bs : Bytes} (h : bs.length ≤ maxLength) :
    counted.Reads (Wire.counted bs) bs := by
  have hlt : bs.length < UInt16.size := Nat.lt_succ_of_le h
  rw [counted_of_le h]
  refine (reads_u16_little hlt).bind (reads_take ?_)
  rw [UInt16.toNat_ofNat_of_lt' hlt]

/-- **Counted bytes are read as what was kept of them.** -/
theorem reads_counted (bs : Bytes) : counted.Reads (Wire.counted bs) (bs.take maxLength) := by
  rw [← counted_take]
  exact reads_counted_of_le (List.length_take_le ..)

/-- **Bytes behind a length that is too large** are refused.

**Proof sketch.** The length is read, and as many bytes are not there. -/
theorem finishes_counted_error {bs : Bytes} {n : Nat} (hn : n < UInt16.size) (h : bs.length < n) :
    counted.Finishes (Bytes.little 2 n ++ bs) fun o => ∃ e, o = .error e := by
  refine (reads_u16_little hn).bind_finishes (finishes_take_error ?_)
  rw [UInt16.toNat_ofNat_of_lt' hn]
  exact h

end Reader

end FleetStatus.Wire
