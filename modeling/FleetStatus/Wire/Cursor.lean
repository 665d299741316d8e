import FleetStatus.Text.Utf8

set_option relaxedAutoImplicit false
set_option autoImplicit false

/-!
# Reading a datagram

A `Cursor` walks over received bytes. A reader either yields a value or says what is wrong; a field
that is cut short is not consumed.

## Main definitions

* `FleetStatus.Wire.ReadError` — what can be wrong with received bytes, and its wording.
* `FleetStatus.Wire.Cursor` — the unread bytes and how many were read before them.
* `FleetStatus.Wire.Reader` — a reading action; `FleetStatus.Wire.Reader.take` is the basic one.
-/

namespace FleetStatus.Wire

/-! ## Errors -/

/-- What can be wrong with received bytes. -/
inductive ReadError where
  /-- The leading bytes are not those of the protocol. -/
  | badMagic
  /-- The data ends at byte `got` where byte `needed` would be wanted. -/
  | truncated (needed got : Nat)
  /-- A block of a kind that is not known. -/
  | unknownBlock (kind : UInt16)
  /-- A string field that is not UTF-8. -/
  | invalidText
  deriving DecidableEq, Inhabited

/-- The number in at least four hexadecimal digits. -/
def hexWord (n : UInt16) : String := (Bytes.big 2 n.toNat).toHex

/-- The wording of an error. -/
def ReadError.message : ReadError → String
  | .badMagic => "Bad magic"
  | .truncated needed got =>
    "Truncated packet: need " ++ toString needed ++ " bytes, got " ++ toString got
  | .unknownBlock kind => "Unknown TLV type 0x" ++ hexWord kind
  | .invalidText => "Invalid UTF-8 in string field"

/-! ## Cursors -/

/-- A place in received bytes. -/
structure Cursor where
  /-- How many bytes were received. -/
  size : Nat
  /-- How many of them were read. -/
  position : Nat
  /-- The bytes that were not read. -/
  rest : Bytes
  /-- Nothing is lost. -/
  complete : position + rest.length = size
  deriving DecidableEq

/-- The start of received bytes. -/
def Cursor.start (data : Bytes) : Cursor := ⟨data.length, 0, data, by simp⟩

/-- How many bytes are left to read. -/
def Cursor.remaining (c : Cursor) : Nat := c.size - c.position

/-- What remains is as long as what is left to read. -/
theorem Cursor.remaining_eq (c : Cursor) : c.remaining = c.rest.length := by
  have := c.complete
  simp only [remaining]
  omega

/-- The cursor after the next `n` bytes. -/
def Cursor.skip (c : Cursor) (n : Nat) (h : n ≤ c.remaining) : Cursor where
  size := c.size
  position := c.position + n
  rest := c.rest.drop n
  complete := by
    have := c.complete
    rw [c.remaining_eq] at h
    simp only [List.length_drop]
    omega

/-! ## Readers -/

/-- A **reading action**: a value or an error, and the cursor afterwards. An action made of several
fields keeps the fields read before the one that failed. -/
def Reader (α : Type) : Type := Cursor → Except ReadError α × Cursor

namespace Reader

variable {α β : Type}

/-- Yield a value without reading. -/
protected def pure (a : α) : Reader α := fun c => (.ok a, c)

/-- Read on with the value that was read. -/
protected def bind (r : Reader α) (f : α → Reader β) : Reader β := fun c =>
  match r c with
  | (.ok a, c') => f a c'
  | (.error e, c') => (.error e, c')

instance : Monad Reader where
  pure := Reader.pure
  bind := Reader.bind

/-- Refuse what was read. -/
def fail (e : ReadError) : Reader α := fun c => (.error e, c)

/-- The next `n` bytes. -/
def take (n : Nat) : Reader Bytes := fun c =>
  if h : n ≤ c.remaining then (.ok (c.rest.take n), c.skip n h)
  else (.error (.truncated (c.position + n) c.size), c)

/-- How many bytes are left to read. -/
def remaining : Reader Nat := fun c => (.ok c.remaining, c)

/-- The outcome on the whole of `data`. -/
def run (r : Reader α) (data : Bytes) : Except ReadError α := (r (.start data)).1

/-- A reader that reads nothing stays where it is. -/
theorem pure_apply (a : α) (c : Cursor) : (pure a : Reader α) c = (.ok a, c) := rfl

/-- A reader that goes on starts where the one before it stopped, and does not start after an error.
-/
theorem bind_apply (r : Reader α) (f : α → Reader β) (c : Cursor) :
    (r >>= f) c = match r c with
      | (.ok a, c') => f a c'
      | (.error e, c') => (.error e, c') := rfl

instance : LawfulMonad Reader :=
  .mk' Reader
    (fun r => by
      funext c
      change Reader.bind r Reader.pure c = r c
      simp only [Reader.bind, Reader.pure]
      split <;> simp_all)
    (fun _ _ => rfl)
    (fun r f g => by
      funext c
      simp only [bind_apply]
      rcases r c with ⟨_ | _, _⟩ <;> rfl)

end Reader

end FleetStatus.Wire
