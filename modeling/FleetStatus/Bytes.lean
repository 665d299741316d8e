set_option relaxedAutoImplicit false
set_option autoImplicit false

/-!
# Bytes

Byte strings, the numbers written in them and their hexadecimal text.

## Main definitions

* `FleetStatus.Bytes` — a list of bytes.
* `FleetStatus.Bytes.capacity` — how many numbers fit in a count of bytes.
* `FleetStatus.Bytes.little`, `FleetStatus.Bytes.ofLittle` — a number in a fixed count of bytes,
  low byte first, and back.
* `FleetStatus.Bytes.big`, `FleetStatus.Bytes.ofBig` — the same with the high byte first.
* `FleetStatus.Bytes.toHex`, `FleetStatus.Bytes.ofHex?` — two hexadecimal digits a byte.

## Main results

* `FleetStatus.Bytes.ofLittle_little`, `FleetStatus.Bytes.little_ofLittle` — writing and reading a
  number undo each other.
* `FleetStatus.Bytes.ofHexDigits?_flatMap` — the digits of bytes are read as the bytes.
-/

namespace FleetStatus

/-- A string of bytes. -/
abbrev Bytes := List UInt8

namespace Bytes

/-! ## Numbers -/

/-- How many numbers `width` bytes can hold. -/
def capacity : Nat → Nat
  | 0 => 1
  | width + 1 => 256 * capacity width

/-- The number `n` in `width` bytes, low byte first; what does not fit is cut off. -/
def little : Nat → Nat → Bytes
  | 0, _ => []
  | width + 1, n => UInt8.ofNat n :: little width (n / 256)

/-- The number whose bytes are given low byte first. -/
def ofLittle : Bytes → Nat
  | [] => 0
  | b :: rest => b.toNat + 256 * ofLittle rest

/-- The number `n` in `width` bytes, high byte first. -/
def big (width n : Nat) : Bytes := (little width n).reverse

/-- The number whose bytes are given high byte first. -/
def ofBig (bs : Bytes) : Nat := ofLittle bs.reverse

/-- A number takes the bytes that it is written with, whether it fits or not. -/
@[simp]
theorem length_little (width n : Nat) : (little width n).length = width := by
  induction width generalizing n with
  | zero => rfl
  | succ width ih => simp [little, ih]

/-- The same in the other order. -/
@[simp]
theorem length_big (width n : Nat) : (big width n).length = width := by simp [big]

/-- **A number that fits reads back.**

**Proof sketch.** By induction on the number of bytes: the lowest byte is the remainder of the
number and the bytes behind it write the quotient, which fits in them. -/
theorem ofLittle_little {width n : Nat} (h : n < capacity width) :
    ofLittle (little width n) = n := by
  induction width generalizing n with
  | zero =>
    simp only [capacity] at h
    simp [little, ofLittle]
    omega
  | succ width ih =>
    have : n / 256 < capacity width := Nat.div_lt_of_lt_mul h
    simp only [little, ofLittle, ih this, UInt8.toNat_ofNat']
    omega

/-- **Bytes are written back.**

**Proof sketch.** By induction on the bytes. The first byte is the remainder of the number that is
read, since the bytes behind it count in steps of 256. -/
theorem little_ofLittle (bs : Bytes) : little bs.length (ofLittle bs) = bs := by
  induction bs with
  | nil => rfl
  | cons b rest ih =>
    have hb := b.toNat_lt
    have h1 : UInt8.ofNat (b.toNat + 256 * ofLittle rest) = b := by
      apply UInt8.toNat.inj
      rw [UInt8.toNat_ofNat']
      omega
    have h2 : (b.toNat + 256 * ofLittle rest) / 256 = ofLittle rest := by omega
    simp [little, ofLittle, h1, h2, ih]

/-- The number that bytes are read as fits in as many bytes. -/
theorem ofLittle_lt (bs : Bytes) : ofLittle bs < capacity bs.length := by
  induction bs with
  | nil => simp [ofLittle, capacity]
  | cons b rest ih =>
    have hb := b.toNat_lt
    simp only [ofLittle, List.length_cons, capacity]
    omega

/-- A number that fits reads back, the highest byte first. -/
theorem ofBig_big {width n : Nat} (h : n < capacity width) : ofBig (big width n) = n := by
  simp [ofBig, big, ofLittle_little h]

/-- The number that bytes are read as fits in as many bytes, whatever the order. -/
theorem ofBig_lt (bs : Bytes) : ofBig bs < capacity bs.length := by
  have hlt := ofLittle_lt bs.reverse
  rwa [List.length_reverse] at hlt

/-- Numbers that fit are told apart by their bytes. -/
theorem big_inj {width n m : Nat} (hn : n < capacity width) (hm : m < capacity width) :
    big width n = big width m ↔ n = m := by
  constructor
  · intro h
    rw [← ofBig_big hn, ← ofBig_big hm, h]
  · intro h
    rw [h]

/-- Bytes are written back, the highest byte first. -/
theorem big_ofBig (bs : Bytes) : big bs.length (ofBig bs) = bs := by
  have := little_ofLittle bs.reverse
  simp only [List.length_reverse] at this
  simp [big, ofBig, this]

/-! ## Hexadecimal text -/

/-- The lowercase digit of a number below sixteen. -/
def hexDigit (n : Nat) : Char :=
  if n < 10 then Char.ofNat ('0'.toNat + n) else Char.ofNat ('a'.toNat + (n - 10))

/-- The value of a hexadecimal digit of either case. -/
def hexValue? (c : Char) : Option Nat :=
  if '0' ≤ c ∧ c ≤ '9' then some (c.toNat - '0'.toNat)
  else if 'a' ≤ c ∧ c ≤ 'f' then some (c.toNat - 'a'.toNat + 10)
  else if 'A' ≤ c ∧ c ≤ 'F' then some (c.toNat - 'A'.toNat + 10)
  else none

/-- The two digits of a byte. -/
def hexPair (b : UInt8) : List Char := [hexDigit (b.toNat / 16), hexDigit (b.toNat % 16)]

/-- The bytes as lowercase hexadecimal text. -/
def toHex (bs : Bytes) : String := String.ofList (bs.flatMap hexPair)

/-- The bytes written by pairs of digits, after the ones in `done` (last byte first). -/
def ofHexDigits? (done : Bytes) : List Char → Option Bytes
  | [] => some done.reverse
  | [_] => none
  | c :: d :: rest =>
    match hexValue? c, hexValue? d with
    | some x, some y => ofHexDigits? (UInt8.ofNat (16 * x + y) :: done) rest
    | _, _ => none

/-- The bytes written in a hexadecimal text. -/
def ofHex? (s : String) : Option Bytes := ofHexDigits? [] s.toList

/-- A digit is read as its value. -/
theorem hexValue?_hexDigit {n : Nat} (h : n < 16) : hexValue? (hexDigit n) = some n := by
  decide +revert

/-- The digits of bytes are read as the bytes.

**Proof sketch.** By induction on the bytes: the two digits of a byte are read as its quotient and
its remainder by sixteen, which make up the byte. -/
theorem ofHexDigits?_flatMap (done bs : Bytes) :
    ofHexDigits? done (bs.flatMap hexPair) = some (done.reverse ++ bs) := by
  induction bs generalizing done with
  | nil => simp [ofHexDigits?]
  | cons b bs ih =>
    have hb := b.toNat_lt
    have hhigh := hexValue?_hexDigit (n := b.toNat / 16) (by omega)
    have hlow := hexValue?_hexDigit (n := b.toNat % 16) (by omega)
    have hbyte : 16 * (b.toNat / 16) + b.toNat % 16 = b.toNat := Nat.div_add_mod b.toNat 16
    simp [hexPair, ofHexDigits?, hhigh, hlow, hbyte, ih]

/-- Each byte takes two digits. -/
theorem length_flatMap_hexPair (bs : Bytes) : (bs.flatMap hexPair).length = 2 * bs.length := by
  induction bs with
  | nil => rfl
  | cons b bs ih =>
    simp only [List.flatMap_cons, List.length_append, ih, hexPair, List.length_cons,
      List.length_nil]
    omega
/-- The first eight bytes in hexadecimal, enough to recognise a token by. -/
def shortHex (bs : Bytes) : String := toHex (bs.take 8)

end Bytes

end FleetStatus
