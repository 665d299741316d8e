set_option relaxedAutoImplicit false
set_option autoImplicit false

/-!
# Numbers in JSON

A number is an integer if it is written as one and has no more than 64 bits. Of any other number the
leading digits that fit in 64 bits are the mantissa, and the digits after them only count as places.
Whether the number is in the range of the double format is decided by the mantissa, its power of ten
and their product, each rounded to a double.

## Main definitions

* `FleetStatus.Numeral` — a number.
* `FleetStatus.Numeral.ofDigits` — the number that digits write.
* `FleetStatus.Numeral.roundDouble` — rounding to the precision of a double.
* `FleetStatus.Numeral.fitsDouble` — whether the value is finite.

## Main results

* `FleetStatus.Numeral.fitsDouble_integer` — integers of 64 bits are finite.
-/

namespace FleetStatus

/-- A number. -/
inductive Numeral where
  /-- An integer, written without fraction and exponent. Minus zero is not one. -/
  | integer (value : Int)
  /-- A mantissa times a power of ten. -/
  | decimal (mantissa exponent : Int)
  deriving DecidableEq, Inhabited

namespace Numeral

/-! ## Reading -/

/-- The number `n` with more decimal digits behind it for as long as it stays in 64 bits, and the
number of digits that are left off. -/
def extend (n : Nat) : List Char → Nat × Nat
  | [] => (n, 0)
  | c :: rest =>
    let next := 10 * n + (c.toNat - '0'.toNat)
    if next < UInt64.size then extend next rest else (n, rest.length + 1)

/-- The **number that digits write**: those before the point, those after it and the exponent. -/
def ofDigits (negative : Bool) (whole : List Char) (fraction : Option (List Char))
    (exponent : Option Int) : Numeral :=
  let (kept, places) := extend 0 whole
  let (mantissa, idle) := extend kept (fraction.getD [])
  let value : Int := if negative then -mantissa else mantissa
  if fraction.isNone && exponent.isNone && places = 0 && !(negative && mantissa = 0) then
    .integer value
  else .decimal value (exponent.getD 0 + places + idle - (fraction.getD []).length)

/-! ## Rounding -/

/-- The number of binary digits of a mantissa. -/
def precision : Nat := 53

/-- A number rounded to `precision` binary digits; of two that are equally near, the one with the
even last digit. -/
def roundDouble (n : Nat) : Nat :=
  if n.log2 < precision then n
  else
    let unit := 1 <<< (n.log2 + 1 - precision)
    let whole := n / unit
    let rest := n % unit
    if 2 * rest > unit ∨ 2 * rest = unit ∧ whole % 2 = 1 then (whole + 1) * unit else whole * unit

/-- A power of two is at most a number that has its digit or a higher one. -/
theorem shift_le_self {n k : Nat} (hk : k ≤ n.log2) (hn : n ≠ 0) : 1 <<< k ≤ n := by
  rw [Nat.one_shiftLeft]
  exact Nat.le_trans (Nat.pow_le_pow_right Nat.two_pos hk) (Nat.log2_self_le hn)

/-- Rounding does not double a number.

**Proof sketch.** What is added is less than one unit in the last digit that is kept, and the number
is no less than such a unit. -/
theorem roundDouble_le (n : Nat) : roundDouble n ≤ 2 * n := by
  simp only [roundDouble]
  split
  · omega
  · next h =>
    have hn : n ≠ 0 := by
      rintro rfl
      exact h (by decide)
    have hlog : n.log2 + 1 - precision ≤ n.log2 := by
      simp only [precision]
      omega
    have hunit := shift_le_self hlog hn
    have hwhole := Nat.div_mul_le_self n (1 <<< (n.log2 + 1 - precision))
    split
    · rw [Nat.add_mul]
      omega
    · omega

/-! ## Range -/

/-- A power of ten. -/
def powerOfTen (k : Nat) : Nat := Nat.pow 10 k

/-- The least number that is rounded to infinity: half a unit above the largest double. -/
def infinityBound : Nat := (1 <<< 54 - 1) <<< 970

/-- The largest power of ten that is a double. -/
def maxPower : Nat := 308

/-- Whether a mantissa of 64 bits times a power of ten is finite. -/
def isFinite (mantissa : Nat) (power : Int) : Bool :=
  if mantissa = 0 ∨ power < 0 then true
  else if power > maxPower then false
  else roundDouble mantissa * roundDouble (powerOfTen power.toNat) < infinityBound

/-- Whether a number is in the range of the double format. -/
def fitsDouble : Numeral → Bool
  | .integer value => isFinite value.natAbs 0
  | .decimal mantissa exponent => isFinite mantissa.natAbs exponent

/-- A mantissa of 64 bits is finite without a power of ten: rounding makes it at most twice as
large, which is far below the bound. -/
theorem isFinite_of_lt {n : Nat} (h : n < UInt64.size) : isFinite n 0 := by
  have hbound : 2 * UInt64.size ≤ infinityBound := by decide
  have hone : roundDouble (powerOfTen (0 : Int).toNat) = 1 := by decide
  have hlt : roundDouble n < infinityBound :=
    Nat.lt_of_le_of_lt (roundDouble_le n) (by omega)
  rw [isFinite, hone, Nat.mul_one]
  split
  · rfl
  · rw [if_neg (by decide)]
    exact decide_eq_true hlt

/-- **Integers of 64 bits are finite.** -/
theorem fitsDouble_integer {n : Int} (h : n.natAbs < UInt64.size) : (integer n).fitsDouble :=
  isFinite_of_lt h

end Numeral

end FleetStatus
