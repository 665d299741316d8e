import FleetStatus.Bytes

set_option relaxedAutoImplicit false
set_option autoImplicit false

/-!
# Numbers written by digits

A number is read under a bound. The reading stops at the digit that takes the number to the bound,
so it takes one short step for each digit, however many there are.

## Main definitions

* `FleetStatus.Text.Digits.value?` — the number that digits write, if it is below a bound.
-/

namespace FleetStatus.Text.Digits

/-- The value of a digit of a radix up to sixteen. -/
def digit? (radix : Nat) (c : Char) : Option Nat := (Bytes.hexValue? c).filter (· < radix)

/-- The number `n` with more digits behind it, if it stays below `bound`. -/
def extend? (radix bound n : Nat) : List Char → Option Nat
  | [] => some n
  | c :: rest =>
    match digit? radix c with
    | none => none
    | some d =>
      let next := radix * n + d
      if next < bound then extend? radix bound next rest else none

/-- The **number that digits write**, if it is below `bound`. No digits write no number. -/
def value? (radix bound : Nat) (cs : List Char) : Option Nat :=
  if cs.isEmpty then none else extend? radix bound 0 cs

end FleetStatus.Text.Digits
