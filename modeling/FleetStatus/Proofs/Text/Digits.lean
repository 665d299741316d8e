import FleetStatus.Text.Digits

set_option relaxedAutoImplicit false
set_option autoImplicit false

/-!
# Decimal digits read back

The decimal digits of a number, the most significant first, are read as the number by the bounded
reading of digits.

## Main results

* `FleetStatus.Text.Digits.value?_toDigits` — the digits of a number below the bound are read as
  the number.
* `FleetStatus.Text.Digits.head?_toDigits_ne` — digits do not begin with a zero, unless the number
  is zero.
-/

namespace FleetStatus.Text.Digits

/-- The digits of a number are digits. -/
theorem isDigit_of_mem_toDigits {n : Nat} {c : Char} (h : c ∈ Nat.toDigits 10 n) :
    c.isDigit = true :=
  Nat.isDigit_of_mem_toDigits (by omega) (by omega) h

/-- A number has a first digit. -/
theorem exists_toDigits_eq_cons (n : Nat) :
    ∃ d ds, Nat.toDigits 10 n = d :: ds ∧ d.isDigit = true := by
  cases hdigits : Nat.toDigits 10 n with
  | nil => exact absurd hdigits Nat.toDigits_ne_nil
  | cons d ds => exact ⟨d, ds, rfl, isDigit_of_mem_toDigits (hdigits ▸ List.mem_cons_self)⟩

/-- A digit is worth what it was written for. -/
theorem digit?_digitChar {d : Nat} (h : d < 10) : digit? 10 d.digitChar = some d := by
  decide +revert

/-- A decimal digit is worth its distance from the zero.

**Proof sketch.** A letter would be worth ten at least. -/
theorem eq_of_digit? {c : Char} {d : Nat} (h : digit? 10 c = some d) :
    d = c.toNat - '0'.toNat := by
  obtain ⟨hvalue, hlt⟩ := Option.filter_eq_some_iff.1 h
  have hten : d < 10 := of_decide_eq_true hlt
  unfold Bytes.hexValue? at hvalue
  split at hvalue
  · exact (Option.some.inj hvalue).symm
  · split at hvalue
    · have := Option.some.inj hvalue
      omega
    · split at hvalue
      · have := Option.some.inj hvalue
        omega
      · simp at hvalue

/-- What is read by the first digits is read on by the others.

**Proof sketch.** By induction on the first digits. -/
theorem extend?_append {radix bound n m : Nat} {cs : List Char}
    (h : extend? radix bound n cs = some m) (rest : List Char) :
    extend? radix bound n (cs ++ rest) = extend? radix bound m rest := by
  induction cs generalizing n with
  | nil => rw [List.nil_append, ← Option.some.inj h]
  | cons c cs ih =>
    simp only [extend?, List.cons_append] at h ⊢
    split at h
    · simp at h
    next d hd =>
      split at h
      next hlt => exact if_pos hlt ▸ ih h
      · simp at h

/-- The digits of a number below the bound are read as the number.

**Proof sketch.** By strong induction: all digits but the last are those of a smaller number, which
is below the bound as well, and the last one extends it. -/
theorem extend?_toDigits {bound n : Nat} (h : n < bound) :
    extend? 10 bound 0 (Nat.toDigits 10 n) = some n := by
  induction n using Nat.strongRecOn with
  | ind n ih =>
    obtain hsmall | hlarge := Nat.lt_or_ge n 10
    · rw [Nat.toDigits_of_lt_base hsmall]
      simp [extend?, digit?_digitChar hsmall, h]
    · have hlast : n % 10 < 10 := Nat.mod_lt n (by omega)
      have hsplit : 10 * (n / 10) + n % 10 = n := Nat.div_add_mod n 10
      rw [Nat.toDigits_of_base_le (by omega) hlarge,
        extend?_append (ih (n / 10) (by omega) (by omega))]
      simp [extend?, digit?_digitChar hlast, hsplit, h]

/-- **The decimal digits of a number read back**, if the number is below the bound. -/
theorem value?_toDigits {bound n : Nat} (h : n < bound) :
    value? 10 bound (Nat.toDigits 10 n) = some n := by
  rw [value?, List.isEmpty_eq_false_iff.2 Nat.toDigits_ne_nil, if_neg Bool.false_ne_true,
    extend?_toDigits h]

/-- Only zero is written as a zero. -/
theorem digitChar_ne_zero {d : Nat} (hd : d < 10) (h : d ≠ 0) : d.digitChar ≠ '0' := by
  decide +revert

/-- **No idle zeros**: the digits of a number other than zero do not begin with a zero.

**Proof sketch.** By strong induction: a number of one digit is written as the digit, and a larger
one begins as the number without its last digit does, which is not zero. -/
theorem head?_toDigits_ne {n : Nat} (h : n ≠ 0) : (Nat.toDigits 10 n).head? ≠ some '0' := by
  induction n using Nat.strongRecOn with
  | ind n ih =>
    obtain hsmall | hlarge := Nat.lt_or_ge n 10
    · rw [Nat.toDigits_of_lt_base hsmall]
      simpa using digitChar_ne_zero hsmall h
    · have hfront := ih (n / 10) (by omega) (by omega)
      obtain ⟨d, ds, hdigits, _⟩ := exists_toDigits_eq_cons (n / 10)
      rw [Nat.toDigits_of_base_le (by omega) hlarge]
      simpa [hdigits] using hfront

end FleetStatus.Text.Digits
