import FleetStatus.Json.Printer
import FleetStatus.Json.Reader
import FleetStatus.Proofs.Text.Digits

set_option relaxedAutoImplicit false
set_option autoImplicit false

/-!
# Strings and numbers in JSON read back

A string is read back from its escapes whatever its characters are, and an integer of 64 bits from
its digits, if the text goes on with something that no number goes on with.

## Main definitions

* `FleetStatus.Json.EndsNumber` — what may stand behind a number.

## Main results

* `FleetStatus.Json.readString_printChar` — one printed character is read as the character.
* `FleetStatus.Json.readString_printString` — a printed string is read as the string.
* `FleetStatus.Json.readNumber_toString` — a printed integer is read as the integer.
-/

namespace FleetStatus

namespace Json

/-! ## Strings -/

/-- A control character has a number below 32, so its escape has two zeros and two digits. -/
theorem escape?_control {c : Char} (h : c.toNat < 0x20) (rest : List Char) :
    escape? ('u' :: '0' :: '0' :: Bytes.hexDigit (c.toNat / 16) ::
      Bytes.hexDigit (c.toNat % 16) :: rest) = some (some c, rest) := by
  have hhigh := Bytes.hexValue?_hexDigit (n := c.toNat / 16) (by omega)
  have hlow := Bytes.hexValue?_hexDigit (n := c.toNat % 16) (by omega)
  have hzero : Bytes.hexValue? '0' = some 0 := rfl
  have hunit : c.toNat / 16 * 16 + c.toNat % 16 = c.toNat := Nat.div_add_mod' c.toNat 16
  have hfirst : ¬ 0xd800 ≤ c.toNat := by omega
  have hsecond : ¬ 0xdc00 ≤ c.toNat := by omega
  simp [escape?, unit?, hhigh, hlow, hzero, hunit, hfirst, hsecond, Char.ofNat_toNat]

/-- A character is printed **as an escape of itself**, or it stands as it is and the grammar allows
it to.

**Proof sketch.** Seven characters have short escapes of their own, and the other control characters
are written by their numbers. All the rest stand as they are, none of them the quote or the
backslash. -/
theorem printChar_cases (c : Char) :
    (∃ escape, printChar c = '\\' :: escape ∧
      ∀ rest, escape? (escape ++ rest) = some (some c, rest)) ∨
    (printChar c = [c] ∧ c ≠ '"' ∧ c ≠ '\\' ∧ ¬ c.toNat < 0x20) := by
  by_cases hshort : c ∈ ['"', '\\', '\x08', '\x0c', '\n', '\r', '\t']
  · left
    simp only [List.mem_cons, List.not_mem_nil, or_false] at hshort
    rcases hshort with rfl | rfl | rfl | rfl | rfl | rfl | rfl <;>
      exact ⟨_, rfl, fun _ => rfl⟩
  · simp only [List.mem_cons, List.not_mem_nil, or_false, not_or] at hshort
    obtain ⟨hquote, hslash, hback, hfeed, hline, hreturn, htab⟩ := hshort
    simp only [printChar, hquote, hslash, hback, hfeed, hline, hreturn, htab, if_false]
    by_cases hcontrol : c.toNat < 0x20
    · left
      rw [if_pos hcontrol]
      exact ⟨_, rfl, escape?_control hcontrol⟩
    · right
      rw [if_neg hcontrol]
      exact ⟨rfl, hquote, hslash, hcontrol⟩

/-- **One printed character is read as the character**, in one step. -/
theorem readString_printChar (c : Char) (done : List Char) (whole : Bool) (more : Nat)
    (rest : List Char) :
    readString done whole (more + 1) (printChar c ++ rest) =
      readString (c :: done) whole more rest := by
  obtain ⟨escape, hprint, hescape⟩ | ⟨hprint, hquote, hslash, hcontrol⟩ := printChar_cases c
  · rw [hprint, List.cons_append, readString, hescape]
  · rw [hprint, List.singleton_append, readString, if_neg hcontrol]
    · exact hquote
    · exact hslash

/-- The characters of a string are read up to the quote, one step for each.

**Proof sketch.** By induction on the characters: each is read in one step, and the quote ends the
string in one more. -/
theorem readString_flatMap (cs done : List Char) {more : Nat} (h : cs.length < more)
    (rest : List Char) :
    readString done true more (cs.flatMap printChar ++ '"' :: rest) =
      some (some (String.ofList (done.reverse ++ cs)), rest) := by
  induction cs generalizing done more with
  | nil =>
    obtain ⟨more, rfl⟩ := Nat.exists_eq_succ_of_ne_zero (Nat.ne_of_gt h)
    simp [readString]
  | cons c cs ih =>
    obtain ⟨more, rfl⟩ := Nat.exists_eq_succ_of_ne_zero (Nat.ne_of_gt (Nat.zero_lt_of_lt h))
    rw [List.flatMap_cons, List.append_assoc, readString_printChar,
      ih (c :: done) (Nat.lt_of_succ_lt_succ h)]
    simp

/-- **A printed string is read as the string**, whatever its characters are. -/
theorem readString_printString (s : String) {more : Nat} (h : s.length < more) (rest : List Char) :
    readString [] true more (s.toList.flatMap printChar ++ '"' :: rest) =
      some (some s, rest) := by
  rw [readString_flatMap s.toList [] (String.length_toList ▸ h), List.reverse_nil, List.nil_append,
    String.ofList_toList]

/-! ## Numbers -/

/-- Whether a number ends where the text goes on with `rest`. -/
def EndsNumber (rest : List Char) : Prop :=
  ∀ c ∈ rest.head?, c.isDigit = false ∧ c ≠ '.' ∧ c ≠ 'e' ∧ c ≠ 'E'

/-- Digits are taken up to what ends the number. -/
theorem spanDigits_append {ds rest : List Char} (hds : ∀ c ∈ ds, c.isDigit = true)
    (h : EndsNumber rest) : spanDigits (ds ++ rest) = (ds, rest) := by
  have hrest : rest.takeWhile Char.isDigit = [] ∧ rest.dropWhile Char.isDigit = rest := by
    cases rest with
    | nil => exact ⟨rfl, rfl⟩
    | cons c rest => simp [(h c rfl).1]
  rw [spanDigits, List.takeWhile_append_of_pos hds, List.dropWhile_append_of_pos hds, hrest.1,
    hrest.2, List.append_nil]

/-- The digits of a number have no zero in front, so all of them are read.

**Proof sketch.** Zero is one digit by itself. Any other number begins with another digit than zero,
and then the digits go on as far as they reach. -/
theorem wholeDigits?_toDigits (n : Nat) {rest : List Char} (h : EndsNumber rest) :
    wholeDigits? (Nat.toDigits 10 n ++ rest) = some (Nat.toDigits 10 n, rest) := by
  by_cases hn : n = 0
  · subst hn
    rfl
  · have hspan := spanDigits_append (fun c => Text.Digits.isDigit_of_mem_toDigits (n := n)) h
    have hzero := Text.Digits.head?_toDigits_ne hn
    obtain ⟨d, ds, hdigits, _⟩ := Text.Digits.exists_toDigits_eq_cons n
    rw [hdigits] at hspan hzero ⊢
    have hd : d ≠ '0' := by simpa using hzero
    rw [wholeDigits?]
    · rw [hspan]
    · intro cs heq
      exact hd (List.cons.inj heq).1

/-- What ends a number begins no fraction. -/
theorem fraction?_of_endsNumber {rest : List Char} (h : EndsNumber rest) :
    fraction? rest = some (none, rest) := by
  rw [fraction?]
  rintro rest' rfl
  exact (h '.' rfl).2.1 rfl

/-- What ends a number begins no exponent. -/
theorem exponent?_of_endsNumber {rest : List Char} (h : EndsNumber rest) :
    exponent? rest = some (none, rest) := by
  cases rest with
  | nil => rfl
  | cons c rest => simp [exponent?, (h c rfl).2.2]

end Json

namespace Numeral

/-- What the bounded reading reads in full leaves no digit off.

**Proof sketch.** By induction on the digits: both readings take the same step as long as the number
stays in 64 bits, and the bounded one succeeds only if it always does. -/
theorem extend_of_extend? {n m : Nat} {cs : List Char}
    (h : Text.Digits.extend? 10 UInt64.size n cs = some m) : extend n cs = (m, 0) := by
  induction cs generalizing n with
  | nil => rw [extend, Option.some.inj h]
  | cons c cs ih =>
    simp only [Text.Digits.extend?] at h
    split at h
    · simp at h
    next d hd =>
      split at h
      next hlt =>
        rw [Text.Digits.eq_of_digit? hd] at h hlt
        simp only [extend, if_pos hlt, ih h]
      · simp at h

/-- **The digits of a number of 64 bits are the number.** -/
theorem ofDigits_toDigits {n : Nat} (h : n < UInt64.size) :
    ofDigits false (Nat.toDigits 10 n) none none = .integer n := by
  simp [ofDigits, extend, extend_of_extend? (Text.Digits.extend?_toDigits h)]

/-- Behind a minus the digits are those of a number below zero: minus zero is no integer. -/
theorem ofDigits_minus_toDigits {n : Nat} (h : n + 1 < UInt64.size) :
    ofDigits true (Nat.toDigits 10 (n + 1)) none none = .integer (.negSucc n) := by
  simp [ofDigits, extend, extend_of_extend? (Text.Digits.extend?_toDigits h), Int.negSucc_eq]

end Numeral

namespace Json

/-- A number that is not below zero is written by its digits. -/
theorem toList_toString_ofNat (n : Nat) : (toString (Int.ofNat n)).toList = Nat.toDigits 10 n := by
  simp [Int.toString_eq_repr, Int.repr, Nat.toList_repr]

/-- A number below zero is written by a minus and the digits of its amount. -/
theorem toList_toString_negSucc (n : Nat) :
    (toString (Int.negSucc n)).toList = '-' :: Nat.toDigits 10 (n + 1) := by
  simp [Int.toString_eq_repr, Int.repr, Nat.toList_repr]

/-- An integer begins with a minus or a digit. -/
theorem exists_toString_eq_cons (n : Int) :
    ∃ c cs, (toString n).toList = c :: cs ∧ (c = '-' ∨ c.isDigit = true) := by
  cases n with
  | ofNat n =>
    obtain ⟨d, ds, hdigits, hd⟩ := Text.Digits.exists_toDigits_eq_cons n
    exact ⟨d, ds, by rw [toList_toString_ofNat, hdigits], .inr hd⟩
  | negSucc n => exact ⟨_, _, toList_toString_negSucc n, .inl rfl⟩

/-- **A printed integer is read as the integer.**

**Proof sketch.** By the sign. The digits are read as a whole, and what follows them begins neither
a fraction nor an exponent, so the number is the integer that the digits write. -/
theorem readNumber_toString {n : Int} (hn : n.natAbs < UInt64.size) {rest : List Char}
    (h : EndsNumber rest) :
    readNumber ((toString n).toList ++ rest) = some (.integer n, rest) := by
  have hfraction := fraction?_of_endsNumber h
  have hexponent := exponent?_of_endsNumber h
  cases n with
  | ofNat n =>
    have hwhole := wholeDigits?_toDigits n h
    rw [toList_toString_ofNat, readNumber]
    · simp [hwhole, hfraction, hexponent, Numeral.ofDigits_toDigits (n := n) hn]
    · intro cs heq
      obtain ⟨d, ds, hdigits, hd⟩ := Text.Digits.exists_toDigits_eq_cons n
      rw [hdigits] at heq
      rw [(List.cons.inj heq).1] at hd
      simp at hd
  | negSucc n =>
    have hwhole := wholeDigits?_toDigits (n + 1) h
    simp only [toList_toString_negSucc, List.cons_append, readNumber]
    simp [hwhole, hfraction, hexponent, Numeral.ofDigits_minus_toDigits hn]

end Json

end FleetStatus
