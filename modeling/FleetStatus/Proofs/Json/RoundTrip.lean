import FleetStatus.Proofs.Json.Scalars

set_option relaxedAutoImplicit false
set_option autoImplicit false

/-!
# Documents read back

What is written in the compact form is read as the value that was written, if each number is an
integer of 64 bits and each part stands for something.

## Main definitions

* `FleetStatus.Json.isLossless` — whether a value is written without a loss.

## Main results

* `FleetStatus.Json.read_print` — a printed value is read as the value, whatever stands behind it,
  unless that goes on a number.
* `FleetStatus.Json.parse?_toText` — the text of a value is read as the value.
-/

namespace FleetStatus.Json

/-! ## Values that are written without a loss -/

mutual

/-- Whether each number is an integer of 64 bits and each part stands for something. -/
def isLossless : Json → Bool
  | .number (.integer n) => n.natAbs < UInt64.size
  | .number (.decimal ..) => false
  | .array items => itemsLossless items
  | .object fields => fieldsLossless fields
  | .valueless => false
  | _ => true

/-- Whether all items are written without a loss. -/
def itemsLossless : List Json → Bool
  | [] => true
  | v :: rest => v.isLossless && itemsLossless rest

/-- Whether all fields are written without a loss. -/
def fieldsLossless : List (String × Json) → Bool
  | [] => true
  | (_, v) :: rest => v.isLossless && fieldsLossless rest

end

mutual

/-- What is written without a loss is plain. -/
theorem isPlain_of_isLossless : ∀ {v : Json}, v.isLossless → v.isPlain
  | .null, _ => rfl
  | .bool _, _ => rfl
  | .number (.integer _), h => Numeral.fitsDouble_integer (of_decide_eq_true h)
  | .string _, _ => rfl
  | .array _, h => itemsPlain_of_itemsLossless h
  | .object _, h => fieldsPlain_of_fieldsLossless h

/-- The same of the items of an array. -/
theorem itemsPlain_of_itemsLossless : ∀ {items : List Json}, itemsLossless items → itemsPlain items
  | [], _ => rfl
  | _ :: _, h => by
    obtain ⟨hv, hrest⟩ := Bool.and_eq_true_iff.1 h
    exact Bool.and_eq_true_iff.2 ⟨isPlain_of_isLossless hv, itemsPlain_of_itemsLossless hrest⟩

/-- The same of the fields of an object. -/
theorem fieldsPlain_of_fieldsLossless :
    ∀ {fields : List (String × Json)}, fieldsLossless fields → fieldsPlain fields
  | [], _ => rfl
  | (_, _) :: _, h => by
    obtain ⟨hv, hrest⟩ := Bool.and_eq_true_iff.1 h
    exact Bool.and_eq_true_iff.2 ⟨isPlain_of_isLossless hv, fieldsPlain_of_fieldsLossless hrest⟩

end

/-! ## The first character of a value -/

/-- No space is skipped before another character. -/
theorem skipSpace_cons {c : Char} (h : isSpace c = false) (cs : List Char) :
    skipSpace (c :: cs) = c :: cs := List.dropWhile_cons_of_neg (by simp [h])

/-- What a number begins with is no space and begins no other value. -/
theorem ne_of_begins_number {c : Char} (h : c = '-' ∨ c.isDigit = true) :
    isSpace c = false ∧ c ∉ ['"', '[', ']', '\x7b', 'n', 't', 'f'] := by
  rcases h with rfl | h
  · decide
  · constructor
    · refine Bool.eq_false_iff.2 fun hspace => ?_
      simp only [isSpace, Bool.or_eq_true, decide_eq_true_eq] at hspace
      rcases hspace with ((rfl | rfl) | rfl) | rfl <;> simp at h
    · intro hmem
      simp only [List.mem_cons, List.not_mem_nil, or_false] at hmem
      rcases hmem with rfl | rfl | rfl | rfl | rfl | rfl | rfl <;> simp at h

/-- A value begins neither with a space nor with a closing bracket.

**Proof sketch.** By cases on the value; a number begins with a digit or a minus, and each other
kind with a character of its own. -/
theorem exists_print_eq_cons {v : Json} (h : v.isLossless) :
    ∃ c cs, v.print = c :: cs ∧ isSpace c = false ∧ c ≠ ']' := by
  cases v with
  | null => exact ⟨_, _, rfl, rfl, by decide⟩
  | bool b => cases b <;> exact ⟨_, _, rfl, rfl, by decide⟩
  | number n =>
    cases n with
    | integer n =>
      obtain ⟨c, cs, hprint, hc⟩ := exists_toString_eq_cons n
      obtain ⟨hspace, hothers⟩ := ne_of_begins_number hc
      exact ⟨c, cs, hprint, hspace, fun hclose => hothers (by simp [hclose])⟩
    | decimal mantissa exponent => exact absurd h Bool.false_ne_true
  | string s => exact ⟨_, _, rfl, rfl, by decide⟩
  | array items => exact ⟨_, _, rfl, rfl, by decide⟩
  | object fields => exact ⟨_, _, rfl, rfl, by decide⟩
  | valueless => exact absurd h Bool.false_ne_true

/-- A comma stands between two items. -/
theorem printItems_cons_cons (v w : Json) (items : List Json) :
    printItems (v :: w :: items) = v.print ++ ',' :: printItems (w :: items) := by
  rw [printItems]
  nofun

/-- A comma stands between two fields, and a colon behind a name. -/
theorem printFields_cons_cons (k : String) (v : Json) (field : String × Json)
    (fields : List (String × Json)) :
    printFields ((k, v) :: field :: fields) =
      printString k ++ ':' :: v.print ++ ',' :: printFields (field :: fields) := by
  rw [printFields]
  nofun

/-- Items begin like the first of them. -/
theorem exists_printItems_eq_cons {v : Json} (h : v.isLossless) (items : List Json) :
    ∃ c cs, printItems (v :: items) = c :: cs ∧ isSpace c = false ∧ c ≠ ']' := by
  obtain ⟨c, cs, hprint, hc⟩ := exists_print_eq_cons h
  cases items with
  | nil => exact ⟨c, _, by rw [printItems, hprint, List.cons_append], hc⟩
  | cons w items => exact ⟨c, _, by rw [printItems_cons_cons, hprint, List.cons_append], hc⟩

/-- Fields begin with the quote of a name. -/
theorem exists_printFields_eq_cons (k : String) (v : Json) (fields : List (String × Json)) :
    ∃ cs, printFields ((k, v) :: fields) = '"' :: cs := by
  cases fields <;> exact ⟨_, rfl⟩

/-! ## Reading what was printed -/

/-- A comma or a closing bracket ends a number. -/
theorem endsNumber_cons {c : Char} (h : c = ',' ∨ c = ']' ∨ c = '\x7d') (rest : List Char) :
    EndsNumber (c :: rest) := by
  intro d hd
  obtain rfl : c = d := by simpa using hd
  rcases h with rfl | rfl | rfl <;> decide

/-- What begins like a number is read as one. -/
theorem read_of_readNumber {c : Char} (h : c = '-' ∨ c.isDigit = true) {cs rest : List Char}
    {n : Numeral} (hread : readNumber (c :: cs) = some (n, rest)) (more : Nat) :
    read (more + 1) (c :: cs) = some (.number n, rest) := by
  obtain ⟨hspace, hothers⟩ := ne_of_begins_number h
  simp only [List.mem_cons, List.not_mem_nil, or_false, not_or] at hothers
  rw [read, skipSpace_cons hspace]
  split <;> simp_all

/-- A printed string is read as the string, if there is one step more than characters. -/
theorem read_string (s : String) {more : Nat} (h : s.length < more) (rest : List Char) :
    read (more + 1) (printString s ++ rest) = some (.string s, rest) := by
  have hs := readString_printString s h rest
  simp [read, printString, skipSpace_cons (c := '"') rfl, hs]

/-- An array that does not close at once is read as its items. -/
theorem read_array {items : List Json} {more : Nat} {c : Char} {cs rest : List Char}
    (hspace : isSpace c = false) (hclose : c ≠ ']')
    (h : readItems more (c :: cs) = some (items, rest)) :
    read (more + 1) ('[' :: c :: cs) = some (.array items, rest) := by
  simp [read, skipSpace_cons (c := '[') rfl, skipSpace_cons hspace, hclose, h]

/-- An object that begins with a name is read as its fields. -/
theorem read_object {fields : List (Option String × Json)} {more : Nat} {cs rest : List Char}
    (h : readFields more ('"' :: cs) = some (fields, rest)) :
    read (more + 1) ('\x7b' :: '"' :: cs) = some (ofFields fields, rest) := by
  simp [read, skipSpace_cons (c := '\x7b') rfl, skipSpace_cons (c := '"') rfl, h]

/-- The item before the closing bracket is the last one. -/
theorem readItems_last {v : Json} {more : Nat} {cs rest : List Char}
    (hv : read more cs = some (v, ']' :: rest)) :
    readItems (more + 1) cs = some ([v], rest) := by
  simp [readItems, hv, skipSpace_cons (c := ']') rfl]

/-- Items follow a comma. -/
theorem readItems_cons {v : Json} {items : List Json} {more : Nat} {cs cs' rest : List Char}
    (hv : read more cs = some (v, ',' :: cs')) (h : readItems more cs' = some (items, rest)) :
    readItems (more + 1) cs = some (v :: items, rest) := by
  simp [readItems, hv, skipSpace_cons (c := ',') rfl, h]

/-- The field before the closing brace is the last one. -/
theorem readFields_last {v : Json} {more : Nat} {cs rest : List Char} (k : String)
    (hk : k.length < more) (hv : read more cs = some (v, '\x7d' :: rest)) :
    readFields (more + 1) (printString k ++ ':' :: cs) = some ([(some k, v)], rest) := by
  have hname := readString_printString k hk (':' :: cs)
  simp [readFields, printString, skipSpace_cons (c := '"') rfl, skipSpace_cons (c := ':') rfl,
    skipSpace_cons (c := '\x7d') rfl, hname, hv]

/-- Fields follow a comma. -/
theorem readFields_cons {v : Json} {fields : List (Option String × Json)} {more : Nat}
    {cs cs' rest : List Char} (k : String) (hk : k.length < more)
    (hv : read more cs = some (v, ',' :: cs')) (h : readFields more cs' = some (fields, rest)) :
    readFields (more + 1) (printString k ++ ':' :: cs) = some ((some k, v) :: fields, rest) := by
  have hname := readString_printString k hk (':' :: cs)
  simp [readFields, printString, skipSpace_cons (c := '"') rfl, skipSpace_cons (c := ':') rfl,
    skipSpace_cons (c := ',') rfl, hname, hv, h]

/-- Fields with texts as names are the object of these fields. -/
theorem ofFields_map (fields : List (String × Json)) :
    ofFields (fields.map fun (k, v) => (some k, v)) = .object fields := by
  simp [ofFields, Function.comp_def]

/-- Characters are printed as one character each at least. -/
theorem length_le_length_flatMap_printChar (cs : List Char) :
    cs.length ≤ (cs.flatMap printChar).length := by
  induction cs with
  | nil => simp
  | cons c cs ih =>
    have hc : 1 ≤ (printChar c).length := by
      obtain ⟨escape, hprint, _⟩ | ⟨hprint, _⟩ := printChar_cases c <;> simp [hprint]
    simp only [List.flatMap_cons, List.length_append, List.length_cons]
    omega

/-- A string takes its characters and two quotes at least. -/
theorem length_add_two_le_length_printString (s : String) :
    s.length + 2 ≤ (printString s).length := by
  have h := length_le_length_flatMap_printChar s.toList
  simp only [String.length_toList] at h
  simp only [printString, List.length_append, List.length_cons, List.length_nil]
  omega

mutual

/-- **A printed value is read as the value**, whatever stands behind it, unless that goes on a
number. One step more than the value has characters is enough.

**Proof sketch.** By recursion on the value, its items and its fields together. A reading hands on
all of its steps but one, and what it hands them to is shorter by a bracket, a comma or a name at
least. -/
theorem read_print : ∀ {v : Json}, v.isLossless → ∀ {more : Nat}, v.print.length < more →
    ∀ {rest : List Char}, EndsNumber rest → read more (v.print ++ rest) = some (v, rest)
  | _, _, 0, hmore, _, _ => absurd hmore (Nat.not_lt_zero _)
  | .null, _, more + 1, _, rest, _ => by simp [print, read, skipSpace, isSpace, afterWord?]
  | .bool true, _, more + 1, _, rest, _ => by simp [print, read, skipSpace, isSpace, afterWord?]
  | .bool false, _, more + 1, _, rest, _ => by simp [print, read, skipSpace, isSpace, afterWord?]
  | .number (.integer n), hv, more + 1, _, rest, hrest => by
    have hread := readNumber_toString (of_decide_eq_true hv) hrest
    obtain ⟨c, cs, hprint, hc⟩ := exists_toString_eq_cons n
    rw [print, printNumeral]
    rw [hprint] at hread ⊢
    exact read_of_readNumber hc hread more
  | .string s, _, more + 1, hmore, rest, _ => by
    have hlength := length_add_two_le_length_printString s
    rw [print] at hmore ⊢
    exact read_string s (by omega) rest
  | .array [], _, more + 1, _, rest, _ => by
    simp [print, printItems, read, skipSpace, isSpace]
  | .array (v :: items), h, more + 1, hmore, rest, _ => by
    obtain ⟨hv, _⟩ := Bool.and_eq_true_iff.1 h
    obtain ⟨c, cs, hprint, hspace, hclose⟩ := exists_printItems_eq_cons hv items
    rw [print, List.length_cons] at hmore
    have hread := readItems_printItems h (Nat.lt_of_succ_lt_succ hmore) rest
    rw [hprint] at hread
    rw [print, hprint]
    exact read_array hspace hclose hread
  | .object [], _, more + 1, _, rest, _ => by
    simp [print, printFields, read, skipSpace, isSpace]
  | .object ((k, v) :: fields), h, more + 1, hmore, rest, _ => by
    obtain ⟨cs, hprint⟩ := exists_printFields_eq_cons k v fields
    rw [print, List.length_cons] at hmore
    have hread := readFields_printFields h (Nat.lt_of_succ_lt_succ hmore) rest
    rw [hprint] at hread
    rw [print, hprint, ← ofFields_map]
    exact read_object hread

/-- The same of the items of an array, up to the closing bracket.

**Proof sketch.** By recursion on the items, together with the values in them, as for the fields of
an object. -/
theorem readItems_printItems : ∀ {v : Json} {items : List Json}, itemsLossless (v :: items) →
    ∀ {more : Nat}, (printItems (v :: items)).length < more → ∀ rest : List Char,
    readItems more (printItems (v :: items) ++ rest) = some (v :: items, rest)
  | _, _, _, 0, hmore, _ => absurd hmore (Nat.not_lt_zero _)
  | v, [], h, more + 1, hmore, rest => by
    obtain ⟨hv, _⟩ := Bool.and_eq_true_iff.1 h
    rw [printItems, List.length_append] at hmore
    have hfits : v.print.length < more := Nat.lt_of_succ_lt_succ hmore
    rw [printItems, List.append_assoc]
    exact readItems_last (read_print hv hfits (endsNumber_cons (by simp) rest))
  | v, w :: items, h, more + 1, hmore, rest => by
    obtain ⟨hv, hitems⟩ := Bool.and_eq_true_iff.1 h
    rw [printItems_cons_cons, List.length_append, List.length_cons] at hmore
    have hfits : v.print.length < more := by omega
    have hrest := readItems_printItems hitems (by omega : _ < more) rest
    rw [printItems_cons_cons, List.append_assoc]
    exact readItems_cons (read_print hv hfits (endsNumber_cons (by simp) _)) hrest

/-- The same of the fields of an object, up to the closing brace.

**Proof sketch.** By recursion on the fields, together with the values in them. What is printed of a
field is shorter than what is printed of all, and at least two characters, so the bound on what is
left to do holds for the rest. -/
theorem readFields_printFields : ∀ {k : String} {v : Json} {fields : List (String × Json)},
    fieldsLossless ((k, v) :: fields) →
    ∀ {more : Nat}, (printFields ((k, v) :: fields)).length < more → ∀ rest : List Char,
    readFields more (printFields ((k, v) :: fields) ++ rest) =
      some (((k, v) :: fields).map fun (k, v) => (some k, v), rest)
  | _, _, _, _, 0, hmore, _ => absurd hmore (Nat.not_lt_zero _)
  | k, v, [], h, more + 1, hmore, rest => by
    obtain ⟨hv, _⟩ := Bool.and_eq_true_iff.1 h
    have hname := length_add_two_le_length_printString k
    simp only [printFields, List.length_append, List.length_cons] at hmore
    have hfits : v.print.length < more := by omega
    rw [printFields, List.append_assoc, List.append_assoc, List.cons_append]
    exact readFields_last k (by omega) (read_print hv hfits (endsNumber_cons (by simp) rest))
  | k, v, (l, w) :: fields, h, more + 1, hmore, rest => by
    obtain ⟨hv, hfields⟩ := Bool.and_eq_true_iff.1 h
    have hname := length_add_two_le_length_printString k
    simp only [printFields_cons_cons, List.length_append, List.length_cons] at hmore
    have hfits : v.print.length < more := by omega
    have hrest := readFields_printFields hfields (by omega : _ < more) rest
    rw [printFields_cons_cons, List.append_assoc, List.append_assoc, List.cons_append]
    exact readFields_cons k (by omega) (read_print hv hfits (endsNumber_cons (by simp) _)) hrest

end

/-- **The text of a value is read as the value.** -/
theorem parse?_toText {v : Json} (h : v.isLossless) : parse? v.toText = some v := by
  have hread := read_print h (by omega : v.print.length < 2 * v.print.length + 1)
    (nofun : EndsNumber [])
  rw [List.append_nil] at hread
  simp [parse?, toText, hread, skipSpace]

end FleetStatus.Json
