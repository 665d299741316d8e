import FleetStatus.Text.Utf8
import FleetStatus.Wire.Budget

set_option relaxedAutoImplicit false
set_option autoImplicit false

/-!
# Cutting a text to a number of bytes

A text is cut at the last place in the budget where no character is torn apart. The search for the
place looks at bytes and goes back; what it leaves is the longest part at the front that is made of
whole characters and fits. So the characters of a text fill a byte budget like the items of a
datagram do: from the front, until the first one that does not fit.

## Main definitions

* `FleetStatus.Text.LongestWithin` — the longest part at the front of a text within a number of
  bytes.

## Main results

* `FleetStatus.Text.longestWithin_truncate`, `FleetStatus.Text.LongestWithin.unique` — what is kept
  of a text is the longest part that fits, and there is only one.
* `FleetStatus.Text.truncate_eq` — which characters are kept.
* `FleetStatus.Text.utf8ByteSize_truncate_le`, `FleetStatus.Text.truncate_cases` — what is kept
  fits, and fills the bytes but for less than a character.
* `FleetStatus.Text.truncate_truncate` — to cut twice is to cut to the smaller budget.
* `FleetStatus.Text.truncate_total_and_longest` — the search ends, and all of these together.
-/

namespace FleetStatus.Text

open Wire (takeWithin totalSize)

/-! ## The bytes of characters -/

/-- A text has as many bytes as its size says. -/
theorem length_utf8 (s : String) : (utf8 s).length = s.utf8ByteSize := rfl

/-- The size of a text is that of its characters together. -/
theorem utf8ByteSize_ofList (cs : List Char) :
    (String.ofList cs).utf8ByteSize = totalSize Char.utf8Size cs := by
  induction cs with
  | nil => rfl
  | cons c cs ih =>
    have hone : [c].utf8Encode.size = c.utf8Size := by
      rw [List.utf8Encode_singleton, List.size_toByteArray, String.length_utf8EncodeChar]
    rw [← String.size_toByteArray, String.toByteArray_ofList] at ih ⊢
    rw [List.utf8Encode_cons, ByteArray.size_append, ih, hone]
    rfl

/-- The same for the characters of a text. -/
theorem utf8ByteSize_eq (s : String) : s.utf8ByteSize = totalSize Char.utf8Size s.toList := by
  rw [← utf8ByteSize_ofList, String.ofList_toList]

/-- The size of one character many times. -/
theorem utf8ByteSize_replicate (n : Nat) (c : Char) :
    (String.ofList (List.replicate n c)).utf8ByteSize = n * c.utf8Size := by
  rw [utf8ByteSize_ofList]
  induction n with
  | zero => rw [Nat.zero_mul, List.replicate_zero, totalSize]
  | succ n ih => rw [List.replicate_succ, totalSize, ih, Nat.succ_mul, Nat.add_comm]

/-! ## Parts at the front -/

/-- Of two parts at the front of a text, the one with fewer bytes is at the front of the other.

**Proof sketch.** Both end at a place of the text where a character ends, and the one place is not
behind the other. -/
theorem exists_append_of_utf8ByteSize_le {s a b c d : String} (hab : s = a ++ b)
    (hcd : s = c ++ d) (hle : a.utf8ByteSize ≤ c.utf8ByteSize) : ∃ rest, c = a ++ rest := by
  have hfirst : String.Pos.Raw.IsValid s a.rawEndPos :=
    String.Pos.Raw.isValid_iff_exists_append.2 ⟨a, b, hab, rfl⟩
  have hsecond : String.Pos.Raw.IsValid s c.rawEndPos :=
    String.Pos.Raw.isValid_iff_exists_append.2 ⟨c, d, hcd, rfl⟩
  have hplaces : (⟨_, hfirst⟩ : s.Pos) ≤ ⟨_, hsecond⟩ :=
    String.Pos.le_iff.2 (String.Pos.Raw.le_iff.2 hle)
  obtain ⟨rest, hrest, _⟩ := (String.Pos.Splits.le_iff_exists_eq_append ⟨hab, rfl⟩ ⟨hcd, rfl⟩).1 hplaces
  exact ⟨rest, hrest⟩

/-- The **longest part at the front** of a text that is made of whole characters and takes at most
`max` bytes. -/
structure LongestWithin (s : String) (max : Nat) (kept : String) : Prop where
  front : ∃ rest, s = kept ++ rest
  fits : kept.utf8ByteSize ≤ max
  longest : ∀ part rest, s = part ++ rest → part.utf8ByteSize ≤ max →
    part.utf8ByteSize ≤ kept.utf8ByteSize

namespace LongestWithin

variable {s kept kept' : String} {max max' : Nat}

/-- A part that fits is at the front of the longest one. -/
theorem exists_append (h : LongestWithin s max kept) {part rest : String} (hpart : s = part ++ rest)
    (hfits : part.utf8ByteSize ≤ max) : ∃ rest, kept = part ++ rest := by
  obtain ⟨behind, hfront⟩ := h.front
  exact exists_append_of_utf8ByteSize_le hpart hfront (h.longest part rest hpart hfits)

/-- **There is only one longest part.**

**Proof sketch.** Each of two longest parts is at the front of the other, so nothing is left over.
-/
theorem unique (h : LongestWithin s max kept) (h' : LongestWithin s max kept') : kept = kept' := by
  obtain ⟨_, hfront⟩ := h.front
  obtain ⟨_, hfront'⟩ := h'.front
  obtain ⟨rest, hrest⟩ := h'.exists_append hfront h.fits
  have hle := h.longest kept' _ hfront' h'.fits
  have hempty : rest.utf8ByteSize = 0 := by
    rw [hrest, String.utf8ByteSize_append] at hle
    omega
  rw [hrest, String.utf8ByteSize_eq_zero_iff.1 hempty, String.append_empty]

/-- The longest part of the longest part is the longest one that fits both budgets.

**Proof sketch.** A part that fits both budgets is at the front of the longest part for the first,
and therefore of the longest part of that one for the second. -/
theorem trans (h : LongestWithin s max kept) (h' : LongestWithin kept max' kept') :
    LongestWithin s (min max max') kept' where
  front := by
    obtain ⟨rest, hfront⟩ := h.front
    obtain ⟨rest', hfront'⟩ := h'.front
    exact ⟨rest' ++ rest, by rw [hfront, hfront', String.append_assoc]⟩
  fits := by
    obtain ⟨rest', hfront'⟩ := h'.front
    have hfits := h.fits
    have hfits' := h'.fits
    rw [hfront', String.utf8ByteSize_append] at hfits
    omega
  longest part rest hpart hfits := by
    obtain ⟨behind, hkept⟩ := h.exists_append hpart (by omega)
    exact h'.longest part behind hkept (by omega)

end LongestWithin

/-! ## What is kept -/

/-- The search finds the last place to cut.

**Proof sketch.** By induction on the budget: a character ends there, or the search goes on with one
byte less. -/
theorem lastCut?_eq_some {s : String} {n : Nat} {p : s.Pos} (h : lastCut? s n = some p) :
    p.offset.byteIdx ≤ n ∧
      ∀ q : s.Pos, q.offset.byteIdx ≤ n → q.offset.byteIdx ≤ p.offset.byteIdx := by
  induction n with
  | zero =>
    simp only [lastCut?, Option.dite_none_right_eq_some, Option.some.injEq] at h
    obtain ⟨_, rfl⟩ := h
    exact ⟨Nat.le_refl 0, fun q hq => hq⟩
  | succ n ih =>
    rw [lastCut?] at h
    split at h
    next hvalid =>
      obtain rfl := Option.some.inj h
      exact ⟨Nat.le_refl _, fun q hq => hq⟩
    next hvalid =>
      obtain ⟨hle, hlast⟩ := ih h
      refine ⟨Nat.le_succ_of_le hle, fun q hq => hlast q ?_⟩
      -- a place at byte `n + 1` would have been found
      have hne : q.offset.byteIdx ≠ n + 1 := fun heq => hvalid (heq ▸ q.isValid)
      omega

/-- A text that fits is kept. -/
theorem truncate_eq_self {s : String} {max : Nat} (h : s.utf8ByteSize ≤ max) :
    truncate s max = s := if_pos h

/-- A text that does not fit is kept up to the last place to cut. -/
theorem truncate_of_lt {s : String} {max : Nat} (h : max < s.utf8ByteSize) {p : s.Pos}
    (hp : lastCut? s max = some p) : truncate s max = (s.sliceTo p).copy := by
  rw [truncate, if_neg (Nat.not_le.2 h)]
  simp only [hp, Option.get_some]

/-- **What is kept of a text is the longest part that fits.**

**Proof sketch.** If the text fits, it is its own longest part. If not, it is cut at the last place
where a character ends within the budget, and a part that fits ends at such a place. -/
theorem longestWithin_truncate (s : String) (max : Nat) : LongestWithin s max (truncate s max) := by
  rcases Nat.lt_or_ge max s.utf8ByteSize with hover | hfits
  · obtain ⟨p, hp⟩ := Option.isSome_iff_exists.1 (isSome_lastCut? s max)
    obtain ⟨hle, hlast⟩ := lastCut?_eq_some hp
    have hsplits := p.splits
    have hsize : (s.sliceTo p).copy.utf8ByteSize = p.offset.byteIdx :=
      congrArg String.Pos.Raw.byteIdx hsplits.offset_eq_rawEndPos.symm
    rw [truncate_of_lt hover hp]
    refine ⟨⟨_, hsplits.eq_append⟩, hsize ▸ hle, fun part rest hpart hfits => ?_⟩
    have hplace : String.Pos.Raw.IsValid s part.rawEndPos :=
      String.Pos.Raw.isValid_iff_exists_append.2 ⟨part, rest, hpart, rfl⟩
    rw [hsize]
    exact hlast ⟨_, hplace⟩ hfits
  · rw [truncate_eq_self hfits]
    refine ⟨⟨"", String.append_empty.symm⟩, hfits, fun part rest hpart _ => ?_⟩
    rw [hpart, String.utf8ByteSize_append]
    exact Nat.le_add_right _ _

/-- Characters are taken from the front for as long as they fit.

**Proof sketch.** No part at the front that fits has more characters than the one that is taken, so it
is at the front of that one. -/
theorem longestWithin_takeWithin (s : String) (max : Nat) :
    LongestWithin s max (String.ofList (takeWithin Char.utf8Size max s.toList)) where
  front := by
    obtain ⟨rest, hrest⟩ := Wire.takeWithin_prefix Char.utf8Size max s.toList
    exact ⟨String.ofList rest, by rw [← String.ofList_append, hrest, String.ofList_toList]⟩
  fits := by
    rw [utf8ByteSize_ofList]
    exact Wire.totalSize_takeWithin_le _ _ _
  longest part rest hpart hfits := by
    have hfront : part.toList <+: s.toList := ⟨rest.toList, by rw [hpart, String.toList_append]⟩
    rw [utf8ByteSize_eq] at hfits
    have hlength := Wire.length_le_length_takeWithin hfront hfits
    obtain ⟨behind, hkept⟩ := List.prefix_of_prefix_length_le hfront
      (Wire.takeWithin_prefix Char.utf8Size max s.toList) hlength
    have hsplit : String.ofList (takeWithin Char.utf8Size max s.toList) =
        part ++ String.ofList behind := by
      rw [← hkept, String.ofList_append, String.ofList_toList]
    rw [hsplit, String.utf8ByteSize_append]
    exact Nat.le_add_right _ _

/-- **A text is cut to the characters from the front that fit.** -/
theorem truncate_eq (s : String) (max : Nat) :
    truncate s max = String.ofList (takeWithin Char.utf8Size max s.toList) :=
  (longestWithin_truncate s max).unique (longestWithin_takeWithin s max)

/-- **What is kept of a text fits.** -/
theorem utf8ByteSize_truncate_le (s : String) (max : Nat) : (truncate s max).utf8ByteSize ≤ max :=
  (longestWithin_truncate s max).fits

/-- **A text that is cut is cut by less than a character.**

**Proof sketch.** The next character does not fit, and it has four bytes at most. -/
theorem truncate_cases (s : String) (max : Nat) : truncate s max = s ∨
    (max < s.utf8ByteSize ∧ max < (truncate s max).utf8ByteSize + 4) := by
  by_cases hfits : s.utf8ByteSize ≤ max
  · exact .inl (truncate_eq_self hfits)
  · refine .inr ⟨by omega, ?_⟩
    have hsize := utf8ByteSize_eq s
    rw [truncate_eq, utf8ByteSize_ofList]
    obtain ⟨rest, hsplit⟩ := Wire.takeWithin_prefix Char.utf8Size max s.toList
    cases rest with
    | nil =>
      -- then nothing was cut
      have hall := Wire.totalSize_takeWithin_le Char.utf8Size max s.toList
      rw [List.append_nil] at hsplit
      rw [hsplit] at hall
      omega
    | cons next rest =>
      have hnext := Wire.lt_totalSize_takeWithin_add Char.utf8Size max hsplit
      have hfour := Char.utf8Size_le_four next
      omega

/-- **To cut twice is to cut to the smaller budget.** -/
theorem truncate_truncate (s : String) (max max' : Nat) :
    truncate (truncate s max) max' = truncate s (min max max') :=
  ((longestWithin_truncate s max).trans (longestWithin_truncate _ max')).unique
    (longestWithin_truncate s (min max max'))

/-- **Cutting is total and keeps as much as it can.** For every text and every budget, also of no
bytes, the search for a place to cut ends with one, and a text over the budget is cut there. What is
kept is the longest part at the front of whole characters within the budget. To cut it again is to
cut the text to the smaller of the two budgets, and of the budget of a text that is longer at most
three bytes are left.

**Proof sketch.** The first byte of a text begins a character, so the search finds a place there at
the latest, and it passes over no place on its way back (`lastCut?_eq_some`). Each part at the front
ends at such a place. The part that is longest is unique, which gives the law for two cuts. -/
theorem truncate_total_and_longest (s : String) (max : Nat) :
    (∃ p, lastCut? s max = some p ∧
      truncate s max = if max < s.utf8ByteSize then (s.sliceTo p).copy else s) ∧
    LongestWithin s max (truncate s max) ∧
    (∀ max', truncate (truncate s max) max' = truncate s (min max max')) ∧
    (max < s.utf8ByteSize → max ≤ (truncate s max).utf8ByteSize + 3) := by
  refine ⟨?_, longestWithin_truncate s max, truncate_truncate s max, fun hover => ?_⟩
  · obtain ⟨p, hp⟩ := Option.isSome_iff_exists.1 (isSome_lastCut? s max)
    refine ⟨p, hp, ?_⟩
    split
    next hover => exact truncate_of_lt hover hp
    next hfits => exact truncate_eq_self (Nat.not_lt.1 hfits)
  · rcases truncate_cases s max with hwhole | ⟨_, hless⟩
    · rw [hwhole]
      omega
    · omega

/-- A sign of three bytes behind a letter is torn apart by a budget of three bytes: the search goes
back over two bytes, and two bytes of the budget are left. -/
theorem truncate_total_and_longest_euro :
    3 < "h€".utf8ByteSize ∧ truncate "h€" 3 = "h" ∧
      LongestWithin "h€" 3 (truncate "h€" 3) ∧ truncate (truncate "h€" 3) 0 = truncate "h€" 0 ∧
      3 ≤ (truncate "h€" 3).utf8ByteSize + 3 := by
  obtain ⟨_, hlongest, htwice, hleft⟩ := truncate_total_and_longest "h€" 3
  exact ⟨by decide, by decide, hlongest, htwice 0, hleft (by decide)⟩

example : truncate "😀" 3 = "" := by decide

end FleetStatus.Text
