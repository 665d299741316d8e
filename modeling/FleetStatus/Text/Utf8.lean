import FleetStatus.Bytes

set_option relaxedAutoImplicit false
set_option autoImplicit false

/-!
# Text as bytes

The UTF-8 bytes of a text, the text of UTF-8 bytes, and cutting a text to a byte budget between two
characters.

## Main definitions

* `FleetStatus.Text.utf8`, `FleetStatus.Text.ofUtf8?` — the bytes of a text and back.
* `FleetStatus.Text.lastCut?` — the search for a place to cut, back from a byte.
* `FleetStatus.Text.truncate` — the longest part at the front that fits a number of bytes.

## Main results

* `FleetStatus.Text.ofUtf8?_eq_some_iff` — reading accepts exactly what writing produces.
* `FleetStatus.Text.isSome_lastCut?` — the search for a place to cut ends.
-/

namespace FleetStatus.Text

/-- The UTF-8 bytes of a text. -/
def utf8 (s : String) : Bytes := s.toByteArray.data.toList

/-- The text whose UTF-8 bytes are given; `none` for bytes that are not UTF-8. -/
def ofUtf8? (bs : Bytes) : Option String := String.fromUTF8? ⟨bs.toArray⟩

/-- **Reading UTF-8 is exact.** It accepts the bytes of a text and nothing else. -/
theorem ofUtf8?_eq_some_iff {bs : Bytes} {s : String} : ofUtf8? bs = some s ↔ utf8 s = bs := by
  constructor
  · intro h
    simp only [ofUtf8?, String.fromUTF8?, Option.dite_none_right_eq_some, Option.some.injEq] at h
    obtain ⟨_, rfl⟩ := h
    simp [utf8, String.fromUTF8]
  · rintro rfl
    have : (⟨(utf8 s).toArray⟩ : ByteArray) = s.toByteArray := by simp [utf8]
    simp only [ofUtf8?, String.fromUTF8?, Option.dite_none_right_eq_some, Option.some.injEq]
    exact ⟨this ▸ s.isValidUTF8, String.toByteArray_inj.1 this⟩

/-- What was written reads back. -/
@[simp]
theorem ofUtf8?_utf8 (s : String) : ofUtf8? (utf8 s) = some s := ofUtf8?_eq_some_iff.2 rfl

/-! ## Cutting -/

/-- The last place of a text at byte `n` or before it where no character is torn apart. The search
goes back byte by byte; `none` if it would go on before the first byte. -/
def lastCut? (s : String) : Nat → Option s.Pos
  | 0 => if h : String.Pos.Raw.IsValid s ⟨0⟩ then some ⟨⟨0⟩, h⟩ else none
  | n + 1 => if h : String.Pos.Raw.IsValid s ⟨n + 1⟩ then some ⟨⟨n + 1⟩, h⟩ else lastCut? s n

/-- **The search for a place to cut ends** at the first byte at the latest.

**Proof sketch.** By induction on the place: the search steps back over one place at a time, and the
first place is always one to cut at. -/
theorem isSome_lastCut? (s : String) (n : Nat) : (lastCut? s n).isSome := by
  induction n with
  | zero =>
    have hstart : String.Pos.Raw.IsValid s ⟨0⟩ := String.Pos.Raw.isValid_zero
    rw [lastCut?, dif_pos hstart, Option.isSome_some]
  | succ n ih =>
    rw [lastCut?]
    split
    · rfl
    · exact ih

/-- The text up to the last place where it can be cut to `max` bytes. -/
def truncate (s : String) (max : Nat) : String :=
  if s.utf8ByteSize ≤ max then s
  else (s.sliceTo ((lastCut? s max).get (isSome_lastCut? s max))).copy

end FleetStatus.Text
