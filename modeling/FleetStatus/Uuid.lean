import FleetStatus.Bytes

set_option relaxedAutoImplicit false
set_option autoImplicit false

/-!
# Player identities

A `Uuid` is a 128-bit number. On the wire it is sixteen bytes, high byte first; in text it is five
groups of lowercase hexadecimal digits. The order of identities is the order of their numbers,
which is also the order of their bytes.

## Main definitions

* `FleetStatus.Uuid` — the identity.
* `FleetStatus.Uuid.toBytes`, `FleetStatus.Uuid.ofBytes` — the sixteen bytes.
* `FleetStatus.Uuid.toText`, `FleetStatus.Uuid.ofText?` — the printed form, and the accepted ones.

## Main results

* `FleetStatus.Uuid.ofBytes_toBytes`, `FleetStatus.Uuid.ofText?_toText` — an identity reads back
  from its bytes and from its text.
-/

namespace FleetStatus

/-- A 128-bit identity. -/
structure Uuid where
  /-- The identity as a number. -/
  value : BitVec 128
  deriving DecidableEq, Inhabited

namespace Uuid

instance : Ord Uuid := ⟨fun a b => compare a.value b.value⟩

instance : Std.TransOrd Uuid where
  eq_swap := Std.OrientedOrd.eq_swap (α := BitVec 128)
  isLE_trans := Std.TransOrd.isLE_trans (α := BitVec 128)

instance : Std.LawfulEqOrd Uuid where
  compare_self := Std.ReflOrd.compare_self (α := BitVec 128)
  eq_of_compare {a b} h := by
    cases a; cases b
    exact congrArg Uuid.mk (Std.LawfulEqOrd.eq_of_compare (α := BitVec 128) h)

/-! ## Bytes -/

/-- The sixteen bytes, high byte first. -/
def toBytes (u : Uuid) : Bytes := Bytes.big 16 u.value.toNat

/-- The identity with the given bytes, high byte first. -/
def ofBytes (bs : Bytes) : Uuid := ⟨BitVec.ofNat 128 (Bytes.ofBig bs)⟩

/-- An identity has sixteen bytes. -/
@[simp]
theorem length_toBytes (u : Uuid) : u.toBytes.length = 16 := by simp [toBytes]

/-- An identity reads back from its bytes. -/
@[simp]
theorem ofBytes_toBytes (u : Uuid) : ofBytes u.toBytes = u := by
  have h : u.value.toNat < Bytes.capacity 16 := u.value.isLt
  simp [ofBytes, toBytes, Bytes.ofBig_big h]

/-- Sixteen bytes are those of the identity that they are read as. -/
theorem toBytes_ofBytes {bs : Bytes} (h : bs.length = 16) : (ofBytes bs).toBytes = bs := by
  have hlt : Bytes.ofBig bs < Bytes.capacity 16 := by
    rw [← h]
    exact Bytes.ofBig_lt bs
  have hvalue : (BitVec.ofNat 128 (Bytes.ofBig bs)).toNat = Bytes.ofBig bs := Nat.mod_eq_of_lt hlt
  rw [toBytes, ofBytes, hvalue, ← h, Bytes.big_ofBig]

/-! ## Text -/

/-- The text in five groups of 8, 4, 4, 4 and 12 lowercase digits. -/
def toText (u : Uuid) : String :=
  let digits := u.toBytes.flatMap Bytes.hexPair
  let group (start count : Nat) : List Char := (digits.drop start).take count
  String.ofList <|
    group 0 8 ++ '-' :: group 8 4 ++ '-' :: group 12 4 ++ '-' :: group 16 4 ++ '-' :: group 20 12

/-- The identity written by 32 digits. -/
def ofDigits? (digits : List Char) : Option Uuid :=
  if digits.length = 32 then (Bytes.ofHexDigits? [] digits).map ofBytes else none

/-- The identity written in five groups of digits with a hyphen between two groups. -/
def ofGroups? (cs : List Char) : Option Uuid :=
  if cs.length = 36 ∧ [8, 13, 18, 23].all (fun i => cs[i]? = some '-') then
    ofDigits? (cs.take 8 ++ (cs.drop 9).take 4 ++ (cs.drop 14).take 4 ++ (cs.drop 19).take 4 ++
      cs.drop 24)
  else none

/-- The identity written in a text: 32 digits, five hyphenated groups, the groups in braces, or the
groups after `urn:uuid:`. All letters may be of either case. -/
def ofText? (s : String) : Option Uuid :=
  let cs := s.toList
  match cs.length with
  | 32 => ofDigits? cs
  | 36 => ofGroups? cs
  | 38 =>
    if cs.head? = some '\x7b' ∧ cs.getLast? = some '\x7d' then ofGroups? ((cs.drop 1).take 36)
    else none
  | 45 =>
    if (cs.take 9).map Char.toLower = "urn:uuid:".toList then ofGroups? (cs.drop 9) else none
  | _ => none

/-- An identity reads back from its digits. -/
theorem ofDigits?_flatMap (u : Uuid) : ofDigits? (u.toBytes.flatMap Bytes.hexPair) = some u := by
  simp only [ofDigits?, Bytes.length_flatMap_hexPair, length_toBytes, Bytes.ofHexDigits?_flatMap]
  simp

/-- Groups of digits with hyphens between them are read as the digits. -/
theorem ofGroups?_groups {a b c d e : List Char} (ha : a.length = 8) (hb : b.length = 4)
    (hc : c.length = 4) (hd : d.length = 4) (he : e.length = 12) :
    ofGroups? (a ++ '-' :: b ++ '-' :: c ++ '-' :: d ++ '-' :: e) =
      ofDigits? (a ++ b ++ c ++ d ++ e) := by
  simp [ofGroups?, ha, hb, hc, hd, he, List.drop_append, List.getElem?_append,
    List.drop_eq_nil_of_le]

/-- The **five groups** of a text have 8, 4, 4, 4 and 12 digits, and together all of them.

**Proof sketch.** The groups are cut from the 32 digits one behind the other, so they make them up
again. -/
theorem exists_groups (u : Uuid) : ∃ a b c d e : List Char,
    u.toText.toList = a ++ '-' :: b ++ '-' :: c ++ '-' :: d ++ '-' :: e ∧
    a.length = 8 ∧ b.length = 4 ∧ c.length = 4 ∧ d.length = 4 ∧ e.length = 12 ∧
    a ++ b ++ c ++ d ++ e = u.toBytes.flatMap Bytes.hexPair := by
  have hlength : (u.toBytes.flatMap Bytes.hexPair).length = 32 := by
    rw [Bytes.length_flatMap_hexPair, length_toBytes]
  generalize hdigits : u.toBytes.flatMap Bytes.hexPair = digits at hlength
  have hend : (digits.drop 20).take 12 = digits.drop 20 :=
    List.take_of_length_le (by rw [List.length_drop]; omega)
  have hjoin (i j : Nat) : (digits.drop i).take j ++ digits.drop (i + j) = digits.drop i := by
    rw [← List.drop_drop, List.take_append_drop]
  refine ⟨digits.take 8, (digits.drop 8).take 4, (digits.drop 12).take 4, (digits.drop 16).take 4,
    (digits.drop 20).take 12, by simp [toText, hdigits], ?_, ?_, ?_, ?_, ?_, ?_⟩
  · simp [hlength]
  · simp [hlength]
  · simp [hlength]
  · simp [hlength]
  · simp [hlength]
  · simp only [hend, List.append_assoc, hjoin 16 4, hjoin 12 4, hjoin 8 4, List.take_append_drop]

/-- **An identity reads back from its text.**

**Proof sketch.** The five groups of `exists_groups` are read as their digits together, and these as
the identity. The text has 36 characters, which is the form with hyphens. -/
@[simp]
theorem ofText?_toText (u : Uuid) : ofText? u.toText = some u := by
  obtain ⟨a, b, c, d, e, htext, ha, hb, hc, hd, he, hdigits⟩ := exists_groups u
  have hlength : u.toText.toList.length = 36 := by simp [htext, ha, hb, hc, hd, he]
  have hread : ofGroups? u.toText.toList = some u := by
    rw [htext, ofGroups?_groups ha hb hc hd he, hdigits, ofDigits?_flatMap]
  simp only [ofText?, hlength, hread]

end Uuid

end FleetStatus
