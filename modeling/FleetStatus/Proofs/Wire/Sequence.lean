import FleetStatus.Proofs.Wire.Form
import FleetStatus.Proofs.Wire.Shortage
import Mathlib.Data.List.Forall2

set_option relaxedAutoImplicit false
set_option autoImplicit false

/-!
# Fields one after the other

Fields that are written in turn are read in turn, whatever their kinds are. Only of a text something
may be missing: what two bytes cannot count is cut off between two characters. Where the bytes end
too soon, the fields before the end are read as if there was none, and the one that the end tears is
refused as too short.

## Main definitions

* `FleetStatus.Wire.Field.kept` — what is read of a field that was written.
* `FleetStatus.Wire.Field.ComesBackAs` — the same, told without the writer.

## Main results

* `FleetStatus.Wire.Field.reads_encode`, `FleetStatus.Wire.Field.needs_encode` — one field.
* `FleetStatus.Wire.reads_encodeAll` — several fields.
* `FleetStatus.Wire.exists_torn` — which field the end of the data tears.
* `FleetStatus.Wire.readAll_encodeAll` — the fields of a whole and of a cut sequence.
-/

namespace FleetStatus.Wire

/-! ## One field -/

namespace Field

/-- What is **read of a field** that was written: of a text, what is kept of it. -/
def kept : Field → Field
  | .text s => .text (Text.truncate s maxLength)
  | f => f

/-- What a field may come back as: a text as its longest part at the front that has whole characters
and at most 65535 bytes, and any other field as it was. -/
def ComesBackAs : Field → Field → Prop
  | .text s, received => ∃ part, Text.LongestWithin s 65535 part ∧ received = .text part
  | sent, received => received = sent

/-- What is kept of a field is what comes back. -/
theorem comesBackAs_kept (f : Field) : f.ComesBackAs f.kept := by
  cases f with
  | text s => exact ⟨_, Text.longestWithin_truncate s maxLength, rfl⟩
  | _ => exact rfl

/-- **A field is read as what is kept of it.** -/
theorem reads_encode (f : Field) : f.kind.read.Reads f.encode f.kept := by
  cases f with
  | u8 v => exact (Reader.reads_u8 v).map Field.u8
  | u16 v => exact (Reader.reads_u16 v).map Field.u16
  | u32 v => exact (Reader.reads_u32 v).map Field.u32
  | i32 v => exact (Reader.reads_i32 v).map Field.i32
  | text s => exact (Reader.reads_text s).map Field.text
  | uuid u => exact (Reader.reads_uuid u).map Field.uuid
  | raw bs => exact (Reader.reads_take rfl).map Field.raw

/-- **A field needs all of its bytes.** -/
theorem needs_encode (f : Field) : f.kind.read.Needs f.encode := by
  cases f with
  | u8 v => exact (Reader.needs_u8 v).bind_left
  | u16 v => exact (Reader.needs_u16 v).bind_left
  | u32 v => exact (Reader.needs_u32 v).bind_left
  | i32 v => exact (Reader.needs_u32 v.toUInt32).bind_left.bind_left
  | text s =>
    have hcounted := Reader.needs_counted (Text.utf8 (Text.truncate s maxLength))
    rw [← text_eq_counted] at hcounted
    exact hcounted.bind_left.bind_left
  | uuid u => exact (Reader.needs_take u.length_toBytes).bind_left.bind_left
  | raw bs => exact (Reader.needs_take rfl).bind_left

end Field

/-! ## Several fields -/

/-- Fields in two parts are written one part after the other. -/
theorem encodeAll_append (fields fields' : List Field) :
    encodeAll (fields ++ fields') = encodeAll fields ++ encodeAll fields' := List.flatMap_append

/-- The first field is written first. -/
theorem encodeAll_cons (f : Field) (fields : List Field) :
    encodeAll (f :: fields) = f.encode ++ encodeAll fields := List.flatMap_cons

/-- **Fields that are written in turn are read in turn.**

**Proof sketch.** By induction on the fields. -/
theorem reads_encodeAll (fields : List Field) :
    (readAll (fields.map Field.kind)).Reads (encodeAll fields) (fields.map Field.kept) := by
  induction fields with
  | nil => exact Reader.reads_pure []
  | cons f fields ih =>
    rw [encodeAll_cons]
    exact f.reads_encode.bind (ih.map (f.kept :: ·))

/-- **The end of the data tears one field**: those before it are complete, and it is not.

**Proof sketch.** By induction on the fields: the end of the data is in the first one, or in one of
the others after as many bytes less. -/
theorem exists_torn {fields : List Field} {n : Nat} (h : n < (encodeAll fields).length) :
    ∃ (k : Nat) (hk : k < fields.length), (encodeAll (fields.take k)).length ≤ n ∧
      n < (encodeAll (fields.take k)).length + fields[k].encode.length := by
  induction fields generalizing n with
  | nil => exact absurd h (Nat.not_lt_zero n)
  | cons f fields ih =>
    rcases Nat.lt_or_ge n f.encode.length with hfirst | hlater
    · exact ⟨0, Nat.zero_lt_succ _, Nat.zero_le n, by simpa [encodeAll] using hfirst⟩
    · rw [encodeAll_cons, List.length_append] at h
      obtain ⟨k, hk, hbefore, htorn⟩ := ih (n := n - f.encode.length) (by omega)
      refine ⟨k + 1, Nat.succ_lt_succ hk, ?_, ?_⟩
      · rw [List.take_succ_cons, encodeAll_cons, List.length_append]
        omega
      · rw [List.take_succ_cons, encodeAll_cons, List.length_append, List.getElem_cons_succ]
        omega

/-- Before the torn field the fields are read as ever, and it is refused as too short.

**Proof sketch.** The bytes of the complete fields are all there, so these are read as ever. Of the
torn one there is a strict prefix left, and it needs all of its bytes. -/
theorem readAll_torn {fields : List Field} {n k : Nat} (hk : k < fields.length)
    (hbefore : (encodeAll (fields.take k)).length ≤ n)
    (htorn : n < (encodeAll (fields.take k)).length + fields[k].encode.length) :
    ∃ c, readAll ((fields.take k).map Field.kind) (.start ((encodeAll fields).take n)) =
        (.ok ((fields.take k).map Field.kept), c) ∧
      ∃ needed, n < needed ∧ (fields[k].kind.read c).1 = .error (.truncated needed n) := by
  have hwhole : encodeAll fields =
      encodeAll (fields.take k) ++ (fields[k].encode ++ encodeAll (fields.drop (k + 1))) := by
    rw [← encodeAll_cons, ← encodeAll_append, ← List.drop_eq_getElem_cons hk,
      List.take_append_drop]
  have hlength : ((encodeAll fields).take n).length = n := by
    refine List.length_take_of_le ?_
    rw [hwhole, List.length_append, List.length_append]
    omega
  -- what is left behind the complete fields is less than the bytes of the torn one
  have hsplit : (encodeAll fields).take n = encodeAll (fields.take k) ++
      fields[k].encode.take (n - (encodeAll (fields.take k)).length) := by
    rw [hwhole, List.take_append, List.take_of_length_le hbefore,
      List.take_append_of_le_length (by omega)]
  generalize (encodeAll fields).take n = data at hlength hsplit ⊢
  have hle := (Cursor.start data).le_remaining hsplit
  have hrest := (Cursor.start data).rest_skip hsplit hle
  have hpre : ((Cursor.start data).skip _ hle).rest <+: fields[k].encode := by
    rw [hrest]
    exact List.take_prefix _ _
  have hshort : ((Cursor.start data).skip _ hle).rest.length < fields[k].encode.length := by
    rw [hrest, List.length_take]
    omega
  obtain ⟨needed, hlt, herror⟩ := fields[k].needs_encode _ hpre hshort
  have hsize : ((Cursor.start data).skip _ hle).size = n := hlength
  rw [hsize] at hlt herror
  exact ⟨_, reads_encodeAll (fields.take k) (.start data) _ hsplit, needed, hlt, herror⟩

/-- **Writing and reading are inverse.** Any fields that are written in turn come back in turn, each
as it was, or a text that is too long for its length as its longest part that is not, and nothing is
left to read. If any number of bytes is cut off the end, the fields whose bytes are complete come
back as before, and the first one whose bytes are not is refused as too short.

**Proof sketch.** Each field is read back wherever its bytes come next, and refuses every strict
prefix of them. By induction on the fields they are read in turn (`reads_encodeAll`). The end of cut
data lies in the bytes of one field (`exists_torn`), of which a strict prefix is left to read behind
the fields before it (`readAll_torn`). -/
theorem readAll_encodeAll (fields : List Field) :
    ∃ received, List.Forall₂ Field.ComesBackAs fields received ∧
      (∃ c, readAll (fields.map Field.kind) (.start (encodeAll fields)) = (.ok received, c) ∧
        c.remaining = 0) ∧
      ∀ n < (encodeAll fields).length, ∃ (k : Nat) (hk : k < fields.length),
        (encodeAll (fields.take k)).length ≤ n ∧
        n < (encodeAll (fields.take k)).length + fields[k].encode.length ∧
        ∃ c, readAll ((fields.take k).map Field.kind) (.start ((encodeAll fields).take n)) =
            (.ok (received.take k), c) ∧
          ∃ needed, n < needed ∧ (fields[k].kind.read c).1 = .error (.truncated needed n) := by
  refine ⟨fields.map Field.kept, ?_, ?_, fun n hn => ?_⟩
  · exact List.forall₂_map_right_iff.2 (List.forall₂_same.2 fun f _ => f.comesBackAs_kept)
  · have hwhole : (Cursor.start (encodeAll fields)).rest = encodeAll fields ++ [] :=
      (List.append_nil _).symm
    refine ⟨_, reads_encodeAll fields _ [] hwhole, ?_⟩
    rw [Cursor.remaining_eq, Cursor.rest_skip _ hwhole, List.length_nil]
  · obtain ⟨k, hk, hbefore, htorn⟩ := exists_torn hn
    have hrefused := readAll_torn hk hbefore htorn
    rw [List.map_take (f := Field.kept)] at hrefused
    exact ⟨k, hk, hbefore, htorn, hrefused⟩

example : (readAll [.u16, .text, .i32] (.start ((encodeAll
    [.u16 7, .text "é", .i32 (-2)]).take 5))).1 = .error (.truncated 6 5) := by
  decide

end FleetStatus.Wire
