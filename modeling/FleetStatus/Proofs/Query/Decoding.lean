import FleetStatus.Proofs.Wire.Reading
import FleetStatus.Query.Decoded

set_option relaxedAutoImplicit false
set_option autoImplicit false

/-!
# Replies are read as they were built

The reader of replies takes the header field by field, and then the payload block by block for as
long as bytes are left. What a datagram comes to is what this reader yields, and there are three
things: contents, a refusal, and a list that there is no room for.

## Main results

* `FleetStatus.Decoded.parse_eq_ok_iff`, `FleetStatus.Decoded.parse_eq_refused_iff`,
  `FleetStatus.Decoded.parse_eq_exhausted_iff` — what a datagram comes to, by its reader.
* `FleetStatus.Decoded.run_read_frame` — a header is read as it was built, whatever blocks follow.
* `FleetStatus.Decoded.parse_frame_block` — a reply with one block is read as header and block.
* `FleetStatus.Decoded.exists_refused_of_cut` — a reply whose block was cut is refused.
-/

namespace FleetStatus.Decoded

open Wire

variable {room : Room} {d d' : Decoded} {bs body payload data : Bytes}

/-! ## What a datagram comes to -/

/-- A client has the contents that its reader yields. -/
theorem parse_eq_ok_iff : parse room data = .ok d ↔ (read room).run data = .ok (.ok d) := by
  rw [parse]
  split <;> simp_all

/-- A client refuses what its reader refuses. -/
theorem parse_eq_refused_iff {e : ReadError} :
    parse room data = .error (.refused e) ↔ (read room).run data = .error e := by
  rw [parse]
  split <;> simp_all

/-- A client ends at the room that its reader asks for in vain. -/
theorem parse_eq_exhausted_iff {bytes : Nat} :
    parse room data = .error (.exhausted bytes) ↔ (read room).run data = .ok (.error bytes) := by
  rw [parse]
  split <;> simp_all

/-! ## Bodies of blocks -/

/-- What is inside a body is read without reading past it. -/
theorem reads_inside {α : Type} {r : Reader α} {a : α} (h : r.run body = .ok a) :
    (inside body r).Reads [] a := fun c _ _ => by
  rw [inside, h]
  exact congrArg _ (c.skip_zero _).symm

/-! ## Block after block -/

/-- Without bytes left no block is read. -/
theorem readBlocks_of_rest_eq_nil (most : Nat) (d : Decoded) {c : Cursor} (h : c.rest = []) :
    readBlocks room most d c = (.ok (.ok d), c) := by
  cases most with
  | zero => rfl
  | succ most =>
    have hnone : c.remaining = 0 := by rw [c.remaining_eq, h, List.length_nil]
    show (if c.remaining = 0 then (pure (.ok d) : Reader (Granted Decoded)) else _) c = _
    rw [if_pos hnone]
    rfl

/-- With bytes left one block is read, and then the others unless there was no room for it. -/
theorem readBlocks_of_rest_ne_nil (most : Nat) (d : Decoded) {c : Cursor} (h : c.rest ≠ []) :
    readBlocks room (most + 1) d c = (readBlock room d >>= fun
      | .ok d => readBlocks room most d
      | .error bytes => pure (.error bytes)) c := by
  have hleft : c.remaining ≠ 0 := by
    rw [c.remaining_eq]
    exact mt List.length_eq_zero_iff.1 h
  show (if c.remaining = 0 then (pure (.ok d) : Reader (Granted Decoded)) else _) c = _
  exact congrFun (if_neg hleft) c

/-- **A payload of one block.**

**Proof sketch.** The block is read as it was written, after which nothing is left, and so the
reader of blocks stops. -/
theorem run_readBlocks_block (hblock : (readBlock room d).Reads bs (.ok d')) (hbytes : bs ≠ []) :
    (readBlocks room bs.length d).run bs = .ok (.ok d') := by
  obtain ⟨most, hmost⟩ : ∃ most, bs.length = most + 1 :=
    Nat.exists_eq_succ_of_ne_zero (mt List.length_eq_zero_iff.1 hbytes)
  have hwhole : (Cursor.start bs).rest = bs ++ [] := (List.append_nil bs).symm
  rw [hmost, Reader.run, readBlocks_of_rest_ne_nil _ _ hbytes, Reader.bind_apply,
    hblock _ [] hwhole]
  show (readBlocks room most d' _).1 = _
  rw [readBlocks_of_rest_eq_nil _ _ (Cursor.rest_skip _ hwhole _)]

/-! ## Whole replies -/

/-- **A header is read as it was built**, and the blocks from what is kept of the payload.

**Proof sketch.** Every field of the header is read as it was written, whatever follows it. The last
one is the payload behind its length, and there the reader of blocks works on the payload alone. -/
theorem run_read_frame (room : Room) (requestId : UInt32) (flags : UInt16) (payload : Bytes) :
    (read room).run (Reply.frame requestId flags payload) =
      (readBlocks room (payload.take maxLength).length
        { version := Reply.version, flags, requestId }).run (payload.take maxLength) := by
  have hread : (read room).Finishes (Reply.magic ++ (Wire.u8 Reply.version ++ (Wire.u16 flags ++
      (Wire.u32 requestId ++ (counted payload ++ [])))))
      (· = (readBlocks room (payload.take maxLength).length
        { version := Reply.version, flags, requestId }).run (payload.take maxLength)) := by
    refine (Reader.reads_take rfl).bind_finishes ?_
    rw [if_neg (not_not_intro rfl)]
    refine (Reader.reads_u8 _).bind_finishes ?_
    refine (Reader.reads_u16 _).bind_finishes ((Reader.reads_u32 _).bind_finishes ?_)
    exact (Reader.reads_counted payload).bind_finishes fun _ _ => rfl
  have hrun := hread.run
  simpa only [Reply.frame, List.append_assoc, List.append_nil] using hrun

/-- A payload that is sent whole. -/
theorem parse_frame {requestId : UInt32} {flags : UInt16} (hlength : payload.length ≤ maxLength)
    (hblocks : (readBlocks room payload.length
      { version := Reply.version, flags, requestId }).run payload = .ok (.ok d)) :
    parse room (Reply.frame requestId flags payload) = .ok d := by
  rw [parse_eq_ok_iff, run_read_frame, List.take_of_length_le hlength]
  exact hblocks

/-- **A reply with one block** is read as its header and the block.

**Proof sketch.** The body is short enough for the block and the payload to be whole, so the payload
is the block. -/
theorem parse_frame_block {requestId : UInt32} {flags kind : UInt16}
    (hlength : body.length + Reply.blockHeaderSize ≤ maxLength)
    (hblock : (readBlock room { version := Reply.version, flags, requestId }).Reads (block kind body)
      (.ok d)) :
    parse room (Reply.frame requestId flags (block kind body)) = .ok d := by
  have hsize : (block kind body).length ≤ maxLength := by
    have hbody : body.length ≤ maxLength := Nat.le_of_add_right_le hlength
    simp only [block, List.length_append, length_counted hbody, Wire.u16, Bytes.length_little]
    simp only [Reply.blockHeaderSize] at hlength
    omega
  refine parse_frame hsize (run_readBlocks_block hblock ?_)
  simp [block, Wire.u16, Bytes.little]

/-- **A block that was cut** is refused: its length tells of more bytes than there are.

**Proof sketch.** The kind and the length of the block are kept, since they come first, and the body
loses at least one byte. So the reader of the counted body runs out of bytes, whatever the kind. -/
theorem exists_refused_of_cut (room : Room) {requestId : UInt32} {flags kind : UInt16}
    (hlength : maxLength < body.length + Reply.blockHeaderSize) :
    ∃ e, parse room (Reply.frame requestId flags (block kind body)) = .error (.refused e) := by
  have hheader : (Wire.u16 kind ++ length (body.take maxLength).length).length = 4 := by
    simp only [List.length_append, Wire.u16, length, Bytes.length_little]
  have hcut : (block kind body).take maxLength =
      Wire.u16 kind ++ (length (body.take maxLength).length ++ body.take (maxLength - 4)) := by
    rw [block, counted, ← List.append_assoc, List.take_append, hheader,
      List.take_of_length_le (by rw [hheader]; decide), List.take_take, List.append_assoc,
      Nat.min_eq_left (Nat.sub_le _ _)]
  have hkept : (body.take (maxLength - 4)).length < (body.take maxLength).length := by
    simp only [List.length_take, Reply.blockHeaderSize, maxLength] at hlength ⊢
    omega
  have hcount : (body.take maxLength).length < UInt16.size :=
    Nat.lt_succ_of_le (List.length_take_le ..)
  have hnonempty : ((block kind body).take maxLength).length ≠ 0 := by
    rw [hcut, List.length_append, Wire.u16, Bytes.length_little]
    omega
  obtain ⟨most, hmost⟩ := Nat.exists_eq_succ_of_ne_zero hnonempty
  have hfails : (readBlocks room (most + 1) { version := Reply.version, flags, requestId }).Finishes
      ((block kind body).take maxLength) fun o => ∃ e, o = .error e := by
    refine Reader.finishes_remaining_bind ?_
    rw [if_neg hnonempty, hcut]
    refine Reader.Finishes.bind_error ?_
    refine (Reader.reads_u16 kind).bind_finishes ?_
    exact Reader.Finishes.bind_error (Reader.finishes_counted_error hcount hkept)
  simp only [parse_eq_refused_iff]
  rw [run_read_frame, hmost]
  exact hfails.run

end FleetStatus.Decoded
