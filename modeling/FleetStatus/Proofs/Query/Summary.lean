import FleetStatus.Proofs.Query.Grammar

set_option relaxedAutoImplicit false
set_option autoImplicit false

/-!
# Summaries as a client reads them

A summary ends with an address or without one, and only the end of its block tells which. What is
written of a summary has the grammar of a summary, so it is read as it was written.

A refusal is a summary with a flag. What it tells of a server is what the summary tells.

## Main definitions

* `FleetStatus.ServerInfo.kept` — a summary as sent.
* `FleetStatus.Reply.Fits` — a summary whose block is sent whole.
* `FleetStatus.Reply.flagsOf` — the flags of a datagram.

## Main results

* `FleetStatus.Reply.frame_inj` — equal frames have equal flags and payloads.
* `FleetStatus.Reply.parse_basic` — a summary that is sent whole is read as it was sent.
* `FleetStatus.Reply.exists_refused_of_not_fits` — one that is not sent whole is refused.
* `FleetStatus.Reply.basic_eq_basic_iff` — two summaries are sent as the same bytes exactly when
  they are kept as the same.
-/

namespace FleetStatus

/-! ## Summaries as sent -/

/-- The summary **as sent**, with the parts of its texts that two bytes can count. -/
def ServerInfo.kept (info : ServerInfo) : ServerInfo where
  name := Text.truncate info.name Wire.maxLength
  motd := Text.truncate info.motd Wire.maxLength
  playerCount := info.playerCount
  maxPlayers := info.maxPlayers
  version := Text.truncate info.version Wire.maxLength
  protocolVersion := info.protocolVersion
  protocolHash := Text.truncate info.protocolHash Wire.maxLength
  address := info.address.map fun (host, port) => (Text.truncate host Wire.maxLength, port)

namespace Reply

open Wire.Reader

variable (info : ServerInfo) (requestId : UInt32) (flags : UInt16)

/-- The block with the summary is sent whole. -/
def Fits (info : ServerInfo) : Prop := (infoBytes info).length + blockHeaderSize ≤ Wire.maxLength

instance : Decidable (Fits info) := Nat.decLe _ _

/-- What is not kept is not sent. -/
theorem infoBytes_kept : infoBytes info.kept = infoBytes info := by
  simp only [infoBytes, ServerInfo.kept, Wire.text_truncate]
  cases info.address with
  | none => rfl
  | some address => simp only [Option.map_some, Option.elim_some, Wire.text_truncate]

/-- The flags of a summary. -/
def summaryFlags : UInt16 := if info.address.isSome then flags ||| addressFlag else flags

/-- A summary is a frame with one block in it. -/
theorem basic_eq_frame : basic requestId flags info =
    frame requestId (summaryFlags info flags) (Wire.block serverInfoBlock (infoBytes info)) := rfl

/-- A summary is sent like what is kept of it. -/
theorem basic_kept : basic requestId flags info.kept = basic requestId flags info := by
  have haddress : info.kept.address.isSome = info.address.isSome := by
    simp only [ServerInfo.kept, Option.isSome_map]
  simp only [basic, haddress, infoBytes_kept]

/-! ## Reading a summary -/

/-- The body of the block is the body of a summary. An address is looked for if bytes are left.

**Proof sketch.** The texts are sent as far as they are kept, in the order of the grammar. Without
an address no bytes are left to look at. -/
theorem isInfo_infoBytes (withAddress : Bool) (h : info.address.isSome → withAddress = true) :
    Decoded.IsInfo withAddress (infoBytes info) info.kept := by
  refine ⟨Wire.text info.name, Wire.text info.motd, Wire.text info.version,
    Wire.text info.protocolHash,
    info.address.elim [] fun (host, port) => Wire.text host ++ Wire.u16 port, ?_,
    Wire.Form.text_text _, Wire.Form.text_text _, Wire.Form.text_text _, Wire.Form.text_text _, ?_⟩
  · simp only [infoBytes, ServerInfo.kept, List.append_assoc]
  · rw [ServerInfo.kept]
    cases haddress : info.address with
    | none => exact fun _ => rfl
    | some address =>
      refine ⟨h (haddress ▸ rfl), Wire.text address.1, [], Wire.Form.text_text _, ?_⟩
      rw [List.append_nil, Option.elim_some]

/-- The flag of an address is set by setting it. -/
theorem or_addressFlag_and_ne_zero : (flags ||| addressFlag) &&& addressFlag ≠ 0 := by
  have hset : (flags ||| addressFlag) &&& addressFlag =
      (flags &&& addressFlag) ||| (addressFlag &&& addressFlag) :=
    UInt16.toBitVec_inj.1 BitVec.and_or_distrib_right
  rw [hset]
  intro hzero
  exact absurd (UInt16.or_eq_zero_iff.1 hzero).2 (by decide)

/-- The flags of a summary tell of its address. -/
theorem hasFlag_summaryFlags {d : Decoded} (hflags : d.flags = summaryFlags info flags)
    (h : info.address.isSome) : d.hasFlag addressFlag = true := by
  rw [Decoded.hasFlag, decide_eq_true_iff, hflags, summaryFlags, if_pos h]
  exact or_addressFlag_and_ne_zero flags

/-- **A summary that is sent whole is read as it was sent**, whatever room the client has.

**Proof sketch.** The body is one by the grammar, and block and payload are whole. -/
theorem parse_basic (room : Decoded.Room) (h : Fits info) :
    Decoded.parse room (basic requestId flags info) =
      .ok { version, flags := summaryFlags info flags, requestId, serverInfo := some info.kept } := by
  rw [basic_eq_frame]
  refine Decoded.parse_frame_block h (Decoded.reads_block (Nat.le_of_add_right_le h) (.summary ?_))
  exact isInfo_infoBytes info _ (hasFlag_summaryFlags info flags rfl)

/-- **A summary that is not sent whole** is refused. -/
theorem exists_refused_of_not_fits (room : Decoded.Room) (h : ¬Fits info) :
    ∃ e, Decoded.parse room (basic requestId flags info) = .error (.refused e) :=
  Decoded.exists_refused_of_cut room (Nat.lt_of_not_le h)

/-- No players are read from a summary. -/
theorem playerList_of_parse_basic {room : Decoded.Room} {d : Decoded}
    (h : Decoded.parse room (basic requestId flags info) = .ok d) : d.playerList = none := by
  by_cases hfits : Fits info
  · rw [parse_basic info requestId flags room hfits] at h
    cases h
    rfl
  · obtain ⟨e, he⟩ := exists_refused_of_not_fits info requestId flags room hfits
    rw [he] at h
    cases h

/-! ## Flags -/

/-- The **flags** of a datagram: the two bytes after its magic bytes and its version. -/
def flagsOf (packet : Bytes) : UInt16 := UInt16.ofNat (Bytes.ofLittle ((packet.drop 9).take 2))

/-- The flags of a frame are those that it was made with. -/
@[simp]
theorem flagsOf_frame (payload : Bytes) : flagsOf (frame requestId flags payload) = flags := by
  have hslice : ((frame requestId flags payload).drop 9).take 2 = Wire.u16 flags := rfl
  rw [flagsOf, hslice, Wire.u16, Bytes.ofLittle_little flags.toNat_lt, UInt16.ofNat_toNat]

/-- **Equal frames** of one number have equal flags and send the same of their payloads.

**Proof sketch.** Magic bytes, version and number are the same on both sides; the flags are of a
fixed length, and what comes behind them is the payload. -/
theorem frame_inj {flags' : UInt16} {payload payload' : Bytes} :
    frame requestId flags payload = frame requestId flags' payload' ↔
      flags = flags' ∧ Wire.counted payload = Wire.counted payload' := by
  constructor
  · intro h
    have hflags : flags = flags' := by
      rw [← flagsOf_frame requestId flags payload, h, flagsOf_frame]
    subst hflags
    exact ⟨rfl, List.append_cancel_left h⟩
  · rintro ⟨rfl, hpayload⟩
    rw [frame, frame, hpayload]

/-! ## Two summaries -/

variable {info} {info' : ServerInfo} {flags}

/-- If the flag of an address was not set before, it is set for a summary with an address only.

**Proof sketch.** To set a flag that was not set changes the flags. -/
theorem summaryFlags_inj (hflags : flags &&& addressFlag = 0) :
    summaryFlags info flags = summaryFlags info' flags ↔
      info.address.isSome = info'.address.isSome := by
  have hchanged : flags ||| addressFlag ≠ flags := by
    intro hsame
    have hset := or_addressFlag_and_ne_zero flags
    rw [hsame] at hset
    exact hset hflags
  rw [summaryFlags, summaryFlags]
  cases info.address.isSome <;> cases info'.address.isSome <;> simp [hchanged, hchanged.symm]

/-- **Which summaries are told apart** does not hang on the flags that they are sent with. -/
theorem basic_inj {flags' : UInt16} (hflags : flags &&& addressFlag = 0)
    (hflags' : flags' &&& addressFlag = 0) :
    basic requestId flags info = basic requestId flags info' ↔
      basic requestId flags' info = basic requestId flags' info' := by
  rw [basic_eq_frame, basic_eq_frame, basic_eq_frame, basic_eq_frame, frame_inj, frame_inj,
    summaryFlags_inj hflags, summaryFlags_inj hflags']

/-- **Two summaries are sent as the same bytes** exactly when the same is kept of them.

**Proof sketch.** What a client reads from the same bytes is the same, and it reads what was kept.
Conversely a summary is sent like what is kept of it. -/
theorem basic_eq_basic_iff (h : Fits info) (h' : Fits info') :
    basic requestId flags info = basic requestId flags info' ↔ info.kept = info'.kept := by
  constructor
  · intro heq
    have hparse := parse_basic info requestId flags .least h
    rw [heq, parse_basic info' requestId flags .least h'] at hparse
    injection hparse with hsame
    injection hsame with _ _ _ hinfo
    exact (Option.some.inj hinfo).symm
  · intro hkept
    rw [← basic_kept info, hkept, basic_kept]

end Reply

end FleetStatus
