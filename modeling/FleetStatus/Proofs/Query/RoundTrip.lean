import FleetStatus.Proofs.Query.Summary
import FleetStatus.Proofs.Wire.Shortage

set_option relaxedAutoImplicit false
set_option autoImplicit false

/-!
# Summaries arrive whole or not at all

A summary that fits in a datagram is read in every field as it was before it was sent. A text is cut
only if it is longer than two bytes can count, and then by less than a character, so what is kept of
it leaves no room for the rest of a summary. A datagram that is cut short is refused wherever it is
cut: the header tells how long the payload is.

## Main results

* `FleetStatus.ServerInfo.kept_eq_self` — in a summary that fits no text is cut.
* `FleetStatus.Reply.needs_frame` — every strict prefix of a reply is refused.
* `FleetStatus.Reply.summary_round_trip` — a summary arrives whole or not at all.
-/

namespace FleetStatus

open Wire

/-! ## What is cut -/

/-- A text that was cut takes almost all that two bytes can count.

**Proof sketch.** A text that is cut keeps all but three of the bytes that can be counted, which
with its length is more than 65531. -/
theorem Wire.truncate_eq_self_of_length_text {s : String} (h : (text s).length ≤ 65531) :
    Text.truncate s maxLength = s := by
  rcases Text.truncate_cases s maxLength with hwhole | ⟨-, hcut⟩
  · exact hwhole
  · rw [length_text_eq] at h
    simp only [maxLength] at hcut h
    omega

/-- **In a summary that fits no text is cut.**

**Proof sketch.** Each text is a part of the bytes, so it is short enough not to be cut. -/
theorem ServerInfo.kept_eq_self {info : ServerInfo} (h : (Reply.infoBytes info).length ≤ 65531) :
    info.kept = info := by
  obtain ⟨name, motd, playerCount, maxPlayers, version, protocolVersion, protocolHash, address⟩ := info
  simp only [Reply.infoBytes, List.length_append] at h
  have hname : Text.truncate name maxLength = name := truncate_eq_self_of_length_text (by omega)
  have hmotd : Text.truncate motd maxLength = motd := truncate_eq_self_of_length_text (by omega)
  have hversion : Text.truncate version maxLength = version :=
    truncate_eq_self_of_length_text (by omega)
  have hhash : Text.truncate protocolHash maxLength = protocolHash :=
    truncate_eq_self_of_length_text (by omega)
  simp only [kept, hname, hmotd, hversion, hhash]
  cases address with
  | none => rfl
  | some address =>
    simp only [Option.elim_some, List.length_append] at h
    have hhost : Text.truncate address.1 maxLength = address.1 :=
      truncate_eq_self_of_length_text (by omega)
    rw [Option.map_some, hhost]

/-! ## Datagrams that are cut short -/

namespace Reply

variable (requestId : UInt32) (flags : UInt16)

/-- **Every strict prefix of a reply is refused.**

**Proof sketch.** The fields of the header need their bytes in turn, and the payload is counted, so
that it is refused before a block is looked at. -/
theorem needs_frame (room : Decoded.Room) (payload : Bytes) :
    (Decoded.read room).Needs (frame requestId flags payload) := by
  have hneeds : (Decoded.read room).Needs (magic ++ (Wire.u8 version ++ (Wire.u16 flags ++
      (Wire.u32 requestId ++ (counted payload ++ []))))) := by
    refine (Reader.needs_take rfl).bind (Reader.reads_take rfl) ?_
    rw [if_neg (not_not_intro rfl)]
    refine (Reader.needs_u8 _).bind (Reader.reads_u8 _) ?_
    refine (Reader.needs_u16 _).bind (Reader.reads_u16 _) ?_
    refine (Reader.needs_u32 _).bind (Reader.reads_u32 _) ?_
    exact (Reader.needs_counted payload).bind (Reader.reads_counted payload) Reader.needs_nil
  simpa only [frame, List.append_assoc, List.append_nil] using hneeds

/-- **A summary arrives whole or not at all.** If its block can be counted, it is read in every
field as it was, with the flags as they were set and the one that tells of the address. If any of
its bytes are missing at the end, it is refused as too short. The room of the client makes no
difference.

**Proof sketch.** A text that was cut would alone take more bytes than the block has, so none was
(`ServerInfo.kept_eq_self`), and what was kept is what is read (`parse_basic`). The header counts the
payload, so a strict prefix ends in one of the header's fields or in the counted payload, and each of
them needs all of its bytes (`needs_frame`). -/
theorem summary_round_trip (room : Decoded.Room) (info : ServerInfo)
    (h : (infoBytes info).length ≤ 65531) :
    Decoded.parse room (basic requestId flags info) =
        .ok { version := 1
              flags := if info.address.isSome then flags ||| addressFlag else flags
              requestId
              serverInfo := some info
              playerList := none } ∧
      ∀ n < (basic requestId flags info).length, ∃ needed, n < needed ∧
        Decoded.parse room ((basic requestId flags info).take n) =
          .error (.refused (.truncated needed n)) := by
  constructor
  · rw [parse_basic info requestId flags room (Nat.add_le_add_right h blockHeaderSize),
      ServerInfo.kept_eq_self h]
    rfl
  · intro n hn
    simp only [Decoded.parse_eq_refused_iff]
    exact (needs_frame requestId _ room _).run hn

/-- A summary with an address, sent without the flag of an address. -/
theorem summary_round_trip_of_address :
    let info : ServerInfo :=
      { name := "Zürich ☃", motd := "", playerCount := 3, maxPlayers := 100, version := "1.0.0"
        protocolVersion := 7, protocolHash := "𝄞", address := some ("play.example", 25565) }
    (infoBytes info).length ≤ 65531 ∧
      Decoded.parse .least (basic 9 networkFlag info) =
        .ok { version := 1, flags := networkFlag ||| addressFlag, requestId := 9
              serverInfo := some info, playerList := none } ∧
      ∃ needed, 40 < needed ∧
        Decoded.parse .least ((basic 9 networkFlag info).take 40) =
          .error (.refused (.truncated needed 40)) := by
  intro info
  have hfits : (infoBytes info).length ≤ 65531 := by decide +kernel
  have hlong : 40 < (basic 9 networkFlag info).length := by decide +kernel
  obtain ⟨hwhole, hcut⟩ := summary_round_trip 9 networkFlag .least info hfits
  exact ⟨hfits, hwhole, hcut 40 hlong⟩

end Reply

end FleetStatus
