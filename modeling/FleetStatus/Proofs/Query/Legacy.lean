import FleetStatus.Proofs.Query.RoundTrip
import FleetStatus.Proofs.Query.Size

set_option relaxedAutoImplicit false
set_option autoImplicit false

/-!
# Legacy replies as a client reads them

A legacy reply has no lengths but those of its texts and lists, so a client reads it field by field
and must come out at its end. When the texts of the summary leave room for the rest of a datagram of
the planned size, nothing of them is cut, both lists are filled as far as the datagram goes, the
players first, and every field is read as it was told.

## Main definitions

* `FleetStatus.LegacyReply.Received`, `FleetStatus.LegacyReply.receive` — a reply as a client reads
  it.
* `FleetStatus.LegacyReply.bareSize` — the bytes of a full reply without players and plugins.

## Main results

* `FleetStatus.LegacyReply.receive_encode` — every reply is read as its summary, what is read of its
  lists, and its capabilities.
* `FleetStatus.LegacyReply.received_whole` — what a client reads of both replies to one server.
-/

namespace FleetStatus

namespace LegacyReply

open Wire

/-! ## Reading a legacy reply -/

/-- A legacy reply **as a client reads it**. -/
structure Received where
  magic : Bytes
  kind : UInt8
  name : String
  motd : String
  playerCount : Int
  maxPlayers : Int
  port : UInt16
  version : String
  protocolVersion : Int
  protocolHash : String
  /-- The players and the plugins, in a full reply. -/
  lists : Option (List PlayerEntry × List PluginEntry)
  capabilities : UInt16
  protocol : UInt8
  /-- How many bytes are left at the end. -/
  left : Nat
  deriving DecidableEq, Inhabited

/-- `n` plugins in turn. -/
def readPlugins : Nat → Reader (List PluginEntry)
  | 0 => pure []
  | n + 1 => do
    let id ← Reader.text
    let version ← Reader.text
    let enabled ← Reader.u8
    return ⟨id, version, enabled = 1⟩ :: (← readPlugins n)

/-- The lists of a full reply: as many players as are announced, and as many plugins. -/
def readLists (kind : UInt8) : Reader (Option (List PlayerEntry × List PluginEntry)) :=
  if kind = LegacyQuery.full.code then do
    let announced ← Reader.i32
    let players ← Decoded.readEntries announced.toInt.toNat
    let announced ← Reader.i32
    let plugins ← readPlugins announced.toInt.toNat
    return some (players, plugins)
  else pure none

/-- Read a legacy reply, field by field. -/
def read : Reader Received := do
  let magic ← Reader.take 8
  let kind ← Reader.u8
  let name ← Reader.text
  let motd ← Reader.text
  let playerCount ← Reader.i32
  let maxPlayers ← Reader.i32
  let port ← Reader.u16
  let version ← Reader.text
  let protocolVersion ← Reader.i32
  let protocolHash ← Reader.text
  let lists ← readLists kind
  let capabilities ← Reader.u16
  let protocol ← Reader.u8
  let left ← Reader.remaining
  return {
    magic, kind, name, motd, playerCount := playerCount.toInt, maxPlayers := maxPlayers.toInt, port,
    version, protocolVersion := protocolVersion.toInt, protocolHash, lists, capabilities, protocol,
    left }

/-- What a client reads of a datagram. -/
def receive (data : Bytes) : Except ReadError Received := read.run data

/-! ## Numbers -/

/-- **A number is capped** at the largest signed one.

**Proof sketch.** The smaller of the two is in range, so it does not come around. -/
theorem toInt_clamp (n : UInt32) : (clamp n).toInt = min (n.toNat : Int) 2147483647 := by
  have hmax : Int32.maxValue.toInt = 2147483647 := rfl
  rw [clamp, hmax, Int32.toInt_ofInt_of_le] <;> omega

/-- So many items are announced as they are, as far as a signed number can tell. -/
theorem toNat_clamp_ofNat {n : Nat} (h : n ≤ 2147483647) :
    (clamp (UInt32.ofNat n)).toInt.toNat = n := by
  rw [toInt_clamp, UInt32.toNat_ofNat_of_lt' (by simp only [UInt32.size]; omega)]
  omega

/-! ## Lists -/

/-- Players whose names are not cut are written by the grammar of lists.

**Proof sketch.** By induction on the players. -/
theorem many_isEntry {ps : List PlayerEntry}
    (h : ∀ p ∈ ps, Text.truncate p.name maxLength = p.name) :
    Form.Many Decoded.IsEntry (ps.flatMap playerBytes) ps := by
  induction ps with
  | nil => exact .nil
  | cons p ps ih =>
    have hname := Form.text_text p.name
    rw [h p List.mem_cons_self] at hname
    rw [List.flatMap_cons]
    exact .cons ⟨Wire.text p.name, hname, rfl⟩ (ih fun q hq => h q (List.mem_cons_of_mem p hq))

/-- Plugins whose texts are not cut are read as they are.

**Proof sketch.** By induction on the plugins. -/
theorem reads_readPlugins {ps : List PluginEntry} (h : ∀ p ∈ ps,
      Text.truncate p.id maxLength = p.id ∧ Text.truncate p.version maxLength = p.version) :
    (readPlugins ps.length).Reads (ps.flatMap pluginBytes) ps := by
  induction ps with
  | nil => exact Reader.reads_pure []
  | cons p ps ih =>
    obtain ⟨hid, hversion⟩ := h p List.mem_cons_self
    have hreadId := Reader.reads_text p.id
    have hreadVersion := Reader.reads_text p.version
    rw [hid] at hreadId
    rw [hversion] at hreadVersion
    have hrest := ih fun q hq => h q (List.mem_cons_of_mem p hq)
    have henabled : decide ((if p.enabled then 1 else 0 : UInt8) = 1) = p.enabled := by
      cases p.enabled <;> rfl
    have hall : (readPlugins (ps.length + 1)).Reads (Wire.text p.id ++ (Wire.text p.version ++
        (Wire.u8 (if p.enabled then 1 else 0) ++ ps.flatMap pluginBytes)))
        (⟨p.id, p.version, decide ((if p.enabled then 1 else 0 : UInt8) = 1)⟩ :: ps) :=
      hreadId.bind (hreadVersion.bind ((Reader.reads_u8 _).bind (hrest.map _)))
    rw [henabled] at hall
    simp only [List.flatMap_cons, pluginBytes, List.append_assoc]
    exact hall

/-- **Both lists are read as they are**, if no text in them is cut and their lengths can be told.

**Proof sketch.** Each length is told as it is, and as many items are read as were written. -/
theorem reads_readLists {players : List PlayerEntry} {plugins : List PluginEntry}
    (hplayers : ∀ p ∈ players, Text.truncate p.name maxLength = p.name)
    (hplugins : ∀ p ∈ plugins,
      Text.truncate p.id maxLength = p.id ∧ Text.truncate p.version maxLength = p.version)
    (hnplayers : players.length ≤ 2147483647) (hnplugins : plugins.length ≤ 2147483647) :
    (readLists LegacyQuery.full.code).Reads
      (Wire.i32 (clamp (UInt32.ofNat players.length)) ++ (players.flatMap playerBytes ++
        (Wire.i32 (clamp (UInt32.ofNat plugins.length)) ++ plugins.flatMap pluginBytes)))
      (some (players, plugins)) := by
  rw [readLists, if_pos rfl]
  refine (Reader.reads_i32 _).bind ?_
  rw [toNat_clamp_ofNat hnplayers]
  refine ((Decoded.follows_readEntries _).reads ⟨rfl, many_isEntry hplayers⟩).bind ?_
  refine (Reader.reads_i32 _).bind ?_
  rw [toNat_clamp_ofNat hnplugins]
  exact (reads_readPlugins hplugins).map _

/-! ## Whole replies -/

/-- The reply **as a client should read it**, with the given lists. -/
def received (reply : LegacyReply) (query : LegacyQuery)
    (lists : Option (List PlayerEntry × List PluginEntry)) : Received where
  magic := [0x48, 0x59, 0x52, 0x45, 0x50, 0x4c, 0x59, 0x00]
  kind := match query with
    | .basic => 0
    | .full => 1
  name := reply.info.name
  motd := reply.info.motd
  playerCount := min reply.info.playerCount.toNat 2147483647
  maxPlayers := min reply.info.maxPlayers.toNat 2147483647
  port := reply.port
  version := reply.info.version
  protocolVersion := min reply.info.protocolVersion.toNat 2147483647
  protocolHash := reply.info.protocolHash
  lists
  capabilities := if reply.network then 3 else 1
  protocol := 1
  left := 0

/-- The bytes of a full reply **without players and plugins**: the magic bytes and the type, the
texts behind their lengths, the numbers, and the lengths of the lists with the capabilities and the
version. -/
def bareSize (info : ServerInfo) : Nat :=
  9 + (2 + info.name.utf8ByteSize) + (2 + info.motd.utf8ByteSize) + 8 + 2 +
    (2 + info.version.utf8ByteSize) + 4 + (2 + info.protocolHash.utf8ByteSize) + 11

variable {reply : LegacyReply} {query : LegacyQuery}

/-- **A reply is read as its summary, its lists and its capabilities**, if no text of the summary is
cut and the lists are read as something.

**Proof sketch.** The fields of the summary are written as texts that are not cut and as capped
numbers, and they are read in the same order. The lists come next, by assumption, and then the
capabilities, after which nothing is left. -/
theorem receive_encode (hbare : bareSize reply.info ≤ Reply.safeSize) {listBytes : Bytes}
    {lists : Option (List PlayerEntry × List PluginEntry)}
    (hlists : (readLists query.code).Reads listBytes lists) :
    receive (summaryBytes query reply ++ listBytes ++ reply.trailer) =
      .ok (reply.received query lists) := by
  have hsafe : Reply.safeSize = 1400 := rfl
  have hmax : maxLength = 65535 := rfl
  rw [bareSize, hsafe] at hbare
  have hread : read.Finishes (magic ++ (Wire.u8 query.code ++ (Wire.text reply.info.name ++
      (Wire.text reply.info.motd ++ (Wire.i32 (clamp reply.info.playerCount) ++
      (Wire.i32 (clamp reply.info.maxPlayers) ++ (Wire.u16 reply.port ++
      (Wire.text reply.info.version ++ (Wire.i32 (clamp reply.info.protocolVersion) ++
      (Wire.text reply.info.protocolHash ++ (listBytes ++
      (Wire.u16
        (if reply.network then tokenCapability ||| networkCapability else tokenCapability) ++
      (Wire.u8 Reply.version ++ []))))))))))))) (· = .ok (reply.received query lists)) := by
    refine (Reader.reads_take (show magic.length = 8 from rfl)).bind_finishes ?_
    refine (Reader.reads_u8 _).bind_finishes ?_
    refine (Reader.reads_text_of_le (by omega)).bind_finishes ?_
    refine (Reader.reads_text_of_le (by omega)).bind_finishes ?_
    refine (Reader.reads_i32 _).bind_finishes ?_
    refine (Reader.reads_i32 _).bind_finishes ?_
    refine (Reader.reads_u16 _).bind_finishes ?_
    refine (Reader.reads_text_of_le (by omega)).bind_finishes ?_
    refine (Reader.reads_i32 _).bind_finishes ?_
    refine (Reader.reads_text_of_le (by omega)).bind_finishes ?_
    refine hlists.bind_finishes ?_
    refine (Reader.reads_u16 _).bind_finishes ?_
    refine (Reader.reads_u8 _).bind_finishes ?_
    refine Reader.finishes_remaining_bind fun c _ => ?_
    simp only [toInt_clamp, Reader.pure_apply, received]
    cases query <;> cases reply.network <;> rfl
  have hrun := hread.run
  simpa only [receive, summaryBytes, trailer, List.append_assoc, List.append_nil] using hrun

/-- A reply without lists is 42 bytes and its texts long. -/
theorem bareSize_eq (info : ServerInfo) : bareSize info = 42 + info.textBytes := by
  rw [bareSize, ServerInfo.textBytes]
  omega

/-- What is left for the lists is what is left of the planned size. -/
theorem listBudget_eq (hbare : bareSize reply.info ≤ Reply.safeSize) :
    listBudget (summaryBytes query reply).length = Reply.safeSize - bareSize reply.info := by
  have hsafe : Reply.safeSize = 1400 := rfl
  have hmax : maxLength = 65535 := rfl
  have htexts := reply.info.sentBytes_cases
  rw [bareSize_eq] at hbare ⊢
  rw [listBudget, length_summaryBytes]
  omega

/-- A text that has room in a datagram is not cut. -/
theorem truncate_eq_self_of_textSize {s : String} (h : textSize s ≤ Reply.safeSize) :
    Text.truncate s maxLength = s := by
  refine truncate_eq_self_of_length_text ?_
  rw [length_text_eq]
  exact Nat.le_trans h (by decide)

/-- **Lists that fit are read as they are.**

**Proof sketch.** Lists within a budget have no text that is cut, as every text is a part of the
budget, and few enough items for a signed number. -/
theorem reads_listBytes (reply : LegacyReply) {budget : Nat} (hbudget : budget ≤ Reply.safeSize) :
    (readLists LegacyQuery.full.code).Reads (reply.listBytes budget)
      (some (reply.listedPlayers budget, reply.listedPlugins budget)) := by
  have hsafe : Reply.safeSize = 1400 := rfl
  have hplayers : totalSize playerSize (reply.listedPlayers budget) ≤ Reply.safeSize :=
    Nat.le_trans (totalSize_takeWithin_le _ _ _) hbudget
  have hplugins : totalSize pluginSize (reply.listedPlugins budget) ≤ Reply.safeSize :=
    Nat.le_trans (totalSize_takeWithin_le _ _ _) (Nat.le_trans (Nat.sub_le _ _) hbudget)
  have hnplayers : (reply.listedPlayers budget).length ≤ Reply.safeSize :=
    Nat.le_trans (length_le_totalSize (fun _ => Nat.succ_pos _) _) hplayers
  have hnplugins : (reply.listedPlugins budget).length ≤ Reply.safeSize :=
    Nat.le_trans (length_le_totalSize (fun _ => Nat.succ_pos _) _) hplugins
  have hplayerTexts : ∀ p ∈ reply.listedPlayers budget,
      Text.truncate p.name maxLength = p.name := by
    intro p hp
    have hfits := Nat.le_trans (le_totalSize_of_mem hp) hplayers
    exact truncate_eq_self_of_textSize (Nat.le_of_add_right_le hfits)
  have hpluginTexts : ∀ p ∈ reply.listedPlugins budget,
      Text.truncate p.id maxLength = p.id ∧ Text.truncate p.version maxLength = p.version := by
    intro p hp
    have hfits := Nat.le_trans (le_totalSize_of_mem hp) hplugins
    rw [pluginSize] at hfits
    exact ⟨truncate_eq_self_of_textSize (by omega), truncate_eq_self_of_textSize (by omega)⟩
  have hreads := reads_readLists hplayerTexts hpluginTexts (by omega) (by omega)
  simpa only [listBytes, List.append_assoc] using hreads

/-- **What a client reads of both replies to one server**, whatever its lists and numbers are, if
the texts of its summary leave room for the rest of a bare reply. Both keep to the planned size, and
both are read to the end as they were told, the numbers capped at the largest signed one. In the
full reply the players are the longest part at the front of the list whose bytes fit in the room
that is left, and the plugins the longest part that fits in what the players leave of it.

**Proof sketch.** No text of such a reply is long enough to be cut: those of the summary by
assumption, those of the lists because they fit. So every field takes the bytes that were counted
for it, and is read as it is. -/
theorem received_whole (reply : LegacyReply) (hbare : bareSize reply.info ≤ Reply.safeSize) :
    ∃ players plugins,
      LongestFitting playerBytes (Reply.safeSize - bareSize reply.info) reply.players players ∧
      LongestFitting pluginBytes
        (Reply.safeSize - bareSize reply.info - (players.flatMap playerBytes).length)
        reply.plugins plugins ∧
      (encode .full reply).length ≤ Reply.safeSize ∧
      receive (encode .full reply) = .ok (reply.received .full (some (players, plugins))) ∧
      (encode .basic reply).length ≤ Reply.safeSize ∧
      receive (encode .basic reply) = .ok (reply.received .basic none) := by
  have hbudget : listBudget (summaryBytes .full reply).length =
      Reply.safeSize - bareSize reply.info := listBudget_eq hbare
  have htexts : 42 + reply.info.textBytes ≤ Reply.safeSize := bareSize_eq reply.info ▸ hbare
  refine ⟨reply.listedPlayers (Reply.safeSize - bareSize reply.info),
    reply.listedPlugins (Reply.safeSize - bareSize reply.info),
    longestFitting_takeWithin length_playerBytes _ _, ?_, ?_, ?_, ?_, ?_⟩
  · rw [length_flatMap length_playerBytes]
    exact longestFitting_takeWithin length_pluginBytes _ _
  · exact (length_encode_full_le_iff reply le_rfl (by decide)).2 htexts
  · have hlists := reads_listBytes reply (Nat.sub_le Reply.safeSize (bareSize reply.info))
    rw [← hbudget] at hlists ⊢
    exact receive_encode hbare hlists
  · refine (length_encode_basic_le_iff reply (by decide)).2 (Nat.le_trans ?_ htexts)
    exact Nat.add_le_add_right (by decide) _
  · have hnone : (readLists LegacyQuery.basic.code).Reads [] none := Reader.reads_pure none
    exact receive_encode hbare hnone

/-- The second player does not fit, so the third is not listed, though there is room; the plugin
fits in what the first player leaves. The number of players does not fit in a signed number. -/
theorem received_whole_one_player :
    let info : ServerInfo :=
      { name := "Zürich ☃", motd := "", playerCount := 4294967295, maxPlayers := 100,
        version := "1.0", protocolVersion := 7, protocolHash := "𝄞", address := none }
    let players : List PlayerEntry :=
      [⟨⟨1⟩, "a"⟩, ⟨⟨2⟩, String.ofList (List.replicate 1305 'b')⟩, ⟨⟨3⟩, "c"⟩]
    let plugins : List PluginEntry := [⟨"fleet:query", "0.1.0", true⟩]
    let reply : LegacyReply := { info, port := 5520, players, plugins, network := true }
    bareSize reply.info = 60 ∧ 60 ≤ Reply.safeSize ∧
      (encode .full reply).length = 100 ∧
      LongestFitting playerBytes 1340 reply.players [⟨⟨1⟩, "a"⟩] ∧
      LongestFitting pluginBytes 1321 reply.plugins reply.plugins ∧
      receive (encode .full reply) = .ok
        { magic := [0x48, 0x59, 0x52, 0x45, 0x50, 0x4c, 0x59, 0x00], kind := 1, name := "Zürich ☃",
          motd := "", playerCount := 2147483647, maxPlayers := 100, port := 5520, version := "1.0",
          protocolVersion := 7, protocolHash := "𝄞",
          lists := some ([⟨⟨1⟩, "a"⟩], [⟨"fleet:query", "0.1.0", true⟩]), capabilities := 3,
          protocol := 1, left := 0 } := by
  intro info players plugins reply
  have hbare : bareSize reply.info = 60 := by decide +kernel
  have hfits : 60 ≤ Reply.safeSize := by decide
  have hleft : Reply.safeSize - bareSize reply.info = 1340 := by rw [hbare]; rfl
  have hlisted : receive (encode .full reply) =
      .ok (reply.received .full (some ([⟨⟨1⟩, "a"⟩], plugins))) := by decide +kernel
  obtain ⟨ps, qs, hps, hqs, -, hread, -, -⟩ := received_whole reply (hbare ▸ hfits)
  have hsame := congrArg Received.lists (Except.ok.inj (hlisted.symm.trans hread))
  obtain ⟨rfl, rfl⟩ := Prod.mk.inj (Option.some.inj hsame)
  rw [hleft] at hps hqs
  exact ⟨hbare, hfits, by decide +kernel, hps, hqs, hlisted⟩

end LegacyReply

end FleetStatus
