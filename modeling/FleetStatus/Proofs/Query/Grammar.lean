import FleetStatus.Proofs.Query.Decoding
import FleetStatus.Proofs.Wire.Form

set_option relaxedAutoImplicit false
set_option autoImplicit false

/-!
# The grammar of replies

Which datagrams are replies, and what they tell, without a reader: a header, a counted payload, and
in the payload one block after the other, each with a counted body. What is nested is nested by its
bytes: an entry is part of its body, a body of its block and a block of its payload, so no number in
a datagram reaches further than the bytes that it counts.

One number does reach further, though not in the datagram: the client sets room aside for all players
that a list announces, whatever is left of its body. A list of a reply is never too long for that, as
its players are all there. But what is no reply may announce more players than any client has room
for, and then it is not refused: the client comes to its end.

## Main definitions

* `FleetStatus.Decoded.IsInfo`, `FleetStatus.Decoded.IsList` — the bodies of blocks.
* `FleetStatus.Decoded.IsBlock` — a block with what it holds.
* `FleetStatus.Decoded.IsReply` — a datagram with its contents.
* `FleetStatus.Decoded.Exhausts` — a datagram that a client has no room for.

## Main results

* `FleetStatus.Decoded.follows_readBlock`, `FleetStatus.Decoded.reads_block` — what one block is
  read as.
* `FleetStatus.Decoded.readBlocks_eq_ok_iff` — what the blocks of a payload are read as, and when
  there is no room for them.
* `FleetStatus.Decoded.parse_grammar` — a datagram is read as the contents that the grammar gives
  it; one without contents is refused, unless it announces a list that there is no room for.
-/

namespace FleetStatus.Decoded

open Wire Wire.Form

/-! ## Bodies -/

/-- The end of the body of a summary. With the address flag, what is left is an address unless
nothing is left; without it, nobody looks at what is left. -/
def IsAddress (withAddress : Bool) (tail : Bytes) : Option (String × UInt16) → Prop
  | none => withAddress = true → tail = []
  | some (host, port) => withAddress = true ∧
    ∃ hostBytes rest, Form.text hostBytes host ∧ tail = hostBytes ++ (u16 port ++ rest)

/-- The **body of a summary**. -/
def IsInfo (withAddress : Bool) (body : Bytes) (info : ServerInfo) : Prop :=
  ∃ name motd version hash tail : Bytes,
    body = name ++ (motd ++ (u32 info.playerCount ++ (u32 info.maxPlayers ++
      (version ++ (u32 info.protocolVersion ++ (hash ++ tail)))))) ∧
    Form.text name info.name ∧ Form.text motd info.motd ∧ Form.text version info.version ∧
    Form.text hash info.protocolHash ∧ IsAddress withAddress tail info.address

/-- A player in a list: the name, and the identity in sixteen bytes. -/
def IsEntry (bs : Bytes) (p : PlayerEntry) : Prop :=
  ∃ name, Form.text name p.name ∧ bs = name ++ p.uuid.toBytes

/-- The **body of a list of players**: as many players as it tells, and what may follow them. -/
def IsList (body : Bytes) (list : PlayerList) : Prop :=
  ∃ (returned : UInt32) (entries rest : Bytes), returned.toNat = list.players.length ∧
    Many IsEntry entries list.players ∧
    body = u32 list.total ++ (u32 returned ++ (u32 list.offset ++ (entries ++ rest)))

/-! ## Blocks -/

/-- What a block holds. -/
inductive Content where
  | summary (info : ServerInfo)
  | players (list : PlayerList)

namespace Content

/-- The summary in a block. -/
def summary? : Content → Option ServerInfo
  | summary info => some info
  | players _ => none

/-- The list of players in a block. -/
def players? : Content → Option PlayerList
  | summary _ => none
  | players list => some list

/-- There is room for the players of the block. -/
def HasRoom (room : Room) : Content → Prop
  | summary _ => True
  | players list => playerRoom * list.players.length ≤ room.bytes

end Content

/-- The body of a block, by the kind of the block. There are two kinds. -/
inductive IsBody (withAddress : Bool) : UInt16 → Bytes → Content → Prop where
  | summary {body : Bytes} {info : ServerInfo} (h : IsInfo withAddress body info) :
    IsBody withAddress Reply.serverInfoBlock body (.summary info)
  | players {body : Bytes} {list : PlayerList} (h : IsList body list) :
    IsBody withAddress Reply.playerListBlock body (.players list)

/-- A **block**: its kind, and its body behind the length. -/
def IsBlock (withAddress : Bool) (bs : Bytes) (content : Content) : Prop :=
  ∃ (kind : UInt16) (counted body : Bytes), Form.counted counted body ∧
    IsBody withAddress kind body content ∧ bs = u16 kind ++ counted

/-! ## Replies -/

/-- A **reply**: the magic bytes, the header and the counted payload, which is one block after the
other. The last summary and the last list of players count. What follows the payload may be
anything. -/
def IsReply (data : Bytes) (d : Decoded) : Prop :=
  ∃ (counted payload rest : Bytes) (contents : List Content),
    data = Reply.magic ++ (u8 d.version ++ (u16 d.flags ++ (u32 d.requestId ++ (counted ++ rest)))) ∧
    Form.counted counted payload ∧ Many (IsBlock (d.hasFlag Reply.addressFlag)) payload contents ∧
    d.serverInfo = (contents.filterMap Content.summary?).getLast? ∧
    d.playerList = (contents.filterMap Content.players?).getLast?

/-! ## No count reaches further than its bytes -/

/-- A player has bytes for the length of the name and for the identity. -/
theorem length_le_of_isEntry {bs : Bytes} {p : PlayerEntry} (h : IsEntry bs p) :
    leastEntry ≤ bs.length := by
  obtain ⟨name, hname, rfl⟩ := h
  rw [List.length_append, length_counted_eq hname, Uuid.length_toBytes, leastEntry]
  omega

/-- A body has bytes for every player that is read from it. -/
theorem IsList.length_le {body : Bytes} {list : PlayerList} (h : IsList body list) :
    12 + 18 * list.players.length ≤ body.length := by
  obtain ⟨returned, entries, rest, -, hmany, rfl⟩ := h
  have hentries := hmany.mul_length_le fun _ _ => length_le_of_isEntry
  simp only [List.length_append, u32, Bytes.length_little, leastEntry] at hentries ⊢
  omega

/-- A reply has bytes for every player that is read from it, whatever it tells.

**Proof sketch.** The list is what one of the blocks holds. Its body is a part of its block, its
block a part of the payload, and the payload a part of the datagram. -/
theorem IsReply.length_le {data : Bytes} {d : Decoded} {list : PlayerList} (h : IsReply data d)
    (hlist : d.playerList = some list) :
    Reply.headerSize + Reply.blockHeaderSize + 12 + 18 * list.players.length ≤ data.length := by
  obtain ⟨counted, payload, rest, contents, rfl, hcounted, hmany, -, hlast⟩ := h
  rw [hlast] at hlist
  obtain ⟨content, hmem, hcontent⟩ := List.mem_filterMap.1 (List.mem_of_getLast? hlist)
  obtain ⟨bs, ⟨kind, blockBytes, body, hblockBytes, hbody, rfl⟩, hle⟩ := hmany.exists_of_mem hmem
  cases hbody with
  | summary => cases hcontent
  | players hplayers =>
    cases hcontent
    have hfits := hplayers.length_le
    have hblock := length_counted_eq hblockBytes
    have hpayload := length_counted_eq hcounted
    simp only [List.length_append, Reply.magic, List.length_cons, List.length_nil, u8, u16, u32,
      Bytes.length_little, Reply.headerSize, Reply.blockHeaderSize] at hle ⊢
    omega

/-! ## Datagrams that there is no room for -/

variable (room : Room)

/-- The body of a list that announces so many players that there is **no room** for them. The
players need not be there. -/
def Lacks (body : Bytes) (bytes : Nat) : Prop :=
  room.bytes < bytes ∧ ∃ (total returned offset : UInt32) (rest : Bytes),
    bytes = playerRoom * returned.toNat ∧ body = u32 total ++ (u32 returned ++ (u32 offset ++ rest))

/-- The block of such a list. -/
def BlockLacks (bs : Bytes) (bytes : Nat) : Prop :=
  ∃ counted body : Bytes, Form.counted counted body ∧ Lacks room body bytes ∧
    bs = u16 Reply.playerListBlock ++ counted

/-- A payload with such a list: there are only blocks before it, and anything may follow it. -/
def PayloadLacks (withAddress : Bool) (payload : Bytes) (bytes : Nat) : Prop :=
  ∃ (front block rest : Bytes) (contents : List Content),
    Many (IsBlock withAddress) front contents ∧ BlockLacks room block bytes ∧
    payload = front ++ (block ++ rest)

/-- A datagram that **exhausts** the room of a client, and the bytes that it asks for: a header as
that of a reply, and a payload with a list that there is no room for. -/
def Exhausts (data : Bytes) (bytes : Nat) : Prop :=
  ∃ (version : UInt8) (flags : UInt16) (requestId : UInt32) (counted payload rest : Bytes),
    data = Reply.magic ++ (u8 version ++ (u16 flags ++ (u32 requestId ++ (counted ++ rest)))) ∧
    Form.counted counted payload ∧ PayloadLacks room (flags &&& Reply.addressFlag ≠ 0) payload bytes

variable {room}

/-- What there is room for, and what there is none for. -/
def granted {α : Type} (holds : Form α) (lacks : Form Nat) : Form (Granted α)
  | bs, .ok a => holds bs a
  | bs, .error bytes => lacks bs bytes

/-! ## Bodies are read by their grammar -/

/-- The end of a summary is looked at only if the flags ask for it.

**Proof sketch.** By whether the flags ask for an address and bytes are left. If so, a text and a
number follow; if not, the grammar of an end without an address is met by what is left. -/
theorem accepts_address (withAddress : Bool) (build : Option (String × UInt16) → ServerInfo) :
    (Reader.remaining >>= fun left =>
      if withAddress && left > 0 then do
        let host ← Reader.text
        let port ← Reader.u16
        pure (build (some (host, port)))
      else pure (build none)).Accepts
      fun tail info => ∃ address, IsAddress withAddress tail address ∧ info = build address := by
  have haddress := Reader.follows_text.bind_accepts fun host =>
    (Reader.follows_u16.map fun port => build (some (host, port))).accepts
  have hnone := (Reader.follows_pure (build none)).accepts
  intro c info
  show ((if withAddress && c.remaining > 0 then _ else _ : Reader ServerInfo) c).1 = _ ↔ _
  rw [c.remaining_eq]
  split
  next hlooks =>
    rw [Bool.and_eq_true, decide_eq_true_iff] at hlooks
    -- an address is asked for and there are bytes left
    refine (haddress c info).trans ?_
    constructor
    · rintro ⟨host, hostBytes, _, hhost, ⟨_, rest, ⟨port, rfl, rfl⟩, rfl⟩, htail⟩
      exact ⟨some (host, port), ⟨hlooks.1, hostBytes, rest, hhost, htail⟩, rfl⟩
    · rintro ⟨_ | ⟨host, port⟩, hend, rfl⟩
      · rw [hend hlooks.1] at hlooks
        exact absurd hlooks.2 (Nat.lt_irrefl 0)
      · obtain ⟨-, hostBytes, rest, hhost, htail⟩ := hend
        exact ⟨host, hostBytes, _, hhost, ⟨u16 port, rest, ⟨port, rfl, rfl⟩, rfl⟩, htail⟩
  next hskips =>
    rw [Bool.and_eq_true, decide_eq_true_iff, not_and] at hskips
    -- nothing is looked at
    refine (hnone c info).trans ?_
    constructor
    · rintro ⟨_, rest, ⟨rfl, rfl⟩, htail⟩
      refine ⟨none, fun hflag => ?_, rfl⟩
      exact List.length_eq_zero_iff.1 (Nat.eq_zero_of_not_pos (hskips hflag))
    · rintro ⟨_ | ⟨host, port⟩, hend, rfl⟩
      · exact ⟨[], c.rest, ⟨rfl, rfl⟩, rfl⟩
      · obtain ⟨hflag, hostBytes, rest, hhost, htail⟩ := hend
        have hlong := length_counted_eq hhost
        refine absurd ?_ (hskips hflag)
        rw [htail, List.length_append]
        omega

/-- The body of a summary.

**Proof sketch.** The fields follow one another, each by its own form, and the end is the optional
address. -/
theorem accepts_readInfo (withAddress : Bool) :
    (readInfo withAddress).Accepts (IsInfo withAddress) := by
  refine (Reader.follows_text.bind_accepts fun name => Reader.follows_text.bind_accepts fun motd =>
    Reader.follows_u32.bind_accepts fun playerCount => Reader.follows_u32.bind_accepts
    fun maxPlayers => Reader.follows_text.bind_accepts fun version =>
    Reader.follows_u32.bind_accepts fun protocolVersion => Reader.follows_text.bind_accepts
    fun protocolHash => accepts_address withAddress fun address =>
      { name, motd, playerCount, maxPlayers, version, protocolVersion, protocolHash,
        address }).congr fun body info => ?_
  constructor
  · rintro ⟨name, nameBytes, _, hname, ⟨motd, motdBytes, _, hmotd, ⟨_, _, _, rfl, ⟨_, _, _, rfl,
      ⟨version, versionBytes, _, hversion, ⟨_, _, _, rfl, ⟨hash, hashBytes, tail, hhash,
      ⟨address, haddress, rfl⟩, rfl⟩, rfl⟩, rfl⟩, rfl⟩, rfl⟩, rfl⟩, rfl⟩
    exact ⟨nameBytes, motdBytes, versionBytes, hashBytes, tail, rfl, hname, hmotd, hversion, hhash,
      haddress⟩
  · rintro ⟨nameBytes, motdBytes, versionBytes, hashBytes, tail, rfl, hname, hmotd, hversion, hhash,
      haddress⟩
    exact ⟨_, nameBytes, _, hname, ⟨_, motdBytes, _, hmotd, ⟨_, _, _, rfl, ⟨_, _, _, rfl,
      ⟨_, versionBytes, _, hversion, ⟨_, _, _, rfl, ⟨_, hashBytes, tail, hhash,
      ⟨info.address, haddress, rfl⟩, rfl⟩, rfl⟩, rfl⟩, rfl⟩, rfl⟩, rfl⟩, rfl⟩

/-- So many players in turn.

**Proof sketch.** By induction on their number: a name, an identity and then the other players. -/
theorem follows_readEntries (n : Nat) :
    (readEntries n).Follows fun bs players => players.length = n ∧ Many IsEntry bs players := by
  induction n with
  | zero =>
    refine (Reader.follows_pure []).congr fun bs players => ?_
    constructor
    · rintro ⟨rfl, rfl⟩
      exact ⟨rfl, .nil⟩
    · rintro ⟨hlength, hmany⟩
      obtain rfl := List.length_eq_zero_iff.1 hlength
      cases hmany
      exact ⟨rfl, rfl⟩
  | succ n ih =>
    refine (Reader.follows_text.bind fun name => Reader.follows_uuid.bind fun uuid =>
      ih.map fun players => ⟨uuid, name⟩ :: players).congr fun bs players => ?_
    constructor
    · rintro ⟨name, nameBytes, _, hname, ⟨uuid, _, back, rfl, ⟨players, ⟨hlength, hmany⟩, rfl⟩, rfl⟩,
        rfl⟩
      refine ⟨congrArg Nat.succ hlength, ?_⟩
      rw [← List.append_assoc]
      exact .cons ⟨nameBytes, hname, rfl⟩ hmany
    · rintro ⟨hlength, hmany⟩
      cases hmany with
      | nil => cases hlength
      | cons head tail =>
        obtain ⟨nameBytes, hname, rfl⟩ := head
        refine ⟨_, nameBytes, _, hname,
          ⟨_, _, _, rfl, ⟨_, ⟨Nat.succ.inj hlength, tail⟩, rfl⟩, rfl⟩, ?_⟩
        rw [List.append_assoc]

/-- What follows the numbers of a list: all players that are announced, or nothing that is read when
there is no room for them.

**Proof sketch.** By whether there is room for as many players as are announced. With room they are
read in turn; without it nothing more is read, and the outcome is how much room was asked for. -/
theorem accepts_announced (total returned offset : UInt32) :
    (if playerRoom * returned.toNat ≤ room.bytes then do
        let players ← readEntries returned.toNat
        pure (.ok { total, offset, players })
      else pure (.error (playerRoom * returned.toNat)) : Reader (Granted PlayerList)).Accepts
    (granted (fun tail list => playerRoom * returned.toNat ≤ room.bytes ∧
        list.total = total ∧ list.offset = offset ∧ list.players.length = returned.toNat ∧
        ∃ entries rest, Many IsEntry entries list.players ∧ tail = entries ++ rest)
      fun _ bytes => room.bytes < bytes ∧ bytes = playerRoom * returned.toNat) := by
  split
  next hroom =>
    refine ((follows_readEntries returned.toNat).map fun players =>
      (.ok { total, offset, players } : Granted PlayerList)).accepts.congr fun tail o => ?_
    constructor
    · rintro ⟨entries, rest, ⟨players, ⟨hlength, hmany⟩, rfl⟩, rfl⟩
      exact ⟨hroom, rfl, rfl, hlength, entries, rest, hmany, rfl⟩
    · intro h
      cases o with
      | error bytes => exact absurd (h.2 ▸ h.1) (Nat.not_lt.2 hroom)
      | ok list =>
        obtain ⟨-, rfl, rfl, hlength, entries, rest, hmany, rfl⟩ := h
        exact ⟨entries, rest, ⟨list.players, ⟨hlength, hmany⟩, rfl⟩, rfl⟩
  next hroom =>
    refine (Reader.follows_pure (Except.error (playerRoom * returned.toNat) :
      Granted PlayerList)).accepts.congr fun tail o => ?_
    constructor
    · rintro ⟨_, _, ⟨-, rfl⟩, -⟩
      exact ⟨Nat.lt_of_not_le hroom, rfl⟩
    · intro h
      cases o with
      | ok list => exact absurd h.1 hroom
      | error bytes => exact ⟨[], tail, ⟨rfl, h.2 ▸ rfl⟩, rfl⟩

/-- **The body of a list** is read by its grammar where there is room for all players that it
announces.

**Proof sketch.** The three numbers follow one another, and what is read behind them is told by
`accepts_announced`. A list that was read whole announces as many players as it has. -/
theorem accepts_readList : (readList room).Accepts (granted
    (fun body list => IsList body list ∧ playerRoom * list.players.length ≤ room.bytes)
    (Lacks room)) := by
  refine (Reader.follows_u32.bind_accepts fun total => Reader.follows_u32.bind_accepts fun returned =>
    Reader.follows_u32.bind_accepts fun offset => accepts_announced total returned offset).congr
    fun body o => ?_
  cases o with
  | ok list =>
    constructor
    · rintro ⟨_, _, _, rfl, ⟨returned, _, _, rfl, ⟨_, _, _, rfl,
        ⟨hroom, rfl, rfl, hlength, entries, rest, hmany, rfl⟩, rfl⟩, rfl⟩, rfl⟩
      exact ⟨⟨returned, entries, rest, hlength.symm, hmany, rfl⟩, hlength ▸ hroom⟩
    · rintro ⟨⟨returned, entries, rest, hlength, hmany, rfl⟩, hroom⟩
      exact ⟨_, _, _, rfl, ⟨returned, _, _, rfl, ⟨_, _, _, rfl,
        ⟨hlength ▸ hroom, rfl, rfl, hlength.symm, entries, rest, hmany, rfl⟩, rfl⟩, rfl⟩, rfl⟩
  | error bytes =>
    constructor
    · rintro ⟨total, _, _, rfl, ⟨returned, _, _, rfl, ⟨offset, _, tail, rfl, ⟨hroom, rfl⟩, rfl⟩,
        rfl⟩, rfl⟩
      exact ⟨hroom, total, returned, offset, tail, rfl, rfl⟩
    · rintro ⟨hroom, total, returned, offset, tail, rfl, rfl⟩
      exact ⟨total, _, _, rfl, ⟨returned, _, _, rfl, ⟨offset, _, tail, rfl, ⟨hroom, rfl⟩, rfl⟩,
        rfl⟩, rfl⟩

/-! ## Blocks are read by their grammar -/

/-- Put what a block holds into the contents. -/
def put (d : Decoded) : Content → Decoded
  | .summary info => { d with serverInfo := some info }
  | .players list => { d with playerList := some list }

/-- What a block holds changes no flag. -/
theorem hasFlag_put (d : Decoded) (content : Content) (flag : UInt16) :
    (d.put content).hasFlag flag = d.hasFlag flag := by
  cases content <;> rfl

/-- What blocks hold is put into the contents one after the other, so the last of each kind
stays.

**Proof sketch.** By induction on the contents. Each replaces what came before of its kind. -/
theorem foldl_put (d : Decoded) (contents : List Content) :
    contents.foldl put d =
      { d with
        serverInfo := (contents.filterMap Content.summary?).getLast?.or d.serverInfo
        playerList := (contents.filterMap Content.players?).getLast?.or d.playerList } := by
  induction contents generalizing d with
  | nil => rfl
  | cons content contents ih =>
    rw [List.foldl_cons, ih]
    cases content with
    | summary info => simp [put, Content.summary?, Content.players?, List.getLast?_cons]
    | players list => simp [put, Content.summary?, Content.players?, List.getLast?_cons]

/-- What is inside a body is told by the body alone. -/
theorem follows_inside {α : Type} {r : Reader α} {form : Form α} (h : r.Accepts form)
    (body : Bytes) : (inside body r).Follows (empty (form body)) where
  reads := by
    rintro _ a ⟨rfl, hform⟩
    exact reads_inside (h.run.2 hform)
  form_of_eq_ok := by
    intro c c' a hok
    rw [inside, Prod.mk.injEq] at hok
    exact ⟨[], ⟨rfl, h.run.1 hok.1⟩, congrArg Cursor.rest hok.2⟩

/-- **What a block holds has room**, as its players are all in its body.

**Proof sketch.** A body is no longer than two bytes can count, and each player takes some of it. The
room of a client is enough for as many players as that makes. -/
theorem IsBody.hasRoom (room : Room) {withAddress : Bool} {kind : UInt16} {body : Bytes}
    {content : Content} (h : IsBody withAddress kind body content)
    (hlength : body.length ≤ maxLength) : content.HasRoom room := by
  cases h with
  | summary => trivial
  | @players _ list hlist =>
    have hentries := hlist.length_le
    have hfew : list.players.length ≤ maxLength / leastEntry := by
      rw [Nat.le_div_iff_mul_le (by decide), leastEntry]
      omega
    exact Nat.le_trans (Nat.mul_le_mul_left playerRoom hfew) room.enough

/-- What a body comes to by the kind of its block: what it holds, if there is room for that, or the
room that its list asks for in vain. -/
def bodyForm (room : Room) (d : Decoded) (kind : UInt16) (body : Bytes) : Form (Granted Decoded) :=
  granted
    (empty fun d' => ∃ content, IsBody (d.hasFlag Reply.addressFlag) kind body content ∧
      content.HasRoom room ∧ d' = d.put content)
    (empty fun bytes => kind = Reply.playerListBlock ∧ Lacks room body bytes)

/-- The body of a summary is put into the contents, and needs no room. -/
theorem follows_summaryBody (d : Decoded) (body : Bytes) :
    (do let info ← inside body (readInfo (d.hasFlag Reply.addressFlag))
        return .ok { d with serverInfo := some info } : Reader (Granted Decoded)).Follows
      (bodyForm room d Reply.serverInfoBlock body) := by
  refine ((follows_inside (accepts_readInfo _) body).map _).congr fun bs o => ?_
  constructor
  · rintro ⟨info, ⟨rfl, hinfo⟩, rfl⟩
    exact ⟨rfl, .summary info, .summary hinfo, trivial, rfl⟩
  · intro h
    cases o with
    | ok d' =>
      obtain ⟨rfl, _, hinfo | _, -, rfl⟩ := h
      exact ⟨_, ⟨rfl, hinfo⟩, rfl⟩
    | error bytes => exact absurd h.2.1 (by decide)

/-- The body of a list is put into the contents, if there is room for it. -/
theorem follows_listBody (d : Decoded) (body : Bytes) :
    (do let list ← inside body (readList room)
        return list.map fun list => { d with playerList := some list } :
      Reader (Granted Decoded)).Follows (bodyForm room d Reply.playerListBlock body) := by
  refine ((follows_inside accepts_readList body).map _).congr fun bs o => ?_
  constructor
  · rintro ⟨list | bytes, ⟨rfl, hlist⟩, rfl⟩
    · exact ⟨rfl, rfl, hlist⟩
    · exact ⟨rfl, .players bytes, .players hlist.1, hlist.2, rfl⟩
  · intro h
    cases o with
    | ok d' =>
      obtain ⟨rfl, _, _ | hlist, hroom, rfl⟩ := h
      exact ⟨.ok _, ⟨rfl, hlist, hroom⟩, rfl⟩
    | error bytes =>
      obtain ⟨rfl, -, hlacks⟩ := h
      exact ⟨.error bytes, ⟨rfl, hlacks⟩, rfl⟩

/-- There is no body of another kind. -/
theorem not_bodyForm_of_unknown {d : Decoded} {kind : UInt16} {body bs : Bytes} {o : Granted Decoded}
    (hsummary : kind ≠ Reply.serverInfoBlock) (hlist : kind ≠ Reply.playerListBlock) :
    ¬bodyForm room d kind body bs o := by
  intro h
  cases o with
  | ok d' =>
    obtain ⟨-, _, _ | _, -⟩ := h
    · exact hsummary rfl
    · exact hlist rfl
  | error bytes => exact hlist h.2.1

/-- A body is read by the kind of its block.

**Proof sketch.** By the kind: a summary (`follows_summaryBody`), a list (`follows_listBody`), or
neither, where no body is read and there is none (`not_bodyForm_of_unknown`). -/
theorem follows_body (d : Decoded) (kind : UInt16) (body : Bytes) :
    (if kind = Reply.serverInfoBlock then do
        let info ← inside body (readInfo (d.hasFlag Reply.addressFlag))
        return .ok { d with serverInfo := some info }
      else if kind = Reply.playerListBlock then do
        let list ← inside body (readList room)
        return list.map fun list => { d with playerList := some list }
      else Reader.fail (.unknownBlock kind) : Reader (Granted Decoded)).Follows
      (bodyForm room d kind body) := by
  split
  next hkind =>
    subst hkind
    exact follows_summaryBody d body
  next hother =>
    split
    next hkind =>
      subst hkind
      exact follows_listBody d body
    next hunknown =>
      refine (Reader.follows_fail _).congr fun bs o => ?_
      exact iff_of_false (fun h => h.2) (not_bodyForm_of_unknown hother hunknown)

/-- **One block** is read by its grammar, and what it holds is put into the contents, unless it is a
list that there is no room for.

**Proof sketch.** The kind, the counted body and what is in the body follow their forms in turn. The
counted body is short enough for every room if it is read to its end (`IsBody.hasRoom`), so that the
room does not show in the form of a block. -/
theorem follows_readBlock (d : Decoded) : (readBlock room d).Follows (granted
    (fun bs d' => ∃ content, IsBlock (d.hasFlag Reply.addressFlag) bs content ∧ d' = d.put content)
    (BlockLacks room)) := by
  refine (Reader.follows_u16.bind fun kind => Reader.follows_counted.bind
    (follows_body d kind)).congr fun bs o => ?_
  cases o with
  | ok d' =>
    constructor
    · rintro ⟨kind, _, _, rfl, ⟨body, counted, _, hcounted, ⟨rfl, content, hcontent, -, rfl⟩, rfl⟩,
        rfl⟩
      rw [List.append_nil]
      exact ⟨content, ⟨kind, counted, body, hcounted, hcontent, rfl⟩, rfl⟩
    · rintro ⟨content, ⟨kind, counted, body, hcounted, hcontent, rfl⟩, rfl⟩
      have hroom := hcontent.hasRoom room (length_le_of_counted hcounted)
      exact ⟨kind, _, counted, rfl, ⟨body, counted, [], hcounted,
        ⟨rfl, content, hcontent, hroom, rfl⟩, (List.append_nil counted).symm⟩, rfl⟩
  | error bytes =>
    constructor
    · rintro ⟨kind, _, _, rfl, ⟨body, counted, _, hcounted, ⟨rfl, rfl, hlacks⟩, rfl⟩, rfl⟩
      rw [List.append_nil]
      exact ⟨counted, body, hcounted, hlacks, rfl⟩
    · rintro ⟨counted, body, hcounted, hlacks, rfl⟩
      exact ⟨_, _, counted, rfl, ⟨body, counted, [], hcounted, ⟨rfl, rfl, hlacks⟩,
        (List.append_nil counted).symm⟩, rfl⟩

/-- **A block that is sent whole** is read into the contents. -/
theorem reads_block {d : Decoded} {kind : UInt16} {body : Bytes} {content : Content}
    (hlength : body.length ≤ maxLength)
    (hbody : IsBody (d.hasFlag Reply.addressFlag) kind body content) :
    (readBlock room d).Reads (block kind body) (.ok (d.put content)) :=
  (follows_readBlock d).reads (a := .ok (d.put content))
    ⟨content, ⟨kind, Wire.counted body, body, counted_counted hlength, hbody, rfl⟩, rfl⟩

/-- What begins with a kind is not empty. -/
theorem u16_append_ne_nil (kind : UInt16) (bs : Bytes) : u16 kind ++ bs ≠ [] := by
  intro hbytes
  have hlength := congrArg List.length hbytes
  simp only [List.length_nil, List.length_append, u16, Bytes.length_little] at hlength
  omega

/-- A block has a kind, so it is not empty. -/
theorem not_isBlock_nil (withAddress : Bool) (content : Content) :
    ¬IsBlock withAddress [] content := by
  rintro ⟨kind, counted, body, -, -, hbytes⟩
  exact u16_append_ne_nil kind counted hbytes.symm

/-- The block of a list has a kind as well. -/
theorem not_blockLacks_nil (bytes : Nat) : ¬BlockLacks room [] bytes := by
  rintro ⟨counted, body, -, -, hbytes⟩
  exact u16_append_ne_nil _ counted hbytes.symm

/-! ## Payloads are read by their grammar -/

section Blocks

variable {d : Decoded} {c : Cursor} {most : Nat}

/-- The form of a payload whose blocks are put into contents that were read before. -/
def blocksForm (room : Room) (d : Decoded) : Form (Granted Decoded) := granted
  (fun payload d' => ∃ contents,
    Many (IsBlock (d.hasFlag Reply.addressFlag)) payload contents ∧ d' = contents.foldl put d)
  (PayloadLacks room (d.hasFlag Reply.addressFlag))

/-- No bytes are no blocks. -/
theorem blocksForm_nil_iff {o : Granted Decoded} : blocksForm room d [] o ↔ o = .ok d := by
  cases o with
  | ok d' =>
    rw [Except.ok.injEq]
    constructor
    · rintro ⟨contents, hmany, rfl⟩
      rw [(many_nil_iff (not_isBlock_nil _)).1 hmany]
      rfl
    · rintro rfl
      exact ⟨[], .nil, rfl⟩
  | error bytes =>
    refine iff_of_false ?_ (by simp)
    rintro ⟨front, block, rest, contents, -, hlacks, hnone⟩
    obtain ⟨-, hnone⟩ := List.append_eq_nil_iff.1 hnone.symm
    rw [(List.append_eq_nil_iff.1 hnone).1] at hlacks
    exact not_blockLacks_nil bytes hlacks

/-- **Blocks are read one after the other**: the first is put into the contents and the others are
read behind it, or there is no room for the first, and nothing is read behind it.

**Proof sketch.** From left to right, blocks that are one after the other are none, or one and then
the others; the list without room is one of the others, or no block stands before it. From right to
left, what holds of the rest of the payload holds with one more block in front. -/
theorem blocksForm_iff {payload : Bytes} {o : Granted Decoded} (hsome : payload ≠ []) :
    blocksForm room d payload o ↔
      (∃ bs rest content, IsBlock (d.hasFlag Reply.addressFlag) bs content ∧ payload = bs ++ rest ∧
        blocksForm room (d.put content) rest o) ∨
      ∃ bs rest bytes, BlockLacks room bs bytes ∧ payload = bs ++ rest ∧ o = .error bytes := by
  constructor
  · intro h
    cases o with
    | ok d' =>
      obtain ⟨contents, hmany, rfl⟩ := h
      cases hmany with
      | nil => exact absurd rfl hsome
      | @cons bs rest content contents hblock hmany =>
        exact .inl ⟨bs, rest, content, hblock, rfl, contents, by rwa [hasFlag_put], rfl⟩
    | error bytes =>
      obtain ⟨front, block, rest, contents, hmany, hlacks, rfl⟩ := h
      cases hmany with
      | nil => exact .inr ⟨block, rest, bytes, hlacks, rfl, rfl⟩
      | @cons bs front content contents hblock hmany =>
        refine .inl ⟨bs, front ++ (block ++ rest), content, hblock, List.append_assoc .., ?_⟩
        exact ⟨front, block, rest, contents, by rwa [hasFlag_put], hlacks, rfl⟩
  · rintro (⟨bs, rest, content, hblock, rfl, h⟩ | ⟨bs, rest, bytes, hlacks, rfl, rfl⟩)
    · cases o with
      | ok d' =>
        obtain ⟨contents, hmany, rfl⟩ := h
        rw [hasFlag_put] at hmany
        exact ⟨content :: contents, .cons hblock hmany, rfl⟩
      | error bytes =>
        obtain ⟨front, block, behind, contents, hmany, hlacks, rfl⟩ := h
        rw [hasFlag_put] at hmany
        exact ⟨bs ++ front, block, behind, content :: contents, .cons hblock hmany, hlacks,
          (List.append_assoc ..).symm⟩
    · exact ⟨[], bs, rest, [], .nil, hlacks, rfl⟩

/-- A reader of blocks that begins with a block goes on behind it, with what it holds.

**Proof sketch.** The bytes of a block are not empty, so a block is read, and the grammar of blocks
fixes where it ends and what it holds. -/
theorem readBlocks_of_isBlock (room : Room) (most : Nat) {bs rest : Bytes} {content : Content}
    (hblock : IsBlock (d.hasFlag Reply.addressFlag) bs content) (hrest : c.rest = bs ++ rest) :
    ∃ c', c'.rest = rest ∧
      readBlocks room (most + 1) d c = readBlocks room most (d.put content) c' := by
  have hsome : c.rest ≠ [] := by
    rw [hrest]
    rintro hnone
    rw [(List.append_eq_nil_iff.1 hnone).1] at hblock
    exact not_isBlock_nil _ _ hblock
  have hread : (readBlock room d).Reads bs (.ok (d.put content)) :=
    (follows_readBlock d).reads (a := .ok (d.put content)) ⟨content, hblock, rfl⟩
  rw [readBlocks_of_rest_ne_nil most d hsome, Reader.bind_apply, hread c rest hrest]
  exact ⟨_, c.rest_skip hrest _, rfl⟩

/-- A reader of blocks that begins with a list without room ends there. -/
theorem readBlocks_of_blockLacks {bs rest : Bytes} {bytes : Nat} (hlacks : BlockLacks room bs bytes)
    (hrest : c.rest = bs ++ rest) : (readBlocks room (most + 1) d c).1 = .ok (.error bytes) := by
  have hsome : c.rest ≠ [] := by
    rw [hrest]
    rintro hnone
    rw [(List.append_eq_nil_iff.1 hnone).1] at hlacks
    exact not_blockLacks_nil bytes hlacks
  have hread : (readBlock room d).Reads bs (.error bytes) :=
    (follows_readBlock d).reads (a := .error bytes) hlacks
  rw [readBlocks_of_rest_ne_nil most d hsome, Reader.bind_apply, hread c rest hrest]
  rfl

/-- What is read of blocks begins with one of the two. -/
theorem exists_of_readBlocks_eq_ok {o : Granted Decoded} (hsome : c.rest ≠ [])
    (h : (readBlocks room (most + 1) d c).1 = .ok o) :
    (∃ bs rest content, IsBlock (d.hasFlag Reply.addressFlag) bs content ∧ c.rest = bs ++ rest) ∨
      ∃ bs rest bytes, BlockLacks room bs bytes ∧ c.rest = bs ++ rest := by
  rw [readBlocks_of_rest_ne_nil most d hsome] at h
  obtain ⟨first, c₁, hfirst, -⟩ := Reader.exists_of_fst_bind_eq_ok h
  obtain ⟨bs, hform, hrest⟩ := (follows_readBlock d).form_of_eq_ok hfirst
  cases first with
  | ok d₁ =>
    obtain ⟨content, hblock, -⟩ := hform
    exact .inl ⟨bs, _, content, hblock, hrest⟩
  | error bytes => exact .inr ⟨bs, _, bytes, hform, hrest⟩

/-- **The blocks of a payload** are read one after the other, each into what was read before it.

**Proof sketch.** By induction on the number of blocks that may still be read, which is at least the
number of bytes. Where bytes are left, both sides begin with the same block: the grammar by
`blocksForm_iff`, the reader by what one block is read as. A block takes bytes, so the number of
blocks that may be read behind it is enough for the rest. -/
theorem readBlocks_eq_ok_iff {o : Granted Decoded} (hmost : c.rest.length ≤ most) :
    (readBlocks room most d c).1 = .ok o ↔ blocksForm room d c.rest o := by
  induction most generalizing d c with
  | zero =>
    have hnone : c.rest = [] := List.length_eq_zero_iff.1 (Nat.le_zero.1 hmost)
    rw [readBlocks_of_rest_eq_nil 0 d hnone, hnone, blocksForm_nil_iff, Except.ok.injEq, eq_comm]
  | succ most ih =>
    by_cases hnone : c.rest = []
    · rw [readBlocks_of_rest_eq_nil _ d hnone, hnone, blocksForm_nil_iff, Except.ok.injEq, eq_comm]
    -- the next block leaves fewer bytes, since no block is empty
    have hfewer {bs rest : Bytes} {content : Content}
        (hblock : IsBlock (d.hasFlag Reply.addressFlag) bs content) (hrest : c.rest = bs ++ rest) :
        rest.length ≤ most := by
      have hpos : 0 < bs.length := by
        refine List.length_pos_iff.2 ?_
        rintro rfl
        exact not_isBlock_nil _ _ hblock
      rw [hrest, List.length_append] at hmost
      omega
    have hbehind {bs rest : Bytes} {content : Content}
        (hblock : IsBlock (d.hasFlag Reply.addressFlag) bs content) (hrest : c.rest = bs ++ rest) :
        (readBlocks room (most + 1) d c).1 = .ok o ↔ blocksForm room (d.put content) rest o := by
      obtain ⟨c', rfl, hread⟩ := readBlocks_of_isBlock room most hblock hrest
      rw [hread]
      exact ih (hfewer hblock hrest)
    rw [blocksForm_iff hnone]
    constructor
    · intro h
      obtain ⟨bs, rest, content, hblock, hrest⟩ | ⟨bs, rest, bytes, hlacks, hrest⟩ :=
        exists_of_readBlocks_eq_ok hnone h
      · exact .inl ⟨bs, rest, content, hblock, hrest, (hbehind hblock hrest).1 h⟩
      · rw [readBlocks_of_blockLacks hlacks hrest, Except.ok.injEq] at h
        exact .inr ⟨bs, rest, bytes, hlacks, hrest, h.symm⟩
    · rintro (⟨bs, rest, content, hblock, hrest, h⟩ | ⟨bs, rest, bytes, hlacks, hrest, rfl⟩)
      · exact (hbehind hblock hrest).2 h
      · exact readBlocks_of_blockLacks hlacks hrest

end Blocks

/-! ## Replies are read by their grammar -/

/-- What the blocks of a payload are read as behind a header.

**Proof sketch.** Each block takes a byte at least, so there are no more of them than bytes, and
what they hold is put into empty contents. -/
theorem accepts_payload (room : Room) (version : UInt8) (flags : UInt16) (requestId : UInt32)
    (payload : Bytes) :
    (inside payload (readBlocks room payload.length { version, flags, requestId })).Accepts (granted
      (fun _ d => ∃ contents, Many (IsBlock (d.hasFlag Reply.addressFlag)) payload contents ∧
        d = { version, flags, requestId
              serverInfo := (contents.filterMap Content.summary?).getLast?
              playerList := (contents.filterMap Content.players?).getLast? })
      fun _ => PayloadLacks room (flags &&& Reply.addressFlag ≠ 0) payload) := by
  intro c o
  refine (readBlocks_eq_ok_iff (c := .start payload) (Nat.le_refl _)).trans ?_
  cases o with
  | error bytes => exact Iff.rfl
  | ok d =>
    simp only [blocksForm, granted, foldl_put, Option.or_none]
    constructor
    · rintro ⟨contents, hmany, rfl⟩
      exact ⟨contents, hmany, rfl⟩
    · rintro ⟨contents, hmany, rfl⟩
      exact ⟨contents, hmany, rfl⟩

/-- What follows the first bytes, which must be the magic ones.

**Proof sketch.** With other bytes in front the reader fails, and neither form has them. Otherwise
the fields of the header follow their forms one after the other, and the payload is read by
`accepts_payload`. -/
theorem accepts_header (magic : Bytes) :
    (if magic ≠ Reply.magic then Reader.fail .badMagic
      else do
        let version ← Reader.u8
        let flags ← Reader.u16
        let requestId ← Reader.u32
        let payload ← Reader.counted
        inside payload (readBlocks room payload.length { version, flags, requestId })).Accepts
      fun bs o => magic = Reply.magic ∧
        granted IsReply (Exhausts room) (Reply.magic ++ bs) o := by
  have hfields := Reader.follows_u8.bind_accepts fun version =>
    Reader.follows_u16.bind_accepts fun flags => Reader.follows_u32.bind_accepts fun requestId =>
    Reader.follows_counted.bind_accepts (accepts_payload room version flags requestId)
  intro c o
  split
  next hother => exact iff_of_false (fun h => by cases h) fun h => hother h.1
  next hmagic =>
    refine (hfields c o).trans (Iff.trans ?_ (and_iff_right (Decidable.not_not.1 hmagic)).symm)
    cases o with
    | ok d =>
      constructor
      · rintro ⟨version, _, _, rfl, ⟨flags, _, _, rfl, ⟨requestId, _, _, rfl,
          ⟨payload, counted, rest, hcounted, ⟨contents, hmany, rfl⟩, rfl⟩, rfl⟩, rfl⟩, hrest⟩
        rw [hrest]
        exact ⟨counted, payload, rest, contents, rfl, hcounted, hmany, rfl, rfl⟩
      · rintro ⟨counted, payload, rest, contents, hbytes, hcounted, hmany, hinfo, hlist⟩
        refine ⟨d.version, _, _, rfl, ⟨d.flags, _, _, rfl, ⟨d.requestId, _, _, rfl,
          ⟨payload, counted, rest, hcounted, ⟨contents, hmany, ?_⟩, rfl⟩, rfl⟩, rfl⟩,
          List.append_cancel_left hbytes⟩
        rw [← hinfo, ← hlist]
    | error bytes =>
      constructor
      · rintro ⟨version, _, _, rfl, ⟨flags, _, _, rfl, ⟨requestId, _, _, rfl,
          ⟨payload, counted, rest, hcounted, hlacks, rfl⟩, rfl⟩, rfl⟩, hrest⟩
        rw [hrest]
        exact ⟨version, flags, requestId, counted, payload, rest, rfl, hcounted, hlacks⟩
      · rintro ⟨version, flags, requestId, counted, payload, rest, hbytes, hcounted, hlacks⟩
        exact ⟨version, _, _, rfl, ⟨flags, _, _, rfl, ⟨requestId, _, _, rfl,
          ⟨payload, counted, rest, hcounted, hlacks, rfl⟩, rfl⟩, rfl⟩,
          List.append_cancel_left hbytes⟩

/-- **A datagram** is read by the grammar of replies, unless there is no room for it.

**Proof sketch.** The magic bytes are read first and compared with; what comes behind them is read
by the grammar of a header. -/
theorem accepts_read : (read room).Accepts (granted IsReply (Exhausts room)) := by
  refine ((Reader.follows_take Reply.magic.length).bind_accepts accepts_header).congr fun data o => ?_
  constructor
  · rintro ⟨_, _, back, ⟨rfl, -⟩, ⟨rfl, hform⟩, rfl⟩
    exact hform
  · intro hform
    have hmagic : ∃ rest, data = Reply.magic ++ rest := by
      cases o with
      | ok d =>
        obtain ⟨_, _, _, _, hdata, -⟩ := hform
        exact ⟨_, hdata⟩
      | error bytes =>
        obtain ⟨_, _, _, _, _, _, hdata, -⟩ := hform
        exact ⟨_, hdata⟩
    obtain ⟨rest, rfl⟩ := hmagic
    exact ⟨Reply.magic, Reply.magic, rest, ⟨rfl, rfl⟩, ⟨rfl, hform⟩, rfl⟩

/-! ## How much room is enough -/

/-- A datagram with a list that announces players, and has none. -/
def announcing (returned : UInt32) : Bytes :=
  Reply.frame 0 0 (block Reply.playerListBlock (u32 0 ++ (u32 returned ++ u32 0)))

/-- Such a datagram exhausts the room of a client that has none for so many players.

**Proof sketch.** The bytes are a header, a block of the kind of lists and the three numbers of a
list, of which the second asks for more room than there is. -/
theorem exhausts_announcing (returned : UInt32)
    (h : room.bytes < playerRoom * returned.toNat) :
    Exhausts room (announcing returned) (playerRoom * returned.toNat) := by
  have hsize : (u32 0 ++ (u32 returned ++ u32 0)).length = 12 := by
    simp only [u32, List.length_append, Bytes.length_little]
  have hbody : (u32 0 ++ (u32 returned ++ u32 0)).length ≤ maxLength := by
    rw [hsize]
    decide
  have hpayload : (block Reply.playerListBlock (u32 0 ++ (u32 returned ++ u32 0))).length ≤
      maxLength := by
    rw [block, List.length_append, length_counted hbody, hsize, u16, Bytes.length_little]
    decide
  refine ⟨Reply.version, 0, 0, _, _, [], ?_, counted_counted hpayload, [], _, [], [], .nil,
    ⟨_, _, counted_counted hbody, ⟨h, 0, returned, 0, [], rfl, ?_⟩, rfl⟩, ?_⟩
  · simp only [announcing, Reply.frame, List.append_assoc, List.append_nil]
  · rw [List.append_nil]
  · rw [List.append_nil, List.nil_append, block]

/-- **No datagram exhausts the room** exactly if there is room for as many players as four bytes can
count.

**Proof sketch.** No list announces more players than that. A list that announces exactly so many, and
has none, is one that asks for all of the room. -/
theorem forall_not_exhausts_iff :
    (∀ data bytes, ¬Exhausts room data bytes) ↔ playerRoom * (UInt32.size - 1) ≤ room.bytes := by
  constructor
  · intro h
    refine Nat.not_lt.1 fun hless => ?_
    exact h _ _ (exhausts_announcing (UInt32.ofNat (UInt32.size - 1)) hless)
  · rintro hroom data bytes ⟨_, _, _, _, _, _, -, -, _, _, _, _, -,
      ⟨_, _, -, ⟨hlacks, _, returned, _, _, rfl, -⟩, -⟩, -⟩
    have hmost : returned.toNat ≤ UInt32.size - 1 := Nat.le_sub_one_of_lt returned.toNat_lt
    have hasked := Nat.mul_le_mul_left playerRoom hmost
    omega

/-! ## The grammar decides -/

/-- A client has the contents that the grammar gives. -/
theorem parse_eq_ok_iff_isReply (room : Room) {data : Bytes} {d : Decoded} :
    parse room data = .ok d ↔ IsReply data d :=
  parse_eq_ok_iff.trans (accepts_read.run (a := .ok d))

/-- A client comes to its end at a list that it has no room for. -/
theorem parse_eq_exhausted_iff_exhausts {data : Bytes} {bytes : Nat} :
    parse room data = .error (.exhausted bytes) ↔ Exhausts room data bytes :=
  parse_eq_exhausted_iff.trans (accepts_read.run (a := .error bytes))

/-- What a client has no room for is no reply, since a client comes to one thing only. -/
theorem Exhausts.not_isReply {data : Bytes} {bytes : Nat} (h : Exhausts room data bytes) :
    ¬∃ d, IsReply data d := by
  rintro ⟨d, hreply⟩
  have hok := (parse_eq_ok_iff_isReply room).2 hreply
  rw [parse_eq_exhausted_iff_exhausts.2 h] at hok
  cases hok

/-- A client refuses what is neither. -/
theorem exists_parse_eq_refused_iff {data : Bytes} :
    (∃ e, parse room data = .error (.refused e)) ↔
      (¬∃ d, IsReply data d) ∧ ¬∃ bytes, Exhausts room data bytes := by
  simp only [← parse_eq_ok_iff_isReply room, ← parse_eq_exhausted_iff_exhausts]
  cases parse room data with
  | ok d => simp
  | error failure => cases failure <;> simp

/-- **A datagram is read as the contents that the grammar gives it**, whatever the room of the client.
It has bytes for every player that is read from it, whatever its counts tell. One without contents is
refused, unless behind a header and any number of blocks it has a list that announces more players
than the client has room for; at that list the client comes to its end. So what is no reply is always
refused exactly if there is room for as many players as a list can announce.

**Proof sketch.** Each field follows its form, and readers in turn follow forms in turn, so the
bodies are read by their grammar (`accepts_readInfo`, `accepts_readList`). So is a block, since what
is inside its body is told by the body alone, and a payload by induction on its blocks
(`readBlocks_eq_ok_iff`). The header is read field by field. In a block that was counted the players
that are there always have room (`IsBody.hasRoom`). -/
theorem parse_grammar (room : Room) :
    (∀ data,
      (∀ d, parse room data = .ok d ↔ IsReply data d) ∧
      (∀ bytes, parse room data = .error (.exhausted bytes) ↔ Exhausts room data bytes) ∧
      ((∃ e, parse room data = .error (.refused e)) ↔
        (¬∃ d, IsReply data d) ∧ ¬∃ bytes, Exhausts room data bytes) ∧
      ∀ d list, parse room data = .ok d → d.playerList = some list →
        Reply.headerSize + Reply.blockHeaderSize + 12 + 18 * list.players.length ≤ data.length) ∧
    ((∀ data, (∃ e, parse room data = .error (.refused e)) ↔ ¬∃ d, IsReply data d) ↔
      playerRoom * (UInt32.size - 1) ≤ room.bytes) := by
  refine ⟨fun data => ⟨fun d => parse_eq_ok_iff_isReply room,
    fun bytes => parse_eq_exhausted_iff_exhausts, exists_parse_eq_refused_iff,
    fun d list hok => ((parse_eq_ok_iff_isReply room).1 hok).length_le⟩, ?_⟩
  rw [← forall_not_exhausts_iff]
  simp only [exists_parse_eq_refused_iff]
  constructor
  · intro h data bytes hexhausts
    exact ((h data).2 hexhausts.not_isReply).2 ⟨bytes, hexhausts⟩
  · intro h data
    exact and_iff_left fun ⟨bytes, hexhausts⟩ => h data bytes hexhausts

/-- A list of one player in a reply, and a byte that nobody looks at behind it. -/
theorem parse_grammar_one_player :
    let room := Room.least
    let list : PlayerList := { total := 9, offset := 4, players := [⟨⟨0x0102⟩, "Zoë"⟩] }
    let d : Decoded := { version := 1, flags := 0x0021, requestId := 5, playerList := some list }
    let body := u32 9 ++ u32 1 ++ u32 4 ++ Wire.text "Zoë" ++ Uuid.toBytes ⟨0x0102⟩
    let data := Reply.frame 5 0x0021 (block Reply.playerListBlock body) ++ [0xff]
    parse room data = .ok d ∧ IsReply data d ∧
      Reply.headerSize + Reply.blockHeaderSize + 12 + 18 * 1 ≤ data.length := by
  intro room list d body data
  have hsome : (parse room data).toOption = some d := by decide +kernel
  have hok : parse room data = .ok d := by
    cases hparse : parse room data with
    | ok d' =>
      rw [hparse] at hsome
      exact congrArg Except.ok (Option.some.inj hsome)
    | error e =>
      rw [hparse] at hsome
      cases hsome
  obtain ⟨hread, -, -, hlength⟩ := (parse_grammar room).1 data
  exact ⟨hok, (hread d).1 hok, hlength d list hok rfl⟩

/-- **A datagram of 33 bytes ends a client** that has 32 GiB of room: it announces all players that
four bytes can count, and has none. It is no reply, and it is not refused. -/
theorem exhausted_by_announcement :
    let room : Room := ⟨34359738368, by decide⟩
    let data := announcing 0xffffffff
    data.length = 33 ∧ parse room data = .error (.exhausted 171798691800) ∧
      (¬∃ d, IsReply data d) ∧ ¬∃ e, parse room data = .error (.refused e) := by
  intro room data
  have hexhausts : Exhausts room data 171798691800 := exhausts_announcing _ (by decide)
  have hexhausted := parse_eq_exhausted_iff_exhausts.2 hexhausts
  refine ⟨by decide, hexhausted, hexhausts.not_isReply, ?_⟩
  rintro ⟨e, hrefused⟩
  rw [hexhausted] at hrefused
  cases hrefused

end FleetStatus.Decoded
