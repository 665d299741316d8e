import FleetStatus.Proofs.Query.Grammar

set_option relaxedAutoImplicit false
set_option autoImplicit false

/-!
# The pages of a list of players

A client asks for the list from some place on. As long as a page says that players are left, it asks
again behind the last player it was given. What it was given, page after page, is the list from that
place on.

## Main definitions

* `FleetStatus.PlayerEntry.listed` — a player as listed.
* `FleetStatus.Reply.Page.received` — the players that a client reads from a page.
* `FleetStatus.Reply.Serves` — what is asked of a single page.
* `FleetStatus.Reply.Walk` — the pages a client is given.

## Main results

* `FleetStatus.Reply.parse_players` — what a client reads from a page.
* `FleetStatus.Reply.serves_players` — every page is as is asked.
* `FleetStatus.Reply.serves_and_walk_received` — a walk ends, and its pages make up the list.
-/

namespace FleetStatus

open Wire (takeWithin totalSize)

/-- A player as listed: with the part of the name that is kept. -/
def PlayerEntry.listed (p : PlayerEntry) : PlayerEntry := { p with name := Reply.listedName p }

/-! ## Entries -/

namespace Reply

variable (p : PlayerEntry) (ps : List PlayerEntry)

/-- A listed name is no longer than a name may be. -/
theorem utf8ByteSize_listedName_le : (listedName p).utf8ByteSize ≤ maxNameBytes :=
  Text.utf8ByteSize_truncate_le _ _

/-- A listed name needs no second cut. -/
theorem truncate_listedName : Text.truncate (listedName p) Wire.maxLength = listedName p :=
  Text.truncate_eq_self (Nat.le_trans (utf8ByteSize_listedName_le p) (by decide))

/-- A player takes as many bytes as an entry of the player counts. -/
theorem length_entryBytes : (entryBytes p).length = entrySize p := by
  have hname := Wire.length_text (Nat.le_trans (utf8ByteSize_listedName_le p) (by decide))
  rw [entryBytes, List.length_append, hname, Uuid.length_toBytes, entrySize]
  omega

/-- Players take as many bytes as their entries count together. -/
theorem length_flatMap_entryBytes :
    (ps.flatMap entryBytes).length = totalSize entrySize ps :=
  Wire.length_flatMap length_entryBytes ps

/-- An entry fits an empty page.

**Proof sketch.** The longest name, the length of the name and an identity are far less than a page.
-/
theorem entrySize_le : entrySize p ≤ pageBudget := by
  have hname := utf8ByteSize_listedName_le p
  simp only [maxNameBytes] at hname
  have hbudget : pageBudget = 1317 := rfl
  rw [entrySize, hbudget]
  omega

/-- **Entries are written by the grammar of lists**, as they are listed.

**Proof sketch.** By induction on the players. -/
theorem many_isEntry :
    Wire.Form.Many Decoded.IsEntry (ps.flatMap entryBytes) (ps.map PlayerEntry.listed) := by
  induction ps with
  | nil => exact .nil
  | cons p ps ih =>
    have hname := Wire.Form.text_text (listedName p)
    rw [truncate_listedName] at hname
    rw [List.flatMap_cons, List.map_cons]
    exact .cons ⟨Wire.text (listedName p), hname, rfl⟩ ih

/-! ## The players of a page -/

section Shown

variable (list : List PlayerEntry) (offset : UInt32)

/-- The place where a page begins. -/
def start : Nat := min offset.toNat list.length

/-- The players of a page. -/
def shown : List PlayerEntry := takeWithin entrySize pageBudget (list.drop (start list offset))

variable {list offset}

/-- To start behind the end of the list is to start at its end. -/
theorem drop_start : list.drop (start list offset) = list.drop offset.toNat := by
  rw [start]
  rcases Nat.le_total offset.toNat list.length with h | h
  · rw [Nat.min_eq_left h]
  · rw [Nat.min_eq_right h, List.drop_length, List.drop_of_length_le h]

/-- A page starts within the list. -/
theorem start_le : start list offset ≤ list.length := Nat.min_le_right _ _

/-- A page shows the first players of those that were asked for. -/
theorem shown_eq_take :
    shown list offset = (list.drop (start list offset)).take (shown list offset).length :=
  List.prefix_iff_eq_take.1 (Wire.takeWithin_prefix _ _ _)

/-- The players of a page come first of those that were asked for. -/
theorem shown_append : shown list offset ++
    list.drop (start list offset + (shown list offset).length) = list.drop (start list offset) := by
  rw [← List.drop_drop]
  calc shown list offset ++ (list.drop (start list offset)).drop (shown list offset).length
      = (list.drop (start list offset)).take (shown list offset).length ++
          (list.drop (start list offset)).drop (shown list offset).length := by rw [← shown_eq_take]
    _ = list.drop (start list offset) := List.take_append_drop _ _

/-- A page ends within the list. -/
theorem start_add_length_shown_le :
    start list offset + (shown list offset).length ≤ list.length := by
  have hle := (Wire.takeWithin_prefix entrySize pageBudget (list.drop (start list offset))).length_le
  rw [List.length_drop] at hle
  have hstart : start list offset ≤ list.length := start_le
  simp only [shown]
  omega

/-- A page is not empty while players are left.

**Proof sketch.** The first entry that is left fits an empty page. -/
theorem length_shown_pos (h : start list offset < list.length) : 0 < (shown list offset).length := by
  rw [shown, List.drop_eq_getElem_cons h, takeWithin, if_pos (entrySize_le _)]
  exact Nat.succ_pos _

end Shown

/-! ## The datagram of a page -/

section Datagram

variable (requestId : UInt32) (flags : UInt16) (list : List PlayerEntry) (offset : UInt32)

/-- The flags of a page. -/
def pageFlags : UInt16 :=
  if (players requestId flags list offset).hasMore then flags ||| hasMoreFlag else flags

/-- The body of the block with the players of a page. -/
def listBody : Bytes :=
  Wire.u32 (UInt32.ofNat list.length) ++ Wire.u32 (UInt32.ofNat (shown list offset).length) ++
    Wire.u32 (UInt32.ofNat (start list offset)) ++ (shown list offset).flatMap entryBytes

/-- The page as a client reads it. -/
def pageList : PlayerList where
  total := UInt32.ofNat list.length
  offset := UInt32.ofNat (start list offset)
  players := (shown list offset).map PlayerEntry.listed

/-- A page is a frame with a list of players in it. -/
theorem packet_players : (players requestId flags list offset).packet =
    frame requestId (pageFlags requestId flags list offset)
      (Wire.block playerListBlock (listBody list offset)) := by
  simp only [players, pageFlags, decide_eq_true_eq]
  rfl

/-- How long the body of a page is. -/
theorem length_listBody :
    (listBody list offset).length = 12 + totalSize entrySize (shown list offset) := by
  simp only [listBody, List.length_append, length_flatMap_entryBytes, Wire.u32,
    Bytes.length_little]

/-- The body of a page keeps to the budget. -/
theorem length_listBody_le : (listBody list offset).length ≤ 12 + pageBudget := by
  rw [length_listBody]
  exact Nat.add_le_add_left (Wire.totalSize_takeWithin_le _ _ _) 12

/-- **The size of a page.**

**Proof sketch.** The body keeps to the budget, so neither the block nor the payload is cut. -/
theorem length_packet_players : (players requestId flags list offset).packet.length =
    headerSize + blockHeaderSize + 12 + totalSize entrySize (shown list offset) := by
  have hbody := length_listBody_le list offset
  have hblock : (Wire.block playerListBlock (listBody list offset)).length =
      blockHeaderSize + (listBody list offset).length := by
    rw [Wire.block, List.length_append, Wire.length_counted (Nat.le_trans hbody (by decide)),
      Wire.u16, Bytes.length_little, blockHeaderSize]
    omega
  have hkept : (Wire.block playerListBlock (listBody list offset)).length ≤ Wire.maxLength := by
    rw [hblock]
    exact Nat.le_trans (Nat.add_le_add_left hbody _) (by decide)
  have hmagic : magic.length = 8 := rfl
  simp only [packet_players, frame, List.length_append, Wire.length_counted hkept, hblock,
    length_listBody, Wire.u8, Wire.u16, Wire.u32, Bytes.length_little, hmagic, headerSize,
    List.length_cons, List.length_nil]
  omega

variable {list} (hlist : list.length < UInt32.size)

include hlist

/-- The number of players on a page is told. -/
theorem toNat_ofNat_length_shown :
    (UInt32.ofNat (shown list offset).length).toNat = (shown list offset).length := by
  have hle : start list offset + (shown list offset).length ≤ list.length :=
    start_add_length_shown_le
  exact UInt32.toNat_ofNat_of_lt' (by omega)

/-- The body of a page is a list of the players that it shows. -/
theorem isList_listBody : Decoded.IsList (listBody list offset) (pageList list offset) := by
  refine ⟨UInt32.ofNat (shown list offset).length, _, [], ?_, many_isEntry (shown list offset), ?_⟩
  · rw [toNat_ofNat_length_shown offset hlist]
    exact (List.length_map _).symm
  · simp only [listBody, pageList, List.append_assoc, List.append_nil]

/-- **What a client reads from a page**, whatever room it has.

**Proof sketch.** The body is a list by the grammar (`isList_listBody`), and short enough for block
and payload to be sent whole. A list that is sent whole needs no more room than every client has. -/
theorem parse_players (room : Decoded.Room) :
    Decoded.parse room (players requestId flags list offset).packet =
    .ok { version, flags := pageFlags requestId flags list offset, requestId,
          playerList := some (pageList list offset) } := by
  have hbody := length_listBody_le list offset
  rw [packet_players]
  refine Decoded.parse_frame_block (Nat.le_trans (Nat.add_le_add_right hbody _) (by decide)) ?_
  exact Decoded.reads_block (Nat.le_trans hbody (by decide)) (.players (isList_listBody offset hlist))

end Datagram

/-! ## One page -/

/-- The players that a client with some room reads from a page. -/
def Page.received (room : Decoded.Room) (page : Page) : List PlayerEntry :=
  match Decoded.parse room page.packet with
  | .ok { playerList := some list, .. } => list.players
  | _ => []

/-- The page **serves** the request for the players from `offset` on. -/
structure Serves (requestId : UInt32) (flags : UInt16) (list : List PlayerEntry) (offset : UInt32)
    (page : Page) : Prop where
  /-- The datagram keeps to its size. -/
  bounded : page.packet.length ≤ headerSize + maxPayload
  /-- A client, whatever room it has, accepts it and reads as many players as the page tells, and
  whether there are more. -/
  accepted : ∃ d received, (∀ room, Decoded.parse room page.packet = .ok d) ∧
    d.playerList = some received ∧
    d.version = version ∧ d.requestId = requestId ∧ d.hasFlag hasMoreFlag = page.hasMore ∧
    received.total.toNat = list.length ∧ received.offset.toNat = min offset.toNat list.length ∧
    received.players.length = page.returned.toNat
  /-- A page that promises more brings the client forward. -/
  advances : page.hasMore = true → 0 < page.returned.toNat
  /-- More is promised exactly when players are left. -/
  promises : page.hasMore = true ↔ offset.toNat + page.returned.toNat < list.length
  /-- The next player would make the datagram too long. -/
  maximal : page.hasMore = true → ∃ next, list[offset.toNat + page.returned.toNat]? = some next ∧
    headerSize + maxPayload < page.packet.length + (entryBytes next).length

section Serves

variable (requestId : UInt32) {flags : UInt16} {list : List PlayerEntry} (offset : UInt32)

/-- A page promises more when the list goes on behind it. -/
theorem hasMore_players : (players requestId flags list offset).hasMore = true ↔
    start list offset + (shown list offset).length < list.length := by
  have hstart : start list offset ≤ list.length := start_le
  show decide ((shown list offset).length < (list.drop (start list offset)).length) = true ↔ _
  rw [decide_eq_true_iff, List.length_drop]
  omega

/-- A request that is promised more lies within the list.

**Proof sketch.** Behind the end of the list there is nothing to promise. -/
theorem start_eq_of_hasMore (h : (players requestId flags list offset).hasMore = true) :
    start list offset = offset.toNat := by
  have hlt := (hasMore_players requestId offset).1 h
  rw [start] at hlt ⊢
  omega

/-- The flag tells whether a page promises more, if it was not set before. -/
theorem pageFlags_and_hasMoreFlag (hflags : flags &&& hasMoreFlag = 0) :
    pageFlags requestId flags list offset &&& hasMoreFlag ≠ 0 ↔
      (players requestId flags list offset).hasMore = true := by
  rw [pageFlags]
  split
  next hmore =>
    have hset : (flags ||| hasMoreFlag) &&& hasMoreFlag =
        (flags &&& hasMoreFlag) ||| (hasMoreFlag &&& hasMoreFlag) :=
      UInt16.toBitVec_inj.1 BitVec.and_or_distrib_right
    rw [hset, hflags]
    exact iff_of_true (by decide) hmore
  next hlast => exact iff_of_false (not_not_intro hflags) hlast

variable (hlist : list.length < UInt32.size)

include hlist

/-- The players of a page are received as they are listed. -/
theorem received_players (room : Decoded.Room) :
    (players requestId flags list offset).received room =
      (shown list offset).map PlayerEntry.listed := by
  rw [Page.received, parse_players requestId flags offset hlist room]
  rfl

/-- **Every page serves its request.**

**Proof sketch.** What is shown is the longest beginning of what was asked for that keeps to the
budget, so the size of the next entry would not fit. The numbers of the page are told as they are,
as the list is short enough to be numbered. -/
theorem serves_players (hflags : flags &&& hasMoreFlag = 0) :
    Serves requestId flags list offset (players requestId flags list offset) := by
  have hreturned : (players requestId flags list offset).returned.toNat =
      (shown list offset).length := toNat_ofNat_length_shown offset hlist
  have hmore : (players requestId flags list offset).hasMore = true ↔
      start list offset + (shown list offset).length < list.length :=
    hasMore_players requestId offset
  have hstart : start list offset = min offset.toNat list.length := rfl
  refine ⟨?bounded, ?accepted, ?advances, ?promises, ?maximal⟩
  case bounded =>
    have hfits : totalSize entrySize (shown list offset) ≤ pageBudget :=
      Wire.totalSize_takeWithin_le _ _ _
    have hbudget : headerSize + maxPayload = headerSize + blockHeaderSize + 12 + pageBudget := rfl
    rw [length_packet_players, hbudget]
    exact Nat.add_le_add_left hfits _
  case accepted =>
    refine ⟨_, _, parse_players requestId flags offset hlist, rfl, rfl, rfl, ?_, ?_, ?_, ?_⟩
    · rw [Bool.eq_iff_iff, Decoded.hasFlag, decide_eq_true_iff]
      exact pageFlags_and_hasMoreFlag requestId offset hflags
    · exact UInt32.toNat_ofNat_of_lt' hlist
    · exact UInt32.toNat_ofNat_of_lt' (Nat.lt_of_le_of_lt start_le hlist)
    · rw [hreturned]
      exact List.length_map _
  case advances =>
    intro h
    rw [hreturned]
    exact length_shown_pos (Nat.lt_of_le_of_lt (Nat.le_add_right _ _) (hmore.1 h))
  case promises =>
    rw [hmore, hreturned, hstart]
    omega
  case maximal =>
    intro h
    have hleft := hmore.1 h
    rw [hreturned, ← start_eq_of_hasMore requestId offset h]
    refine ⟨_, List.getElem?_eq_getElem hleft, ?_⟩
    -- the player behind the page was asked for and did not fit
    have hsplit : shown list offset ++
        list.drop (start list offset + (shown list offset).length) =
          list.drop (start list offset) := shown_append
    rw [List.drop_eq_getElem_cons hleft] at hsplit
    have hover : pageBudget < totalSize entrySize (shown list offset) + entrySize _ :=
      Wire.lt_totalSize_takeWithin_add entrySize pageBudget hsplit
    have hbudget : headerSize + maxPayload = headerSize + blockHeaderSize + 12 + pageBudget := rfl
    rw [length_packet_players, length_entryBytes, hbudget]
    omega

end Serves

/-! ## Page after page -/

/-- The **walk** of a client that asks for the list from an offset on: the pages it is given, where
it asks again behind the players of a page as long as the page says that more are left. -/
inductive Walk (requestId : UInt32) (flags : UInt16) (list : List PlayerEntry) :
    UInt32 → List Page → Prop
  /-- A page that is the last. -/
  | last {offset : UInt32} :
      (players requestId flags list offset).hasMore = false →
      Walk requestId flags list offset [players requestId flags list offset]
  /-- A page and the walk that goes on behind it. -/
  | more {offset : UInt32} {pages : List Page} :
      (players requestId flags list offset).hasMore = true →
      Walk requestId flags list (offset + (players requestId flags list offset).returned) pages →
      Walk requestId flags list offset (players requestId flags list offset :: pages)

section Walk

variable (requestId : UInt32) {flags : UInt16} {list : List PlayerEntry}
  (hlist : list.length < UInt32.size)

include hlist

/-- Where a client asks again. -/
theorem toNat_add_returned {offset : UInt32}
    (h : (players requestId flags list offset).hasMore = true) :
    (offset + (players requestId flags list offset).returned).toNat =
      start list offset + (shown list offset).length := by
  have hreturned : (players requestId flags list offset).returned.toNat =
      (shown list offset).length := toNat_ofNat_length_shown offset hlist
  have hleft := (hasMore_players requestId offset).1 h
  rw [UInt32.toNat_add, hreturned, ← start_eq_of_hasMore requestId offset h]
  exact Nat.mod_eq_of_lt (Nat.lt_trans hleft hlist)

/-- **A walk ends**: a page that promises more brings the client forward in the list.

**Proof sketch.** By strong induction on how many players are left. A page that promises more shows
one player at least, and the client asks again behind the last one that is shown. -/
theorem exists_walk (offset : UInt32) : ∃ pages, Walk requestId flags list offset pages := by
  induction hleft : list.length - offset.toNat using Nat.strongRecOn generalizing offset with
  | ind left ih =>
    cases hmore : (players requestId flags list offset).hasMore with
    | false => exact ⟨_, .last hmore⟩
    | true =>
      have hwithin := (hasMore_players requestId offset).1 hmore
      have hforward := length_shown_pos (Nat.lt_of_le_of_lt (Nat.le_add_right _ _) hwithin)
      have hagain := toNat_add_returned requestId hlist hmore
      have hstart := start_eq_of_hasMore requestId offset hmore
      have hcloser : list.length -
          (offset + (players requestId flags list offset).returned).toNat < left := by omega
      obtain ⟨pages, hpages⟩ := ih _ hcloser _ rfl
      exact ⟨_, .more hmore hpages⟩

/-- **The pages of a walk make up the list**, by induction on the walk: the players of a page come
before those of the walk that goes on behind it.

**Proof sketch.** The last page shows all players that are left. A page that promises more shows the
first of them, and the walk that goes on behind it makes up the rest. -/
theorem Walk.flatMap_received (room : Decoded.Room) {offset : UInt32} {pages : List Page}
    (hwalk : Walk requestId flags list offset pages) :
    pages.flatMap (Page.received room) = (list.drop offset.toNat).map PlayerEntry.listed := by
  induction hwalk with
  | @last offset hlast =>
    have hnone : list.length ≤ start list offset + (shown list offset).length :=
      Nat.not_lt.1 (mt (hasMore_players requestId offset).2 (Bool.eq_false_iff.1 hlast))
    rw [List.flatMap_singleton, received_players requestId offset hlist room, ← drop_start,
      ← shown_append, List.drop_of_length_le hnone, List.append_nil]
  | @more offset pages hmore _ ih =>
    rw [List.flatMap_cons, ih, received_players requestId offset hlist room,
      toNat_add_returned requestId hlist hmore, ← List.map_append, shown_append, drop_start]

/-- **The pages make up the list.** Every page serves its request. From whatever place a client
begins, its walk ends, and what it reads from the pages, whatever room it has, are the players from
that place on, each once and in the order of the list, with their names as listed.

**Proof sketch.** A page is cut at the first player that does not fit, and one always fits
(`serves_players`). So a page that promises more brings the client forward, and the walk ends
(`exists_walk`). Its pages make up the list by induction on the walk (`Walk.flatMap_received`). -/
theorem serves_and_walk_received (hflags : flags &&& hasMoreFlag = 0) :
    (∀ offset, Serves requestId flags list offset (players requestId flags list offset)) ∧
    ∀ offset, (∃ pages, Walk requestId flags list offset pages) ∧
      ∀ room pages, Walk requestId flags list offset pages →
        pages.flatMap (Page.received room) = (list.drop offset.toNat).map PlayerEntry.listed :=
  ⟨fun offset => serves_players requestId offset hlist hflags, fun offset =>
    ⟨exists_walk requestId hlist offset,
      fun room _ hwalk => hwalk.flatMap_received requestId hlist room⟩⟩

end Walk

/-- A player with a name of 64 characters, each of four bytes. -/
def wideName (n : Nat) : PlayerEntry :=
  ⟨⟨BitVec.ofNat 128 n⟩, String.ofList (List.replicate 64 '😀')⟩

/-- Six of these players, whose names lose their last character: a page has room for four, and the
second page has the other two. -/
theorem serves_and_walk_received_wideName :
    let list := (List.range 6).map wideName
    list.length < UInt32.size ∧ networkFlag &&& hasMoreFlag = 0 ∧
    (∀ offset, Serves 9 networkFlag list offset (players 9 networkFlag list offset)) ∧
    Walk 9 networkFlag list 0 [players 9 networkFlag list 0, players 9 networkFlag list 4] ∧
    ∀ room, (players 9 networkFlag list 0).received room ++
        (players 9 networkFlag list 4).received room =
      list.map fun p => ⟨p.uuid, String.ofList (List.replicate 63 '😀')⟩ := by
  intro list
  have hlist : list.length < UInt32.size := by decide
  have hflags : networkFlag &&& hasMoreFlag = 0 := by decide
  have hname (n : Nat) :
      listedName (wideName n) = String.ofList (List.replicate 63 '😀') := by
    rw [listedName, wideName, Text.truncate_eq, String.toList_ofList]
    rfl
  have hsize (n : Nat) : entrySize (wideName n) = 270 := by
    rw [entrySize, hname, Text.utf8ByteSize_ofList]
    rfl
  have hbudget : pageBudget = 1317 := rfl
  have hfirst : (shown list 0).length = 4 := by
    simp [list, shown, start, takeWithin, hsize, hbudget, List.range, List.range.loop]
  have hsecond : (shown list 4).length = 2 := by
    simp [list, shown, start, takeWithin, hsize, hbudget, List.range, List.range.loop]
  have hmore : (players 9 networkFlag list 0).hasMore = true := by
    rw [hasMore_players 9 0, hfirst]
    decide
  have hlast : (players 9 networkFlag list 4).hasMore = false := by
    rw [Bool.eq_false_iff, Ne, hasMore_players 9 4, hsecond]
    decide
  have hagain : 0 + (players 9 networkFlag list 0).returned = 4 := by
    rw [UInt32.zero_add]
    exact congrArg UInt32.ofNat hfirst
  have hwalk : Walk 9 networkFlag list 0
      [players 9 networkFlag list 0, players 9 networkFlag list 4] := by
    refine .more hmore ?_
    rw [hagain]
    exact .last hlast
  have hlisted : list.map PlayerEntry.listed =
      list.map fun p => ⟨p.uuid, String.ofList (List.replicate 63 '😀')⟩ := by
    simp only [list, PlayerEntry.listed, List.map_map, Function.comp_def, hname]
  obtain ⟨hserves, hwalks⟩ := serves_and_walk_received 9 hlist hflags
  refine ⟨hlist, hflags, hserves, hwalk, fun room => ?_⟩
  have hreceived := (hwalks 0).2 room _ hwalk
  rw [List.flatMap_cons, List.flatMap_singleton, UInt32.toNat_zero, List.drop_zero] at hreceived
  exact hreceived.trans hlisted

end Reply

end FleetStatus
