import FleetStatus.Query.Reply

set_option relaxedAutoImplicit false
set_option autoImplicit false

/-!
# Replies as a client reads them

A client reads a reply from its bytes alone, but for one thing: before it reads the players of a list
it sets room aside for as many as the list announces, and nothing has yet told that they are there. A
client that has not so much room comes to its end, which is no error that it could tell of.

## Main definitions

* `FleetStatus.Decoded` — the contents of a reply.
* `FleetStatus.Decoded.Room` — how much room a client has.
* `FleetStatus.Decoded.Failure` — why there are no contents.
* `FleetStatus.Decoded.parse` — the contents of a datagram. Of several blocks of one kind the last
  counts.
-/

namespace FleetStatus

/-- A page of players as received. -/
structure PlayerList where
  /-- How many players there are in all. -/
  total : UInt32
  /-- The place of the first player of the page. -/
  offset : UInt32
  players : List PlayerEntry
  deriving DecidableEq, Inhabited

/-- The contents of a reply. -/
structure Decoded where
  version : UInt8
  flags : UInt16
  requestId : UInt32
  serverInfo : Option ServerInfo := none
  playerList : Option PlayerList := none
  deriving DecidableEq, Inhabited

namespace Decoded

open Wire

/-! ## Room -/

/-- How many bytes of room a player takes: sixteen of the identity, and three words that tell where
the name is. -/
def playerRoom : Nat := 40

/-- The fewest bytes of a player in a datagram: the length of the name and the identity. -/
def leastEntry : Nat := 18

/-- The **room** of a client: how many bytes it can set aside at once. It has room for every list
whose players are all in the block; what else it keeps of a datagram is no longer than the
datagram. -/
structure Room where
  /-- As many bytes can be set aside at once. -/
  bytes : Nat
  /-- There is room for as many players as a block can hold. -/
  enough : playerRoom * (maxLength / leastEntry) ≤ bytes
  deriving DecidableEq

/-- The least room that a client can have. -/
def Room.least : Room := ⟨playerRoom * (maxLength / leastEntry), Nat.le_refl _⟩

/-- Why there are **no contents**. -/
inductive Failure where
  /-- The datagram is no reply. -/
  | refused (e : ReadError)
  /-- There was no room for so many bytes, and the client came to its end. -/
  | exhausted (bytes : Nat)
  deriving DecidableEq, Inhabited

/-- What was read with the room that it took, or how many bytes there was no room for. -/
abbrev Granted (α : Type) : Type := Except Nat α

/-! ## Readers -/

/-- Whether a flag is set. -/
def hasFlag (d : Decoded) (flag : UInt16) : Bool := d.flags &&& flag ≠ 0

/-- The summary in a block; an address follows if the flags tell of one and bytes are left. -/
def readInfo (withAddress : Bool) : Reader ServerInfo := do
  let name ← Reader.text
  let motd ← Reader.text
  let playerCount ← Reader.u32
  let maxPlayers ← Reader.u32
  let version ← Reader.text
  let protocolVersion ← Reader.u32
  let protocolHash ← Reader.text
  let left ← Reader.remaining
  let address ←
    if withAddress && left > 0 then do
      let host ← Reader.text
      let port ← Reader.u16
      pure (some (host, port))
    else pure none
  return { name, motd, playerCount, maxPlayers, version, protocolVersion, protocolHash, address }

/-- `n` players in turn. -/
def readEntries : Nat → Reader (List PlayerEntry)
  | 0 => pure []
  | n + 1 => do
    let name ← Reader.text
    let uuid ← Reader.uuid
    return ⟨uuid, name⟩ :: (← readEntries n)

/-- The page of players in a block. The room for all players that are announced is set aside before
the first of them is read. -/
def readList (room : Room) : Reader (Granted PlayerList) := do
  let total ← Reader.u32
  let returned ← Reader.u32
  let offset ← Reader.u32
  if playerRoom * returned.toNat ≤ room.bytes then
    return .ok { total, offset, players := ← readEntries returned.toNat }
  else return .error (playerRoom * returned.toNat)

/-- Read the whole of `body`; an error counts its bytes from the start of `body`. -/
def inside {α : Type} (body : Bytes) (r : Reader α) : Reader α := fun c => (r.run body, c)

/-- Read one block into what was read before it. -/
def readBlock (room : Room) (d : Decoded) : Reader (Granted Decoded) := do
  let kind ← Reader.u16
  let body ← Reader.counted
  if kind = Reply.serverInfoBlock then
    let info ← inside body (readInfo (d.hasFlag Reply.addressFlag))
    return .ok { d with serverInfo := some info }
  else if kind = Reply.playerListBlock then
    let list ← inside body (readList room)
    return list.map fun list => { d with playerList := some list }
  else Reader.fail (.unknownBlock kind)

/-- Read blocks until nothing is left, or a block asks for more room than there is. Every block takes
bytes, so as many blocks as there are bytes are enough. -/
def readBlocks (room : Room) : Nat → Decoded → Reader (Granted Decoded)
  | 0, d => pure (.ok d)
  | most + 1, d => do
    if (← Reader.remaining) = 0 then return .ok d
    else
      match ← readBlock room d with
      | .ok d => readBlocks room most d
      | .error bytes => return .error bytes

/-- Read a reply; bytes after its payload are not looked at. -/
def read (room : Room) : Reader (Granted Decoded) := do
  let magic ← Reader.take Reply.magic.length
  if magic ≠ Reply.magic then Reader.fail .badMagic
  else
    let version ← Reader.u8
    let flags ← Reader.u16
    let requestId ← Reader.u32
    let payload ← Reader.counted
    inside payload (readBlocks room payload.length { version, flags, requestId })

/-- The **contents of a reply**, as a client with some room reads them. -/
def parse (room : Room) (data : Bytes) : Except Failure Decoded :=
  match (read room).run data with
  | .ok (.ok d) => .ok d
  | .ok (.error bytes) => .error (.exhausted bytes)
  | .error e => .error (.refused e)

end Decoded

end FleetStatus
