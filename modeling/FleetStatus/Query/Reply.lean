import FleetStatus.Challenge
import FleetStatus.Query.Info
import FleetStatus.Wire.Budget
import FleetStatus.Wire.Field

set_option relaxedAutoImplicit false
set_option autoImplicit false

/-!
# Replies

A reply to a query is a header and a payload of blocks.

```text
magic 8 | version 1 | flags 2 | request id 4 | payload length 2 | payload
```

## Main definitions

* `FleetStatus.Reply.challenge` — the reply that hands out a token.
* `FleetStatus.Reply.basic` — the reply with the summary of a server.
* `FleetStatus.Reply.players` — the reply with a page of the list of players.
-/

namespace FleetStatus.Reply

/-! ## Constants -/

/-- The bytes `ONEREPLY`. -/
def magic : Bytes := [0x4f, 0x4e, 0x45, 0x52, 0x45, 0x50, 0x4c, 0x59]

/-- The version of the protocol. -/
def version : UInt8 := 1

/-- The datagram size that replies are planned for. -/
def safeSize : Nat := 1400

/-- The size of the header. -/
def headerSize : Nat := 17

/-- The payload that is planned for, with room left for the headers of lower layers. -/
def maxPayload : Nat := safeSize - headerSize - 50

/-- The size of a block's kind and length. -/
def blockHeaderSize : Nat := 4

/-- The kind of the block with the summary. -/
def serverInfoBlock : UInt16 := 1

/-- The kind of the block with players. -/
def playerListBlock : UInt16 := 2

/-- The flag of a page that is not the last. -/
def hasMoreFlag : UInt16 := 0x0001

/-- The flag of a refusal. -/
def authRequiredFlag : UInt16 := 0x0002

/-- The flag of numbers and players of the whole fleet. -/
def networkFlag : UInt16 := 0x0010

/-- The flag of a summary with an address. -/
def addressFlag : UInt16 := 0x0020

/-! ## Building -/

/-- A header and a payload; a payload that two bytes cannot count is cut. -/
def frame (requestId : UInt32) (flags : UInt16) (payload : Bytes) : Bytes :=
  magic ++ Wire.u8 version ++ Wire.u16 flags ++ Wire.u32 requestId ++ Wire.counted payload

/-- The reply that hands out a token: magic, type, token and seven zeros. -/
def challenge (token : Challenge.Token) : Bytes :=
  magic ++ Wire.u8 0 ++ token.val ++ List.replicate 7 0

/-- The body of the block with the summary. -/
def infoBytes (info : ServerInfo) : Bytes :=
  Wire.text info.name ++ Wire.text info.motd ++ Wire.u32 info.playerCount ++
    Wire.u32 info.maxPlayers ++ Wire.text info.version ++ Wire.u32 info.protocolVersion ++
    Wire.text info.protocolHash ++
    info.address.elim [] fun (host, port) => Wire.text host ++ Wire.u16 port

/-- The reply with the summary. The address flag is set when there is an address. -/
def basic (requestId : UInt32) (flags : UInt16) (info : ServerInfo) : Bytes :=
  frame requestId (if info.address.isSome then flags ||| addressFlag else flags)
    (Wire.block serverInfoBlock (infoBytes info))

/-- The refusal: a summary with its flag. -/
def authRequired (requestId : UInt32) (info : ServerInfo) : Bytes :=
  basic requestId authRequiredFlag info

/-! ## Pages of players -/

/-- The bytes of a name that are kept in a list. -/
def maxNameBytes : Nat := 255

/-- The name as listed. -/
def listedName (p : PlayerEntry) : String := Text.truncate p.name maxNameBytes

/-- The bytes of a player in a list. -/
def entryBytes (p : PlayerEntry) : Bytes := Wire.text (listedName p) ++ p.uuid.toBytes

/-- The number of those bytes. -/
def entrySize (p : PlayerEntry) : Nat := 2 + 16 + (listedName p).utf8ByteSize

/-- The bytes that the players of one page may take. -/
def pageBudget : Nat := maxPayload - blockHeaderSize - 12

/-- One page of a list of players. -/
structure Page where
  /-- The datagram. -/
  packet : Bytes
  /-- How many players are on the page. -/
  returned : UInt32
  /-- Whether players are left for a further page. -/
  hasMore : Bool
  deriving DecidableEq, Inhabited

/-- The **page** that begins at `offset`: as many players as fit, in the order of the list. -/
def players (requestId : UInt32) (flags : UInt16) (list : List PlayerEntry) (offset : UInt32) :
    Page :=
  let start := min offset.toNat list.length
  let wanted := list.drop start
  let shown := Wire.takeWithin entrySize pageBudget wanted
  let hasMore := shown.length < wanted.length
  let returned := UInt32.ofNat shown.length
  let body := Wire.u32 (UInt32.ofNat list.length) ++ Wire.u32 returned ++
    Wire.u32 (UInt32.ofNat start) ++ shown.flatMap entryBytes
  { packet := frame requestId (if hasMore then flags ||| hasMoreFlag else flags)
      (Wire.block playerListBlock body)
    returned
    hasMore }

end FleetStatus.Reply
