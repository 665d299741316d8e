import FleetStatus.Query.Reply

set_option relaxedAutoImplicit false
set_option autoImplicit false

/-!
# The legacy protocol

Older tools ask without a token and get everything in one datagram. A full reply lists as many
players, then plugins, as fit. Every reply ends with the capabilities of the server, so that a newer
client can find the protocol with tokens.

## Main definitions

* `FleetStatus.LegacyQuery` — what is asked, and `FleetStatus.LegacyQuery.parse?` how it is read.
* `FleetStatus.LegacyReply` — what is told, and `FleetStatus.LegacyReply.encode` its bytes.
-/

namespace FleetStatus

/-- What a legacy request asks for. -/
inductive LegacyQuery where
  /-- The summary. -/
  | basic
  /-- The summary, the players and the plugins. -/
  | full
  deriving DecidableEq, Inhabited

namespace LegacyQuery

/-- The bytes `HYQUERY` and a zero. -/
def magic : Bytes := [0x48, 0x59, 0x51, 0x55, 0x45, 0x52, 0x59, 0x00]

/-- The type byte. -/
def code : LegacyQuery → UInt8
  | .basic => 0
  | .full => 1

/-- What a datagram asks for: the magic bytes and a type. A type that is not known asks for the
summary. -/
def parse? (data : Bytes) : Option LegacyQuery :=
  if data.take 8 = magic then
    (data[8]?).map fun c => if c = LegacyQuery.full.code then .full else .basic
  else none

end LegacyQuery

/-- What a legacy reply tells. -/
structure LegacyReply where
  info : ServerInfo
  /-- The game port. -/
  port : UInt16
  players : List PlayerEntry
  plugins : List PluginEntry
  /-- Whether the numbers and players are those of the whole fleet. -/
  network : Bool
  deriving DecidableEq, Inhabited

namespace LegacyReply

/-- The bytes `HYREPLY` and a zero. -/
def magic : Bytes := [0x48, 0x59, 0x52, 0x45, 0x50, 0x4c, 0x59, 0x00]

/-- The capability of the protocol with tokens. -/
def tokenCapability : UInt16 := 0x01

/-- The capability of telling about a whole fleet. -/
def networkCapability : UInt16 := 0x02

/-- A number as a signed one; what is too large becomes the largest. -/
def clamp (n : UInt32) : Int32 := Int32.ofInt (min (n.toNat : Int) Int32.maxValue.toInt)

/-- The number of bytes of a text with its length. -/
def textSize (s : String) : Nat := 2 + (Text.truncate s Wire.maxLength).utf8ByteSize

/-- The number of bytes of a player. -/
def playerSize (p : PlayerEntry) : Nat := textSize p.name + 16

/-- The number of bytes of a plugin. -/
def pluginSize (p : PluginEntry) : Nat := textSize p.id + textSize p.version + 1

/-- The bytes of a player. -/
def playerBytes (p : PlayerEntry) : Bytes := Wire.text p.name ++ p.uuid.toBytes

/-- The bytes of a plugin. -/
def pluginBytes (p : PluginEntry) : Bytes :=
  Wire.text p.id ++ Wire.text p.version ++ Wire.u8 (if p.enabled then 1 else 0)

/-- The part that all replies share. -/
def summaryBytes (query : LegacyQuery) (reply : LegacyReply) : Bytes :=
  let info := reply.info
  magic ++ Wire.u8 query.code ++ Wire.text info.name ++ Wire.text info.motd ++
    Wire.i32 (clamp info.playerCount) ++ Wire.i32 (clamp info.maxPlayers) ++ Wire.u16 reply.port ++
    Wire.text info.version ++ Wire.i32 (clamp info.protocolVersion) ++ Wire.text info.protocolHash

/-- The capabilities and the version of the protocol. -/
def trailer (reply : LegacyReply) : Bytes :=
  Wire.u16 (if reply.network then tokenCapability ||| networkCapability else tokenCapability) ++
    Wire.u8 Reply.version

/-- The bytes that are left for lists after a part of `used` bytes, the two counts and the
trailer. -/
def listBudget (used : Nat) : Nat := Reply.safeSize - (used + 8 + 3)

/-- The players that fit in `budget` bytes. -/
def listedPlayers (reply : LegacyReply) (budget : Nat) : List PlayerEntry :=
  Wire.takeWithin playerSize budget reply.players

/-- The plugins that fit in what the players leave of `budget`. -/
def listedPlugins (reply : LegacyReply) (budget : Nat) : List PluginEntry :=
  Wire.takeWithin pluginSize
    (budget - Wire.totalSize playerSize (reply.listedPlayers budget)) reply.plugins

/-- The two lists, each behind its length. -/
def listBytes (reply : LegacyReply) (budget : Nat) : Bytes :=
  let players := reply.listedPlayers budget
  let plugins := reply.listedPlugins budget
  Wire.i32 (clamp (UInt32.ofNat players.length)) ++ players.flatMap playerBytes ++
    Wire.i32 (clamp (UInt32.ofNat plugins.length)) ++ plugins.flatMap pluginBytes

/-- The **bytes of a reply**. -/
def encode (query : LegacyQuery) (reply : LegacyReply) : Bytes :=
  let summary := summaryBytes query reply
  let lists := match query with
    | .basic => []
    | .full => reply.listBytes (listBudget summary.length)
  summary ++ lists ++ reply.trailer

end LegacyReply

end FleetStatus
