import FleetStatus.Query.Info

set_option relaxedAutoImplicit false
set_option autoImplicit false

/-!
# Presence records

What the servers of a fleet publish about themselves and their players. Times are Unix milliseconds.

## Main definitions

* `FleetStatus.ServerRecord`, `FleetStatus.PlayerRecord` — the published records.
* `FleetStatus.ServerRecord.isStale` — whether a server has not been heard from for too long.
* `FleetStatus.Snapshot` — the records of a fleet at one time.
-/

namespace FleetStatus

/-! ## Time -/

/-- The milliseconds from `start` to `now`: none when `now` is earlier, and never more than 64
signed bits can tell. -/
def elapsed (start now : Int64) : Int := max 0 (min (now.toInt - start.toInt) Int64.maxValue.toInt)

/-! ## Records -/

/-- The game port of a server that names none. -/
def defaultPort : UInt16 := 5520

/-- What a server publishes about itself. -/
structure ServerRecord where
  serverId : String
  serverName : String
  playerCount : UInt32 := 0
  maxPlayers : UInt32 := 100
  host : Option String := none
  port : UInt16 := defaultPort
  /-- When the server was last heard from. -/
  lastHeartbeat : Int64
  deriving DecidableEq, Inhabited

namespace ServerRecord

/-- The record of a server that is seen for the first time. -/
def fresh (id name : String) (now : Int64) : ServerRecord :=
  { serverId := id, serverName := name, lastHeartbeat := now }

/-- Whether the last heartbeat is older than `timeout` milliseconds. The timeout is taken as a
signed number of 64 bits. -/
def isStale (r : ServerRecord) (now : Int64) (timeout : Nat) : Bool :=
  elapsed r.lastHeartbeat now > (Int64.ofNat timeout).toInt

end ServerRecord

/-- A player and the server that the player is on. -/
structure PlayerRecord where
  uuid : Uuid
  username : String
  serverId : String
  serverName : String
  joinTime : Int64
  deriving DecidableEq, Inhabited

/-- The player as listed in replies. -/
def PlayerRecord.entry (p : PlayerRecord) : PlayerEntry := ⟨p.uuid, p.username⟩

/-! ## Snapshots -/

/-- The sum of two counts; what is too large becomes the largest count. -/
def addCounts (a b : UInt32) : UInt32 := UInt32.ofNat (min (a.toNat + b.toNat) (UInt32.size - 1))

/-- The sum of counts. -/
def sumCounts (counts : List UInt32) : UInt32 := counts.foldl addCounts 0

/-- The records of a fleet at one time. -/
structure Snapshot where
  servers : List ServerRecord
  players : List PlayerRecord
  capturedAt : Int64
  deriving DecidableEq, Inhabited

namespace Snapshot

/-- The sum of the servers' player counts. -/
def totalPlayers (s : Snapshot) : UInt32 := sumCounts (s.servers.map (·.playerCount))

/-- The sum of the servers' capacities. -/
def totalMax (s : Snapshot) : UInt32 := sumCounts (s.servers.map (·.maxPlayers))

/-- The server with the given id. -/
def server? (s : Snapshot) (id : String) : Option ServerRecord :=
  s.servers.find? (·.serverId == id)

/-- The player with the given identity. -/
def player? (s : Snapshot) (uuid : Uuid) : Option PlayerRecord :=
  s.players.find? (·.uuid == uuid)

/-- The players as listed in replies. -/
def entries (s : Snapshot) : List PlayerEntry := s.players.map (·.entry)

end Snapshot

end FleetStatus
