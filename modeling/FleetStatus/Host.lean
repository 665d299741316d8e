import FleetStatus.Index
import FleetStatus.Settings

set_option relaxedAutoImplicit false
set_option autoImplicit false

/-!
# The local server

What a game server tells about itself and who is connected to it.

## Main definitions

* `FleetStatus.HostReport` — everything that replies and records are made of.
* `FleetStatus.Identity` — what does not change while a server runs.
* `FleetStatus.Host` — a server that keeps track of its players.
-/

namespace FleetStatus

/-! ## Reports -/

/-- What a game server tells about itself. -/
structure HostReport where
  name : String
  motd : String
  playerCount : UInt32
  maxPlayers : UInt32
  /-- The connected players, always in the same order. -/
  players : List PlayerEntry
  version : String
  protocolVersion : UInt32
  protocolHash : String
  /-- The address that clients are told. -/
  host : Option String
  port : UInt16
  plugins : List PluginEntry := []
  deriving DecidableEq, Inhabited

namespace HostReport

/-- The summary of the server on its own. -/
def info (r : HostReport) : ServerInfo where
  name := r.name
  motd := r.motd
  playerCount := r.playerCount
  maxPlayers := r.maxPlayers
  version := r.version
  protocolVersion := r.protocolVersion
  protocolHash := r.protocolHash
  address := r.host.map fun h => (h, r.port)

/-- The record that the server publishes under the given id. -/
def record (r : HostReport) (id : String) (now : Int64) : ServerRecord where
  serverId := id
  serverName := r.name
  playerCount := r.playerCount
  maxPlayers := r.maxPlayers
  host := r.host
  port := r.port
  lastHeartbeat := now

/-- The server and its players as a fleet of one. -/
def snapshot (r : HostReport) (id : String) (now : Int64) : Snapshot where
  servers := [r.record id now]
  players := r.players.map fun p => ⟨p.uuid, p.name, id, r.name, now⟩
  capturedAt := now

end HostReport

/-! ## Hosts -/

/-- What does not change while a server runs. -/
structure Identity where
  name : String := "Fleet Server"
  motd : String := ""
  maxPlayers : UInt32 := 100
  version : String := "0.1.0"
  protocolVersion : UInt32 := 1
  protocolHash : String := ""
  host : Option String := none
  port : UInt16 := defaultPort
  deriving DecidableEq, Inhabited

/-- The identity with the given values put in. -/
def Identity.withOverrides (i : Identity) (o : IdentityOverrides) : Identity :=
  { i with
    name := o.serverName.getD i.name
    motd := o.motd.getD i.motd
    host := o.host.or i.host
    port := o.port.getD i.port
    maxPlayers := o.maxPlayers.getD i.maxPlayers }

/-- A server that keeps track of its players. -/
structure Host where
  identity : Identity := {}
  /-- The names of the connected players. -/
  players : Index Uuid String := .empty
  /-- The plugins that full legacy replies list. -/
  plugins : List PluginEntry := []
  deriving DecidableEq, Inhabited

namespace Host

/-- The host after a player connected under a name, and whether the player was not connected
before. -/
def join (h : Host) (uuid : Uuid) (name : String) : Bool × Host :=
  (!h.players.contains uuid, { h with players := h.players.insert uuid name })

/-- The host after a player disconnected, and whether the player was connected. -/
def leave (h : Host) (uuid : Uuid) : Bool × Host :=
  (h.players.contains uuid, { h with players := h.players.erase uuid })

/-- What the host tells about itself. -/
def report (h : Host) : HostReport where
  name := h.identity.name
  motd := h.identity.motd
  playerCount := UInt32.ofNat h.players.size
  maxPlayers := h.identity.maxPlayers
  players := h.players.entries.map fun (u, n) => ⟨u, n⟩
  version := h.identity.version
  protocolVersion := h.identity.protocolVersion
  protocolHash := h.identity.protocolHash
  host := h.identity.host
  port := h.identity.port
  plugins := h.plugins

end Host

end FleetStatus
