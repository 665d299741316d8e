import FleetStatus.Index
import FleetStatus.Presence.Event

set_option relaxedAutoImplicit false
set_option autoImplicit false

/-!
# The local replica

A server's own copy of the state of the fleet. It is replaced by full reads of the store and kept up
to date by the entries of the log in between.

## Main definitions

* `FleetStatus.Replica` — the copy.
* `FleetStatus.Replica.refresh` — replace it by a snapshot.
* `FleetStatus.Replica.apply` — bring it up to date with one event.
* `FleetStatus.Replica.prune` — forget the servers that have not been heard from.
-/

namespace FleetStatus

/-- A copy of the state of the fleet. -/
structure Replica where
  /-- The milliseconds after which a silent server is stale. -/
  timeout : Nat := 45000
  servers : Index String ServerRecord := .empty
  players : Index Uuid PlayerRecord := .empty
  /-- The server that each player is on. -/
  locations : Index Uuid String := .empty
  /-- When the copy was last replaced. -/
  lastRefresh : Option Int64 := none
  deriving DecidableEq, Inhabited

namespace Replica

/-! ## Looking -/

/-- The players on a server, by their records. -/
def playersOn (c : Replica) (id : String) : List PlayerRecord :=
  c.players.values.filter (·.serverId == id)

/-- The copy as a snapshot. -/
def snapshot (c : Replica) (now : Int64) : Snapshot := ⟨c.servers.values, c.players.values, now⟩

/-- The number of servers that are not stale. -/
def onlineCount (c : Replica) (now : Int64) : Nat :=
  (c.servers.values.filter fun r => !r.isStale now c.timeout).length

/-- Whether some server is stale. -/
def hasStale (c : Replica) (now : Int64) : Bool :=
  c.servers.values.any (·.isStale now c.timeout)

/-! ## Changing -/

/-- Set the count of a server to the number of players located on it. -/
def recount (c : Replica) (id : String) : Replica :=
  let count := UInt32.ofNat (c.locations.values.filter (· == id)).length
  { c with servers := c.servers.adjust id fun r => { r with playerCount := count } }

/-- Put a server's record in, as it is. -/
def updateServer (c : Replica) (r : ServerRecord) : Replica :=
  { c with servers := c.servers.insert r.serverId r }

/-- Take a server out, with the players located on it. -/
def removeServer (c : Replica) (id : String) : Replica :=
  let gone := c.locations.filter fun _ at_ => at_ == id
  { c with
    servers := c.servers.erase id
    locations := c.locations.filter fun _ at_ => !(at_ == id)
    players := c.players.filter fun uuid _ => !gone.contains uuid }

/-- Put a player in, or move the player; the counts of both servers follow. -/
def updatePlayer (c : Replica) (p : PlayerRecord) : Replica :=
  let before := (c.locations.get? p.uuid).filter (· ≠ p.serverId)
  let placed := { c with
    locations := c.locations.insert p.uuid p.serverId
    players := c.players.insert p.uuid p }
  (before.elim placed placed.recount).recount p.serverId

/-- Take a player out; the count of the server follows. -/
def removePlayer (c : Replica) (uuid : Uuid) : Replica :=
  let taken := { c with
    players := c.players.erase uuid
    locations := c.locations.erase uuid }
  (c.locations.get? uuid).elim taken taken.recount

/-- Replace the copy by a snapshot. -/
def refresh (c : Replica) (s : Snapshot) (now : Int64) : Replica where
  timeout := c.timeout
  servers := .ofList (s.servers.map fun r => (r.serverId, r))
  players := .ofList (s.players.map fun p => (p.uuid, p))
  locations := .ofList (s.players.map fun p => (p.uuid, p.serverId))
  lastRefresh := some now

/-- The ids of the stale servers. -/
def staleIds (c : Replica) (now : Int64) : List String :=
  (c.servers.values.filter (·.isStale now c.timeout)).map (·.serverId)

/-- Take the stale servers out, with their players. -/
def prune (c : Replica) (now : Int64) : Replica := (c.staleIds now).foldl removeServer c

/-- Forget everything. -/
def clear (c : Replica) : Replica := { timeout := c.timeout }

/-- Bring the copy up to date with one **event**. -/
def apply (c : Replica) (now : Int64) : Event → Replica
  | .playerJoin uuid username id name _ =>
    let known := (c.players.get? uuid).filter (·.serverId = id)
    c.updatePlayer ⟨uuid, username, id, name, (known.map (·.joinTime)).getD now⟩
  | .playerLeave uuid id =>
    if c.locations.get? uuid = some id then c.removePlayer uuid else c
  | .serverHeartbeat id _ max =>
    { c with
      servers := c.servers.adjust id fun r => { r with maxPlayers := max, lastHeartbeat := now } }
  | .serverOnline id name =>
    let fresh := ServerRecord.fresh id name now
    let r := ((c.servers.get? id).map fun old =>
      { fresh with maxPlayers := old.maxPlayers, host := old.host, port := old.port }).getD fresh
    (c.updateServer r).recount id
  | .serverOffline id _ => c.removeServer id

end Replica

end FleetStatus
