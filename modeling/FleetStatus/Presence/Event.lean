import FleetStatus.Presence.Record

set_option relaxedAutoImplicit false
set_option autoImplicit false

/-!
# Events

A change to the state of a fleet, as it stands on the log that the servers share.

## Main definitions

* `FleetStatus.Event` — the changes.
* `FleetStatus.Event.notifications` — what a subscriber is told about one entry of the log.
-/

namespace FleetStatus

/-- A change to the state of a fleet. -/
inductive Event where
  /-- A player is on a server; `previous` is the server that the player was moved from. -/
  | playerJoin (uuid : Uuid) (username serverId serverName : String) (previous : Option String)
  /-- A player is no longer on a server. -/
  | playerLeave (uuid : Uuid) (serverId : String)
  /-- A server is alive. -/
  | serverHeartbeat (serverId : String) (playerCount maxPlayers : UInt32)
  /-- A server joined the fleet. -/
  | serverOnline (serverId serverName : String)
  /-- A server left the fleet, with all of its players. -/
  | serverOffline (serverId : String) (reason : Option String)
  deriving DecidableEq, Inhabited

namespace Event

/-- The name of the kind of change. -/
def kind : Event → String
  | .playerJoin .. => "player_join"
  | .playerLeave .. => "player_leave"
  | .serverHeartbeat .. => "server_heartbeat"
  | .serverOnline .. => "server_online"
  | .serverOffline .. => "server_offline"

/-- The server that a change is about. -/
def serverId : Event → String
  | .playerJoin _ _ id _ _ => id
  | .playerLeave _ id => id
  | .serverHeartbeat id _ _ => id
  | .serverOnline id _ => id
  | .serverOffline id _ => id

/-- The join of a player who was on the server `previous` before. -/
def join (p : PlayerRecord) (previous : Option String) : Event :=
  .playerJoin p.uuid p.username p.serverId p.serverName previous

/-- What a subscriber is told. A join that moves a player from another server is told as a leave and
the join. -/
def notifications (e : Event) : List Event :=
  match e with
  | .playerJoin uuid _ id _ (some previous) =>
    if previous ≠ id then [.playerLeave uuid previous, e] else [e]
  | e => [e]

end Event

end FleetStatus
