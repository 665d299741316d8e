import FleetStatus.Uuid

set_option relaxedAutoImplicit false
set_option autoImplicit false

/-!
# What a reply tells

The contents of replies: the summary of a server, a player in a list, and a plugin.

## Main definitions

* `FleetStatus.ServerInfo`, `FleetStatus.PlayerEntry`, `FleetStatus.PluginEntry`.
-/

namespace FleetStatus

/-- The summary of a server. -/
structure ServerInfo where
  name : String
  /-- The message of the day. -/
  motd : String
  playerCount : UInt32
  maxPlayers : UInt32
  version : String
  protocolVersion : UInt32
  protocolHash : String
  /-- The advertised host and port. -/
  address : Option (String × UInt16)
  deriving DecidableEq, Inhabited

/-- A player in a list. -/
structure PlayerEntry where
  uuid : Uuid
  name : String
  deriving DecidableEq, Inhabited

/-- A plugin in a list. -/
structure PluginEntry where
  id : String
  version : String
  enabled : Bool
  deriving DecidableEq, Inhabited

end FleetStatus
