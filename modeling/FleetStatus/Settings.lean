import FleetStatus.Access
import FleetStatus.Address.Text
import FleetStatus.Presence.Record
import FleetStatus.Text.Blank

set_option relaxedAutoImplicit false
set_option autoImplicit false

/-!
# Settings

What a server is told about itself: where to listen, who may ask what, and how to take part in a
fleet. Every setting has a default, so that no settings at all make a working server of its own.

## Main definitions

* `FleetStatus.Settings` — all settings.
* `FleetStatus.NetworkSettings`, `FleetStatus.StoreSettings`, `FleetStatus.RedisSettings`,
  `FleetStatus.Timing`, `FleetStatus.IdentityOverrides` — their parts.
* `FleetStatus.Settings.withOverrides` — settings with the values of environment variables put in.
-/

namespace FleetStatus

/-! ## Errors -/

/-- What can be wrong with settings. -/
inductive SettingsError where
  /-- The file is missing or no text. -/
  | unreadable
  /-- The text is no document with settings. -/
  | malformed
  /-- The text is no address and port to listen on. -/
  | invalidBind (bind : String)
  /-- No store of this kind is known. -/
  | unsupportedStore (kind : String)
  deriving DecidableEq, Inhabited

/-- The wording of an error that is this library's own. -/
def SettingsError.message? : SettingsError → Option String
  | .unreadable => none
  | .malformed => none
  | .invalidBind bind => some ("Invalid bind address: " ++ bind)
  | .unsupportedStore kind => some ("Unsupported store type: " ++ kind)

/-! ## Taking part in a fleet -/

/-- How far a server takes part in its fleet. -/
inductive FleetMode where
  /-- Publish the own state only. -/
  | publish
  /-- Also keep a replica of the state of the fleet. -/
  | sync
  /-- Also answer queries from the replica. -/
  | aggregate
  deriving DecidableEq, Inhabited

namespace FleetMode

/-- The name of a mode. -/
def name : FleetMode → String
  | .publish => "PUBLISH"
  | .sync => "SYNC"
  | .aggregate => "AGGREGATE"

/-- The mode with the given name, in any case and between blanks; any other name is taken for
`aggregate`. -/
def ofName (s : String) : FleetMode :=
  match Text.asciiUpper (Text.trim s) with
  | "PUBLISH" => .publish
  | "SYNC" => .sync
  | _ => .aggregate

end FleetMode

/-- The kinds of store. -/
inductive StoreKind where
  | redis
  deriving DecidableEq, Inhabited

/-- The name of a kind of store. -/
def StoreKind.name : StoreKind → String
  | .redis => "Redis"

/-- How to reach the Redis server of the store. -/
structure RedisSettings where
  host : String := "localhost"
  port : UInt16 := 6379
  username : Option String := none
  password : Option String := none
  database : UInt32 := 0
  useTls : Bool := false
  /-- A whole address; it counts in place of the other settings unless it is blank. -/
  url : Option String := none
  deriving DecidableEq, Inhabited

namespace RedisSettings

/-- The part of an address that tells who connects. Empty names and passwords count as none. -/
def credentials (s : RedisSettings) : String :=
  match s.username.filter (· ≠ ""), s.password.filter (· ≠ "") with
  | some user, some password => user ++ ":" ++ password ++ "@"
  | none, some password => ":" ++ password ++ "@"
  | some user, none => user ++ "@"
  | none, none => ""

/-- The address of the store. -/
def toUrl (s : RedisSettings) : String :=
  match s.url.filter fun u => !Text.isBlank u with
  | some url => url
  | none =>
    (if s.useTls then "rediss" else "redis") ++ "://" ++ s.credentials ++ s.host ++ ":" ++
      toString s.port.toNat ++
      if s.database > 0 then "/" ++ toString s.database.toNat else ""

end RedisSettings

/-- Which store the fleet shares. -/
structure StoreSettings where
  /-- The name of the kind of store. -/
  kind : String := "redis"
  redis : RedisSettings := {}
  deriving DecidableEq, Inhabited

/-- The kind of store, if its name is known. -/
def StoreSettings.kind? (s : StoreSettings) : Except SettingsError StoreKind :=
  let name := Text.asciiLower (Text.trim s.kind)
  if name = "redis" then .ok .redis else .error (.unsupportedStore name)

/-- The periods in seconds, as written. -/
structure Timing where
  heartbeatInterval : UInt64 := 15
  cacheRefresh : UInt64 := 60
  serverTimeout : UInt64 := 45
  deriving DecidableEq, Inhabited

namespace Timing

/-- The seconds between two heartbeats: from 5 to 300. -/
def heartbeatSeconds (t : Timing) : Nat := max 5 (min 300 t.heartbeatInterval.toNat)

/-- The seconds between two full reads: from 10 to 300. -/
def refreshSeconds (t : Timing) : Nat := max 10 (min 300 t.cacheRefresh.toNat)

/-- The seconds after which a silent server is stale: at least one. -/
def timeoutSeconds (t : Timing) : Nat := max 1 t.serverTimeout.toNat

/-- The seconds for which a published record lasts: two heartbeats. -/
def recordSeconds (t : Timing) : Nat := 2 * t.heartbeatSeconds

/-- The milliseconds after which a silent server is stale. -/
def timeoutMillis (t : Timing) : Nat := 1000 * t.timeoutSeconds

end Timing

/-- How a server takes part in its fleet. -/
structure NetworkSettings where
  enabled : Bool := false
  serverId : String := "server-1"
  networkId : String := "default"
  mode : FleetMode := .aggregate
  store : StoreSettings := {}
  timing : Timing := {}
  deriving DecidableEq, Inhabited

namespace NetworkSettings

/-- Whether a replica of the state of the fleet is kept. -/
def syncs (n : NetworkSettings) : Bool := n.mode = .sync || n.mode = .aggregate

/-- Whether queries are answered from the replica. -/
def aggregates (n : NetworkSettings) : Bool := n.mode = .aggregate

/-- The settings with default ids in the place of blank ones. -/
def normalized (n : NetworkSettings) : NetworkSettings :=
  { n with
    serverId := if Text.isBlank n.serverId then "server-1" else n.serverId
    networkId := if Text.isBlank n.networkId then "default" else n.networkId }

end NetworkSettings

/-! ## All settings -/

/-- Values that count in place of what a server tells about itself. -/
structure IdentityOverrides where
  serverName : Option String := none
  motd : Option String := none
  host : Option String := none
  port : Option UInt16 := none
  maxPlayers : Option UInt32 := none
  deriving DecidableEq, Inhabited

/-- Whether some value is given. -/
def IdentityOverrides.any (o : IdentityOverrides) : Bool :=
  o.serverName.isSome || o.motd.isSome || o.host.isSome || o.port.isSome || o.maxPlayers.isSome

/-- The **settings** of a server. -/
structure Settings where
  enabled : Bool := true
  legacyEnabled : Bool := true
  /-- Where to listen. -/
  bind : String := "0.0.0.0:5520"
  access : AccessTable := {}
  network : NetworkSettings := {}
  overrides : IdentityOverrides := {}
  deriving DecidableEq, Inhabited

namespace Settings

/-- The address and port to listen on. -/
def bindAddress (s : Settings) : Except SettingsError SocketAddress :=
  match SocketAddress.ofText? s.bind with
  | some a => .ok a
  | none => .error (.invalidBind s.bind)

/-- The settings with default ids in the place of blank ones. -/
def normalized (s : Settings) : Settings := { s with network := s.network.normalized }

/-- Put a value in, unless there is none. -/
def override {α : Type} (value : Option α) (put : α → Settings → Settings) (s : Settings) :
    Settings :=
  value.elim s (put · s)

/-- The settings with the values of **environment variables** put in; a blank value counts as none.
A store address also turns the network on. -/
def withOverrides (s : Settings) (lookup : String → Option String) : Settings :=
  let value (name : String) : Option String := (lookup name).filter fun v => !Text.isBlank v
  s |> override (value "FLEETQUERY_BIND") (fun v s => { s with bind := v })
    |> override (value "FLEETQUERY_SERVER_ID") (fun v s =>
      { s with network := { s.network with serverId := v } })
    |> override (value "FLEETQUERY_NETWORK_ID") (fun v s =>
      { s with network := { s.network with networkId := v } })
    |> override (value "FLEETQUERY_MODE") (fun v s =>
      { s with network := { s.network with mode := .ofName v } })
    |> override (value "FLEETQUERY_REDIS_URL") (fun v s =>
      let redis := { s.network.store.redis with url := some v }
      { s with
        network := { s.network with enabled := true, store := { s.network.store with redis } } })
    |> normalized

end Settings

end FleetStatus
