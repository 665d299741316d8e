import FleetStatus.Json.Printer
import FleetStatus.Json.Reader
import FleetStatus.Json.Record
import FleetStatus.Settings

set_option relaxedAutoImplicit false
set_option autoImplicit false

/-!
# Settings in JSON

The document with the settings of a server. Every field may be missing; names that are not known are
passed over.

## Main definitions

* `FleetStatus.Settings.toText`, `FleetStatus.Settings.ofText` — the settings as text.
* `FleetStatus.Settings.ofFile` — the settings in a file.
-/

namespace FleetStatus

open Json (nullable nullable?)

/-! ## Access -/

namespace Permissions

/-- The document of permissions. -/
def toJson (p : Permissions) : Json :=
  .object [("Basic", .bool p.basic), ("Players", .bool p.players)]

/-- The permissions in a document. -/
def ofJson? (v : Json) : Option Permissions := do
  let r ← v.record? ["Basic", "Players"]
  return {
    basic := ← r.withDefault "Basic" true Json.bool?
    players := ← r.withDefault "Players" true Json.bool? }

end Permissions

namespace AccessTable

/-- The document of an access table. -/
def toJson (t : AccessTable) : Json := .object [
  ("Public", t.everyone.toJson),
  ("Tokens", .object (t.tokens.entries.map fun (k, p) => (k, p.toJson)))]

/-- The permissions of tokens; of two entries for one token the later one counts. -/
def tokens? : Json → Option (Index String Permissions)
  | .object fields => do
    let entries ← fields.mapM fun (k, v) => (Permissions.ofJson? v).map fun p => (k, p)
    return .ofList entries
  | _ => none

/-- The access table in a document. -/
def ofJson? (v : Json) : Option AccessTable := do
  let r ← v.record? ["Public", "Tokens"]
  return {
    everyone := ← r.withDefault "Public" .all Permissions.ofJson?
    tokens := ← r.withDefault "Tokens" .empty tokens? }

end AccessTable

/-! ## Network -/

namespace FleetMode

/-- A mode as a string. -/
def toJson (m : FleetMode) : Json := .string m.name

/-- The mode in a string. -/
def ofJson? (v : Json) : Option FleetMode := v.text?.map ofName

end FleetMode

namespace RedisSettings

/-- The document of Redis settings. -/
def toJson (s : RedisSettings) : Json := .object [
  ("Host", .string s.host), ("Port", .nat s.port.toNat),
  ("Username", nullable .string s.username), ("Password", nullable .string s.password),
  ("Database", .nat s.database.toNat), ("UseTLS", .bool s.useTls),
  ("Url", nullable .string s.url)]

/-- The Redis settings in a document. -/
def ofJson? (v : Json) : Option RedisSettings := do
  let r ← v.record? ["Host", "Port", "Username", "Password", "Database", "UseTLS", "Url"]
  return {
    host := ← r.withDefault "Host" "localhost" Json.text?
    port := ← r.withDefault "Port" 6379 Json.u16?
    username := ← r.withDefault "Username" none (nullable? Json.text?)
    password := ← r.withDefault "Password" none (nullable? Json.text?)
    database := ← r.withDefault "Database" 0 Json.u32?
    useTls := ← r.withDefault "UseTLS" false Json.bool?
    url := ← r.withDefault "Url" none (nullable? Json.text?) }

end RedisSettings

namespace StoreSettings

/-- The document of store settings. -/
def toJson (s : StoreSettings) : Json := .object [
  ("Type", .string s.kind), ("Redis", s.redis.toJson)]

/-- The store settings in a document. -/
def ofJson? (v : Json) : Option StoreSettings := do
  let r ← v.record? ["Type", "Redis"]
  return {
    kind := ← r.withDefault "Type" "redis" Json.text?
    redis := ← r.withDefault "Redis" {} RedisSettings.ofJson? }

end StoreSettings

namespace Timing

/-- The document of periods. -/
def toJson (t : Timing) : Json := .object [
  ("HeartbeatIntervalSeconds", .nat t.heartbeatInterval.toNat),
  ("CacheRefreshSeconds", .nat t.cacheRefresh.toNat),
  ("ServerTimeoutSeconds", .nat t.serverTimeout.toNat)]

/-- The periods in a document. -/
def ofJson? (v : Json) : Option Timing := do
  let r ← v.record? ["HeartbeatIntervalSeconds", "CacheRefreshSeconds", "ServerTimeoutSeconds"]
  return {
    heartbeatInterval := ← r.withDefault "HeartbeatIntervalSeconds" 15 Json.u64?
    cacheRefresh := ← r.withDefault "CacheRefreshSeconds" 60 Json.u64?
    serverTimeout := ← r.withDefault "ServerTimeoutSeconds" 45 Json.u64? }

end Timing

namespace NetworkSettings

/-- The document of network settings. -/
def toJson (n : NetworkSettings) : Json := .object [
  ("Enabled", .bool n.enabled), ("ServerId", .string n.serverId),
  ("NetworkId", .string n.networkId), ("Mode", n.mode.toJson),
  ("Store", n.store.toJson), ("Timing", n.timing.toJson)]

/-- The network settings in a document. -/
def ofJson? (v : Json) : Option NetworkSettings := do
  let r ← v.record? ["Enabled", "ServerId", "NetworkId", "Mode", "Store", "Timing"]
  return {
    enabled := ← r.withDefault "Enabled" false Json.bool?
    serverId := ← r.withDefault "ServerId" "server-1" Json.text?
    networkId := ← r.withDefault "NetworkId" "default" Json.text?
    mode := ← r.withDefault "Mode" .aggregate FleetMode.ofJson?
    store := ← r.withDefault "Store" {} StoreSettings.ofJson?
    timing := ← r.withDefault "Timing" {} Timing.ofJson? }

end NetworkSettings

/-! ## All settings -/

namespace IdentityOverrides

/-- The document of overrides. -/
def toJson (o : IdentityOverrides) : Json := .object [
  ("ServerName", nullable .string o.serverName), ("Motd", nullable .string o.motd),
  ("Host", nullable .string o.host), ("Port", nullable (.nat ·.toNat) o.port),
  ("MaxPlayers", nullable (.nat ·.toNat) o.maxPlayers)]

/-- The overrides in a document. -/
def ofJson? (v : Json) : Option IdentityOverrides := do
  let r ← v.record? ["ServerName", "Motd", "Host", "Port", "MaxPlayers"]
  return {
    serverName := ← r.withDefault "ServerName" none (nullable? Json.text?)
    motd := ← r.withDefault "Motd" none (nullable? Json.text?)
    host := ← r.withDefault "Host" none (nullable? Json.text?)
    port := ← r.withDefault "Port" none (nullable? Json.u16?)
    maxPlayers := ← r.withDefault "MaxPlayers" none (nullable? Json.u32?) }

end IdentityOverrides

namespace Settings

/-- The document of settings. -/
def toJson (s : Settings) : Json := .object [
  ("Enabled", .bool s.enabled), ("LegacyProtocolEnabled", .bool s.legacyEnabled),
  ("Bind", .string s.bind), ("Authentication", s.access.toJson),
  ("Network", s.network.toJson), ("ServerInfo", s.overrides.toJson)]

/-- The settings in a document, ids as written. -/
def ofJson? (v : Json) : Option Settings := do
  let r ← v.record?
    ["Enabled", "LegacyProtocolEnabled", "Bind", "Authentication", "Network", "ServerInfo"]
  return {
    enabled := ← r.withDefault "Enabled" true Json.bool?
    legacyEnabled := ← r.withDefault "LegacyProtocolEnabled" true Json.bool?
    bind := ← r.withDefault "Bind" "0.0.0.0:5520" Json.text?
    access := ← r.withDefault "Authentication" {} AccessTable.ofJson?
    network := ← r.withDefault "Network" {} NetworkSettings.ofJson?
    overrides := ← r.withDefault "ServerInfo" {} IdentityOverrides.ofJson? }

/-- The text of the settings. -/
def toText (s : Settings) : String := s.toJson.toText

/-- The **settings in a text**. -/
def ofText (s : String) : Except SettingsError Settings :=
  match (Json.parse? s).bind ofJson? with
  | some settings => .ok settings.normalized
  | none => .error .malformed

/-- The settings in a file with the given bytes; `none` is no file. -/
def ofFile (data : Option Bytes) : Except SettingsError Settings :=
  match data.bind Text.ofUtf8? with
  | some text => ofText text
  | none => .error .unreadable

end Settings

end FleetStatus
