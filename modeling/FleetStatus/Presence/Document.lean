import FleetStatus.Json.Printer
import FleetStatus.Json.Reader
import FleetStatus.Json.Record
import FleetStatus.Presence.Event

set_option relaxedAutoImplicit false
set_option autoImplicit false

/-!
# Presence in JSON

The documents in which records and events are kept and sent.

An event names its kind in the field `type`. Its other fields can only be read once the kind is
known, so the whole document must stand for something, down to the parts that are passed over, and
must not be nested deeper than `maxDepth`.

## Main definitions

* `FleetStatus.ServerRecord.toJson`, `FleetStatus.ServerRecord.ofJson?`, and the same for players
  and events.
* `FleetStatus.Event.toText`, `FleetStatus.Event.ofText?` — an entry of the log as text.
-/

namespace FleetStatus

open Json (nullable)

namespace Uuid

/-- An identity as a string. -/
def toJson (u : Uuid) : Json := .string u.toText

/-- The identity in a string. -/
def ofJson? (v : Json) : Option Uuid := v.text?.bind ofText?

end Uuid

/-! ## Records -/

namespace ServerRecord

/-- The document of a server. -/
def toJson (r : ServerRecord) : Json := .object [
  ("server_id", .string r.serverId), ("server_name", .string r.serverName),
  ("player_count", .nat r.playerCount.toNat), ("max_players", .nat r.maxPlayers.toNat),
  ("host", nullable .string r.host), ("port", .nat r.port.toNat),
  ("last_heartbeat", .int r.lastHeartbeat.toInt)]

/-- The server that a document is about. -/
def ofJson? (v : Json) : Option ServerRecord := do
  let r ← v.record? ["server_id", "server_name", "player_count", "max_players", "host", "port",
    "last_heartbeat"]
  return {
    serverId := ← r.required "server_id" Json.text?
    serverName := ← r.required "server_name" Json.text?
    playerCount := ← r.required "player_count" Json.u32?
    maxPlayers := ← r.required "max_players" Json.u32?
    host := ← r.optional "host" Json.text?
    port := ← r.required "port" Json.u16?
    lastHeartbeat := ← r.required "last_heartbeat" Json.i64? }

end ServerRecord

namespace PlayerRecord

/-- The document of a player. -/
def toJson (p : PlayerRecord) : Json := .object [
  ("uuid", p.uuid.toJson), ("username", .string p.username), ("server_id", .string p.serverId),
  ("server_name", .string p.serverName), ("join_time", .int p.joinTime.toInt)]

/-- The player that a document is about. -/
def ofJson? (v : Json) : Option PlayerRecord := do
  let r ← v.record? ["uuid", "username", "server_id", "server_name", "join_time"]
  return {
    uuid := ← r.required "uuid" Uuid.ofJson?
    username := ← r.required "username" Json.text?
    serverId := ← r.required "server_id" Json.text?
    serverName := ← r.required "server_name" Json.text?
    joinTime := ← r.required "join_time" Json.i64? }

end PlayerRecord

/-! ## Events -/

namespace Event

/-- The deepest nesting in the document of an event. -/
def maxDepth : Nat := 127

/-- A field that is left out when there is nothing to tell. -/
def optionalField (name : String) (value : Option String) : List (String × Json) :=
  value.elim [] fun s => [(name, .string s)]

/-- The fields of an event after its kind. -/
def fields : Event → List (String × Json)
  | .playerJoin uuid username id name previous =>
    [("uuid", uuid.toJson), ("username", .string username), ("server_id", .string id),
      ("server_name", .string name)] ++ optionalField "previous_server_id" previous
  | .playerLeave uuid id => [("uuid", uuid.toJson), ("server_id", .string id)]
  | .serverHeartbeat id count max =>
    [("server_id", .string id), ("player_count", .nat count.toNat), ("max_players", .nat max.toNat)]
  | .serverOnline id name => [("server_id", .string id), ("server_name", .string name)]
  | .serverOffline id reason => ("server_id", .string id) :: optionalField "reason" reason

/-- The document of an event. -/
def toJson (e : Event) : Json := .object (("type", .string e.kind) :: e.fields)

/-- The event of a kind whose other fields are in `body`. -/
def ofFields? (kind : String) (body : Json) : Option Event :=
  let text (r : Json.Record) (name : String) : Option String := r.required name Json.text?
  let maybeText (r : Json.Record) (name : String) : Option (Option String) :=
    r.withDefault name none (Json.nullable? Json.text?)
  match kind with
  | "player_join" => do
    let r ← body.record? ["uuid", "username", "server_id", "server_name", "previous_server_id"]
    return .playerJoin (← r.required "uuid" Uuid.ofJson?) (← text r "username")
      (← text r "server_id") (← text r "server_name") (← maybeText r "previous_server_id")
  | "player_leave" => do
    let r ← body.record? ["uuid", "server_id"]
    return .playerLeave (← r.required "uuid" Uuid.ofJson?) (← text r "server_id")
  | "server_heartbeat" => do
    let r ← body.record? ["server_id", "player_count", "max_players"]
    return .serverHeartbeat (← text r "server_id") (← r.required "player_count" Json.u32?)
      (← r.required "max_players" Json.u32?)
  | "server_online" => do
    let r ← body.record? ["server_id", "server_name"]
    return .serverOnline (← text r "server_id") (← text r "server_name")
  | "server_offline" => do
    let r ← body.record? ["server_id", "reason"]
    return .serverOffline (← text r "server_id") (← maybeText r "reason")
  | _ => none

/-- The event that a document is about: an object with the kind in one of its fields, or an array
that begins with the kind. -/
def ofJson? (v : Json) : Option Event :=
  if v.isPlain && v.depth ≤ maxDepth then
    match v with
    | .object fields =>
      match fields.filter (·.1 == "type") with
      | [(_, .string kind)] => ofFields? kind (.object (fields.filter (·.1 != "type")))
      | _ => none
    | .array (.string kind :: items) => ofFields? kind (.array items)
    | _ => none
  else none

/-- The text of an event on the log. -/
def toText (e : Event) : String := e.toJson.toText

/-- The event that a text on the log is about. -/
def ofText? (s : String) : Option Event := (Json.parse? s).bind ofJson?

end Event

end FleetStatus
