import FleetStatus.Host
import FleetStatus.Query.Legacy
import FleetStatus.Query.Request

set_option relaxedAutoImplicit false
set_option autoImplicit false

/-!
# Answering datagrams

A datagram is answered or dropped:

| datagram | answer |
|---|---|
| no known magic, malformed, or without a valid token | none |
| legacy request while legacy requests are not answered | none |
| query that the bearer token is not permitted | refusal |
| any other query | summary or page of players |

The answers are about the fleet when a view of the fleet is given, else about the server alone.

## Main definitions

* `FleetStatus.Responder` — what is needed to answer.
* `FleetStatus.Responder.reply` — the answer to a datagram.
-/

namespace FleetStatus

/-- What is needed to answer datagrams. -/
structure Responder where
  codec : Challenge.Codec
  access : AccessTable
  /-- Whether legacy requests are answered. -/
  legacyEnabled : Bool := false
  deriving DecidableEq

/-- What a responder answers about. -/
structure View where
  /-- The server. -/
  report : HostReport
  /-- The fleet, if answers are about it. -/
  fleet : Option Snapshot := none
  deriving DecidableEq, Inhabited

namespace View

/-- The summary: the server's own, with the numbers of the fleet. -/
def info (v : View) : ServerInfo :=
  match v.fleet with
  | none => v.report.info
  | some s => { v.report.info with playerCount := s.totalPlayers, maxPlayers := s.totalMax }

/-- The players to list. -/
def players (v : View) : List PlayerEntry := v.fleet.elim v.report.players (·.entries)

/-- The flags of answers. -/
def flags (v : View) : UInt16 := if v.fleet.isSome then Reply.networkFlag else 0

end View

namespace Responder

/-- The responder that settings ask for. -/
def ofSettings (settings : Settings) (codec : Challenge.Codec) : Responder where
  codec := codec
  access := settings.access
  legacyEnabled := settings.legacyEnabled

/-- The answer to a query whose token is valid. -/
def answer (r : Responder) (v : View) (q : Query) : Bytes :=
  if r.access.allows q.endpoint q.bearer then
    match q.endpoint with
    | .players => (Reply.players q.requestId v.flags v.players q.offset).packet
    | .basic => Reply.basic q.requestId v.flags v.info
  else Reply.authRequired q.requestId v.report.info

/-- The answer to a query, which must carry a valid token. -/
def replyToQuery (r : Responder) (v : View) (now : Int64) (ip : Ip) (q : Query) : Option Bytes :=
  match q.token with
  | none => none
  | some token => if r.codec.accepts token.val ip (now.toInt / 1000) then r.answer v q else none

/-- The answer to a legacy request. Players are told in full replies only. -/
def replyToLegacy (v : View) (query : LegacyQuery) : Bytes :=
  LegacyReply.encode query {
    info := v.info
    port := v.report.port
    players := match query with
      | .basic => []
      | .full => v.players
    plugins := v.report.plugins
    network := v.fleet.isSome }

/-- The **answer to a datagram** from an address; `none` when it is dropped. -/
def reply (r : Responder) (v : View) (now : Int64) (ip : Ip) (datagram : Bytes) : Option Bytes :=
  if Request.isRequest datagram then
    match Request.parse datagram with
    | .error _ => none
    | .ok .challenge => some (Reply.challenge (r.codec.issue ip (now.toInt / 1000)))
    | .ok (.query q) => r.replyToQuery v now ip q
  else
    match LegacyQuery.parse? datagram with
    | none => none
    | some query => if r.legacyEnabled then some (replyToLegacy v query) else none

end Responder

end FleetStatus
