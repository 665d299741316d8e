import FleetStatus.Member
import FleetStatus.Responder

set_option relaxedAutoImplicit false
set_option autoImplicit false

/-!
# Nodes

A node is one server with everything that was set up for it: the host that knows the players, the
responder that answers datagrams and the member that takes part in the fleet.

## Main definitions

* `FleetStatus.Node.ofSettings` — the node that settings ask for.
* `FleetStatus.Node.reply` — its answer to a datagram.
* `FleetStatus.Node.due` — when its timers go off.
-/

namespace FleetStatus

/-- What a running node does again and again. -/
inductive Chore where
  /-- Publish the server's record. -/
  | heartbeat
  /-- Read the whole store. -/
  | refresh
  deriving DecidableEq, Inhabited

/-- A server of a fleet. -/
structure Node where
  host : Host
  responder : Responder
  member : Member
  /-- Whether answers may be about the fleet. -/
  attached : Bool := false
  /-- When the member was started, in milliseconds of uptime. -/
  startedAt : Nat := 0
  deriving DecidableEq

namespace Node

/-- The **node that settings ask for**. -/
def ofSettings (settings : Settings) (codec : Challenge.Codec) (host : Host) : Node where
  host := { host with identity := host.identity.withOverrides settings.overrides }
  responder := .ofSettings settings codec
  member := .new settings.network
  attached := settings.network.enabled

/-- What the node tells about its server. -/
def report (n : Node) : HostReport := n.host.report

/-- What the node answers about at a time. -/
def view (n : Node) (now : Int64) : View where
  report := n.report
  fleet := if n.attached then n.member.aggregatedSnapshot now else none

/-- The answer to a datagram from an address; `none` when it is dropped. -/
def reply (n : Node) (now : Int64) (ip : Ip) (datagram : Bytes) : Option Bytes :=
  n.responder.reply (n.view now) now ip datagram

/-! ## Timers -/

/-- The multiples of `period`, counted from `start` on, that lie after `since` and not after
`until_`. -/
def multiples (start period since until_ : Nat) : List Nat :=
  let before := (since - start) / period
  (List.range ((until_ - start) / period - before)).map fun k => start + (before + k + 1) * period

/-- The times after `since` and not after `until_` at which chores of the node are due. Only a node
that keeps a replica reads the store. -/
def due (n : Node) (since until_ : Nat) : List (Nat × Chore) :=
  let timing := n.member.settings.timing
  let times (chore : Chore) (seconds : Nat) : List (Nat × Chore) :=
    (multiples n.startedAt (1000 * seconds) since until_).map (·, chore)
  if n.member.isRunning then
    times .heartbeat timing.heartbeatSeconds ++
      if n.member.settings.syncs then times .refresh timing.refreshSeconds else []
  else []

/-- The member after a chore was done, and the store. -/
def work (n : Node) (now : Int64) (store : Store) : Chore → Member × Store
  | .heartbeat => (n.member, n.member.beat n.report now store)
  | .refresh => n.member.readAgain now store

end Node

end FleetStatus
