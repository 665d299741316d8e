import FleetStatus.Listener
import FleetStatus.Node
import FleetStatus.Settings.Document
import FleetStatus.StoreAddress
import Std.Async.UDP
import Std.Time.DateTime

set_option relaxedAutoImplicit false
set_option autoImplicit false

/-!
# The query server

Listens for datagrams and answers them. The settings are read from the file that the first argument
or the environment variable `FLEETQUERY_CONFIG` names, and other environment variables are put in.

No connection to a store outside the process is made, so a server that is told to take part in a
fleet says so and answers on its own.
-/

namespace FleetStatus.CommandLine

/-! ## Surroundings -/

/-- The wall clock in milliseconds. -/
def wallClock : IO Int64 := do
  return Int64.ofInt (← Std.Time.Timestamp.now).toMillisecondsSinceUnixEpoch.val

/-- The bytes of the file with the given name, if it can be read. -/
def fileBytes? (name : String) : IO (Option Bytes) := do
  try
    let data ← IO.FS.readBinFile name
    return some data.data.toList
  catch _ => return none

/-- The values of the environment variables that settings can be overridden by. -/
def environment : IO (List (String × String)) := do
  let names := ["FLEETQUERY_BIND", "FLEETQUERY_SERVER_ID", "FLEETQUERY_NETWORK_ID",
    "FLEETQUERY_MODE", "FLEETQUERY_REDIS_URL"]
  let values ← names.mapM fun name => do return (← IO.getEnv name).map fun v => (name, v)
  return values.filterMap id

/-- The settings for the given arguments. -/
def loadSettings (args : List String) : IO (Except SettingsError Settings) := do
  let name := args.head?.or (← IO.getEnv "FLEETQUERY_CONFIG")
  let settings ← match name with
    | some name => do pure (Settings.ofFile (← fileBytes? name))
    | none => pure (.ok {})
  let values ← environment
  return settings.map fun s => s.withOverrides fun name => List.lookup name values

/-- Where a datagram came from: the version 4 address with the given bytes, or the version 6 address
with the given groups. -/
def sourceOf : Std.Net.SocketAddress → SocketAddress
  | .v4 a => { ip := .v4 (BitVec.ofNat 32 (Bytes.ofBig a.addr.octets.toList)), port := a.port }
  | .v6 a => {
    ip := .v6 (BitVec.ofNat 128 (Address.ofGroups (a.addr.segments.toList.map (·.toNat))))
    port := a.port }

/-- The place to listen at. -/
def placeOf (a : SocketAddress) : Std.Net.SocketAddress :=
  match a.ip with
  | .v4 b => .v4 ⟨⟨Vector.ofFn fun i => UInt8.ofNat (b.toNat >>> (8 * (3 - i.val)))⟩, a.port⟩
  | .v6 b => .v6 ⟨⟨Vector.ofFn fun i => UInt16.ofNat (b.toNat >>> (16 * (7 - i.val)))⟩, a.port⟩

/-! ## Serving -/

/-- Answer datagrams for as long as the process runs. -/
partial def serve (socket : Std.Async.UDP.Socket) (node : Node) (listener : Listener) :
    IO Unit := do
  let (datagram, source) ← (socket.recv (UInt64.ofNat Listener.bufferSize)).block
  match source with
  | none => serve socket node listener
  | some source =>
    let now ← wallClock
    let (reply, listener) := listener.receive (fun source => node.reply now source.ip)
      (sourceOf source) datagram.data.toList
    if let some bytes := reply then
      try
        (socket.send ⟨bytes.toArray⟩ (some source)).block
      catch e => IO.eprintln ("Reply failed: " ++ toString e)
    serve socket node listener

/-- The node of the process, with a fresh secret. -/
def makeNode (settings : Settings) : IO (Except Challenge.CodecError Node) := do
  let secret := (← IO.getRandomBytes 32).data.toList
  let plugin : PluginEntry := ⟨"fleet-query-server", ({} : Identity).version, true⟩
  return (Challenge.Codec.make secret Challenge.defaultValidity).map fun codec =>
    Node.ofSettings settings codec { plugins := [plugin] }

/-- Try to take part in the fleet; without success the node answers on its own. -/
def joinFleet (node : Node) : IO Node := do
  let connect (url : String) : Except StoreError Store := .error (StoreAddress.refusal url)
  let (result, member, _) := node.member.start node.report (← wallClock) connect
  match result with
  | .ok () => return { node with member }
  | .error e =>
    let reason := e.message?.getD (e.heading ++ "no store answers")
    IO.eprintln ("Network unavailable, answering with local data only: " ++ reason)
    return { node with member, attached := false }

/-- Listen as the settings say. -/
def run (settings : Settings) (place : SocketAddress) : IO UInt32 := do
  match ← makeNode settings with
  | .error e =>
    IO.eprintln e.message
    return 1
  | .ok node =>
    let node ← if settings.network.enabled then joinFleet node else pure node
    if !settings.enabled then
      IO.eprintln "Query listener disabled by configuration"
      return 0
    let socket ← Std.Async.UDP.Socket.mk
    socket.bind (placeOf place)
    IO.println ("Query server listening on " ++ place.toText)
    serve socket node {}
    return 0

end FleetStatus.CommandLine

open FleetStatus CommandLine in
def main (args : List String) : IO UInt32 := do
  match ← loadSettings args with
  | .error e =>
    IO.eprintln (e.message?.getD "The settings could not be read")
    return 1
  | .ok settings =>
    match settings.bindAddress with
    | .error e =>
      IO.eprintln (e.message?.getD "")
      return 1
    | .ok place => run settings place
