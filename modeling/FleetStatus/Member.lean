import FleetStatus.Host
import FleetStatus.Inbox
import FleetStatus.Presence.Replica
import FleetStatus.Presence.Store

set_option relaxedAutoImplicit false
set_option autoImplicit false

/-!
# Members of a fleet

A `Member` takes part in a fleet on behalf of one server. While it runs it publishes the server's
record and players in the shared store, keeps a replica of the state of the fleet from full reads
and from the log, and tells its subscribers about changes.

Player changes go through one queue, so the store sees them in the order in which the server
reported them; a member that stops empties the queue before it leaves.

The store is handed to every function that needs it and handed back. A member uses it only while it
is running.

## Main definitions

* `FleetStatus.Member`, `FleetStatus.Phase` — the state of taking part.
* `FleetStatus.Member.startWith`, `FleetStatus.Member.stop` — the life of a member.
* `FleetStatus.Member.enqueue`, `FleetStatus.Member.work` — player changes.
* `FleetStatus.Member.beat`, `FleetStatus.Member.readAgain`, `FleetStatus.Member.follow` — what a
  running member does in the background.
* `FleetStatus.Member.networkSnapshot`, `FleetStatus.Member.aggregatedSnapshot` — what it knows.
-/

namespace FleetStatus

/-! ## Errors -/

/-- Why a member does not do what it is asked. -/
inductive MemberError where
  /-- Taking part is switched off. -/
  | disabled
  /-- The member was started before. -/
  | alreadyStarted
  /-- The member does not run. -/
  | notRunning
  /-- The settings do not name a store. -/
  | settings (cause : SettingsError)
  /-- The store could not be reached. -/
  | connection (cause : StoreError)
  /-- The store did not take the server's record. -/
  | registration (cause : StoreError)
  /-- The store failed. -/
  | store (cause : StoreError)
  deriving DecidableEq, Inhabited

namespace MemberError

/-- The words before the wording of a cause. -/
def heading : MemberError → String
  | .disabled => "Network module is disabled"
  | .alreadyStarted => "Network module already started"
  | .notRunning => "Network module is not running"
  | .settings _ => "Configuration error: "
  | .connection _ => "Store connection failed: "
  | .registration _ => "Server registration failed: "
  | .store _ => "Store error: "

/-- The wording of an error, if its cause has one. -/
def message? (e : MemberError) : Option String :=
  match e with
  | .disabled | .alreadyStarted | .notRunning => some e.heading
  | .settings cause => cause.message?.map (e.heading ++ ·)
  | .connection cause | .registration cause | .store cause => cause.message?.map (e.heading ++ ·)

end MemberError

/-! ## State -/

/-- A player change that waits to be recorded. -/
inductive PlayerChange where
  | join (p : PlayerRecord)
  | leave (uuid : Uuid)
  deriving DecidableEq, Inhabited

/-- What came of a player change. -/
inductive ChangeOutcome where
  | join (outcome : JoinOutcome)
  | leave (outcome : LeaveOutcome)
  deriving DecidableEq, Inhabited

/-- What a running member keeps. -/
structure Session where
  /-- The log entry up to which the replica was brought; `none` when the log is not followed. -/
  cursor : Option Nat := none
  /-- The player changes that were not recorded, oldest first. -/
  queue : List PlayerChange := []
  deriving DecidableEq, Inhabited

/-- Where a member is in its life. -/
inductive Phase where
  | idle
  | starting
  | running (session : Session)
  /-- The start failed; the server answers on its own from now on. -/
  | unavailable
  | stopped
  deriving DecidableEq, Inhabited

/-- The name of a phase. -/
def Phase.name : Phase → String
  | .idle => "Idle"
  | .starting => "Starting"
  | .running _ => "Running"
  | .unavailable => "Unavailable"
  | .stopped => "Stopped"

/-- A server's part in its fleet. -/
structure Member where
  settings : NetworkSettings
  replica : Replica
  phase : Phase := .idle
  inboxes : List Inbox := []
  deriving DecidableEq, Inhabited

namespace Member

/-- The member with the given settings before its start. -/
def new (settings : NetworkSettings) : Member :=
  { settings, replica := { timeout := settings.timing.timeoutMillis } }

/-- The id of the server. -/
def serverId (m : Member) : String := m.settings.serverId

/-- Whether the member runs. -/
def isRunning (m : Member) : Bool :=
  match m.phase with
  | .running _ => true
  | _ => false

/-- What the member keeps while it runs. -/
def session? (m : Member) : Option Session :=
  match m.phase with
  | .running s => some s
  | _ => none

/-- The member with other contents of its session, if it runs. -/
def mapSession (m : Member) (f : Session → Session) : Member :=
  match m.phase with
  | .running s => { m with phase := .running (f s) }
  | _ => m

/-! ## Subscribers -/

/-- The member with a further subscriber. -/
def subscribe (m : Member) : Member := { m with inboxes := m.inboxes ++ [{}] }

/-- Tell all subscribers about an event. -/
def tell (m : Member) (e : Event) : Member := { m with inboxes := m.inboxes.map (·.push e) }

/-- The member after the subscriber with the given number read everything. -/
def drainInbox (m : Member) (i : Nat) : Member :=
  { m with inboxes := m.inboxes.modify i Inbox.drain }

/-! ## Starting -/

/-- The first step of a start: only an idle member whose network is enabled starts. -/
def begin (m : Member) : Except MemberError Member :=
  if !m.settings.enabled then .error .disabled
  else
    match m.phase with
    | .idle => .ok { m with phase := .starting }
    | _ => .error .alreadyStarted

/-- The member after its start failed. -/
def failed (m : Member) : Member := { m with phase := .unavailable }

/-- The last step of a start, with the store that took the server's record. The place in the log is
taken before the full read, so no entry between the two is missed. -/
def complete (m : Member) (r : HostReport) (now : Int64) (store : Store) : Member × Store :=
  let online := Event.serverOnline m.serverId r.name
  if m.settings.syncs then
    let cursor := store.latest.toOption.getD 0
    let (replica, store) := match store.fetch now with
      | .ok (snapshot, store) => (m.replica.refresh snapshot now, store)
      | .error _ => (m.replica, store)
    ({ m with replica, phase := .running { cursor := some cursor } }.tell online, store)
  else ({ m with phase := .running {} }.tell online, store)

/-- The steps of a start after the first one: publish the server's record, then run. -/
def finish (m : Member) (r : HostReport) (now : Int64) (store : Store) :
    Except MemberError Unit × Member × Store :=
  match store.register (r.record m.serverId now) with
  | .error e => (.error (.registration e), m.failed, store.close)
  | .ok store => (.ok (), m.complete r now store)

/-- Start with a store that is at hand. -/
def startWith (m : Member) (r : HostReport) (now : Int64) (store : Store) :
    Except MemberError Unit × Member × Store :=
  match m.begin with
  | .error e => (.error e, m, store)
  | .ok m => m.finish r now store

/-- Start with the store that the settings name, which `connect` reaches by its address. Without a
connection there is no store to hand back. -/
def start (m : Member) (r : HostReport) (now : Int64) (connect : String → Except StoreError Store) :
    Except MemberError Unit × Member × Option Store :=
  match m.begin with
  | .error e => (.error e, m, none)
  | .ok m =>
    match m.settings.store.kind? with
    | .error e => (.error (.settings e), m.failed, none)
    | .ok .redis =>
      match connect m.settings.store.redis.toUrl with
      | .error e => (.error (.connection e), m.failed, none)
      | .ok store =>
        let (result, m, store) := m.finish r now store
        (result, m, some store)

/-! ## Player changes -/

/-- The record of a player on this server. -/
def playerRecord (m : Member) (r : HostReport) (uuid : Uuid) (name : String) (now : Int64) :
    PlayerRecord :=
  ⟨uuid, name, m.serverId, r.name, now⟩

/-- Put a change at the end of the queue. -/
def enqueue (m : Member) (c : PlayerChange) : Except MemberError Member :=
  match m.phase with
  | .running s => .ok { m with phase := .running { s with queue := s.queue ++ [c] } }
  | _ => .error .notRunning

/-- Record a change of this server's players. -/
def PlayerChange.record (id : String) (c : PlayerChange) (store : Store) :
    Except StoreError ChangeOutcome × Store :=
  match c with
  | .join p =>
    match store.join p with
    | .ok (outcome, store) => (.ok (.join outcome), store)
    | .error e => (.error e, store)
  | .leave uuid =>
    match store.leave uuid id with
    | .ok (outcome, store) => (.ok (.leave outcome), store)
    | .error e => (.error e, store)

/-- Record the change at the front of the queue, if there is one. -/
def work (m : Member) (store : Store) :
    Option (Except StoreError ChangeOutcome) × Member × Store :=
  match m.phase with
  | .running s =>
    match s.queue with
    | [] => (none, m, store)
    | c :: rest =>
      let (outcome, store) := PlayerChange.record m.serverId c store
      (some outcome, { m with phase := .running { s with queue := rest } }, store)
  | _ => (none, m, store)

/-- Record all changes of a queue, in their order. -/
def recordAll (id : String) (queue : List PlayerChange) (store : Store) : Store :=
  queue.foldl (fun store c => (PlayerChange.record id c store).2) store

/-- Record everything that waits. -/
def drain (m : Member) (store : Store) : Member × Store :=
  match m.phase with
  | .running s =>
    ({ m with phase := .running { s with queue := [] } }, recordAll m.serverId s.queue store)
  | _ => (m, store)

/-- Queue a change and wait until it is recorded, after everything that was queued before. -/
def recordNow (m : Member) (c : PlayerChange) (store : Store) :
    Except MemberError ChangeOutcome × Member × Store :=
  if m.isRunning then
    let (m, store) := m.drain store
    let (outcome, store) := PlayerChange.record m.serverId c store
    (outcome.mapError .store, m, store)
  else (.error .notRunning, m, store)

/-! ## Stopping -/

/-- The last steps of a stop, when the queue is empty: leave the fleet and release the store. -/
def leaveFleet (m : Member) (store : Store) : Member × Store :=
  let store := (store.unregister m.serverId).toOption.getD store
  ({ m with phase := .stopped, replica := m.replica.clear }.tell
    (.serverOffline m.serverId (some "shutdown")), store.close)

/-- Stop a running member: everything that waits is recorded, then the server leaves the fleet. A
member that does not run is not changed. -/
def stop (m : Member) (store : Store) : Member × Store :=
  if m.isRunning then
    let (m, store) := m.drain store
    m.leaveFleet store
  else (m, store)

/-! ## In the background -/

/-- Publish the server's record again. A failure is made good by the next time. -/
def beat (m : Member) (r : HostReport) (now : Int64) (store : Store) : Store :=
  if m.isRunning then (store.heartbeat (r.record m.serverId now)).toOption.getD store else store

/-- Replace the replica by a full read, then forget the stale servers. -/
def readAgain (m : Member) (now : Int64) (store : Store) : Member × Store :=
  if m.isRunning && m.settings.syncs then
    match store.fetch now with
    | .ok (snapshot, store) =>
      ({ m with replica := (m.replica.refresh snapshot now).prune now }, store)
    | .error _ => (m, store)
  else (m, store)

/-- Take one entry of the log into the replica and tell the subscribers. -/
def observe (m : Member) (now : Int64) (entry : Nat × Event) : Member :=
  let m := { m with replica := m.replica.apply now entry.2 }
  (entry.2.notifications.foldl tell m).mapSession fun s => { s with cursor := some entry.1 }

/-- How many entries of the log are read at a time. -/
def batchSize : Nat := 100

/-- Read the log once from the place that was reached. A closed store ends the following. -/
def followOnce (m : Member) (now : Int64) (store : Store) : Member :=
  match m.session?.bind (·.cursor) with
  | none => m
  | some cursor =>
    match store.entriesAfter cursor batchSize with
    | .ok entries => entries.foldl (observe · now) m
    | .error _ => m.mapSession fun s => { s with cursor := none }

/-- Read the log to its end. Every reading but the last takes an entry, so one reading more than
there are entries is enough. -/
def follow (m : Member) (now : Int64) (store : Store) : Member :=
  (List.range (store.log.length + 1)).foldl (fun m _ => m.followOnce now store) m

/-! ## What is known -/

/-- The best view of the fleet without asking the store: the replica, or the server on its own. -/
def networkSnapshot (m : Member) (r : HostReport) (now : Int64) : Snapshot :=
  if m.isRunning && m.settings.syncs then m.replica.snapshot now else r.snapshot m.serverId now

/-- The view that queries are answered from, if they are answered for the fleet. -/
def aggregatedSnapshot (m : Member) (now : Int64) : Option Snapshot :=
  if m.isRunning && m.settings.aggregates then some (m.replica.snapshot now) else none

/-- A full read of the store. -/
def fetch (m : Member) (now : Int64) (store : Store) : Except MemberError Snapshot × Store :=
  if m.isRunning then
    match store.fetch now with
    | .ok (snapshot, store) => (.ok snapshot, store)
    | .error e => (.error (.store e), store)
  else (.error .notRunning, store)

end Member

end FleetStatus
