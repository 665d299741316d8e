import FleetStatus.Index
import FleetStatus.Presence.Event
import FleetStatus.Text.Digits

set_option relaxedAutoImplicit false
set_option autoImplicit false

/-!
# The presence store

The records that the servers of a fleet share. A join moves a player off the server the player was
on, a leave counts only on the server that the player is recorded on, and every change appends one
entry to a log of bounded length.

A server that vanished without a word leaves its id behind; the next full read announces that it is
gone.

## Main definitions

* `FleetStatus.Store` — the shared state.
* `FleetStatus.Store.register`, `FleetStatus.Store.unregister`, `FleetStatus.Store.heartbeat`,
  `FleetStatus.Store.join`, `FleetStatus.Store.leave`, `FleetStatus.Store.fetch` — the operations;
  each fails on a closed store.
* `FleetStatus.Store.entriesAfter` — reading the log from a cursor on.
* `FleetStatus.Store.latestCursor`, `FleetStatus.Store.readAfter` — the log by cursors in text.
-/

namespace FleetStatus

/-! ## Outcomes -/

/-- Why a store does not answer. -/
inductive StoreError where
  /-- The store was closed. -/
  | closed
  /-- No connection could be made. -/
  | unreachable
  /-- The address of the store is no store address. -/
  | badAddress
  deriving DecidableEq, Inhabited

/-- The wording of an error that is this library's own. -/
def StoreError.message? : StoreError → Option String
  | .closed => some "Store is closed"
  | .unreachable => none
  | .badAddress => none

/-- What a join did. -/
inductive JoinOutcome where
  /-- The player was on no server. -/
  | joined
  /-- The player was on this server already. -/
  | rejoined
  /-- The player was on another server. -/
  | relocated (previous : String)
  deriving DecidableEq, Inhabited

/-- What a leave did. -/
inductive LeaveOutcome where
  /-- The player was on this server and is gone. -/
  | removed
  /-- The player was on no server. -/
  | notPresent
  /-- The player is on another server and stays there. -/
  | elsewhere (current : String)
  deriving DecidableEq, Inhabited

/-! ## Cursors -/

/-- The text of the log position after entry `n`. -/
def cursorText (n : Nat) : String := toString n ++ "-0"

/-- The number that decimal digits write, with at most a plus sign in front; `none` if there are no
digits, something else, or more than 64 bits. -/
def plainNumber? (cs : List Char) : Option Nat :=
  let digits := match cs with
    | '+' :: rest => rest
    | cs => cs
  Text.Digits.value? 10 UInt64.size digits

/-- The entry that a log position comes after. A text that is no position comes before every
entry. -/
def cursorOfText (s : String) : Nat := (plainNumber? (s.toList.takeWhile (· ≠ '-'))).getD 0

/-! ## The state -/

/-- The **presence store**. -/
structure Store where
  /-- How many entries the log keeps. -/
  capacity : Nat := 1000
  /-- The record of each server. -/
  servers : Index String ServerRecord := .empty
  /-- The ids of the servers that were announced. -/
  tracked : Index String Unit := .empty
  /-- The number of players of each server. -/
  counts : Index String UInt32 := .empty
  /-- The players recorded on each server. -/
  rosters : Index String (Index Uuid PlayerRecord) := .empty
  /-- The server each player is recorded on. -/
  locations : Index Uuid String := .empty
  /-- The newest entries with their numbers, oldest first. -/
  log : List (Nat × Event) := []
  /-- The number of the last entry. -/
  lastEntry : Nat := 0
  closed : Bool := false
  deriving DecidableEq, Inhabited

namespace Store

/-- The store without records whose log keeps `capacity` entries, but at least one. -/
def withCapacity (capacity : Nat) : Store := { capacity := max capacity 1 }

/-! ## Looking -/

/-- The number of players of a server. -/
def playerCount (s : Store) (id : String) : UInt32 := (s.counts.get? id).getD 0

/-- The server that a player is recorded on. -/
def location? (s : Store) (uuid : Uuid) : Option String := s.locations.get? uuid

/-- The players recorded on a server. -/
def roster (s : Store) (id : String) : Index Uuid PlayerRecord := (s.rosters.get? id).getD .empty

/-! ## Changing an open store -/

/-- Append an entry to the log; the oldest ones make room. -/
def append (s : Store) (e : Event) : Store :=
  let entries := s.log ++ [(s.lastEntry + 1, e)]
  { s with
    lastEntry := s.lastEntry + 1
    log := entries.drop (entries.length - s.capacity) }

/-- Forget what is recorded about a server and its players, but not that it was announced. -/
def expire (s : Store) (id : String) : Store :=
  let gone := s.roster id
  { s with
    servers := s.servers.erase id
    counts := s.counts.erase id
    rosters := s.rosters.erase id
    locations := s.locations.filter fun uuid at_ => !(gone.contains uuid && at_ == id) }

/-- Take a player off a server. -/
def vacate (s : Store) (uuid : Uuid) (id : String) : Store :=
  if (s.roster id).contains uuid then
    { s with
      rosters := s.rosters.adjust id (·.erase uuid)
      counts := s.counts.adjust id fun n => if n = 0 then 0 else n - 1 }
  else s

/-- The store with a server's record, and the server announced. -/
def registered (s : Store) (r : ServerRecord) : Store :=
  { s with
    counts := s.counts.insert r.serverId (UInt32.ofNat (s.roster r.serverId).size)
    servers := s.servers.insert r.serverId r
    tracked := s.tracked.insert r.serverId () }.append (.serverOnline r.serverId r.serverName)

/-- The store without a server and its players. -/
def unregistered (s : Store) (id : String) : Store :=
  { s.expire id with tracked := s.tracked.erase id }.append (.serverOffline id (some "shutdown"))

/-- The store with a newer record of a server. The count of players stays. -/
def refreshed (s : Store) (r : ServerRecord) : Store :=
  { s with
    servers := s.servers.insert r.serverId r
    tracked := s.tracked.insert r.serverId () }.append
      (.serverHeartbeat r.serverId (s.playerCount r.serverId) r.maxPlayers)

/-- The store with a player on the server of the record, and what the join did. -/
def joined (s : Store) (p : PlayerRecord) : JoinOutcome × Store :=
  let previous := (s.location? p.uuid).filter (· ≠ p.serverId)
  let moved := previous.elim s (s.vacate p.uuid)
  let already := (moved.roster p.serverId).contains p.uuid
  let after := { moved with
    locations := moved.locations.insert p.uuid p.serverId
    rosters := moved.rosters.insert p.serverId ((moved.roster p.serverId).insert p.uuid p)
    counts :=
      if already then moved.counts
      else moved.counts.insert p.serverId (moved.playerCount p.serverId + 1) }
  let outcome := match previous with
    | some id => .relocated id
    | none => if already then .rejoined else .joined
  (outcome, after.append (.join p previous))

/-- The store without a player, if the player is on the given server, and what the leave did. -/
def left (s : Store) (uuid : Uuid) (id : String) : LeaveOutcome × Store :=
  match s.location? uuid with
  | none => (.notPresent, s)
  | some current =>
    if current ≠ id then (.elsewhere current, s)
    else
      (.removed, ({ s with locations := s.locations.erase uuid }.vacate uuid id).append
        (.playerLeave uuid id))

/-- The announced servers without a record. -/
def orphans (s : Store) : List String := s.tracked.keys.filter fun id => !s.servers.contains id

/-- The store after the announced servers without a record were announced as gone. -/
def healed (s : Store) : Store :=
  s.orphans.foldl (fun s id =>
    { s with tracked := s.tracked.erase id }.append (.serverOffline id (some "expired"))) s

/-- The records of the announced servers. -/
def view (s : Store) (now : Int64) : Snapshot where
  servers := s.tracked.keys.filterMap fun id =>
    (s.servers.get? id).map fun r => { r with playerCount := s.playerCount id }
  players := s.tracked.keys.flatMap fun id => (s.roster id).values
  capturedAt := now

/-! ## The operations -/

/-- Do something with a store unless it is closed. -/
def whenOpen {α : Type} (s : Store) (f : Store → α) : Except StoreError α :=
  if s.closed then .error .closed else .ok (f s)

/-- Publish the record of a server and announce it. -/
def register (s : Store) (r : ServerRecord) : Except StoreError Store := s.whenOpen (·.registered r)

/-- Forget a server and its players and announce that it is gone. -/
def unregister (s : Store) (id : String) : Except StoreError Store := s.whenOpen (·.unregistered id)

/-- Publish a newer record of a server. -/
def heartbeat (s : Store) (r : ServerRecord) : Except StoreError Store :=
  s.whenOpen (·.refreshed r)

/-- Record a player on a server, off any other server. -/
def join (s : Store) (p : PlayerRecord) : Except StoreError (JoinOutcome × Store) :=
  s.whenOpen (·.joined p)

/-- Remove a player that is recorded on the given server. -/
def leave (s : Store) (uuid : Uuid) (id : String) : Except StoreError (LeaveOutcome × Store) :=
  s.whenOpen (·.left uuid id)

/-- The players recorded on a server, in the order of their identities. -/
def playersOn (s : Store) (id : String) : Except StoreError (List PlayerRecord) :=
  s.whenOpen fun s => (s.roster id).values

/-- Read everything; announced servers without a record are announced as gone first. -/
def fetch (s : Store) (now : Int64) : Except StoreError (Snapshot × Store) :=
  s.whenOpen fun s => (s.healed.view now, s.healed)

/-- The log position after the newest entry. -/
def latest (s : Store) : Except StoreError Nat :=
  s.whenOpen fun s => (s.log.getLast?.map (·.1)).getD 0

/-- At most `most` entries after a log position, with their numbers. -/
def entriesAfter (s : Store) (cursor most : Nat) : Except StoreError (List (Nat × Event)) :=
  s.whenOpen fun s => (s.log.filter (·.1 > cursor)).take most

/-- The text of the log position after the newest entry. -/
def latestCursor (s : Store) : Except StoreError String := s.latest.map cursorText

/-- At most `most` entries after a log position in text, each with the text of the position after
it. -/
def readAfter (s : Store) (cursor : String) (most : Nat) :
    Except StoreError (List (String × Event)) :=
  (s.entriesAfter (cursorOfText cursor) most).map (·.map fun e => (cursorText e.1, e.2))

/-- Release the store; operations on it fail from now on. -/
def close (s : Store) : Store := { s with closed := true }

end Store

end FleetStatus
