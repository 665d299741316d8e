import FleetStatus.Proofs.Presence.Replica

set_option relaxedAutoImplicit false
set_option autoImplicit false

/-!
# What subscribers are told

An entry of the log may move a player from one server to another. Subscribers are told of it in two
steps, a leave from the server that the entry names and then the join, while the replica takes it in
at once, from wherever it has the player. The two ways come to the same: a replica that takes in
what the subscribers are told is the replica that takes in the log, counts and join times included,
even where the entry names a server that the player is not on.

## Main definitions

* `FleetStatus.Replica.applyAll` — several events in turn, each at its own time.
* `FleetStatus.Event.told` — entries of the log as subscribers are told them.

## Main results

* `FleetStatus.Replica.updatePlayer_removePlayer` — a player who is taken out first can be put in
  with the same result.
* `FleetStatus.Replica.Located.applyAll_notifications` — one entry as subscribers are told it.
* `FleetStatus.Replica.same_history` — subscribers and the replica see the same history.
-/

namespace FleetStatus

namespace Index

variable {κ α : Type*} [Ord κ] [Std.TransOrd κ] [Std.LawfulEqOrd κ] [DecidableEq κ]

/-- What is put in again need not have been taken out. -/
theorem insert_erase (m : Index κ α) (k : κ) (x : α) : (m.erase k).insert k x = m.insert k x := by
  refine ext_get? fun k' => ?_
  rw [get?_insert, get?_insert, get?_erase]
  split <;> rfl

end Index

/-- Entries of the log **as subscribers are told them**, each at the time of its entry. -/
def Event.told (entries : List (Int64 × Event)) : List (Int64 × Event) :=
  entries.flatMap fun (now, e) => e.notifications.map (now, ·)

namespace Replica

/-- The replica after several events in turn, each at its own time. -/
def applyAll (c : Replica) (entries : List (Int64 × Event)) : Replica :=
  entries.foldl (fun c e => c.apply e.1 e.2) c

variable {c : Replica}

/-! ## Taking a player out first -/

/-- As many players are left on a server when one moves away from it as when the player leaves. -/
theorem count_insert_eq_count_erase {m : Index Uuid String} {uuid : Uuid} {old new : String}
    (hne : new ≠ old) : ((m.insert uuid new).values.filter (· == old)).length =
      ((m.erase uuid).values.filter (· == old)).length := by
  rw [← Index.ncard_holding, ← Index.ncard_holding]
  congr 1
  ext uuid'
  show (m.insert uuid new).get? uuid' = some old ↔ (m.erase uuid).get? uuid' = some old
  rw [Index.get?_insert, Index.get?_erase]
  split <;> simp [hne]

/-- **To take a player out of another server first** makes no difference to where the player is put,
nor to any count: the server that the player comes from is counted again in both cases.

**Proof sketch.** After the removal the player is located nowhere, so the second step counts the new
server only, while the old one was counted in the first. Without the removal both are counted in one
step. The count of the old server is the same either way (`count_insert_eq_count_erase`). -/
theorem updatePlayer_removePlayer {p : PlayerRecord} {old : String}
    (hat : c.locations.get? p.uuid = some old) (hne : p.serverId ≠ old) :
    (c.removePlayer p.uuid).updatePlayer p = c.updatePlayer p := by
  have hout : (c.removePlayer p.uuid).locations.get? p.uuid = none := by
    rw [locations_removePlayer, Index.get?_erase, if_pos rfl]
  have hremoved : c.removePlayer p.uuid = (c.taken p.uuid).recount old := by
    rw [removePlayer, hat]
    rfl
  have hmoved : (c.locations.get? p.uuid).filter (· ≠ p.serverId) = some old := by
    simp [hat, hne.symm]
  have hplaced : ((c.taken p.uuid).recount old).placed p = (c.placed p).recount old := by
    simp only [placed, taken, recount, Index.insert_erase, count_insert_eq_count_erase hne]
  calc (c.removePlayer p.uuid).updatePlayer p
      = ((c.removePlayer p.uuid).placed p).recount p.serverId := by
        rw [updatePlayer, hout]
        rfl
    _ = ((c.placed p).recount old).recount p.serverId := by rw [hremoved, hplaced]
    _ = c.updatePlayer p := by
        rw [updatePlayer, hmoved]
        rfl

/-! ## One entry -/

/-- Events in two parts are taken in one part after the other. -/
theorem applyAll_append (c : Replica) (first second : List (Int64 × Event)) :
    c.applyAll (first ++ second) = (c.applyAll first).applyAll second :=
  List.foldl_append

/-- A leave from another server, and then the join.

**Proof sketch.** If the player is located on the other server, the leave takes the player out
first, which makes no difference to the join (`updatePlayer_removePlayer`). If not, the leave does
nothing. -/
theorem apply_join_apply_leave (h : c.Located) (now : Int64) {id previous : String}
    (hne : previous ≠ id) (uuid : Uuid) (username name : String) (told : Option String) :
    (c.apply now (.playerLeave uuid previous)).apply now
        (.playerJoin uuid username id name told) =
      c.apply now (.playerJoin uuid username id name told) := by
  by_cases hat : c.locations.get? uuid = some previous
  · have hleft : c.apply now (.playerLeave uuid previous) = c.removePlayer uuid := if_pos hat
    -- either way nothing is known of a stay on the new server, so the player joins it now
    have hgone : (c.removePlayer uuid).players.get? uuid = none := by
      rw [players_removePlayer, Index.get?_erase, if_pos rfl]
    have hother : (c.players.get? uuid).filter (·.serverId = id) = none := by
      rw [h uuid, Option.map_eq_some_iff] at hat
      obtain ⟨q, hq, rfl⟩ := hat
      simp [hq, hne]
    rw [hleft, apply, apply, hgone, hother]
    exact updatePlayer_removePlayer hat hne.symm
  · have hstays : c.apply now (.playerLeave uuid previous) = c := if_neg hat
    rw [hstays]

/-- **One entry** may be taken in as subscribers are told it.

**Proof sketch.** By cases on the event. Only a join that tells of a previous server is told as two
events, a leave from there and the join. -/
theorem Located.applyAll_notifications (h : c.Located) (now : Int64) (e : Event) :
    c.applyAll (e.notifications.map (now, ·)) = c.apply now e := by
  cases e with
  | playerJoin uuid username id name previous =>
    cases previous with
    | none => rfl
    | some previous =>
      rw [Event.notifications]
      split
      next hne => exact apply_join_apply_leave h now hne uuid username name (some previous)
      next => rfl
  | playerLeave uuid id => rfl
  | serverHeartbeat id count max => rfl
  | serverOnline id name => rfl
  | serverOffline id reason => rfl

/-! ## Histories -/

/-- **A log** may be taken in as subscribers are told it.

**Proof sketch.** By induction on the entries, each of which keeps the players located. -/
theorem Located.applyAll_told (h : c.Located) (entries : List (Int64 × Event)) :
    c.applyAll (Event.told entries) = c.applyAll entries := by
  induction entries generalizing c with
  | nil => rfl
  | cons e entries ih =>
    rw [Event.told, List.flatMap_cons, applyAll_append, h.applyAll_notifications e.1 e.2]
    exact ih (h.apply e.1 e.2)

/-- **Subscribers and the replica see the same history.** If the players are located where their
records say, then to take in the one or two events that subscribers are told of an entry, at one
time, leaves the same replica as to take in the entry, in all of its tables and with all counts and
join times. The players are then located again, so the same holds of the entries of a log, each at
its own time. It does not matter whether a player who is moved was on the server that the entry
names, on another one or on none, nor which servers are known.

**Proof sketch.** The leave does nothing unless the player is on the server that it names. There the
player's record is taken out and the server counted again. The join does both as well: it puts the
new record over the old one, with a new join time since the old one is of another server, and counts
the server that the player comes from. -/
theorem same_history (h : c.Located) :
    (∀ (now : Int64) (e : Event),
      c.applyAll (e.notifications.map (now, ·)) = c.apply now e ∧ (c.apply now e).Located) ∧
    ∀ entries : List (Int64 × Event), c.applyAll (Event.told entries) = c.applyAll entries :=
  ⟨fun now e => ⟨h.applyAll_notifications now e, h.apply now e⟩, h.applyAll_told⟩

/-- A player moves from the server that is named, from another one than is named, from a server that
is not listed and to one that is not; the first move makes the join time new, the last join keeps
it. -/
theorem same_history_moves :
    let record (id : String) : ServerRecord :=
      { serverId := id, serverName := id, playerCount := 9, lastHeartbeat := 0 }
    let c : Replica := { servers := .ofList [("a", record "a"), ("b", record "b")] }
    let join (id previous : String) : Event := .playerJoin ⟨1⟩ "name" id id (some previous)
    let entries : List (Int64 × Event) := [(1, .playerJoin ⟨1⟩ "name" "a" "a" none),
      (2, join "b" "a"), (3, join "a" "c"), (4, join "d" "a"), (5, join "b" "a"), (6, join "b" "b")]
    (Event.told entries).length = 10 ∧
      c.applyAll (Event.told entries) = c.applyAll entries ∧
      (c.applyAll entries).locations.get? ⟨1⟩ = some "b" ∧
      ((c.applyAll entries).players.get? ⟨1⟩).map (·.joinTime) = some 5 ∧
      (c.applyAll entries).servers.values.map (·.playerCount) = [0, 1] := by
  intro record c join entries
  have hlocated : c.Located := fun _ => rfl
  exact ⟨by decide +kernel, (same_history hlocated).2 entries, by decide +kernel, by decide +kernel,
    by decide +kernel⟩

end Replica

end FleetStatus
