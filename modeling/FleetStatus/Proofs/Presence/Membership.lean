import FleetStatus.Proofs.Presence.Replay
import FleetStatus.Proofs.Presence.Standing

set_option relaxedAutoImplicit false
set_option autoImplicit false

/-!
# Members of the fleet

The store keeps the ids of the servers that it lists, and the log tells who came and who left. The
two say the same, but for one kind of server: one whose record ran out, that was announced as gone
and then beat again. A heartbeat lists it in the store once more, and a replica passes over the
heartbeat of a server that it does not know.

## Main definitions

* `FleetStatus.Event.Announced` — by what was told, a server came and did not leave.
* `FleetStatus.Event.Heard` — by what was told, a server beat and did not leave.

## Main results

* `FleetStatus.Store.tracked_run_iff` — the store lists a server that was announced or heard.
* `FleetStatus.Event.foldl_listedAfter_iff` — a replica that only replays knows a server that was
  announced.
* `FleetStatus.Store.membership_told_iff` — when the log tells all that the store lists.
* `FleetStatus.Store.membership_untold` — it need not.
-/

namespace FleetStatus

/-! ## What the log tells about a server -/

namespace Event

/-- The event says that a server came. -/
def Opens (id : String) : Event → Prop
  | .serverOnline id' _ => id' = id
  | .playerJoin .. | .playerLeave .. | .serverHeartbeat .. | .serverOffline .. => False

/-- The event says that a server is alive. -/
def Beats (id : String) : Event → Prop
  | .serverHeartbeat id' _ _ => id' = id
  | .playerJoin .. | .playerLeave .. | .serverOnline .. | .serverOffline .. => False

/-- The event says that a server left. -/
def Ends (id : String) : Event → Prop
  | .serverOffline id' _ => id' = id
  | .playerJoin .. | .playerLeave .. | .serverHeartbeat .. | .serverOnline .. => False

/-- By these events a server is **announced**: of those that say that it came or left, the last one
says that it came. -/
def Announced (id : String) (events : List Event) : Prop := Stands (Opens id) (Ends id) events

/-- By these events a server is **heard**: it beat, and did not leave since then. -/
def Heard (id : String) (events : List Event) : Prop := Stands (Beats id) (Ends id) events

/-- **A replica that has no servers and replays the events knows those that are announced.**

**Proof sketch.** By induction on the events from the last one: it opens the server, ends it, or
leaves it as it was before. -/
theorem foldl_listedAfter_iff (id : String) (events : List Event) :
    events.foldl (listedAfter id) false ↔ Announced id events := by
  induction events using List.reverseRecOn with
  | nil => exact iff_of_false nofun not_stands_nil
  | append_singleton events e ih =>
    rw [List.foldl_append, List.foldl_cons, List.foldl_nil, Announced, stands_append_singleton]
    change _ ↔ Opens id e ∨ (Announced id events ∧ ¬Ends id e)
    rw [← ih]
    cases e <;> simp [listedAfter, Opens, Ends, and_comm]

end Event

namespace Store

variable {s : Store}

/-! ## Announcing the orphans -/

/-- The orphans are the announced servers without a record. -/
theorem mem_orphans_iff (s : Store) (id : String) :
    id ∈ s.orphans ↔ s.tracked.contains id ∧ ¬s.servers.contains id := by
  rw [orphans, List.mem_filter, Index.mem_keys_iff, Bool.not_eq_true', Bool.not_eq_true]

/-- What is written to the log does not change the list of servers. -/
theorem tracked_foldl_append (s : Store) (events : List Event) :
    (events.foldl append s).tracked = s.tracked := by
  induction events generalizing s with
  | nil => rfl
  | cons e events ih => exact ih (s.append e)

/-- **All that announcing the orphans changes**: their ids are no longer announced, and each of them
is told once as gone.

**Proof sketch.** By induction on the orphans: to take one off the list and to announce it may be
done in either order. To erase all orphans from the list is to keep the servers with a record. -/
theorem healed_eq (s : Store) (now : Int64) : s.healed = (s.announced (.fetch now)).foldl append
    { s with tracked := s.tracked.filter fun id _ => s.servers.contains id } := by
  have htold (ids : List String) (s : Store) :
      ids.foldl (fun s id => { s with tracked := s.tracked.erase id }.append
        (.serverOffline id (some "expired"))) s =
      (ids.map fun id => .serverOffline id (some "expired")).foldl append
        { s with tracked := ids.foldl Index.erase s.tracked } := by
    induction ids generalizing s with
    | nil => rfl
    | cons id ids ih => exact ih _
  have hkept : s.orphans.foldl Index.erase s.tracked =
      s.tracked.filter fun id _ => s.servers.contains id := by
    refine Index.ext_get? fun id => ?_
    have horphan := s.mem_orphans_iff id
    rw [Index.contains] at horphan
    rw [Index.get?_foldl_erase, Index.get?_filter]
    cases htracked : s.tracked.get? id <;> cases hrecord : s.servers.contains id <;>
      simp [horphan, htracked, hrecord, Option.filter_some]
  rw [healed, htold, hkept]
  rfl

/-- Healing keeps the ids on the list that have a record. -/
theorem contains_tracked_healed (s : Store) (id : String) :
    s.healed.tracked.contains id ↔ s.tracked.contains id ∧ s.servers.contains id := by
  rw [s.healed_eq 0, tracked_foldl_append, Index.contains_filter, exists_and_right,
    ← Option.isSome_iff_exists, ← Index.contains]

/-! ## The servers that the store lists -/

/-- **An operation on an open store changes the list of servers as the events say that it
appends**, if a heartbeat is taken for a word that the server came.

**Proof sketch.** By cases on the operation. A registration, a heartbeat and a removal change the
list at one id and announce just that. A full read takes the orphans off the list and announces each
of them as gone. The others announce nothing that opens or ends a server and leave the list alone.
-/
theorem tracked_effect_iff (s : Store) (op : Operation) (id : String) :
    (s.effect op).tracked.contains id ↔
      Stands (fun e => e.Opens id ∨ e.Beats id) (Event.Ends id) (s.announced op) ∨
        (s.tracked.contains id ∧ ∀ e ∈ s.announced op, ¬e.Ends id) := by
  cases op with
  | register r =>
    show (s.tracked.insert r.serverId ()).contains id ↔ _
    rw [Index.contains_insert, announced, stands_singleton]
    simp [Event.Opens, Event.Beats, Event.Ends, eq_comm (a := id)]
  | heartbeat r =>
    show (s.tracked.insert r.serverId ()).contains id ↔ _
    rw [Index.contains_insert, announced, stands_singleton]
    simp [Event.Opens, Event.Beats, Event.Ends, eq_comm (a := id)]
  | unregister id' =>
    show (s.tracked.erase id').contains id ↔ _
    rw [Index.contains_erase, announced, stands_singleton]
    simp [Event.Opens, Event.Beats, Event.Ends, eq_comm (a := id), and_comm]
  | fetch now =>
    -- a full read takes servers off the list and puts none on it
    have hquiet : ¬Stands (fun e => e.Opens id ∨ e.Beats id) (Event.Ends id)
        (s.announced (.fetch now)) := by
      refine not_stands_of_forall fun e he => ?_
      obtain ⟨orphan, -, rfl⟩ := List.mem_map.1 he
      simp [Event.Opens, Event.Beats]
    have hends : (∀ e ∈ s.announced (.fetch now), ¬e.Ends id) ↔ id ∉ s.orphans := by
      simp only [announced, Event.Ends, List.forall_mem_map, List.forall_mem_ne']
    show s.healed.tracked.contains id ↔ _
    rw [contains_tracked_healed, or_iff_right hquiet, hends, mem_orphans_iff]
    tauto
  | join p =>
    show (s.joined p).2.tracked.contains id ↔ _
    rw [tracked_joined, announced, stands_singleton]
    simp [Event.join, Event.Opens, Event.Beats, Event.Ends]
  | leave uuid id' =>
    show (s.left uuid id').2.tracked.contains id ↔ _
    rw [tracked_left, announced]
    split
    · rw [stands_singleton]
      simp [Event.Opens, Event.Beats, Event.Ends]
    · simp [not_stands_nil]
  | expire id' =>
    show s.tracked.contains id ↔ _
    simp [announced, not_stands_nil]
  | close =>
    show s.tracked.contains id ↔ _
    simp [announced, not_stands_nil]

/-- On a closed store nothing happens to the list, and nothing is told.

**Proof sketch.** On an open store this is what the effect of the operation says. On a closed one
nothing is appended, and the announced ids stay. -/
theorem tracked_perform_iff (s : Store) (op : Operation) (id : String) :
    (s.perform op).tracked.contains id ↔
      Stands (fun e => e.Opens id ∨ e.Beats id) (Event.Ends id) (s.entriesOf op) ∨
        (s.tracked.contains id ∧ ∀ e ∈ s.entriesOf op, ¬e.Ends id) := by
  unfold entriesOf
  cases hclosed : s.closed with
  | false =>
    rw [perform_of_open hclosed]
    exact s.tracked_effect_iff op id
  | true =>
    have hsame : (s.perform op).tracked = s.tracked := by
      cases op with
      | expire | close => rfl
      | _ => rw [perform_of_closed hclosed] <;> exact nofun
    simp [hsame, not_stands_nil]

/-- **The store lists a server that was announced or heard.**

**Proof sketch.** By induction on the operations from the last one. What stands after it stood
before and was not ended, or is opened by it, as `tracked_perform_iff` says of the list. -/
theorem tracked_run_iff (capacity : Nat) (ops : List Operation) (id : String) :
    ((withCapacity capacity).run ops).tracked.contains id ↔
      Event.Announced id ((withCapacity capacity).history ops) ∨
        Event.Heard id ((withCapacity capacity).history ops) := by
  refine Iff.trans ?_ stands_or
  induction ops using List.reverseRecOn with
  | nil => exact iff_of_false nofun not_stands_nil
  | append_singleton ops op ih =>
    rw [run_append, run_cons, run_nil, tracked_perform_iff, ih, history_append, history, history,
      List.append_nil, stands_append]

/-! ## What the log leaves out -/

/-- **When the log tells all that the store lists.** As long as no entry is lost, a server is listed
by the store exactly when the log announces it, unless it was heard only. A replica that starts with
nothing and replays the log knows the servers that the log announces, so it knows all that are
listed exactly when none was heard only.

**Proof sketch.** What is listed and what is announced both follow the events from one to the next,
and part only at a heartbeat. -/
theorem membership_told_iff {capacity : Nat} {ops : List Operation}
    (hkept : ((withCapacity capacity).run ops).RetainsAfter 0) (c : Replica) (clock : Nat → Int64) :
    let s := (withCapacity capacity).run ops
    let told := s.log.map (·.2)
    let replica := c.clear.replay clock s.log
    (∀ id, (s.tracked.contains id ↔ Event.Announced id told) ↔
        (Event.Heard id told → Event.Announced id told)) ∧
      (∀ id, replica.servers.contains id ↔ Event.Announced id told) ∧
      ((∀ id, s.tracked.contains id → replica.servers.contains id) ↔
        ∀ id, Event.Heard id told → Event.Announced id told) := by
  intro s told replica
  have hhistory := (hasHistory_withCapacity capacity).run ops
  rw [List.nil_append] at hhistory
  have htold : told = (withCapacity capacity).history ops := by
    have hall : s.log.filter (·.1 > 0) = s.log := by
      rw [hhistory.log_eq, List.filter_eq_self]
      exact fun e he => decide_eq_true (mem_numbered (List.mem_of_mem_drop he)).1
    have hlog := hhistory.filter_log hkept
    rw [hall, List.drop_zero] at hlog
    rw [show told = s.log.map (·.2) from rfl, hlog, map_snd_numbered]
  have htracked (id : String) : s.tracked.contains id ↔
      Event.Announced id told ∨ Event.Heard id told := by
    rw [htold]
    exact tracked_run_iff capacity ops id
  have hreplica (id : String) : replica.servers.contains id ↔ Event.Announced id told := by
    rw [Replica.contains_servers_replay]
    exact Event.foldl_listedAfter_iff id told
  refine ⟨fun id => ?_, hreplica, forall_congr' fun id => ?_⟩
  · rw [htracked]
    exact or_iff_left_iff_imp
  · rw [htracked, hreplica]
    exact or_imp.trans (and_iff_right fun h => h)

/-- The record of a server runs out, a full read announces the server as gone, and the server beats
again. -/
theorem membership_untold :
    ¬∀ (capacity : Nat) (ops : List Operation),
      ((withCapacity capacity).run ops).RetainsAfter 0 → ∀ id,
        ((withCapacity capacity).run ops).tracked.contains id ↔
          Event.Announced id (((withCapacity capacity).run ops).log.map (·.2)) := by
  intro htold
  let server : ServerRecord := { serverId := "a", serverName := "A", lastHeartbeat := 0 }
  let ops : List Operation := [.register server, .expire "a", .fetch 0, .heartbeat server]
  have hannounced := (htold 10 ops (by decide) "a").1 (by decide)
  rw [← Event.foldl_listedAfter_iff] at hannounced
  exact absurd hannounced (by decide)

/-- Of two servers that were announced as gone one is registered again and the other one only beats.
Both are listed, and a replica that replays the log knows the first. -/
theorem membership_told_iff_again :
    let server (id : String) : ServerRecord :=
      { serverId := id, serverName := id, lastHeartbeat := 0 }
    let s := (withCapacity 9).run [.register (server "a"), .register (server "b"), .expire "a",
      .expire "b", .fetch 1, .heartbeat (server "a"), .heartbeat (server "b"),
      .register (server "a")]
    let told := s.log.map (·.2)
    let replica := (Replica.clear {}).replay (fun _ => 2) s.log
    s.RetainsAfter 0 ∧
      (s.tracked.contains "a" ∧ Event.Announced "a" told ∧ replica.servers.contains "a") ∧
      (s.tracked.contains "b" ∧ ¬Event.Announced "b" told ∧ ¬replica.servers.contains "b") := by
  intro server s told replica
  have hkept : s.RetainsAfter 0 := by decide
  obtain ⟨hlisted, hknown, -⟩ := membership_told_iff hkept {} fun _ => 2
  have ha : Event.Announced "a" told := (Event.foldl_listedAfter_iff "a" told).1 (by decide)
  have hb : ¬Event.Announced "b" told := fun h =>
    absurd ((Event.foldl_listedAfter_iff "b" told).2 h) (by decide)
  exact ⟨hkept, ⟨((hlisted "a").2 fun _ => ha).2 ha, ha, (hknown "a").2 ha⟩,
    by decide, hb, fun h => hb ((hknown "b").1 h)⟩

end Store

end FleetStatus
