import FleetStatus.Proofs.Presence.Membership
import FleetStatus.Proofs.Presence.Totals

set_option relaxedAutoImplicit false
set_option autoImplicit false

/-!
# Records that a full read lists

A record that is published under its server's id is what every full read gives of the server, until
a newer record is published, the server leaves or its record runs out. A replica that is replaced by
the read and then forgets the stale servers has the record exactly when it is not stale.

## Main definitions

* `FleetStatus.Store.Named` — all records are under the ids of their servers.
* `FleetStatus.Store.Listed` — a server is announced and has a record.
* `FleetStatus.Store.Operation.Spares` — an operation that leaves the record of a server alone.
* `FleetStatus.Replica.StaleAt` — a server is stale at a time.

## Main results

* `FleetStatus.Store.named_run` — the records of every run are under the ids of their servers.
* `FleetStatus.Store.Listed.run` — a listed record stays until something happens to it.
* `FleetStatus.Replica.get?_servers_prune` — to forget the stale servers keeps the other records.
* `FleetStatus.Store.Listed.get?_readAgain` — a full read gives a listed record, unless it is stale.
-/

namespace FleetStatus

namespace Store

variable {s : Store} {id : String} {r : ServerRecord}

/-! ## The records under their ids -/

/-- What an operation makes of the records. -/
def Operation.serversAfter (m : Index String ServerRecord) : Operation → Index String ServerRecord
  | .register r | .heartbeat r => m.insert r.serverId r
  | .unregister id | .expire id => m.erase id
  | .join _ | .leave _ _ | .fetch _ | .close => m

/-- An operation changes the records as `Operation.serversAfter` tells. -/
theorem servers_effect (s : Store) (op : Operation) :
    (s.effect op).servers = op.serversAfter s.servers := by
  cases op with
  | join p => exact s.servers_joined p
  | leave uuid id => exact s.servers_left uuid id
  | fetch now => exact s.servers_healed
  | register | unregister | heartbeat | expire | close => rfl

/-- Every record is under the id of its server. -/
def Named (s : Store) : Prop := ∀ id r, s.servers.get? id = some r → r.serverId = id

/-- Every operation puts a record under the id of its server, or puts in none.

**Proof sketch.** By cases on the operation: a record is put in under its own id, or one is taken
out, or the records stay. -/
theorem Named.effect (h : s.Named) (op : Operation) : (s.effect op).Named := by
  intro id r hr
  rw [servers_effect] at hr
  have hinsert {r' : ServerRecord} (hget : (s.servers.insert r'.serverId r').get? id = some r) :
      r.serverId = id := by
    rw [Index.get?_insert] at hget
    split at hget
    next hid => exact Option.some.inj hget ▸ hid.symm
    next => exact h id r hget
  have herase {id' : String} (hget : (s.servers.erase id').get? id = some r) :
      r.serverId = id := by
    rw [Index.get?_erase] at hget
    split at hget
    next => cases hget
    next => exact h id r hget
  cases op with
  | register r' => exact hinsert hr
  | heartbeat r' => exact hinsert hr
  | unregister id' => exact herase hr
  | expire id' => exact herase hr
  | join | leave | fetch | close => exact h id r hr

/-- Every run keeps the records under the ids of their servers. -/
theorem Named.run (h : s.Named) (ops : List Operation) : (s.run ops).Named :=
  have hstep (s : Store) (op : Operation) (_ : True) (h : s.Named) : (s.effect op).Named :=
    h.effect op
  run_of_effect hstep h fun _ _ => trivial

/-- An empty store has no records. -/
theorem named_withCapacity (capacity : Nat) : (withCapacity capacity).Named := fun id r hr => by
  cases hr

/-- **The records of every run are under the ids of their servers.** -/
theorem named_run (capacity : Nat) (ops : List Operation) :
    ((withCapacity capacity).run ops).Named :=
  (named_withCapacity capacity).run ops

/-! ## Listed records -/

/-- The server with an id is announced and has a record, so a full read lists it. -/
structure Listed (s : Store) (id : String) (r : ServerRecord) : Prop where
  record : s.servers.get? id = some r
  tracked : s.tracked.contains id

/-- The operation leaves the record of a server alone. -/
def Operation.Spares (id : String) : Operation → Prop
  | .register r | .heartbeat r => r.serverId ≠ id
  | .unregister id' | .expire id' => id' ≠ id
  | .join _ | .leave _ _ | .fetch _ | .close => True

/-- A published record is listed. -/
theorem listed_registered (s : Store) (r : ServerRecord) :
    (s.effect (.register r)).Listed r.serverId r where
  record := by
    rw [servers_effect]
    simp [Operation.serversAfter, Index.get?_insert]
  tracked := by
    rw [tracked_effect_iff, announced, stands_singleton]
    simp [Event.Opens]

/-- A record that a heartbeat brings is listed as well. -/
theorem listed_refreshed (s : Store) (r : ServerRecord) :
    (s.effect (.heartbeat r)).Listed r.serverId r where
  record := by
    rw [servers_effect]
    simp [Operation.serversAfter, Index.get?_insert]
  tracked := by
    rw [tracked_effect_iff, announced, stands_singleton]
    simp [Event.Beats]

/-- Of a server with a record nobody is told that it is gone, unless it leaves.

**Proof sketch.** By cases on the operation. Only a removal and a full read announce that servers
are gone: the removal is of another server, and a full read announces the orphans, which have no
record. -/
theorem Listed.not_ends (h : s.Listed id r) {op : Operation} (hop : op.Spares id) :
    ∀ e ∈ s.announced op, ¬e.Ends id := by
  have hquiet {events : List Event} (hall : ∀ e ∈ events, ∀ reason, e ≠ .serverOffline id reason) :
      ∀ e ∈ events, ¬e.Ends id := by
    intro e he hends
    cases e with
    | serverOffline id' reason =>
      exact hall _ he reason (congrArg (Event.serverOffline · reason) hends)
    | _ => exact hends
  cases op with
  | fetch now =>
    -- only servers without a record are healed away
    intro e he hends
    obtain ⟨orphan, horphan, rfl⟩ := List.mem_map.1 he
    obtain rfl : orphan = id := hends
    have hnone := (List.mem_filter.1 horphan).2
    simp [Index.contains, h.record] at hnone
  | unregister id' =>
    intro e he hends
    rw [List.mem_singleton.1 he] at hends
    exact hop hends
  | leave uuid id' =>
    refine hquiet fun e he reason heq => ?_
    rw [announced] at he
    split at he
    · rw [List.mem_singleton.1 he] at heq
      cases heq
    · cases he
  | register | heartbeat | join =>
    refine hquiet fun e he reason heq => ?_
    rw [List.mem_singleton.1 he] at heq
    cases heq
  | expire | close =>
    intro e he
    cases he

/-- **A listed record stays** when an operation spares it.

**Proof sketch.** The record is replaced or taken out by operations that do not spare it only. The
server stays announced, as nobody is told that it is gone (`Listed.not_ends`). -/
theorem Listed.effect (h : s.Listed id r) {op : Operation} (hop : op.Spares id) :
    (s.effect op).Listed id r where
  record := by
    rw [servers_effect]
    cases op with
    | register r' => exact (Index.get?_insert ..).trans ((if_neg (Ne.symm hop)).trans h.record)
    | heartbeat r' => exact (Index.get?_insert ..).trans ((if_neg (Ne.symm hop)).trans h.record)
    | unregister id' => exact (Index.get?_erase ..).trans ((if_neg (Ne.symm hop)).trans h.record)
    | expire id' => exact (Index.get?_erase ..).trans ((if_neg (Ne.symm hop)).trans h.record)
    | join | leave | fetch | close => exact h.record
  tracked := (tracked_effect_iff s op id).2 (.inr ⟨h.tracked, h.not_ends hop⟩)

/-- A listed record stays in every run of operations that spare it. -/
theorem Listed.run (h : s.Listed id r) {ops : List Operation} (hops : ∀ op ∈ ops, op.Spares id) :
    (s.run ops).Listed id r :=
  run_of_effect (P := (·.Listed id r)) (fun _ _ hop h => h.effect hop) h hops

/-! ## Full reads -/

/-- A server with a record as a full read gives it. -/
def shown (s : Store) (r : ServerRecord) : ServerRecord :=
  { r with playerCount := s.playerCount r.serverId }

/-- **A full read lists no server twice.** -/
theorem Named.nodup_view (h : s.Named) (now : Int64) :
    ((s.view now).servers.map (·.serverId)).Nodup := by
  rw [map_serverId_view h]
  exact s.tracked.nodup_keys.filter _

/-- **A full read lists the listed servers**, each with its record and the count of the store.

**Proof sketch.** A full read goes through the announced ids and shows the record of each that has
one, under the id of the server. -/
theorem Named.mem_servers_view (h : s.Named) (now : Int64) (r : ServerRecord) :
    r ∈ (s.view now).servers ↔ ∃ r', s.Listed r.serverId r' ∧ r = s.shown r' := by
  show r ∈ s.tracked.keys.filterMap (fun id => (s.servers.get? id).map _) ↔ _
  rw [List.mem_filterMap]
  constructor
  · rintro ⟨id, hid, hmap⟩
    obtain ⟨r', hr', rfl⟩ := Option.map_eq_some_iff.1 hmap
    obtain rfl := h id r' hr'
    exact ⟨r', ⟨hr', (Index.mem_keys_iff _ _).1 hid⟩, rfl⟩
  · rintro ⟨r', hlisted, rfl⟩
    refine ⟨r'.serverId, (Index.mem_keys_iff _ _).2 hlisted.tracked, ?_⟩
    rw [show s.servers.get? r'.serverId = some r' from hlisted.record]
    rfl

/-- **A full read gives the listed records.**

**Proof sketch.** The read lists the record, and no other one under the same id. -/
theorem Listed.get?_servers_refresh (h : s.Listed id r) (hnamed : s.Named) (c : Replica)
    (now now' : Int64) :
    (c.refresh (s.view now) now').servers.get? id = some (s.shown r) := by
  have hid : r.serverId = id := hnamed id r h.record
  rw [Replica.refresh, Index.get?_ofList_map _ _ (hnamed.nodup_view now)]
  refine ⟨s.shown r, (hnamed.mem_servers_view now _).2 ⟨r, ?_, rfl⟩, hid, rfl⟩
  exact hid ▸ h

end Store

/-! ## Forgetting stale servers -/

namespace Replica

/-- To remove several servers takes out the records of all of them. -/
theorem get?_servers_foldl_removeServer (c : Replica) (ids : List String) (id : String) :
    (ids.foldl removeServer c).servers.get? id = if id ∈ ids then none else c.servers.get? id := by
  induction ids generalizing c with
  | nil => simp
  | cons id' ids ih =>
    rw [List.foldl_cons, ih]
    show (if id ∈ ids then none else (c.servers.erase id').get? id) = _
    rw [Index.get?_erase]
    by_cases hid : id = id' <;> by_cases hmem : id ∈ ids <;> simp [hid, hmem]

/-- A server **is stale** at a time when the replica has a record of it that is. -/
def StaleAt (c : Replica) (now : Int64) (id : String) : Prop :=
  ∃ r, c.servers.get? id = some r ∧ r.isStale now c.timeout

/-- The ids of the stale servers, when each record is under the id of its server. -/
theorem mem_staleIds {c : Replica} (hnamed : ∀ id r, c.servers.get? id = some r →
    r.serverId = id) (now : Int64) (id : String) : id ∈ c.staleIds now ↔ c.StaleAt now id := by
  simp only [staleIds, List.mem_map, List.mem_filter, Index.mem_values_iff]
  constructor
  · rintro ⟨r, ⟨⟨id', hr⟩, hstale⟩, rfl⟩
    rw [hnamed id' r hr]
    exact ⟨r, hr, hstale⟩
  · rintro ⟨r, hr, hstale⟩
    exact ⟨r, ⟨⟨id, hr⟩, hstale⟩, hnamed id r hr⟩

/-- **To forget the stale servers keeps the other records**, when each is under the id of its
server.

**Proof sketch.** The servers that are removed are those whose records are stale, and a record is
found under the id of its server. -/
theorem get?_servers_prune {c : Replica} (hnamed : ∀ id r, c.servers.get? id = some r →
    r.serverId = id) (now : Int64) (id : String) :
    (c.prune now).servers.get? id =
      (c.servers.get? id).filter fun r => !r.isStale now c.timeout := by
  have hstale := mem_staleIds hnamed now id
  rw [StaleAt] at hstale
  rw [prune, get?_servers_foldl_removeServer]
  cases hget : c.servers.get? id with
  | none => simp
  | some r => by_cases hr : r.isStale now c.timeout <;> simp [hstale, hget, hr, Option.filter]

end Replica

namespace Store

variable {s : Store} {id : String} {r : ServerRecord}

/-- After a full read every record is under the id of its server. -/
theorem Named.named_refresh (h : s.Named) (c : Replica) (now now' : Int64) {r : ServerRecord}
    (hr : (c.refresh (s.view now) now').servers.get? id = some r) : r.serverId = id := by
  rw [Replica.refresh, Index.get?_ofList_map _ _ (h.nodup_view now)] at hr
  obtain ⟨r', -, hid, rfl⟩ := hr
  exact hid

/-- **A full read gives a listed record, unless it is stale.** -/
theorem Listed.get?_readAgain (h : s.Listed id r) (hnamed : s.Named) (c : Replica)
    (now now' : Int64) :
    ((c.refresh (s.view now) now').prune now').servers.get? id =
      if r.isStale now' c.timeout then none else some (s.shown r) := by
  have hstale : (s.shown r).isStale now' (c.refresh (s.view now) now').timeout =
      r.isStale now' c.timeout := rfl
  rw [Replica.get?_servers_prune fun id r => hnamed.named_refresh c now now',
    h.get?_servers_refresh hnamed]
  cases hr : r.isStale now' c.timeout <;> simp [hstale, hr]

end Store

/-! ## The timeout of a replica -/

namespace Replica

/-- To forget servers leaves the timeout alone. -/
theorem timeout_prune (c : Replica) (now : Int64) : (c.prune now).timeout = c.timeout := by
  unfold prune
  induction c.staleIds now generalizing c with
  | nil => rfl
  | cons id ids ih => exact ih (c.removeServer id)

/-- **No event changes the timeout.** -/
theorem timeout_apply (c : Replica) (now : Int64) (e : Event) :
    (c.apply now e).timeout = c.timeout := by
  cases e with
  | playerJoin uuid name id serverName previous =>
    exact elim_recount_frame (·.timeout) (fun _ _ => rfl) _ _
  | playerLeave uuid id =>
    rw [apply]
    split
    · exact elim_recount_frame (·.timeout) (fun _ _ => rfl) (c.taken uuid) _
    · rfl
  | serverHeartbeat id count max => rfl
  | serverOnline id name => rfl
  | serverOffline id reason => rfl

/-- No replay changes the timeout. -/
theorem timeout_replay (c : Replica) (clock : Nat → Int64) (entries : List (Nat × Event)) :
    (c.replay clock entries).timeout = c.timeout := by
  induction entries generalizing c with
  | nil => rfl
  | cons e entries ih => exact (ih (c.apply (clock e.1) e.2)).trans (timeout_apply c _ _)

end Replica

end FleetStatus
