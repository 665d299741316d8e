import FleetStatus.Proofs.Presence.Settled
import FleetStatus.Proofs.Presence.Snapshot
import Mathlib.Data.List.Nodup

set_option relaxedAutoImplicit false
set_option autoImplicit false

/-!
# A full read in the replica

A full read of a settled store lists every server and every player once. A replica that is replaced
by it is coherent and shows what the store holds; and a coherent replica that shows what the store
holds agrees with every full read.

## Main definitions

* `FleetStatus.Snapshot.Agrees`, `FleetStatus.Snapshot.PlacesAgree` — two snapshots list the same
  counts and stays, or at least the same players on the same servers.
* `FleetStatus.Replica.Reflects` — the replica shows what the store holds.

## Main results

* `FleetStatus.Store.Settled.mem_players_view`, `FleetStatus.Store.Settled.headcounts_view` — what a
  full read lists.
* `FleetStatus.Store.Settled.reflects_refresh` — a replica that is replaced by a full read reflects
  the store.
* `FleetStatus.Replica.Reflects.agrees`, `FleetStatus.Replica.Coherent.placesAgree_iff` — when a
  replica agrees with a full read.
-/

namespace FleetStatus

/-! ## Agreement of snapshots -/

/-- The servers with their counts. -/
def Snapshot.headcounts (s : Snapshot) : List (String × UInt32) :=
  s.servers.map fun r => (r.serverId, r.playerCount)

/-- The players with their stays. -/
def Snapshot.stays (s : Snapshot) : List (Uuid × Stay) := s.players.map fun p => (p.uuid, p.stay)

/-- Two snapshots **agree** when they list the same servers with the same counts and, up to the
order, the same players with the same stays. -/
structure Snapshot.Agrees (a b : Snapshot) : Prop where
  headcounts : a.headcounts = b.headcounts
  stays : a.stays.Perm b.stays

/-- The players with the servers they are on. -/
def Snapshot.places (s : Snapshot) : List (Uuid × String) :=
  s.players.map fun p => (p.uuid, p.serverId)

/-- Two snapshots **agree on places** when they list the same servers with the same counts and, up
to the order, the same players on the same servers. -/
structure Snapshot.PlacesAgree (a b : Snapshot) : Prop where
  headcounts : a.headcounts = b.headcounts
  places : a.places.Perm b.places

/-- A snapshot lists a player on a server when it lists a stay of the player there. -/
theorem Snapshot.mem_places_iff (s : Snapshot) (uuid : Uuid) (id : String) :
    (uuid, id) ∈ s.places ↔
      ∃ stay, (∃ p ∈ s.players, p.uuid = uuid ∧ p.stay = stay) ∧ stay.serverId = id := by
  simp only [Snapshot.places, List.mem_map, Prod.mk.injEq]
  constructor
  · rintro ⟨p, hp, rfl, rfl⟩
    exact ⟨p.stay, ⟨p, hp, rfl, rfl⟩, rfl⟩
  · rintro ⟨_, ⟨p, hp, rfl, rfl⟩, rfl⟩
    exact ⟨p, hp, rfl, rfl⟩

/-- What is listed of every player is listed once when every player is. -/
theorem nodup_map_uuid_mk {β : Type} {players : List PlayerRecord} (f : PlayerRecord → β)
    (h : (players.map (·.uuid)).Nodup) : (players.map fun p => (p.uuid, f p)).Nodup := by
  refine List.Nodup.of_map Prod.fst ?_
  rw [List.map_map]
  exact h

/-- The replica **reflects** the store: it is coherent, and knows the same stays and servers. -/
structure Replica.Reflects (c : Replica) (s : Store) : Prop where
  coherent : c.Coherent
  stay? : ∀ uuid, c.stay? uuid = s.stay? uuid
  listed : ∀ id, c.servers.contains id = s.servers.contains id

/-! ## What a full read lists -/

namespace Store.Settled

variable {s : Store} (h : s.Settled) (now : Int64)

include h

/-- The announced servers are those with a record, in the same order. -/
theorem keys_tracked : s.tracked.keys = s.servers.keys := Index.keys_eq_of_contains h.announced

/-- **A full read lists the players of all rosters.** -/
theorem mem_players_view (p : PlayerRecord) :
    p ∈ (s.view now).players ↔ (s.roster p.serverId).get? p.uuid = some p := by
  rw [h.coherent.mem_players_view, h.announced]
  refine and_iff_right_of_imp fun hp => ?_
  have hin : (s.roster p.serverId).contains p.uuid := Option.isSome_iff_exists.2 ⟨p, hp⟩
  exact h.registered p.uuid p.serverId ((h.coherent.located p.uuid p.serverId).2 hin)

/-- A full read lists the stay of every player. -/
theorem exists_mem_players_view (uuid : Uuid) (stay : Stay) :
    (∃ p ∈ (s.view now).players, p.uuid = uuid ∧ p.stay = stay) ↔ s.stay? uuid = some stay := by
  unfold Store.stay?
  rw [Option.bind_eq_some_iff]
  constructor
  · rintro ⟨p, hp, rfl, rfl⟩
    have hget := (h.mem_players_view now p).1 hp
    have hin : (s.roster p.serverId).contains p.uuid := Option.isSome_iff_exists.2 ⟨p, hget⟩
    exact ⟨p.serverId, (h.coherent.located _ _).2 hin, Option.map_eq_some_iff.2 ⟨p, hget, rfl⟩⟩
  · rintro ⟨id, -, hmap⟩
    obtain ⟨p, hp, rfl⟩ := Option.map_eq_some_iff.1 hmap
    obtain ⟨rfl, rfl⟩ := h.coherent.owned id uuid p hp
    exact ⟨p, (h.mem_players_view now p).2 hp, rfl, rfl⟩

/-- **A full read lists every player on the server where the player is located.**

**Proof sketch.** The location of a player is that of the player's stay, and the stays are listed.
-/
theorem mem_places_view (uuid : Uuid) (id : String) :
    (uuid, id) ∈ (s.view now).places ↔ s.location? uuid = some id := by
  rw [Snapshot.mem_places_iff, h.coherent.location?_eq_map_stay?, Option.map_eq_some_iff]
  simp only [h.exists_mem_players_view]

/-- **A full read lists every server with its count.**

**Proof sketch.** The read goes through the announced ids. Each has a record under its own id, and
is shown with its count. -/
theorem headcounts_view :
    (s.view now).headcounts = s.servers.keys.map fun id => (id, s.playerCount id) := by
  show (s.tracked.keys.filterMap fun id => (s.servers.get? id).map
    fun r => { r with playerCount := s.playerCount id }).map _ = _
  rw [h.keys_tracked, List.map_filterMap, List.filterMap_eq_map_iff_forall_eq_some]
  intro id hid
  obtain ⟨r, hr⟩ := Option.isSome_iff_exists.1 ((Index.mem_keys_iff _ _).1 hid)
  simp [hr, h.named id r hr]

/-- A full read lists every server with a record. -/
theorem map_serverId_view : (s.view now).servers.map (·.serverId) = s.servers.keys := by
  rw [Store.map_serverId_view h.named, h.keys_tracked]
  exact List.filter_eq_self.2 fun id hid => (Index.mem_keys_iff _ _).1 hid

/-! ## A replica that is replaced by a full read -/

variable (c : Replica) (now' : Int64)

/-- After a full read the stays are those of the store. -/
theorem stay?_refresh (uuid : Uuid) :
    (c.refresh (s.view now) now').stay? uuid = s.stay? uuid := by
  ext stay
  rw [Replica.stay?, Option.map_eq_some_iff, ← h.exists_mem_players_view now]
  simp only [(h.coherent.exact_view now h.named).get?_players_refresh, and_assoc]

/-- After a full read the servers are those of the store. -/
theorem contains_servers_refresh (id : String) :
    (c.refresh (s.view now) now').servers.contains id = s.servers.contains id := by
  have hnodup : ((s.view now).servers.map (·.serverId)).Nodup :=
    (h.map_serverId_view now).symm ▸ s.servers.nodup_keys
  rw [Bool.eq_iff_iff, ← Index.mem_keys_iff s.servers, ← h.map_serverId_view now, List.mem_map,
    Index.contains, Option.isSome_iff_exists, Replica.refresh]
  simp only [Index.get?_ofList_map _ _ hnodup]
  constructor
  · rintro ⟨_, r, hr, hid, -⟩
    exact ⟨r, hr, hid⟩
  · rintro ⟨r, hr, hid⟩
    exact ⟨r, r, hr, hid, rfl⟩

/-- **A replica that is replaced by a full read reflects the store.** -/
theorem reflects_refresh : (c.refresh (s.view now) now').Reflects s where
  coherent := (h.coherent.exact_view now h.named).coherent_refresh c now'
  stay? := h.stay?_refresh now c now'
  listed := h.contains_servers_refresh now c now'

end Store.Settled

/-! ## A replica that reflects the store -/

namespace Replica

/-- The counts that a coherent replica shows are those of its locations. -/
theorem Coherent.headcounts_snapshot {c : Replica} (h : c.Coherent) (now : Int64) :
    (c.snapshot now).headcounts =
      c.servers.keys.map fun id => (id, UInt32.ofNat (c.locations.holding id).ncard) := by
  show (c.servers.entries.map (·.2)).map _ = (c.servers.entries.map (·.1)).map _
  rw [List.map_map, List.map_map]
  refine List.map_congr_left fun e he => ?_
  have hget := (Index.mem_entries_iff _ _ _).1 he
  simp [h.named _ _ hget, h.counted _ _ hget]

/-- A coherent replica shows no player twice. -/
theorem Coherent.nodup_uuids {c : Replica} (h : c.Coherent) :
    (c.players.values.map (·.uuid)).Nodup :=
  Index.map_values_eq_keys h.keyed ▸ Index.nodup_keys _

/-- A coherent replica shows the stay of every player. -/
theorem Coherent.exists_mem_players {c : Replica} (h : c.Coherent) (uuid : Uuid) (stay : Stay) :
    (∃ p ∈ c.players.values, p.uuid = uuid ∧ p.stay = stay) ↔ c.stay? uuid = some stay := by
  rw [Replica.stay?, Option.map_eq_some_iff]
  constructor
  · rintro ⟨p, hp, rfl, rfl⟩
    obtain ⟨uuid, huuid⟩ := (Index.mem_values_iff _ _).1 hp
    exact ⟨p, h.keyed uuid p huuid ▸ huuid, rfl⟩
  · rintro ⟨p, hp, rfl⟩
    exact ⟨p, (Index.mem_values_iff _ _).2 ⟨uuid, hp⟩, h.keyed uuid p hp, rfl⟩

/-- A coherent replica shows every player where the player is located. -/
theorem Coherent.mem_places_snapshot {c : Replica} (h : c.Coherent) (now : Int64) (uuid : Uuid)
    (id : String) : (uuid, id) ∈ (c.snapshot now).places ↔ c.locations.get? uuid = some id := by
  rw [Snapshot.mem_places_iff, h.location?_eq_map_stay?, Option.map_eq_some_iff]
  simp only [← h.exists_mem_players]
  rfl

/-- Counts follow from the places of players and the servers of the fleet.

**Proof sketch.** Both lists go through the same servers, and both counts are the numbers of players
located there. -/
theorem Coherent.headcounts_eq {c : Replica} {s : Store} (h : c.Coherent) (hs : s.Settled)
    (hplace : ∀ uuid, c.locations.get? uuid = s.location? uuid)
    (hlisted : ∀ id, c.servers.contains id = s.servers.contains id) (now now' : Int64) :
    (c.snapshot now).headcounts = (s.view now').headcounts := by
  rw [h.headcounts_snapshot, hs.headcounts_view, Index.keys_eq_of_contains hlisted]
  refine List.map_congr_left fun id _ => ?_
  have hset : c.locations.holding id = s.residents id := by
    ext uuid
    show _ = some id ↔ _ = some id
    rw [hplace]
  rw [hset, ← hs.coherent.counted, UInt32.ofNat_toNat]

/-- **A coherent replica agrees with a full read on places** exactly when it has the same locations
and the same servers as the store.

**Proof sketch.** From left to right the places that are shown are the locations, and the servers
with counts are the servers. From right to left the counts follow by `Coherent.headcounts_eq`, and
the same places are shown, each once. -/
theorem Coherent.placesAgree_iff {c : Replica} {s : Store} (h : c.Coherent) (hs : s.Settled)
    (now now' : Int64) : (c.snapshot now).PlacesAgree (s.view now') ↔
      (∀ uuid, c.locations.get? uuid = s.location? uuid) ∧
        ∀ id, c.servers.contains id = s.servers.contains id := by
  constructor
  · rintro ⟨hcounts, hperm⟩
    refine ⟨fun uuid => ?_, fun id => ?_⟩
    · ext id
      rw [← h.mem_places_snapshot now, ← hs.mem_places_view now']
      exact hperm.mem_iff
    · have hkeys := congrArg (List.map Prod.fst) hcounts
      rw [h.headcounts_snapshot, hs.headcounts_view, List.map_map, List.map_map] at hkeys
      have hsame : c.servers.keys = s.servers.keys :=
        (List.map_id _).symm.trans (hkeys.trans (List.map_id _))
      rw [Bool.eq_iff_iff, ← Index.mem_keys_iff, ← Index.mem_keys_iff, hsame]
  · rintro ⟨hplace, hlisted⟩
    have hnodup : (c.snapshot now).places.Nodup := nodup_map_uuid_mk _ h.nodup_uuids
    have hnodup' : (s.view now').places.Nodup := nodup_map_uuid_mk _ (hs.coherent.nodup_uuids_view now')
    refine ⟨h.headcounts_eq hs hplace hlisted now now', ?_⟩
    refine (List.perm_ext_iff_of_nodup hnodup hnodup').2 fun ⟨uuid, id⟩ => ?_
    rw [h.mem_places_snapshot, hs.mem_places_view, hplace]

/-- A replica that reflects the store has the same locations. -/
theorem Reflects.location? {c : Replica} {s : Store} (h : c.Reflects s) (hs : s.Coherent)
    (uuid : Uuid) : c.locations.get? uuid = s.location? uuid := by
  rw [h.coherent.location?_eq_map_stay?, hs.location?_eq_map_stay?, h.stay?]

/-- **A replica that reflects the store agrees with every full read of it.**

**Proof sketch.** The counts follow from the locations by `Coherent.headcounts_eq`. Both lists of
stays show each player once, and the stays are the same. -/
theorem Reflects.agrees {c : Replica} {s : Store} (h : c.Reflects s) (hs : s.Settled)
    (now now' : Int64) : (c.snapshot now).Agrees (s.view now') where
  headcounts := h.coherent.headcounts_eq hs (h.location? hs.coherent) h.listed now now'
  stays := by
    have hnodup : (c.snapshot now).stays.Nodup := nodup_map_uuid_mk _ h.coherent.nodup_uuids
    have hnodup' : (s.view now').stays.Nodup := nodup_map_uuid_mk _ (hs.coherent.nodup_uuids_view now')
    refine (List.perm_ext_iff_of_nodup hnodup hnodup').2 fun ⟨uuid, stay⟩ => ?_
    simp only [Snapshot.stays, List.mem_map, Prod.mk.injEq]
    rw [hs.exists_mem_players_view, ← h.stay?]
    exact h.coherent.exists_mem_players uuid stay

end Replica

end FleetStatus
