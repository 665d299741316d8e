import FleetStatus.Proofs.Presence.Coherence
import FleetStatus.Proofs.Presence.Replica

set_option relaxedAutoImplicit false
set_option autoImplicit false

/-!
# Snapshots with exact counts

A snapshot lists servers with their counts, and players with their servers. It is exact when it
lists no player twice and the count of every listed server is the number of the players that it
lists on the server. A full read of a coherent store is exact, and a replica that is replaced by an
exact snapshot is coherent.

## Main definitions

* `FleetStatus.Snapshot.Exact` — no player is listed twice and the counts match the players.

## Main results

* `FleetStatus.Snapshot.Exact.toNat_totalPlayers` — what exact counts add up to.
* `FleetStatus.Snapshot.Exact.coherent_refresh` — a replica that is replaced by an exact snapshot.
* `FleetStatus.Store.Coherent.mem_players_view`, `FleetStatus.Store.Coherent.nodup_uuids_view` — the
  players that a full read lists.
* `FleetStatus.Store.Coherent.exact_view` — a full read is exact.
-/

namespace FleetStatus

namespace Snapshot

/-- The players that are listed on a server. -/
def playersOn (s : Snapshot) (id : String) : List PlayerRecord :=
  s.players.filter (·.serverId == id)

/-- The snapshot is **exact**: no player is listed twice, and the count of every listed server is
the number of the players listed on it. -/
structure Exact (s : Snapshot) : Prop where
  distinct : (s.players.map (·.uuid)).Nodup
  counted : ∀ r ∈ s.servers, r.playerCount.toNat = (s.playersOn r.serverId).length

instance (s : Snapshot) : Decidable s.Exact :=
  decidable_of_iff ((s.players.map (·.uuid)).Nodup ∧
      ∀ r ∈ s.servers, r.playerCount.toNat = (s.playersOn r.serverId).length)
    ⟨fun h => ⟨h.1, h.2⟩, fun h => ⟨h.distinct, h.counted⟩⟩

end Snapshot

/-! ## Sums of counts -/

/-- A sum that a count can tell is told.

**Proof sketch.** By induction on the counts, for every number to start from: each step adds without
wrapping around, since the whole sum does not. -/
theorem toNat_sumCounts {counts : List UInt32}
    (h : (counts.map (·.toNat)).sum < UInt32.size) :
    (sumCounts counts).toNat = (counts.map (·.toNat)).sum := by
  have hfrom (start : UInt32) (hfits : start.toNat + (counts.map (·.toNat)).sum < UInt32.size) :
      (counts.foldl addCounts start).toNat = start.toNat + (counts.map (·.toNat)).sum := by
    clear h
    induction counts generalizing start with
    | nil => rfl
    | cons n counts ih =>
      rw [List.map_cons, List.sum_cons] at hfits ⊢
      have hone : (addCounts start n).toNat = start.toNat + n.toNat := by
        rw [addCounts, Nat.min_eq_left (by omega)]
        exact UInt32.toNat_ofNat_of_lt' (by omega)
      rw [List.foldl_cons, ih _ (by omega), hone, Nat.add_assoc]
  have hzero := hfrom 0 (by rwa [UInt32.toNat_zero, Nat.zero_add])
  rwa [UInt32.toNat_zero, Nat.zero_add] at hzero

/-- Of keys that are listed once, one at most is a given key. -/
theorem sum_indicator {β : Type} [DecidableEq β] {keys : List β} (hkeys : keys.Nodup) (k : β) :
    (keys.map fun k' => if k = k' then 1 else 0).sum = if k ∈ keys then 1 else 0 := by
  induction keys with
  | nil => rfl
  | cons k' keys ih =>
    obtain ⟨hnew, hrest⟩ := List.nodup_cons.1 hkeys
    rw [List.map_cons, List.sum_cons, ih hrest]
    by_cases hk : k = k'
    · subst hk
      simp [hnew]
    · simp [hk]

/-- Items that are sorted by their keys are as many as the items with one of the keys.

**Proof sketch.** By induction on the items. One item adds one to the sum when its key is among the
keys, and then to one summand only, as no key is listed twice. -/
theorem sum_length_filter {α β : Type} [DecidableEq β] (key : α → β) (items : List α)
    {keys : List β} (hkeys : keys.Nodup) :
    (keys.map fun k => (items.filter (key · == k)).length).sum =
      (items.filter fun a => decide (key a ∈ keys)).length := by
  induction items with
  | nil => simp
  | cons a items ih =>
    have hone (k : β) : ((a :: items).filter (key · == k)).length =
        (items.filter (key · == k)).length + if key a = k then 1 else 0 := by
      by_cases hk : key a = k <;> simp [hk]
    simp only [hone, List.sum_map_add, ih, sum_indicator hkeys]
    by_cases hmem : key a ∈ keys <;> simp [hmem]

/-! ## The sum of exact counts -/

namespace Snapshot.Exact

variable {s : Snapshot} (h : s.Exact)

include h

/-- **Exact counts add up to the players on listed servers.**

**Proof sketch.** Each count is the number of players on its server. As no server is listed twice,
these numbers add up to the players on listed servers, and there are few enough of them for the sum
to be told. -/
theorem toNat_totalPlayers (hservers : (s.servers.map (·.serverId)).Nodup)
    (hsmall : s.players.length < UInt32.size) : s.totalPlayers.toNat =
      (s.players.filter fun p => decide (p.serverId ∈ s.servers.map (·.serverId))).length := by
  have hsum : ((s.servers.map (·.playerCount)).map (·.toNat)).sum =
      (s.players.filter fun p => decide (p.serverId ∈ s.servers.map (·.serverId))).length := by
    rw [← sum_length_filter PlayerRecord.serverId s.players hservers, List.map_map, List.map_map]
    exact congrArg List.sum (List.map_congr_left h.counted)
  have hfits : ((s.servers.map (·.playerCount)).map (·.toNat)).sum < UInt32.size :=
    hsum ▸ Nat.lt_of_le_of_lt (List.length_filter_le _ _) hsmall
  exact (toNat_sumCounts hfits).trans hsum

end Snapshot.Exact

/-! ## A replica that is replaced by an exact snapshot -/

namespace Snapshot.Exact

variable {s : Snapshot} (h : s.Exact) (c : Replica) (now : Int64)

include h

/-- A replica that is replaced by an exact snapshot has the players of the snapshot, each under its
identity. -/
theorem get?_players_refresh (uuid : Uuid) (p : PlayerRecord) :
    (c.refresh s now).players.get? uuid = some p ↔ p ∈ s.players ∧ p.uuid = uuid := by
  rw [Replica.refresh, Index.get?_ofList_map _ _ h.distinct]
  constructor
  · rintro ⟨q, hq, huuid, rfl⟩
    exact ⟨hq, huuid⟩
  · rintro ⟨hp, huuid⟩
    exact ⟨p, hp, huuid, rfl⟩

/-- The replica lists the players of the snapshot, in its own order. -/
theorem values_players_refresh : (c.refresh s now).players.values.Perm s.players := by
  have hnodup : ((c.refresh s now).players.values.map (·.uuid)).Nodup :=
    Index.map_values_eq_keys (Replica.filed_refresh c s now).keyed ▸ Index.nodup_keys _
  refine (List.perm_ext_iff_of_nodup hnodup.of_map h.distinct.of_map).2 fun p => ?_
  simp only [Index.mem_values_iff, h.get?_players_refresh]
  exact ⟨fun ⟨_, hp, _⟩ => hp, fun hp => ⟨p.uuid, hp, rfl⟩⟩

/-- **A replica that is replaced by an exact snapshot is coherent**, whichever of two records of one
server the snapshot lists last.

**Proof sketch.** The records are filed whatever the snapshot lists. A record in the replica is one
of the snapshot and has the count of the players that the snapshot lists on the server; the replica
lists the same players in another order. -/
theorem coherent_refresh : (c.refresh s now).Coherent where
  toFiled := Replica.filed_refresh c s now
  counted id r hr := by
    obtain ⟨r', hmem, heq⟩ := List.mem_map.1 (Index.mem_of_get?_ofList hr)
    obtain ⟨rfl, rfl⟩ := Prod.mk.inj heq
    have hplayers : ((c.refresh s now).playersOn r'.serverId).length =
        (s.playersOn r'.serverId).length :=
      ((h.values_players_refresh c now).filter _).length_eq
    rw [(Replica.filed_refresh c s now).located.ncard_holding, hplayers, ← h.counted r' hmem,
      UInt32.ofNat_toNat]

end Snapshot.Exact

/-! ## What a full read lists -/

/-- **A full read lists the announced servers that have a record**, in the order of their ids, when
all records are under the ids of their servers.

**Proof sketch.** The read goes through the announced ids in their order and skips those without a
record; a record that is found has the id under which it was looked up. -/
theorem Store.map_serverId_view {s : Store}
    (hnamed : ∀ id r, s.servers.get? id = some r → r.serverId = id) (now : Int64) :
    (s.view now).servers.map (·.serverId) =
      s.tracked.keys.filter fun id => s.servers.contains id := by
  show (s.tracked.keys.filterMap fun id => (s.servers.get? id).map
    fun r => { r with playerCount := s.playerCount id }).map (·.serverId) = _
  rw [List.map_filterMap, ← List.filterMap_eq_filter]
  refine List.filterMap_congr fun id _ => ?_
  cases hr : s.servers.get? id with
  | none => simp [Option.guard, Index.contains, hr]
  | some r => simp [Option.guard, Index.contains, hr, hnamed id r hr]

namespace Store.Coherent

variable {s : Store} (h : s.Coherent) (now : Int64)

include h

/-- The identities on a roster are its keys. -/
theorem map_uuid_roster (id : String) :
    (s.roster id).values.map (·.uuid) = (s.roster id).keys :=
  Index.map_values_eq_keys fun uuid p hp => (h.owned id uuid p hp).1

/-- **A full read lists the players on the rosters of the announced servers.** -/
theorem mem_players_view (p : PlayerRecord) : p ∈ (s.view now).players ↔
    s.tracked.contains p.serverId ∧ (s.roster p.serverId).get? p.uuid = some p := by
  show p ∈ s.tracked.keys.flatMap (fun id => (s.roster id).values) ↔ _
  simp only [List.mem_flatMap, Index.mem_keys_iff, Index.mem_values_iff]
  constructor
  · rintro ⟨id, hid, uuid, hp⟩
    obtain ⟨rfl, rfl⟩ := h.owned id uuid p hp
    exact ⟨hid, hp⟩
  · rintro ⟨hid, hp⟩
    exact ⟨p.serverId, hid, p.uuid, hp⟩

/-- **A full read lists no player twice.**

**Proof sketch.** The list is made of the rosters of different servers. On one roster the identities
are keys, and a player on two rosters would be located on two servers. -/
theorem nodup_uuids_view : ((s.view now).players.map (·.uuid)).Nodup := by
  show ((s.tracked.keys.flatMap fun id => (s.roster id).values).map (·.uuid)).Nodup
  simp only [List.map_flatMap, h.map_uuid_roster, List.nodup_flatMap]
  refine ⟨fun id _ => Index.nodup_keys _, s.tracked.nodup_keys.imp fun {id id'} hne => ?_⟩
  -- a player on both rosters would be located on both servers
  intro uuid hin hin'
  rw [Index.mem_keys_iff, ← h.located] at hin hin'
  exact hne (Option.some.inj (hin.symm.trans hin'))

/-- A full read lists as many players on an announced server as the server counts.

**Proof sketch.** The players that the read lists on the server are those of its roster, each once,
and in a coherent store the count is the size of the roster. -/
theorem length_playersOn_view {id : String} (hid : s.tracked.contains id) :
    ((s.view now).playersOn id).length = (s.playerCount id).toNat := by
  have hroster : ((s.roster id).values.map (·.uuid)).Nodup :=
    h.map_uuid_roster id ▸ Index.nodup_keys _
  have hperm : ((s.view now).playersOn id).Perm (s.roster id).values := by
    refine (List.perm_ext_iff_of_nodup ?_ hroster.of_map).2 fun p => ?_
    · exact (h.nodup_uuids_view now).of_map.filter _
    · simp only [Snapshot.playersOn, List.mem_filter, beq_iff_eq, h.mem_players_view,
        Index.mem_values_iff]
      constructor
      · rintro ⟨⟨-, hp⟩, rfl⟩
        exact ⟨p.uuid, hp⟩
      · rintro ⟨uuid, hp⟩
        obtain ⟨rfl, rfl⟩ := h.owned id uuid p hp
        exact ⟨⟨hid, hp⟩, rfl⟩
  calc ((s.view now).playersOn id).length
      = (s.roster id).values.length := hperm.length_eq
    _ = (s.roster id).size := List.length_map _
    _ = (s.residents id).ncard := h.located.size_roster id
    _ = (s.playerCount id).toNat := (h.counted id).symm

/-- **A full read of a coherent store is exact**, when all records are under the ids of their
servers. -/
theorem exact_view (hnamed : ∀ id r, s.servers.get? id = some r → r.serverId = id) :
    (s.view now).Exact where
  distinct := h.nodup_uuids_view now
  counted r hr := by
    obtain ⟨id, hid, hmap⟩ := List.mem_filterMap.1 hr
    obtain ⟨r', hr', rfl⟩ := Option.map_eq_some_iff.1 hmap
    obtain rfl := hnamed id r' hr'
    exact (h.length_playersOn_view now ((Index.mem_keys_iff _ _).1 hid)).symm

end Store.Coherent

end FleetStatus
