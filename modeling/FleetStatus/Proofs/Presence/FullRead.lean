import FleetStatus.Proofs.Presence.Listed

set_option relaxedAutoImplicit false
set_option autoImplicit false

/-!
# Full reads

A full read is the one reading of the store that writes. It first announces the servers that are
listed without a record as gone and takes them off the list. What it gives then is faithful to the
store, whoever joined or sent a heartbeat under the id of a server whose record ran out, and the
next full read finds nothing to announce.

## Main definitions

* `FleetStatus.PlayerRecord.Before` — the order of players in a full read.
* `FleetStatus.Snapshot.Faithful` — the snapshot lists what the store holds, in order and with exact
  counts.

## Main results

* `FleetStatus.Snapshot.Faithful.toNat_totalPlayers` — the counts add up to the players.
* `FleetStatus.Store.Coherent.faithful_healed` — a full read is faithful.
* `FleetStatus.Store.healed_healed` — nothing is left to announce after it.
* `FleetStatus.Store.fetch_run` — a full read after every run of operations.
-/

namespace FleetStatus

/-! ## Faithful snapshots -/

/-- The order of players in a full read: by their servers, and on one server by their identities. -/
def PlayerRecord.Before (p q : PlayerRecord) : Prop :=
  p.serverId < q.serverId ∨ p.serverId = q.serverId ∧ p.uuid.value < q.uuid.value

/-- A snapshot is **faithful** to a store: it is exact; it lists each server that is announced and
has a record, with that record and the count of the store; and it lists each player on the roster of
such a server, with the record there. The servers ascend, and so do the players, so nothing is
listed twice. -/
structure Snapshot.Faithful (snap : Snapshot) (s : Store) : Prop extends snap.Exact where
  ascending : (snap.servers.map (·.serverId)).Pairwise (· < ·)
  listed : ∀ r, r ∈ snap.servers ↔ ∃ r', s.Listed r.serverId r' ∧ r = s.shown r'
  ordered : snap.players.Pairwise PlayerRecord.Before
  recorded : ∀ p, p ∈ snap.players ↔
    p.serverId ∈ snap.servers.map (·.serverId) ∧ (s.roster p.serverId).get? p.uuid = some p

/-- **The counts of a faithful snapshot add up to its players.**

**Proof sketch.** Exact counts add up to the players on listed servers, and the server of every
player is listed. -/
theorem Snapshot.Faithful.toNat_totalPlayers {snap : Snapshot} {s : Store} (h : snap.Faithful s)
    (hsmall : snap.players.length < UInt32.size) :
    snap.totalPlayers.toNat = snap.players.length := by
  have hservers : (snap.servers.map (·.serverId)).Nodup := h.ascending.imp String.ne_of_lt
  have hall : ∀ p ∈ snap.players, decide (p.serverId ∈ snap.servers.map (·.serverId)) = true :=
    fun p hp => decide_eq_true ((h.recorded p).1 hp).1
  rw [h.toExact.toNat_totalPlayers hservers hsmall, List.filter_eq_self.2 hall]

namespace Store

variable {s : Store}

/-! ## The players of a full read -/

namespace Coherent

variable (h : s.Coherent) (now : Int64)

include h

/-- **A full read lists the players in order.**

**Proof sketch.** The servers are listed in the order of their ids and each roster in the order of
its players, and a roster holds only players of its own server. -/
theorem ordered_view : (s.view now).players.Pairwise PlayerRecord.Before := by
  show (s.tracked.keys.flatMap fun id => (s.roster id).values).Pairwise _
  -- each player stands on the roster of the player's own server
  have hserver {id : String} {p : PlayerRecord} (hp : p ∈ (s.roster id).values) :
      p.serverId = id := by
    obtain ⟨uuid, huuid⟩ := (Index.mem_values_iff _ _).1 hp
    exact (h.owned id uuid p huuid).2
  rw [List.pairwise_flatMap]
  constructor
  · intro id _
    refine List.pairwise_map.2 ((s.roster id).sorted.imp_of_mem fun {a b} ha hb hlt => ?_)
    obtain ⟨ha, hida⟩ := h.owned id a.1 a.2 ((Index.mem_entries_iff _ _ _).1 ha)
    obtain ⟨hb, hidb⟩ := h.owned id b.1 b.2 ((Index.mem_entries_iff _ _ _).1 hb)
    refine .inr ⟨hida.trans hidb.symm, ?_⟩
    rw [ha, hb]
    exact compareOfLessAndEq_eq_lt.1 hlt
  · refine s.tracked.ascending_keys.imp fun {id id'} hlt p hp q hq => .inl ?_
    rwa [hserver hp, hserver hq]

/-- A full read lists no more players than there are.

**Proof sketch.** Each player that is listed has a location, and none is listed twice. -/
theorem length_players_view_le : (s.view now).players.length ≤ s.locations.size := by
  have hsubset : (s.view now).players.map (·.uuid) ⊆ s.locations.keys := by
    intro uuid huuid
    obtain ⟨p, hp, rfl⟩ := List.mem_map.1 huuid
    have hin : (s.roster p.serverId).contains p.uuid :=
      Option.isSome_iff_exists.2 ⟨p, ((h.mem_players_view now p).1 hp).2⟩
    exact (Index.mem_keys_iff _ _).2
      (Option.isSome_iff_exists.2 ⟨p.serverId, (h.located _ _).2 hin⟩)
  have hle := (List.subperm_of_subset (h.nodup_uuids_view now) hsubset).length_le
  rwa [List.length_map, Index.keys, List.length_map] at hle

/-- **A full read is faithful** when every announced server has a record.

**Proof sketch.** The servers that are listed are the announced ones with a record, which are all
announced ones; and a player that is listed stands on the roster of one of them. -/
theorem faithful_view (hnamed : s.Named)
    (hrecord : ∀ id, s.tracked.contains id → s.servers.contains id) : (s.view now).Faithful s where
  toExact := h.exact_view now hnamed
  ascending := map_serverId_view hnamed now ▸ s.tracked.ascending_keys.filter _
  listed := hnamed.mem_servers_view now
  ordered := h.ordered_view now
  recorded p := by
    rw [h.mem_players_view, map_serverId_view hnamed, List.mem_filter, Index.mem_keys_iff,
      and_iff_left_of_imp (hrecord p.serverId)]

end Coherent

/-! ## Full reads heal -/

/-- A full read of an open store announces the orphans and lists what there is then. -/
theorem fetch_of_open (h : s.closed = false) (now : Int64) :
    s.fetch now = .ok (s.healed.view now, s.healed) := whenOpen_of_open h _

/-- Announcing the orphans leaves the listed servers listed, with their records. -/
theorem listed_healed_iff (s : Store) (id : String) (r : ServerRecord) :
    s.healed.Listed id r ↔ s.Listed id r := by
  constructor
  · rintro ⟨hrecord, htracked⟩
    exact ⟨s.servers_healed ▸ hrecord, ((s.contains_tracked_healed id).1 htracked).1⟩
  · rintro ⟨hrecord, htracked⟩
    have hcontains : s.servers.contains id := Option.isSome_iff_exists.2 ⟨r, hrecord⟩
    exact ⟨s.servers_healed ▸ hrecord, (s.contains_tracked_healed id).2 ⟨htracked, hcontains⟩⟩

/-- **A full read is faithful** to the store before it.

**Proof sketch.** After the orphans are announced every announced server has a record, so the view
of that store is faithful to it. It is faithful to the store before as well, since records, rosters
and counts stay as they are. -/
theorem Coherent.faithful_healed (h : s.Coherent) (hnamed : s.Named) (now : Int64) :
    (s.healed.view now).Faithful s := by
  have hrecord : ∀ id, s.healed.tracked.contains id → s.healed.servers.contains id :=
    fun id hid => s.servers_healed ▸ ((s.contains_tracked_healed id).1 hid).2
  have hfaithful := h.healed.faithful_view now (hnamed.effect (.fetch now)) hrecord
  refine ⟨hfaithful.toExact, hfaithful.ascending, fun r => ?_, hfaithful.ordered, fun p => ?_⟩
  · simp only [hfaithful.listed, listed_healed_iff, shown, playerCount_healed]
  · rw [hfaithful.recorded, roster_healed]

/-- **Nothing is left to announce after a full read.**

**Proof sketch.** An orphan is an announced server without a record, and none is left of those. -/
theorem healed_healed (s : Store) : s.healed.healed = s.healed := by
  have hnone : s.healed.orphans = [] := by
    refine List.eq_nil_iff_forall_not_mem.2 fun id hid => ?_
    obtain ⟨htracked, hmissing⟩ := (mem_orphans_iff _ _).1 hid
    exact hmissing (s.servers_healed ▸ ((s.contains_tracked_healed id).1 htracked).2)
  rw [healed, hnone, List.foldl_nil]

/-- **A full read after a run of operations**, whatever they were, is faithful to the store, and its
counts add up to its players. The servers that are announced and have no record are announced as
gone, each once and in ascending order, and taken off the list, and nothing else changes. A second
full read gives the same but for its time and changes nothing.

**Proof sketch.** A run keeps the store coherent and its records named. So the read is faithful by
`Coherent.faithful_healed`, its counts add up since the players are few enough for them, and the
second read finds nothing to announce (`healed_healed`). -/
theorem fetch_run {capacity : Nat} {ops : List Operation}
    (hfit : (withCapacity capacity).CountsFit ops)
    (hopen : ((withCapacity capacity).run ops).closed = false) (now now' : Int64) :
    let s := (withCapacity capacity).run ops
    ∃ snap t, s.fetch now = .ok (snap, t) ∧
      snap.Faithful s ∧ snap.capturedAt = now ∧
      snap.totalPlayers.toNat = snap.players.length ∧
      t = (s.orphans.map fun id => .serverOffline id (some "expired")).foldl append
        { s with tracked := s.tracked.filter fun id _ => s.servers.contains id } ∧
      (∀ id, id ∈ s.orphans ↔ s.tracked.contains id ∧ ¬s.servers.contains id) ∧
      s.orphans.Pairwise (· < ·) ∧
      t.fetch now' = .ok ({ snap with capturedAt := now' }, t) := by
  intro s
  have h : s.Coherent := coherent_run hfit
  have hnamed : s.Named := named_run capacity ops
  have hfaithful := h.faithful_healed hnamed now
  have hlocations : s.healed.locations.size < UInt32.size :=
    s.locations_healed ▸ hfit ops (List.prefix_refl ops)
  have hsmall : (s.healed.view now).players.length < UInt32.size :=
    (h.healed.length_players_view_le now).trans_lt hlocations
  refine ⟨s.healed.view now, s.healed, fetch_of_open hopen now, hfaithful, rfl,
    hfaithful.toNat_totalPlayers hsmall, s.healed_eq now, s.mem_orphans_iff,
    s.tracked.ascending_keys.filter _, ?_⟩
  rw [fetch_of_open (s.closed_healed.trans hopen), healed_healed]
  rfl

/-- One server ran out with a player, and a player joined under its id again; another one never
registered and has a player too. A full read announces the first as gone and lists the third server
with its two players. -/
theorem fetch_run_orphan :
    let p (n : Nat) (id : String) : PlayerRecord := ⟨⟨n⟩, "name", id, id, 0⟩
    let r (id : String) : ServerRecord := { serverId := id, serverName := id, lastHeartbeat := 0 }
    let ops : List Operation := [.register (r "c"), .join (p 1 "c"), .join (p 9 "a"),
      .register (r "a"), .expire "a", .join (p 2 "a"), .join (p 3 "b"), .join (p 0 "c")]
    let s := (withCapacity 100).run ops
    (withCapacity 100).CountsFit ops ∧ s.closed = false ∧ s.orphans = ["a"] ∧
      ∃ snap t, s.fetch 5 = .ok (snap, t) ∧ snap.Faithful s ∧
        snap.servers.map (·.serverId) = ["c"] ∧ snap.totalPlayers.toNat = 2 ∧
        t.log = s.log ++ [(s.lastEntry + 1, .serverOffline "a" (some "expired"))] ∧
        t.fetch 6 = .ok ({ snap with capturedAt := 6 }, t) := by
  intro p r ops s
  have hfit : (withCapacity 100).CountsFit ops := countsFit_of_length_lt 100 (by decide)
  have hopen : s.closed = false := by decide
  obtain ⟨snap, t, hfetch, hfaithful, -, -, -, -, -, hagain⟩ := fetch_run hfit hopen 5 6
  obtain ⟨rfl, rfl⟩ := Prod.mk.inj (Except.ok.inj ((fetch_of_open hopen 5).symm.trans hfetch))
  exact ⟨hfit, hopen, by decide, _, _, hfetch, hfaithful, by decide, by decide, by decide, hagain⟩

end Store

end FleetStatus
