import FleetStatus.Proofs.Presence.Located

set_option relaxedAutoImplicit false
set_option autoImplicit false

/-!
# Coherence of the presence store

The store keeps the whereabouts of players three times: as the location of each player, in the
roster of each server, and as the number of players of each server. The three are changed apart from
each other, by every operation, and agree all the same.

## Main definitions

* `FleetStatus.Store.residents` — the players that are recorded on a server.
* `FleetStatus.Store.Coherent` — locations, rosters and counts agree.

## Main results

* `FleetStatus.Store.Coherent.effect` — each operation keeps the store coherent.
* `FleetStatus.Store.coherent_run` — so every run does.
* `FleetStatus.Store.whereabouts_run` — what that means for the look-ups of the store.
-/

namespace FleetStatus.Store

/-- The players that are recorded on a server. -/
def residents (s : Store) (id : String) : Set Uuid := {uuid | s.location? uuid = some id}

/-- **Locations, rosters and counts agree.** -/
structure Coherent (s : Store) : Prop where
  located : s.Located
  /-- A record stands under its own identity on the roster of its own server. -/
  owned : ∀ id uuid p, (s.roster id).get? uuid = some p → p.uuid = uuid ∧ p.serverId = id
  /-- The count of a server is the number of its players. -/
  counted : ∀ id, (s.playerCount id).toNat = (s.residents id).ncard

/-- Finitely many players are recorded on a server. -/
theorem finite_residents (s : Store) (id : String) : (s.residents id).Finite :=
  s.locations.finite_holding id

/-- No more players are recorded on a server than there are. -/
theorem ncard_residents_le (s : Store) (id : String) :
    (s.residents id).ncard ≤ s.locations.size :=
  s.locations.ncard_holding_le id

/-! ## Consequences -/

/-- The roster of a server has as many players as are recorded on it. -/
theorem Located.size_roster {s : Store} (h : s.Located) (id : String) :
    (s.roster id).size = (s.residents id).ncard := by
  have hset : s.residents id = {uuid | (s.roster id).contains uuid} := by
    ext uuid
    exact h uuid id
  rw [hset, Index.ncard_contains]

/-- A server with a player on its roster has a positive count. -/
theorem Coherent.playerCount_pos {s : Store} (h : s.Coherent) {uuid : Uuid} {id : String}
    (hin : (s.roster id).contains uuid) : 1 ≤ (s.playerCount id).toNat := by
  rw [h.counted]
  exact (Set.ncard_pos (s.finite_residents id)).2 ⟨uuid, (h.located uuid id).2 hin⟩

/-- What is found in a coherent store stays as it is when the look-ups stay as they are.

**Proof sketch.** All three fields speak of look-ups only. -/
theorem Coherent.congr {s t : Store} (h : s.Coherent)
    (hlocation : ∀ uuid, t.location? uuid = s.location? uuid)
    (hroster : ∀ id, t.roster id = s.roster id)
    (hcount : ∀ id, t.playerCount id = s.playerCount id) : t.Coherent where
  located := h.located.congr hlocation hroster
  owned id uuid p := by rw [hroster]; exact h.owned id uuid p
  counted id := by
    rw [hcount, h.counted]
    congr 1
    ext uuid
    simp only [residents, Set.mem_ofPred_eq, hlocation]

/-! ## Residents after an operation -/

/-- Nobody stays on a server that is forgotten, and all others stay where they are.

**Proof sketch.** Those on the roster lose their location, and these are the residents, as locations
and rosters tell the same. -/
theorem Located.residents_expire {s : Store} (h : s.Located) (id id' : String) :
    (s.expire id).residents id' = if id' = id then ∅ else s.residents id' := by
  ext uuid
  show (s.expire id).location? uuid = some id' ↔ _
  rw [h.location?_expire]
  by_cases hid : id' = id
  · subst hid
    by_cases hat : s.location? uuid = some id' <;> simp [hat]
  · rw [if_neg hid]
    by_cases hat : s.location? uuid = some id
    · simp [residents, hat, Ne.symm hid]
    · simp [residents, hat]

/-- A join puts one player on its server and takes the player off all others. -/
theorem residents_joined (s : Store) (p : PlayerRecord) (id : String) :
    (s.joined p).2.residents id =
      if id = p.serverId then insert p.uuid (s.residents id) else s.residents id \ {p.uuid} := by
  ext uuid
  show (s.joined p).2.location? uuid = some id ↔ _
  rw [location?_joined]
  by_cases huuid : uuid = p.uuid
  · subst huuid
    by_cases hid : id = p.serverId
    · simp [hid]
    · simp [hid, Ne.symm hid]
  · by_cases hid : id = p.serverId <;> simp [hid, huuid, residents]

/-- A leave takes one player off the server that it names. -/
theorem residents_left {s : Store} {uuid : Uuid} {id : String} (hat : s.location? uuid = some id)
    (id' : String) : (s.left uuid id).2.residents id' = s.residents id' \ {uuid} := by
  ext uuid'
  show (s.left uuid id).2.location? uuid' = some id' ↔ _
  rw [location?_left]
  by_cases huuid : uuid' = uuid
  · simp [huuid, hat]
  · simp [huuid, residents]

/-! ## Each operation -/

/-- To forget a server keeps the store coherent: its roster and its count go with the locations of
its players. -/
theorem Coherent.expire {s : Store} (h : s.Coherent) (id : String) : (s.expire id).Coherent where
  located := h.located.expire id
  owned id' uuid p := by
    rw [roster_expire]
    split
    · simp
    · exact h.owned id' uuid p
  counted id' := by
    rw [playerCount_expire, h.located.residents_expire]
    split
    · rw [Set.ncard_empty]
      rfl
    · exact h.counted id'

/-- To register a server keeps the store coherent, as its count is taken from the roster.

**Proof sketch.** Only the count of the server changes, to the size of its roster, which is the
number of residents and does not come around. -/
theorem Coherent.registered {s : Store} (h : s.Coherent) (hfit : s.locations.size < UInt32.size)
    (r : ServerRecord) : (s.registered r).Coherent where
  located := h.located
  owned := h.owned
  counted id := by
    show (((s.counts.insert r.serverId (UInt32.ofNat (s.roster r.serverId).size)).get? id).getD
      0).toNat = (s.residents id).ncard
    rw [Index.get?_insert]
    split
    next hid =>
      subst hid
      have hle := s.ncard_residents_le r.serverId
      rw [Option.getD_some, h.located.size_roster, UInt32.toNat_ofNat_of_lt' (by omega)]
    next => exact h.counted id

/-- The count of the server that a player joins.

**Proof sketch.** If the player is there already, neither the count nor the residents change.
Otherwise there is one resident more, and the count goes up by one, since it is not at its end. -/
theorem Coherent.playerCount_joined_self {s : Store} (h : s.Coherent) (p : PlayerRecord)
    (hfit : (s.joined p).2.locations.size < UInt32.size) :
    ((s.joined p).2.playerCount p.serverId).toNat =
      ((s.joined p).2.residents p.serverId).ncard := by
  have hle := (s.joined p).2.ncard_residents_le p.serverId
  rw [Store.playerCount_joined_self]
  rw [residents_joined, if_pos rfl] at hle ⊢
  by_cases hat : s.location? p.uuid = some p.serverId
  · -- the player is there already
    have hmem : p.uuid ∈ s.residents p.serverId := hat
    rw [if_pos ((h.located _ _).1 hat), Set.insert_eq_of_mem hmem, h.counted]
  · -- the player is new there
    have hnot : p.uuid ∉ s.residents p.serverId := hat
    have hout : ¬(s.roster p.serverId).contains p.uuid := fun hin => hat ((h.located _ _).2 hin)
    rw [Set.ncard_insert_of_notMem hnot (s.finite_residents _)] at hle ⊢
    have hlt : (s.residents p.serverId).ncard + 1 < UInt32.size := by omega
    rw [if_neg hout, UInt32.toNat_add, h.counted]
    exact Nat.mod_eq_of_lt hlt

/-- The count of any other server.

**Proof sketch.** If the player comes from this server, it has one resident less and its count goes
down by one. Otherwise nothing changes there. -/
theorem Coherent.playerCount_joined_of_ne {s : Store} (h : s.Coherent) (p : PlayerRecord)
    {id : String} (hid : id ≠ p.serverId) : ((s.joined p).2.playerCount id).toNat =
      ((s.joined p).2.residents id).ncard := by
  rw [Store.playerCount_joined_of_ne s p hid, h.counted, residents_joined, if_neg hid]
  by_cases hat : s.location? p.uuid = some id
  · -- the player leaves this server for the other one
    have hmem : p.uuid ∈ s.residents id := hat
    rw [if_pos ⟨hat, (h.located _ _).1 hat⟩, Set.ncard_sdiff_singleton_of_mem hmem]
  · -- neither server of the player is this one
    have hnot : p.uuid ∉ s.residents id := hat
    rw [if_neg fun hand => hat hand.1, Set.sdiff_singleton_eq_self hnot, Nat.sub_zero]

/-- A join keeps the store coherent, as long as the count of the server does not overflow.

**Proof sketch.** The record that is put in is the player's own, on the roster of the player's
server. The counts are those of `playerCount_joined_self` and `playerCount_joined_of_ne`. -/
theorem Coherent.joined {s : Store} (h : s.Coherent) (p : PlayerRecord)
    (hfit : (s.joined p).2.locations.size < UInt32.size) : (s.joined p).2.Coherent where
  located := h.located.joined p
  owned id uuid q := by
    have hown := h.owned id uuid q
    rw [get?_roster_joined]
    split
    next hself =>
      rintro ⟨rfl⟩
      exact ⟨hself.1.symm, hself.2.symm⟩
    next =>
      split
      · intro hnone
        cases hnone
      · exact hown
  counted id := by
    by_cases hid : id = p.serverId
    · subst hid
      exact h.playerCount_joined_self p hfit
    · exact h.playerCount_joined_of_ne p hid

/-- A leave keeps the store coherent.

**Proof sketch.** A leave from a server where the player is not changes nothing. Otherwise the
player is on the roster there, so the count of the server goes down by one, as its residents do, and
nothing changes elsewhere. -/
theorem Coherent.left {s : Store} (h : s.Coherent) (uuid : Uuid) (id : String) :
    (s.left uuid id).2.Coherent := by
  by_cases hat : s.location? uuid = some id
  swap
  · rw [left_of_ne hat]
    exact h
  have hin := (h.located uuid id).1 hat
  refine ⟨h.located.left uuid id, fun id' uuid' p => ?_, fun id' => ?_⟩
  · rw [get?_roster_left]
    split
    · intro hnone
      cases hnone
    · exact h.owned id' uuid' p
  · have hcount : ((s.left uuid id).2.playerCount id').toNat = (s.residents id').ncard -
        if id' = id ∧ (s.roster id).contains uuid then 1 else 0 := by
      rw [left_of_eq hat, playerCount_append, playerCount_vacate, ← h.counted]
      rfl
    rw [residents_left hat, hcount]
    by_cases hid : id' = id
    · subst hid
      have hmem : uuid ∈ s.residents id' := hat
      rw [Set.ncard_sdiff_singleton_of_mem hmem, if_pos ⟨rfl, hin⟩]
    · have hnot : uuid ∉ s.residents id' := fun hmem => by
        have : some id' = some id := hmem.symm.trans hat
        exact hid (Option.some.inj this)
      rw [Set.sdiff_singleton_eq_self hnot, if_neg fun hand => hid hand.1, Nat.sub_zero]

/-- Announcing the orphans changes nothing that coherence speaks of. -/
theorem Coherent.healed {s : Store} (h : s.Coherent) : s.healed.Coherent :=
  h.congr s.location?_healed s.roster_healed s.playerCount_healed

/-- **Each operation keeps the store coherent**, as long as a count can tell the players.

**Proof sketch.** A join and a leave move one player in and out of the sets of residents and change
the counts by the same one; a count is not lowered below zero because a server with a player on its
roster has a positive one. Registering counts the roster anew. Forgetting a server empties its
roster, so exactly its residents lose their location. The other operations touch none of the
three. -/
theorem Coherent.effect {s : Store} (h : s.Coherent) (op : Operation)
    (hbefore : s.locations.size < UInt32.size)
    (hafter : (s.effect op).locations.size < UInt32.size) : (s.effect op).Coherent := by
  cases op with
  | register r => exact h.registered hbefore r
  | unregister id => exact (h.expire id).congr (fun _ => rfl) (fun _ => rfl) (fun _ => rfl)
  | heartbeat r => exact h.congr (fun _ => rfl) (fun _ => rfl) (fun _ => rfl)
  | join p => exact h.joined p hafter
  | leave uuid id => exact h.left uuid id
  | fetch now => exact h.healed
  | expire id => exact h.expire id
  | close => exact h.congr (fun _ => rfl) (fun _ => rfl) (fun _ => rfl)

/-! ## Runs -/

/-- An empty store is coherent. -/
theorem coherent_withCapacity (capacity : Nat) : (withCapacity capacity).Coherent where
  located := located_withCapacity capacity
  owned _ _ _ := by
    show none = some _ → _
    simp
  counted id := by
    have hempty : (withCapacity capacity).residents id = ∅ := by
      ext uuid
      show none = some id ↔ False
      simp
    rw [hempty, Set.ncard_empty]
    rfl

/-- Every run in which the counts do not overflow keeps the store coherent.

**Proof sketch.** By induction on the operations. An operation has its effect or changes nothing,
and before and after it there are few enough players. -/
theorem Coherent.run {s : Store} (h : s.Coherent) {ops : List Operation} (hfit : s.CountsFit ops) :
    (s.run ops).Coherent := by
  induction ops generalizing s with
  | nil => exact h
  | cons op ops ih =>
    have hbefore : s.locations.size < UInt32.size := hfit [] (List.nil_prefix)
    have hafter : (s.perform op).locations.size < UInt32.size := hfit.tail [] (List.nil_prefix)
    refine ih ?_ hfit.tail
    obtain heq | ⟨-, heq⟩ := s.perform_eq_self_or op
    · rw [heq] at hafter ⊢
      exact h.effect op hbefore hafter
    · rwa [heq]

/-- **Every run keeps the store coherent.** -/
theorem coherent_run {capacity : Nat} {ops : List Operation}
    (hfit : (withCapacity capacity).CountsFit ops) : ((withCapacity capacity).run ops).Coherent :=
  (coherent_withCapacity capacity).run hfit

/-- **The whereabouts of players after a run**, whatever the servers did and in which order: a
player is on one roster at most, and it is the one of the player's location; records stand where
they belong; the count of a server is the number of players located there. So vacating, which
happens in a join with the store as it is and in a leave with other locations already, never meets a
count of zero.

**Proof sketch.** Every run keeps the store coherent, by induction on its operations
(`Coherent.effect`, `coherent_run`). Of two rosters with the same player both are those of the
player's location. A player on a roster is a resident, so the count there is at least one, and
vacating lowers it by one. -/
theorem whereabouts_run (capacity : Nat) (ops : List Operation)
    (hfit : (withCapacity capacity).CountsFit ops) :
    let s := (withCapacity capacity).run ops
    (∀ uuid id id', (s.roster id).contains uuid → (s.roster id').contains uuid → id = id') ∧
    (∀ uuid id, s.location? uuid = some id ↔ (s.roster id).contains uuid) ∧
    (∀ uuid id p, (s.roster id).get? uuid = some p → p.uuid = uuid ∧ p.serverId = id) ∧
    (∀ id, (s.playerCount id).toNat = {uuid | s.location? uuid = some id}.ncard) ∧
    ∀ uuid id locations, (s.roster id).contains uuid →
      1 ≤ (s.playerCount id).toNat ∧
      (({ s with locations }.vacate uuid id).playerCount id).toNat + 1 =
        (s.playerCount id).toNat := by
  intro s
  have h : s.Coherent := coherent_run hfit
  refine ⟨fun uuid id id' hin hin' => ?_, h.located, fun uuid id p => h.owned id uuid p, h.counted,
    fun uuid id locations hin => ⟨h.playerCount_pos hin, ?_⟩⟩
  · have heq : some id = some id' :=
      ((h.located uuid id).2 hin).symm.trans ((h.located uuid id').2 hin')
    exact Option.some.inj heq
  · have hpos := h.playerCount_pos hin
    have hvacate := playerCount_vacate { s with locations } uuid id id
    rw [if_pos ⟨rfl, hin⟩] at hvacate
    rw [hvacate]
    exact Nat.sub_add_cancel hpos

/-- A player moves to a server that was never registered; the server expires, is registered over the
player's return, and one of two players leaves again. -/
theorem whereabouts_run_expired :
    let p (n : Nat) (id : String) : PlayerRecord := ⟨⟨n⟩, "name", id, id, 0⟩
    let ops : List Operation := [.register { serverId := "a", serverName := "A", lastHeartbeat := 0 },
      .join (p 1 "a"), .join (p 1 "b"), .expire "b", .join (p 1 "b"), .join (p 2 "b"),
      .register { serverId := "b", serverName := "B", lastHeartbeat := 0 }, .leave ⟨1⟩ "b",
      .fetch 0, .close, .join (p 3 "b")]
    let s := (withCapacity 2).run ops
    (withCapacity 2).CountsFit ops ∧
      (s.playerCount "b").toNat = {uuid | s.location? uuid = some "b"}.ncard ∧
      s.playerCount "b" = 1 ∧ s.location? ⟨2⟩ = some "b" := by
  intro p ops s
  have hfit : (withCapacity 2).CountsFit ops := countsFit_of_length_lt 2 (by decide)
  exact ⟨hfit, (whereabouts_run 2 ops hfit).2.2.2.1 "b", by decide, by decide⟩

end FleetStatus.Store
