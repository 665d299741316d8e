import FleetStatus.Proofs.Presence.Refresh

set_option relaxedAutoImplicit false
set_option autoImplicit false

/-!
# Counting servers' players, and counting players

The number of players of a fleet can be told in two ways: by adding up the counts of the servers, or
by the length of the list of players. In a coherent replica every count is the number of players
located on its server. So the two ways differ by the players on servers that are not listed: nobody
counts those.

## Main definitions

* `FleetStatus.Replica.Housed` — every player is on a server that is listed.
* `FleetStatus.Replica.stranded` — the players on servers that are not listed.

## Main results

* `FleetStatus.Event.foldl_placeAfter_eq_some` — why events leave a player on a server.
* `FleetStatus.Replica.Coherent.prune` — what forgetting stale servers keeps.
* `FleetStatus.Replica.Coherent.toNat_playerCount` — every count is exact.
* `FleetStatus.Replica.Coherent.totalPlayers_add_stranded` — the counts make up for all players but
  the stranded ones.
* `FleetStatus.Replica.Coherent.totalPlayers_eq_iff` — so the two numbers agree when there are none.
-/

namespace FleetStatus

/-! ## Players and their servers -/

namespace Event

/-- Where events place a player does not depend on where the player was.

**Proof sketch.** By induction on the events from the end. A join of the player places the player
wherever the player was; any other event leaves the player or takes the player off, whichever way
the place came about. -/
theorem foldl_placeAfter_of_none {uuid : Uuid} {events : List Event} {id : String}
    (h : events.foldl (placeAfter uuid) none = some id) (v : Option String) :
    events.foldl (placeAfter uuid) v = some id := by
  induction events using List.reverseRecOn generalizing id with
  | nil => cases h
  | append_singleton events e ih =>
    simp only [List.foldl_append, List.foldl_cons, List.foldl_nil] at h ⊢
    have hstays (id' : String)
        (hfilter : (events.foldl (placeAfter uuid) none).filter (· ≠ id') = some id) :
        (events.foldl (placeAfter uuid) v).filter (· ≠ id') = some id := by
      obtain ⟨hat, hne⟩ := Option.filter_eq_some_iff.1 hfilter
      exact Option.filter_eq_some_iff.2 ⟨ih hat, hne⟩
    cases e with
    | playerJoin uuid' username id' name previous =>
      rw [placeAfter] at h ⊢
      split at h
      next hsame => exact (if_pos hsame).trans h
      next hother => exact (if_neg hother).trans (ih h)
    | playerLeave uuid' id' =>
      rw [placeAfter] at h ⊢
      split at h
      next hsame => exact (if_pos hsame).trans (hstays id' h)
      next hother => exact (if_neg hother).trans (ih h)
    | serverOffline id' reason => exact hstays id' h
    | serverHeartbeat id' count max => exact ih h
    | serverOnline id' name => exact ih h

/-- **A player on a server was placed there by the events, or the player was there before and they
did not take the server out of the fleet.**

**Proof sketch.** By induction on the events from the end. A player whom no event placed was on the
server before, and an event that took the server out of the fleet would have taken the player off.
-/
theorem foldl_placeAfter_eq_some {uuid : Uuid} {events : List Event} {v : Option String}
    {id : String} (h : events.foldl (placeAfter uuid) v = some id) :
    events.foldl (placeAfter uuid) none = some id ∨
      v = some id ∧ events.foldl (listedAfter id) true = true := by
  induction events using List.reverseRecOn generalizing id with
  | nil => exact .inr ⟨h, rfl⟩
  | append_singleton events e ih =>
    simp only [List.foldl_append, List.foldl_cons, List.foldl_nil] at h ⊢
    -- an event that does not place the player leaves a place that it does not empty
    have hstays (id' : String)
        (hfilter : (events.foldl (placeAfter uuid) v).filter (· ≠ id') = some id) :
        id ≠ id' ∧ ((events.foldl (placeAfter uuid) none).filter (· ≠ id') = some id ∨
          v = some id ∧ events.foldl (listedAfter id) true = true) := by
      obtain ⟨hat, hne⟩ := Option.filter_eq_some_iff.1 hfilter
      have hne : id ≠ id' := by simpa using hne
      refine ⟨hne, (ih hat).imp_left fun hnone => ?_⟩
      exact Option.filter_eq_some_iff.2 ⟨hnone, by simpa using hne⟩
    cases e with
    | playerJoin uuid' username id' name previous =>
      rw [placeAfter] at h ⊢
      split at h
      next hsame => exact .inl ((if_pos hsame).trans h)
      next hother =>
        rw [if_neg hother]
        exact ih h
    | playerLeave uuid' id' =>
      rw [placeAfter] at h ⊢
      split at h
      next hsame =>
        rw [if_pos hsame]
        exact (hstays id' h).2
      next hother =>
        rw [if_neg hother]
        exact ih h
    | serverOffline id' reason =>
      obtain ⟨hne, hcases⟩ := hstays id' h
      refine hcases.imp_right fun hstayed => ⟨hstayed.1, ?_⟩
      simp [listedAfter, hstayed.2, Ne.symm hne]
    | serverHeartbeat id' count max => exact ih h
    | serverOnline id' name =>
      refine (ih h).imp_right fun hstayed => ⟨hstayed.1, ?_⟩
      simp [listedAfter, hstayed.2]

end Event

/-! ## Players on listed servers -/

namespace Replica

/-- Every player is on a server that is listed. -/
def Housed (c : Replica) : Prop :=
  ∀ uuid id, c.locations.get? uuid = some id → c.servers.contains id = true

/-- A replica that reflects a settled store has its players on listed servers. -/
theorem Reflects.housed {c : Replica} {s : Store} (h : c.Reflects s) (hs : s.Settled) :
    c.Housed := by
  intro uuid id hat
  rw [h.location? hs.coherent] at hat
  rw [h.listed]
  exact hs.registered uuid id hat

/-- The players on a server go with it. -/
theorem Housed.removeServer {c : Replica} (h : c.Housed) (id : String) :
    (c.removeServer id).Housed := by
  intro uuid id' hat
  rw [get?_locations_removeServer] at hat
  obtain ⟨hat, hne⟩ := Option.filter_eq_some_iff.1 hat
  rw [contains_servers_removeServer, h uuid id' hat]
  simpa using hne

/-- **To forget the stale servers keeps a replica coherent, and its players on listed servers.**

**Proof sketch.** By induction on the stale servers, each of which is taken off with its players. -/
theorem Coherent.prune {c : Replica} (h : c.Coherent) (now : Int64) :
    (c.prune now).Coherent ∧ (c.Housed → (c.prune now).Housed) := by
  unfold Replica.prune
  generalize c.staleIds now = ids
  induction ids generalizing c with
  | nil => exact ⟨h, fun hhoused => hhoused⟩
  | cons id ids ih =>
    obtain ⟨hcoherent, hkept⟩ := ih (h.removeServer id)
    exact ⟨hcoherent, fun hhoused => hkept (hhoused.removeServer id)⟩

/-! ## The two ways of counting -/

/-- The players on servers that are **not listed**. -/
def stranded (c : Replica) : List PlayerRecord :=
  c.players.values.filter fun p => !c.servers.contains p.serverId

namespace Coherent

variable {c : Replica} (h : c.Coherent)

include h

variable (hsmall : c.players.size < UInt32.size)

include hsmall

/-- **Every count is exact.**

**Proof sketch.** The count is the number of locations on the server, so it is the number of records
there, and this one does not come around. -/
theorem toNat_playerCount {r : ServerRecord} (hr : r ∈ c.servers.values) :
    r.playerCount.toNat = (c.playersOn r.serverId).length := by
  obtain ⟨id, hget⟩ := (Index.mem_values_iff _ _).1 hr
  have hle : (c.playersOn id).length ≤ c.players.size := by
    rw [playersOn, Index.size, ← List.length_map (f := Prod.snd)]
    exact List.length_filter_le _ _
  rw [h.named id r hget, h.counted id r hget, h.located.ncard_holding]
  exact UInt32.toNat_ofNat_of_lt' (Nat.lt_of_le_of_lt hle hsmall)

/-- A coherent replica is an exact snapshot. -/
theorem exact_snapshot (now : Int64) : (c.snapshot now).Exact where
  distinct := h.nodup_uuids
  counted _ hr := h.toNat_playerCount hsmall hr

/-- The counts of the servers add up to the players on servers that are listed.

**Proof sketch.** The replica is an exact snapshot, and an exact snapshot has this total. -/
theorem toNat_totalPlayers (now : Int64) : (c.snapshot now).totalPlayers.toNat =
    (c.players.values.filter fun p => c.servers.contains p.serverId).length := by
  have hkeys : (c.snapshot now).servers.map (·.serverId) = c.servers.keys :=
    Index.map_values_eq_keys h.named
  have hplayers : (c.snapshot now).players.length = c.players.size := List.length_map _
  have htotal := (h.exact_snapshot hsmall now).toNat_totalPlayers (hkeys ▸ c.servers.nodup_keys)
    (hplayers ▸ hsmall)
  simp only [hkeys, Index.mem_keys_iff, Bool.decide_eq_true] at htotal
  exact htotal

/-- **The counts of the servers and the stranded players make up the list of players.** -/
theorem totalPlayers_add_stranded (now : Int64) : (c.snapshot now).totalPlayers.toNat +
    c.stranded.length = (c.snapshot now).players.length := by
  rw [h.toNat_totalPlayers hsmall, stranded]
  exact (List.length_eq_length_filter_add _).symm

/-- **The two ways of counting agree** exactly when every player is on a server that is listed.

**Proof sketch.** The stranded players are the difference, and there are none exactly when every
player is on a listed server. -/
theorem totalPlayers_eq_iff (now : Int64) :
    (c.snapshot now).totalPlayers.toNat = (c.snapshot now).players.length ↔ c.Housed := by
  have htotal := h.totalPlayers_add_stranded hsmall now
  have hnone : (c.snapshot now).totalPlayers.toNat = (c.snapshot now).players.length ↔
      c.stranded = [] := by
    rw [← List.length_eq_zero_iff]
    omega
  rw [hnone, stranded, List.filter_eq_nil_iff]
  constructor
  · intro hall uuid id hat
    rw [h.located, Option.map_eq_some_iff] at hat
    obtain ⟨p, hp, rfl⟩ := hat
    have hlisted := hall p ((Index.mem_values_iff _ _).2 ⟨uuid, hp⟩)
    simpa using hlisted
  · intro hall p hp
    obtain ⟨uuid, huuid⟩ := (Index.mem_values_iff _ _).1 hp
    have hat : c.locations.get? uuid = some p.serverId := by
      rw [h.located, huuid]
      rfl
    simp [hall uuid p.serverId hat]

end Coherent

end Replica

end FleetStatus
