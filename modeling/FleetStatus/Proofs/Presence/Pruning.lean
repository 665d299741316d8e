import FleetStatus.Proofs.Presence.Listed
import FleetStatus.Proofs.Presence.Staleness
import FleetStatus.Proofs.Presence.Upkeep

set_option relaxedAutoImplicit false
set_option autoImplicit false

/-!
# Forgetting stale servers

A replica forgets the servers that have not been heard from, and the players located on them. It
does so one server after the other, and each removal finds the tables as the removals before have
left them. For this to forget the right servers, each record must stand under the id of its server;
to forget the right players, each player must be located where the player's record says. Both hold
after every run of changes, whatever counts were brought from outside.

## Main results

* `FleetStatus.Replica.Filed.run` — every run of changes keeps the records filed.
* `FleetStatus.Replica.Filed.get?_players_prune`, `FleetStatus.Replica.Filed.get?_locations_prune` —
  who is forgotten.
* `FleetStatus.Replica.Filed.staleAt_prune`, `FleetStatus.Replica.Filed.prune_prune` — to forget
  twice.
* `FleetStatus.Replica.prune_run` — what forgetting does after any run.
-/

namespace FleetStatus

namespace Replica

variable {c : Replica}

/-! ## Filed records -/

/-- To remove several servers keeps the records filed. -/
theorem Filed.foldl_removeServer (h : c.Filed) (ids : List String) :
    (ids.foldl Replica.removeServer c).Filed := by
  induction ids generalizing c with
  | nil => exact h
  | cons id ids ih => exact ih (h.removeServer id)

/-- **Each change keeps the records filed.** -/
theorem Filed.perform (h : c.Filed) (op : Operation) : (c.perform op).Filed := by
  cases op with
  | updateServer r => exact h.updateServer r
  | removeServer id => exact h.removeServer id
  | updatePlayer p => exact h.updatePlayer p
  | removePlayer uuid => exact h.removePlayer uuid
  | refresh s now => exact filed_refresh c s now
  | prune now => exact h.foldl_removeServer _
  | clear => exact (coherent_empty c.timeout).toFiled
  | apply now e => exact h.apply now e

/-- **Every run of changes keeps the records filed**, whatever the changes bring. -/
theorem Filed.run (h : c.Filed) (ops : List Operation) : (c.run ops).Filed := by
  induction ops generalizing c with
  | nil => exact h
  | cons op ops ih => exact ih (h.perform op)

/-! ## One removal after the other -/

/-- The locations on the removed servers are gone. -/
theorem get?_locations_foldl_removeServer (c : Replica) (ids : List String) (uuid : Uuid) :
    (ids.foldl removeServer c).locations.get? uuid = (c.locations.get? uuid).filter (· ∉ ids) := by
  induction ids generalizing c with
  | nil =>
    show c.locations.get? uuid = _
    cases c.locations.get? uuid <;> rfl
  | cons id ids ih =>
    rw [List.foldl_cons, ih, get?_locations_removeServer, Option.filter_filter]
    congr 1
    funext at_
    simp

/-- The players on the removed servers are gone.

**Proof sketch.** By induction on the servers. Each removal takes out those who are located on its
server, which are those whose records say so, since the players stay located. -/
theorem Filed.get?_players_foldl_removeServer (h : c.Filed) (ids : List String) (uuid : Uuid) :
    (ids.foldl Replica.removeServer c).players.get? uuid =
      (c.players.get? uuid).filter (·.serverId ∉ ids) := by
  induction ids generalizing c with
  | nil =>
    show c.players.get? uuid = _
    cases c.players.get? uuid <;> rfl
  | cons id ids ih =>
    rw [List.foldl_cons, ih (h.removeServer id), h.located.get?_players_removeServer,
      Option.filter_filter]
    congr 1
    funext p
    simp

/-- To forget servers is no full read. -/
theorem lastRefresh_prune (c : Replica) (now : Int64) :
    (c.prune now).lastRefresh = c.lastRefresh := by
  unfold prune
  induction c.staleIds now generalizing c with
  | nil => rfl
  | cons id ids ih => exact ih (c.removeServer id)

/-- Replicas are the same when everything that they know is the same. -/
theorem eq_of_get? {d : Replica} (htimeout : c.timeout = d.timeout)
    (hrefresh : c.lastRefresh = d.lastRefresh)
    (hservers : ∀ id r, c.servers.get? id = some r ↔ d.servers.get? id = some r)
    (hplayers : ∀ uuid p, c.players.get? uuid = some p ↔ d.players.get? uuid = some p)
    (hlocations : ∀ uuid id, c.locations.get? uuid = some id ↔ d.locations.get? uuid = some id) :
    c = d := by
  have hs : c.servers = d.servers := Index.ext_get? fun id => Option.ext (hservers id)
  have hp : c.players = d.players := Index.ext_get? fun uuid => Option.ext (hplayers uuid)
  have hl : c.locations = d.locations := Index.ext_get? fun uuid => Option.ext (hlocations uuid)
  cases c
  cases d
  simp_all

/-! ## Who is forgotten -/

/-- As many ids are told as there are stale servers. -/
theorem length_staleIds (c : Replica) (now : Int64) :
    (c.staleIds now).length = {id | c.StaleAt now id}.ncard := by
  show _ = {id | ∃ r, c.servers.get? id = some r ∧ r.isStale now c.timeout}.ncard
  rw [Index.ncard_setOf_get?, staleIds, List.length_map, Index.values, List.filter_map,
    List.length_map]
  rfl

namespace Filed

variable (h : c.Filed) (now : Int64)

include h

/-- To forget the stale servers keeps the records filed. -/
theorem prune : (c.prune now).Filed := h.foldl_removeServer _

/-- **The servers that are kept** are those that are not stale, with their records as they were.

**Proof sketch.** What is kept is kept with its record, and a record is stale exactly when its
server is. -/
theorem get?_servers_prune (id : String) (r : ServerRecord) :
    (c.prune now).servers.get? id = some r ↔ c.servers.get? id = some r ∧ ¬c.StaleAt now id := by
  rw [Replica.get?_servers_prune h.named, Option.filter_eq_some_iff, Bool.not_eq_true',
    ← Bool.not_eq_true]
  refine and_congr_right fun hr => not_congr ?_
  rw [StaleAt, hr]
  simp

/-- **The locations that are kept** are those on servers that are not stale. -/
theorem get?_locations_prune (uuid : Uuid) (id : String) :
    (c.prune now).locations.get? uuid = some id ↔
      c.locations.get? uuid = some id ∧ ¬c.StaleAt now id := by
  rw [Replica.prune, get?_locations_foldl_removeServer, Option.filter_eq_some_iff,
    decide_eq_true_iff, mem_staleIds h.named]

/-- **The players that are kept** are those on servers that are not stale, with their records as
they were. -/
theorem get?_players_prune (uuid : Uuid) (p : PlayerRecord) :
    (c.prune now).players.get? uuid = some p ↔
      c.players.get? uuid = some p ∧ ¬c.StaleAt now p.serverId := by
  rw [Replica.prune, h.get?_players_foldl_removeServer, Option.filter_eq_some_iff,
    decide_eq_true_iff, mem_staleIds h.named]

/-! ## Servers that are online -/

/-- The records that are kept, in their order. -/
theorem servers_prune : (c.prune now).servers =
    c.servers.filter fun _ r => !r.isStale now c.timeout := by
  refine Index.ext_get? fun id => ?_
  rw [Replica.get?_servers_prune h.named, Index.get?_filter]

/-- The records that are kept are those that are not stale. -/
theorem values_servers_prune : (c.prune now).servers.values =
    c.servers.values.filter fun r => !r.isStale now c.timeout := by
  rw [h.servers_prune, Index.values, Index.values, List.filter_map]
  rfl

/-- **All servers that are kept are online.**

**Proof sketch.** The servers that are online are those that are not stale, and these are the ones
that are kept. -/
theorem onlineCount_prune : (c.prune now).onlineCount now = c.onlineCount now ∧
    (c.prune now).onlineCount now = (c.prune now).servers.size := by
  have hall : (c.prune now).onlineCount now = (c.prune now).servers.values.length := by
    rw [onlineCount, timeout_prune, h.values_servers_prune, List.filter_filter]
    simp only [Bool.and_self]
  refine ⟨?_, hall.trans (List.length_map _)⟩
  rw [hall, h.values_servers_prune, onlineCount]

/-! ## To forget twice -/

variable {now}

/-- **Stale later are the servers that were kept and have become stale.** -/
theorem staleAt_prune (later : Int64) (id : String) :
    (c.prune now).StaleAt later id ↔ c.StaleAt later id ∧ ¬c.StaleAt now id := by
  rw [StaleAt, timeout_prune]
  constructor
  · rintro ⟨r, hr, hstale⟩
    obtain ⟨hr, hfresh⟩ := (h.get?_servers_prune now id r).1 hr
    exact ⟨⟨r, hr, hstale⟩, hfresh⟩
  · rintro ⟨⟨r, hr, hstale⟩, hfresh⟩
    exact ⟨r, (h.get?_servers_prune now id r).2 ⟨hr, hfresh⟩, hstale⟩

/-- **Nothing is left to forget** at the same time. -/
theorem staleIds_prune (now : Int64) : (c.prune now).staleIds now = [] := by
  refine List.eq_nil_iff_forall_not_mem.2 fun id hid => ?_
  obtain ⟨hstale, hfresh⟩ :=
    (h.staleAt_prune now id).1 ((mem_staleIds (h.prune now).named now id).1 hid)
  exact hfresh hstale

/-- **To forget now and again later leaves the same as to forget later only.**

**Proof sketch.** A server that is stale now is stale later too. So what the second step leaves is
what is not stale later, table by table, whether the first step took something before or not. -/
theorem prune_prune {later : Int64} (hle : now ≤ later) :
    (c.prune now).prune later = c.prune later := by
  -- whoever is stale now is stale later
  have hkept (id : String) : (¬c.StaleAt now id ∧ ¬(c.prune now).StaleAt later id) ↔
      ¬c.StaleAt later id := by
    have hstays : c.StaleAt now id → c.StaleAt later id :=
      fun ⟨r, hr, hstale⟩ => ⟨r, hr, ServerRecord.isStale_of_le hle hstale⟩
    rw [h.staleAt_prune]
    tauto
  refine eq_of_get? ?_ ?_ (fun id r => ?_) (fun uuid p => ?_) fun uuid id => ?_
  · simp only [timeout_prune]
  · simp only [lastRefresh_prune]
  · rw [(h.prune now).get?_servers_prune, h.get?_servers_prune, h.get?_servers_prune, and_assoc,
      hkept]
  · rw [(h.prune now).get?_players_prune, h.get?_players_prune, h.get?_players_prune, and_assoc,
      hkept]
  · rw [(h.prune now).get?_locations_prune, h.get?_locations_prune, h.get?_locations_prune, and_assoc,
      hkept]

end Filed

/-! ## After any run -/

/-- **What forgetting does after any run** of changes, at any times and with any counts. As many
servers are told to be forgotten as are stale. Exactly those are gone, and exactly the players
located on them, from the list of players as from the locations; the records of all others are as
they were, and so is the time of the last refresh. As many servers are online as before, and these
are all. A second time nothing is forgotten, and to forget again later leaves the same as to forget
later only.

**Proof sketch.** Whatever is done, the records stay under their own keys and the players where
their records say. So the removals do not get into each other's way: what is left is told by the
servers that were stale before the first one. A server that is stale stays so as time goes by. -/
theorem prune_run (timeout : Nat) (ops : List Operation) (now : Int64) :
    let c := ({ timeout } : Replica).run ops
    let c' := c.prune now
    (c.staleIds now).length = {id | c.StaleAt now id}.ncard ∧
    (∀ id r, c'.servers.get? id = some r ↔ c.servers.get? id = some r ∧ ¬c.StaleAt now id) ∧
    (∀ uuid p, c'.players.get? uuid = some p ↔ c.players.get? uuid = some p ∧
      ∀ id, c.locations.get? uuid = some id → ¬c.StaleAt now id) ∧
    (∀ uuid id, c'.locations.get? uuid = some id ↔
      c.locations.get? uuid = some id ∧ ¬c.StaleAt now id) ∧
    c'.lastRefresh = c.lastRefresh ∧
    c'.onlineCount now = c.onlineCount now ∧ c'.onlineCount now = c'.servers.size ∧
    (c'.staleIds now).length = 0 ∧
    ∀ later, now ≤ later → c'.prune later = c.prune later := by
  intro c c'
  have h : c.Filed := (coherent_empty timeout).toFiled.run ops
  obtain ⟨hsame, hall⟩ := h.onlineCount_prune now
  refine ⟨length_staleIds c now, h.get?_servers_prune now, fun uuid p => ?_,
    h.get?_locations_prune now, lastRefresh_prune c now, hsame, hall, ?_, fun later => h.prune_prune⟩
  · rw [h.get?_players_prune]
    refine and_congr_right fun hp => ?_
    rw [h.located, hp]
    simp
  · rw [h.staleIds_prune, List.length_nil]

/-- Of three servers the first is forgotten with its player, and later the third with two players,
one of whom had moved there from the first; a player on a server that is not listed is kept. -/
theorem prune_run_twice :
    let p (n : Nat) (id : String) : PlayerRecord := ⟨⟨n⟩, "name", id, id, 0⟩
    let r (id : String) (heard : Int64) : ServerRecord :=
      { serverId := id, serverName := id, playerCount := 7, lastHeartbeat := heard }
    let ops : List Operation := [.updateServer (r "a" 0), .updateServer (r "b" 60000),
      .updateServer (r "c" 30000), .updatePlayer (p 1 "a"), .updatePlayer (p 2 "b"),
      .updatePlayer (p 3 "d"), .updatePlayer (p 4 "a"), .updatePlayer (p 5 "c"),
      .updatePlayer (p 4 "c")]
    let c := ({} : Replica).run ops
    (50000 : Int64) ≤ 100000 ∧
      {id | c.StaleAt 50000 id}.ncard = 1 ∧ (c.prune 50000).servers.keys = ["b", "c"] ∧
      (c.prune 50000).players.keys = [⟨2⟩, ⟨3⟩, ⟨4⟩, ⟨5⟩] ∧ (c.prune 50000).onlineCount 50000 = 2 ∧
      (c.prune 50000).prune 100000 = c.prune 100000 ∧
      (c.prune 100000).servers.keys = ["b"] ∧ (c.prune 100000).players.keys = [⟨2⟩, ⟨3⟩] := by
  intro p r ops c
  obtain ⟨hcount, -, -, -, -, -, -, -, hagain⟩ := prune_run 45000 ops 50000
  have hle : (50000 : Int64) ≤ 100000 := by decide
  exact ⟨hle, hcount.symm.trans (by decide +kernel), by decide +kernel, by decide +kernel,
    by decide +kernel, hagain 100000 hle, by decide +kernel, by decide +kernel⟩

end Replica

end FleetStatus
