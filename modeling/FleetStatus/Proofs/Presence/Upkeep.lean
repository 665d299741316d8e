import FleetStatus.Proofs.Presence.Totals

set_option relaxedAutoImplicit false
set_option autoImplicit false

/-!
# Upkeep of the replica

A replica keeps three tables: the records of the servers with their counts, the records of the
players, and the server of each player. They are changed by whole records that are put in or taken
out, by events, by snapshots that replace everything and by the forgetting of stale servers.
Whatever the order and the times, the three tables agree, as long as the counts that are handed in
from outside are right when they come.

## Main definitions

* `FleetStatus.Replica.Operation` — the changes to a replica.
* `FleetStatus.Replica.perform`, `FleetStatus.Replica.run` — one change, and several in turn.
* `FleetStatus.Replica.Operation.Exact`, `FleetStatus.Replica.ExactRun` — the counts that are handed
  in are right.

## Main results

* `FleetStatus.Replica.Coherent.perform`, `FleetStatus.Replica.Coherent.run` — every change keeps
  the replica coherent, and so does every run.
* `FleetStatus.Replica.tables_agree` — what that means for the tables of the replica.
-/

namespace FleetStatus.Replica

/-! ## Operations -/

/-- One **change** to a replica, with the time of it where the replica looks at the clock. -/
inductive Operation where
  | updateServer (r : ServerRecord)
  | removeServer (id : String)
  | updatePlayer (p : PlayerRecord)
  | removePlayer (uuid : Uuid)
  | refresh (s : Snapshot) (now : Int64)
  | prune (now : Int64)
  | clear
  | apply (now : Int64) (e : Event)
  deriving DecidableEq, Inhabited

/-- The replica after a change. -/
def perform (c : Replica) : Operation → Replica
  | .updateServer r => c.updateServer r
  | .removeServer id => c.removeServer id
  | .updatePlayer p => c.updatePlayer p
  | .removePlayer uuid => c.removePlayer uuid
  | .refresh s now => c.refresh s now
  | .prune now => c.prune now
  | .clear => c.clear
  | .apply now e => c.apply now e

/-- The replica after several changes in turn. -/
def run (c : Replica) (ops : List Operation) : Replica := ops.foldl perform c

/-- The counts that the change brings from outside are **right when they come**: the count of a
server's record is the number of players that the replica has on the server, and a snapshot is
exact. All other changes bring no counts; the count in a heartbeat is not read. -/
def Operation.Exact (c : Replica) : Operation → Prop
  | .updateServer r => r.playerCount.toNat = (c.playersOn r.serverId).length
  | .refresh s _ => s.Exact
  | .removeServer _ | .updatePlayer _ | .removePlayer _ | .prune _ | .clear | .apply _ _ => True

instance (c : Replica) : (op : Operation) → Decidable (op.Exact c)
  | .updateServer r =>
    inferInstanceAs (Decidable (r.playerCount.toNat = (c.playersOn r.serverId).length))
  | .refresh s _ => inferInstanceAs (Decidable s.Exact)
  | .removeServer _ | .updatePlayer _ | .removePlayer _ | .prune _ | .clear | .apply _ _ =>
    .isTrue trivial

/-- The counts that each change of the run brings are right when its turn comes. -/
def ExactRun (c : Replica) : List Operation → Prop
  | [] => True
  | op :: ops => op.Exact c ∧ (c.perform op).ExactRun ops

instance decidableExactRun (c : Replica) : (ops : List Operation) → Decidable (c.ExactRun ops)
  | [] => .isTrue trivial
  | op :: ops =>
    have := decidableExactRun (c.perform op) ops
    inferInstanceAs (Decidable (op.Exact c ∧ (c.perform op).ExactRun ops))

/-! ## Every change keeps the replica coherent -/

/-- A replica without records is coherent, whatever its timeout. -/
theorem coherent_empty (timeout : Nat) : ({ timeout } : Replica).Coherent where
  located _ := rfl
  keyed _ _ := nofun
  named _ _ := nofun
  counted _ _ := nofun

/-- **Each change keeps the replica coherent**, if the counts that it brings are right.

**Proof sketch.** By cases on the change. Only a server's record and a snapshot bring counts of
their own, which are right by assumption. -/
theorem Coherent.perform {c : Replica} (h : c.Coherent) {op : Operation} (hop : op.Exact c) :
    (c.perform op).Coherent := by
  cases op with
  | updateServer r => exact h.updateServer_of_exact hop
  | removeServer id => exact h.removeServer id
  | updatePlayer p => exact h.updatePlayer p
  | removePlayer uuid => exact h.removePlayer uuid
  | refresh s now => exact hop.coherent_refresh c now
  | prune now => exact (h.prune now).1
  | clear => exact coherent_empty c.timeout
  | apply now e => exact h.apply now e

/-- **Every run keeps the replica coherent**, if the counts that are brought are right.

**Proof sketch.** By induction on the changes. -/
theorem Coherent.run {c : Replica} (h : c.Coherent) {ops : List Operation} (hops : c.ExactRun ops) :
    (c.run ops).Coherent := by
  induction ops generalizing c with
  | nil => exact h
  | cons op ops ih => exact ih (h.perform hops.1) hops.2

/-! ## What that means for the tables -/

/-- The players on a server, by their records, are those that are located there.

**Proof sketch.** A record is under its identity, and the location under the same identity is the
server of the record. -/
theorem Coherent.playersOn_eq {c : Replica} (h : c.Coherent) (id : String) :
    c.playersOn id = c.players.values.filter fun p => c.locations.get? p.uuid = some id := by
  refine List.filter_congr fun p hp => ?_
  obtain ⟨uuid, huuid⟩ := (Index.mem_values_iff _ _).1 hp
  obtain rfl := h.keyed uuid p huuid
  rw [h.located, huuid, Option.map_some, Bool.eq_iff_iff, beq_iff_eq, decide_eq_true_eq,
    Option.some.injEq]

/-- **The tables of a replica agree** after every run of changes, in any order, at any times and
about any servers, if the counts that were brought from outside were right when they came: a player
is located exactly when there is a record of the player, and on the server of that record; every
record is under its own identity or id; the players on a server are those located there; and the
count of every server is their number, as long as a count can tell the players.

**Proof sketch.** A change that moves players counts the servers again where somebody comes or goes,
and no others need it; a change that brings counts brings right ones. No step needs a bound on the
number of players, since a count that is out of range is the number of players modulo the range. -/
theorem tables_agree (timeout : Nat) {ops : List Operation}
    (hops : ({ timeout } : Replica).ExactRun ops)
    (hsmall : (({ timeout } : Replica).run ops).players.size < UInt32.size) :
    let c := ({ timeout } : Replica).run ops
    (∀ uuid, c.players.contains uuid = c.locations.contains uuid) ∧
    (∀ uuid, c.locations.get? uuid = (c.players.get? uuid).map (·.serverId)) ∧
    (∀ uuid p, c.players.get? uuid = some p → p.uuid = uuid) ∧
    (∀ id r, c.servers.get? id = some r → r.serverId = id) ∧
    (∀ id, c.playersOn id = c.players.values.filter fun p => c.locations.get? p.uuid = some id) ∧
    ∀ id r, c.servers.get? id = some r →
      r.playerCount.toNat = {uuid | c.locations.get? uuid = some id}.ncard ∧
      r.playerCount.toNat = (c.playersOn id).length := by
  intro c
  have h : c.Coherent := (coherent_empty timeout).run hops
  refine ⟨fun uuid => ?_, h.located, h.keyed, h.named, h.playersOn_eq, fun id r hr => ?_⟩
  · rw [Index.contains, Index.contains, h.located, Option.isSome_map]
  · have hcount : r.playerCount.toNat = (c.playersOn id).length := by
      have hexact := h.toNat_playerCount hsmall ((Index.mem_values_iff _ _).2 ⟨id, hr⟩)
      rwa [h.named id r hr] at hexact
    exact ⟨hcount.trans (h.located.ncard_holding id).symm, hcount⟩

/-- A player moves from a server that is not listed to one that is; the record of that server is
replaced, a leave from the wrong server and a heartbeat with a wrong count come in, a snapshot
replaces everything, and a stale server is forgotten with its player. -/
theorem tables_agree_moved :
    let p (n : Nat) (id : String) : PlayerRecord := ⟨⟨n⟩, "name", id, id, 0⟩
    let r (id : String) (count : UInt32) (heard : Int64) : ServerRecord :=
      { serverId := id, serverName := id, playerCount := count, lastHeartbeat := heard }
    let first : List Operation := [.updatePlayer (p 1 "b"), .updateServer (r "a" 0 0),
      .apply 5 (.playerJoin ⟨1⟩ "name" "a" "A" (some "c")), .apply 6 (.playerLeave ⟨1⟩ "b"),
      .updatePlayer (p 2 "a"), .updateServer (r "a" 2 0), .apply 7 (.serverHeartbeat "a" 9 50),
      .removePlayer ⟨2⟩]
    let second : List Operation := [.refresh ⟨[r "a" 1 0, r "b" 2 90000],
      [p 3 "b", p 1 "a", p 4 "b"], 0⟩ 90000, .prune 90000, .apply 90001 (.serverOnline "b" "B")]
    let c : Replica := {}
    c.ExactRun (first ++ second) ∧
      (∃ r ∈ (c.run first).servers.get? "a", r.playerCount = 1 ∧
        r.playerCount.toNat = ((c.run first).playersOn "a").length) ∧
      (c.run (first ++ second)).servers.get? "a" = none ∧
      ∃ r ∈ (c.run (first ++ second)).servers.get? "b", r.playerCount = 2 ∧
        r.playerCount.toNat = ((c.run (first ++ second)).playersOn "b").length := by
  intro p r first second c
  have hfirst : c.ExactRun first := by decide +kernel
  have hboth : c.ExactRun (first ++ second) := by decide +kernel
  have hone : ∃ r, (c.run first).servers.get? "a" = some r ∧ r.playerCount = 1 := by
    decide +kernel
  have htwo : ∃ r, (c.run (first ++ second)).servers.get? "b" = some r ∧ r.playerCount = 2 := by
    decide +kernel
  obtain ⟨ra, hra, hcounta⟩ := hone
  obtain ⟨rb, hrb, hcountb⟩ := htwo
  have hagreea := tables_agree 45000 hfirst (by decide +kernel)
  have hagreeb := tables_agree 45000 hboth (by decide +kernel)
  exact ⟨hboth, ⟨ra, hra, hcounta, (hagreea.2.2.2.2.2 "a" ra hra).2⟩, by decide +kernel,
    rb, hrb, hcountb, (hagreeb.2.2.2.2.2 "b" rb hrb).2⟩

end FleetStatus.Replica
