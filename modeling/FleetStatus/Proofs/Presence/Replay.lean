import FleetStatus.Proofs.Presence.Refresh

set_option relaxedAutoImplicit false
set_option autoImplicit false

/-!
# Replaying the log on a full read

A server that joins a fleet first takes its place in the log and then reads everything, so the
entries in between are in the full read already and are replayed on top of it. That does no harm:
for each player and each server these entries lead to the same twice as once, so the replica ends
where the store does.

## Main definitions

* `FleetStatus.Replica.replay` — bring the replica up to date with entries of the log.

## Main results

* `FleetStatus.Replica.Coherent.stay?_replay`, `FleetStatus.Replica.contains_servers_replay` — a
  replay moves stays and servers as the events tell.
* `FleetStatus.Store.replay_converges` — a full read and the entries after an earlier place give
  the replica what the store holds.
-/

namespace FleetStatus

namespace Replica

/-- Bring the copy up to date with entries of the log; `clock` tells when each one is taken in. -/
def replay (c : Replica) (clock : Nat → Int64) (entries : List (Nat × Event)) : Replica :=
  entries.foldl (fun c e => c.apply (clock e.1) e.2) c

variable {c : Replica} (clock : Nat → Int64) (entries : List (Nat × Event))

/-- A replay keeps the replica coherent. -/
theorem Coherent.replay (h : c.Coherent) : (c.replay clock entries).Coherent := by
  induction entries generalizing c with
  | nil => exact h
  | cons e entries ih => exact ih (h.apply (clock e.1) e.2)

/-- **A replay changes the stay of a player as its events say.** -/
theorem Coherent.stay?_replay (h : c.Coherent) (uuid : Uuid) :
    (c.replay clock entries).stay? uuid =
      (entries.map (·.2)).foldl (Event.stayAfter uuid) (c.stay? uuid) := by
  induction entries generalizing c with
  | nil => rfl
  | cons e entries ih =>
    rw [List.map_cons, List.foldl_cons, ← h.stay?_apply (clock e.1)]
    exact ih (h.apply (clock e.1) e.2)

/-- **A replay changes the servers as its events say.** -/
theorem contains_servers_replay (c : Replica) (id : String) :
    (c.replay clock entries).servers.contains id =
      (entries.map (·.2)).foldl (Event.listedAfter id) (c.servers.contains id) := by
  induction entries generalizing c with
  | nil => rfl
  | cons e entries ih =>
    rw [List.map_cons, List.foldl_cons, ← contains_servers_apply c (clock e.1)]
    exact ih (c.apply (clock e.1) e.2)

/-- **A replay moves players as its events say.** -/
theorem Coherent.get?_locations_replay (h : c.Coherent) (uuid : Uuid) :
    (c.replay clock entries).locations.get? uuid =
      (entries.map (·.2)).foldl (Event.placeAfter uuid) (c.locations.get? uuid) := by
  rw [(h.replay clock entries).location?_eq_map_stay?, h.location?_eq_map_stay?,
    Event.foldl_placeAfter_map_serverId, h.stay?_replay]

end Replica

namespace Store

/-- Entries that a full read contains already may be replayed on it, and the entries that came
afterwards too.

**Proof sketch.** Where the replayed events lead is where the store went: the first of them are
contained in the replica, and to take in an entry again leads nowhere else, as the last entry about
a player or a server decides. The events behind them lead from there as they led the store. -/
theorem Settled.reflects_replay {s : Store} (h : s.Settled) {between after : List Operation}
    (horderly : s.OrderlyRun (between ++ after)) (hfit : s.CountsFit (between ++ after))
    {c : Replica} (hc : c.Reflects (s.run between)) (clock : Nat → Int64) (n : Nat) :
    (c.replay clock (numbered n (s.history (between ++ after)))).Reflects
      (s.run (between ++ after)) := by
  have hbetween := (orderlyRun_append.1 horderly).1
  have hafter := (orderlyRun_append.1 horderly).2
  have hmid := h.run hbetween hfit.of_append
  refine ⟨hc.coherent.replay clock _, fun uuid => ?_, fun id => ?_⟩
  · calc (c.replay clock (numbered n (s.history (between ++ after)))).stay? uuid
        = (s.history between ++ (s.run between).history after).foldl (Event.stayAfter uuid)
            ((s.history between).foldl (Event.stayAfter uuid) (s.stay? uuid)) := by
          rw [hc.coherent.stay?_replay, map_snd_numbered, history_append, hc.stay?,
            h.stay?_run hbetween hfit.of_append]
      _ = ((s.run between).history after).foldl (Event.stayAfter uuid)
            ((s.run between).stay? uuid) := by
          rw [List.foldl_append, Event.foldl_stayAfter_twice, h.stay?_run hbetween hfit.of_append]
      _ = (s.run (between ++ after)).stay? uuid := by
          rw [run_append, hmid.stay?_run hafter hfit.append]
  · calc (c.replay clock (numbered n (s.history (between ++ after)))).servers.contains id
        = (s.history between ++ (s.run between).history after).foldl (Event.listedAfter id)
            ((s.history between).foldl (Event.listedAfter id) (s.servers.contains id)) := by
          rw [Replica.contains_servers_replay, map_snd_numbered, history_append, hc.listed,
            h.contains_servers_run hbetween hfit.of_append]
      _ = ((s.run between).history after).foldl (Event.listedAfter id)
            ((s.run between).servers.contains id) := by
          rw [List.foldl_append, Event.foldl_listedAfter_twice,
            h.contains_servers_run hbetween hfit.of_append]
      _ = (s.run (between ++ after)).servers.contains id := by
          rw [run_append, hmid.contains_servers_run hafter hfit.append]

/-- **Replay converges.** Take the place in the log after some operations, replace the replica by a
full read after some more, and bring it up to date with all entries after that place when yet more
operations are done. As long as the log still keeps those entries, the replica then lists the
servers, counts and stays that a full read lists, and locates every player where the store does.

**Proof sketch.** The history of a run tells how stays and servers changed in the store, and a
replay changes those of the replica by the same events. The events before the full read lead from
what is in it to itself, for they lead to the same twice as once. -/
theorem replay_converges (capacity : Nat) (before between after : List Operation) (c : Replica)
    (clock : Nat → Int64) (most : Nat) (now now' installed shown : Int64)
    (horderly : (withCapacity capacity).OrderlyRun (before ++ (between ++ after)))
    (hfit : (withCapacity capacity).CountsFit (before ++ (between ++ after)))
    (hkept : ((withCapacity capacity).run (before ++ (between ++ after))).RetainsAfter
      ((withCapacity capacity).run before).lastEntry)
    (hmost : ((withCapacity capacity).run (before ++ (between ++ after))).log.length ≤ most) :
    let s₀ := (withCapacity capacity).run before
    let s₁ := s₀.run between
    let s₂ := s₁.run after
    ∃ cursor snapshot entries fetched,
      s₀.latest = .ok cursor ∧ s₁.fetch now = .ok (snapshot, s₁) ∧
      s₂.entriesAfter cursor most = .ok entries ∧ s₂.fetch now' = .ok (fetched, s₂) ∧
      let replica := (c.refresh snapshot installed).replay clock entries
      (replica.snapshot shown).Agrees fetched ∧
        ∀ uuid, replica.locations.get? uuid = s₂.location? uuid := by
  intro s₀ s₁ s₂
  obtain ⟨hbefore, hrest⟩ := orderlyRun_append.1 horderly
  have h₀ := (toldBy_withCapacity capacity).run hbefore hfit.of_append
  have hs₁ := h₀.settled.run (orderlyRun_append.1 hrest).1 hfit.append.of_append
  have h₂ := h₀.run hrest hfit.append
  have hreflects := h₀.settled.reflects_replay hrest hfit.append
    (hs₁.reflects_refresh now c installed) clock ((withCapacity capacity).history before).length
  rw [run_append] at hkept hmost
  rw [h₀.history.lastEntry_eq] at hkept
  -- everything after the place is read
  have hentries := h₂.history.entriesAfter_all h₂.settled.isOpen hkept hmost
  rw [List.nil_append, List.drop_left] at hentries
  rw [run_append] at h₂ hreflects hentries
  exact ⟨_, _, _, _, h₀.history.latest h₀.settled.isOpen, hs₁.fetch now, hentries,
    h₂.settled.fetch now', hreflects.agrees h₂.settled shown now',
    hreflects.location? h₂.settled.coherent⟩

/-- Entries that are replayed take a player off one server, move another and take a server out of
the fleet, all of which the full read contains; afterwards the server comes back. -/
theorem replay_converges_relocated :
    let server (id : String) : ServerRecord := { serverId := id, serverName := id, lastHeartbeat := 0 }
    let player (n : Nat) (id : String) : PlayerRecord := ⟨⟨n⟩, "name", id, id, 0⟩
    let before : List Operation := [.register (server "a"), .register (server "b"),
      .join (player 1 "a"), .join (player 2 "b")]
    let between : List Operation := [.join (player 2 "a"), .leave ⟨1⟩ "a", .join (player 1 "b"),
      .unregister "b"]
    let after : List Operation := [.register (server "b"), .join (player 2 "b"),
      .heartbeat (server "a"), .fetch 7]
    let s₀ := (withCapacity 9).run before
    let s₁ := s₀.run between
    let s₂ := s₁.run after
    ∃ cursor snapshot entries fetched,
      s₀.latest = .ok cursor ∧ s₁.fetch 5 = .ok (snapshot, s₁) ∧
      s₂.entriesAfter cursor 100 = .ok entries ∧ s₂.fetch 8 = .ok (fetched, s₂) ∧
      let replica := (Replica.refresh {} snapshot 5).replay (fun _ => 6) entries
      (replica.snapshot 8).Agrees fetched ∧
        ∀ uuid, replica.locations.get? uuid = s₂.location? uuid := by
  intro server player before between after
  exact replay_converges 9 before between after {} (fun _ => 6) 100 5 8 5 8 (by decide)
    (countsFit_of_length_lt 9 (by decide)) (by decide) (by decide)

end Store

end FleetStatus
