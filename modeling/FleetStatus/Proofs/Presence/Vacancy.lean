import FleetStatus.Proofs.Presence.Coherence
import FleetStatus.Proofs.Presence.History
import FleetStatus.Proofs.Presence.Standing

set_option relaxedAutoImplicit false
set_option autoImplicit false

/-!
# Servers that are announced as gone

A replica drops all players of a server that is announced as gone. The store forgets them too when
the server leaves. It does not when a full read finds that the record of the server has run out: the
players who joined after the record ran out stay on it, and are back as soon as the server is
registered again.

## Main definitions

* `FleetStatus.Store.Vacant` — nobody is recorded on a server.
* `FleetStatus.Store.Covered` — no count exceeds the players.

## Main results

* `FleetStatus.Store.covered_run` — no count exceeds the players, however many there are.
* `FleetStatus.Store.vacant_iff_of_offline` — whether a server that is announced as gone is vacant.
* `FleetStatus.Store.not_vacant_of_offline` — it need not be.
-/

namespace FleetStatus.Store

variable {s : Store}

/-! ## Counts never exceed the players -/

/-- **No count exceeds the players** of its server. A count that is out of range starts again at
zero and is not lowered below zero, so this needs no bound on the number of players. -/
structure Covered (s : Store) : Prop where
  located : s.Located
  covers : ∀ id, (s.playerCount id).toNat ≤ (s.residents id).ncard

/-- What has the locations, rosters and counts of a covered store is covered. -/
theorem Covered.congr {t : Store} (h : s.Covered)
    (hlocation : ∀ uuid, t.location? uuid = s.location? uuid)
    (hroster : ∀ id, t.roster id = s.roster id)
    (hcount : ∀ id, t.playerCount id = s.playerCount id) : t.Covered where
  located := h.located.congr hlocation hroster
  covers id := by
    have hresidents : t.residents id = s.residents id := by
      ext uuid
      simp only [residents, Set.mem_ofPred_eq, hlocation]
    rw [hcount, hresidents]
    exact h.covers id

/-- A store stays covered when a record runs out: the count goes down to zero. -/
theorem Covered.expire (h : s.Covered) (id : String) : (s.expire id).Covered where
  located := h.located.expire id
  covers id' := by
    rw [playerCount_expire, h.located.residents_expire]
    split
    · exact Nat.zero_le _
    · exact h.covers id'

/-- Registering counts the roster anew, up to what a count can tell. -/
theorem Covered.registered (h : s.Covered) (r : ServerRecord) : (s.registered r).Covered where
  located := h.located.congr (fun _ => rfl) (fun _ => rfl)
  covers id := by
    show (((s.counts.insert r.serverId (UInt32.ofNat (s.roster r.serverId).size)).get? id).getD
      0).toNat ≤ (s.residents id).ncard
    rw [Index.get?_insert]
    split
    next hid =>
      rw [hid, ← h.located.size_roster, Option.getD_some, UInt32.toNat_ofNat']
      exact Nat.mod_le _ _
    next => exact h.covers id

/-- Taking a resident off a server lowers both sides by one. -/
theorem Covered.sub_le (h : s.Covered) (uuid : Uuid) (id : String) :
    (s.playerCount id).toNat - (if s.location? uuid = some id then 1 else 0) ≤
      (s.residents id \ {uuid}).ncard := by
  have hle := h.covers id
  by_cases hat : s.location? uuid = some id
  · have hmem : uuid ∈ s.residents id := hat
    rw [if_pos hat, Set.ncard_sdiff_singleton_of_mem hmem]
    exact Nat.sub_le_sub_right hle 1
  · have hnot : uuid ∉ s.residents id := hat
    rwa [if_neg hat, Set.sdiff_singleton_eq_self hnot, Nat.sub_zero]

/-- A store stays covered when a player joins.

**Proof sketch.** The server that is joined counts one more only when it gets a resident, and a count
that comes around is lower still. The server that the player comes from loses a resident and counts
one less. -/
theorem Covered.joined (h : s.Covered) (p : PlayerRecord) : (s.joined p).2.Covered where
  located := h.located.joined p
  covers id := by
    rw [residents_joined]
    by_cases hid : id = p.serverId
    · subst hid
      rw [if_pos rfl, playerCount_joined_self]
      have hle := h.covers p.serverId
      by_cases hat : s.location? p.uuid = some p.serverId
      · -- the player is there already
        have hmem : p.uuid ∈ s.residents p.serverId := hat
        rwa [if_pos ((h.located _ _).1 hat), Set.insert_eq_of_mem hmem]
      · have hnot : p.uuid ∉ s.residents p.serverId := hat
        have hout : ¬(s.roster p.serverId).contains p.uuid := fun hin => hat ((h.located _ _).2 hin)
        rw [if_neg hout, Set.ncard_insert_of_notMem hnot (s.finite_residents _), UInt32.toNat_add]
        exact (Nat.mod_le _ _).trans (Nat.add_le_add_right hle 1)
    · have hboth : (s.location? p.uuid = some id ∧ (s.roster id).contains p.uuid) ↔
          s.location? p.uuid = some id := and_iff_left_of_imp (h.located _ _).1
      rw [if_neg hid, playerCount_joined_of_ne s p hid]
      simp only [hboth]
      exact h.sub_le p.uuid id

/-- A store stays covered when a player leaves.

**Proof sketch.** A player who is located elsewhere changes nothing. One who is located on the
server takes one off the count, down to zero, and one off the residents. -/
theorem Covered.left (h : s.Covered) (uuid : Uuid) (id : String) : (s.left uuid id).2.Covered := by
  by_cases hat : s.location? uuid = some id
  swap
  · rwa [left_of_ne hat]
  refine ⟨h.located.left uuid id, fun id' => ?_⟩
  have hcount : ((s.left uuid id).2.playerCount id').toNat =
      (s.playerCount id').toNat - if s.location? uuid = some id' then 1 else 0 := by
    have hin := (h.located uuid id).1 hat
    rw [left_of_eq hat, playerCount_append, playerCount_vacate, hat]
    simp only [Option.some.injEq, eq_comm (a := id)]
    congr 2
    exact propext (and_iff_left hin)
  rw [residents_left hat, hcount]
  exact h.sub_le uuid id'

/-- **Each operation keeps the store covered.** -/
theorem Covered.effect (h : s.Covered) (op : Operation) : (s.effect op).Covered := by
  cases op with
  | register r => exact h.registered r
  | unregister id => exact (h.expire id).congr (fun _ => rfl) (fun _ => rfl) (fun _ => rfl)
  | join p => exact h.joined p
  | leave uuid id => exact h.left uuid id
  | fetch now =>
    exact h.congr s.location?_healed s.roster_healed s.playerCount_healed
  | expire id => exact h.expire id
  | heartbeat | close => exact h.congr (fun _ => rfl) (fun _ => rfl) (fun _ => rfl)

/-- An empty store is covered. -/
theorem covered_withCapacity (capacity : Nat) : (withCapacity capacity).Covered where
  located := located_withCapacity capacity
  covers _ := Nat.zero_le _

/-- **No count exceeds the players after any run.**

**Proof sketch.** Each operation keeps the store covered, whether it is orderly or not. -/
theorem covered_run (capacity : Nat) (ops : List Operation) :
    ((withCapacity capacity).run ops).Covered :=
  run_of_effect (fun _ op _ h => h.effect op) (covered_withCapacity capacity) fun _ _ => trivial

/-! ## Vacant servers -/

/-- **Nobody is recorded on the server**: it is nobody's location, a reading of its players lists
none, and its count is zero. -/
structure Vacant (s : Store) (id : String) : Prop where
  located : ∀ uuid, s.location? uuid ≠ some id
  listed : s.playersOn id = .ok []
  counted : s.playerCount id = 0

/-- It is enough that the server is nobody's location.

**Proof sketch.** A server without residents has an empty roster, as the roster tells the locations,
and a count that does not exceed zero. -/
theorem Covered.vacant_iff (h : s.Covered) (hopen : s.closed = false) (id : String) :
    s.Vacant id ↔ ∀ uuid, s.location? uuid ≠ some id := by
  refine ⟨Vacant.located, fun hnobody => ?_⟩
  have hnone : s.residents id = ∅ := Set.eq_empty_of_forall_notMem hnobody
  refine ⟨hnobody, ?_, ?_⟩
  · have hempty : (s.roster id).size = 0 := by
      rw [h.located.size_roster, hnone, Set.ncard_empty]
    have hvalues : (s.roster id).values = [] := by
      rw [Index.values, List.eq_nil_of_length_eq_zero hempty, List.map_nil]
    simp only [playersOn, whenOpen, hopen, hvalues, Bool.false_eq_true, if_false]
  · have hle := h.covers id
    rw [hnone, Set.ncard_empty, Nat.le_zero] at hle
    exact UInt32.toNat.inj hle

/-- **Which operations announce that a server is gone**: the server leaves, or a full read finds
that it was announced and has no record.

**Proof sketch.** By cases on the operation, of which the entries are known. A full read announces
one server as gone for each orphan. -/
theorem mem_entriesOf_serverOffline_iff {op : Operation} {id : String} :
    (∃ reason, .serverOffline id reason ∈ s.entriesOf op) ↔ s.closed = false ∧
      (op = .unregister id ∨ ∃ now, op = .fetch now ∧ id ∈ s.orphans) := by
  unfold entriesOf
  cases hclosed : s.closed with
  | true => simp
  | false =>
    cases op with
    | leave uuid id' =>
      by_cases hat : s.location? uuid = some id' <;> simp [announced, hat]
    | _ => simp [announced, Event.join, eq_comm]

/-- **Whether a server is vacant when it is announced as gone.** One that leaves is. One whose
record has run out, and which a full read announces as gone, is vacant exactly when nobody's stay on
it stands: nobody joined it after its record ran out without leaving again.

**Proof sketch.** To leave is to be forgotten, and with the server go the locations of its players.
A full read moves nobody, so the players are where they were before it. -/
theorem vacant_iff_of_offline {capacity : Nat} {ops : List Operation} {op : Operation} {id : String}
    {reason : Option String}
    (h : .serverOffline id reason ∈ ((withCapacity capacity).run ops).entriesOf op) :
    ((withCapacity capacity).run (ops ++ [op])).Vacant id ↔
      op = .unregister id ∨ ∀ uuid, ¬Stays ops uuid id := by
  obtain ⟨hopen, hop⟩ := mem_entriesOf_serverOffline_iff.1 ⟨reason, h⟩
  have hafter : ((withCapacity capacity).run (ops ++ [op])).closed = false := by
    rw [run_append]
    show (((withCapacity capacity).run ops).perform op).closed = false
    rw [closed_perform, hopen]
    rcases hop with rfl | ⟨now, rfl, -⟩ <;> exact nofun
  rw [(covered_run capacity (ops ++ [op])).vacant_iff hafter]
  simp only [ne_eq, location?_run_eq_some_iff hafter]
  rcases hop with rfl | ⟨now, rfl, -⟩
  · refine iff_of_true (fun uuid hstays => ?_) (.inl rfl)
    rcases stands_append_singleton.1 hstays with hplaced | ⟨-, hsettled⟩
    · exact hplaced
    · exact hsettled rfl
  · have hsame (uuid : Uuid) : Stays (ops ++ [.fetch now]) uuid id ↔ Stays ops uuid id := by
      rw [Stays, stands_append_singleton]
      show False ∨ (Stays ops uuid id ∧ ¬False) ↔ _
      rw [false_or, not_false_eq_true, and_true]
    simp only [hsame, reduceCtorEq, false_or]

/-- A player joins a server whose record has run out, and is still on it when a full read announces
the server as gone. -/
theorem not_vacant_of_offline :
    ¬∀ (capacity : Nat) (ops : List Operation) (op : Operation) (id : String)
        (reason : Option String), .close ∉ ops →
      .serverOffline id reason ∈ ((withCapacity capacity).run ops).entriesOf op →
      ((withCapacity capacity).run (ops ++ [op])).Vacant id := by
  intro hvacant
  let ops : List Operation := [.register { serverId := "a", serverName := "A", lastHeartbeat := 0 },
    .expire "a", .join ⟨⟨1⟩, "Ann", "a", "A", 0⟩]
  have hgone := hvacant 10 ops (.fetch 0) "a" (some "expired") (by decide) (by decide)
  exact hgone.located ⟨1⟩ (by decide)

/-- One player was on the server when its record ran out, and another one came and went since then.
The server is vacant when it is announced as gone; it is not when the other player came once more.
-/
theorem vacant_iff_of_offline_returned :
    let p (n : Nat) : PlayerRecord := ⟨⟨n⟩, "name", "a", "A", 0⟩
    let server : ServerRecord := { serverId := "a", serverName := "A", lastHeartbeat := 0 }
    let ops : List Operation := [.register server, .join (p 1), .expire "a", .join (p 2),
      .leave ⟨2⟩ "a"]
    let again := ops ++ [.join (p 2)]
    let gone : Event := .serverOffline "a" (some "expired")
    (gone ∈ ((withCapacity 2).run ops).entriesOf (.fetch 0) ∧
      ((withCapacity 2).run (ops ++ [.fetch 0])).Vacant "a") ∧
    (gone ∈ ((withCapacity 2).run again).entriesOf (.fetch 0) ∧
      ¬((withCapacity 2).run (again ++ [.fetch 0])).Vacant "a") := by
  intro p server ops again gone
  have hgone : gone ∈ ((withCapacity 2).run ops).entriesOf (.fetch 0) := by decide
  have hgone' : gone ∈ ((withCapacity 2).run again).entriesOf (.fetch 0) := by decide
  have hopen : ((withCapacity 2).run ops).closed = false := by decide
  have hnobody : ((withCapacity 2).run ops).locations = .empty := by decide
  refine ⟨⟨hgone, (vacant_iff_of_offline hgone).2 (.inr fun uuid hstays => ?_)⟩, hgone',
    fun hvacant => ?_⟩
  · have hat := (location?_run_eq_some_iff hopen uuid "a").2 hstays
    rw [location?, hnobody] at hat
    cases hat
  · have hstays : Stays again ⟨2⟩ "a" := ⟨ops, .join (p 2), [], rfl, ⟨rfl, rfl⟩, nofun⟩
    exact ((vacant_iff_of_offline hgone').1 hvacant).elim nofun fun hnone => hnone ⟨2⟩ hstays

end FleetStatus.Store
