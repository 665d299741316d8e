import FleetStatus.Proofs.Presence.Coherence

set_option relaxedAutoImplicit false
set_option autoImplicit false

/-!
# Joins and leaves

A join and a leave look at the store in several places: where the player was, whether the roster of
the server had the player, and what the count of the server was. In a coherent store the three say
the same. So the outcome, the entry in the log and the change of the store agree, and nothing else
changes.

## Main definitions

* `FleetStatus.Store.Moves` — one player moves, and one entry tells of it.
* `FleetStatus.Store.JoinTells`, `FleetStatus.Store.LeaveTells` — an outcome tells where the player
  was.
* `FleetStatus.Store.JoinEffect`, `FleetStatus.Store.LeaveEffect` — what a join and a leave do, by
  their outcomes.

## Main results

* `FleetStatus.Store.Coherent.joinEffect`, `FleetStatus.Store.Coherent.leaveEffect` — every join and
  every leave does that to a coherent store.
* `FleetStatus.Store.join_leave_run` — and so after every run of operations.
-/

namespace FleetStatus.Store

/-! ## The move of one player -/

/-- From the store `s` to the store `t` **one player moves**, between servers of which `touched`
holds, and one entry tells of it. All other players stay where they are with their records, and all
other servers keep their counts and rosters. -/
structure Moves (s t : Store) (uuid : Uuid) (touched : String → Prop) (told : Event) : Prop where
  /-- Besides the log only the whereabouts of players change. -/
  rest : t = { s.append told with
    locations := t.locations
    rosters := t.rosters
    counts := t.counts }
  location : ∀ uuid' ≠ uuid, t.location? uuid' = s.location? uuid'
  record : ∀ uuid' ≠ uuid, ∀ id, (t.roster id).get? uuid' = (s.roster id).get? uuid'
  count : ∀ id, ¬touched id → t.counts.get? id = s.counts.get? id
  roster : ∀ id, ¬touched id → t.rosters.get? id = s.rosters.get? id

/-- The outcome of a join **tells where the player was**: nowhere, on the server itself, or on
another one. -/
structure JoinTells (outcome : JoinOutcome) (location : Option String) (id : String) : Prop where
  joined_iff : outcome = .joined ↔ location = none
  rejoined_iff : outcome = .rejoined ↔ location = some id
  relocated_iff : ∀ other, outcome = .relocated other ↔ location = some other ∧ other ≠ id

/-- The outcome of a leave **tells where the player was**. -/
structure LeaveTells (outcome : LeaveOutcome) (location : Option String) (id : String) : Prop where
  notPresent_iff : outcome = .notPresent ↔ location = none
  removed_iff : outcome = .removed ↔ location = some id
  elsewhere_iff : ∀ other, outcome = .elsewhere other ↔ location = some other ∧ other ≠ id

/-- What a **join** does to the store `s`, by its outcome. -/
structure JoinEffect (s : Store) (p : PlayerRecord) (outcome : JoinOutcome) (t : Store) : Prop
    extends JoinTells outcome (s.location? p.uuid) p.serverId where
  /-- The entry in the log has the fields of the record, and the former server of one who moved. -/
  told : ∃ previous, (∀ id, previous = some id ↔ outcome = .relocated id) ∧
    s.Moves t p.uuid (fun id => id = p.serverId ∨ s.location? p.uuid = some id)
      (.playerJoin p.uuid p.username p.serverId p.serverName previous)
  located : t.location? p.uuid = some p.serverId
  recorded : (t.roster p.serverId).get? p.uuid = some p
  only : ∀ id, (t.roster id).contains p.uuid → id = p.serverId
  raised : t.playerCount p.serverId =
    s.playerCount p.serverId + if outcome = .rejoined then 0 else 1
  /-- The count is not taken modulo its range as long as it can tell the players. -/
  raised_toNat : t.locations.size < UInt32.size → (t.playerCount p.serverId).toNat =
    (s.playerCount p.serverId).toNat + if outcome = .rejoined then 0 else 1
  /-- Of the other servers the former one has one player less. -/
  lowered : ∀ id ≠ p.serverId,
    (t.playerCount id).toNat + (if outcome = .relocated id then 1 else 0) = (s.playerCount id).toNat

/-- What a **leave** does to the store `s`, by its outcome. -/
structure LeaveEffect (s : Store) (uuid : Uuid) (id : String) (outcome : LeaveOutcome) (t : Store) :
    Prop extends LeaveTells outcome (s.location? uuid) id where
  told : outcome = .removed → s.Moves t uuid (· = id) (.playerLeave uuid id)
  gone : outcome = .removed → t.location? uuid = none ∧ ∀ id', (t.roster id').get? uuid = none
  lowered : outcome = .removed → (t.playerCount id).toNat + 1 = (s.playerCount id).toNat
  /-- A leave that removes nobody changes nothing, not even the log. -/
  still : outcome ≠ .removed → t = s

variable {s : Store}

/-! ## What vacating leaves alone -/

/-- Vacating changes rosters and counts only. -/
theorem vacate_eq (s : Store) (uuid : Uuid) (id : String) : s.vacate uuid id =
    { s with
      rosters := (s.vacate uuid id).rosters
      counts := (s.vacate uuid id).counts } := by
  unfold vacate
  split <;> rfl

/-- Vacating touches no other server's count. -/
theorem get?_counts_vacate_of_ne (s : Store) (uuid : Uuid) {id id' : String} (hid : id' ≠ id) :
    (s.vacate uuid id).counts.get? id' = s.counts.get? id' := by
  unfold vacate
  split
  · exact (Index.get?_adjust _ _ _ _).trans (if_neg hid)
  · rfl

/-- Vacating touches no other server's roster. -/
theorem get?_rosters_vacate_of_ne (s : Store) (uuid : Uuid) {id id' : String} (hid : id' ≠ id) :
    (s.vacate uuid id).rosters.get? id' = s.rosters.get? id' := by
  unfold vacate
  split
  · exact (Index.get?_adjust _ _ _ _).trans (if_neg hid)
  · rfl

section Departed

variable (s : Store) (p : PlayerRecord)

/-- To leave the old server changes rosters and counts only. -/
theorem departed_eq : s.departed p =
    { s with rosters := (s.departed p).rosters, counts := (s.departed p).counts } := by
  unfold departed
  cases (s.location? p.uuid).filter (· ≠ p.serverId) with
  | none => rfl
  | some id => exact s.vacate_eq p.uuid id

variable {id : String}

/-- A player who leaves for another server touches nothing of the servers where the player was
not. -/
theorem get?_departed_of_ne (hid : s.location? p.uuid ≠ some id) :
    (s.departed p).counts.get? id = s.counts.get? id ∧
      (s.departed p).rosters.get? id = s.rosters.get? id := by
  unfold departed
  cases hprevious : (s.location? p.uuid).filter (· ≠ p.serverId) with
  | none => exact ⟨rfl, rfl⟩
  | some current =>
    have hat := (Option.filter_eq_some_iff.1 hprevious).1
    have hne : id ≠ current := fun heq => hid (heq ▸ hat)
    exact ⟨s.get?_counts_vacate_of_ne _ hne, s.get?_rosters_vacate_of_ne _ hne⟩

end Departed

/-! ## Joins -/

/-- **The outcome of a join tells where the player was**: the roster has the player exactly when the
player is located there.

**Proof sketch.** The code looks for the player on the roster of the new server and for a location
on another one. To leave the old server does not change the first, and locations and rosters tell
the same, so the outcome depends on the location alone: there is none, it is the new server, or it
is another one. -/
theorem Located.tells_joined (h : s.Located) (p : PlayerRecord) :
    JoinTells (s.joined p).1 (s.location? p.uuid) p.serverId := by
  have hroster : ((s.departed p).roster p.serverId).contains p.uuid =
      (s.roster p.serverId).contains p.uuid := by
    simp [Index.contains, get?_roster_departed]
  have hfst : (s.joined p).1 = ((s.location? p.uuid).filter (· ≠ p.serverId)).elim
      (if (s.roster p.serverId).contains p.uuid then .rejoined else .joined) .relocated := by
    rw [← hroster]
    unfold Store.joined departed
    cases (s.location? p.uuid).filter (· ≠ p.serverId) <;> rfl
  have hat := h p.uuid p.serverId
  rw [hfst]
  cases hlocation : s.location? p.uuid with
  | none =>
    have hout : ¬(s.roster p.serverId).contains p.uuid := by simp [← hat, hlocation]
    constructor <;> simp [hout]
  | some current =>
    by_cases hcurrent : current = p.serverId
    · subst hcurrent
      have hin := hat.1 hlocation
      constructor <;> simp [hin, Option.filter_some, eq_comm]
    · constructor <;> simp [hcurrent, Option.filter_some]

/-- A join moves one player and tells of it.

**Proof sketch.** Vacating the old place changes rosters and counts only, and only those of the old
server; then the player is put on the new one. Every other field is what it was. -/
theorem moves_joined (s : Store) (p : PlayerRecord) : s.Moves (s.joined p).2 p.uuid
    (fun id => id = p.serverId ∨ s.location? p.uuid = some id)
    (.join p ((s.location? p.uuid).filter (· ≠ p.serverId))) where
  rest := by
    show Store.append { s.departed p with
      locations := (s.joined p).2.locations
      rosters := (s.joined p).2.rosters
      counts := (s.joined p).2.counts } _ = _
    rw [s.departed_eq p]
    rfl
  location uuid huuid := (s.location?_joined p uuid).trans (if_neg huuid)
  record uuid huuid id := by
    rw [get?_roster_joined, if_neg fun hand => huuid hand.1, if_neg fun hand => huuid hand.1]
  count id hid := by
    obtain ⟨hself, hat⟩ := not_or.1 hid
    have hkept := (s.get?_departed_of_ne p hat).1
    show (if ((s.departed p).roster p.serverId).contains p.uuid then (s.departed p).counts
      else (s.departed p).counts.insert p.serverId _).get? id = _
    split
    · exact hkept
    · exact ((Index.get?_insert _ _ _ _).trans (if_neg hself)).trans hkept
  roster id hid := by
    obtain ⟨hself, hat⟩ := not_or.1 hid
    have hkept := (s.get?_departed_of_ne p hat).2
    exact ((Index.get?_insert _ _ _ _).trans (if_neg hself)).trans hkept

section Counts

variable (h : s.Coherent) (p : PlayerRecord)

include h

/-- A join raises the count of its server, unless the player was there already. -/
theorem Coherent.raised_joined : (s.joined p).2.playerCount p.serverId =
    s.playerCount p.serverId + if s.location? p.uuid = some p.serverId then 0 else 1 := by
  rw [Store.playerCount_joined_self]
  by_cases hat : s.location? p.uuid = some p.serverId
  · rw [if_pos ((h.located _ _).1 hat), if_pos hat, UInt32.add_zero]
  · rw [if_neg fun hin => hat ((h.located _ _).2 hin), if_neg hat]

/-- The same as a number that does not wrap around, as long as the count fits.

**Proof sketch.** Before and after the join the count is the number of residents, of which there is
one more unless the player was one before. -/
theorem Coherent.raised_toNat_joined (hfit : (s.joined p).2.locations.size < UInt32.size) :
    ((s.joined p).2.playerCount p.serverId).toNat =
      (s.playerCount p.serverId).toNat +
        if s.location? p.uuid = some p.serverId then 0 else 1 := by
  rw [h.playerCount_joined_self p hfit, h.counted, residents_joined, if_pos rfl]
  split
  next hat =>
    have hmem : p.uuid ∈ s.residents p.serverId := hat
    rw [Set.insert_eq_of_mem hmem, Nat.add_zero]
  next hnot =>
    have hnew : p.uuid ∉ s.residents p.serverId := hnot
    exact Set.ncard_insert_of_notMem hnew (s.finite_residents _)

/-- A join lowers the count of the server that the player leaves for it by exactly one. -/
theorem Coherent.lowered_joined {id : String} (hid : id ≠ p.serverId) :
    ((s.joined p).2.playerCount id).toNat + (if s.location? p.uuid = some id then 1 else 0) =
      (s.playerCount id).toNat := by
  rw [Store.playerCount_joined_of_ne s p hid]
  by_cases hat : s.location? p.uuid = some id
  · have hin := (h.located _ _).1 hat
    rw [if_pos ⟨hat, hin⟩, if_pos hat, Nat.sub_add_cancel (h.playerCount_pos hin)]
  · rw [if_neg fun hand => hat hand.1, if_neg hat, Nat.sub_zero, Nat.add_zero]

/-- **Every join does to a coherent store what its outcome says.**

**Proof sketch.** The outcome tells where the player was (`Located.tells_joined`), and so each part
is one of the lemmas above, said of the outcome and not of the location. -/
theorem Coherent.joinEffect : s.JoinEffect p (s.joined p).1 (s.joined p).2 where
  toJoinTells := h.located.tells_joined p
  told := by
    refine ⟨_, fun id => ?_, s.moves_joined p⟩
    rw [(h.located.tells_joined p).relocated_iff, Option.filter_eq_some_iff,
      decide_eq_true_eq]
  located := (s.location?_joined p p.uuid).trans (if_pos rfl)
  recorded := (s.get?_roster_joined p p.serverId p.uuid).trans (if_pos ⟨rfl, rfl⟩)
  only id hid := by
    have hat := (h.located.joined p p.uuid id).2 hid
    rw [location?_joined, if_pos rfl] at hat
    exact (Option.some.inj hat).symm
  raised := by simp only [(h.located.tells_joined p).rejoined_iff, h.raised_joined]
  raised_toNat hfit := by
    simp only [(h.located.tells_joined p).rejoined_iff, h.raised_toNat_joined p hfit]
  lowered id hid := by
    simp only [(h.located.tells_joined p).relocated_iff, and_iff_left hid]
    exact h.lowered_joined p hid

end Counts

/-! ## Leaves -/

/-- **The outcome of a leave tells where the player was.**

**Proof sketch.** By the location of the player, as the code does it: there is none, it is the
server that is named, or it is another one. -/
theorem tells_left (s : Store) (uuid : Uuid) (id : String) :
    LeaveTells (s.left uuid id).1 (s.location? uuid) id := by
  unfold left
  cases s.location? uuid with
  | none => constructor <;> simp
  | some current =>
    by_cases hcurrent : current = id
    · subst hcurrent
      constructor <;> simp [eq_comm]
    · constructor <;> simp [hcurrent]

/-- A leave that removes a player moves one player and tells of it.

**Proof sketch.** Vacating the place changes the roster and the count of the named server only, and
of the locations the player's is cleared. -/
theorem moves_left {uuid : Uuid} {id : String} (hat : s.location? uuid = some id) :
    s.Moves (s.left uuid id).2 uuid (· = id) (.playerLeave uuid id) where
  rest := by
    rw [left_of_eq hat, vacate_eq]
    rfl
  location uuid' huuid := by
    rw [location?_left, if_neg fun hand => huuid hand.1]
  record uuid' huuid id' := by
    rw [get?_roster_left, if_neg fun hand => huuid hand.1.2]
  count id' hid := by
    rw [left_of_eq hat]
    exact get?_counts_vacate_of_ne _ uuid hid
  roster id' hid := by
    rw [left_of_eq hat]
    exact get?_rosters_vacate_of_ne _ uuid hid

/-- **Every leave does to a coherent store what its outcome says.**

**Proof sketch.** The outcome tells where the player was (`tells_left`). Where the player is
removed, the player was on the roster of the named server, so the count goes down by exactly one; in
all other cases the store stays as it is. -/
theorem Coherent.leaveEffect (h : s.Coherent) (uuid : Uuid) (id : String) :
    s.LeaveEffect uuid id (s.left uuid id).1 (s.left uuid id).2 where
  toLeaveTells := s.tells_left uuid id
  told houtcome := moves_left ((s.tells_left uuid id).removed_iff.1 houtcome)
  gone houtcome := by
    have hat := (s.tells_left uuid id).removed_iff.1 houtcome
    have hnone : (s.left uuid id).2.location? uuid = none :=
      (s.location?_left uuid id uuid).trans (if_pos ⟨rfl, hat⟩)
    refine ⟨hnone, fun id' => Option.eq_none_iff_forall_not_mem.2 fun p hp => ?_⟩
    have hin : ((s.left uuid id).2.roster id').contains uuid := Option.isSome_iff_exists.2 ⟨p, hp⟩
    have hthere := ((h.left uuid id).located uuid id').2 hin
    cases hnone.symm.trans hthere
  lowered houtcome := by
    have hat := (s.tells_left uuid id).removed_iff.1 houtcome
    have hin := (h.located uuid id).1 hat
    rw [left_of_eq hat, playerCount_append, playerCount_vacate]
    show (s.playerCount id).toNat - (if id = id ∧ (s.roster id).contains uuid then 1 else 0) + 1 = _
    rw [if_pos ⟨rfl, hin⟩, Nat.sub_add_cancel (h.playerCount_pos hin)]
  still houtcome := left_of_ne fun hat => houtcome ((s.tells_left uuid id).removed_iff.2 hat)

/-! ## After a run -/

/-- **Joins and leaves after a run of operations**, whatever they were: the outcome, the entry in
the log and the change of the store agree, and nothing else changes.

**Proof sketch.** A run keeps the store coherent, and every join and leave does to a coherent store
what its outcome says. -/
theorem join_leave_run {capacity : Nat} {ops : List Operation}
    (hfit : (withCapacity capacity).CountsFit ops)
    (hopen : ((withCapacity capacity).run ops).closed = false) :
    let s := (withCapacity capacity).run ops
    (∀ p, ∃ outcome t, s.join p = .ok (outcome, t) ∧ s.JoinEffect p outcome t) ∧
      ∀ uuid id, ∃ outcome t, s.leave uuid id = .ok (outcome, t) ∧
        s.LeaveEffect uuid id outcome t := by
  intro s
  have h : s.Coherent := coherent_run hfit
  exact ⟨fun p => ⟨_, _, whenOpen_of_open hopen _, h.joinEffect p⟩,
    fun uuid id => ⟨_, _, whenOpen_of_open hopen _, h.leaveEffect uuid id⟩⟩

/-- A server that never registered has a player, and the server of another player ran out and was
joined again. The first player moves to the second server, and the second player does not leave the
first server. -/
theorem join_leave_run_expired :
    let p (n : Nat) (id : String) : PlayerRecord := ⟨⟨n⟩, "name", id, id, 0⟩
    let ops : List Operation := [
      .register { serverId := "a", serverName := "A", lastHeartbeat := 0 }, .join (p 1 "a"),
      .join (p 2 "b"), .expire "a", .join (p 1 "a")]
    let s := (withCapacity 3).run ops
    (withCapacity 3).CountsFit ops ∧ s.closed = false ∧
      (∃ t, s.join (p 2 "a") = .ok (.relocated "b", t) ∧
        s.JoinEffect (p 2 "a") (.relocated "b") t ∧
        t.playerCount "a" = 2 ∧ (t.playerCount "b").toNat + 1 = 1) ∧
      s.leave ⟨1⟩ "b" = .ok (.elsewhere "a", s) := by
  intro p ops s
  have hfit : (withCapacity 3).CountsFit ops := countsFit_of_length_lt 3 (by decide)
  have hopen : s.closed = false := by decide
  obtain ⟨hjoins, hleaves⟩ := join_leave_run hfit hopen
  obtain ⟨outcome, t, hjoin, hjoined⟩ := hjoins (p 2 "a")
  obtain rfl : outcome = .relocated "b" := (hjoined.relocated_iff "b").2 (by decide)
  obtain ⟨outcome', t', hleave, hleft⟩ := hleaves ⟨1⟩ "b"
  obtain rfl : outcome' = .elsewhere "a" := (hleft.elsewhere_iff "a").2 (by decide)
  obtain rfl : t' = s := hleft.still nofun
  have hraised : t.playerCount "a" = 2 := hjoined.raised.trans (by decide)
  have hlowered : (t.playerCount "b").toNat + 1 = 1 :=
    (hjoined.lowered "b" (by decide)).trans (by decide)
  exact ⟨hfit, hopen, ⟨t, hjoin, hjoined, hraised, hlowered⟩, hleave⟩

end FleetStatus.Store
