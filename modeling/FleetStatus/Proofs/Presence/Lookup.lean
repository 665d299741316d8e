import FleetStatus.Proofs.Presence.Run

set_option relaxedAutoImplicit false
set_option autoImplicit false

/-!
# Look-ups after an operation

What each operation of the presence store does to the location of a player, to the roster of a
server and to its count.

## Main definitions

* `FleetStatus.Store.departed` — the first half of a join: the player leaves the former server.

## Main results

* `FleetStatus.Store.location?_expire`, `FleetStatus.Store.roster_expire`,
  `FleetStatus.Store.playerCount_expire` — forgetting a server.
* `FleetStatus.Store.get?_roster_vacate`, `FleetStatus.Store.playerCount_vacate` — taking a player
  off a server.
* `FleetStatus.Store.location?_joined`, `FleetStatus.Store.get?_roster_joined`,
  `FleetStatus.Store.playerCount_joined_self`, `FleetStatus.Store.playerCount_joined_of_ne` — a
  join.
* `FleetStatus.Store.left_of_eq`, `FleetStatus.Store.left_of_ne`,
  `FleetStatus.Store.location?_left`, `FleetStatus.Store.get?_roster_left` — a leave.
-/

namespace FleetStatus.Store

/-! ## Forgetting a server -/

/-- Forgetting a server clears the locations of the players on its roster that point to it. -/
theorem location?_expire (s : Store) (id : String) (uuid : Uuid) :
    (s.expire id).location? uuid =
      (s.location? uuid).filter fun at_ => !((s.roster id).contains uuid && at_ == id) :=
  Index.get?_filter _ _ _

/-- Forgetting a server empties its roster and no other. -/
theorem roster_expire (s : Store) (id id' : String) :
    (s.expire id).roster id' = if id' = id then .empty else s.roster id' := by
  simp only [roster, expire, Index.get?_erase]
  split <;> rfl

/-- Forgetting a server sets its count to zero and no other. -/
theorem playerCount_expire (s : Store) (id id' : String) :
    (s.expire id).playerCount id' = if id' = id then 0 else s.playerCount id' := by
  simp only [playerCount, expire, Index.get?_erase]
  split <;> rfl

/-! ## Taking a player off a server -/

/-- Vacating changes no location. -/
@[simp]
theorem location?_vacate (s : Store) (uuid : Uuid) (id : String) (uuid' : Uuid) :
    (s.vacate uuid id).location? uuid' = s.location? uuid' :=
  vacate_frame (·.location? uuid') (fun _ _ _ => rfl) s uuid id

/-- Vacating takes one record out of one roster.

**Proof sketch.** By whether the player is on the roster; if not, there is nothing to take off. -/
theorem get?_roster_vacate (s : Store) (uuid : Uuid) (id : String) (id' : String) (uuid' : Uuid) :
    ((s.vacate uuid id).roster id').get? uuid' =
      if id' = id ∧ uuid' = uuid then none else (s.roster id').get? uuid' := by
  unfold vacate
  split
  next =>
    simp only [roster, Index.get?_adjust]
    by_cases hid : id' = id
    · subst hid
      cases s.rosters.get? id' with
      | none => simp
      | some roster => simp [Index.get?_erase]
    · simp [hid]
  next hout =>
    split
    next hself =>
      obtain ⟨rfl, rfl⟩ := hself
      simpa [Index.contains] using hout
    next => rfl

/-- One less, but not below zero.

**Proof sketch.** By whether the number is zero; otherwise it is one at least, so nothing wraps
around. -/
theorem toNat_lowered (n : UInt32) : (if n = 0 then 0 else n - 1 : UInt32).toNat = n.toNat - 1 := by
  split
  next h => rw [h]; rfl
  next h =>
    have hpos : (1 : UInt32) ≤ n := by
      rw [UInt32.le_iff_toNat_le]
      have : n.toNat ≠ 0 := fun h0 => h (UInt32.toNat.inj h0)
      show 1 ≤ n.toNat
      omega
    rw [UInt32.toNat_sub_of_le _ _ hpos]
    rfl

/-- Vacating lowers the count of a server that had the player on its roster.

**Proof sketch.** By whether the player is on the roster. If so, the count of this server is
adjusted and no other; a server without a count has none after it either, and counts as zero. -/
theorem playerCount_vacate (s : Store) (uuid : Uuid) (id id' : String) :
    ((s.vacate uuid id).playerCount id').toNat =
      (s.playerCount id').toNat - if id' = id ∧ (s.roster id).contains uuid then 1 else 0 := by
  unfold vacate
  split
  next hin =>
    simp only [playerCount, Index.get?_adjust, hin, and_true]
    by_cases hid : id' = id
    · cases s.counts.get? id' with
      | none => simp
      | some n => simpa [hid] using toNat_lowered n
    · simp [hid]
  next hout => simp [hout]

/-! ## Joins -/

/-- The store after the player of a record left the server where the player was, if that is another
one than the server of the record. -/
def departed (s : Store) (p : PlayerRecord) : Store :=
  ((s.location? p.uuid).filter (· ≠ p.serverId)).elim s (s.vacate p.uuid)

/-- To leave the old server changes no location. -/
@[simp]
theorem location?_departed (s : Store) (p : PlayerRecord) (uuid : Uuid) :
    (s.departed p).location? uuid = s.location? uuid :=
  elim_vacate_frame (·.location? uuid) (fun _ _ _ => rfl) s _ _

/-- To leave the old server takes one record out of one roster, if it is another server.

**Proof sketch.** By the old location: without one, or with the server of the join itself, nothing
is vacated. -/
theorem get?_roster_departed (s : Store) (p : PlayerRecord) (id : String) (uuid : Uuid) :
    ((s.departed p).roster id).get? uuid =
      if uuid = p.uuid ∧ id ≠ p.serverId ∧ s.location? p.uuid = some id then none
      else (s.roster id).get? uuid := by
  unfold departed
  cases hat : s.location? p.uuid with
  | none => simp
  | some current =>
    by_cases hcurrent : current = p.serverId
    · subst hcurrent
      simp only [Option.filter, ne_eq, not_true, decide_false, Bool.false_eq_true, if_false,
        Option.elim_none, Option.some.injEq]
      rw [if_neg]
      rintro ⟨-, hne, heq⟩
      exact hne heq.symm
    · simp only [Option.filter, ne_eq, hcurrent, not_false_eq_true, decide_true, if_true,
        Option.elim_some, get?_roster_vacate, Option.some.injEq]
      have hiff : id = current ∧ uuid = p.uuid ↔
          uuid = p.uuid ∧ ¬id = p.serverId ∧ current = id :=
        ⟨fun ⟨hid, huuid⟩ => ⟨huuid, hid ▸ hcurrent, hid.symm⟩,
          fun ⟨huuid, _, hid⟩ => ⟨hid.symm, huuid⟩⟩
      simp only [hiff]

/-- To leave the old server lowers its count, if the player was on the roster there.

**Proof sketch.** By the old location, as for the rosters, with `playerCount_vacate`. -/
theorem playerCount_departed (s : Store) (p : PlayerRecord) (id : String) :
    ((s.departed p).playerCount id).toNat = (s.playerCount id).toNat -
      if id ≠ p.serverId ∧ s.location? p.uuid = some id ∧ (s.roster id).contains p.uuid then 1
      else 0 := by
  unfold departed
  cases hat : s.location? p.uuid with
  | none => simp
  | some current =>
    by_cases hcurrent : current = p.serverId
    · subst hcurrent
      simp only [Option.filter, ne_eq, not_true, decide_false, Bool.false_eq_true, if_false,
        Option.elim_none, Option.some.injEq]
      rw [if_neg, Nat.sub_zero]
      rintro ⟨hne, heq, -⟩
      exact hne heq.symm
    · simp only [Option.filter, ne_eq, hcurrent, not_false_eq_true, decide_true, if_true,
        Option.elim_some, playerCount_vacate, Option.some.injEq]
      by_cases hid : id = current
      · subst hid
        simp [hcurrent]
      · simp [hid, Ne.symm hid]

/-- A join puts down where the player is. -/
theorem location?_joined (s : Store) (p : PlayerRecord) (uuid : Uuid) :
    (s.joined p).2.location? uuid = if uuid = p.uuid then some p.serverId else s.location? uuid := by
  show ((s.departed p).locations.insert p.uuid p.serverId).get? uuid = _
  rw [Index.get?_insert]
  split
  · rfl
  · exact s.location?_departed p uuid

/-- A join puts the record on the roster of its server and takes it off the old one. -/
theorem get?_roster_joined (s : Store) (p : PlayerRecord) (id : String) (uuid : Uuid) :
    ((s.joined p).2.roster id).get? uuid =
      if uuid = p.uuid ∧ id = p.serverId then some p
      else if uuid = p.uuid ∧ s.location? p.uuid = some id then none
      else (s.roster id).get? uuid := by
  show ((((s.departed p).rosters.insert p.serverId
    (((s.departed p).roster p.serverId).insert p.uuid p)).get? id).getD .empty).get? uuid = _
  rw [Index.get?_insert]
  by_cases hid : id = p.serverId
  · subst hid
    simp only [if_true, Option.getD_some, Index.get?_insert, get?_roster_departed]
    by_cases huuid : uuid = p.uuid <;> simp [huuid]
  · simp only [hid, if_false, and_false]
    exact (s.get?_roster_departed p id uuid).trans (by simp [hid])

/-- A join raises the count of its server by one, unless the player was on the roster already.

**Proof sketch.** To leave the old server changes neither the roster nor the count of the new one,
so the count goes up exactly if the player was not on the roster before. -/
theorem playerCount_joined_self (s : Store) (p : PlayerRecord) :
    (s.joined p).2.playerCount p.serverId =
      if (s.roster p.serverId).contains p.uuid then s.playerCount p.serverId
      else s.playerCount p.serverId + 1 := by
  have hroster : ((s.departed p).roster p.serverId).contains p.uuid =
      (s.roster p.serverId).contains p.uuid := by
    simp [Index.contains, get?_roster_departed]
  have hcount : (s.departed p).playerCount p.serverId = s.playerCount p.serverId :=
    UInt32.toNat.inj (by simp [playerCount_departed])
  show ((if ((s.departed p).roster p.serverId).contains p.uuid then (s.departed p).counts
    else (s.departed p).counts.insert p.serverId
      ((s.departed p).playerCount p.serverId + 1)).get? p.serverId).getD 0 = _
  rw [hroster, hcount]
  split
  · exact hcount
  · simp [Index.get?_insert]

/-- A join lowers the count of the server that the player leaves for it. -/
theorem playerCount_joined_of_ne (s : Store) (p : PlayerRecord) {id : String}
    (hid : id ≠ p.serverId) :
    ((s.joined p).2.playerCount id).toNat = (s.playerCount id).toNat -
      if s.location? p.uuid = some id ∧ (s.roster id).contains p.uuid then 1 else 0 := by
  have hcount : (s.joined p).2.playerCount id = (s.departed p).playerCount id := by
    show ((if ((s.departed p).roster p.serverId).contains p.uuid then (s.departed p).counts
      else (s.departed p).counts.insert p.serverId
        ((s.departed p).playerCount p.serverId + 1)).get? id).getD 0 = _
    split
    · rfl
    · simp [Index.get?_insert, hid, playerCount]
  simp [hcount, playerCount_departed, hid]

/-! ## Leaves -/

/-- A leave that does not name the server where the player is changes nothing. -/
theorem left_of_ne {s : Store} {uuid : Uuid} {id : String} (h : s.location? uuid ≠ some id) :
    (s.left uuid id).2 = s := by
  unfold left
  split
  · rfl
  next current hat =>
    have : current ≠ id := fun heq => h (heq ▸ hat)
    rw [if_pos this]

/-- A leave from the player's own server clears the location, vacates the place and is announced. -/
theorem left_of_eq {s : Store} {uuid : Uuid} {id : String} (h : s.location? uuid = some id) :
    (s.left uuid id).2 =
      ({ s with locations := s.locations.erase uuid }.vacate uuid id).append
        (.playerLeave uuid id) := by
  simp [left, h]

/-- A leave that names the player's server clears the location, and no other. -/
theorem location?_left (s : Store) (uuid : Uuid) (id : String) (uuid' : Uuid) :
    (s.left uuid id).2.location? uuid' =
      if uuid' = uuid ∧ s.location? uuid = some id then none else s.location? uuid' := by
  by_cases hat : s.location? uuid = some id
  · rw [left_of_eq hat, location?_append, location?_vacate]
    simp only [hat, and_true]
    exact Index.get?_erase _ _ _
  · rw [left_of_ne hat, if_neg fun hand => hat hand.2]

/-- A leave that names the player's server takes one record out of its roster. -/
theorem get?_roster_left (s : Store) (uuid : Uuid) (id id' : String) (uuid' : Uuid) :
    ((s.left uuid id).2.roster id').get? uuid' =
      if (id' = id ∧ uuid' = uuid) ∧ s.location? uuid = some id then none
      else (s.roster id').get? uuid' := by
  by_cases hat : s.location? uuid = some id
  · rw [left_of_eq hat, roster_append, get?_roster_vacate]
    simp only [hat, and_true]
    rfl
  · rw [left_of_ne hat, if_neg fun hand => hat hand.2]

end FleetStatus.Store
