import FleetStatus.Proofs.Presence.Lookup

set_option relaxedAutoImplicit false
set_option autoImplicit false

/-!
# Locations and rosters

A player is located where a roster has the player. No operation of the presence store breaks this,
whatever its order and however many players there are.

A store may hold nothing at all of a server. That is so when a server was forgotten, and stays so as
long as nobody registers, sends a heartbeat or joins under its id.

## Main definitions

* `FleetStatus.Store.Located` — locations and rosters tell the same.
* `FleetStatus.Store.Absent` — the store holds nothing of a server.
* `FleetStatus.Store.Operation.Apart` — the operation brings nothing of a server.

## Main results

* `FleetStatus.Store.located_run` — locations and rosters tell the same after every run.
* `FleetStatus.Store.Located.absent_unregistered` — nothing is left of a server that is forgotten.
* `FleetStatus.Store.Absent.run` — operations apart from the server leave it so.
-/

namespace FleetStatus.Store

variable {s : Store}

/-! ## Locations and rosters tell the same -/

/-- **A player is located where a roster has the player.** -/
def Located (s : Store) : Prop :=
  ∀ uuid id, s.location? uuid = some id ↔ (s.roster id).contains uuid

/-- Locations and rosters tell the same wherever the look-ups are the same. -/
theorem Located.congr {t : Store} (h : s.Located)
    (hlocation : ∀ uuid, t.location? uuid = s.location? uuid)
    (hroster : ∀ id, t.roster id = s.roster id) : t.Located := fun uuid id => by
  rw [hlocation, hroster]
  exact h uuid id

/-- Forgetting a server takes the location of those who are on it, and of nobody else.

**Proof sketch.** The code clears the locations of those on the roster that point to the server; as
locations and rosters tell the same, these are all that point there. -/
theorem Located.location?_expire (h : s.Located) (id : String) (uuid : Uuid) :
    (s.expire id).location? uuid = if s.location? uuid = some id then none else s.location? uuid := by
  rw [Store.location?_expire]
  cases hat : s.location? uuid with
  | none => simp
  | some current =>
    by_cases hcurrent : current = id
    · subst hcurrent
      simp [(h uuid current).1 hat]
    · simp [hcurrent]

/-- To forget a server keeps locations and rosters together. -/
theorem Located.expire (h : s.Located) (id : String) : (s.expire id).Located := fun uuid id' => by
  rw [h.location?_expire, roster_expire]
  by_cases hid : id' = id
  · subst hid
    by_cases hat : s.location? uuid = some id' <;> simp [hat, Index.contains]
  · by_cases hat : s.location? uuid = some id
    · simp [hat, hid, Ne.symm hid, ← h uuid id']
    · simp [hat, hid, h uuid id']

/-- A join keeps locations and rosters together.

**Proof sketch.** The player is put on one roster, taken off the one of the old location, and was on
no other; the new location is that of the first. All other players stay where they are. -/
theorem Located.joined (h : s.Located) (p : PlayerRecord) : (s.joined p).2.Located := by
  intro uuid id
  have hat := h uuid id
  simp only [Index.contains, get?_roster_joined, location?_joined] at hat ⊢
  by_cases huuid : uuid = p.uuid
  · subst huuid
    by_cases hid : id = p.serverId
    · simp [hid]
    · by_cases hold : s.location? p.uuid = some id
      · simp [hid, Ne.symm hid, hold]
      · simp [hid, Ne.symm hid, hold, ← hat]
  · simp [huuid, hat]

/-- A leave keeps locations and rosters together: the player loses the location and the place on the
roster there, or nothing happens.

**Proof sketch.** By cases on the player and the server: the location goes together with the place
on the roster. -/
theorem Located.left (h : s.Located) (uuid : Uuid) (id : String) : (s.left uuid id).2.Located := by
  by_cases hat : s.location? uuid = some id
  swap
  · rw [left_of_ne hat]
    exact h
  intro uuid' id'
  have hloc := h uuid' id'
  simp only [Index.contains, location?_left, get?_roster_left, hat, and_true] at hloc ⊢
  by_cases huuid : uuid' = uuid
  · subst huuid
    by_cases hid : id' = id
    · simp [hid]
    · simp [hid, ← hloc, hat, Ne.symm hid]
  · simp [huuid, hloc]

/-- Announcing the orphans touches neither locations nor rosters. -/
theorem Located.healed (h : s.Located) : s.healed.Located :=
  h.congr s.location?_healed s.roster_healed

/-- **Each operation keeps locations and rosters together.** -/
theorem Located.effect (h : s.Located) (op : Operation) : (s.effect op).Located := by
  cases op with
  | unregister id => exact (h.expire id).congr (fun _ => rfl) (fun _ => rfl)
  | join p => exact h.joined p
  | leave uuid id => exact h.left uuid id
  | fetch now => exact h.healed
  | expire id => exact h.expire id
  | register | heartbeat | close => exact h.congr (fun _ => rfl) (fun _ => rfl)

/-- Every run keeps locations and rosters together. -/
theorem Located.run (h : s.Located) (ops : List Operation) : (s.run ops).Located :=
  run_of_effect (P := Located) (fun _ op _ h => h.effect op) h fun _ _ => trivial

/-- In an empty store nobody is anywhere. -/
theorem located_withCapacity (capacity : Nat) : (withCapacity capacity).Located := fun uuid id => by
  show none = some id ↔ false = true
  simp

/-- **Every run keeps locations and rosters together.** -/
theorem located_run (capacity : Nat) (ops : List Operation) :
    ((withCapacity capacity).run ops).Located := (located_withCapacity capacity).run ops

/-! ## Nothing of a server -/

/-- The store **holds nothing of a server**: no record, no announcement, no count, no roster and
nobody's location. -/
structure Absent (s : Store) (id : String) : Prop where
  record : s.servers.get? id = none
  tracked : s.tracked.get? id = none
  count : s.counts.get? id = none
  roster : s.rosters.get? id = none
  located : ∀ uuid, s.location? uuid ≠ some id

/-- The operation brings nothing of a server into a store. -/
def Operation.Apart (id : String) : Operation → Prop
  | .register r | .heartbeat r => r.serverId ≠ id
  | .join p => p.serverId ≠ id
  | .unregister _ | .leave _ _ | .fetch _ | .expire _ | .close => True

instance (id : String) : (op : Operation) → Decidable (op.Apart id)
  | .register r | .heartbeat r => inferInstanceAs (Decidable (r.serverId ≠ id))
  | .join p => inferInstanceAs (Decidable (p.serverId ≠ id))
  | .unregister _ | .leave _ _ | .fetch _ | .expire _ | .close => .isTrue trivial

/-- **Nothing is left of a server that is forgotten.**

**Proof sketch.** The four tables are cleared of the server one by one. Nobody is located there any
more, since everyone who was is on the roster that is given up. -/
theorem Located.absent_unregistered (h : s.Located) (id : String) :
    (s.unregistered id).Absent id where
  record := by
    show (s.servers.erase id).get? id = none
    rw [Index.get?_erase, if_pos rfl]
  tracked := by
    show (s.tracked.erase id).get? id = none
    rw [Index.get?_erase, if_pos rfl]
  count := by
    show (s.counts.erase id).get? id = none
    rw [Index.get?_erase, if_pos rfl]
  roster := by
    show (s.rosters.erase id).get? id = none
    rw [Index.get?_erase, if_pos rfl]
  located uuid := by
    show (s.expire id).location? uuid ≠ some id
    rw [h.location?_expire]
    split
    · exact nofun
    next hne => exact hne

section Absent

variable {id : String}

/-- To vacate a place brings nothing of a server. -/
theorem Absent.vacate (h : s.Absent id) (uuid : Uuid) (id' : String) :
    (s.vacate uuid id').Absent id := by
  unfold Store.vacate
  split
  · exact ⟨h.record, h.tracked, Index.get?_adjust_eq_none h.count _ _,
      Index.get?_adjust_eq_none h.roster _ _, h.located⟩
  · exact h

/-- To leave the old server brings nothing of a server. -/
theorem Absent.departed (h : s.Absent id) (p : PlayerRecord) : (s.departed p).Absent id := by
  unfold Store.departed
  cases (s.location? p.uuid).filter (· ≠ p.serverId) with
  | none => exact h
  | some current => exact h.vacate _ _

/-- A join to another server brings nothing of this one.

**Proof sketch.** To leave the old server brings nothing of another server about, and the join puts
everything under the new one. -/
theorem Absent.joined (h : s.Absent id) {p : PlayerRecord} (hp : p.serverId ≠ id) :
    (s.joined p).2.Absent id where
  record := (h.departed p).record
  tracked := (h.departed p).tracked
  count := by
    show (if ((s.departed p).roster p.serverId).contains p.uuid then (s.departed p).counts
      else (s.departed p).counts.insert p.serverId
        ((s.departed p).playerCount p.serverId + 1)).get? id = none
    split
    · exact (h.departed p).count
    · exact Index.get?_insert_eq_none (h.departed p).count hp _
  roster := Index.get?_insert_eq_none (h.departed p).roster hp _
  located uuid := by
    rw [location?_joined]
    split
    · exact fun heq => hp (Option.some.inj heq)
    · exact h.located uuid

/-- A leave brings nothing of a server.

**Proof sketch.** To take out a location and to vacate a place brings nothing about. -/
theorem Absent.left (h : s.Absent id) (uuid : Uuid) (id' : String) :
    (s.left uuid id').2.Absent id := by
  by_cases hat : s.location? uuid = some id'
  swap
  · rw [left_of_ne hat]
    exact h
  have herased : { s with locations := s.locations.erase uuid }.Absent id := by
    refine ⟨h.record, h.tracked, h.count, h.roster, fun uuid' => ?_⟩
    show (s.locations.erase uuid).get? uuid' ≠ some id
    rw [Index.get?_erase]
    split
    · exact nofun
    · exact h.located uuid'
  have hvacated := herased.vacate uuid id'
  rw [left_of_eq hat]
  exact ⟨hvacated.record, hvacated.tracked, hvacated.count, hvacated.roster, hvacated.located⟩

/-- To forget a server brings nothing of another one. -/
theorem Absent.expire (h : s.Absent id) (id' : String) : (s.expire id').Absent id where
  record := Index.get?_erase_eq_none h.record _
  tracked := h.tracked
  count := Index.get?_erase_eq_none h.count _
  roster := Index.get?_erase_eq_none h.roster _
  located uuid := by
    rw [Store.location?_expire]
    exact fun hat => h.located uuid (Option.eq_some_of_filter_eq_some hat)

/-- Announcing the orphans brings nothing of a server. -/
theorem Absent.healed (h : s.Absent id) : s.healed.Absent id := by
  unfold Store.healed
  induction s.orphans generalizing s with
  | nil => exact h
  | cons orphan orphans ih =>
    exact ih ⟨h.record, Index.get?_erase_eq_none h.tracked _, h.count, h.roster, h.located⟩

/-- **Operations apart from a server bring nothing of it.**

**Proof sketch.** By cases on the operation: what is put in is put in under the id of another
server, and what is taken out was not there before. -/
theorem Absent.effect (h : s.Absent id) {op : Operation} (hop : op.Apart id) :
    (s.effect op).Absent id := by
  cases op with
  | register r =>
    exact ⟨Index.get?_insert_eq_none h.record hop _, Index.get?_insert_eq_none h.tracked hop _,
      Index.get?_insert_eq_none h.count hop _, h.roster, h.located⟩
  | heartbeat r =>
    exact ⟨Index.get?_insert_eq_none h.record hop _, Index.get?_insert_eq_none h.tracked hop _,
      h.count, h.roster, h.located⟩
  | join p => exact h.joined hop
  | leave uuid id' => exact h.left uuid id'
  | unregister id' =>
    have hgone := h.expire id'
    exact ⟨hgone.record, Index.get?_erase_eq_none h.tracked _, hgone.count, hgone.roster,
      hgone.located⟩
  | fetch now => exact h.healed
  | expire id' => exact h.expire id'
  | close => exact ⟨h.record, h.tracked, h.count, h.roster, h.located⟩

/-- A run of operations apart from a server brings nothing of it. -/
theorem Absent.run (h : s.Absent id) {ops : List Operation} (hops : ∀ op ∈ ops, op.Apart id) :
    (s.run ops).Absent id :=
  run_of_effect (P := (·.Absent id)) (fun _ _ hop h => h.effect hop) h hops

end Absent

end FleetStatus.Store
