import FleetStatus.Proofs.Presence.Coherence
import FleetStatus.Proofs.Presence.History
import FleetStatus.Proofs.Presence.Stay

set_option relaxedAutoImplicit false
set_option autoImplicit false

/-!
# The store between orderly operations

When heartbeats and joins come from registered servers only and no records run out, the announced
servers are the ones with a record and every player is on one of them. Then a full read finds
nothing to announce, and the log says all there is to know: the events that a run appends, taken in
order, turn the stays and the servers before the run into those after it.

## Main definitions

* `FleetStatus.Store.stay?` — the stay of a player.
* `FleetStatus.Store.Settled` — what holds between orderly operations.
* `FleetStatus.Store.ToldBy` — a history tells what the store holds.

## Main results

* `FleetStatus.Store.Settled.run` — every orderly run keeps the store settled.
* `FleetStatus.Store.Settled.fetch` — a full read changes nothing.
* `FleetStatus.Store.Settled.stay?_run`, `FleetStatus.Store.Settled.contains_servers_run` — the
  history of a run tells what the run did.
-/

namespace FleetStatus.Store

/-- The stay of a player, by the location and the roster there. -/
def stay? (s : Store) (uuid : Uuid) : Option Stay :=
  (s.location? uuid).bind fun id => ((s.roster id).get? uuid).map (·.stay)

/-- A player is located on the server of the stay. -/
theorem Coherent.location?_eq_map_stay? {s : Store} (h : s.Coherent) (uuid : Uuid) :
    s.location? uuid = (s.stay? uuid).map (·.serverId) := by
  unfold stay?
  cases hat : s.location? uuid with
  | none => rfl
  | some id =>
    obtain ⟨p, hp⟩ := Option.isSome_iff_exists.1 ((h.located uuid id).1 hat)
    simp [hp, PlayerRecord.stay, (h.owned id uuid p hp).2]

/-- What holds **between orderly operations**. -/
structure Settled (s : Store) : Prop where
  isOpen : s.closed = false
  coherent : s.Coherent
  /-- The announced servers are the ones with a record. -/
  announced : ∀ id, s.tracked.contains id = s.servers.contains id
  /-- Players are on servers with a record. -/
  registered : ∀ uuid id, s.location? uuid = some id → s.servers.contains id
  /-- A record stands under its own id. -/
  named : ∀ id r, s.servers.get? id = some r → r.serverId = id

namespace Settled

variable {s : Store}

/-! ## Full reads -/

/-- A settled store has announced no server without a record. -/
theorem orphans (h : s.Settled) : s.orphans = [] := by
  refine List.filter_eq_nil_iff.2 fun id hid => ?_
  rw [Index.mem_keys_iff, h.announced] at hid
  simp [hid]

/-- A settled store has nothing to announce. -/
theorem healed (h : s.Settled) : s.healed = s := by
  rw [Store.healed, h.orphans, List.foldl_nil]

/-- **A full read changes nothing.** -/
theorem fetch (h : s.Settled) (now : Int64) : s.fetch now = .ok (s.view now, s) := by
  simp [Store.fetch, whenOpen, h.isOpen, h.healed]

/-! ## Each operation -/

/-- What has the servers and the announced ids of a settled store and no other locations is settled.
-/
theorem congr {t : Store} (h : s.Settled) (hclosed : t.closed = s.closed)
    (hservers : t.servers = s.servers) (htracked : t.tracked = s.tracked) (hcoherent : t.Coherent)
    (hlocation : ∀ uuid id, t.location? uuid = some id → s.servers.contains id) : t.Settled where
  isOpen := hclosed.trans h.isOpen
  coherent := hcoherent
  announced id := by rw [htracked, hservers, h.announced]
  registered uuid id hat := hservers ▸ hlocation uuid id hat
  named id r := hservers ▸ h.named id r

/-- The record of a server is put in and the server announced. -/
theorem inserted {t : Store} (h : s.Settled) (r : ServerRecord) (hclosed : t.closed = s.closed)
    (hservers : t.servers = s.servers.insert r.serverId r)
    (htracked : t.tracked = s.tracked.insert r.serverId ()) (hcoherent : t.Coherent)
    (hlocation : ∀ uuid, t.location? uuid = s.location? uuid) : t.Settled where
  isOpen := hclosed.trans h.isOpen
  coherent := hcoherent
  announced id := by
    rw [htracked, hservers, Index.contains_insert, Index.contains_insert, h.announced]
  registered uuid id hat := by
    rw [hlocation] at hat
    rw [hservers, Index.contains_insert, h.registered uuid id hat, Bool.or_true]
  named id q hq := by
    rw [hservers, Index.get?_insert] at hq
    split at hq
    next hid => exact (Option.some.inj hq) ▸ hid.symm
    next => exact h.named id q hq

/-- A store stays settled when a server leaves.

**Proof sketch.** Record, announced id and the locations on the server go together, so what is left
is announced, registered and named as before. -/
theorem unregistered (h : s.Settled) (id : String) : (s.unregistered id).Settled where
  isOpen := h.isOpen
  coherent := (h.coherent.expire id).congr (fun _ => rfl) (fun _ => rfl) (fun _ => rfl)
  announced id' := by
    show (s.tracked.erase id).contains id' = (s.servers.erase id).contains id'
    rw [Index.contains_erase, Index.contains_erase, h.announced]
  registered uuid id' hat := by
    change (s.expire id).location? uuid = some id' at hat
    show (s.servers.erase id).contains id'
    rw [h.coherent.located.location?_expire] at hat
    split at hat
    next => exact absurd hat nofun
    next hne =>
      have hid : id' ≠ id := fun heq => hne (heq ▸ hat)
      rw [Index.contains_erase, h.registered uuid id' hat]
      simpa using hid
  named id' r hr := by
    change (s.servers.erase id).get? id' = some r at hr
    rw [Index.get?_erase] at hr
    split at hr
    next => exact absurd hr nofun
    next => exact h.named id' r hr

/-- **Each orderly operation keeps the store settled.**

**Proof sketch.** By cases on the operation. A join is orderly on a registered server only, so the
new location is on one; expiring is not orderly, and without orphans a full read changes nothing. -/
theorem effect (h : s.Settled) {op : Operation} (hop : op.Orderly s)
    (hbefore : s.locations.size < UInt32.size)
    (hafter : (s.effect op).locations.size < UInt32.size) : (s.effect op).Settled := by
  have hcoherent := h.coherent.effect op hbefore hafter
  cases op with
  | register r => exact h.inserted r rfl rfl rfl hcoherent fun _ => rfl
  | unregister id => exact h.unregistered id
  | heartbeat r => exact h.inserted r rfl rfl rfl hcoherent fun _ => rfl
  | join p =>
    refine h.congr (s.closed_joined p) (s.servers_joined p) (s.tracked_joined p) hcoherent
      fun uuid id hat => ?_
    change (s.joined p).2.location? uuid = some id at hat
    rw [location?_joined] at hat
    split at hat
    next => exact Option.some.inj hat ▸ hop
    next => exact h.registered uuid id hat
  | leave uuid id =>
    refine h.congr (s.closed_left uuid id) (s.servers_left uuid id) (s.tracked_left uuid id)
      hcoherent fun uuid' id' hat => ?_
    change (s.left uuid id).2.location? uuid' = some id' at hat
    rw [location?_left] at hat
    split at hat
    next => exact absurd hat nofun
    next => exact h.registered uuid' id' hat
  | fetch now =>
    show s.healed.Settled
    rwa [h.healed]
  | expire id => exact hop.elim
  | close => exact hop.elim

/-! ## What the log says -/

/-- **The announced events tell how stays change.**

**Proof sketch.** By cases on the operation. A server that leaves ends the stays there; a join sets
the stay of the player it is about, and a leave ends it where the location is the server that is
named, as the event says. -/
theorem stay?_effect (h : s.Settled) {op : Operation} (hop : op.Orderly s) (uuid : Uuid) :
    (s.effect op).stay? uuid = (s.announced op).foldl (Event.stayAfter uuid) (s.stay? uuid) := by
  cases op with
  | register r => rfl
  | unregister id =>
    show (s.unregistered id).stay? uuid = (s.stay? uuid).filter (·.serverId ≠ id)
    rw [Event.filter_serverId_ne, ← h.coherent.location?_eq_map_stay?]
    show ((s.expire id).location? uuid).bind
      (fun id' => (((s.expire id).roster id').get? uuid).map (·.stay)) = _
    rw [h.coherent.located.location?_expire]
    split
    next => rfl
    next hne =>
      unfold stay?
      -- the rosters of the other servers are the same
      refine Option.bind_congr fun id' hat => ?_
      have hid : id' ≠ id := fun heq => hne (heq ▸ hat)
      rw [roster_expire, if_neg hid]
  | heartbeat r => rfl
  | join p =>
    show (s.joined p).2.stay? uuid = if p.uuid = uuid then some p.stay else s.stay? uuid
    unfold stay?
    rw [location?_joined]
    by_cases huuid : uuid = p.uuid
    · subst huuid
      simp [get?_roster_joined]
    · simp [huuid, Ne.symm huuid, get?_roster_joined]
  | leave uuid' id =>
    show (s.left uuid' id).2.stay? uuid = _
    by_cases hat : s.location? uuid' = some id
    · rw [Store.announced, if_pos hat]
      show _ = if uuid' = uuid then (s.stay? uuid).filter (·.serverId ≠ id) else s.stay? uuid
      rw [Event.filter_serverId_ne, ← h.coherent.location?_eq_map_stay?]
      unfold stay?
      rw [location?_left]
      by_cases huuid : uuid = uuid'
      · subst huuid
        simp [hat]
      · simp [huuid, Ne.symm huuid, get?_roster_left]
    · rw [left_of_ne hat, Store.announced, if_neg hat]
      rfl
  | fetch now =>
    show s.healed.stay? uuid = _
    rw [h.healed, Store.announced, h.orphans]
    rfl
  | expire id => exact hop.elim
  | close => exact hop.elim

/-- **The announced events tell how the servers change.**

**Proof sketch.** By cases on the operation. A server registers or leaves, and the announced event
says so. An orderly heartbeat comes from a registered server, so it adds none to the fleet. -/
theorem contains_servers_effect (h : s.Settled) {op : Operation} (hop : op.Orderly s)
    (id : String) : (s.effect op).servers.contains id =
      (s.announced op).foldl (Event.listedAfter id) (s.servers.contains id) := by
  cases op with
  | register r =>
    show (s.servers.insert r.serverId r).contains id =
      (r.serverId = id || s.servers.contains id)
    rw [Index.contains_insert, decide_eq_decide.2 (eq_comm (a := id))]
  | unregister id' =>
    show (s.servers.erase id').contains id = (id' ≠ id && s.servers.contains id)
    rw [Index.contains_erase, decide_eq_decide.2 (ne_comm (a := id))]
  | heartbeat r =>
    show (s.servers.insert r.serverId r).contains id = s.servers.contains id
    rw [Index.contains_insert]
    by_cases hid : id = r.serverId
    · subst hid
      simp [show s.servers.contains r.serverId from hop]
    · simp [hid]
  | join p => exact congrArg (·.contains id) (s.servers_joined p)
  | leave uuid id' =>
    show (s.left uuid id').2.servers.contains id = _
    rw [servers_left, Store.announced]
    split <;> rfl
  | fetch now =>
    show s.healed.servers.contains id = _
    rw [h.healed, Store.announced, h.orphans]
    rfl
  | expire id => exact hop.elim
  | close => exact hop.elim

/-! ## Runs -/

/-- A settled store is open, so the entries of an operation are what it announces. -/
theorem entriesOf (h : s.Settled) (op : Operation) : s.entriesOf op = s.announced op :=
  if_neg (Bool.eq_false_iff.1 h.isOpen)

/-- Each orderly operation keeps the store settled, as long as the counts fit. -/
theorem perform (h : s.Settled) {op : Operation} {ops : List Operation} (hop : op.Orderly s)
    (hfit : s.CountsFit (op :: ops)) : (s.perform op).Settled := by
  have hbefore : s.locations.size < UInt32.size := hfit [] List.nil_prefix
  have hafter : (s.perform op).locations.size < UInt32.size := hfit.tail [] List.nil_prefix
  rw [perform_of_open h.isOpen] at hafter ⊢
  exact h.effect hop hbefore hafter

/-- **An orderly run keeps the store settled.**

**Proof sketch.** By induction on the operations. -/
theorem run (h : s.Settled) {ops : List Operation} (horderly : s.OrderlyRun ops)
    (hfit : s.CountsFit ops) : (s.run ops).Settled := by
  induction ops generalizing s with
  | nil => exact h
  | cons op ops ih => exact ih (h.perform horderly.1 hfit) horderly.2 hfit.tail

/-- **The history of an orderly run tells how it changed the stay of a player.**

**Proof sketch.** By induction on the operations, each of which changes the stay as its events do.
-/
theorem stay?_run (h : s.Settled) {ops : List Operation} (horderly : s.OrderlyRun ops)
    (hfit : s.CountsFit ops) (uuid : Uuid) :
    (s.run ops).stay? uuid = (s.history ops).foldl (Event.stayAfter uuid) (s.stay? uuid) := by
  induction ops generalizing s with
  | nil => rfl
  | cons op ops ih =>
    rw [run_cons, ih (h.perform horderly.1 hfit) horderly.2 hfit.tail, history, List.foldl_append,
      perform_of_open h.isOpen, h.stay?_effect horderly.1, h.entriesOf]

/-- **The history of an orderly run tells how it changed the servers of the fleet.** -/
theorem contains_servers_run (h : s.Settled) {ops : List Operation} (horderly : s.OrderlyRun ops)
    (hfit : s.CountsFit ops) (id : String) : (s.run ops).servers.contains id =
      (s.history ops).foldl (Event.listedAfter id) (s.servers.contains id) := by
  induction ops generalizing s with
  | nil => rfl
  | cons op ops ih =>
    rw [run_cons, ih (h.perform horderly.1 hfit) horderly.2 hfit.tail, history, List.foldl_append,
      perform_of_open h.isOpen, h.contains_servers_effect horderly.1, h.entriesOf]

/-! ## Servers that stay registered -/

/-- A server stays registered unless it leaves.

**Proof sketch.** The announced events tell how the servers change, and only a server that leaves is
announced as gone. -/
theorem contains_servers_perform (h : s.Settled) {op : Operation} (hop : op.Orderly s)
    {id : String} (hid : op ≠ .unregister id)
    (hin : s.servers.contains id = true) : (s.perform op).servers.contains id = true := by
  rw [perform_of_open h.isOpen, h.contains_servers_effect hop, hin]
  cases op with
  | unregister id' =>
    have hne : id' ≠ id := fun heq => hid (heq ▸ rfl)
    simp [Store.announced, Event.listedAfter, hne]
  | leave uuid id' =>
    rw [Store.announced]
    split <;> rfl
  | fetch now =>
    rw [Store.announced, h.orphans]
    rfl
  | register r => simp [Store.announced, Event.listedAfter]
  | heartbeat r => rfl
  | join p => rfl
  | expire id' => rfl
  | close => rfl

/-- A server stays registered in a run in which it does not leave. -/
theorem contains_servers_of_run (h : s.Settled) {ops : List Operation}
    (horderly : s.OrderlyRun ops) (hfit : s.CountsFit ops) {id : String}
    (hid : .unregister id ∉ ops) (hin : s.servers.contains id = true) :
    (s.run ops).servers.contains id = true := by
  induction ops generalizing s with
  | nil => exact hin
  | cons op ops ih =>
    obtain ⟨hne, hid⟩ := List.ne_and_not_mem_of_not_mem_cons hid
    exact ih (h.perform horderly.1 hfit) horderly.2 hfit.tail hid
      (h.contains_servers_perform horderly.1 (Ne.symm hne) hin)

/-- A store stays settled when a server publishes its record. -/
theorem registered_of_countsFit (h : s.Settled) {r : ServerRecord} {ops : List Operation}
    (hfit : s.CountsFit (.register r :: ops)) : (s.registered r).Settled := by
  have hperform : s.perform (.register r) = s.registered r := perform_of_open h.isOpen _
  rw [← hperform]
  exact h.perform trivial hfit

end Settled

/-- An empty store is settled. -/
theorem settled_withCapacity (capacity : Nat) : (withCapacity capacity).Settled where
  isOpen := rfl
  coherent := coherent_withCapacity capacity
  announced _ := rfl
  registered _ _ := nofun
  named _ _ := nofun

/-! ## The history of a store from its beginning -/

/-- The store is settled and what its log and records tell is **told by a history**, from the empty
store on. -/
structure ToldBy (s : Store) (events : List Event) : Prop where
  settled : s.Settled
  history : s.HasHistory events
  place : ∀ uuid, s.location? uuid = events.foldl (Event.placeAfter uuid) none
  listed : ∀ id, s.servers.contains id = events.foldl (Event.listedAfter id) false

/-- An empty store is told by no events. -/
theorem toldBy_withCapacity (capacity : Nat) : (withCapacity capacity).ToldBy [] where
  settled := settled_withCapacity capacity
  history := hasHistory_withCapacity capacity
  place _ := rfl
  listed _ := rfl

/-- **The history of an orderly run tells how it moved a player.** -/
theorem Settled.location?_run {s : Store} (h : s.Settled) {ops : List Operation}
    (horderly : s.OrderlyRun ops) (hfit : s.CountsFit ops) (uuid : Uuid) :
    (s.run ops).location? uuid =
      (s.history ops).foldl (Event.placeAfter uuid) (s.location? uuid) := by
  rw [(h.run horderly hfit).coherent.location?_eq_map_stay?, h.coherent.location?_eq_map_stay?,
    Event.foldl_placeAfter_map_serverId, h.stay?_run horderly hfit]

/-- **An orderly run goes on with the history of the store.** -/
theorem ToldBy.run {s : Store} {events : List Event} (h : s.ToldBy events) {ops : List Operation}
    (horderly : s.OrderlyRun ops) (hfit : s.CountsFit ops) :
    (s.run ops).ToldBy (events ++ s.history ops) where
  settled := h.settled.run horderly hfit
  history := h.history.run ops
  place uuid := by rw [h.settled.location?_run horderly hfit, h.place, List.foldl_append]
  listed id := by rw [h.settled.contains_servers_run horderly hfit, h.listed, List.foldl_append]

/-- The newest events lead from where a player is to the same place.

**Proof sketch.** Where the player is comes from all events in order, so to go on from there with
the newest of them is to play these twice, which settles the place as playing them once does. -/
theorem ToldBy.foldl_placeAfter_drop {s : Store} {events : List Event} (h : s.ToldBy events)
    (k : Nat) (uuid : Uuid) :
    (events.drop k).foldl (Event.placeAfter uuid) (s.location? uuid) = s.location? uuid := by
  have hsplit : events.foldl (Event.placeAfter uuid) none = (events.drop k).foldl
      (Event.placeAfter uuid) ((events.take k).foldl (Event.placeAfter uuid) none) := by
    rw [← List.foldl_append, List.take_append_drop]
  rw [h.place, hsplit, Event.foldl_placeAfter_twice]

/-- The newest events lead from the servers of the fleet to the same ones.

**Proof sketch.** As for the places of players: the newest events are played twice. -/
theorem ToldBy.foldl_listedAfter_drop {s : Store} {events : List Event} (h : s.ToldBy events)
    (k : Nat) (id : String) : (events.drop k).foldl (Event.listedAfter id)
      (s.servers.contains id) = s.servers.contains id := by
  have hsplit : events.foldl (Event.listedAfter id) false = (events.drop k).foldl
      (Event.listedAfter id) ((events.take k).foldl (Event.listedAfter id) false) := by
    rw [← List.foldl_append, List.take_append_drop]
  rw [h.listed, hsplit, Event.foldl_listedAfter_twice]

end FleetStatus.Store
