import FleetStatus.Presence.Store
import FleetStatus.Proofs.Index

set_option relaxedAutoImplicit false
set_option autoImplicit false

/-!
# Runs of the presence store

The operations of a store as data, so that statements can be made about every order in which the
servers of a fleet use it.

An operation on a closed store fails and changes nothing; only forgetting a server that vanished,
which nobody asks the store for, still happens. On an open store every operation is one of the
total functions of `FleetStatus.Store`.

## Main definitions

* `FleetStatus.Store.Operation` — the operations.
* `FleetStatus.Store.perform`, `FleetStatus.Store.run` — one operation, and several in turn.
* `FleetStatus.Store.effect` — what an operation does to an open store.
* `FleetStatus.Store.Operation.Orderly`, `FleetStatus.Store.OrderlyRun` — heartbeats and joins come
  from registered servers only, and the store stays as it is otherwise.
* `FleetStatus.Store.CountsFit` — there are never more players than a count can tell.

## Main results

* `FleetStatus.Store.perform_of_open`, `FleetStatus.Store.perform_eq_self_or` — an operation is its
  effect, or nothing.
* `FleetStatus.Store.run_of_effect` — an invariant of effects is an invariant of runs.
* `FleetStatus.Store.joined_frame`, `FleetStatus.Store.left_frame`,
  `FleetStatus.Store.healed_frame` — what joins, leaves and announcing orphans leave alone.
* `FleetStatus.Store.countsFit_of_length_lt` — a run of fewer operations than a count can tell keeps
  its counts in range.
-/

namespace FleetStatus.Store

/-! ## Operations -/

/-- One **operation** on a shared store. -/
inductive Operation where
  | register (r : ServerRecord)
  | unregister (id : String)
  | heartbeat (r : ServerRecord)
  | join (p : PlayerRecord)
  | leave (uuid : Uuid) (id : String)
  | fetch (now : Int64)
  /-- The records of a server run out. -/
  | expire (id : String)
  | close
  deriving DecidableEq, Inhabited

/-- The store after an operation. One that fails changes nothing. -/
def perform (s : Store) : Operation → Store
  | .register r => (s.register r).toOption.getD s
  | .unregister id => (s.unregister id).toOption.getD s
  | .heartbeat r => (s.heartbeat r).toOption.getD s
  | .join p => ((s.join p).map (·.2)).toOption.getD s
  | .leave uuid id => ((s.leave uuid id).map (·.2)).toOption.getD s
  | .fetch now => ((s.fetch now).map (·.2)).toOption.getD s
  | .expire id => s.expire id
  | .close => s.close

/-- The store after several operations in turn. -/
def run (s : Store) (ops : List Operation) : Store := ops.foldl perform s

/-- To do nothing leaves the store as it is. -/
@[simp]
theorem run_nil (s : Store) : s.run [] = s := rfl

/-- A run does its first operation and then the others. -/
@[simp]
theorem run_cons (s : Store) (op : Operation) (ops : List Operation) :
    s.run (op :: ops) = (s.perform op).run ops := rfl

/-- A run in two parts is a run of the one after the other. -/
theorem run_append (s : Store) (ops ops' : List Operation) :
    s.run (ops ++ ops') = (s.run ops).run ops' := List.foldl_append

/-- What an operation does to an open store. -/
def effect (s : Store) : Operation → Store
  | .register r => s.registered r
  | .unregister id => s.unregistered id
  | .heartbeat r => s.refreshed r
  | .join p => (s.joined p).2
  | .leave uuid id => (s.left uuid id).2
  | .fetch _ => s.healed
  | .expire id => s.expire id
  | .close => s.close

/-- What is done with an open store is done. -/
theorem whenOpen_of_open {α : Type} {s : Store} (h : s.closed = false) (f : Store → α) :
    s.whenOpen f = .ok (f s) := by
  rw [whenOpen, h, if_neg Bool.false_ne_true]

/-- **On an open store an operation has its effect.** -/
theorem perform_of_open {s : Store} (h : s.closed = false) (op : Operation) :
    s.perform op = s.effect op := by
  cases op <;> simp [perform, effect, register, unregister, heartbeat, join, leave, fetch,
    whenOpen_of_open h, Except.map, Except.toOption]

/-- On a closed store only expiring and closing do anything. -/
theorem perform_of_closed {s : Store} (h : s.closed = true) (op : Operation)
    (hexpire : ∀ id, op ≠ .expire id) (hclose : op ≠ .close) : s.perform op = s := by
  cases op with
  | expire id => exact absurd rfl (hexpire id)
  | close => exact absurd rfl hclose
  | _ => simp [perform, register, unregister, heartbeat, join, leave, fetch, whenOpen, h,
      Except.map, Except.toOption]

/-- A closed store stays as it is when it is only used. -/
theorem run_of_closed {s : Store} (h : s.closed = true) {ops : List Operation}
    (hops : ∀ op ∈ ops, (∀ id, op ≠ .expire id) ∧ op ≠ .close) : s.run ops = s := by
  induction ops with
  | nil => rfl
  | cons op ops ih =>
    obtain ⟨hexpire, hclose⟩ := hops op List.mem_cons_self
    rw [run_cons, perform_of_closed h op hexpire hclose]
    exact ih fun op' hop' => hops op' (List.mem_cons_of_mem op hop')

/-- An operation has its effect or changes nothing, the latter on a closed store only. -/
theorem perform_eq_self_or (s : Store) (op : Operation) :
    s.perform op = s.effect op ∨ (s.closed = true ∧ s.perform op = s) := by
  cases h : s.closed with
  | false => exact .inl (perform_of_open h op)
  | true =>
    cases op with
    | expire id => exact .inl rfl
    | close => exact .inl rfl
    | _ => exact .inr ⟨rfl, perform_of_closed h _ nofun nofun⟩

/-! ## Invariants -/

/-- What the effect of an operation keeps is kept by the operation, on a closed store as well. -/
theorem perform_of_effect {P : Store → Prop} {s : Store} {op : Operation} (h : P s)
    (heffect : P (s.effect op)) : P (s.perform op) := by
  obtain heq | ⟨-, heq⟩ := s.perform_eq_self_or op
  · rwa [heq]
  · rwa [heq]

/-- **What is kept by the effects of operations of a kind is kept by their runs.**

**Proof sketch.** By induction on the operations. On an open store an operation has its effect; on a
closed one it has its effect or changes nothing. -/
theorem run_of_effect {P : Store → Prop} {kind : Operation → Prop}
    (hstep : ∀ (s : Store) (op : Operation), kind op → P s → P (s.effect op)) {s : Store} (h : P s)
    {ops : List Operation} (hops : ∀ op ∈ ops, kind op) : P (s.run ops) := by
  induction ops generalizing s with
  | nil => exact h
  | cons op ops ih =>
    rw [List.forall_mem_cons] at hops
    exact ih (perform_of_effect h (hstep s op hops.1 h)) hops.2

/-! ## What an operation leaves alone -/

section Append

variable (s : Store) (e : Event)

/-- An entry of the log changes no record of a server. -/
@[simp] theorem servers_append : (s.append e).servers = s.servers := rfl

/-- An entry of the log changes no location. -/
@[simp] theorem locations_append : (s.append e).locations = s.locations := rfl

/-- An entry of the log changes no roster. -/
@[simp] theorem roster_append (id : String) : (s.append e).roster id = s.roster id := rfl

/-- An entry of the log changes no count. -/
@[simp] theorem playerCount_append (id : String) :
    (s.append e).playerCount id = s.playerCount id := rfl

/-- An entry of the log moves no player. -/
@[simp] theorem location?_append (uuid : Uuid) :
    (s.append e).location? uuid = s.location? uuid := rfl

end Append

/-- Announcing that orphaned servers are gone changes nothing that neither the log nor the announced
ids have a part in.

**Proof sketch.** By induction on the orphaned ids, of which each is taken off the announced ids and
gets one entry in the log. -/
theorem healed_frame {β : Type} (f : Store → β)
    (hf : ∀ (s : Store) (id : String),
      f ({ s with tracked := s.tracked.erase id }.append (.serverOffline id (some "expired"))) = f s)
    (s : Store) : f s.healed = f s := by
  unfold healed
  induction s.orphans generalizing s with
  | nil => rfl
  | cons id ids ih => rw [List.foldl_cons, ih, hf]

section Healed

variable (s : Store)

/-- Announcing that orphaned servers are gone changes no record of a server. -/
@[simp] theorem servers_healed : s.healed.servers = s.servers :=
  healed_frame (·.servers) (fun _ _ => rfl) s

/-- Announcing that orphaned servers are gone changes no location. -/
@[simp] theorem locations_healed : s.healed.locations = s.locations :=
  healed_frame (·.locations) (fun _ _ => rfl) s

/-- Announcing that orphaned servers are gone closes no store. -/
@[simp] theorem closed_healed : s.healed.closed = s.closed :=
  healed_frame (·.closed) (fun _ _ => rfl) s

/-- Announcing that orphaned servers are gone changes no roster. -/
@[simp] theorem roster_healed (id : String) : s.healed.roster id = s.roster id :=
  healed_frame (·.roster id) (fun _ _ => rfl) s

/-- Announcing that orphaned servers are gone changes no count. -/
@[simp] theorem playerCount_healed (id : String) : s.healed.playerCount id = s.playerCount id :=
  healed_frame (·.playerCount id) (fun _ _ => rfl) s

/-- Announcing that orphaned servers are gone moves no player. -/
@[simp] theorem location?_healed (uuid : Uuid) : s.healed.location? uuid = s.location? uuid :=
  healed_frame (·.location? uuid) (fun _ _ => rfl) s

end Healed

/-- To vacate a place changes nothing that neither rosters nor counts have a part in. -/
theorem vacate_frame {β : Type} (f : Store → β)
    (hf : ∀ (s : Store) (rosters : Index String (Index Uuid PlayerRecord))
      (counts : Index String UInt32), f { s with rosters, counts } = f s)
    (s : Store) (uuid : Uuid) (id : String) : f (s.vacate uuid id) = f s := by
  unfold vacate
  split
  · exact hf s _ _
  · rfl

/-- The same for the place that a player had before, if any. -/
theorem elim_vacate_frame {β : Type} (f : Store → β)
    (hf : ∀ (s : Store) (rosters : Index String (Index Uuid PlayerRecord))
      (counts : Index String UInt32), f { s with rosters, counts } = f s)
    (s : Store) (uuid : Uuid) (previous : Option String) :
    f (previous.elim s (s.vacate uuid)) = f s := by
  cases previous with
  | none => rfl
  | some id => exact vacate_frame f hf s uuid id

section Players

variable {β : Type} (f : Store → β)
  (hf : ∀ (s : Store) (locations : Index Uuid String)
    (rosters : Index String (Index Uuid PlayerRecord)) (counts : Index String UInt32)
    (lastEntry : Nat) (log : List (Nat × Event)),
    f { s with locations, rosters, counts, lastEntry, log } = f s)
  (s : Store)

include hf

/-- A join changes nothing that neither players nor the log have a part in. -/
theorem joined_frame (p : PlayerRecord) : f (s.joined p).2 = f s := by
  refine (hf ((s.location? p.uuid).filter (· ≠ p.serverId) |>.elim s (s.vacate p.uuid))
    _ _ _ _ _).trans ?_
  exact elim_vacate_frame f (fun s rosters counts =>
    hf s s.locations rosters counts s.lastEntry s.log) s _ _

/-- A leave changes nothing that neither players nor the log have a part in. -/
theorem left_frame (uuid : Uuid) (id : String) : f (s.left uuid id).2 = f s := by
  unfold left
  split
  · rfl
  · split
    · rfl
    · calc f (({ s with locations := s.locations.erase uuid }.vacate uuid id).append
            (.playerLeave uuid id))
          = f ({ s with locations := s.locations.erase uuid }.vacate uuid id) := hf _ _ _ _ _ _
        _ = f { s with locations := s.locations.erase uuid } :=
            vacate_frame f (fun s rosters counts =>
              hf s s.locations rosters counts s.lastEntry s.log) _ _ _
        _ = f s := hf s _ _ _ _ _

end Players

section Frames

variable (s : Store) (p : PlayerRecord) (uuid : Uuid) (id : String)

/-- A join opens and closes no store. -/
@[simp] theorem closed_joined : (s.joined p).2.closed = s.closed :=
  joined_frame (·.closed) (fun _ _ _ _ _ _ => rfl) s p

/-- A join changes no record of a server. -/
@[simp] theorem servers_joined : (s.joined p).2.servers = s.servers :=
  joined_frame (·.servers) (fun _ _ _ _ _ _ => rfl) s p

/-- A join changes no announced id. -/
@[simp] theorem tracked_joined : (s.joined p).2.tracked = s.tracked :=
  joined_frame (·.tracked) (fun _ _ _ _ _ _ => rfl) s p

/-- A leave opens and closes no store. -/
@[simp] theorem closed_left : (s.left uuid id).2.closed = s.closed :=
  left_frame (·.closed) (fun _ _ _ _ _ _ => rfl) s uuid id

/-- A leave changes no record of a server. -/
@[simp] theorem servers_left : (s.left uuid id).2.servers = s.servers :=
  left_frame (·.servers) (fun _ _ _ _ _ _ => rfl) s uuid id

/-- A leave changes no announced id. -/
@[simp] theorem tracked_left : (s.left uuid id).2.tracked = s.tracked :=
  left_frame (·.tracked) (fun _ _ _ _ _ _ => rfl) s uuid id

end Frames

/-- No operation but closing opens or closes a store by its effect. -/
theorem closed_effect {s : Store} {op : Operation} (hop : op ≠ .close) :
    (s.effect op).closed = s.closed := by
  cases op with
  | join p => exact s.closed_joined p
  | leave uuid id => exact s.closed_left uuid id
  | fetch now => exact s.closed_healed
  | close => exact absurd rfl hop
  | register | unregister | heartbeat | expire => rfl

/-- **Only closing closes a store.** -/
theorem closed_perform {s : Store} {op : Operation} (hop : op ≠ .close) :
    (s.perform op).closed = s.closed :=
  perform_of_effect (P := fun t => t.closed = s.closed) rfl (closed_effect hop)

/-- A run that does not close the store leaves it open or closed as it was. -/
theorem closed_run {s : Store} {ops : List Operation} (hops : ∀ op ∈ ops, op ≠ .close) :
    (s.run ops).closed = s.closed :=
  run_of_effect (P := fun t => t.closed = s.closed) (fun _ _ hop h => (closed_effect hop).trans h)
    rfl hops

/-! ## Orderly runs -/

/-- What the servers of a fleet keep to: a heartbeat or a join names a server that is registered at
that moment, no records run out and the store stays open. -/
def Operation.Orderly (s : Store) : Operation → Prop
  | .heartbeat r => s.servers.contains r.serverId
  | .join p => s.servers.contains p.serverId
  | .expire _ | .close => False
  | .register _ | .unregister _ | .leave _ _ | .fetch _ => True

instance (s : Store) : (op : Operation) → Decidable (op.Orderly s)
  | .heartbeat r => inferInstanceAs (Decidable (s.servers.contains r.serverId = true))
  | .join p => inferInstanceAs (Decidable (s.servers.contains p.serverId = true))
  | .expire _ | .close => .isFalse id
  | .register _ | .unregister _ | .leave _ _ | .fetch _ => .isTrue trivial

/-- Every operation of the run is orderly when its turn comes. -/
def OrderlyRun (s : Store) : List Operation → Prop
  | [] => True
  | op :: ops => op.Orderly s ∧ (s.perform op).OrderlyRun ops

instance decidableOrderlyRun (s : Store) : (ops : List Operation) → Decidable (s.OrderlyRun ops)
  | [] => .isTrue trivial
  | op :: ops =>
    have := decidableOrderlyRun (s.perform op) ops
    inferInstanceAs (Decidable (op.Orderly s ∧ (s.perform op).OrderlyRun ops))

/-- A run in two parts is orderly when each part is, the second one from where the first one leads.
-/
theorem orderlyRun_append {s : Store} {ops ops' : List Operation} :
    s.OrderlyRun (ops ++ ops') ↔ s.OrderlyRun ops ∧ (s.run ops).OrderlyRun ops' := by
  induction ops generalizing s with
  | nil => simp [OrderlyRun]
  | cons op ops ih => simp [OrderlyRun, ih, and_assoc]

/-! ## Room for counts -/

/-- At no point of the run more players are recorded than a count can tell. -/
def CountsFit (s : Store) (ops : List Operation) : Prop :=
  ∀ before, before <+: ops → (s.run before).locations.size < UInt32.size

/-- Counts that fit in a run fit in its first part. -/
theorem CountsFit.of_append {s : Store} {ops ops' : List Operation} (h : s.CountsFit (ops ++ ops')) :
    s.CountsFit ops :=
  fun before hbefore => h before (hbefore.trans (List.prefix_append ops ops'))

/-- Counts that fit in a run fit in what follows its first operation. -/
theorem CountsFit.tail {s : Store} {op : Operation} {ops : List Operation}
    (h : s.CountsFit (op :: ops)) : (s.perform op).CountsFit ops := by
  intro before hbefore
  have := h (op :: before) (List.cons_prefix_cons.2 ⟨rfl, hbefore⟩)
  rwa [run_cons] at this

/-- Counts that fit in a run fit in its last part. -/
theorem CountsFit.append {s : Store} {ops ops' : List Operation} (h : s.CountsFit (ops ++ ops')) :
    (s.run ops).CountsFit ops' := by
  induction ops generalizing s with
  | nil => exact h
  | cons op ops ih => exact ih h.tail

/-- An operation places at most one more player.

**Proof sketch.** Only a join puts in a location, and it puts in one; what the others do to the
locations takes some out. -/
theorem size_locations_perform_le (s : Store) (op : Operation) :
    (s.perform op).locations.size ≤ s.locations.size + 1 := by
  obtain h | ⟨-, h⟩ := s.perform_eq_self_or op
  · rw [h]
    cases op with
    | register r => exact Nat.le_succ _
    | heartbeat r => exact Nat.le_succ _
    | close => exact Nat.le_succ _
    | unregister id => exact (Index.size_filter_le _ _).trans (Nat.le_succ _)
    | expire id => exact (Index.size_filter_le _ _).trans (Nat.le_succ _)
    | fetch => exact (congrArg Index.size s.locations_healed).le.trans (Nat.le_succ _)
    | join p =>
      refine (Index.size_insert_le _ _ _).trans ?_
      rw [elim_vacate_frame (·.locations) (fun _ _ _ => rfl)]
    | leave uuid id =>
      simp only [effect, left]
      split
      · exact Nat.le_succ _
      · split
        · exact Nat.le_succ _
        · rw [locations_append, vacate_frame (·.locations) fun _ _ _ => rfl]
          exact (Index.size_filter_le _ _).trans (Nat.le_succ _)
  · rw [h]
    exact Nat.le_succ _

/-- A run places at most one more player for each of its operations. -/
theorem size_locations_run_le (s : Store) (ops : List Operation) :
    (s.run ops).locations.size ≤ s.locations.size + ops.length := by
  induction ops generalizing s with
  | nil => exact Nat.le_refl _
  | cons op ops ih =>
    have hstep := s.size_locations_perform_le op
    have hrest := ih (s.perform op)
    rw [run_cons, List.length_cons]
    omega

/-- **Short runs keep counts in range**: a run of fewer operations than a count can tell, from a
store without players, never records too many players.

**Proof sketch.** The store starts without locations and each operation adds at most one, so after
any part of the run there are no more of them than operations. -/
theorem countsFit_of_length_lt (capacity : Nat) {ops : List Operation}
    (h : ops.length < UInt32.size) : (withCapacity capacity).CountsFit ops := by
  intro before hbefore
  have hle := (withCapacity capacity).size_locations_run_le before
  have hempty : (withCapacity capacity).locations.size = 0 := rfl
  have hlength := hbefore.length_le
  omega

end FleetStatus.Store
