import FleetStatus.Proofs.Fleet.Steps

set_option relaxedAutoImplicit false
set_option autoImplicit false

/-!
# Fleets use their store in an orderly way

Only a running node publishes its record or records a join, and a node runs only after its record is
in the store and until it leaves. No other node takes the record out, for the ids of the servers of
a fleet are distinct. So heartbeats and joins come from registered servers only, and the history of
the store tells what it holds.

## Main definitions

* `FleetStatus.Fleet.Fresh` — a fleet before its first step.
* `FleetStatus.Fleet.Sound` — what holds of it ever after.

## Main results

* `FleetStatus.Node.orderlyRun_operations` — a turn uses the store in an orderly way.
* `FleetStatus.Fleet.Sound.step`, `FleetStatus.Fleet.Sound.run` — every run keeps the fleet sound.
-/

namespace FleetStatus

open Store (Operation)

/-! ## One node -/

namespace Node

variable (n : Node) (now : Int64) (s : Store)

/-- A turn leaves the settings alone.

**Proof sketch.** By cases on the turn. A start, the only one that changes more than the queue and
the replica, replaces the phase. -/
theorem settings_turn (t : Turn) : (n.turn now s t).1.settings = n.member.settings := by
  by_cases ht : t = .start
  · subst ht
    obtain hsame | hfailed | ⟨_, _, _, -, hruns⟩ := n.member_turn_start_cases now s
    · rw [hsame]
    · rw [hfailed, Member.failed]
    · rw [hruns, Member.tell]
  cases hrunning : n.member.isRunning with
  | false => rw [turn_of_not_isRunning now s hrunning ht]
  | true =>
    cases t with
    | start => exact absurd rfl ht
    | join uuid name => rw [turn_join now s hrunning, Member.settings_withQueue]
    | part uuid => rw [turn_part now s hrunning, Member.settings_withQueue]
    | record => rw [turn_record now s hrunning, Member.settings_withQueue]
    | beat => rw [turn_beat now s hrunning]
    | tail => exact Member.settings_followOnce n.member now s
    | tick =>
      obtain ⟨replica, hreplica⟩ := n.exists_turn_tick now s
      rw [hreplica]
    | leave =>
      rw [turn]
      split <;> rfl

/-- A turn leaves the id of the server alone, as it is one of the settings. -/
theorem serverId_turn (t : Turn) : (n.turn now s t).1.serverId = n.member.serverId :=
  congrArg NetworkSettings.serverId (n.settings_turn now s t)

/-- A node that begins to run has nothing in its queue.

**Proof sketch.** By what the start makes of the member. A member that failed has no queue. -/
theorem turn_start_cases :
    (n.turn now s .start).1 = n.member ∨ (n.turn now s .start).1.queue = [] := by
  obtain hsame | hfailed | ⟨_, _, _, -, hruns⟩ := n.member_turn_start_cases now s
  · exact .inl hsame
  · right
    rw [hfailed]
    rfl
  · right
    rw [hruns]
    rfl

/-- A change that waits after a turn waited before, or the turn brought it.

**Proof sketch.** By cases on the turn. A start leaves the queue empty or as it was, a join or a
leave puts its change in at the end, recording takes one off the front, and the others leave the
queue alone. -/
theorem mem_queue_turn {t : Turn} {c : PlayerChange} (h : c ∈ (n.turn now s t).1.queue) :
    c ∈ n.member.queue ∨
      (∃ uuid name, c = .join (n.member.playerRecord n.report uuid name now)) ∨
      ∃ uuid, c = .leave uuid := by
  by_cases ht : t = .start
  · subst ht
    -- a start leaves the member as it is or begins with an empty queue
    rcases n.turn_start_cases now s with heq | hnone
    · exact .inl (heq ▸ h)
    · rw [hnone] at h
      cases h
  cases hrunning : n.member.isRunning with
  | false =>
    rw [turn_of_not_isRunning now s hrunning ht] at h
    exact .inl h
  | true =>
    cases t with
    | start => exact absurd rfl ht
    | join uuid name =>
      rw [turn_join now s hrunning, Member.queue_withQueue hrunning] at h
      rcases List.mem_append.1 h with h | h
      · exact .inl h
      · exact .inr (.inl ⟨uuid, name, List.mem_singleton.1 h⟩)
    | part uuid =>
      rw [turn_part now s hrunning, Member.queue_withQueue hrunning] at h
      rcases List.mem_append.1 h with h | h
      · exact .inl h
      · exact .inr (.inr ⟨uuid, List.mem_singleton.1 h⟩)
    | record =>
      rw [turn_record now s hrunning, Member.queue_withQueue hrunning] at h
      exact .inl (List.mem_of_mem_tail h)
    | beat =>
      rw [turn_beat now s hrunning] at h
      exact .inl h
    | tail =>
      refine .inl ?_
      rwa [turn, Member.queue_followOnce] at h
    | tick =>
      obtain ⟨replica, hreplica⟩ := n.exists_turn_tick now s
      rw [hreplica] at h
      exact .inl h
    | leave =>
      rw [turn] at h
      split at h
      · cases h
      · exact .inl h

/-- A node that leaves does not run any more.

**Proof sketch.** Of all turns only the one that leaves asks for this, and it ends with a stopped
member. -/
theorem isRunning_turn_of_mem_unregister {t : Turn} {id : String}
    (h : .unregister id ∈ n.operations now t) :
    id = n.member.serverId ∧ (n.turn now s t).1.isRunning = false := by
  cases t with
  | leave =>
    rw [operations] at h
    split at h
    next hleave =>
      rw [turn, if_pos hleave]
      exact ⟨Operation.unregister.inj (List.mem_singleton.1 h), rfl⟩
    next => cases h
  | start =>
    simp only [operations] at h
    split_ifs at h <;> simp at h
  | record =>
    obtain ⟨c, -, hc⟩ := List.mem_map.1 h
    cases c <;> cases hc
  | beat =>
    rw [operations] at h
    split at h <;> simp at h
  | tick =>
    rw [operations] at h
    split at h <;> simp at h
  | join uuid name => cases h
  | part uuid => cases h
  | tail => cases h

/-- **A turn uses the store in an orderly way** when a running node is registered and the joins in
its queue are its own.

**Proof sketch.** By cases on the turn. To register, to read and to send a heartbeat is orderly in
itself. A join that is recorded comes from the queue, so it is one of the node's own, and the server
of the node is registered while the node runs. -/
theorem orderlyRun_operations (hown : ∀ p, .join p ∈ n.member.queue → p.serverId = n.member.serverId)
    (hin : n.member.isRunning → s.servers.contains n.member.serverId) (t : Turn) :
    s.OrderlyRun (n.operations now t) := by
  cases t with
  | start =>
    simp only [operations]
    split_ifs
    · exact ⟨trivial, trivial, trivial⟩
    · exact ⟨trivial, trivial⟩
    · trivial
  | record =>
    rw [operations]
    cases hqueue : n.member.queue with
    | nil => trivial
    | cons c rest =>
      refine ⟨?_, trivial⟩
      cases c with
      | leave uuid => trivial
      | join p =>
        -- only a running member has a queue, and a running member is registered
        have hrunning : n.member.isRunning = true := by
          by_contra hnot
          rw [Member.queue_of_not_isRunning (Bool.eq_false_iff.2 hnot)] at hqueue
          cases hqueue
        show s.servers.contains p.serverId
        rw [hown p (hqueue ▸ List.mem_cons_self)]
        exact hin hrunning
  | beat =>
    rw [operations]
    split
    next hrunning => exact ⟨hin hrunning, trivial⟩
    next => trivial
  | tick =>
    rw [operations]
    split
    · exact ⟨trivial, trivial⟩
    · trivial
  | leave =>
    rw [operations]
    split
    · exact ⟨trivial, trivial⟩
    · trivial
  | join uuid name => trivial
  | part uuid => trivial
  | tail => trivial

/-- A node that runs after its turn ran before, or the turn published its record first. -/
theorem isRunning_of_turn {t : Turn} (h : (n.turn now s t).1.isRunning) : n.member.isRunning ∨
    ∃ ops, n.operations now t = .register (n.report.record n.member.serverId now) :: ops := by
  by_cases ht : t = .start
  · subst ht
    by_cases hidle : n.member.settings.enabled ∧ n.member.phase = .idle
    · rw [operations, if_pos hidle]
      exact .inr ⟨_, rfl⟩
    · rw [turn_start_of_refused n now s hidle] at h
      exact .inl h
  · left
    by_contra hnot
    rw [turn_of_not_isRunning now s (Bool.eq_false_iff.2 hnot) ht] at h
    exact hnot h

end Node

/-! ## The fleet -/

namespace Fleet

/-- A fleet of servers with distinct ids on an empty store, **before its first step**. -/
structure Fresh (f : Fleet) : Prop where
  empty : ∃ capacity, f.store = .withCapacity capacity
  idle : ∀ n ∈ f.nodes, n.member.phase = .idle
  distinct : (f.nodes.map (·.member.serverId)).Nodup

/-- What holds of a fleet at any time: its servers have distinct ids and queue joins of their own
players only; and as long as the store is open, its history tells what it holds and the servers that
run are registered. -/
structure Sound (f : Fleet) (events : List Event) : Prop where
  distinct : ∀ (i j : Nat) (n n' : Node), f.nodes[i]? = some n → f.nodes[j]? = some n' →
    n.member.serverId = n'.member.serverId → i = j
  own : ∀ (i : Nat) (n : Node), f.nodes[i]? = some n →
    ∀ p, .join p ∈ n.member.queue → p.serverId = n.member.serverId
  told : f.store.closed = false → f.store.ToldBy events
  registered : f.store.closed = false → ∀ (i : Nat) (n : Node), f.nodes[i]? = some n →
    n.member.isRunning → f.store.servers.contains n.member.serverId

variable {f : Fleet} {events : List Event}

/-- A fleet whose nodes were not started is sound, with nothing in the log.

**Proof sketch.** No member runs, so none has a queue and none is registered, and an empty store is
told by no events. -/
theorem Fresh.sound (h : f.Fresh) : f.Sound [] where
  distinct i j n n' hn hn' hid := by
    have hi : (f.nodes.map (·.member.serverId))[i]? = some n.member.serverId := by
      rw [List.getElem?_map, hn]
      rfl
    have hj : (f.nodes.map (·.member.serverId))[j]? = some n.member.serverId := by
      rw [List.getElem?_map, hn', hid]
      rfl
    exact (List.getElem?_inj (List.getElem?_eq_some_iff.1 hi).1 h.distinct).1 (hi.trans hj.symm)
  own i n hn p hp := by
    rw [Member.queue, Member.session?, h.idle n (List.mem_of_getElem? hn)] at hp
    cases hp
  told _ := by
    obtain ⟨capacity, hempty⟩ := h.empty
    exact hempty ▸ Store.toldBy_withCapacity capacity
  registered _ i n hn hrunning := by
    rw [Member.isRunning, h.idle n (List.mem_of_getElem? hn)] at hrunning
    cases hrunning

/-- The ids of the servers stay. -/
theorem serverId_of_step {st : Step} {j : Nat} {n n' : Node}
    (h : (∀ t, st ≠ .turn j t) ∧ n'.member = n.member ∨
      ∃ t, st = .turn j t ∧ n'.member = (n.turn f.now f.store t).1) :
    n'.member.serverId = n.member.serverId := by
  rcases h with ⟨-, h⟩ | ⟨t, -, h⟩
  · rw [h]
  · rw [h, Node.serverId_turn]

section Step

variable (h : f.Sound events) {st : Step}

include h

/-- **A step that leaves the store open uses it in an orderly way.** -/
theorem Sound.orderlyRun_asked (hopen : (f.step st).store.closed = false) :
    f.store.OrderlyRun (f.asked st) := by
  cases st with
  | clock now => trivial
  | host i host => trivial
  | close => exact absurd hopen nofun
  | turn i t =>
    have hbefore := isOpen_of_step hopen
    rw [asked]
    cases hi : f.nodes[i]? with
    | none => trivial
    | some n =>
      exact n.orderlyRun_operations f.now f.store (h.own i n hi)
        (h.registered hbefore i n hi) t

/-- A server that goes on running is not taken out of the store.

**Proof sketch.** The step would be a turn of a node with the same id, so of the same node, which
does not run after such a turn. -/
theorem Sound.unregister_not_mem_asked {j : Nat} {n n' : Node} (hn : f.nodes[j]? = some n)
    (hn' : (f.step st).nodes[j]? = some n') (hrunning : n'.member.isRunning) :
    .unregister n.member.serverId ∉ f.asked st := by
  intro hmem
  cases st with
  | clock now => cases hmem
  | host i host => cases hmem
  | close => cases List.mem_singleton.1 hmem
  | turn i t =>
    rw [asked] at hmem
    cases hi : f.nodes[i]? with
    | none =>
      rw [hi] at hmem
      cases hmem
    | some m =>
      rw [hi] at hmem
      obtain ⟨hid, hgone⟩ := m.isRunning_turn_of_mem_unregister f.now f.store hmem
      obtain rfl : j = i := h.distinct j i n m hn hi hid
      obtain rfl : n = m := Option.some.inj (hn.symm.trans hi)
      rw [getElem?_step_turn, hn, Option.map_some, if_pos rfl] at hn'
      obtain rfl := Option.some.inj hn'
      exact absurd (hgone.symm.trans hrunning) Bool.false_ne_true

/-- **A step keeps a fleet sound.**

**Proof sketch.** Ids and settings stay in every step. A change that waits in a queue waited before
or is the node's own by `Node.mem_queue_turn`. A node that runs is registered: either it was so
before, and nobody else takes its record out, or the turn published it first. -/
theorem Sound.step (hfit : f.store.CountsFit (f.asked st)) :
    (f.step st).Sound (events ++ f.store.history (f.asked st)) where
  distinct i j n n' hn hn' hid := by
    obtain ⟨m, hm, hcase⟩ := exists_of_getElem?_step hn
    obtain ⟨m', hm', hcase'⟩ := exists_of_getElem?_step hn'
    refine h.distinct i j m m' hm hm' ?_
    rw [← serverId_of_step hcase, ← serverId_of_step hcase', hid]
  own i n hn p hp := by
    obtain ⟨m, hm, hcase⟩ := exists_of_getElem?_step hn
    rw [serverId_of_step hcase]
    rcases hcase with ⟨-, hmember⟩ | ⟨t, -, hmember⟩
    · exact h.own i m hm p (hmember ▸ hp)
    · rw [hmember] at hp
      rcases m.mem_queue_turn f.now f.store hp with hp | ⟨uuid, name, hp⟩ | ⟨uuid, hp⟩
      · exact h.own i m hm p hp
      · rw [PlayerChange.join.inj hp, Member.playerRecord]
      · cases hp
  told hopen := by
    have hbefore := isOpen_of_step hopen
    rw [store_step]
    exact (h.told hbefore).run (h.orderlyRun_asked hopen) hfit
  registered hopen j n' hn' hrunning := by
    have hbefore := isOpen_of_step hopen
    have horderly := h.orderlyRun_asked hopen
    have hsettled := (h.told hbefore).settled
    obtain ⟨n, hn, hcase⟩ := exists_of_getElem?_step hn'
    have hstays := h.unregister_not_mem_asked hn hn' hrunning
    rw [serverId_of_step hcase, store_step]
    by_cases hin : f.store.servers.contains n.member.serverId = true
    · exact hsettled.contains_servers_of_run horderly hfit hstays hin
    -- the node did not run before, so this is its start
    rcases hcase with ⟨-, hmember⟩ | ⟨t, rfl, hmember⟩
    · exact absurd (h.registered hbefore j n hn (hmember ▸ hrunning)) hin
    · rcases n.isRunning_of_turn f.now f.store (hmember ▸ hrunning) with hran | ⟨ops, hops⟩
      · exact absurd (h.registered hbefore j n hn hran) hin
      · have hasked : f.asked (.turn j t) =
            .register (n.report.record n.member.serverId f.now) :: ops := by
          rw [asked, hn, Option.elim_some, hops]
        rw [hasked] at horderly hfit hstays ⊢
        refine (hsettled.perform horderly.1 hfit).contains_servers_of_run horderly.2 hfit.tail
          (List.not_mem_of_not_mem_cons hstays) ?_
        rw [Store.perform_of_open hbefore]
        show (f.store.servers.insert _ _).contains _ = true
        rw [Index.contains_insert]
        simp [HostReport.record]

/-- **A run keeps a fleet sound.**

**Proof sketch.** By induction on the steps, with `Sound.step` for each of them. -/
theorem Sound.run {steps : List Step} (hfit : f.store.CountsFit (f.operations steps)) :
    (f.run steps).Sound (events ++ f.store.history (f.operations steps)) := by
  induction steps generalizing f events with
  | nil => exact (List.append_nil events).symm ▸ h
  | cons st steps ih =>
    rw [operations] at hfit ⊢
    have hrest := hfit.append
    rw [← store_step] at hrest
    rw [Store.history_append, ← List.append_assoc, ← store_step]
    exact ih (h.step hfit.of_append) hrest

end Step

end Fleet

end FleetStatus
