import FleetStatus.Fleet
import FleetStatus.Proofs.Member.Queue

set_option relaxedAutoImplicit false
set_option autoImplicit false

/-!
# Fleets step by step

The nodes of a fleet act on their store in turns, in any order: a node starts, takes a change of its
players in its queue, records the change at the front of it, publishes its record, reads the log
once, reads the whole store again, or leaves. In between the wall clock is set, servers change what
they tell about themselves, and at some point the store is released.

A turn is made of the functions of `FleetStatus.Member`. Whatever a turn does to the store is a
short list of operations that the node and the time determine.

## Main definitions

* `FleetStatus.Turn`, `FleetStatus.Node.turn` — what a node does in a step.
* `FleetStatus.Fleet.Step`, `FleetStatus.Fleet.step` — the steps of a fleet.
* `FleetStatus.Node.operations`, `FleetStatus.Fleet.operations` — what a turn and a run ask the
  store for.

## Main results

* `FleetStatus.Node.member_turn_start_cases` — what a start makes of a member.
* `FleetStatus.Node.store_turn` — a turn is a few operations of the store.
* `FleetStatus.Fleet.store_run` — so a run of a fleet is a run of its store.
* `FleetStatus.Fleet.exists_of_getElem?_step` — a step changes one member at most, by a turn.
-/

namespace FleetStatus

open Store (Operation)

/-! ## One node -/

/-- What a node does in a step. -/
inductive Turn where
  | start
  /-- A player joins the server. -/
  | join (uuid : Uuid) (name : String)
  /-- A player leaves the server. -/
  | part (uuid : Uuid)
  /-- The change at the front of the queue is recorded. -/
  | record
  | beat
  /-- The log is read once. -/
  | tail
  /-- The whole store is read, and stale servers are forgotten. -/
  | tick
  /-- The node leaves the fleet, when no change waits. -/
  | leave
  deriving DecidableEq, Inhabited

/-- Leave the fleet, the first half of `Member.leaveFleet`: the store is not released yet. -/
def Member.leave (m : Member) (store : Store) : Member × Store :=
  ((m.leaveFleet store).1, (store.unregister m.serverId).toOption.getD store)

namespace Member

variable {m : Member}

/-- A member that does not run has no queue. -/
theorem queue_of_not_isRunning (h : m.isRunning = false) : m.queue = [] := by
  cases hphase : m.phase <;> simp_all [isRunning, queue, session?]

/-- A member that does not run has no place in the log. -/
theorem cursor?_of_not_isRunning (h : m.isRunning = false) : m.cursor? = none := by
  cases hphase : m.phase <;> simp_all [isRunning, cursor?, session?]

/-- There is nothing to record in an empty queue. -/
theorem work_of_queue_nil (h : m.queue = []) (s : Store) : (m.work s).2 = (m, s) := by
  unfold queue session? at h
  cases hphase : m.phase with
  | running session =>
    have hqueue : session.queue = [] := by simpa [hphase] using h
    simp [work, hphase, hqueue]
  | _ => simp [work, hphase]

/-- Another queue leaves the settings alone. -/
theorem settings_withQueue (m : Member) (queue : List PlayerChange) :
    (m.withQueue queue).settings = m.settings := by
  unfold withQueue mapSession
  split <;> rfl

/-- Another queue leaves the replica alone. -/
theorem replica_withQueue (m : Member) (queue : List PlayerChange) :
    (m.withQueue queue).replica = m.replica := replica_mapSession m _

/-- Another queue leaves the place in the log alone. -/
theorem cursor?_withQueue (m : Member) (queue : List PlayerChange) :
    (m.withQueue queue).cursor? = m.cursor? := by
  cases hphase : m.phase <;> simp [withQueue, mapSession, cursor?, session?, hphase]

/-- A member that does not follow the log reads nothing. -/
theorem followOnce_of_cursor?_eq_none (h : m.cursor? = none) (now : Int64) (s : Store) :
    m.followOnce now s = m := by
  unfold cursor? at h
  rw [followOnce, h]

end Member

namespace Node

/-- The member of a node after its **turn**, and the store. -/
def turn (n : Node) (now : Int64) (store : Store) : Turn → Member × Store
  | .start => (n.member.startWith n.report now store).2
  | .join uuid name =>
    let change := .join (n.member.playerRecord n.report uuid name now)
    ((n.member.enqueue change).toOption.getD n.member, store)
  | .part uuid => ((n.member.enqueue (.leave uuid)).toOption.getD n.member, store)
  | .record => (n.member.work store).2
  | .beat => n.work now store .heartbeat
  | .tail => (n.member.followOnce now store, store)
  | .tick => n.work now store .refresh
  | .leave =>
    if n.member.isRunning ∧ n.member.queue = [] then n.member.leave store else (n.member, store)

/-- What the node asks the store for in its turn. -/
def operations (n : Node) (now : Int64) : Turn → List Operation
  | .start =>
    if n.member.settings.enabled ∧ n.member.phase = .idle then
      .register (n.report.record n.member.serverId now) ::
        if n.member.settings.syncs then [.fetch now] else []
    else []
  | .record => (n.member.queue.take 1).map (·.operation n.member.serverId)
  | .beat =>
    if n.member.isRunning then [.heartbeat (n.report.record n.member.serverId now)] else []
  | .tick => if n.member.isRunning && n.member.settings.syncs then [.fetch now] else []
  | .leave =>
    if n.member.isRunning ∧ n.member.queue = [] then [.unregister n.member.serverId] else []
  | .join .. | .part _ | .tail => []

variable (n : Node) (now : Int64) (s : Store)

/-! ## What a turn does -/

/-- A start that is refused changes nothing. -/
theorem turn_start_of_refused (h : ¬(n.member.settings.enabled ∧ n.member.phase = .idle)) :
    n.turn now s .start = (n.member, s) := by
  cases henabled : n.member.settings.enabled with
  | false => simp [turn, Member.startWith, Member.begin, henabled]
  | true =>
    cases hphase : n.member.phase with
    | idle => exact absurd ⟨henabled, hphase⟩ h
    | _ => simp [turn, Member.startWith, Member.begin, henabled, hphase]

variable {n}

/-- A start on a closed store fails. -/
theorem turn_start_of_closed (h : n.member.settings.enabled ∧ n.member.phase = .idle)
    (hclosed : s.closed = true) : n.turn now s .start = (n.member.failed, s) := by
  have hstore : s.close = s := by
    rw [Store.close, ← hclosed]
  simp [turn, Member.startWith, Member.begin, h, Member.finish, Store.register, Store.whenOpen,
    hclosed, hstore, Member.failed]

/-- A start on an open store publishes the server's record; a member that keeps a replica takes its
place in the log and reads everything. -/
theorem turn_start_of_syncs (h : n.member.settings.enabled ∧ n.member.phase = .idle)
    (hsyncs : n.member.settings.syncs) (hopen : s.closed = false) : n.turn now s .start =
      let published := s.registered (n.report.record n.member.serverId now)
      ({ n.member with
          replica := n.member.replica.refresh (published.healed.view now) now
          phase := .running { cursor := some (published.latest.toOption.getD 0) } }.tell
        (.serverOnline n.member.serverId n.report.name), published.healed) := by
  have hpublished : (s.registered (n.report.record n.member.settings.serverId now)).closed = false :=
    hopen
  simp [turn, Member.startWith, Member.begin, h, Member.finish, Store.register, Store.whenOpen,
    hopen, Member.serverId, Member.complete, hsyncs, Store.fetch, hpublished]

/-- A start on an open store publishes the server's record; that is all for a member without a
replica. -/
theorem turn_start_of_not_syncs (h : n.member.settings.enabled ∧ n.member.phase = .idle)
    (hsyncs : n.member.settings.syncs = false) (hopen : s.closed = false) : n.turn now s .start =
      ({ n.member with phase := .running {} }.tell
        (.serverOnline n.member.serverId n.report.name),
      s.registered (n.report.record n.member.serverId now)) := by
  simp [turn, Member.startWith, Member.begin, h, Member.finish, Store.register, Store.whenOpen,
    hopen, Member.serverId, Member.complete, hsyncs]

variable (n) in
/-- **What a start makes of a member**: nothing, a member that failed, or one that runs with an empty
queue and with its replica as it was or replaced by a full read.

**Proof sketch.** By whether the member may start, finds the store open and keeps a replica. -/
theorem member_turn_start_cases :
    (n.turn now s .start).1 = n.member ∨ (n.turn now s .start).1 = n.member.failed ∨
      ∃ (cursor : Option Nat) (replica : Replica) (e : Event),
        (replica = n.member.replica ∨ ∃ snapshot, replica = n.member.replica.refresh snapshot now) ∧
        (n.turn now s .start).1 = { n.member with replica, phase := .running { cursor } }.tell e := by
  by_cases h : n.member.settings.enabled ∧ n.member.phase = .idle
  swap
  · exact .inl (by rw [turn_start_of_refused n now s h])
  right
  cases hclosed : s.closed with
  | true => exact .inl (by rw [turn_start_of_closed now s h hclosed])
  | false =>
    right
    cases hsyncs : n.member.settings.syncs with
    | true =>
      rw [turn_start_of_syncs now s h hsyncs hclosed]
      exact ⟨_, _, _, .inr ⟨_, rfl⟩, rfl⟩
    | false =>
      rw [turn_start_of_not_syncs now s h hsyncs hclosed]
      exact ⟨none, n.member.replica, _, .inl rfl, rfl⟩

/-- A join is put in at the end of the queue, with the record that the node makes of it. -/
theorem turn_join (h : n.member.isRunning) (uuid : Uuid) (name : String) :
    n.turn now s (.join uuid name) = (n.member.withQueue
      (n.member.queue ++ [.join (n.member.playerRecord n.report uuid name now)]), s) := by
  rw [turn, Member.enqueue_of_isRunning h]
  rfl

/-- A leave is put in at the end of the queue. -/
theorem turn_part (h : n.member.isRunning) (uuid : Uuid) : n.turn now s (.part uuid) =
    (n.member.withQueue (n.member.queue ++ [.leave uuid]), s) := by
  rw [turn, Member.enqueue_of_isRunning h]
  rfl

/-- Recording takes a change off the queue. -/
theorem turn_record (h : n.member.isRunning) : n.turn now s .record =
    (n.member.withQueue n.member.queue.tail, s.run (n.operations now .record)) := by
  cases hqueue : n.member.queue with
  | nil =>
    rw [turn, Member.work_of_queue_nil hqueue, operations, List.tail_nil, ← hqueue,
      Member.withQueue_queue h, hqueue]
    rfl
  | cons c rest =>
    rw [turn, Member.work_of_queue hqueue, operations, hqueue]
    rfl

/-- A heartbeat changes the store only. -/
theorem turn_beat (h : n.member.isRunning) :
    n.turn now s .beat = (n.member, s.run (n.operations now .beat)) := by
  rw [turn, work, Member.beat_of_isRunning h, operations, if_pos h]
  rfl

/-- A tick on a store that is not read changes nothing. -/
theorem turn_tick_of_not_read
    (h : n.member.isRunning = false ∨ n.member.settings.syncs = false ∨ s.closed = true) :
    n.turn now s .tick = (n.member, s) := by
  rcases h with h | h | h
  · simp [turn, work, Member.readAgain, h]
  · simp [turn, work, Member.readAgain, h]
  · simp [turn, work, Member.readAgain, Store.fetch, Store.whenOpen, h]

/-- A tick replaces the replica by a full read and forgets the stale servers. -/
theorem turn_tick_of_open (hrunning : n.member.isRunning) (hsyncs : n.member.settings.syncs)
    (hopen : s.closed = false) : n.turn now s .tick =
      ({ n.member with replica := (n.member.replica.refresh (s.healed.view now) now).prune now },
        s.healed) := by
  simp [turn, work, Member.readAgain, hrunning, hsyncs, Store.fetch, Store.whenOpen, hopen]

/-- A tick changes nothing of a member but its replica. -/
theorem exists_turn_tick :
    ∃ replica, (n.turn now s .tick).1 = { n.member with replica } := by
  by_cases h : n.member.isRunning = false ∨ n.member.settings.syncs = false ∨ s.closed = true
  · rw [turn_tick_of_not_read now s h]
    exact ⟨n.member.replica, rfl⟩
  · simp only [not_or, Bool.not_eq_false, Bool.not_eq_true] at h
    rw [turn_tick_of_open now s h.1 h.2.1 h.2.2]
    exact ⟨_, rfl⟩

/-- A member that does not run takes no turn but a start.

**Proof sketch.** By cases on the turn. What needs a queue finds none, what needs a place in the log
has none, and the background tasks wait for a member that runs. -/
theorem turn_of_not_isRunning (h : n.member.isRunning = false) {t : Turn} (ht : t ≠ .start) :
    n.turn now s t = (n.member, s) := by
  have hqueue := Member.queue_of_not_isRunning h
  cases t with
  | start => exact absurd rfl ht
  | join uuid name =>
    rw [turn, Member.enqueue_of_not_isRunning h]
    rfl
  | part uuid =>
    rw [turn, Member.enqueue_of_not_isRunning h]
    rfl
  | record => rw [turn, Member.work_of_queue_nil hqueue]
  | beat => simp [turn, work, Member.beat, h]
  | tail => rw [turn, Member.followOnce_of_cursor?_eq_none (Member.cursor?_of_not_isRunning h)]
  | tick => exact turn_tick_of_not_read now s (.inl h)
  | leave => simp [turn, h]

variable (n)

/-- A node neither forgets servers nor releases the store.

**Proof sketch.** By cases on the turn: a start registers and reads, recording brings the operation
of one change, and every other turn asks for one operation of its own or for none. -/
theorem mem_operations {t : Turn} {op : Operation} (h : op ∈ n.operations now t) :
    (∀ id, op ≠ .expire id) ∧ op ≠ .close := by
  cases t with
  | start =>
    simp only [operations] at h
    split_ifs at h <;> simp at h <;> rcases h with rfl | rfl <;> exact ⟨nofun, nofun⟩
  | record =>
    obtain ⟨c, -, rfl⟩ := List.mem_map.1 h
    cases c <;> exact ⟨nofun, nofun⟩
  | join uuid name => cases h
  | part uuid => cases h
  | tail => cases h
  | _ =>
    simp only [operations] at h
    split at h
    · rw [List.mem_singleton.1 h]
      exact ⟨nofun, nofun⟩
    · cases h

/-- A start asks of the store what it is told to, be it refused, closed out or taken. -/
theorem store_turn_start : (n.turn now s .start).2 = s.run (n.operations now .start) := by
  by_cases h : n.member.settings.enabled ∧ n.member.phase = .idle
  swap
  · rw [turn_start_of_refused n now s h, operations, if_neg h, Store.run_nil]
  cases hclosed : s.closed with
  | true =>
    rw [turn_start_of_closed now s h hclosed,
      Store.run_of_closed hclosed fun op hop => n.mem_operations now hop]
  | false =>
    rw [operations, if_pos h, Store.run_cons, Store.perform_of_open hclosed]
    cases hsyncs : n.member.settings.syncs with
    | true =>
      have hopen : (s.registered (n.report.record n.member.serverId now)).closed = false := hclosed
      rw [turn_start_of_syncs now s h hsyncs hclosed, if_pos rfl]
      exact (Store.perform_of_open hopen (.fetch now)).symm
    | false =>
      rw [turn_start_of_not_syncs now s h hsyncs hclosed]
      rfl

/-- A tick of a running node reads the store if the node syncs, which changes no closed store. -/
theorem store_turn_tick (hrunning : n.member.isRunning) :
    (n.turn now s .tick).2 = s.run (n.operations now .tick) := by
  rw [operations, hrunning, Bool.true_and]
  cases hsyncs : n.member.settings.syncs with
  | false =>
    rw [turn_tick_of_not_read now s (.inr (.inl hsyncs))]
    rfl
  | true =>
    rw [if_pos rfl]
    cases hclosed : s.closed with
    | true =>
      rw [turn_tick_of_not_read now s (.inr (.inr hclosed))]
      exact (Store.perform_of_closed hclosed (.fetch now) nofun nofun).symm
    | false =>
      rw [turn_tick_of_open now s hrunning hsyncs hclosed]
      exact (Store.perform_of_open hclosed (.fetch now)).symm

/-- **A turn is a few operations of the store.**

**Proof sketch.** By cases on the turn, and in a start and a tick on whether the member may start,
keeps a replica and finds the store open. On a closed store the operations of the turn change
nothing. -/
theorem store_turn (t : Turn) : (n.turn now s t).2 = s.run (n.operations now t) := by
  by_cases ht : t = .start
  · subst ht
    exact n.store_turn_start now s
  cases hrunning : n.member.isRunning with
  | false =>
    have hnone : n.operations now t = [] := by
      cases t <;> simp_all [operations, Member.queue_of_not_isRunning]
    rw [turn_of_not_isRunning now s hrunning ht, hnone, Store.run_nil]
  | true =>
    cases t with
    | start => exact absurd rfl ht
    | join uuid name => rfl
    | part uuid => rfl
    | tail => rfl
    | record => rw [turn_record now s hrunning]
    | beat => rw [turn_beat now s hrunning]
    | tick => exact n.store_turn_tick now s hrunning
    | leave =>
      rw [turn, operations]
      split <;> rfl

end Node

/-! ## The fleet -/

namespace Fleet

/-- One step of a fleet. -/
inductive Step where
  /-- The wall clock is set. -/
  | clock (now : Int64)
  /-- A server changes what it tells about itself. -/
  | host (i : Nat) (host : Host)
  /-- A node takes a turn. -/
  | turn (i : Nat) (t : Turn)
  /-- The store is released. -/
  | close
  deriving DecidableEq

/-- The fleet after a step. -/
def step (f : Fleet) : Step → Fleet
  | .clock now => { f with now }
  | .host i host => f.modifyNode i fun n => { n with host }
  | .turn i t => f.act i fun n store => n.turn f.now store t
  | .close => { f with store := f.store.close }

/-- The fleet after several steps in turn. -/
def run (f : Fleet) (steps : List Step) : Fleet := steps.foldl step f

/-- No steps leave a fleet as it is. -/
@[simp]
theorem run_nil (f : Fleet) : f.run [] = f := rfl

/-- The first of several steps is taken first. -/
@[simp]
theorem run_cons (f : Fleet) (st : Step) (steps : List Step) :
    f.run (st :: steps) = (f.step st).run steps := rfl

/-- What a step asks the store for. -/
def asked (f : Fleet) : Step → List Operation
  | .turn i t => f.nodes[i]?.elim [] fun n => n.operations f.now t
  | .close => [.close]
  | .clock _ | .host .. => []

/-- What a **run** asks the store for. -/
def operations (f : Fleet) : List Step → List Operation
  | [] => []
  | st :: steps => f.asked st ++ (f.step st).operations steps

variable {f : Fleet}

/-- A node that is not there does nothing. -/
theorem act_of_getElem?_eq_none {i : Nat} (h : f.nodes[i]? = none)
    (action : Node → Store → Member × Store) : f.act i action = f := by
  simp [act, ask, h]

/-- A node that is there changes itself and the store. -/
theorem act_of_getElem? {i : Nat} {n : Node} (h : f.nodes[i]? = some n)
    (action : Node → Store → Member × Store) : f.act i action = { f with
      nodes := f.nodes.set i { n with member := (action n f.store).1 }
      store := (action n f.store).2 } := by
  simp [act, ask, h]

/-- **A step is a few operations of the store**: those that it asks for. -/
theorem store_step (f : Fleet) (st : Step) : (f.step st).store = f.store.run (f.asked st) := by
  cases st with
  | clock now => rfl
  | host i host => rfl
  | close => rfl
  | turn i t =>
    rw [step, asked]
    cases hi : f.nodes[i]? with
    | none =>
      rw [act_of_getElem?_eq_none hi]
      rfl
    | some n =>
      rw [act_of_getElem? hi]
      exact n.store_turn f.now f.store t

/-- **A run of a fleet is a run of its store.**

**Proof sketch.** By induction on the steps, with `store_step` for each of them. -/
theorem store_run (f : Fleet) (steps : List Step) :
    (f.run steps).store = f.store.run (f.operations steps) := by
  induction steps generalizing f with
  | nil => rfl
  | cons st steps ih => rw [run_cons, ih, store_step, operations, Store.run_append]

/-- **A turn changes the member of the node whose turn it is.**

**Proof sketch.** Where the node is not there nothing happens. Where it is there, its place in the
list is the only one that changes. -/
theorem getElem?_step_turn (f : Fleet) (i j : Nat) (t : Turn) : (f.step (.turn i t)).nodes[j]? =
    f.nodes[j]?.map fun n => if i = j then { n with member := (n.turn f.now f.store t).1 } else n := by
  rw [step]
  cases hi : f.nodes[i]? with
  | none =>
    rw [act_of_getElem?_eq_none hi]
    by_cases hij : i = j
    · subst hij
      rw [hi]
      rfl
    · simp [hij]
  | some n =>
    rw [act_of_getElem? hi, List.getElem?_set]
    by_cases hij : i = j
    · subst hij
      obtain ⟨hlt, rfl⟩ := List.getElem?_eq_some_iff.1 hi
      simp [hlt]
    · simp [hij]

/-- **A step changes one member at most**, by a turn.

**Proof sketch.** By cases on the step. A change of a host is one of the node and not of its member.
-/
theorem exists_of_getElem?_step {st : Step} {j : Nat} {n' : Node}
    (h : (f.step st).nodes[j]? = some n') : ∃ n, f.nodes[j]? = some n ∧
      ((∀ t, st ≠ .turn j t) ∧ n'.member = n.member ∨
        ∃ t, st = .turn j t ∧ n'.member = (n.turn f.now f.store t).1) := by
  cases st with
  | clock now => exact ⟨n', h, .inl ⟨nofun, rfl⟩⟩
  | close => exact ⟨n', h, .inl ⟨nofun, rfl⟩⟩
  | host i host =>
    change (f.nodes.modify i _)[j]? = some n' at h
    rw [List.getElem?_modify] at h
    obtain ⟨n, hn, rfl⟩ := Option.map_eq_some_iff.1 h
    refine ⟨n, hn, .inl ⟨nofun, ?_⟩⟩
    split <;> rfl
  | turn i t =>
    rw [getElem?_step_turn] at h
    obtain ⟨n, hn, rfl⟩ := Option.map_eq_some_iff.1 h
    refine ⟨n, hn, ?_⟩
    by_cases hij : i = j
    · subst hij
      exact .inr ⟨t, rfl, by rw [if_pos rfl]⟩
    · refine .inl ⟨fun t' heq => hij (Step.turn.inj heq).1, ?_⟩
      rw [if_neg hij]

/-- Only the store's release closes it.

**Proof sketch.** None of the operations that a turn asks for closes the store
(`Node.mem_operations`). -/
theorem closed_step {st : Step} (hst : st ≠ .close) : (f.step st).store.closed = f.store.closed := by
  rw [store_step]
  refine Store.closed_run fun op hop => ?_
  cases st with
  | close => exact absurd rfl hst
  | clock now => cases hop
  | host i host => cases hop
  | turn i t =>
    rw [asked] at hop
    cases hi : f.nodes[i]? with
    | none => rw [hi] at hop; cases hop
    | some n =>
      rw [hi] at hop
      exact (n.mem_operations f.now hop).2

/-- A store that is open was open before. -/
theorem isOpen_of_step {st : Step} (h : (f.step st).store.closed = false) :
    f.store.closed = false := by
  by_cases hst : st = .close
  · subst hst
    cases h
  · rwa [closed_step hst] at h

end Fleet

end FleetStatus
