import FleetStatus.Directory
import FleetStatus.Proofs.Fleet.Sight
import FleetStatus.Proofs.Fleet.Sound
import FleetStatus.Proofs.Presence.Listed
import FleetStatus.Proofs.Presence.Staleness

set_option relaxedAutoImplicit false
set_option autoImplicit false

/-!
# Heartbeats on schedule

A running node publishes its record when it starts and with every heartbeat. A node that keeps a
replica reads the whole store from time to time and forgets the servers whose records are older than
the timeout. The three periods are settings of their own, and nothing holds them against each other.

If every running node published its record within the last heartbeat period, then no record is older
than that period, and a full read keeps all running servers when the timeout is not shorter. When it
is shorter, a server that takes its time is forgotten, by itself even: a run with one node will do.

A timeout that does not fit in a signed number of 64 bits is left out here.

## Main definitions

* `FleetStatus.Node.publishes` — the turns in which a node publishes its record.
* `FleetStatus.Fleet.OnSchedule` — runs in which every running node keeps to a period.
* `FleetStatus.Fleet.SeesRunning` — a node knows all running servers and counts them as online.
* `FleetStatus.Fleet.Keeps` — settings under which every full read leaves the node so.
* `FleetStatus.Fleet.Watched` — the store lists, for every running server, the record that was
  published last.

## Main results

* `FleetStatus.Fleet.Watched.step`, `FleetStatus.Fleet.Watched.run` — the store lists the running
  servers in every run.
* `FleetStatus.Fleet.Watched.get?_servers_tick` — a full read keeps them, unless they are stale.
* `FleetStatus.Fleet.keeps_iff` — the heartbeat period must not be longer than the timeout.
* `FleetStatus.Fleet.not_keeps_sixty` — settings that are accepted and do not keep running servers.
-/

namespace FleetStatus

open Store (Operation)

/-! ## Times -/

/-- The heartbeat period is at most five minutes. -/
theorem Timing.heartbeatSeconds_le (t : Timing) : t.heartbeatSeconds ≤ 300 := by
  rw [heartbeatSeconds]
  omega

/-! ## What a turn publishes -/

/-- The operation puts the record of a server in the store. -/
def Store.Operation.publishes : Operation → Bool
  | .register _ | .heartbeat _ => true
  | .unregister _ | .join _ | .leave .. | .fetch _ | .expire _ | .close => false

namespace Node

/-- The node publishes its record in its turn. -/
def publishes (n : Node) (now : Int64) (t : Turn) : Bool := (n.operations now t).any (·.publishes)

variable {n : Node} {now : Int64} {s : Store} {t : Turn}

/-- A node publishes its record when it starts and when its heart beats.

**Proof sketch.** By cases on the turn: each of the others asks for operations of other kinds, or
for none. -/
theorem turn_of_publishes (h : n.publishes now t) :
    t = .start ∧ n.member.settings.enabled ∧ n.member.phase = .idle ∨
      t = .beat ∧ n.member.isRunning := by
  cases t with
  | start =>
    by_cases hidle : n.member.settings.enabled ∧ n.member.phase = .idle
    · exact .inl ⟨rfl, hidle⟩
    · rw [publishes, operations, if_neg hidle] at h
      cases h
  | beat =>
    by_cases hran : n.member.isRunning
    · exact .inr ⟨rfl, hran⟩
    · rw [publishes, operations, if_neg hran] at h
      cases h
  | record =>
    rw [publishes, List.any_eq_true] at h
    obtain ⟨op, hop, hpublishes⟩ := h
    obtain ⟨c, -, rfl⟩ := List.mem_map.1 hop
    cases c <;> cases hpublishes
  | tick =>
    rw [publishes, operations] at h
    split at h <;> cases h
  | leave =>
    rw [publishes, operations] at h
    split at h <;> cases h
  | join uuid name => cases h
  | part uuid => cases h
  | tail => cases h

/-- What a node publishes is its record at the time, and it does so first. -/
theorem exists_of_publishes (h : n.publishes now t) : ∃ op ops, n.operations now t = op :: ops ∧
    (op = .register (n.report.record n.member.serverId now) ∨
      op = .heartbeat (n.report.record n.member.serverId now)) ∧
    ∀ op' ∈ ops, ∀ id, op'.Spares id := by
  rcases turn_of_publishes h with ⟨rfl, hidle⟩ | ⟨rfl, hran⟩
  · rw [operations, if_pos hidle]
    refine ⟨_, _, rfl, .inl rfl, fun op' hop' id => ?_⟩
    split at hop'
    · rw [List.mem_singleton.1 hop']
      trivial
    · cases hop'
  · rw [operations, if_pos hran]
    refine ⟨_, _, rfl, .inr rfl, fun op' hop' => ?_⟩
    cases hop'

/-- **A node that publishes its record is listed with it.**

**Proof sketch.** The record is published by the first operation, and those after it spare the
records of all servers. -/
theorem listed_of_publishes (hopen : s.closed = false) (h : n.publishes now t) :
    (s.run (n.operations now t)).Listed n.member.serverId
      (n.report.record n.member.serverId now) := by
  obtain ⟨op, ops, hops, hop, hspares⟩ := exists_of_publishes h
  rw [hops, Store.run_cons, Store.perform_of_open hopen]
  refine Store.Listed.run ?_ fun op' hop' => hspares op' hop' _
  rcases hop with rfl | rfl
  · exact Store.listed_registered s _
  · exact Store.listed_refreshed s _

/-- **A turn spares the record of a server**, unless it is the node's own that it publishes or takes
out.

**Proof sketch.** An operation that publishes a record publishes the node's own, and then the server
is another one. Of the operations that do not publish only a removal touches a record, and none of
the turn's removes this server. -/
theorem spares_of_mem_operations {id : String}
    (hquiet : n.member.serverId = id → n.publishes now t = false)
    (hstays : .unregister id ∉ n.operations now t) {op : Operation}
    (hop : op ∈ n.operations now t) : op.Spares id := by
  -- a record that is published is the node's own
  have hpublished (hpublishes : op.publishes = true) : op.Spares id := by
    have hturn : n.publishes now t := List.any_eq_true.2 ⟨op, hop, hpublishes⟩
    have hother : n.member.serverId ≠ id := fun hid =>
      Bool.false_ne_true ((hquiet hid).symm.trans hturn)
    obtain ⟨op', ops, hops, hop', hspares⟩ := exists_of_publishes hturn
    rw [hops] at hop
    rcases List.mem_cons.1 hop with rfl | hrest
    · rcases hop' with rfl | rfl <;> exact hother
    · exact hspares op hrest id
  cases op with
  | register r => exact hpublished rfl
  | heartbeat r => exact hpublished rfl
  | unregister id' => exact fun hid => hstays (hid ▸ hop)
  | expire id' => exact absurd rfl ((n.mem_operations now hop).1 id')
  | join | leave | fetch | close => trivial

/-! ## What a turn leaves -/

/-- A node that publishes its record runs. -/
theorem isRunning_turn_of_publishes (hopen : s.closed = false) (h : n.publishes now t) :
    (n.turn now s t).1.isRunning := by
  rcases turn_of_publishes h with ⟨rfl, hidle⟩ | ⟨rfl, hran⟩
  · cases hsyncs : n.member.settings.syncs with
    | true =>
      rw [turn_start_of_syncs now s hidle hsyncs hopen]
      rfl
    | false =>
      rw [turn_start_of_not_syncs now s hidle hsyncs hopen]
      rfl
  · rw [turn_beat now s hran]
    exact hran

/-- **A running node goes on running** unless it takes its record out.

**Proof sketch.** By cases on the turn. A start of a member that runs is refused, and to leave would
take the record out. -/
theorem isRunning_turn (hran : n.member.isRunning)
    (hstays : .unregister n.member.serverId ∉ n.operations now t) :
    (n.turn now s t).1.isRunning := by
  cases t with
  | start =>
    have hbusy : ¬(n.member.settings.enabled ∧ n.member.phase = .idle) := fun h => by
      rw [Member.isRunning, h.2] at hran
      cases hran
    rw [turn_start_of_refused n now s hbusy]
    exact hran
  | join uuid name =>
    rw [turn_join now s hran]
    exact Member.isRunning_withQueue hran _
  | part uuid =>
    rw [turn_part now s hran]
    exact Member.isRunning_withQueue hran _
  | record =>
    rw [turn_record now s hran]
    exact Member.isRunning_withQueue hran _
  | beat =>
    rw [turn_beat now s hran]
    exact hran
  | tail => exact (Member.isRunning_followOnce n.member now s).trans hran
  | tick =>
    obtain ⟨replica, hreplica⟩ := n.exists_turn_tick now s
    rw [hreplica]
    exact hran
  | leave =>
    rw [operations] at hstays
    rw [turn]
    split
    next hleave =>
      rw [if_pos hleave] at hstays
      exact absurd (List.mem_singleton.2 rfl) hstays
    next => exact hran

variable (n now s)

/-- A turn leaves the timeout of the replica alone.

**Proof sketch.** By cases on the turn. Only a start and a tick replace the replica, and a full read
keeps its timeout. -/
theorem timeout_turn (t : Turn) :
    (n.turn now s t).1.replica.timeout = n.member.replica.timeout := by
  by_cases ht : t = .start
  · subst ht
    obtain hsame | hfailed | ⟨_, _, _, hreplica, hruns⟩ := n.member_turn_start_cases now s
    · rw [hsame]
    · rw [hfailed, Member.failed]
    · rw [hruns]
      obtain rfl | ⟨snapshot, rfl⟩ := hreplica <;> rfl
  cases hrunning : n.member.isRunning with
  | false => rw [turn_of_not_isRunning now s hrunning ht]
  | true =>
    cases t with
    | start => exact absurd rfl ht
    | join uuid name => rw [turn_join now s hrunning, Member.replica_withQueue]
    | part uuid => rw [turn_part now s hrunning, Member.replica_withQueue]
    | record => rw [turn_record now s hrunning, Member.replica_withQueue]
    | beat => rw [turn_beat now s hrunning]
    | tail => rw [turn, Member.replica_followOnce_eq, Replica.timeout_replay]
    | tick =>
      by_cases hread : n.member.settings.syncs = false ∨ s.closed = true
      · rw [turn_tick_of_not_read now s (.inr hread)]
      · simp only [not_or, Bool.not_eq_false, Bool.not_eq_true] at hread
        rw [turn_tick_of_open now s hrunning hread.1 hread.2]
        exact Replica.timeout_prune _ now
    | leave =>
      rw [turn]
      split <;> rfl

end Node

/-! ## Runs on schedule -/

namespace Fleet

/-- A fleet **before its first step**, with the same periods for all nodes, on an open store with
any history. -/
structure New (timing : Timing) (f : Fleet) : Prop where
  store : ∃ capacity ops, f.store = (Store.withCapacity capacity).run ops
  isOpen : f.store.closed = false
  fresh : ∀ n ∈ f.nodes, ∃ settings : NetworkSettings,
    settings.timing = timing ∧ n.member = .new settings

/-- When each node published its record last, after a further step. -/
def heardAfter (f : Fleet) (heard : Nat → Option Int64) : Step → Nat → Option Int64
  | .turn i t =>
    if f.nodes[i]?.any (·.publishes f.now t) then Function.update heard i (some f.now) else heard
  | .clock _ | .host .. | .close => heard

/-- Every running node published its record within the last `period` milliseconds. -/
def Punctual (f : Fleet) (period : Nat) (heard : Nat → Option Int64) : Prop :=
  ∀ (j : Nat) (n : Node), f.nodes[j]? = some n → n.member.isRunning →
    ∃ t, heard j = some t ∧ f.now.toInt - t.toInt ≤ period

/-- The step does not release the store, and nobody but a running node itself takes its record
out. -/
def Permits (f : Fleet) (st : Step) : Prop :=
  st ≠ .close ∧ ∀ (j : Nat) (n : Node), f.nodes[j]? = some n → n.member.isRunning →
    .unregister n.member.serverId ∈ f.asked st → ∃ t, st = .turn j t

/-- A run **on schedule**: at any time, every running node published its record within the last
`period` milliseconds. -/
def OnSchedule (f : Fleet) (period : Nat) (heard : Nat → Option Int64) : List Step → Prop
  | [] => f.Punctual period heard
  | st :: steps =>
    f.Punctual period heard ∧ f.Permits st ∧
      (f.step st).OnSchedule period (f.heardAfter heard st) steps

/-- The servers that a node lists and takes to be online. -/
def online (n : Node) (now : Int64) : List ServerRecord :=
  (n.member.networkSnapshot n.report now).servers.filter fun r =>
    !r.isStale now n.member.settings.timing.timeoutMillis

/-- A node **sees all running servers**: it knows them, it takes them to be online, and it counts at
least as many servers as run, told apart by their ids. -/
structure SeesRunning (f : Fleet) (n : Node) : Prop where
  kept : ∀ m ∈ f.nodes, m.member.isRunning →
    n.member.replica.servers.contains m.member.serverId
  counted : ∀ m ∈ f.nodes, m.member.isRunning →
    m.member.serverId ∈ (online n f.now).map (·.serverId)
  number : ((f.nodes.filter (·.member.isRunning)).map (·.member.serverId)).dedup.length ≤
    (n.member.networkSnapshot n.report f.now).onlineServers f.now
      n.member.settings.timing.timeoutMillis

/-- These periods **keep the running servers**: in every run on schedule, whenever a node reads the
whole store again, it sees all running servers afterwards. -/
def Keeps (timing : Timing) : Prop :=
  ∀ (f : Fleet) (steps : List Step), f.New timing →
    f.OnSchedule (1000 * timing.heartbeatSeconds) (fun _ => none) steps →
    ∀ (i : Nat) (n : Node), ((f.run steps).step (.turn i .tick)).nodes[i]? = some n →
      n.member.isRunning → n.member.settings.syncs →
      ((f.run steps).step (.turn i .tick)).SeesRunning n

/-! ## The records of running nodes -/

/-- A running node with the id published the record that the store lists. -/
def Vouched (f : Fleet) (heard : Nat → Option Int64) (id : String) : Prop :=
  ∃ (k : Nat) (m : Node) (r : ServerRecord), f.nodes[k]? = some m ∧ m.member.isRunning ∧
    m.member.serverId = id ∧ heard k = some r.lastHeartbeat ∧ f.store.Listed id r

/-- What holds at any time of a run on schedule: the periods stay, and the store lists the record of
every running server that was published last. -/
structure Watched (f : Fleet) (timing : Timing) (heard : Nat → Option Int64) : Prop where
  isOpen : f.store.closed = false
  named : f.store.Named
  timed : ∀ (j : Nat) (n : Node), f.nodes[j]? = some n →
    n.member.settings.timing = timing ∧ n.member.replica.timeout = timing.timeoutMillis
  vouched : ∀ (j : Nat) (n : Node), f.nodes[j]? = some n → n.member.isRunning →
    f.Vouched heard n.member.serverId

variable {f : Fleet} {timing : Timing} {heard : Nat → Option Int64} {id : String}

/-- No server of a new fleet runs. -/
theorem New.not_isRunning (h : f.New timing) {j : Nat} {n : Node} (hn : f.nodes[j]? = some n) :
    ¬n.member.isRunning := by
  obtain ⟨settings, -, hmember⟩ := h.fresh n (List.mem_of_getElem? hn)
  rw [hmember]
  exact Bool.false_ne_true

/-- A new fleet is watched, as no server of it runs. -/
theorem New.watched (h : f.New timing) : f.Watched timing fun _ => none where
  isOpen := h.isOpen
  named := by
    obtain ⟨capacity, ops, hstore⟩ := h.store
    exact hstore ▸ Store.named_run capacity ops
  timed j n hn := by
    obtain ⟨settings, rfl, hmember⟩ := h.fresh n (List.mem_of_getElem? hn)
    rw [hmember]
    exact ⟨rfl, rfl⟩
  vouched j n hn hrunning := absurd hrunning (h.not_isRunning hn)

/-- Nothing is heard while time goes by. -/
theorem heardAfter_clock (f : Fleet) (heard : Nat → Option Int64) (now : Int64) :
    f.heardAfter heard (.clock now) = heard := rfl

/-- In a turn in which a node publishes its record, it is heard from. -/
theorem heardAfter_turn {i : Nat} {n : Node} (hn : f.nodes[i]? = some n) (t : Turn) :
    f.heardAfter heard (.turn i t) =
      if n.publishes f.now t then Function.update heard i (some f.now) else heard := by
  rw [heardAfter, hn, Option.any_some]

/-- A server that goes on running is not taken out of the store. -/
theorem Permits.unregister_not_mem_asked {st : Step} (h : f.Permits st) {j : Nat} {n n' : Node}
    (hn : f.nodes[j]? = some n) (hn' : (f.step st).nodes[j]? = some n')
    (hran : n.member.isRunning) (hrunning : n'.member.isRunning) :
    .unregister n.member.serverId ∉ f.asked st := by
  intro hmem
  obtain ⟨t, rfl⟩ := h.2 j n hn hran hmem
  rw [asked, hn, Option.elim_some] at hmem
  rw [getElem?_step_turn, hn, Option.map_some, if_pos rfl] at hn'
  obtain rfl := Option.some.inj hn'
  obtain ⟨-, hgone⟩ := n.isRunning_turn_of_mem_unregister f.now f.store hmem
  exact Bool.false_ne_true (hgone.symm.trans hrunning)

/-- A record stays vouched for when a host changes. -/
theorem Vouched.host (h : f.Vouched heard id) (i : Nat) (host : Host) :
    (f.step (.host i host)).Vouched heard id := by
  obtain ⟨k, m, r, hm, hran, hid, hheard, hlisted⟩ := h
  have hm' : (f.step (.host i host)).nodes[k]? = some (if i = k then { m with host } else m) := by
    show (f.nodes.modify i _)[k]? = _
    rw [List.getElem?_modify, hm]
    split <;> rfl
  refine ⟨k, _, r, hm', ?_, ?_, hheard, hlisted⟩
  · split <;> exact hran
  · split <;> exact hid

section Turn

variable {i : Nat} {n : Node} (hn : f.nodes[i]? = some n) {t : Turn}

include hn

/-- **A node that publishes its record vouches for it.** -/
theorem vouched_of_publishes (hopen : f.store.closed = false) (h : n.publishes f.now t) :
    (f.step (.turn i t)).Vouched (f.heardAfter heard (.turn i t)) n.member.serverId := by
  refine ⟨i, { n with member := (n.turn f.now f.store t).1 },
    n.report.record n.member.serverId f.now, ?_, Node.isRunning_turn_of_publishes hopen h,
    n.serverId_turn f.now f.store t, ?_, ?_⟩
  · rw [getElem?_step_turn, hn, Option.map_some, if_pos rfl]
  · rw [heardAfter_turn hn, if_pos h, Function.update_self]
    rfl
  · rw [store_step, asked, hn, Option.elim_some]
    exact Node.listed_of_publishes hopen h

/-- **A record stays vouched for** in the turns of other servers, and in those turns in which the
server neither publishes its record nor takes it out.

**Proof sketch.** The node that vouches for the record goes on running: if the turn is its own it
does not leave, and otherwise it is not touched. No operation of the turn touches the record. -/
theorem Vouched.turn (h : f.Vouched heard id)
    (hquiet : n.member.serverId = id → n.publishes f.now t = false)
    (hstays : .unregister id ∉ n.operations f.now t) :
    (f.step (.turn i t)).Vouched (f.heardAfter heard (.turn i t)) id := by
  obtain ⟨k, m, r, hm, hran, rfl, hheard, hlisted⟩ := h
  have hlisted' : (f.step (.turn i t)).store.Listed m.member.serverId r := by
    rw [store_step, asked, hn, Option.elim_some]
    exact hlisted.run fun op hop => Node.spares_of_mem_operations hquiet hstays hop
  by_cases hik : i = k
  · subst hik
    obtain rfl : n = m := Option.some.inj (hn.symm.trans hm)
    refine ⟨i, { n with member := (n.turn f.now f.store t).1 }, r, ?_,
      Node.isRunning_turn hran hstays, n.serverId_turn f.now f.store t, ?_, hlisted'⟩
    · rw [getElem?_step_turn, hn, Option.map_some, if_pos rfl]
    · rw [heardAfter_turn hn, if_neg (by simp [hquiet rfl])]
      exact hheard
  · refine ⟨k, m, r, ?_, hran, rfl, ?_, hlisted'⟩
    · rw [getElem?_step_turn, hm, Option.map_some, if_neg hik]
    · rw [heardAfter_turn hn]
      split
      · rw [Function.update_of_ne (Ne.symm hik)]
        exact hheard
      · exact hheard

end Turn

section Step

variable (h : f.Watched timing heard) {st : Step}

include h

/-- The record of a server that runs after a turn is vouched for: it was before, or the turn is the
start of the server.

**Proof sketch.** If the turn publishes the server's own record, then that vouches for it. Otherwise
the server ran before the turn and was vouched for, and the turn neither publishes nor removes its
record. -/
theorem Watched.vouched_turn {i : Nat} {t : Turn} (hpermits : f.Permits (.turn i t)) {j : Nat}
    {n' : Node} (hn' : (f.step (.turn i t)).nodes[j]? = some n') (hrunning : n'.member.isRunning) :
    (f.step (.turn i t)).Vouched (f.heardAfter heard (.turn i t)) n'.member.serverId := by
  cases hi : f.nodes[i]? with
  | none =>
    -- there is no such node, so nothing happens
    rw [step, act_of_getElem?_eq_none hi] at hn' ⊢
    rw [heardAfter, hi]
    exact h.vouched j n' hn' hrunning
  | some m =>
    obtain ⟨n, hn, hcase⟩ := exists_of_getElem?_step hn'
    rw [serverId_of_step hcase]
    by_cases hpublishes : m.member.serverId = n.member.serverId ∧ m.publishes f.now t
    · rw [← hpublishes.1]
      exact vouched_of_publishes hi h.isOpen hpublishes.2
    have hquiet (hid : m.member.serverId = n.member.serverId) : m.publishes f.now t = false :=
      Bool.eq_false_iff.2 fun hpublished => hpublishes ⟨hid, hpublished⟩
    have hran : n.member.isRunning := by
      rcases hcase with ⟨-, hmember⟩ | ⟨t', ht', hmember⟩
      · exact hmember ▸ hrunning
      · obtain ⟨rfl, rfl⟩ := Step.turn.inj ht'
        obtain rfl : m = n := Option.some.inj (hi.symm.trans hn)
        rcases m.isRunning_of_turn f.now f.store (hmember ▸ hrunning) with hran | ⟨ops, hops⟩
        · exact hran
        · have hpublished : m.publishes f.now t = true := by
            rw [Node.publishes, hops]
            rfl
          exact absurd ((hquiet rfl).symm.trans hpublished) Bool.false_ne_true
    refine (h.vouched j n hn hran).turn hi hquiet ?_
    have hstays := hpermits.unregister_not_mem_asked hn hn' hran hrunning
    rwa [asked, hi, Option.elim_some] at hstays

/-- **A step of a run on schedule keeps the running servers listed.**

**Proof sketch.** The store stays open, as nobody releases it, and its records stay under their ids.
Each kind of step keeps the records vouched for: a turn by `Watched.vouched_turn`, a change of a
host by `Vouched.host`, and the clock since it changes neither nodes nor store. -/
theorem Watched.step (hpermits : f.Permits st) :
    (f.step st).Watched timing (f.heardAfter heard st) where
  isOpen := (closed_step hpermits.1).trans h.isOpen
  named := by
    rw [store_step]
    exact h.named.run _
  timed j n' hn' := by
    obtain ⟨n, hn, ⟨-, hmember⟩ | ⟨t, -, hmember⟩⟩ := exists_of_getElem?_step hn'
    · rw [hmember]
      exact h.timed j n hn
    · rw [hmember, n.settings_turn, n.timeout_turn]
      exact h.timed j n hn
  vouched j n' hn' hrunning := by
    cases st with
    | close => exact absurd rfl hpermits.1
    | turn i t => exact h.vouched_turn hpermits hn' hrunning
    | clock now => exact h.vouched j n' hn' hrunning
    | host i host =>
      obtain ⟨n, hn, ⟨-, hmember⟩ | ⟨t, ht, -⟩⟩ := exists_of_getElem?_step hn'
      · rw [hmember] at hrunning ⊢
        exact (h.vouched j n hn hrunning).host i host
      · cases ht

end Step

/-- **In a run on schedule the running servers are listed**, and each published its record in
time.

**Proof sketch.** By induction on the steps, with `Watched.step` for each of them. -/
theorem Watched.run (h : f.Watched timing heard) {period : Nat} {steps : List Step}
    (hsteps : f.OnSchedule period heard steps) :
    ∃ heard', (f.run steps).Watched timing heard' ∧ (f.run steps).Punctual period heard' := by
  induction steps generalizing f heard with
  | nil => exact ⟨heard, h, hsteps⟩
  | cons st steps ih => exact ih (h.step hsteps.2.1) hsteps.2.2

/-! ## Full reads -/

section Tick

variable {i : Nat} {n : Node}

/-- A node that keeps a replica and runs after a tick read the whole store. -/
theorem replica_of_tick (hopen : f.store.closed = false)
    (hn : (f.step (.turn i .tick)).nodes[i]? = some n) (hrunning : n.member.isRunning)
    (hsyncs : n.member.settings.syncs) : ∃ m : Node, f.nodes[i]? = some m ∧ n.member.replica =
      (m.member.replica.refresh (f.store.healed.view f.now) f.now).prune f.now := by
  rw [getElem?_step_turn] at hn
  obtain ⟨m, hm, rfl⟩ := Option.map_eq_some_iff.1 hn
  rw [if_pos rfl] at hrunning hsyncs ⊢
  obtain ⟨replica, hreplica⟩ := m.exists_turn_tick f.now f.store
  have hran : m.member.isRunning := by
    rwa [hreplica] at hrunning
  have hsyncs' : m.member.settings.syncs := by
    rwa [hreplica] at hsyncs
  refine ⟨m, hm, ?_⟩
  rw [Node.turn_tick_of_open f.now f.store hran hsyncs' hopen]

/-- **What a full read makes of a running server.**

**Proof sketch.** The full read lists the record that was vouched for, and the node forgets it if it
is stale by then. -/
theorem Watched.get?_servers_tick (h : f.Watched timing heard)
    (hn : (f.step (.turn i .tick)).nodes[i]? = some n) (hrunning : n.member.isRunning)
    (hsyncs : n.member.settings.syncs) (hvouched : f.Vouched heard id) :
    ∃ (k : Nat) (m : Node) (r : ServerRecord), f.nodes[k]? = some m ∧ m.member.isRunning ∧
      heard k = some r.lastHeartbeat ∧ r.serverId = id ∧
      n.member.replica.servers.get? id =
        if r.isStale f.now timing.timeoutMillis then none else some (f.store.healed.shown r) := by
  obtain ⟨m, hm, hreplica⟩ := replica_of_tick h.isOpen hn hrunning hsyncs
  obtain ⟨k, m', r, hm', hran, -, hheard, hlisted⟩ := hvouched
  have hspares : (Operation.fetch f.now).Spares id := trivial
  have hlisted' : f.store.healed.Listed id r := hlisted.effect hspares
  have hnamed : f.store.healed.Named := h.named.effect (.fetch f.now)
  refine ⟨k, m', r, hm', hran, hheard, h.named id r hlisted.record, ?_⟩
  rw [hreplica, hlisted'.get?_readAgain hnamed, (h.timed i m hm).2]

/-- A tick changes nothing of any member but its replica. -/
theorem exists_of_getElem?_tick {j : Nat} (hn : (f.step (.turn i .tick)).nodes[j]? = some n) :
    ∃ m : Node, f.nodes[j]? = some m ∧ ∃ replica, n.member = { m.member with replica } := by
  obtain ⟨m, hm, ⟨-, hmember⟩ | ⟨t, ht, hmember⟩⟩ := exists_of_getElem?_step hn
  · exact ⟨m, hm, m.member.replica, hmember⟩
  · obtain ⟨rfl, rfl⟩ := Step.turn.inj ht
    obtain ⟨replica, hreplica⟩ := m.exists_turn_tick f.now f.store
    exact ⟨m, hm, replica, hmember.trans hreplica⟩

/-- A tick keeps all nodes, with another replica at most. -/
theorem exists_getElem?_tick {j : Nat} {m : Node} (hm : f.nodes[j]? = some m) :
    ∃ n, (f.step (.turn i .tick)).nodes[j]? = some n ∧
      ∃ replica, n.member = { m.member with replica } := by
  rw [getElem?_step_turn, hm, Option.map_some]
  refine ⟨_, rfl, ?_⟩
  split
  · exact m.exists_turn_tick f.now f.store
  · exact ⟨m.member.replica, rfl⟩

/-- A turn takes no time. -/
theorem now_turn (f : Fleet) (i : Nat) (t : Turn) : (f.step (.turn i t)).now = f.now := by
  rw [step]
  cases hi : f.nodes[i]? with
  | none => rw [act_of_getElem?_eq_none hi]
  | some n => rw [act_of_getElem? hi]

section InTime

variable (h : f.Watched timing heard) {period : Nat} (hpunctual : f.Punctual period heard)
  (hlong : period ≤ timing.timeoutMillis) (hfit : timing.timeoutMillis < 2 ^ 63 - 1)
  (hn : (f.step (.turn i .tick)).nodes[i]? = some n) (hrunning : n.member.isRunning)
  (hsyncs : n.member.settings.syncs)

include h hpunctual hlong hfit hn hrunning hsyncs

/-- A full read gives a record of every running server that is not stale.

**Proof sketch.** The record that is vouched for was published no longer ago than the period, which
is not longer than the timeout, so it is not stale at the tick. -/
theorem Watched.exists_fresh {m : Node} (hm : m ∈ (f.step (.turn i .tick)).nodes)
    (hran : m.member.isRunning) :
    ∃ r, n.member.replica.servers.get? m.member.serverId = some r ∧
      r.serverId = m.member.serverId ∧ r.isStale f.now timing.timeoutMillis = false := by
  obtain ⟨j, hj⟩ := List.mem_iff_getElem?.1 hm
  obtain ⟨m', hm', replica, hmember⟩ := exists_of_getElem?_tick hj
  have hvouched : f.Vouched heard m.member.serverId := by
    rw [hmember] at hran ⊢
    exact h.vouched j m' hm' hran
  obtain ⟨k, m'', r, hm'', hran', hheard, hid, hr⟩ :=
    h.get?_servers_tick hn hrunning hsyncs hvouched
  have hfresh : r.isStale f.now timing.timeoutMillis = false := by
    obtain ⟨t, ht, hrecent⟩ := hpunctual k m'' hm'' hran'
    obtain rfl : r.lastHeartbeat = t := Option.some.inj (hheard.symm.trans ht)
    rw [← Bool.not_eq_true, r.isStale_iff_of_lt f.now hfit]
    omega
  exact ⟨_, hr.trans (if_neg (Bool.eq_false_iff.1 hfresh)), hid, hfresh⟩

/-- **A full read keeps the servers that published their records in time**, when the timeout is not
shorter than the period.

**Proof sketch.** Every running server has a fresh record in the replica by `Watched.exists_fresh`,
so its id is among those that the node counts as online. Hence the node counts no fewer servers than
there are ids of running ones. -/
theorem Watched.seesRunning : (f.step (.turn i .tick)).SeesRunning n := by
  have htiming : n.member.settings.timing = timing := by
    obtain ⟨m, hm, replica, hmember⟩ := exists_of_getElem?_tick hn
    rw [hmember]
    exact (h.timed i m hm).1
  have hcounted : ∀ m ∈ (f.step (.turn i .tick)).nodes, m.member.isRunning →
      m.member.serverId ∈ (online n (f.step (.turn i .tick)).now).map (·.serverId) := by
    intro m hm hran
    obtain ⟨r, hr, hid, hfresh⟩ := h.exists_fresh hpunctual hlong hfit hn hrunning hsyncs hm hran
    refine List.mem_map.2 ⟨r, ?_, hid⟩
    rw [online, Member.networkSnapshot, hrunning, hsyncs, htiming, now_turn]
    exact List.mem_filter.2 ⟨(Index.mem_values_iff _ _).2 ⟨_, hr⟩, by rw [hfresh, Bool.not_false]⟩
  refine ⟨fun m hm hran => ?_, hcounted, ?_⟩
  · obtain ⟨r, hr, -⟩ := h.exists_fresh hpunctual hlong hfit hn hrunning hsyncs hm hran
    rw [Index.contains, hr, Option.isSome_some]
  · -- every id of a running server is the id of a server that is counted
    have hsub : ((f.step (.turn i .tick)).nodes.filter (·.member.isRunning)).map (·.member.serverId)
        ⊆ (online n (f.step (.turn i .tick)).now).map (·.serverId) := by
      intro id hid
      obtain ⟨m, hm, rfl⟩ := List.mem_map.1 hid
      exact hcounted m (List.mem_filter.1 hm).1 (List.mem_filter.1 hm).2
    have hlength := (List.subperm_of_subset (List.nodup_dedup _) fun id hid =>
      hsub (List.dedup_subset _ hid)).length_le
    rwa [List.length_map] at hlength

end InTime

end Tick

/-! ## The periods -/

/-- A fleet of one server, before its first step. -/
def lone (timing : Timing) : Fleet where
  nodes := [.ofSettings { network := { enabled := true, timing } }
    ⟨[1], 3, by decide, by decide, by decide⟩ {}]
  store := .withCapacity 9
  now := 0

/-- The server starts, and a whole heartbeat period goes by. -/
def untilHeartbeat (timing : Timing) : List Step :=
  [.turn 0 .start, .clock (Int64.ofNat (1000 * timing.heartbeatSeconds))]

/-- A fleet of one server that was not started is new. -/
theorem new_lone (timing : Timing) : (lone timing).New timing where
  store := ⟨9, [], rfl⟩
  isOpen := rfl
  fresh n hn := by
    rw [List.mem_singleton.1 hn]
    exact ⟨_, rfl, rfl⟩

/-- The server published its record when it started, and no other server is there. -/
theorem heard_lone (timing : Timing) {j : Nat} {n : Node}
    (hn : ((lone timing).step (.turn 0 .start)).nodes[j]? = some n) :
    (lone timing).heardAfter (fun _ => none) (.turn 0 .start) j = some 0 := by
  obtain ⟨m, hm, -⟩ := exists_of_getElem?_step hn
  obtain ⟨hlt, -⟩ := List.getElem?_eq_some_iff.1 hm
  obtain rfl : j = 0 := Nat.lt_one_iff.1 hlt
  rfl

/-- The heartbeat period in milliseconds is far from the ends of 64 bits. -/
theorem toInt_heartbeatMillis (timing : Timing) :
    (Int64.ofNat (1000 * timing.heartbeatSeconds)).toInt = 1000 * timing.heartbeatSeconds := by
  have hle := timing.heartbeatSeconds_le
  rw [Int64.toInt_ofNat_of_lt (by omega)]
  push_cast
  rfl

/-- The clock changes no node. -/
theorem nodes_clock (f : Fleet) (now : Int64) : (f.step (.clock now)).nodes = f.nodes := rfl

/-- The clock may always go on. -/
theorem permits_clock (f : Fleet) (now : Int64) : f.Permits (.clock now) := by
  refine ⟨by simp, fun j n _ _ hmem => ?_⟩
  cases hmem

/-- A server alone may start. -/
theorem permits_start_lone (timing : Timing) : (lone timing).Permits (.turn 0 .start) := by
  refine ⟨by simp, fun j n hn hrunning => ?_⟩
  exact absurd hrunning ((new_lone timing).not_isRunning hn)

/-- A server alone that started at time zero is punctual for one heartbeat period. -/
theorem punctual_lone (timing : Timing) {f : Fleet}
    (hnodes : f.nodes = ((lone timing).step (.turn 0 .start)).nodes)
    (hnow : f.now.toInt ≤ 1000 * timing.heartbeatSeconds) :
    f.Punctual (1000 * timing.heartbeatSeconds)
      ((lone timing).heardAfter (fun _ => none) (.turn 0 .start)) := by
  intro j n hn _
  rw [hnodes] at hn
  refine ⟨0, heard_lone timing hn, ?_⟩
  rw [Int64.toInt_zero, Int.sub_zero]
  push_cast
  exact hnow

/-- A server alone that waits for its first heartbeat is on schedule. -/
theorem onSchedule_lone (timing : Timing) :
    (lone timing).OnSchedule (1000 * timing.heartbeatSeconds) (fun _ => none)
      (untilHeartbeat timing) := by
  rw [untilHeartbeat, OnSchedule, OnSchedule, OnSchedule, heardAfter_clock]
  have hbefore : (lone timing).Punctual (1000 * timing.heartbeatSeconds) fun _ => none :=
    fun j n hn hrunning => absurd hrunning ((new_lone timing).not_isRunning hn)
  have hstarted : ((lone timing).step (.turn 0 .start)).now.toInt ≤
      1000 * timing.heartbeatSeconds := by
    have hzero : (lone timing).now.toInt = 0 := rfl
    rw [now_turn, hzero]
    omega
  exact ⟨hbefore, permits_start_lone timing, punctual_lone timing rfl hstarted, permits_clock _ _,
    punctual_lone timing (nodes_clock _ _) (toInt_heartbeatMillis timing).le⟩

/-- A server alone that waits for its first heartbeat is watched, and was heard from at time zero.
-/
theorem watched_lone (timing : Timing) :
    ((lone timing).run (untilHeartbeat timing)).Watched timing
      ((lone timing).heardAfter (fun _ => none) (.turn 0 .start)) := by
  have hstarted := (new_lone timing).watched.step (permits_start_lone timing)
  have hlater := hstarted.step (permits_clock _ (Int64.ofNat (1000 * timing.heartbeatSeconds)))
  rwa [heardAfter_clock] at hlater

/-- A server alone that waits for its first heartbeat runs and keeps a replica.

**Proof sketch.** The only node is enabled and idle, and the store is open, so its first turn starts
it. -/
theorem exists_started_lone (timing : Timing) : ∃ m,
    ((lone timing).run (untilHeartbeat timing)).nodes[0]? = some m ∧ m.member.isRunning ∧
      m.member.settings.syncs := by
  obtain ⟨m, hm⟩ : ∃ m, (lone timing).nodes[0]? = some m := ⟨_, rfl⟩
  have hpublishes : m.publishes (lone timing).now .start := by
    obtain rfl := Option.some.inj hm
    rfl
  have hsyncs : m.member.settings.syncs := by
    obtain rfl := Option.some.inj hm
    rfl
  have hstarted := getElem?_step_turn (lone timing) 0 0 .start
  rw [hm, Option.map_some, if_pos rfl, ← nodes_clock] at hstarted
  refine ⟨_, hstarted, Node.isRunning_turn_of_publishes rfl hpublishes, ?_⟩
  rw [Node.settings_turn]
  exact hsyncs

/-- **A server is forgotten when the timeout is shorter than the heartbeat period.** It need not be
late for that, and it is forgotten by itself.

**Proof sketch.** A server alone starts at time zero and reads everything again when its first
heartbeat is due. Until then it is on schedule, and its record is as old as the heartbeat period, so
it is stale and forgotten. -/
theorem not_keeps_of_lt (timing : Timing)
    (hshort : timing.timeoutSeconds < timing.heartbeatSeconds) : ¬Keeps timing := by
  intro hkeeps
  have hwatched := watched_lone timing
  obtain ⟨m, hm, hran, hsyncs⟩ := exists_started_lone timing
  obtain ⟨n, hn, replica, hmember⟩ := exists_getElem?_tick (i := 0) hm
  have hrunning : n.member.isRunning := by
    rwa [hmember]
  have hsyncs' : n.member.settings.syncs := by
    rwa [hmember]
  have hkept := (hkeeps (lone timing) (untilHeartbeat timing) (new_lone timing)
    (onSchedule_lone timing) 0 n hn hrunning hsyncs').kept n (List.mem_of_getElem? hn) hrunning
  obtain ⟨k, m', r, hm', -, hheard, -, hget⟩ :=
    hwatched.get?_servers_tick hn hrunning hsyncs' (hwatched.vouched 0 m hm hran)
  have hpublished : r.lastHeartbeat = 0 :=
    Option.some.inj (hheard.symm.trans (heard_lone timing hm'))
  have hstale : r.isStale ((lone timing).run (untilHeartbeat timing)).now timing.timeoutMillis := by
    have hnow : ((lone timing).run (untilHeartbeat timing)).now =
        Int64.ofNat (1000 * timing.heartbeatSeconds) := rfl
    have hle := timing.heartbeatSeconds_le
    rw [r.isStale_iff_of_lt _ (by rw [Timing.timeoutMillis]; omega), hpublished, hnow,
      toInt_heartbeatMillis, Int64.toInt_zero, Timing.timeoutMillis]
    omega
  have hid : n.member.serverId = m.member.serverId := by
    rw [hmember]
    rfl
  rw [Index.contains, hid, hget, if_pos hstale] at hkept
  cases hkept

/-- **Running servers are kept exactly when the heartbeat period is not longer than the timeout.**
Whatever the periods are, if the timeout fits in 64 bits, then in every run on schedule of a fleet
that uses these periods every full read leaves the node with all running servers, none of them
stale, if and only if a server has its next heartbeat before its record can be stale.

**Proof sketch.** The store lists for every running server the record that some running node of that
id published last, which every step of a run on schedule preserves: a record that is published is
listed at once, and nobody takes out the record of another server that runs. So a full read finds a
record that is at most one period old, and forgets none of them. If the timeout is shorter, a single
server that starts and reads everything again one period later has a record that is stale. -/
theorem keeps_iff (timing : Timing) (hfit : timing.timeoutMillis < 2 ^ 63) :
    Keeps timing ↔ timing.heartbeatSeconds ≤ timing.timeoutSeconds := by
  constructor
  · intro hkeeps
    by_contra hshort
    exact not_keeps_of_lt timing (Nat.lt_of_not_le hshort) hkeeps
  · intro hlong f steps hnew hsteps i n hn hrunning hsyncs
    obtain ⟨heard, hwatched, hpunctual⟩ := hnew.watched.run hsteps
    have hmillis : timing.timeoutMillis = 1000 * timing.timeoutSeconds := rfl
    exact hwatched.seesRunning hpunctual (by omega) (by omega) hn hrunning hsyncs

/-- The default periods keep running servers. -/
theorem keeps_default : Timing.timeoutMillis {} < 2 ^ 63 ∧ Keeps {} :=
  ⟨by decide, (keeps_iff {} (by decide)).2 (by decide)⟩

/-- **Accepted settings need not keep running servers**: a heartbeat every minute and a full read
every ten seconds, with the default timeout of 45 seconds. -/
theorem not_keeps_sixty : ¬Keeps { heartbeatInterval := 60, cacheRefresh := 10 } :=
  not_keeps_of_lt _ (by decide)

end Fleet

end FleetStatus
