import Mathlib.Logic.Function.Basic
import FleetStatus.Directory
import FleetStatus.Node
import FleetStatus.Proofs.Member.Queue

set_option relaxedAutoImplicit false
set_option autoImplicit false

/-!
# The life of a member

A start takes several steps: it is begun, a store is reached, the store takes the server's record,
and only then the member runs. Between these steps the other calls of the server go on, a further
start and a stop among them, and so does all that a running member does in the background. The
stores there are have numbers; other servers use them too.

Whatever the order, a member runs at most once, and while it does not run it is as good as absent:
it takes no player changes, knows of no server but its own, and the answers to datagrams are those
of a server without a member.

## Main definitions

* `FleetStatus.Call` — what the server and the background ask a member for.
* `FleetStatus.Life`, `FleetStatus.Life.step` — a member, its stores and the start under way.
* `FleetStatus.Phase.Moves` — how the phase of a member may change.
* `FleetStatus.Member.Detached` — a member that is as good as absent.
* `FleetStatus.Life.Lawful` — what is asked of a member at any point of its life.

## Main results

* `FleetStatus.Life.run_startWith`, `FleetStatus.Life.run_start` — without interruption, the steps
  of a start are the start of the member.
* `FleetStatus.Member.detached` — a member that does not run is detached.
* `FleetStatus.Life.lawful_run` — every life is lawful.
-/

namespace FleetStatus

/-! ## Calls of a member -/

/-- What a member is asked for besides a start, by its server or in the background. -/
inductive Call where
  | stop
  /-- A player change whose outcome is waited for. -/
  | record (c : PlayerChange)
  /-- A player change that is only reported. -/
  | notify (c : PlayerChange)
  /-- The worker of the queue records a change. -/
  | work
  | beat (r : HostReport) (now : Int64)
  | tail (now : Int64)
  | readAgain (now : Int64)
  /-- A full read for the server. -/
  | fetch (now : Int64)
  deriving DecidableEq

/-- A member and its store after a call. -/
def Call.perform (m : Member) (s : Store) : Call → Member × Store
  | .stop => m.stop s
  | .record c => (m.recordNow c s).2
  | .notify c => ((m.enqueue c).toOption.getD m, s)
  | .work => (m.work s).2
  | .beat r now => (m, m.beat r now s)
  | .tail now => (m.followOnce now s, s)
  | .readAgain now => m.readAgain now s
  | .fetch now => (m, (m.fetch now s).2)

/-! ## Steps of a life -/

/-- How far a start that is under way has come. -/
inductive Start where
  /-- The store that the settings name is to be reached. -/
  | seeking
  /-- The store with a number is at hand. -/
  | reached (store : Nat)
  /-- The store with a number took the server's record. -/
  | published (store : Nat) (r : HostReport)
  deriving DecidableEq

/-- A member with all stores there are. -/
structure Life where
  member : Member
  /-- The stores by their numbers. -/
  stores : Nat → Store
  /-- The start that is under way. -/
  start : Option Start := none
  /-- The store of the start that succeeded. -/
  home : Option Nat := none
  /-- What the starts that came to an end answered, in this order. -/
  answers : List (Except MemberError Unit) := []

namespace Life

/-- A member with given settings that was not started. -/
def begun (settings : NetworkSettings) (stores : Nat → Store) : Life :=
  { member := .new settings, stores }

/-- One step of the member or of another server. -/
inductive Step where
  /-- A start on a store that is at hand. -/
  | startWith (store : Nat)
  /-- A start on the store that the settings name. -/
  | start
  /-- The store that the settings name is reached, or not. -/
  | connect (answer : Except StoreError Nat)
  /-- The server's record is published on the store of the start. -/
  | publish (r : HostReport) (now : Int64)
  /-- The start comes to its end. -/
  | complete (now : Int64)
  | call (c : Call)
  /-- Another server uses a store. -/
  | other (store : Nat) (op : Store.Operation)
  deriving DecidableEq

/-- The life with another store of a number. -/
def withStore (l : Life) (i : Nat) (s : Store) : Life :=
  { l with stores := Function.update l.stores i s }

/-- Begin a start. One that is refused has come to its end. -/
def begin (l : Life) (first : Start) : Life :=
  match l.member.begin with
  | .error e => { l with answers := l.answers ++ [.error e] }
  | .ok member => { l with member, start := some first }

/-- The start under way fails. -/
def fail (l : Life) (e : MemberError) : Life :=
  { l with member := l.member.failed, start := none, answers := l.answers ++ [.error e] }

/-- The life after a step. A step whose turn has not come changes nothing, and neither does a call
before the member has a store. -/
def step (l : Life) : Step → Life
  | .startWith i => l.begin (.reached i)
  | .start => l.begin .seeking
  | .connect answer =>
    match l.start with
    | some .seeking =>
      match l.member.settings.store.kind? with
      | .error e => l.fail (.settings e)
      | .ok .redis =>
        match answer with
        | .error e => l.fail (.connection e)
        | .ok i => { l with start := some (.reached i) }
    | _ => l
  | .publish r now =>
    match l.start with
    | some (.reached i) =>
      match (l.stores i).register (r.record l.member.serverId now) with
      | .error e => (l.withStore i (l.stores i).close).fail (.registration e)
      | .ok s => { l.withStore i s with start := some (.published i r) }
    | _ => l
  | .complete now =>
    match l.start with
    | some (.published i r) =>
      let (member, store) := l.member.complete r now (l.stores i)
      { l.withStore i store with
        member
        start := none
        home := some i
        answers := l.answers ++ [.ok ()] }
    | _ => l
  | .call c =>
    match l.home with
    | none => l
    | some i =>
      let (member, store) := c.perform l.member (l.stores i)
      { l.withStore i store with member }
  | .other i op => l.withStore i ((l.stores i).perform op)

/-- The life after several steps in turn. -/
def run (l : Life) (steps : List Step) : Life := steps.foldl step l

/-- No steps leave a life as it is. -/
@[simp]
theorem run_nil (l : Life) : l.run [] = l := rfl

/-- The first of several steps is taken first. -/
@[simp]
theorem run_cons (l : Life) (st : Step) (steps : List Step) :
    l.run (st :: steps) = (l.step st).run steps := rfl

/-- Two runs in turn are one run. -/
theorem run_append (l : Life) (steps steps' : List Step) :
    l.run (steps ++ steps') = (l.run steps).run steps' := List.foldl_append

/-- To put back the store that is there changes nothing. -/
@[simp]
theorem withStore_self (l : Life) (i : Nat) : l.withStore i (l.stores i) = l := by
  simp [withStore]

/-! ## Starts without interruption -/

section Start

variable {l : Life} {i : Nat}

/-- A start that is refused only adds its answer. -/
theorem begin_of_error {e : MemberError} (h : l.member.begin = .error e) (first : Start) :
    l.begin first = { l with answers := l.answers ++ [.error e] } := by
  simp only [begin, h]

/-- A start that is not refused is under way, and the member is starting. -/
theorem begin_of_ok {m : Member} (h : l.member.begin = .ok m) (first : Start) :
    l.begin first = { l with member := m, start := some first } := by
  simp only [begin, h]

/-- Nobody looks for a store without a start. -/
theorem step_connect_of_none (h : l.start = none) (answer : Except StoreError Nat) :
    l.step (.connect answer) = l := by
  simp only [step, h]

/-- A start fails if the settings name no kind of store. -/
theorem step_connect_of_settings (h : l.start = some .seeking) {e : SettingsError}
    (hkind : l.member.settings.store.kind? = .error e) (answer : Except StoreError Nat) :
    l.step (.connect answer) = l.fail (.settings e) := by
  simp only [step, h, hkind]

/-- A start fails if the store is not reached. -/
theorem step_connect_of_error (h : l.start = some .seeking) {kind : StoreKind}
    (hkind : l.member.settings.store.kind? = .ok kind) (e : StoreError) :
    l.step (.connect (.error e)) = l.fail (.connection e) := by
  simp only [step, h, hkind]

/-- A start goes on with the store that was reached. -/
theorem step_connect_of_ok (h : l.start = some .seeking) {kind : StoreKind}
    (hkind : l.member.settings.store.kind? = .ok kind) (i : Nat) :
    l.step (.connect (.ok i)) = { l with start := some (.reached i) } := by
  simp only [step, h, hkind]

/-- A start fails if the store does not take the record, and the store is closed. -/
theorem step_publish_of_error (h : l.start = some (.reached i)) {r : HostReport} {now : Int64}
    {e : StoreError} (hstore : (l.stores i).register (r.record l.member.serverId now) = .error e) :
    l.step (.publish r now) = (l.withStore i (l.stores i).close).fail (.registration e) := by
  simp only [step, h, hstore]

/-- A start goes on with the store that took the record. -/
theorem step_publish_of_ok (h : l.start = some (.reached i)) {r : HostReport} {now : Int64}
    {s : Store} (hstore : (l.stores i).register (r.record l.member.serverId now) = .ok s) :
    l.step (.publish r now) = { l.withStore i s with start := some (.published i r) } := by
  simp only [step, h, hstore]

/-- The last step of a start succeeds, and its store is the home of the member. -/
theorem step_complete {r : HostReport} (h : l.start = some (.published i r)) (now : Int64) :
    l.step (.complete now) =
      let (member, store) := l.member.complete r now (l.stores i)
      { l.withStore i store with
        member
        start := none
        home := some i
        answers := l.answers ++ [.ok ()] } := by
  simp only [step, h]

/-- Without a start under way there is nothing to publish and to complete. -/
theorem run_of_start_eq_none (h : l.start = none) (r : HostReport) (now : Int64) :
    l.run [.publish r now, .complete now] = l := by
  simp only [run_cons, run_nil, step, h]

/-- After a failure there is nothing to publish and to complete. -/
theorem run_fail (l : Life) (e : MemberError) (r : HostReport) (now : Int64) :
    (l.fail e).run [.publish r now, .complete now] = l.fail e :=
  run_of_start_eq_none rfl r now

/-- With a store at hand the steps that are left are the last part of the member's start.

**Proof sketch.** By whether the store takes the record: if it does, the last step is that of the
member; if not, nothing is left to complete. -/
theorem run_reached (h : l.start = some (.reached i)) (r : HostReport) (now : Int64) :
    l.run [.publish r now, .complete now] =
      let (answer, member, store) := l.member.finish r now (l.stores i)
      { l.withStore i store with
        member
        start := none
        home := if answer.toBool then some i else l.home
        answers := l.answers ++ [answer] } := by
  simp only [run_cons, run_nil]
  cases hstore : (l.stores i).register (r.record l.member.serverId now) with
  | error e =>
    rw [step_publish_of_error h hstore]
    simp only [Member.finish, hstore]
    rfl
  | ok s =>
    rw [step_publish_of_ok h hstore, step_complete rfl]
    simp [Member.finish, hstore, withStore, Except.toBool]

/-- **Without interruption the steps of a start on a store are the start of the member.**

**Proof sketch.** By whether the start is refused. If not, a store is at hand and `run_reached`
tells the rest. -/
theorem run_startWith (h : l.start = none) (i : Nat) (r : HostReport) (now : Int64) :
    l.run [.startWith i, .publish r now, .complete now] =
      let (answer, member, store) := l.member.startWith r now (l.stores i)
      { l.withStore i store with
        member
        home := if answer.toBool then some i else l.home
        answers := l.answers ++ [answer] } := by
  show (l.begin (.reached i)).run [.publish r now, .complete now] = _
  cases hbegin : l.member.begin with
  | error e =>
    rw [begin_of_error hbegin, run_of_start_eq_none (by exact h)]
    simp [Member.startWith, hbegin, Except.toBool, withStore]
  | ok m =>
    rw [begin_of_ok hbegin, run_reached rfl]
    simp [Member.startWith, hbegin, withStore, h]

/-- **Without interruption the steps of a start on the store of the settings are the start of the
member**, which reaches the stores there are.

**Proof sketch.** By cases on why a start may end: it is refused, the settings name no kind of
store, or the store is not reached. Otherwise a store is at hand and `run_reached` tells the rest.
-/
theorem run_start (h : l.start = none) (answer : Except StoreError Nat) (r : HostReport)
    (now : Int64) :
    let after := l.run [.start, .connect answer, .publish r now, .complete now]
    let (result, member, store) := l.member.start r now fun _ => answer.map l.stores
    after.member = member ∧ after.answers = l.answers ++ [result] ∧
      after.stores = match answer, store with
        | .ok i, some s => Function.update l.stores i s
        | _, _ => l.stores := by
  intro after
  have hafter : after = ((l.begin .seeking).step (.connect answer)).run
    [.publish r now, .complete now] := rfl
  cases hbegin : l.member.begin with
  | error e =>
    -- the member is not idle or not enabled, so no start is under way
    have hnone : (l.begin .seeking).start = none := by rw [begin_of_error hbegin]; exact h
    rw [step_connect_of_none hnone, run_of_start_eq_none hnone, begin_of_error hbegin] at hafter
    have hstart : l.member.start r now (fun _ => answer.map l.stores) =
        (.error e, l.member, none) := by simp only [Member.start, hbegin]
    rw [hafter, hstart]
    exact ⟨rfl, rfl, by cases answer <;> rfl⟩
  | ok m =>
    obtain ⟨hseeking, hmember⟩ : (l.begin .seeking).start = some .seeking ∧
        (l.begin .seeking).member = m := by
      rw [begin_of_ok hbegin]
      exact ⟨rfl, rfl⟩
    cases hkind : m.settings.store.kind? with
    | error e =>
      -- the settings name no store that is known
      rw [step_connect_of_settings hseeking (hmember ▸ hkind), run_fail,
        begin_of_ok hbegin] at hafter
      have hstart : l.member.start r now (fun _ => answer.map l.stores) =
          (.error (.settings e), m.failed, none) := by simp only [Member.start, hbegin, hkind]
      rw [hafter, hstart]
      exact ⟨rfl, rfl, by cases answer <;> rfl⟩
    | ok kind =>
      cases answer with
      | error e =>
        -- the store cannot be reached
        rw [step_connect_of_error hseeking (hmember ▸ hkind), run_fail,
          begin_of_ok hbegin] at hafter
        have hstart : l.member.start r now (fun _ => (Except.error e).map l.stores) =
            (.error (.connection e), m.failed, none) := by
          simp only [Member.start, hbegin, hkind, Except.map]
        rw [hafter, hstart]
        exact ⟨rfl, rfl, rfl⟩
      | ok i =>
        rw [step_connect_of_ok hseeking (hmember ▸ hkind), begin_of_ok hbegin] at hafter
        have hstart : l.member.start r now (fun _ => (Except.ok i).map l.stores) =
            ((m.finish r now (l.stores i)).1, (m.finish r now (l.stores i)).2.1,
              some (m.finish r now (l.stores i)).2.2) := by
          simp only [Member.start, hbegin, hkind, Except.map]
        have hreached := hafter.trans
          (run_reached (l := { l with member := m, start := some (.reached i) }) rfl r now)
        rw [hreached, hstart]
        exact ⟨rfl, rfl, rfl⟩

end Start

end Life

/-! ## Members that do not run -/

/-- How the phase of a member may change in one step. -/
inductive Phase.Moves : Phase → Phase → Prop
  | refl (phase : Phase) : Moves phase phase
  /-- What a running member keeps may change. -/
  | session (s s' : Session) : Moves (.running s) (.running s')
  | begin : Moves .idle .starting
  | run (s : Session) : Moves .starting (.running s)
  | fail : Moves .starting .unavailable
  | stop (s : Session) : Moves (.running s) .stopped

namespace Member

/-- **A detached member** is as good as absent: it takes no player changes and asks the store for
nothing, the fleet that it knows of is its own server, and a node with it answers datagrams as one
without it. -/
structure Detached (m : Member) : Prop where
  recordNow : ∀ (c : PlayerChange) (s : Store), m.recordNow c s = (.error .notRunning, m, s)
  enqueue : ∀ c : PlayerChange, m.enqueue c = .error .notRunning
  fetch : ∀ (now : Int64) (s : Store), m.fetch now s = (.error .notRunning, s)
  /-- No call changes the member or reaches a store. -/
  perform : ∀ (c : Call) (s : Store), c.perform m s = (m, s)
  aggregatedSnapshot : ∀ now : Int64, m.aggregatedSnapshot now = none
  networkSnapshot : ∀ (r : HostReport) (now : Int64),
    m.networkSnapshot r now = r.snapshot m.serverId now
  directory : Directory.open? (some m) = none
  reply : ∀ n : Node, n.member = m → ∀ (now : Int64) (ip : Ip) (datagram : Bytes),
    n.reply now ip datagram = { n with attached := false }.reply now ip datagram

variable {m : Member}

/-- The worker finds nothing to record at a member that does not run. -/
theorem work_of_not_isRunning (h : m.isRunning = false) (s : Store) : m.work s = (none, m, s) := by
  unfold work
  split
  next session hphase => exact absurd (isRunning_of_phase hphase) (by simp [h])
  next => rfl

/-- A member that does not run does not read the log. -/
theorem followOnce_of_not_isRunning (h : m.isRunning = false) (now : Int64) (s : Store) :
    m.followOnce now s = m := by
  have hsession : m.session? = none := by
    unfold session?
    split
    next session hphase => exact absurd (isRunning_of_phase hphase) (by simp [h])
    next => rfl
  simp [followOnce, hsession]

/-- A call asks nothing of a member that does not run. -/
theorem perform_of_not_isRunning (h : m.isRunning = false) (c : Call) (s : Store) :
    c.perform m s = (m, s) := by
  cases c with
  | stop => simp [Call.perform, stop, h]
  | record c => rw [Call.perform, recordNow_of_not_isRunning h]
  | notify c => rw [Call.perform, enqueue_of_not_isRunning h]; rfl
  | work => rw [Call.perform, work_of_not_isRunning h]
  | beat r now => simp [Call.perform, beat, h]
  | tail now => rw [Call.perform, followOnce_of_not_isRunning h]
  | readAgain now => simp [Call.perform, readAgain, h]
  | fetch now => simp [Call.perform, fetch, h]

/-- **A member that does not run is detached.**

**Proof sketch.** Each of its calls asks first whether the member runs. The answers to datagrams are
those of the view without a fleet, as the member gives no snapshot. -/
theorem detached (h : m.isRunning = false) : m.Detached where
  recordNow := recordNow_of_not_isRunning h
  enqueue := enqueue_of_not_isRunning h
  fetch now s := by simp [Member.fetch, h]
  perform := perform_of_not_isRunning h
  aggregatedSnapshot now := by simp [Member.aggregatedSnapshot, h]
  networkSnapshot r now := by simp [Member.networkSnapshot, h]
  directory := by simp [Directory.open?, Option.filter, h]
  reply n hn now ip datagram := by
    simp [Node.reply, Node.view, hn, Member.aggregatedSnapshot, h, Node.report]

/-- A call to a running member leaves it running, or stops it.

**Proof sketch.** By cases on the call. A stop ends with the phase stopped. All others change the
queue, the replica or the place in the log of the session, which goes on. -/
theorem isRunning_perform_or (h : m.isRunning) (c : Call) (s : Store) :
    (c.perform m s).1.isRunning ∨ (c.perform m s).1.phase = .stopped := by
  cases c with
  | stop =>
    right
    simp [Call.perform, stop, h, leaveFleet, tell]
  | record c =>
    left
    simp only [Call.perform, recordNow, h, if_true]
    rw [drain_of_isRunning h]
    exact isRunning_withQueue h []
  | notify c =>
    left
    rw [Call.perform, enqueue_of_isRunning h]
    exact isRunning_withQueue h _
  | work =>
    left
    obtain ⟨session, hphase⟩ := exists_phase h
    simp only [Call.perform, work, hphase]
    cases session.queue with
    | nil => exact h
    | cons c rest => rfl
  | beat r now => exact .inl h
  | tail now => exact .inl ((isRunning_followOnce m now s).trans h)
  | readAgain now =>
    left
    simp only [Call.perform, readAgain]
    split
    · split
      · exact h
      · exact h
    · exact h
  | fetch now => exact .inl h

/-- A start is refused when taking part is switched off or the member was started before. -/
theorem begin_eq_error {e : MemberError} (h : m.begin = .error e) :
    e = .disabled ∨ e = .alreadyStarted := by
  unfold begin at h
  split at h
  · exact .inl (Except.error.inj h).symm
  · split at h
    · cases h
    · exact .inr (Except.error.inj h).symm

/-- Only an idle member begins to start. -/
theorem begin_eq_ok {m' : Member} (h : m.begin = .ok m') :
    m.phase = .idle ∧ m' = { m with phase := .starting } := by
  unfold begin at h
  split at h
  · cases h
  · split at h
    next hidle => exact ⟨hidle, (Except.ok.inj h).symm⟩
    next => cases h

/-- The last part of a start never answers that the start is refused. -/
theorem finish_ne_refused {r : HostReport} {now : Int64} {s : Store} {e : MemberError}
    (h : (m.finish r now s).1 = .error e) : e ≠ .disabled ∧ e ≠ .alreadyStarted := by
  unfold finish at h
  split at h
  next cause _ => exact Except.error.inj h ▸ ⟨nofun, nofun⟩
  next => cases h

/-- **A start that is refused changes neither the member nor the store.** -/
theorem startWith_of_refused {r : HostReport} {now : Int64} {s : Store} {e : MemberError}
    (he : e = .disabled ∨ e = .alreadyStarted) (h : (m.startWith r now s).1 = .error e) :
    (m.startWith r now s).2 = (m, s) := by
  unfold startWith at h ⊢
  split at h
  next => rfl
  next m' hbegin =>
    obtain ⟨hdisabled, hstarted⟩ := finish_ne_refused h
    exact (he.elim hdisabled hstarted).elim

/-- A start on the store of the settings that is refused changes nothing either, and reaches no
store.

**Proof sketch.** A start is refused for these reasons when it begins, and neither the store nor the
end of a start gives one of them. -/
theorem start_of_refused {r : HostReport} {now : Int64} {connect : String → Except StoreError Store}
    {e : MemberError} (he : e = .disabled ∨ e = .alreadyStarted)
    (h : (m.start r now connect).1 = .error e) : (m.start r now connect).2 = (m, none) := by
  unfold start at h ⊢
  split at h
  next => rfl
  next m' hbegin =>
    exfalso
    split at h
    next => obtain rfl | rfl := he <;> cases h
    next =>
      split at h
      next => obtain rfl | rfl := he <;> cases h
      next s _ =>
        obtain ⟨hdisabled, hstarted⟩ := finish_ne_refused h
        exact he.elim hdisabled hstarted

end Member

/-! ## What a step may change -/

/-- Whether a member was ever brought to run. -/
def Phase.hasRun : Phase → Bool
  | .running _ | .stopped => true
  | .idle | .starting | .unavailable => false

namespace Life

/-- A call asks nothing of a member that does not run. -/
theorem step_call_of_not_isRunning {l : Life} (h : l.member.isRunning = false) (c : Call) :
    l.step (.call c) = l := by
  simp only [step]
  split
  · rfl
  next i _ =>
    rw [Member.perform_of_not_isRunning h]
    exact withStore_self l i

/-- **All that a step may do** to the phase, the start under way and the answers. -/
inductive Change (l l' : Life) : Prop
  | none (hmember : l'.member = l.member) (hstart : l'.start.isSome = l.start.isSome)
    (hanswers : l'.answers = l.answers)
  | refused (e : MemberError) (h : l' = { l with answers := l.answers ++ [.error e] })
  | begun (hidle : l.member.phase = .idle) (hstarting : l'.member.phase = .starting)
    (hstart : l'.start.isSome) (hanswers : l'.answers = l.answers)
  | failed (e : MemberError) (hstart : l.start.isSome) (hphase : l'.member.phase = .unavailable)
    (hstart' : l'.start = .none) (hanswers : l'.answers = l.answers ++ [.error e])
  | completed (hstart : l.start.isSome) (hrunning : l'.member.isRunning)
    (hstart' : l'.start = .none) (hanswers : l'.answers = l.answers ++ [.ok ()])
  | called (hrunning : l.member.isRunning)
    (hphase : l'.member.isRunning ∨ l'.member.phase = .stopped) (hstart : l'.start = l.start)
    (hanswers : l'.answers = l.answers)

/-- Beginning a start is refused, or it takes an idle member to starting. -/
theorem change_begin (l : Life) (first : Start) : Change l (l.begin first) := by
  cases hbegin : l.member.begin with
  | error e => exact begin_of_error hbegin first ▸ .refused e rfl
  | ok m =>
    obtain ⟨hidle, rfl⟩ := Member.begin_eq_ok hbegin
    rw [begin_of_ok hbegin]
    exact .begun hidle rfl rfl rfl

/-- A start that is completed ends with a member that runs. -/
theorem isRunning_complete (m : Member) (r : HostReport) (now : Int64) (s : Store) :
    (m.complete r now s).1.isRunning := by
  unfold Member.complete
  split
  · rfl
  · rfl

/-- **Each step changes a life in one of these ways.**

**Proof sketch.** By cases on the step and on how far the start has come. A step whose turn has not
come changes nothing, and neither does a call to a member that does not run. -/
theorem change_step (l : Life) (x : Step) : Change l (l.step x) := by
  cases x with
  | startWith i => exact change_begin l _
  | start => exact change_begin l _
  | connect answer =>
    simp only [step]
    split
    next hstart =>
      split
      next => exact .failed _ (by simp [hstart]) rfl rfl rfl
      next =>
        split
        next => exact .failed _ (by simp [hstart]) rfl rfl rfl
        next => exact .none rfl (by simp [hstart]) rfl
    next => exact .none rfl rfl rfl
  | publish r now =>
    simp only [step]
    split
    next i hstart =>
      split
      next => exact .failed _ (by simp [hstart]) rfl rfl rfl
      next => exact .none rfl (by simp [hstart]) rfl
    next => exact .none rfl rfl rfl
  | complete now =>
    simp only [step]
    split
    next i r hstart =>
      -- the start ends, well or not
      exact .completed (by simp [hstart]) (isRunning_complete _ r now _) rfl rfl
    next => exact .none rfl rfl rfl
  | call c =>
    simp only [step]
    split
    next => exact .none rfl rfl rfl
    next i hhome =>
      cases hrunning : l.member.isRunning with
      | true => exact .called hrunning (Member.isRunning_perform_or hrunning c _) rfl rfl
      | false =>
        have hsame := Member.perform_of_not_isRunning hrunning c (l.stores i)
        exact .none (congrArg Prod.fst hsame) rfl rfl
  | other i op => exact .none rfl rfl rfl

/-! ## Players while the member does not run -/

/-- Whether a step is one of the member and not of another server. -/
def Step.isOwn : Step → Bool
  | .other _ _ => false
  | _ => true

/-- The stores hold the same players at the same places. -/
def SamePlayers (l l' : Life) : Prop :=
  ∀ i, (l'.stores i).rosters = (l.stores i).rosters ∧
    (l'.stores i).locations = (l.stores i).locations

variable {l l' : Life}

/-- A store with the same players in the place of another one moves none. -/
theorem samePlayers_update {i : Nat} {s : Store} (hrosters : s.rosters = (l.stores i).rosters)
    (hlocations : s.locations = (l.stores i).locations)
    (hstores : l'.stores = Function.update l.stores i s) : l.SamePlayers l' := by
  intro j
  rw [hstores, Function.update_apply]
  split
  next heq => exact heq ▸ ⟨hrosters, hlocations⟩
  next => exact ⟨rfl, rfl⟩

/-- Publishing a server's record moves no player. -/
theorem register_samePlayers {s t : Store} {r : ServerRecord} (h : s.register r = .ok t) :
    t.rosters = s.rosters ∧ t.locations = s.locations := by
  unfold Store.register Store.whenOpen at h
  split at h
  · cases h
  · exact Except.ok.inj h ▸ ⟨rfl, rfl⟩

/-- Reading everything moves no player. -/
theorem fetch_samePlayers {s t : Store} {now : Int64} {snapshot : Snapshot}
    (h : s.fetch now = .ok (snapshot, t)) : t.rosters = s.rosters ∧ t.locations = s.locations := by
  unfold Store.fetch Store.whenOpen at h
  split at h
  · cases h
  · obtain ⟨-, rfl⟩ := Prod.mk.inj (Except.ok.inj h)
    exact ⟨Store.healed_frame (·.rosters) (fun _ _ => rfl) s,
      s.locations_healed⟩

/-- The last step of a start moves no player. -/
theorem complete_samePlayers (m : Member) (r : HostReport) (now : Int64) (s : Store) :
    (m.complete r now s).2.rosters = s.rosters ∧
      (m.complete r now s).2.locations = s.locations := by
  unfold Member.complete
  split
  · cases hfetch : s.fetch now with
    | error e => exact ⟨rfl, rfl⟩
    | ok read => exact fetch_samePlayers hfetch
  · exact ⟨rfl, rfl⟩

/-- **No player change of a member that does not run reaches a store.**

**Proof sketch.** By cases on the step. A start publishes a record, reads or closes a store, which
moves no player, and the calls of a member that does not run do not reach a store. -/
theorem samePlayers_step (h : l.member.isRunning = false) {x : Step} (hx : x.isOwn) :
    l.SamePlayers (l.step x) := by
  have hsame {l' : Life} (hstores : l'.stores = l.stores) : l.SamePlayers l' :=
    fun i => hstores ▸ ⟨rfl, rfl⟩
  have hbegin (first : Start) : l.SamePlayers (l.begin first) := by
    unfold begin
    split
    · exact hsame rfl
    · exact hsame rfl
  cases x with
  | startWith i => exact hbegin _
  | start => exact hbegin _
  | connect answer =>
    simp only [step]
    split
    next =>
      split
      next => exact hsame rfl
      next => split <;> exact hsame rfl
    next => exact hsame rfl
  | publish r now =>
    simp only [step]
    split
    next i hstart =>
      split
      next =>
        -- a store that refuses the record is closed, with its players in it
        exact samePlayers_update (i := i) (s := (l.stores i).close) rfl rfl rfl
      next s hregister =>
        obtain ⟨hrosters, hlocations⟩ := register_samePlayers hregister
        exact samePlayers_update hrosters hlocations rfl
    next => exact hsame rfl
  | complete now =>
    simp only [step]
    split
    next i r hstart =>
      obtain ⟨hrosters, hlocations⟩ := complete_samePlayers l.member r now (l.stores i)
      exact samePlayers_update hrosters hlocations rfl
    next => exact hsame rfl
  | call c =>
    simp only [step]
    split
    next => exact hsame rfl
    next i _ =>
      have hstore := congrArg Prod.snd (Member.perform_of_not_isRunning h c (l.stores i))
      exact samePlayers_update (congrArg (·.rosters) hstore) (congrArg (·.locations) hstore) rfl
  | other i op => cases hx

/-! ## Every life is lawful -/

/-- What every step keeps. -/
structure Sound (l : Life) : Prop where
  starting_iff : l.member.phase = .starting ↔ l.start.isSome
  successes : l.answers.countP Except.toBool = if l.member.phase.hasRun then 1 else 0

/-- **A lawful life**, at one point of it. -/
structure Lawful (l : Life) : Prop where
  /-- The member is starting while a start is under way. -/
  starting_iff : l.member.phase = .starting ↔ l.start.isSome
  /-- From idle a start leads to running or to unavailable, from running a stop to stopped. -/
  moves : ∀ x, Phase.Moves l.member.phase (l.step x).member.phase
  /-- At most one start succeeds. -/
  successes : l.answers.countP Except.toBool ≤ 1
  /-- A start that is refused changes nothing, whether it is taken by steps or in one piece. -/
  refused : ∀ e, l.member.begin = .error e → (e = .disabled ∨ e = .alreadyStarted) ∧
    (∀ i, l.step (.startWith i) = { l with answers := l.answers ++ [.error e] }) ∧
    l.step .start = { l with answers := l.answers ++ [.error e] }
  refused_startWith : ∀ r now s e, e = .disabled ∨ e = .alreadyStarted →
    (l.member.startWith r now s).1 = .error e → (l.member.startWith r now s).2 = (l.member, s)
  refused_start : ∀ r now connect e, e = .disabled ∨ e = .alreadyStarted →
    (l.member.start r now connect).1 = .error e →
      (l.member.start r now connect).2 = (l.member, none)
  /-- A store that does not take the server's record is closed afterwards, no other store is touched,
  and the member is unavailable. -/
  registration : ∀ i r now e, l.start = some (.reached i) →
    (l.stores i).register (r.record l.member.serverId now) = .error e →
      (l.step (.publish r now)).member.phase = .unavailable ∧
      ((l.step (.publish r now)).stores i).closed = true ∧
      (l.step (.publish r now)).stores = Function.update l.stores i (l.stores i).close ∧
      (l.step (.publish r now)).answers = l.answers ++ [.error (.registration e)]
  /-- A member that does not run is as good as absent. -/
  detached : l.member.isRunning = false → l.member.Detached
  /-- Its calls change nothing. -/
  calls : l.member.isRunning = false → ∀ c, l.step (.call c) = l
  /-- None of its steps moves a player in any store. A stop is one step here, and what it drains from
  the queue is recorded in that step, which is taken by a member that runs; the changes that are
  offered once it has begun are those of a member that does not. `FleetStatus.Tenure` takes a stop
  apart and keeps that order. -/
  players : l.member.isRunning = false → ∀ x, x.isOwn → l.SamePlayers (l.step x)

/-- A member that was not started is sound. -/
theorem sound_begun (settings : NetworkSettings) (stores : Nat → Store) :
    (begun settings stores).Sound where
  starting_iff := by simp [begun, Member.new]
  successes := rfl

/-- While a start is under way the member is starting. -/
theorem Sound.phase_eq (h : l.Sound) (hstart : l.start.isSome) : l.member.phase = .starting :=
  h.starting_iff.2 hstart

/-- A member that runs has run. -/
theorem hasRun_of_isRunning {m : Member} (h : m.isRunning) : m.phase.hasRun := by
  obtain ⟨session, hphase⟩ := Member.exists_phase h
  rw [hphase]
  rfl

/-- A member that has run is not starting. -/
theorem ne_starting_of_hasRun {phase : Phase} (h : phase.hasRun) : phase ≠ .starting := by
  rintro rfl
  cases h

/-- A phase that a member comes to run in goes with no start under way. -/
theorem Sound.of_hasRun (hphase : l.member.phase.hasRun) (hstart : l.start = none)
    (hanswers : l.answers.countP Except.toBool = 1) : l.Sound where
  starting_iff := by simp [hstart, ne_starting_of_hasRun hphase]
  successes := by rw [hanswers, if_pos hphase]

/-- **Each of the changes keeps a life sound.**

**Proof sketch.** By cases on the change. Only the last step of a start adds an answer that is a
success, and it takes a member that has not run to one that runs. From then on the member has run,
so no start is begun and no success is added. -/
theorem Sound.change (h : l.Sound) (hchange : Change l l') : l'.Sound := by
  have hanswers := h.successes
  cases hchange with
  | none hmember hstart hsame =>
    exact ⟨by rw [hmember, hstart]; exact h.starting_iff, by rw [hmember, hsame]; exact hanswers⟩
  | refused e heq =>
    subst heq
    exact ⟨h.starting_iff, by simpa [Except.toBool] using hanswers⟩
  | begun hidle hstarting hstart hsame =>
    rw [hidle] at hanswers
    exact ⟨by simp [hstarting, hstart], by rw [hstarting, hsame, hanswers]; rfl⟩
  | failed e hstart hphase hstart' hone =>
    rw [h.phase_eq hstart] at hanswers
    refine ⟨by simp [hphase, hstart'], ?_⟩
    rw [hone, List.countP_append, hanswers, hphase]
    rfl
  | completed hstart hrunning hstart' hone =>
    rw [h.phase_eq hstart] at hanswers
    refine Sound.of_hasRun (hasRun_of_isRunning hrunning) hstart' ?_
    rw [hone, List.countP_append, hanswers]
    rfl
  | called hrunning hphase hstart hsame =>
    have hran := hasRun_of_isRunning hrunning
    rw [if_pos hran] at hanswers
    have hnone : l.start = .none := by
      rw [← Option.not_isSome_iff_eq_none, ← h.starting_iff]
      exact ne_starting_of_hasRun hran
    have hran' : l'.member.phase.hasRun := hphase.elim hasRun_of_isRunning fun heq => heq ▸ rfl
    exact Sound.of_hasRun hran' (hstart.trans hnone) (hsame ▸ hanswers)

/-- Every run keeps a life sound. -/
theorem Sound.run (h : l.Sound) (steps : List Step) : (l.run steps).Sound := by
  induction steps generalizing l with
  | nil => exact h
  | cons x steps ih => exact ih (h.change (change_step l x))

/-- **The phase moves as it may.**

**Proof sketch.** By cases on the change. A start fails or succeeds only while it is under way, so
from the phase starting. -/
theorem Sound.moves (h : l.Sound) (hchange : Change l l') :
    Phase.Moves l.member.phase l'.member.phase := by
  cases hchange with
  | none hmember => exact hmember ▸ .refl _
  | refused e heq => exact heq ▸ .refl _
  | begun hidle hstarting => exact hidle ▸ hstarting ▸ .begin
  | failed e hstart hphase => exact h.phase_eq hstart ▸ hphase ▸ .fail
  | completed hstart hrunning =>
    obtain ⟨session, hphase⟩ := Member.exists_phase hrunning
    exact h.phase_eq hstart ▸ hphase ▸ .run session
  | called hrunning hphase =>
    obtain ⟨session, hbefore⟩ := Member.exists_phase hrunning
    obtain hrunning' | hstopped := hphase
    · obtain ⟨session', hafter⟩ := Member.exists_phase hrunning'
      exact hbefore ▸ hafter ▸ .session session session'
    · exact hbefore ▸ hstopped ▸ .stop session

/-- **A sound life is lawful.** What is asked of one step is what a change may be, and the rest is
told of the member by itself. -/
theorem Sound.lawful (h : l.Sound) : l.Lawful where
  starting_iff := h.starting_iff
  moves x := h.moves (change_step l x)
  successes := by
    rw [h.successes]
    split <;> omega
  refused e he := ⟨Member.begin_eq_error he, fun _ => begin_of_error he _, begin_of_error he _⟩
  refused_startWith r now s e := Member.startWith_of_refused
  refused_start r now connect e := Member.start_of_refused
  registration i r now e hstart hregister := by
    rw [step_publish_of_error hstart hregister]
    have hclosed : (Function.update l.stores i (l.stores i).close i).closed = true := by
      rw [Function.update_self]
      rfl
    exact ⟨rfl, hclosed, rfl, rfl⟩
  detached := Member.detached
  calls := step_call_of_not_isRunning
  players hrunning x := samePlayers_step hrunning

/-- **Every life is lawful**, in whatever order the server starts and stops its member, reports
player changes and reads, on whatever stores.

**Proof sketch.** A step changes the phase, the start under way and the answers in one of a few
ways. Each of them keeps that the member is starting exactly while a start is under way and that
one start has succeeded exactly when the member has ever run. -/
theorem lawful_run (settings : NetworkSettings) (stores : Nat → Store) (steps : List Step) :
    ((begun settings stores).run steps).Lawful :=
  ((sound_begun settings stores).run steps).lawful

end Life

end FleetStatus
