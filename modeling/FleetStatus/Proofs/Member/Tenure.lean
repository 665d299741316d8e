import FleetStatus.Proofs.Member.Queue
import FleetStatus.Proofs.Presence.Located

set_option relaxedAutoImplicit false
set_option autoImplicit false

/-!
# The tenure of a member

While a member runs, calls from its server, the worker of its queue, its background tasks and the
other servers of the fleet take turns in any order, and at some point so does a stop. A call takes
two steps: it gets hold of the queue, which only a member that is not stopping hands out, and then
puts its change in. So a change may still come into the queue of a member that stops. The stop
waits for the worker, which ends when nobody holds the queue any more and nothing waits in it, and
for the background tasks; then the server leaves the fleet.

The queue, the worker and the background tasks are the ones of `FleetStatus.Member`. Recording a
change takes it off the queue in the same step: nothing can be told of the moments in between.

## Main definitions

* `FleetStatus.Tenure`, `FleetStatus.Tenure.step` — the member, the store, the calls under way and
  the stop.
* `FleetStatus.Tenure.Faithful` — what is asked of a member up to the end of its stop.

## Main results

* `FleetStatus.Tenure.Accounted.step` — every step keeps the books on changes and operations.
* `FleetStatus.Tenure.Accounted.absent` — nothing is left of a server that left.
* `FleetStatus.Tenure.stage_run_completion` — a stop can always come to its end.
* `FleetStatus.Tenure.run_stop`, `FleetStatus.Tenure.run_recordNow` — without interruption, a stop
  and a call that waits are those of the member.
* `FleetStatus.Tenure.faithful_run` — a member is faithful in every order of steps.
-/

namespace FleetStatus

open Store (Operation)

/-- Who uses the store. -/
inductive Party where
  /-- The member. -/
  | self
  /-- Another server of the fleet. -/
  | other
  deriving DecidableEq, Inhabited

/-- How far the stop of a member has come. -/
inductive Stage where
  /-- There was no stop. -/
  | serving
  /-- The stop ended the taking of changes and waits for the worker and the background tasks. -/
  | draining
  /-- The worker and the background tasks have ended. -/
  | ended
  /-- The server left the fleet. -/
  | gone
  /-- The store was released. -/
  | returned
  deriving DecidableEq, Inhabited

/-- A member, its calls under way and its stop, on a store that it shares. -/
structure Tenure where
  /-- The member as its worker and its background tasks see it. -/
  member : Member
  store : Store
  stage : Stage := .serving
  /-- The changes of calls that hold the queue and did not put them in yet. -/
  inHand : List PlayerChange := []
  /-- The changes that were put in the queue, in this order. -/
  accepted : List PlayerChange
  /-- What the store was asked for and by whom, in this order. -/
  asked : List (Party × Operation) := []
  deriving DecidableEq

namespace Tenure

/-! ## Steps -/

/-- A running member on a store that nobody has asked for anything yet. -/
def begun (m : Member) (s : Store) : Tenure := { member := m, store := s, accepted := m.queue }

/-- The member as callers see it: a stop shows at once. -/
def seen (t : Tenure) : Member :=
  match t.stage with
  | .serving => t.member
  | _ => { t.member with phase := .stopped }

/-- Whether the background tasks go on. -/
def inBackground (t : Tenure) : Bool := t.stage = .serving || t.stage = .draining

/-- One step of the server, of the member, of its stop or of another server. -/
inductive Step where
  /-- A call with a player change gets hold of the queue. -/
  | offer (c : PlayerChange)
  /-- One of the calls that hold the queue puts its change in. -/
  | put (i : Nat)
  /-- The worker records a change. -/
  | work
  | beat (r : HostReport) (now : Int64)
  | tail (now : Int64)
  | readAgain (now : Int64)
  /-- The stop begins. -/
  | stop
  /-- The worker and the background tasks end. -/
  | finish
  /-- The server leaves the fleet. -/
  | leave
  /-- The store is released. -/
  | release
  /-- Another server uses the store. -/
  | other (op : Operation)
  deriving DecidableEq

/-- The state after a step. A step whose turn has not come changes nothing. -/
def step (t : Tenure) : Step → Tenure
  | .offer c =>
    match t.seen.enqueue c with
    | .ok _ => { t with inHand := t.inHand ++ [c] }
    | .error _ => t
  | .put i =>
    match t.inHand[i]? with
    | some c =>
      match t.member.enqueue c with
      | .ok member =>
        { t with member, inHand := t.inHand.eraseIdx i, accepted := t.accepted ++ [c] }
      | .error _ => t
    | none => t
  | .work =>
    match t.member.queue with
    | c :: _ =>
      let (_, member, store) := t.member.work t.store
      { t with member, store, asked := t.asked ++ [(.self, c.operation t.member.serverId)] }
    | [] => t
  | .beat r now =>
    if t.inBackground then
      { t with
        store := t.member.beat r now t.store
        asked := t.asked ++ [(.self, .heartbeat (r.record t.member.serverId now))] }
    else t
  | .tail now =>
    if t.inBackground then { t with member := t.member.followOnce now t.store } else t
  | .readAgain now =>
    if t.inBackground && t.member.settings.syncs then
      let (member, store) := t.member.readAgain now t.store
      { t with member, store, asked := t.asked ++ [(.self, .fetch now)] }
    else t
  | .stop => if t.stage = .serving then { t with stage := .draining } else t
  | .finish =>
    if t.stage = .draining ∧ t.inHand = [] ∧ t.member.queue = [] then { t with stage := .ended }
    else t
  | .leave =>
    if t.stage = .ended then
      { t with
        store := (t.store.unregister t.member.serverId).toOption.getD t.store
        stage := .gone
        asked := t.asked ++ [(.self, .unregister t.member.serverId)] }
    else t
  | .release =>
    if t.stage = .gone then
      { t with
        member := (t.member.leaveFleet t.store).1
        store := t.store.close
        stage := .returned
        asked := t.asked ++ [(.self, .close)] }
    else t
  | .other op => { t with store := t.store.perform op, asked := t.asked ++ [(.other, op)] }

/-- The state after several steps in turn. -/
def run (t : Tenure) (steps : List Step) : Tenure := steps.foldl step t

/-- No steps leave a tenure as it is. -/
@[simp]
theorem run_nil (t : Tenure) : t.run [] = t := rfl

/-- The first of several steps is taken first. -/
@[simp]
theorem run_cons (t : Tenure) (st : Step) (steps : List Step) :
    t.run (st :: steps) = (t.step st).run steps := rfl

/-- Two runs in turn are one run. -/
theorem run_append (t : Tenure) (steps steps' : List Step) :
    t.run (steps ++ steps') = (t.run steps).run steps' := List.foldl_append

/-! ## Who asked for what -/

/-- What the member asked for. -/
def ownOf (asked : List (Party × Operation)) : List Operation :=
  asked.filterMap fun (party, op) => if party = .self then some op else none

/-- What the member asked the store for. -/
def own (t : Tenure) : List Operation := ownOf t.asked

/-- What the member asks for is one of its own operations. -/
theorem ownOf_append_self (asked : List (Party × Operation)) (op : Operation) :
    ownOf (asked ++ [(.self, op)]) = ownOf asked ++ [op] := List.filterMap_append

/-- What another server asks for is none of the member's. -/
theorem ownOf_append_other (asked : List (Party × Operation)) (op : Operation) :
    ownOf (asked ++ [(.other, op)]) = ownOf asked := by
  rw [ownOf, List.filterMap_append]
  exact List.append_nil _

/-- What the member asked for is among its own operations. -/
theorem mem_ownOf {asked : List (Party × Operation)} {op : Operation} (h : (.self, op) ∈ asked) :
    op ∈ ownOf asked := List.mem_filterMap.2 ⟨_, h, rfl⟩

/-- Where something that the member asked for stands among all that was asked for.

**Proof sketch.** The operations of others are left out one by one, so each of the member's own has
a place among all, and in front of it stand those that it asked for before. -/
theorem exists_of_ownOf_eq {asked : List (Party × Operation)} {front back : List Operation}
    {op : Operation} (h : ownOf asked = front ++ op :: back) : ∃ before after,
    asked = before ++ (.self, op) :: after ∧ ownOf before = front ∧ ownOf after = back := by
  obtain ⟨before, rest, rfl, hfront, hrest⟩ := List.filterMap_eq_append_iff.1 h
  obtain ⟨others, ⟨party, op'⟩, after, rfl, hothers, hop, hback⟩ :=
    List.filterMap_eq_cons_iff.1 hrest
  have hnone : ownOf others = [] := List.filterMap_eq_nil_iff.2 hothers
  cases party with
  | other => exact absurd hop nofun
  | self =>
    obtain rfl : op' = op := Option.some.inj hop
    refine ⟨before ++ others, after, (List.append_assoc ..).symm, ?_, hback⟩
    show ownOf (before ++ others) = front
    rw [ownOf, List.filterMap_append]
    exact (congrArg₂ (· ++ ·) hfront hnone).trans (List.append_nil _)

/-- Whether an operation records a player change. -/
def recordsChange : Operation → Bool
  | .join _ | .leave _ _ => true
  | _ => false

/-- What a member asks for while it serves. -/
def IsService (id : String) : Operation → Prop
  | .join _ | .fetch _ => True
  | .leave _ id' => id' = id
  | .heartbeat r => r.serverId = id
  | .register _ | .unregister _ | .expire _ | .close => False

end Tenure

namespace Stage

/-- Whether the worker and the background tasks have ended. -/
def isOver : Stage → Bool
  | .serving | .draining => false
  | .ended | .gone | .returned => true

/-- Whether the server left the fleet. -/
def hasLeft : Stage → Bool
  | .serving | .draining | .ended => false
  | .gone | .returned => true

/-- What a member asks for at the end of its stop. -/
def farewell (id : String) : Stage → List Operation
  | .serving | .draining | .ended => []
  | .gone => [.unregister id]
  | .returned => [.unregister id, .close]

variable {stage : Stage}

/-- A member that left has nothing more to record. -/
theorem isOver_of_hasLeft (h : stage.hasLeft) : stage.isOver := by
  cases stage <;> first | rfl | exact absurd h Bool.false_ne_true

/-- A member that has not left has not said farewell. -/
theorem farewell_of_stays (h : stage.hasLeft = false) (id : String) : stage.farewell id = [] := by
  cases stage <;> first | rfl | exact absurd h.symm Bool.false_ne_true

end Stage

namespace Tenure

/-- To leave and to release the store records no change. -/
theorem filter_farewell (stage : Stage) (id : String) :
    (stage.farewell id).filter recordsChange = [] := by
  cases stage <;> rfl

/-! ## Books -/

section Accounted

variable {id : String} {start : Store} {t : Tenure}

/-- **The books of a member**: what it was told and what it asked the store for. -/
structure Accounted (id : String) (start : Store) (t : Tenure) : Prop where
  name : t.member.serverId = id
  running : t.stage ≠ .returned → t.member.isRunning
  recorded : t.store = start.run (t.asked.map (·.2))
  changes : t.own.filter recordsChange ++ t.member.queue.map (·.operation id) =
    t.accepted.map (·.operation id)
  order : ∃ service, t.own = service ++ t.stage.farewell id ∧ ∀ op ∈ service, IsService id op
  idle : t.stage.isOver → t.member.queue = [] ∧ t.inHand = []

/-- The books of a member that begins are right: nothing was asked for yet. -/
theorem accounted_begun {m : Member} (hrunning : m.isRunning) (s : Store) :
    (begun m s).Accounted m.serverId s where
  name := rfl
  running _ := hrunning
  recorded := rfl
  changes := rfl
  order := ⟨[], rfl, nofun⟩
  idle h := absurd h Bool.false_ne_true

/-- A member runs until its stop is over. -/
theorem Accounted.isRunning_of_not_isOver (h : t.Accounted id start)
    (hstage : t.stage.isOver = false) : t.member.isRunning :=
  h.running fun hreturned => by rw [hreturned] at hstage; exact absurd hstage (by decide)

/-- The background tasks end with the worker. -/
theorem not_isOver_of_inBackground (h : t.inBackground) : t.stage.isOver = false := by
  unfold inBackground at h
  cases hstage : t.stage <;> simp_all [Stage.isOver]

/-- **What a serving member asks for is entered in the books.** A change that is recorded leaves the
queue.

**Proof sketch.** The operation is put at the end of what was asked for, behind no farewell as the
member has not left. The changes in the queue and those that were recorded make up the same ones as
before. -/
theorem Accounted.serve (h : t.Accounted id start) (hstage : t.stage.isOver = false)
    {op : Operation} (hop : IsService id op) {member : Member} {store : Store}
    (hstore : store = t.store.perform op) (hname : member.serverId = id)
    (hrunning : member.isRunning)
    (hqueue : [op].filter recordsChange ++ member.queue.map (·.operation id) =
      t.member.queue.map (·.operation id)) :
    { t with member, store, asked := t.asked ++ [(Party.self, op)] }.Accounted id start := by
  have hstays : t.stage.hasLeft = false := by
    rw [← Bool.not_eq_true]
    exact fun hleft => absurd (Stage.isOver_of_hasLeft hleft) (by simp [hstage])
  have hfarewell := Stage.farewell_of_stays hstays id
  obtain ⟨service, hservice, hall⟩ := h.order
  refine ⟨hname, fun _ => hrunning, ?_, ?_, ⟨service ++ [op], ?_, fun op' hmem => ?_⟩,
    fun hover => absurd (hstage.symm.trans hover) Bool.false_ne_true⟩
  · simp only [hstore, h.recorded, List.map_append, Store.run_append]
    rfl
  · simp only [own, ownOf_append_self, List.filter_append, List.append_assoc, hqueue]
    exact h.changes
  · rw [own] at hservice
    simp only [own, ownOf_append_self, hservice, hfarewell, List.append_nil]
  · obtain hmem | hmem := List.mem_append.1 hmem
    · exact hall op' hmem
    · rwa [List.mem_singleton.1 hmem]

/-- To get hold of the queue keeps the books: a change is accepted at most, and put into the
caller's hand. -/
theorem Accounted.offer (h : t.Accounted id start) (c : PlayerChange) :
    (t.step (.offer c)).Accounted id start := by
  simp only [step]
  split
  next m' haccepted =>
    refine ⟨h.name, h.running, h.recorded, h.changes, h.order, fun hover => ?_⟩
    -- after the stop began no call gets hold of the queue
    cases hstage : t.stage with
    | serving => rw [show _ = Stage.serving from hstage] at hover; exact absurd hover (by decide)
    | _ => simp [seen, hstage, Member.enqueue] at haccepted
  next => exact h

/-- To put a change into the queue keeps the books, as it was in hand before.

**Proof sketch.** A change that is in hand is one of a member that runs. It is put at the end of the
queue and counted as accepted. -/
theorem Accounted.put (h : t.Accounted id start) (i : Nat) :
    (t.step (.put i)).Accounted id start := by
  simp only [step]
  split
  swap
  · exact h
  next c hheld =>
    have hstage : t.stage.isOver = false := by
      by_contra hover
      rw [Bool.not_eq_false] at hover
      simp [(h.idle hover).2] at hheld
    have hrunning := h.isRunning_of_not_isOver hstage
    rw [Member.enqueue_of_isRunning hrunning]
    refine ⟨(Member.serverId_withQueue _ _).trans h.name,
      fun _ => Member.isRunning_withQueue hrunning _, h.recorded, ?_, h.order,
      fun hover => absurd (hstage.symm.trans hover) Bool.false_ne_true⟩
    show t.own.filter recordsChange ++ _ = _
    rw [Member.queue_withQueue hrunning, List.map_append, List.map_append, ← h.changes,
      List.append_assoc]

/-- To record a change keeps the books, as it waited in the queue before.

**Proof sketch.** A change is in the queue, so the tenure is not over, and what is done with the
store is a service. The change goes from the queue to what was done, and the two together stay. -/
theorem Accounted.work (h : t.Accounted id start) : (t.step .work).Accounted id start := by
  simp only [step]
  split
  swap
  · exact h
  next c rest hqueue =>
    have hstage : t.stage.isOver = false := by
      by_contra hover
      rw [Bool.not_eq_false] at hover
      simp [(h.idle hover).1] at hqueue
    have hrunning := h.isRunning_of_not_isOver hstage
    have hservice : IsService id (c.operation id) := by cases c <;> trivial
    have hwork := Member.work_of_queue hqueue t.store
    obtain ⟨hmember, hstore⟩ := Prod.mk.inj hwork
    rw [hmember, hstore, h.name]
    refine h.serve hstage hservice rfl ?_ (Member.isRunning_withQueue hrunning _) ?_
    · rw [Member.serverId_withQueue, h.name]
    · rw [Member.queue_withQueue hrunning, hqueue]
      cases c <;> rfl

/-- A heartbeat keeps the books. -/
theorem Accounted.beat (h : t.Accounted id start) (r : HostReport) (now : Int64) :
    (t.step (.beat r now)).Accounted id start := by
  simp only [step]
  split
  swap
  · exact h
  next hbackground =>
    have hstage := not_isOver_of_inBackground hbackground
    have hrunning := h.isRunning_of_not_isOver hstage
    have hservice : IsService id (.heartbeat (r.record id now)) := rfl
    rw [Member.beat_of_isRunning hrunning, h.name]
    exact h.serve hstage hservice rfl h.name hrunning rfl

/-- To read the log keeps the books, as it asks for nothing.

**Proof sketch.** To follow the log changes the replica only. -/
theorem Accounted.tail (h : t.Accounted id start) (now : Int64) :
    (t.step (.tail now)).Accounted id start := by
  simp only [step]
  split
  swap
  · exact h
  have hname : (t.member.followOnce now t.store).serverId = id := by
    rw [Member.serverId, Member.settings_followOnce]
    exact h.name
  refine ⟨hname, fun hstage => ?_, h.recorded, ?_, h.order, fun hover => ?_⟩
  · rw [Member.isRunning_followOnce]
    exact h.running hstage
  · rw [Member.queue_followOnce]
    exact h.changes
  · rw [Member.queue_followOnce]
    exact h.idle hover

/-- A full read keeps the books.

**Proof sketch.** To read the store again is a service that changes no records of its own. -/
theorem Accounted.readAgain (h : t.Accounted id start) (now : Int64) :
    (t.step (.readAgain now)).Accounted id start := by
  simp only [step]
  split
  swap
  · exact h
  next hsyncs =>
    rw [Bool.and_eq_true] at hsyncs
    have hstage := not_isOver_of_inBackground hsyncs.1
    have hrunning := h.isRunning_of_not_isOver hstage
    obtain ⟨replica, hread⟩ := Member.readAgain_of_isRunning hrunning hsyncs.2 now t.store
    have hservice : IsService id (.fetch now) := trivial
    rw [hread]
    exact h.serve hstage hservice rfl h.name hrunning rfl

/-- To begin a stop keeps the books. -/
theorem Accounted.stop (h : t.Accounted id start) : (t.step .stop).Accounted id start := by
  simp only [step]
  split
  swap
  · exact h
  next hstage =>
    have hrunning := h.running (by rw [hstage]; decide)
    have horder := h.order
    rw [hstage] at horder
    exact ⟨h.name, fun _ => hrunning, h.recorded, h.changes, horder, nofun⟩

/-- The end of the worker keeps the books, as nothing is in hand or waits by then. -/
theorem Accounted.finish (h : t.Accounted id start) : (t.step .finish).Accounted id start := by
  simp only [step]
  split
  swap
  · exact h
  next hstage =>
    have hrunning := h.running (by rw [hstage.1]; decide)
    have horder := h.order
    rw [hstage.1] at horder
    exact ⟨h.name, fun _ => hrunning, h.recorded, h.changes, horder,
      fun _ => ⟨hstage.2.2, hstage.2.1⟩⟩

/-- To leave keeps the books: the farewell follows all services.

**Proof sketch.** The queue is empty by then, and the server leaves as the last that is done before
the store is released. -/
theorem Accounted.leave (h : t.Accounted id start) : (t.step .leave).Accounted id start := by
  simp only [step]
  split
  swap
  · exact h
  next hstage =>
    have hrunning := h.running (by rw [hstage]; decide)
    have hover := h.idle (by rw [hstage]; rfl)
    obtain ⟨service, hservice, hall⟩ := h.order
    rw [hstage, Stage.farewell, List.append_nil, own] at hservice
    refine ⟨h.name, fun _ => hrunning, ?_, ?_, ⟨service, ?_, hall⟩, fun _ => hover⟩
    · simp only [h.recorded, List.map_append, Store.run_append]
      rfl
    · simp only [own, ownOf_append_self, List.filter_append, List.append_assoc]
      exact h.changes
    · simp only [own, ownOf_append_self, hservice, h.name]
      rfl

/-- To release the store keeps the books: it is the last thing that the member asks for.

**Proof sketch.** The queue is empty by then, and closing the store changes no records. -/
theorem Accounted.release (h : t.Accounted id start) : (t.step .release).Accounted id start := by
  simp only [step]
  split
  swap
  · exact h
  next hstage =>
    have hover := h.idle (by rw [hstage]; rfl)
    have hchanges := h.changes
    rw [hover.1] at hchanges
    obtain ⟨service, hservice, hall⟩ := h.order
    rw [hstage, own] at hservice
    refine ⟨h.name, fun hne => absurd rfl hne, ?_, ?_, ⟨service, ?_, hall⟩, fun _ => ⟨rfl, hover.2⟩⟩
    · simp only [h.recorded, List.map_append, Store.run_append]
      rfl
    · simp only [own, ownOf_append_self, List.filter_append, List.append_assoc]
      exact hchanges
    · simp only [own, ownOf_append_self, hservice, List.append_assoc]
      rfl

/-- What another server asks for is entered as its own. -/
theorem Accounted.other (h : t.Accounted id start) (op : Operation) :
    (t.step (.other op)).Accounted id start := by
  have hown : (t.step (.other op)).own = t.own := ownOf_append_other _ _
  refine ⟨h.name, h.running, ?_, ?_, ?_, h.idle⟩
  · simp only [step, h.recorded, List.map_append, Store.run_append]
    rfl
  · rw [hown]
    exact h.changes
  · rw [hown]
    exact h.order

/-- **Every step keeps the books.**

**Proof sketch.** By cases on the step, each of which has its lemma above. -/
theorem Accounted.step (h : t.Accounted id start) (st : Step) : (t.step st).Accounted id start := by
  cases st with
  | offer c => exact h.offer c
  | put i => exact h.put i
  | work => exact h.work
  | beat r now => exact h.beat r now
  | tail now => exact h.tail now
  | readAgain now => exact h.readAgain now
  | stop => exact h.stop
  | finish => exact h.finish
  | leave => exact h.leave
  | release => exact h.release
  | other op => exact h.other op

/-- Every run keeps the books. -/
theorem Accounted.run (h : t.Accounted id start) (steps : List Step) :
    (t.run steps).Accounted id start := by
  induction steps generalizing t with
  | nil => exact h
  | cons st steps ih => exact ih (h.step st)

/-- **What is left of a server that left**: nothing, if no other server used its id or closed the
store.

**Proof sketch.** Nothing is left of a server right after it is forgotten
(`Store.Located.absent_unregistered`). Behind that the member only closes the store, and what the
others ask for is apart from the server. -/
theorem Accounted.absent (h : t.Accounted id start) (hlocated : start.Located)
    (hopen : start.closed = false) (hleft : t.stage.hasLeft)
    (hothers : ∀ op, (Party.other, op) ∈ t.asked → op.Apart id ∧ op ≠ .close) :
    t.store.Absent id := by
  obtain ⟨rest, hfarewell, hrest⟩ : ∃ rest, t.stage.farewell id = .unregister id :: rest ∧
      ∀ op ∈ rest, op = .close := by
    cases hstage : t.stage with
    | gone => exact ⟨[], rfl, nofun⟩
    | returned => exact ⟨[.close], rfl, fun op hop => List.mem_singleton.1 hop⟩
    | _ => rw [hstage] at hleft; exact absurd hleft Bool.false_ne_true
  obtain ⟨service, hservice, hall⟩ := h.order
  rw [hfarewell] at hservice
  obtain ⟨before, after, hasked, hbefore, hafter⟩ := exists_of_ownOf_eq hservice
  rw [hasked] at hothers
  -- until the server leaves nobody closes the store
  have hstill : (start.run (before.map (·.2))).closed = false := by
    rw [Store.closed_run, hopen]
    intro op hop
    obtain ⟨⟨party, op'⟩, hmem, rfl⟩ := List.mem_map.1 hop
    cases party with
    | self =>
      rintro rfl
      exact hall _ (hbefore ▸ mem_ownOf hmem)
    | other => exact (hothers _ (List.mem_append_left _ hmem)).2
  -- afterwards the member does no more than close it
  have hapart : ∀ op ∈ after.map (·.2), op.Apart id := by
    intro op hop
    obtain ⟨⟨party, op'⟩, hmem, rfl⟩ := List.mem_map.1 hop
    cases party with
    | self =>
      have hclose := hrest _ (hafter ▸ mem_ownOf hmem)
      rw [show _ = Operation.close from hclose]
      trivial
    | other => exact (hothers _ (List.mem_append_right _ (List.mem_cons_of_mem _ hmem))).1
  have hgone := (hlocated.run (before.map (·.2))).absent_unregistered id
  rw [h.recorded, hasked, List.map_append, Store.run_append, List.map_cons, Store.run_cons,
    Store.perform_of_open hstill]
  exact hgone.run hapart

end Accounted

/-! ## After the stop began -/

section Refused

variable {t : Tenure}

/-- A stop that has begun is not taken back. -/
theorem stage_step_ne_serving (h : t.stage ≠ .serving) (st : Step) :
    (t.step st).stage ≠ .serving := by
  cases st <;> simp only [step] <;> (repeat' split) <;> first | exact h | exact nofun

/-- Callers see a member that stops as one that does not run. -/
theorem isRunning_seen (h : t.stage ≠ .serving) : t.seen.isRunning = false := by
  unfold seen
  cases hstage : t.stage with
  | serving => exact absurd hstage h
  | _ => rfl

/-- A member that stops accepts no change. -/
theorem step_offer (h : t.stage ≠ .serving) (c : PlayerChange) : t.step (.offer c) = t := by
  rw [step, Member.enqueue_of_not_isRunning (isRunning_seen h)]

/-- Whether a step is a call with a player change. -/
def Step.isOffer : Step → Bool
  | .offer _ => true
  | _ => false

/-- **What is offered to a member that stops has no effect.**

**Proof sketch.** By induction on the steps: an offer changes nothing, and once a stop has begun
every later step finds it begun. -/
theorem run_filter_not_isOffer (h : t.stage ≠ .serving) (steps : List Step) :
    t.run (steps.filter (!·.isOffer)) = t.run steps := by
  induction steps generalizing t with
  | nil => rfl
  | cons st steps ih =>
    have hrest := ih (stage_step_ne_serving h st)
    cases st with
    | offer c =>
      rw [step_offer h] at hrest
      rw [run_cons, step_offer h]
      exact hrest
    | _ => exact hrest

end Refused

/-! ## Without interruption -/

section Alone

variable {t : Tenure}

/-- The state after all calls that hold the queue put their changes in. -/
def handedIn (t : Tenure) : Tenure :=
  { t with
    member := t.member.withQueue (t.member.queue ++ t.inHand)
    inHand := []
    accepted := t.accepted ++ t.inHand }

/-- The state after the worker recorded everything that waits. -/
def workedOff (t : Tenure) : Tenure :=
  { t with
    member := t.member.withQueue []
    store := t.store.run (t.member.queue.map (·.operation t.member.serverId))
    asked := t.asked ++ t.member.queue.map fun c => (.self, c.operation t.member.serverId) }

/-- All changes in hand are put into the queue, the first one first.

**Proof sketch.** By induction on what is in hand: the first of it is put at the end of the queue.
-/
theorem run_put (h : t.member.isRunning) :
    t.run (List.replicate t.inHand.length (.put 0)) = t.handedIn := by
  obtain ⟨member, store, stage, inHand, accepted, asked⟩ := t
  induction inHand generalizing member accepted with
  | nil => simp [handedIn, Member.withQueue_queue h]
  | cons c rest ih =>
    have hput : step ⟨member, store, stage, c :: rest, accepted, asked⟩ (.put 0) =
        ⟨member.withQueue (member.queue ++ [c]), store, stage, rest, accepted ++ [c], asked⟩ := by
      simp [step, Member.enqueue_of_isRunning h]
    have hrest := ih (member.withQueue (member.queue ++ [c])) (accepted ++ [c])
      (Member.isRunning_withQueue h _)
    simp only [handedIn, Member.queue_withQueue h, Member.withQueue_withQueue, List.append_assoc,
      List.singleton_append] at hrest
    rw [List.length_cons, List.replicate_succ, run_cons, hput, hrest]
    rfl

/-- All changes in the queue are recorded, the first one first.

**Proof sketch.** By induction on the queue; one step of the worker records the change in front. -/
theorem run_work (h : t.member.isRunning) :
    t.run (List.replicate t.member.queue.length .work) = t.workedOff := by
  obtain ⟨member, store, stage, inHand, accepted, asked⟩ := t
  induction hqueue : member.queue generalizing member store asked with
  | nil =>
    have hsame := Member.withQueue_queue h
    rw [hqueue] at hsame
    simp [workedOff, hqueue, hsame]
  | cons c rest ih =>
    have hwork : step ⟨member, store, stage, inHand, accepted, asked⟩ .work =
        ⟨member.withQueue rest, store.perform (c.operation member.serverId), stage, inHand,
          accepted, asked ++ [(.self, c.operation member.serverId)]⟩ := by
      obtain ⟨hmember, hstore⟩ := Prod.mk.inj (Member.work_of_queue hqueue store)
      simp [step, hqueue, hmember, hstore]
    have hrest := ih (member.withQueue rest) (store.perform (c.operation member.serverId))
      (asked ++ [(.self, c.operation member.serverId)]) (Member.isRunning_withQueue h _)
      (Member.queue_withQueue h _)
    rw [List.length_cons, List.replicate_succ, run_cons, hwork, hrest]
    simp [workedOff, hqueue, Member.queue_withQueue h, Member.withQueue_withQueue,
      Member.serverId_withQueue]

/-- The last steps of a stop, when nothing waits. -/
theorem run_farewell (hstage : t.stage = .draining) (hhand : t.inHand = [])
    (hqueue : t.member.queue = []) : t.run [.finish, .leave, .release] =
    { t with
      member := (t.member.leaveFleet t.store).1
      store := (t.member.leaveFleet t.store).2
      stage := .returned
      asked := t.asked ++ [(.self, .unregister t.member.serverId), (.self, .close)] } := by
  simp [step, hstage, hhand, hqueue, Member.leaveFleet]

/-- What brings a stop to its end: the calls that hold the queue put their changes in, and the
worker records everything that waits. -/
def completion (t : Tenure) : List Step :=
  List.replicate t.inHand.length (.put 0) ++
    (List.replicate t.handedIn.member.queue.length .work ++ [.finish, .leave, .release])

/-- A stop that has begun comes to its end by handing in what is in hand, recording what waits, and
the farewell. -/
theorem run_completion (h : t.member.isRunning) (hstage : t.stage = .draining) :
    t.run t.completion = { t.handedIn.workedOff with
      member := (t.handedIn.workedOff.member.leaveFleet t.handedIn.workedOff.store).1
      store := (t.handedIn.workedOff.member.leaveFleet t.handedIn.workedOff.store).2
      stage := .returned
      asked := t.handedIn.workedOff.asked ++
        [(.self, .unregister t.handedIn.workedOff.member.serverId), (.self, .close)] } := by
  have hheld : t.handedIn.member.isRunning := Member.isRunning_withQueue h _
  rw [completion, run_append, run_append, run_put h, run_work hheld]
  exact run_farewell hstage rfl (Member.queue_withQueue hheld _)

/-- **A stop can always come to its end.** -/
theorem stage_run_completion (h : t.member.isRunning) (hstage : t.stage = .draining) :
    (t.run t.completion).stage = .returned := by
  rw [run_completion h hstage]

/-- **A stop without interruption is the stop of the member.**

**Proof sketch.** Nothing is in hand, so the stop records what waits, which is what the member
drains, and then takes the member's own last steps. -/
theorem run_stop {m : Member} (h : m.isRunning) (s : Store) :
    let t := (begun m s).step .stop
    ((t.run t.completion).member, (t.run t.completion).store) = m.stop s := by
  intro t
  have hnone : t.handedIn.member = m := by
    show m.withQueue (m.queue ++ []) = m
    rw [List.append_nil, Member.withQueue_queue h]
  have hdrained : m.drain s = (t.handedIn.workedOff.member, t.handedIn.workedOff.store) := by
    rw [Member.drain_of_isRunning h, workedOff, hnone]
    rfl
  rw [run_completion h rfl, Member.stop, if_pos h, hdrained]

/-- **A change that is recorded at once** waits for those that were queued before.

**Proof sketch.** Once the change is in the queue, the worker takes as many steps as there are
changes, which is what the member does when it waits. -/
theorem run_recordNow {m : Member} (h : m.isRunning) (c : PlayerChange) (s : Store) :
    let t := (begun m s).run [.offer c, .put 0]
    ((t.run (List.replicate t.member.queue.length .work)).member,
      (t.run (List.replicate t.member.queue.length .work)).store) = (m.recordNow c s).2 := by
  intro t
  have hput : t = { begun m s with
      member := m.withQueue (m.queue ++ [c])
      accepted := m.queue ++ [c] } := by
    simp [t, begun, step, seen, Member.enqueue_of_isRunning h]
  have hrunning : t.member.isRunning := by
    rw [hput]
    exact Member.isRunning_withQueue h _
  rw [run_work hrunning, hput, Member.recordNow, if_pos h, Member.drain_of_isRunning h]
  simp only [workedOff, begun, Member.withQueue_withQueue, Member.queue_withQueue h,
    Member.serverId_withQueue, List.map_append, List.map_cons, List.map_nil, Store.run_append,
    Store.run_cons, Store.run_nil, Member.snd_record]

end Alone

/-! ## What a member keeps to -/

/-- **A member keeps to its tenure**: what is asked of it from its start to the end of its stop. -/
structure Faithful (id : String) (start : Store) (t : Tenure) : Prop where
  /-- The store is what was made of it, by the member and by the others. -/
  recorded : t.store = start.run (t.asked.map (·.2))
  /-- Of the changes that were accepted, the first ones were recorded and the others wait: each once
  and in the order in which they were accepted. -/
  inOrder : t.own.filter recordsChange ++ t.member.queue.map (·.operation id) =
    t.accepted.map (·.operation id)
  /-- Until the server leaves, the member asks for nothing but its service. -/
  serves : t.stage.hasLeft = false → ∀ op ∈ t.own, IsService id op
  /-- When the server leaves, all changes that were accepted are recorded, and after it has left the
  member does no more than release the store. -/
  leavesLast : t.stage.hasLeft → ∃ service, t.own = service ++ t.stage.farewell id ∧
    service.filter recordsChange = t.accepted.map (·.operation id) ∧ ∀ op ∈ service, IsService id op
  /-- When the stop began, callers are told that the member does not run. -/
  refuses : t.stage ≠ .serving → ∀ c s, t.seen.enqueue c = .error .notRunning ∧
    t.seen.recordNow c s = (.error .notRunning, t.seen, s)
  /-- And what they offer has no effect. -/
  ignores : t.stage ≠ .serving → ∀ later, t.run (later.filter (!·.isOffer)) = t.run later
  /-- A stop that began comes to its end when the calls and the worker go on. -/
  returns : t.stage = .draining → (t.run t.completion).stage = .returned
  /-- If no other server uses the id, and none closes the store, nothing is left of the server when
  it has left. -/
  vacates : t.stage.hasLeft → (∀ op, (Party.other, op) ∈ t.asked → op.Apart id ∧ op ≠ .close) →
    t.store.Absent id

/-- **A member is faithful in every order of steps**: player changes reach the store in order, each
once and before the server leaves it.

**Proof sketch.** Every step keeps the books (`Accounted.step`). A call that holds the queue keeps
the worker from ending, and the server leaves only when the worker has ended; so the changes that
were recorded before are all that were accepted. In between the two the store is open, and leaving
takes everything of the server with it (`Accounted.absent`). -/
theorem faithful_run (capacity : Nat) (history : List Operation) (m : Member) (steps : List Step)
    (hrunning : m.isRunning)
    (hopen : ((Store.withCapacity capacity).run history).closed = false) :
    let start := (Store.withCapacity capacity).run history
    ((begun m start).run steps).Faithful m.serverId start := by
  intro start
  have h := (accounted_begun hrunning start).run steps
  refine ⟨h.recorded, h.changes, fun hstays op hop => ?_, fun hleft => ?_,
    fun hstops c s => ⟨Member.enqueue_of_not_isRunning (isRunning_seen hstops) c,
      Member.recordNow_of_not_isRunning (isRunning_seen hstops) c s⟩,
    fun hstops later => run_filter_not_isOffer hstops later,
    fun hstage => stage_run_completion (h.running (by rw [hstage]; decide)) hstage,
    fun hleft hothers => h.absent (Store.located_run capacity history) hopen hleft hothers⟩
  · obtain ⟨service, hservice, hall⟩ := h.order
    rw [hservice, Stage.farewell_of_stays hstays, List.append_nil] at hop
    exact hall op hop
  · obtain ⟨service, hservice, hall⟩ := h.order
    have hchanges := h.changes
    rw [(h.idle (Stage.isOver_of_hasLeft hleft)).1, List.map_nil, List.append_nil, hservice,
      List.filter_append, filter_farewell, List.append_nil] at hchanges
    exact ⟨service, hservice, hchanges, hall⟩

/-- A stop begins while a player waits in the queue, a second one is in hand and a third one comes
too late; before the member leaves, the first one goes on to another server. -/
theorem faithful_run_stopped :
    let member : Member :=
      { settings := { serverId := "a" }, replica := {}, phase := .running {} }
    let history : List Operation :=
      [.register { serverId := "a", serverName := "A", lastHeartbeat := 0 },
        .register { serverId := "b", serverName := "B", lastHeartbeat := 0 }]
    let player (n : Nat) (id : String) : PlayerRecord := ⟨⟨n⟩, "name", id, id, 0⟩
    let steps : List Step :=
      [.offer (.join (player 1 "a")), .put 0, .offer (.join (player 2 "a")), .stop,
        .offer (.join (player 3 "a")), .beat default 1, .finish, .work, .put 0,
        .other (.join (player 1 "b")), .work, .finish, .beat default 2, .leave,
        .other (.heartbeat { serverId := "b", serverName := "B", lastHeartbeat := 3 }), .release]
    let start := (Store.withCapacity 9).run history
    let t := (begun member start).run steps
    t.Faithful "a" start ∧ t.stage = .returned ∧ t.store.Absent "a" ∧
      t.own = [.heartbeat ((default : HostReport).record "a" 1), .join (player 1 "a"),
        .join (player 2 "a"), .unregister "a", .close] ∧
      t.store.location? ⟨1⟩ = some "b" := by
  intro member history player steps start t
  have h : t.Faithful "a" start := faithful_run 9 history member steps rfl (by decide)
  have hothers : ∀ call ∈ t.asked, call.1 = Party.other → call.2.Apart "a" ∧ call.2 ≠ .close := by
    decide
  have hreturned : t.stage = .returned := by decide
  have habsent : t.store.Absent "a" :=
    h.vacates (by rw [hreturned]; rfl) fun op hop => hothers _ hop rfl
  exact ⟨h, hreturned, habsent, by decide, by decide⟩

end Tenure

end FleetStatus
