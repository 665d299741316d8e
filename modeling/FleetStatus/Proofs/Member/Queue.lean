import FleetStatus.Proofs.Member.Tail

set_option relaxedAutoImplicit false
set_option autoImplicit false

/-!
# The queue of player changes

What the functions of a running member do to its queue, and what they ask the store for, in terms of
the operations of the store.

## Main definitions

* `FleetStatus.Member.queue` — the player changes that wait.
* `FleetStatus.PlayerChange.operation` — what the store is asked for to record a change.

## Main results

* `FleetStatus.Member.enqueue_of_isRunning`, `FleetStatus.Member.work_of_queue` — the two ends of
  the queue.
* `FleetStatus.Member.drain_of_isRunning` — the whole queue at once.
* `FleetStatus.Member.beat_of_isRunning`, `FleetStatus.Member.readAgain_of_isRunning` — what happens
  in the background.
* `FleetStatus.Member.queue_followOnce` — reading the log leaves the queue alone.
-/

namespace FleetStatus

/-- What the store is asked for to record a change of a server's players. -/
def PlayerChange.operation (id : String) : PlayerChange → Store.Operation
  | .join p => .join p
  | .leave uuid => .leave uuid id

namespace Member

/-- **Recording a change is an operation of the store.** -/
theorem snd_record (id : String) (c : PlayerChange) (s : Store) :
    (PlayerChange.record id c s).2 = s.perform (c.operation id) := by
  cases c with
  | join p =>
    simp only [PlayerChange.record, PlayerChange.operation, Store.perform]
    cases s.join p <;> rfl
  | leave uuid =>
    simp only [PlayerChange.record, PlayerChange.operation, Store.perform]
    cases s.leave uuid id <;> rfl

variable {m : Member}

/-- The player changes that wait to be recorded. -/
def queue (m : Member) : List PlayerChange := (m.session?.map (·.queue)).getD []

/-- The member with other player changes waiting, if it runs. -/
def withQueue (m : Member) (queue : List PlayerChange) : Member :=
  m.mapSession fun s => { s with queue }

/-- A member that runs has a session. -/
theorem exists_phase (h : m.isRunning) : ∃ session, m.phase = .running session := by
  unfold isRunning at h
  split at h
  next session hphase => exact ⟨session, hphase⟩
  next => exact absurd h Bool.false_ne_true

/-- A member with a session runs. -/
theorem isRunning_of_phase {session : Session} (h : m.phase = .running session) :
    m.isRunning := by
  simp [isRunning, h]

/-- The queue of a member is that of its session. -/
theorem queue_of_phase {session : Session} (h : m.phase = .running session) :
    m.queue = session.queue := by
  simp [queue, session?, h]

/-- To replace the queue is to replace that of the session. -/
theorem withQueue_of_phase {session : Session} (h : m.phase = .running session)
    (queue : List PlayerChange) :
    m.withQueue queue = { m with phase := .running { session with queue } } := by
  simp [withQueue, mapSession, h]

/-! ## A running member with another queue -/

/-- A member with another queue goes on running. -/
theorem isRunning_withQueue (h : m.isRunning) (queue : List PlayerChange) :
    (m.withQueue queue).isRunning := by
  obtain ⟨session, hphase⟩ := exists_phase h
  rw [withQueue_of_phase hphase]
  rfl

/-- The queue that was put in is the queue. -/
theorem queue_withQueue (h : m.isRunning) (queue : List PlayerChange) :
    (m.withQueue queue).queue = queue := by
  obtain ⟨session, hphase⟩ := exists_phase h
  rw [withQueue_of_phase hphase]
  rfl

/-- Of two queues the later one counts. -/
theorem withQueue_withQueue (m : Member) (queue queue' : List PlayerChange) :
    (m.withQueue queue).withQueue queue' = m.withQueue queue' := by
  cases hphase : m.phase <;> simp [withQueue, mapSession, hphase]

/-- To put back the queue that is there changes nothing. -/
theorem withQueue_queue (h : m.isRunning) : m.withQueue m.queue = m := by
  obtain ⟨session, hphase⟩ := exists_phase h
  rw [withQueue_of_phase hphase, queue_of_phase hphase, ← hphase]

/-- Another queue leaves the server's id alone. -/
theorem serverId_withQueue (m : Member) (queue : List PlayerChange) :
    (m.withQueue queue).serverId = m.serverId := by
  unfold withQueue mapSession
  split <;> rfl

/-! ## The two ends of the queue -/

/-- **A change is put at the end of the queue.** -/
theorem enqueue_of_isRunning (h : m.isRunning) (c : PlayerChange) :
    m.enqueue c = .ok (m.withQueue (m.queue ++ [c])) := by
  obtain ⟨session, hphase⟩ := exists_phase h
  rw [withQueue_of_phase hphase, queue_of_phase hphase]
  simp [enqueue, hphase]

/-- A member that does not run refuses a change. -/
theorem enqueue_of_not_isRunning (h : m.isRunning = false) (c : PlayerChange) :
    m.enqueue c = .error .notRunning := by
  unfold enqueue
  split
  next session hphase => exact absurd (isRunning_of_phase hphase) (by simp [h])
  next => rfl

/-- A member that does not run refuses to record a change. -/
theorem recordNow_of_not_isRunning (h : m.isRunning = false) (c : PlayerChange) (s : Store) :
    m.recordNow c s = (.error .notRunning, m, s) := by
  simp [recordNow, h]

/-- **The change at the front of the queue is recorded.** -/
theorem work_of_queue {c : PlayerChange} {rest : List PlayerChange} (h : m.queue = c :: rest)
    (s : Store) : (m.work s).2 = (m.withQueue rest, s.perform (c.operation m.serverId)) := by
  unfold queue session? at h
  cases hphase : m.phase with
  | running session =>
    have hqueue : session.queue = c :: rest := by simpa [hphase] using h
    rw [withQueue_of_phase hphase, ← snd_record]
    simp [work, hphase, hqueue]
  | _ => simp [hphase] at h

/-- **Draining records everything that waits**, in its order.

**Proof sketch.** To record one change after the other is to perform their operations one after the
other. -/
theorem drain_of_isRunning (h : m.isRunning) (s : Store) : m.drain s =
    (m.withQueue [], s.run (m.queue.map (·.operation m.serverId))) := by
  obtain ⟨session, hphase⟩ := exists_phase h
  have hall : recordAll m.serverId session.queue s =
      s.run (session.queue.map (·.operation m.serverId)) := by
    simp only [recordAll, Store.run, List.foldl_map, snd_record]
  rw [withQueue_of_phase hphase, queue_of_phase hphase, ← hall]
  simp [drain, hphase]

/-! ## In the background -/

/-- **A beat of a running member is a heartbeat.** -/
theorem beat_of_isRunning (h : m.isRunning) (r : HostReport) (now : Int64) (s : Store) :
    m.beat r now s = s.perform (.heartbeat (r.record m.serverId now)) := by
  simp [beat, h, Store.perform]

/-- **Reading again is a full read**, and changes nothing of the member but its replica. -/
theorem readAgain_of_isRunning (h : m.isRunning) (hsyncs : m.settings.syncs) (now : Int64)
    (s : Store) : ∃ replica, m.readAgain now s = ({ m with replica }, s.perform (.fetch now)) := by
  rw [readAgain, if_pos (by simp [h, hsyncs])]
  simp only [Store.perform]
  cases s.fetch now with
  | ok result => exact ⟨_, rfl⟩
  | error e => exact ⟨m.replica, rfl⟩

/-- Reading the log leaves alone what neither the place in the log, nor the replica, nor the
subscribers have a part in.

**Proof sketch.** To take in an entry changes these three only, whatever it tells, so by induction
several entries do. -/
theorem followOnce_frame {β : Type} (f : Member → β)
    (hreplica : ∀ (m : Member) (replica : Replica), f { m with replica } = f m)
    (hinboxes : ∀ (m : Member) (inboxes : List Inbox), f { m with inboxes } = f m)
    (hcursor : ∀ (m : Member) (cursor : Option Nat),
      f (m.mapSession fun s => { s with cursor }) = f m)
    (m : Member) (now : Int64) (s : Store) : f (m.followOnce now s) = f m := by
  have hobserve (m : Member) (entry : Nat × Event) : f (m.observe now entry) = f m := by
    rw [observe, hcursor, foldl_tell_frame f hinboxes, hreplica]
  have hall (entries : List (Nat × Event)) (m : Member) :
      f (entries.foldl (observe · now) m) = f m := by
    induction entries generalizing m with
    | nil => rfl
    | cons entry entries ih => rw [List.foldl_cons, ih, hobserve]
  unfold followOnce
  split
  · rfl
  · split
    · exact hall _ m
    · exact hcursor m none

/-- Reading the log neither starts nor stops a member. -/
theorem isRunning_followOnce (m : Member) (now : Int64) (s : Store) :
    (m.followOnce now s).isRunning = m.isRunning := by
  refine followOnce_frame isRunning (fun _ _ => rfl) (fun _ _ => rfl) (fun m cursor => ?_) m now s
  cases hphase : m.phase <;> simp [mapSession, isRunning, hphase]

/-- Reading the log leaves the queue alone. -/
theorem queue_followOnce (m : Member) (now : Int64) (s : Store) :
    (m.followOnce now s).queue = m.queue := by
  refine followOnce_frame queue (fun _ _ => rfl) (fun _ _ => rfl) (fun m cursor => ?_) m now s
  cases hphase : m.phase <;> simp [mapSession, queue, session?, hphase]

/-- Reading the log leaves the settings alone. -/
theorem settings_followOnce (m : Member) (now : Int64) (s : Store) :
    (m.followOnce now s).settings = m.settings := by
  refine followOnce_frame settings (fun _ _ => rfl) (fun _ _ => rfl) (fun m cursor => ?_) m now s
  cases hphase : m.phase <;> simp [mapSession, hphase]

end Member

end FleetStatus
