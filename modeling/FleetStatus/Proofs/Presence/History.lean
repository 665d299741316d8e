import FleetStatus.Proofs.Presence.Lookup

set_option relaxedAutoImplicit false
set_option autoImplicit false

/-!
# The history behind the log

The log of a store keeps the newest of all the events that were ever appended. Each operation
appends a few events that its arguments and the store before it determine, so the whole history of
a run is known, and the log and every reading of it are parts of that history.

## Main definitions

* `FleetStatus.numbered` — events with the numbers of their entries.
* `FleetStatus.Store.entriesOf`, `FleetStatus.Store.history` — the events that an operation and a
  run append.
* `FleetStatus.Store.HasHistory` — the log is the end of a history.
* `FleetStatus.Store.RetainsAfter` — the log still keeps all entries after a position.

## Main results

* `FleetStatus.Store.HasHistory.run` — a run prolongs the history of a store.
* `FleetStatus.Store.HasHistory.latest`, `FleetStatus.Store.HasHistory.entriesAfter` — what reading
  the log gives, in terms of the history.
-/

namespace FleetStatus

/-! ## Numbered events -/

/-- The events with the numbers of their entries, the first of which comes after entry `n`. -/
def numbered (n : Nat) (events : List Event) : List (Nat × Event) :=
  (events.zipIdx (n + 1)).map Prod.swap

/-- No events are no entries. -/
@[simp]
theorem numbered_nil (n : Nat) : numbered n [] = [] := rfl

/-- The first event has the first number. -/
@[simp]
theorem numbered_cons (n : Nat) (e : Event) (events : List Event) :
    numbered n (e :: events) = (n + 1, e) :: numbered (n + 1) events := rfl

/-- There is one entry for each event. -/
@[simp]
theorem length_numbered (n : Nat) (events : List Event) :
    (numbered n events).length = events.length := by
  simp [numbered]

/-- The entries are those of the events. -/
@[simp]
theorem map_snd_numbered (n : Nat) (events : List Event) :
    (numbered n events).map (·.2) = events := by
  simp [numbered, Function.comp_def]

/-- Later events go on with the numbers of earlier ones. -/
theorem numbered_append (n : Nat) (events events' : List Event) :
    numbered n (events ++ events') = numbered n events ++ numbered (n + events.length) events' := by
  simp only [numbered, List.zipIdx_append, List.map_append]
  rw [Nat.add_right_comm]

/-- What is left of the entries has the numbers that it had. -/
theorem drop_numbered (n k : Nat) (events : List Event) :
    (numbered n events).drop k = numbered (n + k) (events.drop k) := by
  induction k generalizing n events with
  | zero => rfl
  | succ k ih =>
    cases events with
    | nil => simp
    | cons e events =>
      rw [numbered_cons, List.drop_succ_cons, List.drop_succ_cons, ih, Nat.add_right_comm,
        Nat.add_assoc]

/-- The first entries are those of the first events. -/
theorem take_numbered (n k : Nat) (events : List Event) :
    (numbered n events).take k = numbered n (events.take k) := by
  induction k generalizing n events with
  | zero => rfl
  | succ k ih =>
    cases events with
    | nil => simp
    | cons e events => rw [numbered_cons, List.take_succ_cons, List.take_succ_cons, numbered_cons, ih]

/-- The numbers go on from the given one, one for each event. -/
theorem mem_numbered {n k : Nat} {e : Event} {events : List Event}
    (h : (k, e) ∈ numbered n events) : n < k ∧ k ≤ n + events.length := by
  induction events generalizing n with
  | nil => simp at h
  | cons e' events ih =>
    rw [numbered_cons, List.mem_cons, Prod.mk.injEq] at h
    rw [List.length_cons]
    obtain ⟨rfl, -⟩ | hrest := h
    · omega
    · have := ih hrest
      omega

/-- The entries after entry `n + k` come after the first `k` events.

**Proof sketch.** By induction on the events that are left out; each has a number that is too small.
-/
theorem filter_numbered (n k : Nat) (events : List Event) :
    (numbered n events).filter (·.1 > n + k) = numbered (n + k) (events.drop k) := by
  induction k generalizing n events with
  | zero => exact List.filter_eq_self.2 fun e he => decide_eq_true (mem_numbered he).1
  | succ k ih =>
    cases events with
    | nil => simp
    | cons e events =>
      have hold : decide (n + 1 > n + (k + 1)) = false := by simp
      have hshift : n + (k + 1) = n + 1 + k := by omega
      rw [numbered_cons, List.filter_cons, hold, if_neg Bool.false_ne_true, List.drop_succ_cons,
        hshift, ih]

/-- The last number is that of the last event. -/
theorem getLast?_numbered (n : Nat) (events : List Event) :
    ((numbered n events).getLast?.map (·.1)).getD n = n + events.length := by
  induction events using List.reverseRecOn with
  | nil => rfl
  | append_singleton events e _ => simp [numbered_append, Nat.add_assoc]

namespace Store

/-! ## The events of an operation -/

/-- The events that an operation appends to the log of an open store. -/
def announced (s : Store) : Operation → List Event
  | .register r => [.serverOnline r.serverId r.serverName]
  | .unregister id => [.serverOffline id (some "shutdown")]
  | .heartbeat r => [.serverHeartbeat r.serverId (s.playerCount r.serverId) r.maxPlayers]
  | .join p => [.join p ((s.location? p.uuid).filter (· ≠ p.serverId))]
  | .leave uuid id => if s.location? uuid = some id then [.playerLeave uuid id] else []
  | .fetch _ => s.orphans.map fun id => .serverOffline id (some "expired")
  | .expire _ | .close => []

/-- The events that an operation appends to the log. -/
def entriesOf (s : Store) (op : Operation) : List Event :=
  if s.closed then [] else s.announced op

/-- The events that a run appends to the log, oldest first. -/
def history (s : Store) : List Operation → List Event
  | [] => []
  | op :: ops => s.entriesOf op ++ (s.perform op).history ops

/-- What a run writes to the log is what its parts write, one after the other. -/
theorem history_append (s : Store) (ops ops' : List Operation) :
    s.history (ops ++ ops') = s.history ops ++ (s.run ops).history ops' := by
  induction ops generalizing s with
  | nil => rfl
  | cons op ops ih => rw [List.cons_append, history, history, ih, run_cons, List.append_assoc]

/-! ## The log as the end of a history -/

/-- **The log keeps the newest events** of a history, with their numbers. -/
structure HasHistory (s : Store) (events : List Event) : Prop where
  capacity_pos : 0 < s.capacity
  lastEntry_eq : s.lastEntry = events.length
  log_eq : s.log = (numbered 0 events).drop (events.length - s.capacity)

/-- The history of an empty store is empty. -/
theorem hasHistory_withCapacity (capacity : Nat) : (withCapacity capacity).HasHistory [] where
  capacity_pos := Nat.lt_of_lt_of_le Nat.zero_lt_one (Nat.le_max_right capacity 1)
  lastEntry_eq := rfl
  log_eq := List.drop_nil.symm

namespace HasHistory

variable {s t : Store} {events : List Event}

/-- What has no part in the log has no part in its history. -/
theorem congr (h : s.HasHistory events) (hcapacity : t.capacity = s.capacity)
    (hlast : t.lastEntry = s.lastEntry) (hlog : t.log = s.log) : t.HasHistory events where
  capacity_pos := hcapacity ▸ h.capacity_pos
  lastEntry_eq := hlast.trans h.lastEntry_eq
  log_eq := by rw [hlog, hcapacity, h.log_eq]

/-- An entry that is appended to the log is appended to the history: when the log is full, the one
entry that makes room is the oldest that was kept.

**Proof sketch.** By whether the log is full. If it is not, nothing is dropped before and after. If
it is, the entry that is dropped is the first one of the log, so one event more of the history is
not kept. -/
theorem append (h : s.HasHistory events) (e : Event) :
    (s.append e).HasHistory (events ++ [e]) where
  capacity_pos := h.capacity_pos
  lastEntry_eq := by
    show s.lastEntry + 1 = _
    rw [h.lastEntry_eq, List.length_append, List.length_singleton]
  log_eq := by
    have hpos := h.capacity_pos
    have hlength : s.log.length = min events.length s.capacity := by
      rw [h.log_eq, List.length_drop, length_numbered]
      omega
    have hnumbered : numbered 0 (events ++ [e]) = numbered 0 events ++ [(s.lastEntry + 1, e)] := by
      rw [numbered_append, h.lastEntry_eq, Nat.zero_add]
      rfl
    show (s.log ++ [(s.lastEntry + 1, e)]).drop
      ((s.log ++ [(s.lastEntry + 1, e)]).length - s.capacity) = _
    rw [hnumbered, List.length_append, List.length_append, List.length_singleton, hlength]
    have hkept : (numbered 0 events ++ [(s.lastEntry + 1, e)]).drop (events.length - s.capacity) =
        s.log ++ [(s.lastEntry + 1, e)] := by
      rw [List.drop_append_of_le_length (by rw [length_numbered]; omega), ← h.log_eq]
    rw [← hkept, List.drop_drop]
    congr 1
    show _ = events.length + 1 - s.capacity
    omega

/-- The orphans that are announced prolong the history. -/
theorem healed (h : s.HasHistory events) :
    s.healed.HasHistory (events ++ s.orphans.map fun id => .serverOffline id (some "expired")) := by
  unfold Store.healed
  induction s.orphans generalizing s events with
  | nil => simpa using h
  | cons id ids ih =>
    have hnext := (h.congr (t := { s with tracked := s.tracked.erase id }) rfl rfl rfl).append
      (.serverOffline id (some "expired"))
    simpa using ih hnext

/-- Vacating writes nothing to the log. -/
theorem vacate (h : s.HasHistory events) (uuid : Uuid) (id : String) :
    (s.vacate uuid id).HasHistory events :=
  h.congr (vacate_frame (·.capacity) (fun _ _ _ => rfl) s uuid id)
    (vacate_frame (·.lastEntry) (fun _ _ _ => rfl) s uuid id)
    (vacate_frame (·.log) (fun _ _ _ => rfl) s uuid id)

/-- **An operation on an open store appends the events it announces.**

**Proof sketch.** By cases on the operation. What it changes beside the log has no part in the
history, and what it announces is appended. -/
theorem effect (h : s.HasHistory events) (op : Operation) :
    (s.effect op).HasHistory (events ++ s.announced op) := by
  cases op with
  | register r =>
    exact (h.congr (t := { s with
      counts := s.counts.insert r.serverId (UInt32.ofNat (s.roster r.serverId).size)
      servers := s.servers.insert r.serverId r
      tracked := s.tracked.insert r.serverId () }) rfl rfl rfl).append
        (.serverOnline r.serverId r.serverName)
  | unregister id =>
    exact (h.congr (t := { s.expire id with tracked := s.tracked.erase id }) rfl rfl rfl).append
      (.serverOffline id (some "shutdown"))
  | heartbeat r =>
    exact (h.congr (t := { s with
      servers := s.servers.insert r.serverId r
      tracked := s.tracked.insert r.serverId () }) rfl rfl rfl).append
        (.serverHeartbeat r.serverId (s.playerCount r.serverId) r.maxPlayers)
  | join p =>
    refine HasHistory.append (h.congr ?_ ?_ ?_) _
    · exact elim_vacate_frame (·.capacity) (fun _ _ _ => rfl) s _ _
    · exact elim_vacate_frame (·.lastEntry) (fun _ _ _ => rfl) s _ _
    · exact elim_vacate_frame (·.log) (fun _ _ _ => rfl) s _ _
  | leave uuid id =>
    by_cases hat : s.location? uuid = some id
    · have hleft := (h.congr (t := { s with locations := s.locations.erase uuid }) rfl rfl
        rfl).vacate uuid id
      simpa [Store.effect, announced, left, hat] using hleft.append (.playerLeave uuid id)
    · show (s.left uuid id).2.HasHistory _
      rw [left_of_ne hat, announced, if_neg hat, List.append_nil]
      exact h
  | fetch => exact h.healed
  | expire id => exact (List.append_nil events).symm ▸ h.congr (t := s.expire id) rfl rfl rfl
  | close => exact (List.append_nil events).symm ▸ h.congr (t := s.close) rfl rfl rfl

/-- An operation prolongs the history by what it writes.

**Proof sketch.** On an open store the entries of an operation are appended. On a closed one there
are none, and the log stays. -/
theorem perform (h : s.HasHistory events) (op : Operation) :
    (s.perform op).HasHistory (events ++ s.entriesOf op) := by
  unfold entriesOf
  cases hclosed : s.closed with
  | false => exact perform_of_open hclosed op ▸ h.effect op
  | true =>
    rw [if_pos rfl, List.append_nil]
    cases op with
    | expire id => exact h.congr (t := s.expire id) rfl rfl rfl
    | close => exact h.congr (t := s.close) rfl rfl rfl
    | _ =>
      rw [perform_of_closed hclosed]
      · exact h
      · exact nofun
      · exact nofun

/-- **A run prolongs the history of a store by its own.**

**Proof sketch.** By induction on the operations. -/
theorem run (h : s.HasHistory events) (ops : List Operation) :
    (s.run ops).HasHistory (events ++ s.history ops) := by
  induction ops generalizing s events with
  | nil => rwa [history, List.append_nil]
  | cons op ops ih =>
    rw [history, ← List.append_assoc, run_cons]
    exact ih (h.perform op)

/-! ## Reading the log -/

/-- The newest entry of an open store is the last one of the history.

**Proof sketch.** The log ends with the last event of the history, as it has room for one entry at
least. -/
theorem latest (h : s.HasHistory events) (hopen : s.closed = false) :
    s.latest = .ok events.length := by
  have hpos := h.capacity_pos
  have hlog : (s.log.getLast?.map (·.1)).getD 0 = events.length := by
    rw [h.log_eq, List.getLast?_drop, length_numbered]
    split
    next hle =>
      have : events.length = 0 := by omega
      simp [this]
    next => simpa using getLast?_numbered 0 events
  simp [Store.latest, whenOpen, hopen, hlog]

end HasHistory

/-- The log still keeps all entries after entry `n`. -/
def RetainsAfter (s : Store) (n : Nat) : Prop :=
  ∀ k ≤ s.lastEntry, n < k → k ∈ s.log.map (·.1)

instance (s : Store) (n : Nat) : Decidable (s.RetainsAfter n) :=
  inferInstanceAs (Decidable (∀ k ≤ s.lastEntry, n < k → k ∈ s.log.map (·.1)))

/-- The log after a position keeps the events after it, as long as none of them is gone.

**Proof sketch.** The log is the last part of the numbered history. If any event after the position
is kept at all, the first of them is, so the log begins no later than behind the position, and of
its entries those behind the position remain. -/
theorem HasHistory.filter_log {s : Store} {events : List Event} (h : s.HasHistory events) {n : Nat}
    (hkept : s.RetainsAfter n) : s.log.filter (·.1 > n) = numbered n (events.drop n) := by
  have hlog := h.log_eq
  rw [drop_numbered, Nat.zero_add] at hlog
  by_cases hn : n < events.length
  · have hfirst : n + 1 ∈ s.log.map (·.1) :=
      hkept (n + 1) (by rw [h.lastEntry_eq]; omega) (Nat.lt_succ_self n)
    obtain ⟨⟨k, e⟩, hmem, hk⟩ := List.mem_map.1 hfirst
    rw [hlog] at hmem
    have hle : events.length - s.capacity ≤ n := by
      have := (mem_numbered hmem).1
      simp only at hk
      omega
    have hfrom := filter_numbered (events.length - s.capacity)
      (n - (events.length - s.capacity)) (events.drop (events.length - s.capacity))
    rw [Nat.add_sub_cancel' hle, List.drop_drop, Nat.add_sub_cancel' hle] at hfrom
    rw [hlog, hfrom]
  · rw [List.drop_of_length_le (by omega), numbered_nil, List.filter_eq_nil_iff]
    rintro ⟨k, e⟩ hmem
    rw [hlog] at hmem
    have := (mem_numbered hmem).2
    rw [List.length_drop] at this
    simp only [gt_iff_lt, decide_eq_true_eq]
    omega

/-- **Reading the log from a position on gives the events after it**, as long as they are all
kept. -/
theorem HasHistory.entriesAfter {s : Store} {events : List Event} (h : s.HasHistory events)
    (hopen : s.closed = false) {n : Nat} (hkept : s.RetainsAfter n) (most : Nat) :
    s.entriesAfter n most = .ok ((numbered n (events.drop n)).take most) := by
  simp [Store.entriesAfter, whenOpen, hopen, h.filter_log hkept]

/-- One reading that is no smaller than the log gives them all. -/
theorem HasHistory.entriesAfter_all {s : Store} {events : List Event} (h : s.HasHistory events)
    (hopen : s.closed = false) {n : Nat} (hkept : s.RetainsAfter n) {most : Nat}
    (hmost : s.log.length ≤ most) : s.entriesAfter n most = .ok (numbered n (events.drop n)) := by
  have hle : (numbered n (events.drop n)).length ≤ s.log.length := by
    rw [← h.filter_log hkept]
    exact List.length_filter_le _ _
  rw [h.entriesAfter hopen hkept, List.take_of_length_le (hle.trans hmost)]

end Store

end FleetStatus
