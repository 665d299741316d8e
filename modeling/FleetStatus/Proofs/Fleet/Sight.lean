import FleetStatus.Proofs.Fleet.Steps
import FleetStatus.Proofs.Member.Interleaving
import FleetStatus.Proofs.Presence.Totals

set_option relaxedAutoImplicit false
set_option autoImplicit false

/-!
# What a node sees of its fleet

A full read puts players on listed servers only, and to forget a stale server takes its players with
it. But the log goes on telling of a server that was forgotten, and it may lag behind a full read: a
join that is read from it puts the player on a server that is not listed. What a node read since its
last full read, and which servers it knew of then, says which players are on such servers.

## Main definitions

* `FleetStatus.Sight` — what a node saw of its fleet since it last read the whole store.
* `FleetStatus.Sight.Housed` — the log placed players on servers only that the node knows of.
* `FleetStatus.Sight.Course` — what a turn does to the replica of a node and to its place in the
  log.
* `FleetStatus.Sees`, `FleetStatus.Tracks` — the replica comes from what the node saw, and it heads
  for what the store holds.

## Main results

* `FleetStatus.Sees.turn` — what a node saw determines its replica, turn by turn.
* `FleetStatus.Sees.housed_iff` — so it tells whether players are on servers that are not listed.
* `FleetStatus.Tracks.turn`, `FleetStatus.Tracks.housed` — a node that reads the log to its end ends
  where the store is, unless it forgot a stale server.
-/

namespace FleetStatus

open Store (Operation)

/-! ## What a node saw -/

/-- The entries that a member takes in when it reads the log once. -/
def Member.nextEntries (m : Member) (s : Store) : List (Nat × Event) :=
  m.cursor?.elim [] fun k => (s.entriesAfter k batchSize).toOption.getD []

/-- **To read the log once is to replay the next entries.**

**Proof sketch.** A member without a place in the log reads nothing. One with a place reads a batch
of entries behind it, or nothing if the store does not answer. -/
theorem Member.replica_followOnce_eq (m : Member) (now : Int64) (s : Store) :
    (m.followOnce now s).replica = m.replica.replay (fun _ => now) (m.nextEntries s) := by
  cases hcursor : m.cursor? with
  | none =>
    rw [followOnce_of_cursor?_eq_none hcursor, nextEntries, hcursor]
    rfl
  | some k =>
    have hplace : m.session?.bind (·.cursor) = some k := hcursor
    rw [followOnce, hplace, nextEntries, hcursor, Option.elim_some]
    cases hread : s.entriesAfter k batchSize with
    | ok entries =>
      simp only [hread]
      exact replica_foldl_observe m now entries
    | error e =>
      simp only [hread]
      exact replica_mapSession m _

/-- What a node **saw** of its fleet since it last read the whole store. -/
structure Sight where
  /-- The servers that were in the replica then. -/
  kept : List String := []
  /-- The stale servers that were forgotten right before. -/
  dropped : List String := []
  /-- What the log told afterwards, as far as the node read it. -/
  taken : List Event := []
  deriving DecidableEq

namespace Sight

/-- Whether a node reads the whole store in its turn. -/
def Renewed (n : Node) (now : Int64) (s : Store) (t : Turn) : Prop :=
  s.closed = false ∧ .fetch now ∈ n.operations now t

instance (n : Node) (now : Int64) (s : Store) (t : Turn) : Decidable (Renewed n now s t) :=
  inferInstanceAs (Decidable (_ ∧ _))

/-- What a node saw after a further turn. -/
def after (w : Sight) (n : Node) (now : Int64) (s : Store) (t : Turn) : Sight :=
  if Renewed n now s t then {
    kept := (n.turn now s t).1.replica.servers.keys
    dropped :=
      if t = .tick then (n.member.replica.refresh (s.healed.view now) now).staleIds now else [] }
  else if t = .tail then { w with taken := w.taken ++ (n.member.nextEntries s).map (·.2) }
  else w

/-- What a turn does to the replica of a node and to its place in the log, if the node keeps a
replica and runs afterwards. -/
inductive Course (n : Node) (now : Int64) (s : Store) : Turn → Prop where
  /-- The node starts: it publishes its record, takes its place in the log and reads everything. -/
  | start (hrenewed : Renewed n now s .start)
      (hops : n.operations now .start =
        [.register (n.report.record n.member.serverId now), .fetch now])
      (hreplica : (n.turn now s .start).1.replica = n.member.replica.refresh
        ((s.registered (n.report.record n.member.serverId now)).healed.view now) now)
      (hcursor : (n.turn now s .start).1.cursor? =
        some ((s.registered (n.report.record n.member.serverId now)).latest.toOption.getD 0)) :
      Course n now s .start
  /-- The node reads everything again and forgets the stale servers. -/
  | tick (hrenewed : Renewed n now s .tick) (hran : n.member.isRunning)
      (hops : n.operations now .tick = [.fetch now])
      (hreplica : (n.turn now s .tick).1.replica =
        (n.member.replica.refresh (s.healed.view now) now).prune now)
      (hcursor : (n.turn now s .tick).1.cursor? = n.member.cursor?) : Course n now s .tick
  | tail (hran : n.member.isRunning) : Course n now s .tail
  /-- The node reads neither. -/
  | quiet {t : Turn} (hran : n.member.isRunning) (hrenewed : ¬Renewed n now s t) (htail : t ≠ .tail)
      (hreplica : (n.turn now s t).1.replica = n.member.replica)
      (hcursor : (n.turn now s t).1.cursor? = n.member.cursor?) : Course n now s t

section Course

variable {n : Node} {now : Int64} {s : Store} {t : Turn}

/-- A turn that leaves the member as it is. -/
theorem Course.of_eq (hran : n.member.isRunning) (hrenewed : ¬Renewed n now s t) (htail : t ≠ .tail)
    (hturn : (n.turn now s t).1 = n.member) : Course n now s t :=
  .quiet hran hrenewed htail (by rw [hturn]) (by rw [hturn])

/-- A turn that changes nothing of the member but its queue. -/
theorem Course.of_withQueue (hran : n.member.isRunning) (hrenewed : ¬Renewed n now s t)
    (htail : t ≠ .tail) {queue : List PlayerChange}
    (hturn : (n.turn now s t).1 = n.member.withQueue queue) : Course n now s t := by
  refine .quiet hran hrenewed htail ?_ ?_
  · rw [hturn, Member.replica_withQueue]
  · rw [hturn, Member.cursor?_withQueue]

/-- A start of a node that runs afterwards.

**Proof sketch.** A start that is refused leaves the member as it is, and one on a closed store ends
with a member that does not run. On an open store it reads the whole store. -/
theorem course_start (hrunning : (n.turn now s .start).1.isRunning)
    (hsyncs : n.member.settings.syncs) : Course n now s .start := by
  by_cases hidle : n.member.settings.enabled ∧ n.member.phase = .idle
  swap
  · have hturn := n.turn_start_of_refused now s hidle
    have hnot : ¬Renewed n now s .start := by
      rintro ⟨-, hfetch⟩
      rw [Node.operations, if_neg hidle] at hfetch
      cases hfetch
    rw [hturn] at hrunning
    exact .of_eq hrunning hnot (by simp) (by rw [hturn])
  cases hclosed : s.closed with
  | true =>
    rw [Node.turn_start_of_closed now s hidle hclosed] at hrunning
    cases hrunning
  | false =>
    have hturn := Node.turn_start_of_syncs now s hidle hsyncs hclosed
    have hops : n.operations now .start =
        [.register (n.report.record n.member.serverId now), .fetch now] := by
      rw [Node.operations, if_pos hidle, if_pos hsyncs]
    refine .start ⟨hclosed, by simp [hops]⟩ hops ?_ ?_
    · rw [hturn]
      rfl
    · rw [hturn]
      rfl

/-- A tick of a running node.

**Proof sketch.** On a closed store nothing is read. On an open one the replica is the full read
without the stale servers. -/
theorem course_tick (hran : n.member.isRunning) (hsyncs : n.member.settings.syncs) :
    Course n now s .tick := by
  cases hclosed : s.closed with
  | true =>
    have hturn := Node.turn_tick_of_not_read (n := n) now s (.inr (.inr hclosed))
    refine .of_eq hran (fun h => ?_) (by simp) (by rw [hturn])
    exact Bool.false_ne_true (h.1.symm.trans hclosed)
  | false =>
    have hturn := Node.turn_tick_of_open now s hran hsyncs hclosed
    have hops : n.operations now .tick = [.fetch now] := by
      rw [Node.operations, hran, hsyncs]
      rfl
    refine .tick ⟨hclosed, by simp [hops]⟩ hran hops ?_ ?_
    · rw [hturn]
    · rw [hturn]
      rfl

/-- **Every turn takes one of these courses.**

**Proof sketch.** By cases on the turn. A member that runs after a turn other than a start ran
before it, and then each turn changes the queue only, reads the log or reads everything. -/
theorem course (hrunning : (n.turn now s t).1.isRunning) (hsyncs : n.member.settings.syncs) :
    Course n now s t := by
  by_cases ht : t = .start
  · subst ht
    exact course_start hrunning hsyncs
  cases hran : n.member.isRunning with
  | false =>
    rw [Node.turn_of_not_isRunning now s hran ht, hran] at hrunning
    cases hrunning
  | true =>
    cases t with
    | start => exact absurd rfl ht
    | tail => exact .tail hran
    | tick => exact course_tick hran hsyncs
    | join uuid name =>
      have hturn := Node.turn_join now s hran uuid name
      exact .of_withQueue hran (fun h => by cases h.2) (by simp) (congrArg Prod.fst hturn)
    | part uuid =>
      have hturn := Node.turn_part now s hran uuid
      exact .of_withQueue hran (fun h => by cases h.2) (by simp) (congrArg Prod.fst hturn)
    | record =>
      have hturn := Node.turn_record now s hran
      refine .of_withQueue hran (fun h => ?_) (by simp) (congrArg Prod.fst hturn)
      obtain ⟨c, -, hc⟩ := List.mem_map.1 h.2
      cases c <;> cases hc
    | beat =>
      refine .of_eq hran (fun h => ?_) (by simp) (congrArg Prod.fst (Node.turn_beat now s hran))
      rw [Renewed, Node.operations, if_pos hran] at h
      cases List.mem_singleton.1 h.2
    | leave =>
      by_cases hqueue : n.member.isRunning ∧ n.member.queue = []
      · rw [Node.turn, if_pos hqueue] at hrunning
        cases hrunning
      · have hturn : n.turn now s .leave = (n.member, s) := by rw [Node.turn, if_neg hqueue]
        refine .of_eq hran (fun h => ?_) (by simp) (congrArg Prod.fst hturn)
        rw [Renewed, Node.operations, if_neg hqueue] at h
        cases h.2

end Course

/-- **The log placed players on servers only that the node knows of**: on servers that were in its
replica after the full read, and did not go offline, or that came online since. -/
def Housed (w : Sight) : Prop :=
  ∀ uuid id, w.taken.foldl (Event.placeAfter uuid) none = some id →
    w.taken.foldl (Event.listedAfter id) (decide (id ∈ w.kept)) = true

end Sight

/-- What a node saw **determines where its replica has players and which servers it lists**. -/
structure Sees (m : Member) (w : Sight) : Prop where
  coherent : m.replica.Coherent
  located : ∀ uuid, ∃ before : Option String, (∀ id ∈ before, id ∈ w.kept) ∧
    m.replica.locations.get? uuid = w.taken.foldl (Event.placeAfter uuid) before
  listed : ∀ id, m.replica.servers.contains id =
    w.taken.foldl (Event.listedAfter id) (decide (id ∈ w.kept))

namespace Sees

variable {m : Member} {w : Sight}

/-- **A replica has its players on listed servers exactly when the log placed them so.**

**Proof sketch.** Where a player is, and which servers are listed, follows from where the players
were at the last full read and from the entries taken since. A player that the log has not placed
stays where the full read had it, and its server was kept then. -/
theorem housed_iff (h : Sees m w) : m.replica.Housed ↔ w.Housed := by
  constructor
  · intro hhoused uuid id hplaced
    obtain ⟨before, -, hat⟩ := h.located uuid
    rw [← h.listed]
    exact hhoused uuid id (hat.trans (Event.foldl_placeAfter_of_none hplaced before))
  · intro hhoused uuid id hat
    obtain ⟨before, hbefore, hat'⟩ := h.located uuid
    rw [h.listed]
    rcases Event.foldl_placeAfter_eq_some (hat'.symm.trans hat) with hplaced | ⟨hstayed, hlisted⟩
    · exact hhoused uuid id hplaced
    · rw [decide_eq_true (hbefore id hstayed), hlisted]

/-- Right after a full read. -/
theorem of_housed (hcoherent : m.replica.Coherent) (hhoused : m.replica.Housed)
    (dropped : List String) : Sees m { kept := m.replica.servers.keys, dropped } where
  coherent := hcoherent
  located uuid := by
    refine ⟨m.replica.locations.get? uuid, fun id hat => ?_, rfl⟩
    rw [Index.mem_keys_iff]
    exact hhoused uuid id hat
  listed id := by
    show _ = decide (id ∈ m.replica.servers.keys)
    simp only [Index.mem_keys_iff, Bool.decide_eq_true]

/-- Reading the log once.

**Proof sketch.** To read the log once is to replay the next entries, and a replay moves players and
servers as the entries tell, one after the other. -/
theorem tail (h : Sees m w) (now : Int64) (s : Store) : Sees (m.followOnce now s)
    { w with taken := w.taken ++ (m.nextEntries s).map (·.2) } where
  coherent := by
    rw [m.replica_followOnce_eq now s]
    exact h.coherent.replay _ _
  located uuid := by
    obtain ⟨before, hbefore, hat⟩ := h.located uuid
    refine ⟨before, hbefore, ?_⟩
    rw [m.replica_followOnce_eq now s, h.coherent.get?_locations_replay, hat, List.foldl_append]
  listed id := by
    rw [m.replica_followOnce_eq now s, Replica.contains_servers_replay, h.listed, List.foldl_append]

/-- What is seen of a member is seen of every member with the same replica. -/
theorem congr {m' : Member} (h : Sees m w) (hreplica : m'.replica = m.replica) : Sees m' w where
  coherent := hreplica ▸ h.coherent
  located := hreplica ▸ h.located
  listed := hreplica ▸ h.listed

variable {n : Node} {now : Int64} {s : Store}

/-- **What a node saw determines its replica, turn by turn.**

**Proof sketch.** A full read of a settled store gives a replica with all players on listed servers,
and so does forgetting the stale ones of them. From then on the log moves players and servers, and
nothing else does. -/
theorem turn (hsettled : s.closed = false → s.Settled) {t : Turn}
    (hfit : s.CountsFit (n.operations now t))
    (h : n.member.isRunning → n.member.settings.syncs → Sees n.member w)
    (hrunning : (n.turn now s t).1.isRunning) (hsyncs : n.member.settings.syncs) :
    Sees (n.turn now s t).1 (w.after n now s t) := by
  unfold Sight.after
  cases Sight.course hrunning hsyncs with
  | start hrenewed hops hreplica hcursor =>
    have hopen := hrenewed.1
    rw [hops] at hfit
    have hpublished := (hsettled hopen).registered_of_countsFit hfit
    have hreflects := hpublished.reflects_refresh now n.member.replica now
    have hhoused := hreflects.housed hpublished
    rw [if_pos hrenewed]
    rw [hpublished.healed] at hreplica
    refine of_housed ?_ ?_ _
    · rw [hreplica]
      exact hreflects.coherent
    · rw [hreplica]
      exact hhoused
  | tick hrenewed hran hops hreplica hcursor =>
    have hopen := hrenewed.1
    have hreflects := (hsettled hopen).reflects_refresh now n.member.replica now
    obtain ⟨hcoherent, hhoused⟩ := hreflects.coherent.prune now
    rw [if_pos hrenewed]
    rw [(hsettled hopen).healed] at hreplica
    refine of_housed ?_ ?_ _
    · rw [hreplica]
      exact hcoherent
    · rw [hreplica]
      exact hhoused (hreflects.housed (hsettled hopen))
  | tail hran =>
    have hnot : ¬Sight.Renewed n now s .tail := fun h => by cases h.2
    rw [if_neg hnot, if_pos rfl]
    exact (h hran hsyncs).tail now s
  | quiet hran hrenewed htail hreplica hcursor =>
    rw [if_neg hrenewed, if_neg htail]
    exact (h hran hsyncs).congr hreplica

end Sees

/-! ## Reading to the end of the log -/

/-- A member that reached a place in the log and whose last full read found no stale server **heads
for what the store holds**. -/
structure Tracks (m : Member) (s : Store) (events : List Event) (w : Sight) (k : Nat) : Prop where
  cursor : m.cursor? = some k
  cursor_le : k ≤ events.length
  heading : w.dropped = [] → (Follower.mk m s none).Heading events k s.location? s.servers.contains

namespace Tracks

variable {m : Member} {s : Store} {events : List Event} {w : Sight} {k : Nat}

/-- A replica that reflects the store heads for what is in it, from any place in the log.

**Proof sketch.** A replica like the store is where the last entries lead from any place before
them, since to take in an entry again changes nothing of where the log leads. -/
theorem of_reflects (htold : s.ToldBy events) (hcursor : m.cursor? = some k)
    (hle : k ≤ events.length) (hreflects : w.dropped = [] → m.replica.Reflects s) :
    Tracks m s events w k where
  cursor := hcursor
  cursor_le := hle
  heading hnone := {
    place := fun uuid => by
      rw [(hreflects hnone).location? htold.settled.coherent]
      exact htold.foldl_placeAfter_drop k uuid
    listed := fun id => by
      rw [(hreflects hnone).listed]
      exact htold.foldl_listedAfter_drop k id }

/-- What is written to the store will be read.

**Proof sketch.** The place in the log stays and the entries are appended behind those that were
there, so the replica heads for the new ends as it did for the old ones. -/
theorem write (h : Tracks m s events w k) (htold : s.ToldBy events) {ops : List Operation}
    (horderly : s.OrderlyRun ops) (hfit : s.CountsFit ops) {m' : Member}
    (hreplica : m'.replica = m.replica) (hcursor : m'.cursor? = m.cursor?) :
    Tracks m' (s.run ops) (events ++ s.history ops) w k where
  cursor := hcursor.trans h.cursor
  cursor_le := by
    rw [List.length_append]
    exact h.cursor_le.trans (Nat.le_add_right _ _)
  heading hnone := {
    place := fun uuid => by
      show List.foldl _ (m'.replica.locations.get? uuid) _ = _
      rw [List.drop_append_of_le_length h.cursor_le, List.foldl_append, hreplica,
        htold.settled.location?_run horderly hfit, ← (h.heading hnone).place uuid]
    listed := fun id => by
      show List.foldl _ (m'.replica.servers.contains id) _ = _
      rw [List.drop_append_of_le_length h.cursor_le, List.foldl_append, hreplica,
        htold.settled.contains_servers_run horderly hfit, ← (h.heading hnone).listed id] }

/-- What is read changes nothing of where the replica heads for.

**Proof sketch.** The member and the store are a follower in the sense of `Follower.Following`, for
which reading the log is known to lead to the same ends. -/
theorem tail (h : Tracks m s events w k) (htold : s.ToldBy events) (hcoherent : m.replica.Coherent)
    (now : Int64) (hkept : ∀ k ∈ m.cursor?, s.RetainsAfter k) (taken : List Event) :
    ∃ k', Tracks (m.followOnce now s) s events { w with taken } k' := by
  have hfollowing : (Follower.mk m s none).Following events k :=
    ⟨htold, h.cursor, h.cursor_le, hcoherent, nofun⟩
  obtain ⟨k', hk', hheading⟩ := hfollowing.tail now hkept
  exact ⟨k', hk'.cursor, hk'.cursor_le, fun hnone => hheading _ _ (h.heading hnone)⟩

/-- A member that tracks the store and read the log to its end has its players where the store has
them.

**Proof sketch.** At the end of the log nothing is left to read, so where the replica heads for is
where it is; and a coherent store has every located player on a listed server. -/
theorem housed (h : Tracks m s events w k) (htold : s.ToldBy events)
    (hend : m.cursor? = s.latest.toOption) (hnone : w.dropped = []) : m.replica.Housed := by
  intro uuid id hat
  rw [htold.history.latest htold.settled.isOpen, h.cursor] at hend
  have hall : events.drop k = [] := List.drop_eq_nil_of_le (Option.some.inj hend).ge
  have hplace : m.replica.locations.get? uuid = s.location? uuid := by
    have hheading := (h.heading hnone).place uuid
    rwa [hall] at hheading
  have hlisted : m.replica.servers.contains id = s.servers.contains id := by
    have hheading := (h.heading hnone).listed id
    rwa [hall] at hheading
  rw [hlisted]
  exact htold.settled.registered uuid id (hplace ▸ hat)

variable {n : Node} {now : Int64}

/-- **A node tracks the store, turn by turn.**

**Proof sketch.** By the course that the turn takes (`Sight.course`). After a full read the replica
reflects the store, and a turn that reads the log is a tail. In every other turn the member stays
and the store is written to. -/
theorem turn (htold : s.ToldBy events) {t : Turn} (horderly : s.OrderlyRun (n.operations now t))
    (hfit : s.CountsFit (n.operations now t))
    (hkept : t = .tail → ∀ k ∈ n.member.cursor?, s.RetainsAfter k)
    (hsees : n.member.isRunning → n.member.settings.syncs → Sees n.member w)
    (h : n.member.isRunning → n.member.settings.syncs → ∃ k, Tracks n.member s events w k)
    (hrunning : (n.turn now s t).1.isRunning) (hsyncs : n.member.settings.syncs) :
    ∃ k, Tracks (n.turn now s t).1 (s.run (n.operations now t))
      (events ++ s.history (n.operations now t)) (w.after n now s t) k := by
  have hsettled := htold.settled
  have htold' := htold.run horderly hfit
  unfold Sight.after
  cases Sight.course hrunning hsyncs with
  | start hrenewed hops hreplica hcursor =>
    -- the start publishes the record and reads the store with it
    have hopen := hrenewed.1
    rw [hops] at hfit htold' ⊢
    have hpublished := hsettled.registered_of_countsFit hfit
    have hrun : s.run [.register (n.report.record n.member.serverId now), .fetch now] =
        s.registered (n.report.record n.member.serverId now) := by
      rw [Store.run_cons, Store.perform_of_open hopen]
      exact (Store.perform_of_open hpublished.isOpen (.fetch now)).trans hpublished.healed
    rw [hrun] at htold' ⊢
    rw [if_pos hrenewed]
    have hlatest := htold'.history.latest hpublished.isOpen
    rw [hlatest] at hcursor
    refine ⟨_, of_reflects htold' hcursor (Nat.le_refl _) fun _ => ?_⟩
    rw [hreplica, hpublished.healed]
    exact hpublished.reflects_refresh now n.member.replica now
  | tick hrenewed hran hops hreplica hcursor =>
    -- the tick reads the store, and forgets stale servers with their players
    have hopen := hrenewed.1
    obtain ⟨k, hk⟩ := h hran hsyncs
    have hrun : s.run (n.operations now .tick) = s := by
      rw [hops]
      exact (Store.perform_of_open hopen (.fetch now)).trans hsettled.healed
    have hle : k ≤ (events ++ s.history (n.operations now .tick)).length := by
      rw [List.length_append]
      exact hk.cursor_le.trans (Nat.le_add_right _ _)
    rw [hrun] at htold' ⊢
    rw [if_pos hrenewed]
    refine ⟨k, of_reflects htold' (hcursor.trans hk.cursor) hle fun hnone => ?_⟩
    -- no server was stale, so nothing was forgotten
    change (n.member.replica.refresh (s.healed.view now) now).staleIds now = [] at hnone
    rw [hreplica, Replica.prune, hnone, List.foldl_nil, hsettled.healed]
    exact hsettled.reflects_refresh now n.member.replica now
  | tail hran =>
    have hnot : ¬Sight.Renewed n now s .tail := fun h => by cases h.2
    obtain ⟨k, hk⟩ := h hran hsyncs
    rw [if_neg hnot, if_pos rfl]
    have htail := hk.tail htold (hsees hran hsyncs).coherent now (hkept rfl)
      (w.taken ++ (n.member.nextEntries s).map (·.2))
    rwa [← List.append_nil events] at htail
  | quiet hran hrenewed htail hreplica hcursor =>
    obtain ⟨k, hk⟩ := h hran hsyncs
    rw [if_neg hrenewed, if_neg htail]
    exact ⟨k, hk.write htold horderly hfit hreplica hcursor⟩

end Tracks

end FleetStatus
