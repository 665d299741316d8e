import FleetStatus.Proofs.Member.Tail

set_option relaxedAutoImplicit false
set_option autoImplicit false

/-!
# Full reads that overtake the log, and full reads that are overtaken

A running member reads the log and, now and then, the whole store. A full read takes two steps: it
is fetched, and some time later it is put in the replica. In between the servers of the fleet go on
writing, and the member goes on reading the log.

At its start a member takes its place in the log before the full read, so nothing is missed. A later
full read is put in whatever the log told in the meantime, and the place in the log stays: what the
log told between the fetch and the installation is forgotten, unless later entries happen to make up
for it.

## Main definitions

* `FleetStatus.Follower`, `FleetStatus.Follower.step` — a member, the store and the full read that
  is under way.
* `FleetStatus.Follower.Permitted`, `FleetStatus.Follower.PermittedRun` — the servers are orderly,
  the log is not overrun and no server is stale.
* `FleetStatus.Follower.LosesNothing` — what the last full read passes over makes no difference.

## Main results

* `FleetStatus.Follower.Following.run_quiet` — without full reads the replica heads for what the
  store holds.
* `FleetStatus.Follower.placesAgree_run_iff` — a member that read the whole log agrees with the
  store exactly when its last full read loses nothing.
* `FleetStatus.Follower.refresh_forgets_join` — a full read that loses a player.
-/

namespace FleetStatus

/-- A member that follows the log of a store. -/
structure Follower where
  member : Member
  store : Store
  /-- The full read that was fetched and not yet put in. -/
  pending : Option Snapshot := none
  deriving DecidableEq

namespace Follower

/-! ## Steps -/

/-- One step of a member, of another server, or of both. -/
inductive Step where
  /-- Some server uses the store. -/
  | write (op : Store.Operation)
  /-- The member reads the log once. -/
  | tail (now : Int64)
  /-- The member fetches a full read. -/
  | fetch (now : Int64)
  /-- The member puts the full read in its replica. -/
  | install (now : Int64)
  deriving DecidableEq

/-- The store after a step, and what the member knows. -/
def step (f : Follower) : Step → Follower
  | .write op => { f with store := f.store.perform op }
  | .tail now => { f with member := f.member.followOnce now f.store }
  | .fetch now =>
    match f.store.fetch now with
    | .ok (snapshot, store) => { f with store, pending := some snapshot }
    | .error _ => f
  | .install now =>
    match f.pending with
    | some snapshot =>
      let replica := (f.member.replica.refresh snapshot now).prune now
      { f with member := { f.member with replica }, pending := none }
    | none => f

/-- The state after several steps in turn. -/
def run (f : Follower) (steps : List Step) : Follower := steps.foldl step f

/-- No steps leave a follower as it is. -/
@[simp]
theorem run_nil (f : Follower) : f.run [] = f := rfl

/-- The first of several steps is taken first. -/
@[simp]
theorem run_cons (f : Follower) (st : Step) (steps : List Step) :
    f.run (st :: steps) = (f.step st).run steps := rfl

/-- Two runs in turn are one run. -/
theorem run_append (f : Follower) (steps steps' : List Step) :
    f.run (steps ++ steps') = (f.run steps).run steps' := List.foldl_append

/-- **Reading again is to fetch and to put in at once.** -/
theorem readAgain_eq {f : Follower} (hrunning : f.member.isRunning) (hsyncs : f.member.settings.syncs)
    (hopen : f.store.closed = false) (now : Int64) :
    f.member.readAgain now f.store =
      ((f.run [.fetch now, .install now]).member, (f.run [.fetch now, .install now]).store) := by
  have hfetch : f.store.fetch now = .ok (f.store.healed.view now, f.store.healed) := by
    simp [Store.fetch, Store.whenOpen, hopen]
  simp [Member.readAgain, hrunning, hsyncs, step, hfetch]

/-! ## What is permitted -/

/-- Servers are **orderly**, the member reads the log before entries are gone that it did not read,
and no full read begins while one is under way or finds a stale server. -/
def Permitted (f : Follower) : Step → Prop
  | .write op => op.Orderly f.store
  | .tail _ => ∀ k ∈ f.member.cursor?, f.store.RetainsAfter k
  | .fetch _ => f.pending = none
  | .install now => ∃ snapshot ∈ f.pending, (f.member.replica.refresh snapshot now).hasStale now = false

instance (f : Follower) : (st : Step) → Decidable (f.Permitted st)
  | .write op => inferInstanceAs (Decidable (op.Orderly f.store))
  | .tail _ => inferInstanceAs (Decidable (∀ k ∈ f.member.cursor?, f.store.RetainsAfter k))
  | .fetch _ => inferInstanceAs (Decidable (f.pending = none))
  | .install now => inferInstanceAs (Decidable (∃ snapshot ∈ f.pending,
      (f.member.replica.refresh snapshot now).hasStale now = false))

/-- Every step of the run is permitted when its turn comes. -/
def PermittedRun (f : Follower) : List Step → Prop
  | [] => True
  | st :: steps => f.Permitted st ∧ (f.step st).PermittedRun steps

instance decidablePermittedRun (f : Follower) : (steps : List Step) →
    Decidable (f.PermittedRun steps)
  | [] => .isTrue trivial
  | st :: steps =>
    have := decidablePermittedRun (f.step st) steps
    inferInstanceAs (Decidable (f.Permitted st ∧ (f.step st).PermittedRun steps))

/-- Two runs in turn are permitted if the second is permitted after the first. -/
theorem permittedRun_append {f : Follower} {steps steps' : List Step} :
    f.PermittedRun (steps ++ steps') ↔ f.PermittedRun steps ∧ (f.run steps).PermittedRun steps' := by
  induction steps generalizing f with
  | nil => simp [PermittedRun]
  | cons st steps ih => simp [PermittedRun, ih, and_assoc]

/-! ## What the store sees -/

/-- The operations of a step on the store. -/
def Step.operations : Step → List Store.Operation
  | .write op => [op]
  | .fetch now => [.fetch now]
  | .tail _ | .install _ => []

/-- The operations of several steps on the store. -/
def operations (steps : List Step) : List Store.Operation := steps.flatMap Step.operations

/-- The operations of the first step come first. -/
theorem operations_cons (st : Step) (steps : List Step) :
    operations (st :: steps) = st.operations ++ operations steps := List.flatMap_cons

/-- The operations of two runs in turn. -/
theorem operations_append (steps steps' : List Step) :
    operations (steps ++ steps') = operations steps ++ operations steps' := List.flatMap_append

/-- **A step does to the store what it asks for**, whatever the member does with the answer. -/
theorem store_step (f : Follower) (st : Step) : (f.step st).store = f.store.run st.operations := by
  cases st with
  | write op => rfl
  | tail now => rfl
  | fetch now =>
    simp only [Step.operations, Store.run_cons, Store.run_nil, step, Store.perform]
    cases f.store.fetch now with
    | ok result => rfl
    | error e => rfl
  | install now =>
    unfold step
    cases f.pending <;> rfl

/-- A run of a follower is a run of its store. -/
theorem store_run (f : Follower) (steps : List Step) :
    (f.run steps).store = f.store.run (operations steps) := by
  induction steps generalizing f with
  | nil => rfl
  | cons st steps ih => rw [run_cons, ih, store_step, operations_cons, Store.run_append]

/-- A step that is permitted uses the store in an orderly way. -/
theorem Permitted.orderlyRun {f : Follower} {st : Step} (h : f.Permitted st) :
    f.store.OrderlyRun st.operations := by
  cases st with
  | write op => exact ⟨h, trivial⟩
  | fetch now => exact ⟨trivial, trivial⟩
  | tail now => trivial
  | install now => trivial

/-- A run that is permitted uses the store in an orderly way. -/
theorem PermittedRun.orderlyRun {f : Follower} {steps : List Step} (h : f.PermittedRun steps) :
    f.store.OrderlyRun (operations steps) := by
  induction steps generalizing f with
  | nil => trivial
  | cons st steps ih =>
    rw [operations_cons, Store.orderlyRun_append, ← store_step]
    exact ⟨Permitted.orderlyRun h.1, ih h.2⟩

/-! ## Following -/

/-- A member that follows: a history tells what the store holds, the member reached a place in it,
and a full read that is under way was fetched from a settled store. -/
structure Following (f : Follower) (events : List Event) (k : Nat) : Prop where
  told : f.store.ToldBy events
  cursor : f.member.cursor? = some k
  cursor_le : k ≤ events.length
  coherent : f.member.replica.Coherent
  pending : ∀ snapshot, f.pending = some snapshot →
    ∃ (s : Store) (now : Int64), s.Settled ∧ snapshot = s.view now

/-- Where the replica will be when the member has read the log to its end. -/
structure Heading (f : Follower) (events : List Event) (k : Nat) (place : Uuid → Option String)
    (listed : String → Bool) : Prop where
  place : ∀ uuid, (events.drop k).foldl (Event.placeAfter uuid)
    (f.member.replica.locations.get? uuid) = place uuid
  listed : ∀ id, (events.drop k).foldl (Event.listedAfter id)
    (f.member.replica.servers.contains id) = listed id

/-- A replica heads for where the rest of the events leads from where it is. -/
theorem heading_self (f : Follower) (events : List Event) (k : Nat) : f.Heading events k
    (fun uuid => (events.drop k).foldl (Event.placeAfter uuid)
      (f.member.replica.locations.get? uuid))
    (fun id => (events.drop k).foldl (Event.listedAfter id)
      (f.member.replica.servers.contains id)) := ⟨fun _ => rfl, fun _ => rfl⟩

section Following

variable {f : Follower} {events : List Event} {k : Nat}

/-- Writing prolongs what is still to be read. -/
theorem Following.write (h : f.Following events k) {op : Store.Operation} (hop : op.Orderly f.store)
    (hfit : f.store.CountsFit [op]) :
    (f.step (.write op)).Following (events ++ f.store.history [op]) k where
  told := h.told.run (show f.store.OrderlyRun [op] from ⟨hop, trivial⟩) hfit
  cursor := h.cursor
  cursor_le := by
    rw [List.length_append]
    exact h.cursor_le.trans (Nat.le_add_right _ _)
  coherent := h.coherent
  pending := h.pending

/-- What is written prolongs where the replica heads for. -/
theorem Heading.write (h : f.Following events k) {place : Uuid → Option String}
    {listed : String → Bool} (hheading : f.Heading events k place listed) (op : Store.Operation) :
    (f.step (.write op)).Heading (events ++ f.store.history [op]) k
      (fun uuid => (f.store.history [op]).foldl (Event.placeAfter uuid) (place uuid))
      (fun id => (f.store.history [op]).foldl (Event.listedAfter id) (listed id)) where
  place uuid := by
    rw [List.drop_append_of_le_length h.cursor_le, List.foldl_append, ← hheading.place]
    rfl
  listed id := by
    rw [List.drop_append_of_le_length h.cursor_le, List.foldl_append, ← hheading.listed]
    rfl

/-- Reading the log once takes in the next events, so what the replica heads for stays.

**Proof sketch.** The member takes in a batch of events from its place, as the log retains them, and
its place moves on by as many. What it took in and what is left make up what was to be read, so both
lead to the same ends. -/
theorem Following.tail (h : f.Following events k) (now : Int64)
    (hkept : ∀ k ∈ f.member.cursor?, f.store.RetainsAfter k) :
    ∃ k', (f.step (.tail now)).Following events k' ∧
      ∀ place listed, f.Heading events k place listed →
        (f.step (.tail now)).Heading events k' place listed := by
  have hretains := hkept k h.cursor
  have hopen := h.told.settled.isOpen
  have hreplica := Member.replica_followOnce h.cursor h.told.history hopen hretains now
  have hcursor := Member.cursor?_followOnce h.cursor h.told.history hopen hretains now
  -- what is read and what is left make up what was to be read
  have hsplit : (events.drop k).take Member.batchSize ++
      events.drop (k + ((events.drop k).take Member.batchSize).length) = events.drop k := by
    rw [← List.drop_drop]
    exact List.prefix_iff_eq_append.1 (List.take_prefix _ _)
  refine ⟨k + ((events.drop k).take Member.batchSize).length, ⟨h.told, hcursor, ?_, ?_, h.pending⟩,
    fun place listed hheading => ⟨fun uuid => ?_, fun id => ?_⟩⟩
  · have hle := h.cursor_le
    rw [List.length_take, List.length_drop]
    omega
  · show (f.member.followOnce now f.store).replica.Coherent
    rw [hreplica]
    exact h.coherent.replay _ _
  · show List.foldl _ ((f.member.followOnce now f.store).replica.locations.get? uuid) _ = _
    rw [hreplica, h.coherent.get?_locations_replay, map_snd_numbered, ← List.foldl_append, hsplit,
      hheading.place]
  · show List.foldl _ ((f.member.followOnce now f.store).replica.servers.contains id) _ = _
    rw [hreplica, Replica.contains_servers_replay, map_snd_numbered, ← List.foldl_append, hsplit,
      hheading.listed]

/-- A full read is fetched as it is. -/
theorem Following.step_fetch (h : f.Following events k) (now : Int64) :
    f.step (.fetch now) = { f with pending := some (f.store.view now) } := by
  simp only [step, h.told.settled.fetch]

/-- To fetch a full read changes nothing of the replica and nothing in the log. -/
theorem Following.fetch (h : f.Following events k) (now : Int64) :
    (f.step (.fetch now)).Following events k := by
  rw [h.step_fetch]
  refine ⟨h.told, h.cursor, h.cursor_le, h.coherent, fun snapshot hsnapshot => ?_⟩
  exact ⟨f.store, now, h.told.settled, (Option.some.inj hsnapshot).symm⟩

/-- A full read of a settled store writes nothing to the log, as there are no orphans. -/
theorem Following.history_fetch (h : f.Following events k) (now : Int64) :
    f.store.history [.fetch now] = [] := by
  rw [Store.history, h.told.settled.entriesOf, Store.announced, h.told.settled.orphans]
  rfl

/-- Nothing is pruned when no server is stale. -/
theorem prune_of_hasStale {c : Replica} {now : Int64} (h : c.hasStale now = false) :
    c.prune now = c := by
  have hnone : c.staleIds now = [] := by
    rw [Replica.staleIds, List.map_eq_nil_iff, List.filter_eq_nil_iff]
    exact List.any_eq_false.1 h
  rw [Replica.prune, hnone, List.foldl_nil]

/-- The full read that was fetched is in the replica after the installation, and the place in the
log is the same as before.

**Proof sketch.** The snapshot that is put in was the view of some settled store, so the replica
reflects that store and heads for where the rest of the events leads from there. Nothing is stale,
so nothing is forgotten. -/
theorem Following.install (h : f.Following events k) {now : Int64}
    (hpermitted : f.Permitted (.install now)) :
    (f.step (.install now)).Following events k ∧ (f.step (.install now)).pending = none ∧
      ∀ (s : Store) (t : Int64), s.Settled → f.pending = some (s.view t) →
        (f.step (.install now)).Heading events k
          (fun uuid => (events.drop k).foldl (Event.placeAfter uuid) (s.location? uuid))
          (fun id => (events.drop k).foldl (Event.listedAfter id) (s.servers.contains id)) := by
  obtain ⟨snapshot, hpending, hfresh⟩ := hpermitted
  obtain ⟨s, t, hs, rfl⟩ := h.pending snapshot hpending
  have hreflects := hs.reflects_refresh t f.member.replica now
  have hstep : f.step (.install now) = { f with
      member := { f.member with replica := f.member.replica.refresh (s.view t) now }
      pending := none } := by
    have hsome : f.pending = some (s.view t) := hpending
    simp only [step, hsome, prune_of_hasStale hfresh]
  rw [hstep]
  refine ⟨⟨h.told, h.cursor, h.cursor_le, hreflects.coherent, nofun⟩, rfl,
    fun s' t' hs' hpending' => ?_⟩
  have hview : s'.view t' = s.view t := Option.some.inj (hpending'.symm.trans hpending)
  have hreflects' := hs'.reflects_refresh t' f.member.replica now
  rw [hview] at hreflects'
  refine ⟨fun uuid => ?_, fun id => ?_⟩
  · rw [← hreflects'.location? hs'.coherent]
  · rw [← hreflects'.listed]

/-- **Every permitted step goes on following.**

**Proof sketch.** By cases on the step, each of which has its own lemma above; only a write adds to
the history. -/
theorem Following.step (h : f.Following events k) {st : Step} (hpermitted : f.Permitted st)
    (hfit : f.store.CountsFit st.operations) :
    ∃ k', (f.step st).Following (events ++ f.store.history st.operations) k' := by
  cases st with
  | write op => exact ⟨k, h.write hpermitted hfit⟩
  | tail now =>
    obtain ⟨k', hk', -⟩ := h.tail now hpermitted
    exact ⟨k', (List.append_nil events).symm ▸ hk'⟩
  | fetch now =>
    refine ⟨k, ?_⟩
    rw [Step.operations, h.history_fetch, List.append_nil]
    exact h.fetch now
  | install now => exact ⟨k, (List.append_nil events).symm ▸ (h.install hpermitted).1⟩

/-- **Every permitted run goes on following.**

**Proof sketch.** By induction on the steps, with `Following.step` for each of them. -/
theorem Following.run (h : f.Following events k) {steps : List Step}
    (hpermitted : f.PermittedRun steps) (hfit : f.store.CountsFit (operations steps)) :
    ∃ k', (f.run steps).Following (events ++ f.store.history (operations steps)) k' := by
  induction steps generalizing f events k with
  | nil => exact ⟨k, (List.append_nil events).symm ▸ h⟩
  | cons st steps ih =>
    rw [operations_cons] at hfit ⊢
    obtain ⟨k', hk'⟩ := h.step hpermitted.1 hfit.of_append
    have hrest := hfit.append
    rw [← store_step] at hrest
    obtain ⟨k'', hk''⟩ := ih hk' hpermitted.2 hrest
    rw [Store.history_append, ← store_step, ← List.append_assoc]
    exact ⟨k'', hk''⟩

/-! ## Between full reads -/

end Following

/-- Whether a step is neither of the two of a full read. -/
def Step.isQuiet : Step → Bool
  | .write _ | .tail _ => true
  | .fetch _ | .install _ => false

/-- No step of the run has a part in a full read. -/
def Quiet (steps : List Step) : Prop := ∀ st ∈ steps, st.isQuiet

/-- A run without full reads stays so with one more step that is none. -/
theorem Quiet.concat {steps : List Step} (h : Quiet steps) {st : Step} (hst : st.isQuiet) :
    Quiet (steps ++ [st]) := by
  intro st' hmem
  rcases List.mem_append.1 hmem with hmem | hmem
  · exact h st' hmem
  · exact List.mem_singleton.1 hmem ▸ hst

section Following

variable {f : Follower} {events : List Event} {k : Nat}

/-- **Between full reads the replica heads for where the events lead.**

**Proof sketch.** By induction on the steps. A write prolongs both the events and where they lead
(`Heading.write`), and reading the log changes neither (`Following.tail`). -/
theorem Following.run_quiet (h : f.Following events k) {steps : List Step} (hquiet : Quiet steps)
    (hpermitted : f.PermittedRun steps) (hfit : f.store.CountsFit (operations steps))
    {place : Uuid → Option String} {listed : String → Bool}
    (hheading : f.Heading events k place listed) :
    ∃ k', (f.run steps).Following (events ++ f.store.history (operations steps)) k' ∧
      (f.run steps).pending = f.pending ∧
      (f.run steps).Heading (events ++ f.store.history (operations steps)) k'
        (fun uuid => (f.store.history (operations steps)).foldl (Event.placeAfter uuid) (place uuid))
        (fun id => (f.store.history (operations steps)).foldl (Event.listedAfter id) (listed id)) := by
  induction steps generalizing f events k place listed with
  | nil =>
    have hnil : events ++ f.store.history (operations []) = events := List.append_nil events
    rw [hnil]
    exact ⟨k, h, rfl, hheading⟩
  | cons st steps ih =>
    have hquiet' : Quiet steps := fun st' hst' => hquiet st' (List.mem_cons_of_mem st hst')
    rw [operations_cons] at hfit ⊢
    have hrest := hfit.append
    rw [← store_step] at hrest
    rw [Store.history_append, ← store_step, ← List.append_assoc]
    simp only [List.foldl_append]
    cases st with
    | write op =>
      exact ih (h.write hpermitted.1 hfit.of_append) hquiet' hpermitted.2 hrest
        (hheading.write h op)
    | tail now =>
      obtain ⟨k', hk', hheading'⟩ := h.tail now hpermitted.1
      have hnil : events ++ f.store.history (Step.tail now).operations = events :=
        List.append_nil events
      rw [hnil]
      exact ih hk' hquiet' hpermitted.2 hrest (hheading' place listed hheading)
    | fetch now => exact absurd (hquiet _ List.mem_cons_self) Bool.false_ne_true
    | install now => exact absurd (hquiet _ List.mem_cons_self) Bool.false_ne_true

/-- A full read that is under way was fetched in some step, and no other full read came since.

**Proof sketch.** By induction on the steps from the end. The last step is the fetch, or the full
read was under way before it; an installation would have ended it. -/
theorem exists_fetch_of_pending {steps : List Step} (hbefore : f.pending = none)
    (hafter : (f.run steps).pending ≠ none) :
    ∃ first now mid, steps = first ++ .fetch now :: mid ∧ Quiet mid := by
  induction steps using List.reverseRecOn with
  | nil => exact absurd hbefore hafter
  | append_singleton steps st ih =>
    rw [run_append] at hafter
    cases st with
    | fetch now => exact ⟨steps, now, [], rfl, nofun⟩
    | install now =>
      refine absurd ?_ hafter
      show ((f.run steps).step (.install now)).pending = none
      cases hpending : (f.run steps).pending with
      | none => simp [step, hpending]
      | some snapshot => simp [step, hpending]
    | write op =>
      obtain ⟨first, now, mid, rfl, hmid⟩ := ih hafter
      exact ⟨first, now, mid ++ [.write op], by simp, hmid.concat rfl⟩
    | tail now' =>
      obtain ⟨first, now, mid, rfl, hmid⟩ := ih hafter
      exact ⟨first, now, mid ++ [.tail now'], by simp, hmid.concat rfl⟩

/-- A run after which no full read is under way had none at all, or it had a last one.

**Proof sketch.** By induction on the steps from the end. If the last one is an installation, it put
in what the last fetch before it had fetched (`exists_fetch_of_pending`). Otherwise what is true of
the steps before it stays true with it at the end. -/
theorem Following.quiet_or_exists_install (h : f.Following events k) {steps : List Step}
    (hpermitted : f.PermittedRun steps) (hfit : f.store.CountsFit (operations steps))
    (hbefore : f.pending = none) (hafter : (f.run steps).pending = none) :
    Quiet steps ∨ ∃ first now mid now' rest,
      steps = first ++ .fetch now :: (mid ++ .install now' :: rest) ∧ Quiet mid ∧ Quiet rest := by
  induction steps using List.reverseRecOn with
  | nil => exact .inl nofun
  | append_singleton steps st ih =>
    obtain ⟨hsteps, hst⟩ := permittedRun_append.1 hpermitted
    rw [operations_append] at hfit
    rw [run_append] at hafter
    have hlater : st.isQuiet → (f.run steps).pending = none → Quiet (steps ++ [st]) ∨
        ∃ first now mid now' rest, steps ++ [st] =
          first ++ .fetch now :: (mid ++ .install now' :: rest) ∧ Quiet mid ∧ Quiet rest := by
      intro hlast hpending
      obtain hsteps' | ⟨first, now, mid, now', rest, rfl, hmid, hrest⟩ :=
        ih hsteps hfit.of_append hpending
      · exact .inl (hsteps'.concat hlast)
      · exact .inr ⟨first, now, mid, now', rest ++ [st], by simp, hmid, hrest.concat hlast⟩
    cases st with
    | write op => exact hlater rfl hafter
    | tail now => exact hlater rfl hafter
    | fetch now =>
      obtain ⟨k', hk'⟩ := h.run hsteps hfit.of_append
      rw [run_cons, run_nil, hk'.step_fetch] at hafter
      exact absurd hafter nofun
    | install now' =>
      obtain ⟨snapshot, hsnapshot, -⟩ := hst.1
      have hpending : (f.run steps).pending ≠ none := fun hnone => by
        rw [hnone] at hsnapshot
        exact absurd hsnapshot nofun
      obtain ⟨first, now, mid, rfl, hmid⟩ := exists_fetch_of_pending hbefore hpending
      exact .inr ⟨first, now, mid, now', [], by simp, hmid, nofun⟩

end Following

/-! ## What a full read loses -/

/-- To pass over the first `skipped` of some events makes no difference to where they lead from what
a store holds. -/
def Harmless (s : Store) (events : List Event) (skipped : Nat) : Prop :=
  (∀ uuid, (events.drop skipped).foldl (Event.placeAfter uuid) (s.location? uuid) =
    events.foldl (Event.placeAfter uuid) (s.location? uuid)) ∧
  ∀ id, (events.drop skipped).foldl (Event.listedAfter id) (s.servers.contains id) =
    events.foldl (Event.listedAfter id) (s.servers.contains id)

/-- The last full read of a run **loses nothing**: the events that the member had read, when it put
the full read in, beyond those that the full read tells of make no difference to where all the
events since lead. A member that had not read beyond the full read passes over none. -/
def LosesNothing (f : Follower) (steps : List Step) : Prop :=
  ∀ first now mid now' rest, steps = first ++ .fetch now :: (mid ++ .install now' :: rest) →
    Quiet mid → Quiet rest →
      Harmless (f.run first).store ((f.run first).store.history (operations (mid ++ rest)))
        ((f.run (first ++ .fetch now :: mid)).member.cursor?.getD 0 -
          (f.run first).store.lastEntry)

section Following

variable {f : Follower} {events : List Event} {k : Nat}

/-- A member that read the whole log agrees with the store exactly when the replica headed there.

**Proof sketch.** Nothing is left to read, so where the replica heads for is where it is. -/
theorem Following.placesAgree_iff (h : f.Following events events.length)
    {place : Uuid → Option String} {listed : String → Bool}
    (hheading : f.Heading events events.length place listed) (shown now : Int64) :
    (f.member.replica.snapshot shown).PlacesAgree (f.store.view now) ↔
      (∀ uuid, place uuid = f.store.location? uuid) ∧
        ∀ id, listed id = f.store.servers.contains id := by
  rw [h.coherent.placesAgree_iff h.told.settled]
  have hplace : ∀ uuid, f.member.replica.locations.get? uuid = place uuid := fun uuid => by
    rw [← hheading.place, List.drop_length, List.foldl_nil]
  have hlisted : ∀ id, f.member.replica.servers.contains id = listed id := fun id => by
    rw [← hheading.listed, List.drop_length, List.foldl_nil]
  simp only [hplace, hlisted]

/-- The place of a member in the log that it read to its end. -/
theorem Following.eq_length {k' : Nat} (h : f.Following events k')
    (hcursor : f.member.cursor? = f.store.latest.toOption) : k' = events.length := by
  rw [h.cursor, h.told.history.latest h.told.settled.isOpen] at hcursor
  exact Option.some.inj hcursor

/-- What is left of a history and of what came after it. -/
theorem drop_append_append {events mid rest : List Event} {k : Nat}
    (hk : k ≤ (events ++ mid).length) : (events ++ mid).drop k ++ rest =
      events.drop k ++ (mid ++ rest).drop (k - events.length) := by
  rw [List.length_append] at hk
  rw [List.drop_append, List.drop_append_of_le_length (by omega), List.append_assoc]

/-- **When a full read loses nothing.** After a full read was fetched, some steps pass before it is
put in, and some steps after.

**Proof sketch.** When it is put in, the replica shows the store as it was at the fetch, and what
follows is what the member had not read then. The events at the end of the history before the fetch
do no harm when they are replayed; the events since the fetch that the member had read are passed
over. -/
theorem Following.placesAgree_install_iff (h : f.Following events k) {t : Int64}
    (hpending : f.pending = some (f.store.view t)) {mid rest : List Step} {now' : Int64}
    (hmid : Quiet mid) (hrest : Quiet rest)
    (hpermitted : f.PermittedRun (mid ++ .install now' :: rest))
    (hfit : f.store.CountsFit (operations (mid ++ .install now' :: rest)))
    (hcursor : (f.run (mid ++ .install now' :: rest)).member.cursor? =
      (f.run (mid ++ .install now' :: rest)).store.latest.toOption) (shown now : Int64) :
    ((f.run (mid ++ .install now' :: rest)).member.replica.snapshot shown).PlacesAgree
        ((f.run (mid ++ .install now' :: rest)).store.view now) ↔
      Harmless f.store (f.store.history (operations (mid ++ rest)))
        ((f.run mid).member.cursor?.getD 0 - f.store.lastEntry) := by
  have hops : operations (mid ++ .install now' :: rest) = operations mid ++ operations rest := by
    rw [operations_append, operations_cons]
    rfl
  have hstore : (f.run (mid ++ .install now' :: rest)).store =
      f.store.run (operations mid ++ operations rest) := by
    rw [store_run, hops]
  have horderly := hpermitted.orderlyRun
  rw [hops] at hfit horderly
  have hplace := h.told.settled.location?_run horderly hfit
  have hlisted := h.told.settled.contains_servers_run horderly hfit
  obtain ⟨hmid', hrest'⟩ := permittedRun_append.1 hpermitted
  -- until the installation, what the replica heads for does not matter
  obtain ⟨k₂, hk₂, hpending₂, -⟩ := h.run_quiet hmid hmid' hfit.of_append (f.heading_self events k)
  obtain ⟨hk₃, -, hheading₃⟩ := hk₂.install hrest'.1
  have hstore₃ : ((f.run mid).step (.install now')).store = f.store.run (operations mid) := by
    rw [store_step, store_run]
    rfl
  have hfit₃ := hfit.append
  rw [← hstore₃] at hfit₃
  obtain ⟨k₄, hk₄, -, hheading₄⟩ := hk₃.run_quiet hrest hrest'.2 hfit₃
    (hheading₃ f.store t h.told.settled (hpending₂.trans hpending))
  rw [run_append, run_cons] at hcursor hstore ⊢
  obtain rfl := hk₄.eq_length hcursor
  rw [hk₄.placesAgree_iff hheading₄, hstore]
  have hskipped : (f.run mid).member.cursor?.getD 0 - f.store.lastEntry = k₂ - events.length := by
    rw [hk₂.cursor, h.told.history.lastEntry_eq]
    rfl
  have hops' : operations (mid ++ rest) = operations mid ++ operations rest := operations_append _ _
  simp only [hplace, hlisted, hstore₃, Harmless, hskipped, hops', Store.history_append,
    ← List.foldl_append (l := (events ++ f.store.history (operations mid)).drop k₂),
    drop_append_append hk₂.cursor_le]
  simp only [List.foldl_append (l := events.drop k₂), h.told.foldl_placeAfter_drop,
    h.told.foldl_listedAfter_drop]

/-- The same, with the steps before the fetch.

**Proof sketch.** The steps before the fetch keep the member following (`Following.run`), and a
fetch changes nothing of the store, so the statement for the steps behind the fetch applies. -/
theorem Following.placesAgree_refresh_iff (h : f.Following events k)
    {first mid rest : List Step} {t now' : Int64} (hmid : Quiet mid) (hrest : Quiet rest)
    (hpermitted : f.PermittedRun (first ++ .fetch t :: (mid ++ .install now' :: rest)))
    (hfit : f.store.CountsFit (operations (first ++ .fetch t :: (mid ++ .install now' :: rest))))
    (hcursor : (f.run (first ++ .fetch t :: (mid ++ .install now' :: rest))).member.cursor? =
      (f.run (first ++ .fetch t :: (mid ++ .install now' :: rest))).store.latest.toOption)
    (shown now : Int64) :
    ((f.run (first ++ .fetch t :: (mid ++ .install now' :: rest))).member.replica.snapshot
        shown).PlacesAgree
        ((f.run (first ++ .fetch t :: (mid ++ .install now' :: rest))).store.view now) ↔
      Harmless (f.run first).store ((f.run first).store.history (operations (mid ++ rest)))
        ((f.run (first ++ .fetch t :: mid)).member.cursor?.getD 0 -
          (f.run first).store.lastEntry) := by
  obtain ⟨hfirst, hlater⟩ := permittedRun_append.1 hpermitted
  rw [operations_append] at hfit
  obtain ⟨k₁, hk₁⟩ := h.run hfirst hfit.of_append
  have hfit₁ := hfit.append
  rw [← store_run, operations_cons] at hfit₁
  have hfit₂ := hfit₁.append
  have hstore : ((f.run first).step (.fetch t)).store = (f.run first).store := by
    rw [hk₁.step_fetch]
  rw [← store_step] at hfit₂
  have hpending : ((f.run first).step (.fetch t)).pending =
      some (((f.run first).step (.fetch t)).store.view t) := by
    rw [hk₁.step_fetch]
  rw [run_append, run_cons] at hcursor
  have hiff := (hk₁.fetch t).placesAgree_install_iff hpending hmid hrest hlater.2 hfit₂ hcursor
    shown now
  rw [hstore] at hiff
  rw [run_append, run_append, run_cons, run_cons]
  exact hiff

end Following

/-! ## From the start of a member on -/

/-- A member that took its place in the log of the store `before` and then read all of `store`, as
at the end of a start. -/
def begun (m : Member) (before store : Store) (now : Int64) : Follower :=
  let cursor := before.latest.toOption.getD 0
  let (replica, store) := match store.fetch now with
    | .ok (snapshot, store) => (m.replica.refresh snapshot now, store)
    | .error _ => (m.replica, store)
  { member := { m with replica, phase := .running { cursor := some cursor } }, store }

/-- The last step of a start, when no other server interferes. -/
theorem complete_eq_begun {m : Member} (hsyncs : m.settings.syncs) (r : HostReport) (now : Int64)
    (store : Store) : m.complete r now store =
      ((begun m store store now).member.tell (.serverOnline m.serverId r.name),
        (begun m store store now).store) := by
  unfold Member.complete begun
  cases store.fetch now with
  | ok result => exact if_pos hsyncs
  | error e => exact if_pos hsyncs

/-- A member that started follows, and heads for where the store is.

**Proof sketch.** The member took its place in the log when the store was told of by the events so
far, and the full read came after the operations in between. So the replica reflects the store then,
and to read of these operations once more leads nowhere else. -/
theorem following_begun {s₀ : Store} {events : List Event} (h₀ : s₀.ToldBy events) (m : Member)
    {between : List Store.Operation} (horderly : s₀.OrderlyRun between)
    (hfit : s₀.CountsFit between) (now : Int64) :
    (begun m s₀ (s₀.run between) now).store = s₀.run between ∧
    (begun m s₀ (s₀.run between) now).Following (events ++ s₀.history between) events.length ∧
    (begun m s₀ (s₀.run between) now).Heading (events ++ s₀.history between) events.length
      (fun uuid => (s₀.run between).location? uuid) fun id => (s₀.run between).servers.contains id := by
  have h₁ := h₀.run horderly hfit
  have hreflects := h₁.settled.reflects_refresh now m.replica now
  have hbegun : begun m s₀ (s₀.run between) now = {
      member := { m with
        replica := m.replica.refresh ((s₀.run between).view now) now
        phase := .running { cursor := some events.length } }
      store := s₀.run between } := by
    simp only [begun, h₁.settled.fetch, h₀.history.latest h₀.settled.isOpen]
    rfl
  rw [hbegun]
  refine ⟨rfl, ⟨h₁, rfl, ?_, hreflects.coherent, nofun⟩, fun uuid => ?_, fun id => ?_⟩
  · rw [List.length_append]
    exact Nat.le_add_right _ _
  · rw [hreflects.location? h₁.settled.coherent, h₁.foldl_placeAfter_drop]
  · rw [hreflects.listed, h₁.foldl_listedAfter_drop]

/-- **A member that read the whole log agrees with a full read of the store exactly when its last
full read lost nothing.** That is so in every state that a member reaches from its start on, in
whatever order the servers write, the member reads the log, and full reads are fetched and put in.

**Proof sketch.** Writing and reading the log keep what the replica heads for where the store is
(`Following.run_quiet`), and so does the start, where the place in the log is taken before the full
read. When there were later full reads, only the last one matters
(`Following.quiet_or_exists_install`), and after its installation the replica heads for where the
events lead that the member had not read (`Following.placesAgree_install_iff`). -/
theorem placesAgree_run_iff (capacity : Nat) (before between : List Store.Operation) (m : Member)
    (start : Int64) (steps : List Step) (shown now : Int64)
    (hbefore : (Store.withCapacity capacity).OrderlyRun (before ++ between))
    (hfit : (Store.withCapacity capacity).CountsFit (before ++ (between ++ operations steps))) :
    let s₀ := (Store.withCapacity capacity).run before
    let f := begun m s₀ (s₀.run between) start
    f.PermittedRun steps → (f.run steps).pending = none →
    (f.run steps).member.cursor? = (f.run steps).store.latest.toOption →
    ∃ fetched, (f.run steps).store.fetch now = .ok (fetched, (f.run steps).store) ∧
      (((f.run steps).member.replica.snapshot shown).PlacesAgree fetched ↔ f.LosesNothing steps) := by
  intro s₀ f hpermitted hpending hcursor
  obtain ⟨horderly₀, horderly₁⟩ := Store.orderlyRun_append.1 hbefore
  have h₀ := (Store.toldBy_withCapacity capacity).run horderly₀ hfit.of_append
  have hfit₁ : s₀.CountsFit (between ++ operations steps) := hfit.append
  obtain ⟨hstore, h, hheading⟩ := following_begun h₀ m horderly₁ hfit₁.of_append start
  have hfit₂ : f.store.CountsFit (operations steps) := hstore ▸ hfit₁.append
  obtain ⟨k, hk⟩ := h.run hpermitted hfit₂
  refine ⟨_, hk.told.settled.fetch now, ?_, ?_⟩
  · rintro hagree first fetched mid installed rest rfl hmid hrest
    exact (h.placesAgree_refresh_iff hmid hrest hpermitted hfit₂ hcursor shown now).1 hagree
  · intro hlossless
    obtain hquiet | ⟨first, fetched, mid, installed, rest, rfl, hmid, hrest⟩ :=
      h.quiet_or_exists_install hpermitted hfit₂ rfl hpending
    · -- without full reads the replica still heads for where the store is
      obtain ⟨k', hk', -, hheading'⟩ := h.run_quiet hquiet hpermitted hfit₂ hheading
      obtain rfl := hk'.eq_length hcursor
      have horderly := hpermitted.orderlyRun
      refine (hk'.placesAgree_iff hheading' shown now).2 ⟨fun uuid => ?_, fun id => ?_⟩
      · rw [store_run, h.told.settled.location?_run horderly hfit₂, hstore]
      · rw [store_run, h.told.settled.contains_servers_run horderly hfit₂, hstore]
    · exact (h.placesAgree_refresh_iff hmid hrest hpermitted hfit₂ hcursor shown now).2
        (hlossless first fetched mid installed rest rfl hmid hrest)

/-- A member reads the join of a player while a full read is under way that was fetched before; when
it is put in, the player is gone from the replica, and the log will not tell of the join again. -/
theorem refresh_forgets_join :
    ¬∀ (capacity : Nat) (before between : List Store.Operation) (m : Member) (start : Int64)
      (steps : List Step) (shown now : Int64),
      (Store.withCapacity capacity).OrderlyRun (before ++ between) →
      (Store.withCapacity capacity).CountsFit (before ++ (between ++ operations steps)) →
      let s₀ := (Store.withCapacity capacity).run before
      let f := begun m s₀ (s₀.run between) start
      f.PermittedRun steps → (f.run steps).pending = none →
      (f.run steps).member.cursor? = (f.run steps).store.latest.toOption →
      ∃ fetched, (f.run steps).store.fetch now = .ok (fetched, (f.run steps).store) ∧
        ((f.run steps).member.replica.snapshot shown).PlacesAgree fetched := by
  intro hclaim
  have hrun := hclaim 9 [.register { serverId := "a", serverName := "A", lastHeartbeat := 0 }] []
    { settings := {}, replica := {} } 0
    [.fetch 0, .write (.join ⟨⟨1⟩, "name", "a", "A", 0⟩), .tail 0, .install 0] 0 0 (by decide)
    (Store.countsFit_of_length_lt 9 (by decide)) (by decide) (by decide) (by decide)
  obtain ⟨fetched, hfetch, hagree⟩ := hrun
  obtain rfl : _ = fetched := congrArg Prod.fst (Except.ok.inj hfetch)
  exact absurd hagree.headcounts (by decide)

/-- The same steps in another order: the full read is put in before the member reads of the join. -/
theorem placesAgree_run_iff_in_time :
    let server : ServerRecord := { serverId := "a", serverName := "A", lastHeartbeat := 0 }
    let s₀ := (Store.withCapacity 9).run [.register server]
    let f := begun { settings := {}, replica := {} } s₀ (s₀.run []) 0
    let steps : List Step :=
      [.fetch 0, .write (.join ⟨⟨1⟩, "name", "a", "A", 0⟩), .install 0, .tail 0]
    ∃ fetched, (f.run steps).store.fetch 0 = .ok (fetched, (f.run steps).store) ∧
      (((f.run steps).member.replica.snapshot 0).PlacesAgree fetched ↔ f.LosesNothing steps) := by
  intro server s₀ f steps
  exact placesAgree_run_iff 9 [.register server] [] { settings := {}, replica := {} } 0 steps 0 0
    (by decide) (Store.countsFit_of_length_lt 9 (by decide)) (by decide) (by decide) (by decide)

end Follower

end FleetStatus
