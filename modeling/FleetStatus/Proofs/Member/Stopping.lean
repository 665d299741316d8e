import FleetStatus.Proofs.Member.Life
import FleetStatus.Proofs.Presence.Located

set_option relaxedAutoImplicit false
set_option autoImplicit false

/-!
# Stops in the midst of a start

A start takes three steps on a store that is at hand: it is begun, the store takes the server's
record, and the member runs. A stop may come before, between and after them. A stop of a member
that does not run returns at once and changes nothing, so one that comes before the last step of
the start is lost: the start goes on, and in the end the member runs and its server is registered.
Only a stop after the last step takes the server out of the fleet again.

## Main definitions

* `FleetStatus.Life.Gone` — the member does not run and nothing of its server is in the store.
* `FleetStatus.Life.Present` — the member runs and its server is registered in the store.

## Main results

* `FleetStatus.Life.gone_iff_stopped_after` — a start with stops leaves nothing behind exactly when
  a stop comes after its end.
-/

namespace FleetStatus

/-! ## The end of a start -/

namespace Member

variable (m : Member) (r : HostReport) (now : Int64)

/-- A start that is completed leaves the settings alone. -/
theorem settings_complete (s : Store) : (m.complete r now s).1.settings = m.settings := by
  unfold complete
  split <;> rfl

/-- A start that is completed leaves nothing in the queue. -/
theorem queue_complete (s : Store) : (m.complete r now s).1.queue = [] := by
  unfold complete
  split <;> rfl

variable {m}

/-- The last step of a start asks the store for a full read, or for nothing. -/
theorem snd_complete (s : Store) :
    (m.complete r now s).2 = s ∨ (m.complete r now s).2 = s.perform (.fetch now) := by
  unfold complete
  split
  · right
    simp only [Store.perform]
    cases s.fetch now <;> rfl
  · exact .inl rfl

/-- The last step of a start leaves an open store open, with the same records.

**Proof sketch.** The store is left as it is or read once, and a full read heals orphans only: it
touches no record and no roster. -/
theorem snd_complete_of_open {s : Store} (hopen : s.closed = false) (hlocated : s.Located) :
    (m.complete r now s).2.closed = false ∧ (m.complete r now s).2.Located ∧
      (m.complete r now s).2.servers = s.servers := by
  obtain heq | heq := snd_complete (m := m) r now s
  · rw [heq]
    exact ⟨hopen, hlocated, rfl⟩
  · rw [heq, Store.perform_of_open hopen]
    exact ⟨s.closed_healed.trans hopen, hlocated.healed, s.servers_healed⟩

/-- The stop of a member without waiting changes, on an open store. -/
theorem stop_of_queue_nil (hrunning : m.isRunning) (hqueue : m.queue = []) {s : Store}
    (hopen : s.closed = false) :
    (m.stop s).1.isRunning = false ∧ (m.stop s).2 = (s.unregistered m.serverId).close := by
  rw [stop, if_pos hrunning, drain_of_isRunning hrunning, hqueue]
  refine ⟨rfl, ?_⟩
  simp [leaveFleet, Store.unregister, Store.whenOpen, hopen, serverId_withQueue, Except.toOption]

end Member

namespace Life

open Store (Operation)

/-- Neither does the member run nor is anything of its server in the store. -/
structure Gone (l : Life) (i : Nat) (id : String) : Prop where
  notRunning : l.member.isRunning = false
  absent : (l.stores i).Absent id

/-- The member runs and its server is registered in the store. -/
structure Present (l : Life) (i : Nat) (id : String) : Prop where
  running : l.member.isRunning
  registered : (l.stores i).servers.contains id

variable {l : Life} {i : Nat} {id : String}

/-- A member that runs is not gone. -/
theorem Present.not_gone (h : l.Present i id) : ¬l.Gone i id := fun hgone => by
  have hrunning := h.running
  rw [hgone.notRunning] at hrunning
  cases hrunning

/-! ## Stops of a member that does not run -/

/-- **Stops of a member that does not run are lost.**

**Proof sketch.** By induction on the stops; a call asks nothing of a member that does not run. -/
theorem run_stops_of_not_isRunning (h : l.member.isRunning = false) {stops : List Step}
    (hstops : ∀ x ∈ stops, x = .call .stop) : l.run stops = l := by
  induction stops with
  | nil => rfl
  | cons x stops ih =>
    rw [run_cons, hstops x List.mem_cons_self, step_call_of_not_isRunning h]
    exact ih fun x' hx' => hstops x' (List.mem_cons_of_mem x hx')

/-- Stops change nothing of the start under way and its answers. -/
theorem start_and_answers_run_stops {stops : List Step} (hstops : ∀ x ∈ stops, x = .call .stop) :
    (l.run stops).start = l.start ∧ (l.run stops).answers = l.answers := by
  induction stops generalizing l with
  | nil => exact ⟨rfl, rfl⟩
  | cons x stops ih =>
    have hrest := ih (l := l.step (.call .stop))
      fun x' hx' => hstops x' (List.mem_cons_of_mem x hx')
    have hstep : (l.step (.call .stop)).start = l.start ∧
        (l.step (.call .stop)).answers = l.answers := by
      simp only [step]
      split <;> exact ⟨rfl, rfl⟩
    rw [run_cons, hstops x List.mem_cons_self]
    exact ⟨hrest.1.trans hstep.1, hrest.2.trans hstep.2⟩

/-- Two steps of a member that does not run, with stops before, between and after them.

**Proof sketch.** The stops before, between and after the two steps are taken by a member that does
not run, so they are lost. -/
theorem run_of_filter_stops {steps : List Step} {x y : Step}
    (hsteps : steps.filter (· ≠ .call .stop) = [x, y]) (h : l.member.isRunning = false)
    (hx : (l.step x).member.isRunning = false)
    (hy : ((l.step x).step y).member.isRunning = false) : l.run steps = (l.step x).step y := by
  have hstops {stops : List Step} (hnone : ∀ z ∈ stops, ¬(decide (z ≠ Step.call .stop)) = true) :
      ∀ z ∈ stops, z = .call .stop := fun z hz => by simpa using hnone z hz
  obtain ⟨before, rest, rfl, hbefore, -, hrest⟩ := List.filter_eq_cons_iff.1 hsteps
  obtain ⟨between, after, rfl, hbetween, -, hafter⟩ := List.filter_eq_cons_iff.1 hrest
  rw [run_append, run_stops_of_not_isRunning h (hstops hbefore), run_cons, run_append,
    run_stops_of_not_isRunning hx (hstops hbetween), run_cons,
    run_stops_of_not_isRunning hy (hstops (List.filter_eq_nil_iff.1 hafter))]

/-! ## Stops after the start -/

/-- What the last step of a start leaves. -/
structure Completed (l : Life) (i : Nat) (id : String) : Prop where
  present : l.Present i id
  serverId_eq : l.member.serverId = id
  home : l.home = some i
  queue : l.member.queue = []
  isOpen : (l.stores i).closed = false
  located : (l.stores i).Located

/-- **The first stop after a start takes the server out of the fleet**, and the others change
nothing.

**Proof sketch.** The first stop takes the member's record out and closes the store, as nothing
waits in the queue. Then the member does not run, and the other stops are lost. -/
theorem Completed.run_stops (h : l.Completed i id) {stops : List Step}
    (hstops : ∀ x ∈ stops, x = .call .stop) (hne : stops ≠ []) : (l.run stops).Gone i id := by
  obtain ⟨x, rest, rfl⟩ := List.exists_cons_of_ne_nil hne
  obtain ⟨hstopped, hstore⟩ := Member.stop_of_queue_nil h.present.running h.queue h.isOpen
  have hstep : l.step (.call .stop) =
      { l.withStore i (l.member.stop (l.stores i)).2 with
        member := (l.member.stop (l.stores i)).1 } := by
    simp only [step, h.home, Call.perform]
  have hgone : (l.step (.call .stop)).Gone i id := by
    rw [hstep, hstore, h.serverId_eq]
    refine ⟨hstopped, ?_⟩
    have habsent : (((l.stores i).unregistered id).effect .close).Absent id :=
      (h.located.absent_unregistered id).effect trivial
    simpa [withStore, Store.effect] using habsent
  rw [run_cons, hstops x List.mem_cons_self, run_stops_of_not_isRunning hgone.notRunning
    fun x' hx' => hstops x' (List.mem_cons_of_mem x hx')]
  exact hgone

/-- The last step of a start on an open store completes it.

**Proof sketch.** The last step reads the store at most, so the store stays open and the record
stays in it, and the member runs with an empty queue. -/
theorem completed_complete {r : HostReport} (hstart : l.start = some (.published i r))
    (hopen : (l.stores i).closed = false) (hlocated : (l.stores i).Located)
    (hregistered : (l.stores i).servers.contains l.member.serverId) (now : Int64) :
    (l.step (.complete now)).Completed i l.member.serverId := by
  obtain ⟨hopen', hlocated', hservers⟩ :=
    Member.snd_complete_of_open (m := l.member) r now hopen hlocated
  have hstore : (l.step (.complete now)).stores i = (l.member.complete r now (l.stores i)).2 := by
    simp [step_complete hstart, withStore]
  have hmember : (l.step (.complete now)).member = (l.member.complete r now (l.stores i)).1 := by
    rw [step_complete hstart]
  exact {
    present := {
      running := hmember ▸ isRunning_complete l.member r now (l.stores i)
      registered := by rw [hstore, hservers]; exact hregistered }
    serverId_eq := by
      rw [hmember, Member.serverId, Member.settings_complete]
      rfl
    home := by rw [step_complete hstart]
    queue := by rw [hmember, Member.queue_complete]
    isOpen := by rw [hstore]; exact hopen'
    located := by rw [hstore]; exact hlocated' }

section Interrupted

variable (settings : NetworkSettings) (stores : Nat → Store) (i : Nat) (r : HostReport)
  (now : Int64)

/-- The life of a starting member whose record was published on a store. -/
def published : Life :=
  { member := { Member.new settings with phase := .starting }
    stores := Function.update stores i ((stores i).registered (r.record settings.serverId now))
    start := some (.published i r) }

variable {settings stores i r now}

/-- **Stops before the last step of a start are lost**: whatever there are, the other two steps
leave the member starting and its record published.

**Proof sketch.** The two steps take the member to starting and publish its record, and between
stops they are taken as they are (`run_of_filter_stops`). -/
theorem run_eq_published (henabled : settings.enabled) (hopen : (stores i).closed = false)
    {before : List Step}
    (hbefore : before.filter (· ≠ .call .stop) = [.startWith i, .publish r now]) :
    (begun settings stores).run before = published settings stores i r now := by
  have hbegin : (begun settings stores).step (.startWith i) =
      { begun settings stores with
        member := { Member.new settings with phase := .starting }
        start := some (.reached i) } :=
    begin_of_ok (by simp [begun, Member.new, Member.begin, henabled]) _
  have hregister : (stores i).register (r.record settings.serverId now) =
      .ok ((stores i).registered (r.record settings.serverId now)) := by
    simp [Store.register, Store.whenOpen, hopen]
  have hpublish : ((begun settings stores).step (.startWith i)).step (.publish r now) =
      published settings stores i r now := by
    rw [hbegin]
    exact step_publish_of_ok rfl hregister
  rw [run_of_filter_stops hbefore rfl (by rw [hbegin]; rfl) (by rw [hpublish]; rfl), hpublish]

variable (settings r now) in
/-- The last step of the start completes it.

**Proof sketch.** The store has the record that was published, is open, and has its players where
they were. -/
theorem completed_published (hopen : (stores i).closed = false) (hlocated : (stores i).Located)
    (now' : Int64) :
    ((published settings stores i r now).step (.complete now')).Completed i settings.serverId := by
  have hstore : (published settings stores i r now).stores i =
      (stores i).registered (r.record settings.serverId now) := by
    simp [published]
  refine completed_complete rfl ?_ ?_ ?_ now'
  · rw [hstore]
    exact hopen
  · rw [hstore]
    exact hlocated.effect (.register (r.record settings.serverId now))
  · rw [hstore]
    show ((stores i).servers.insert settings.serverId _).contains settings.serverId = true
    simp [Index.contains, Index.get?_insert]

end Interrupted

/-- **A start leaves nothing behind exactly when a stop comes after its last step.** Let the last
step of a start on an open store come after the other two and stops in any order, and let stops
follow it. Then the start has succeeded; the stops that came before its last step are lost, so
without one that follows it the member runs and its server is registered.

**Proof sketch.** Before its last step the member does not run, so the stops among the other two
change nothing. The last step brings it to run, and the first stop after that unregisters its server
and closes the store. -/
theorem gone_iff_stopped_after (settings : NetworkSettings) (henabled : settings.enabled)
    (stores : Nat → Store) (i capacity : Nat) (history : List Operation)
    (hstore : stores i = (Store.withCapacity capacity).run history)
    (hopen : (stores i).closed = false) (r : HostReport) (now now' : Int64)
    (before after : List Step)
    (hbefore : before.filter (· ≠ .call .stop) = [.startWith i, .publish r now])
    (hafter : ∀ x ∈ after, x = .call .stop) :
    let l := (begun settings stores).run (before ++ .complete now' :: after)
    l.start = none ∧ l.answers = [.ok ()] ∧ (l.Gone i settings.serverId ↔ after ≠ []) ∧
      (l.Present i settings.serverId ↔ after = []) := by
  intro l
  have hl : l = ((published settings stores i r now).step (.complete now')).run after := by
    rw [← run_eq_published henabled hopen hbefore, ← run_cons, ← run_append]
  have hcompleted := completed_published settings r now hopen
    (hstore ▸ Store.located_run capacity history) now'
  obtain ⟨hstart, hanswers⟩ := start_and_answers_run_stops
    (l := (published settings stores i r now).step (.complete now')) hafter
  rw [← hl, step_complete rfl] at hstart hanswers
  refine ⟨hstart, hanswers, ?_⟩
  cases after with
  | nil =>
    have hpresent : l.Present i settings.serverId := hl ▸ hcompleted.present
    exact ⟨by simp [hpresent.not_gone], by simp [hpresent]⟩
  | cons x rest =>
    have hgone : l.Gone i settings.serverId :=
      hl ▸ hcompleted.run_stops hafter (List.cons_ne_nil x rest)
    have habsent : ¬l.Present i settings.serverId := fun hpresent => hpresent.not_gone hgone
    exact ⟨by simp [hgone], by simp [habsent]⟩

/-- A stop comes right after a start was begun and another after the server was registered, and the
member runs all the same. -/
theorem gone_iff_stopped_after_lost :
    let settings : NetworkSettings := { enabled := true, serverId := "a" }
    let before : List Step := [.startWith 0, .call .stop, .publish default 0, .call .stop]
    let l := (begun settings fun _ => Store.withCapacity 9).run (before ++ [.complete 0])
    before.filter (· ≠ .call .stop) = [.startWith 0, .publish default 0] ∧
      l.start = none ∧ l.answers = [.ok ()] ∧ l.Present 0 "a" := by
  intro settings before
  have hbefore : before.filter (· ≠ .call .stop) = [.startWith 0, .publish default 0] := by decide
  obtain ⟨hstart, hanswers, -, hpresent⟩ := gone_iff_stopped_after settings rfl
    (fun _ => Store.withCapacity 9) 0 9 [] rfl rfl default 0 0 before [] hbefore nofun
  exact ⟨hbefore, hstart, hanswers, hpresent.2 rfl⟩

/-- A stop that was called after a start had begun and that has returned does not keep the member
from running. -/
theorem stop_lost :
    ¬∀ (settings : NetworkSettings) (stores : Nat → Store) (i : Nat) (r : HostReport)
      (now now' : Int64) (before after : List Step), settings.enabled →
      (stores i).closed = false → before.filter (· ≠ .call .stop) = [.startWith i, .publish r now] →
      (∀ x ∈ after, x = .call .stop) →
      [.startWith i, .call .stop].Sublist (before ++ .complete now' :: after) →
      ((begun settings stores).run (before ++ .complete now' :: after)).Gone i
        settings.serverId := by
  intro hclaim
  have hgone := hclaim { enabled := true, serverId := "a" } (fun _ => Store.withCapacity 9) 0
    default 0 0 [.startWith 0, .call .stop, .publish default 0] [] rfl rfl
    (by decide) nofun (by decide)
  exact absurd hgone.notRunning (by decide)

end Life

end FleetStatus
