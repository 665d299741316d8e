import FleetStatus.Member
import FleetStatus.Proofs.Presence.Replay

set_option relaxedAutoImplicit false
set_option autoImplicit false

/-!
# The tail of the log

A running member that follows the log takes in the next entries in their order: they are replayed on
its replica, and its place in the log moves behind the last of them. Telling subscribers has no part
in either.

## Main definitions

* `FleetStatus.Member.cursor?` — the place that a member reached.

## Main results

* `FleetStatus.Member.replica_followOnce`, `FleetStatus.Member.cursor?_followOnce` — one reading of
  the log, in terms of the history of the store.
-/

namespace FleetStatus.Member

/-- The log entry up to which the replica was brought, when the member follows the log. -/
def cursor? (m : Member) : Option Nat := m.session?.bind (·.cursor)

/-! ## One entry -/

/-- Telling subscribers leaves everything else alone. -/
theorem foldl_tell_frame {β : Type} (f : Member → β)
    (hf : ∀ (m : Member) (inboxes : List Inbox), f { m with inboxes } = f m)
    (m : Member) (events : List Event) : f (events.foldl tell m) = f m := by
  induction events generalizing m with
  | nil => rfl
  | cons e events ih => exact (ih (m.tell e)).trans (hf m _)

/-- The session has no part in the replica. -/
theorem replica_mapSession (m : Member) (f : Session → Session) :
    (m.mapSession f).replica = m.replica := by
  unfold mapSession
  split <;> rfl

/-- To take in an entry applies its event to the replica. -/
theorem replica_observe (m : Member) (now : Int64) (entry : Nat × Event) :
    (m.observe now entry).replica = m.replica.apply now entry.2 := by
  rw [observe, replica_mapSession, foldl_tell_frame (·.replica) fun _ _ => rfl]

/-- To take in an entry moves the place behind it. -/
theorem cursor?_observe {m : Member} {k : Nat} (h : m.cursor? = some k) (now : Int64)
    (entry : Nat × Event) : (m.observe now entry).cursor? = some entry.1 := by
  have hphase := foldl_tell_frame (·.phase) (fun _ _ => rfl)
    { m with replica := m.replica.apply now entry.2 } entry.2.notifications
  unfold cursor? session? at h
  unfold cursor? session? observe mapSession
  simp only [hphase]
  cases hm : m.phase with
  | running session => rfl
  | _ => simp [hm] at h

/-! ## One reading -/

/-- To take in several entries replays them on the replica. -/
theorem replica_foldl_observe (m : Member) (now : Int64) (entries : List (Nat × Event)) :
    (entries.foldl (observe · now) m).replica = m.replica.replay (fun _ => now) entries := by
  induction entries generalizing m with
  | nil => rfl
  | cons entry entries ih =>
    rw [List.foldl_cons, ih, replica_observe]
    rfl

/-- To take in several entries moves the place behind the last of them.

**Proof sketch.** By induction on the entries: each moves the place behind itself, so the last one
decides. -/
theorem cursor?_foldl_observe {m : Member} {k : Nat} (h : m.cursor? = some k) (now : Int64)
    (entries : List (Nat × Event)) : (entries.foldl (observe · now) m).cursor? =
      some ((entries.getLast?.map (·.1)).getD k) := by
  induction entries generalizing m k with
  | nil => exact h
  | cons entry entries ih =>
    rw [List.foldl_cons, ih (cursor?_observe h now entry), List.getLast?_cons]
    cases entries.getLast? <;> rfl

variable {m : Member} {s : Store} {events : List Event} {k : Nat}

/-- A reading takes in the next events of the history, a batch at most, as long as the log retains
them. -/
theorem followOnce_eq (hcursor : m.cursor? = some k) (hs : s.HasHistory events)
    (hopen : s.closed = false) (hkept : s.RetainsAfter k) (now : Int64) :
    m.followOnce now s =
      (numbered k ((events.drop k).take batchSize)).foldl (observe · now) m := by
  unfold cursor? at hcursor
  rw [followOnce, hcursor]
  simp only [hs.entriesAfter hopen hkept, take_numbered]

/-- **A reading replays the next events** on the replica. -/
theorem replica_followOnce (hcursor : m.cursor? = some k) (hs : s.HasHistory events)
    (hopen : s.closed = false) (hkept : s.RetainsAfter k) (now : Int64) :
    (m.followOnce now s).replica =
      m.replica.replay (fun _ => now) (numbered k ((events.drop k).take batchSize)) := by
  rw [followOnce_eq hcursor hs hopen hkept, replica_foldl_observe]

/-- **A reading moves the place behind the events** that it gave. -/
theorem cursor?_followOnce (hcursor : m.cursor? = some k) (hs : s.HasHistory events)
    (hopen : s.closed = false) (hkept : s.RetainsAfter k) (now : Int64) :
    (m.followOnce now s).cursor? = some (k + ((events.drop k).take batchSize).length) := by
  rw [followOnce_eq hcursor hs hopen hkept, cursor?_foldl_observe hcursor, getLast?_numbered]

end FleetStatus.Member
