import FleetStatus.Proofs.Presence.Located

set_option relaxedAutoImplicit false
set_option autoImplicit false

/-!
# What stands

Of what was said in turn, a word stands if nothing after it took it back. Where a player is, and
which servers are announced, is a matter of the words that stand. This reads a run from its end,
without the store that the run went through.

## Main definitions

* `FleetStatus.Stands` — in a list something stands.
* `FleetStatus.Store.Stays` — after some operations the stay of a player on a server stands.

## Main results

* `FleetStatus.stands_append` — what stands after more was said.
* `FleetStatus.Store.location?_run_eq_some_iff` — a player is recorded on a server exactly when the
  player's stay there stands.
-/

namespace FleetStatus

/-! ## Lists -/

section Stands

variable {α : Type} {P Q : α → Prop}

/-- An element with `P` **stands** in the list: no element with `Q` comes after it. -/
def Stands (P Q : α → Prop) (l : List α) : Prop :=
  ∃ before x after, l = before ++ x :: after ∧ P x ∧ ∀ y ∈ after, ¬Q y

/-- Where nothing was said nothing stands. -/
theorem not_stands_nil : ¬Stands P Q [] := by
  rintro ⟨before, x, after, hl, -⟩
  exact List.append_ne_nil_of_right_ne_nil before (List.cons_ne_nil x after) hl.symm

/-- **What stands after more was said**: something of what was said later, or something of what was
said before that was not taken back later.

**Proof sketch.** What stands in `l ++ l'` is in one of the two lists. If it is in `l`, then all of
`l'` comes after it. -/
theorem stands_append {l l' : List α} :
    Stands P Q (l ++ l') ↔ Stands P Q l' ∨ (Stands P Q l ∧ ∀ y ∈ l', ¬Q y) := by
  constructor
  · rintro ⟨before, x, after, hsplit, hx, hafter⟩
    rcases List.append_eq_append_iff.1 hsplit with ⟨middle, hbefore, hl'⟩ | ⟨middle, hl, hrest⟩
    · exact .inl ⟨middle, x, after, hl', hx, hafter⟩
    · cases middle with
      | nil => exact .inl ⟨[], x, after, hrest.symm, hx, hafter⟩
      | cons x' middle =>
        -- the element is one of the first list, and what comes after it goes on with the second
        obtain ⟨rfl, rfl⟩ := List.cons.inj hrest
        refine .inr ⟨⟨before, x, middle, hl, hx, fun y hy => ?_⟩, fun y hy => ?_⟩
        · exact hafter y (List.mem_append_left l' hy)
        · exact hafter y (List.mem_append_right middle hy)
  · rintro (⟨before, x, after, rfl, hx, hafter⟩ | ⟨⟨before, x, after, rfl, hx, hafter⟩, hl'⟩)
    · exact ⟨l ++ before, x, after, (List.append_assoc ..).symm, hx, hafter⟩
    · refine ⟨before, x, after ++ l', List.append_assoc .., hx, fun y hy => ?_⟩
      rcases List.mem_append.1 hy with hy | hy
      · exact hafter y hy
      · exact hl' y hy

/-- One thing that was said stands, if it is of the kind. -/
theorem stands_singleton {x : α} : Stands P Q [x] ↔ P x := by
  constructor
  · rintro ⟨before, x', after, hsplit, hx', -⟩
    have hmem : x' ∈ [x] := hsplit ▸ List.mem_append_right before List.mem_cons_self
    rwa [List.mem_singleton.1 hmem] at hx'
  · exact fun hx => ⟨[], x, [], rfl, hx, nofun⟩

/-- What stands after one more thing was said. -/
theorem stands_append_singleton {l : List α} {x : α} :
    Stands P Q (l ++ [x]) ↔ P x ∨ (Stands P Q l ∧ ¬Q x) := by
  simp only [stands_append, stands_singleton, List.mem_singleton, forall_eq]

/-- Nothing stands where nothing of the kind was said. -/
theorem not_stands_of_forall {l : List α} (h : ∀ x ∈ l, ¬P x) : ¬Stands P Q l := by
  rintro ⟨before, x, after, rfl, hx, -⟩
  exact h x (List.mem_append_right before List.mem_cons_self) hx

/-- Of two kinds something stands when something of one of them does. -/
theorem stands_or {P' : α → Prop} {l : List α} :
    Stands (fun x => P x ∨ P' x) Q l ↔ Stands P Q l ∨ Stands P' Q l := by
  constructor
  · rintro ⟨before, x, after, hl, hx | hx, hafter⟩
    · exact .inl ⟨before, x, after, hl, hx, hafter⟩
    · exact .inr ⟨before, x, after, hl, hx, hafter⟩
  · rintro (⟨before, x, after, hl, hx, hafter⟩ | ⟨before, x, after, hl, hx, hafter⟩)
    · exact ⟨before, x, after, hl, .inl hx, hafter⟩
    · exact ⟨before, x, after, hl, .inr hx, hafter⟩

end Stands

namespace Store

/-! ## Operations on an open store -/

/-- A closed store stays closed. -/
theorem closed_perform_of_closed {s : Store} (h : s.closed = true) (op : Operation) :
    (s.perform op).closed = true := by
  by_cases hop : op = .close
  · rw [hop]
    rfl
  · rw [closed_perform hop, h]

/-- A store that is open after an operation was open before. -/
theorem isOpen_of_perform {s : Store} {op : Operation} (h : (s.perform op).closed = false) :
    s.closed = false := by
  rw [← Bool.not_eq_true]
  intro hclosed
  rw [closed_perform_of_closed hclosed] at h
  cases h

/-! ## The stays of players -/

/-- The operation puts a player on a server. -/
def Operation.Places (uuid : Uuid) (id : String) : Operation → Prop
  | .join p => p.uuid = uuid ∧ p.serverId = id
  | .register _ | .unregister _ | .heartbeat _ | .leave _ _ | .fetch _ | .expire _ | .close => False

/-- The operation ends the stay of a player on a server: the player leaves it or joins anew, or the
server is forgotten. -/
def Operation.Unsettles (uuid : Uuid) (id : String) : Operation → Prop
  | .join p => p.uuid = uuid
  | .leave uuid' id' => uuid' = uuid ∧ id' = id
  | .unregister id' | .expire id' => id' = id
  | .register _ | .heartbeat _ | .fetch _ | .close => False

instance (uuid : Uuid) (id : String) : (op : Operation) → Decidable (op.Unsettles uuid id)
  | .join p => inferInstanceAs (Decidable (p.uuid = uuid))
  | .leave uuid' id' => inferInstanceAs (Decidable (uuid' = uuid ∧ id' = id))
  | .unregister id' | .expire id' => inferInstanceAs (Decidable (id' = id))
  | .register _ | .heartbeat _ | .fetch _ | .close => .isFalse fun h => h

/-- After some operations the **stay of a player on a server stands**: the player joined the server,
and since then has not left it nor joined any server, and the server was not forgotten. -/
def Stays (ops : List Operation) (uuid : Uuid) (id : String) : Prop :=
  Stands (Operation.Places uuid id) (Operation.Unsettles uuid id) ops

/-- **An operation on an open store keeps locations in step with stays.**

**Proof sketch.** By cases on the operation. A server that expires or leaves unsettles the players
there; a join places its player and unsettles that player everywhere else; a leave unsettles its
player on the server that is named. -/
theorem Located.location?_effect_eq_some_iff {s : Store} (h : s.Located) (op : Operation)
    (uuid : Uuid) (id : String) : (s.effect op).location? uuid = some id ↔
      op.Places uuid id ∨ (s.location? uuid = some id ∧ ¬op.Unsettles uuid id) := by
  -- a server that is forgotten unsettles its own players
  have hforgotten (id' : String) : (s.expire id').location? uuid = some id ↔
      s.location? uuid = some id ∧ ¬id' = id := by
    rw [h.location?_expire]
    by_cases hat : s.location? uuid = some id'
    · simp [hat]
    · rw [if_neg hat]
      refine (and_iff_left_of_imp fun hin heq => ?_).symm
      exact hat (heq ▸ hin)
  cases op with
  | join p =>
    show (s.joined p).2.location? uuid = some id ↔ _
    rw [location?_joined]
    by_cases huuid : uuid = p.uuid
    · simp [Operation.Places, Operation.Unsettles, huuid]
    · simp [Operation.Places, Operation.Unsettles, huuid, Ne.symm huuid]
  | leave uuid' id' =>
    show (s.left uuid' id').2.location? uuid = some id ↔ _
    rw [location?_left]
    simp only [Operation.Places, Operation.Unsettles, false_or]
    by_cases hleft : uuid = uuid' ∧ s.location? uuid' = some id'
    · obtain ⟨rfl, hat⟩ := hleft
      simp [hat]
    · rw [if_neg hleft]
      refine (and_iff_left_of_imp ?_).symm
      rintro hin ⟨rfl, rfl⟩
      exact hleft ⟨rfl, hin⟩
  | unregister id' => exact (hforgotten id').trans (false_or _).to_iff.symm
  | expire id' => exact (hforgotten id').trans (false_or _).to_iff.symm
  | fetch now =>
    have hsame : s.healed.location? uuid = s.location? uuid :=
      healed_frame (·.location? uuid) (fun _ _ => rfl) s
    show s.healed.location? uuid = some id ↔ False ∨ (s.location? uuid = some id ∧ ¬False)
    rw [hsame, false_or, not_false_eq_true, and_true]
  | register | heartbeat | close =>
    show s.location? uuid = some id ↔ False ∨ (s.location? uuid = some id ∧ ¬False)
    rw [false_or, not_false_eq_true, and_true]

/-- **A player is recorded on a server exactly when the player's stay there stands**, as long as the
store is open.

**Proof sketch.** By induction on the operations from the end: after one more, the places are those
that it makes and those that stood and that it does not unsettle, which is what standing means
(`stands_append_singleton`). -/
theorem location?_run_eq_some_iff {capacity : Nat} {ops : List Operation}
    (hopen : ((withCapacity capacity).run ops).closed = false) (uuid : Uuid) (id : String) :
    ((withCapacity capacity).run ops).location? uuid = some id ↔ Stays ops uuid id := by
  induction ops using List.reverseRecOn with
  | nil => exact iff_of_false nofun not_stands_nil
  | append_singleton ops op ih =>
    rw [run_append] at hopen ⊢
    have hbefore := isOpen_of_perform hopen
    rw [run_cons, run_nil, perform_of_open hbefore,
      (located_run capacity ops).location?_effect_eq_some_iff, ih hbefore]
    exact stands_append_singleton.symm

end Store

end FleetStatus
