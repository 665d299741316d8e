import FleetStatus.Bytes

set_option relaxedAutoImplicit false
set_option autoImplicit false

/-!
# Filling a byte budget

A datagram lists as many items from the front of a list as fit in the bytes that are left.

## Main definitions

* `FleetStatus.Wire.takeWithin` — the items that fit.
* `FleetStatus.Wire.totalSize` — the bytes that items take.
* `FleetStatus.Wire.LongestFitting` — the longest part at the front of a list that fits in some
  room.

## Main results

* `FleetStatus.Wire.totalSize_takeWithin_le` — what was taken fits.
* `FleetStatus.Wire.takeWithin_prefix`, `FleetStatus.Wire.lt_totalSize_takeWithin_add` — it is from
  the front, and the next item does not fit.
* `FleetStatus.Wire.longestFitting_takeWithin` — it is the longest part that fits.
-/

namespace FleetStatus.Wire

variable {α : Type}

/-- The items from the front of a list whose sizes fit together in `budget`; the first one that does
not fit ends the search. -/
def takeWithin (size : α → Nat) (budget : Nat) : List α → List α
  | [] => []
  | x :: xs => if size x ≤ budget then x :: takeWithin size (budget - size x) xs else []

/-- The sum of the sizes. -/
def totalSize (size : α → Nat) : List α → Nat
  | [] => 0
  | x :: xs => size x + totalSize size xs

/-- The **longest part at the front** of a list whose items, written one after the other, take at
most `room` bytes. -/
structure LongestFitting (bytes : α → Bytes) (room : Nat) (items listed : List α) : Prop where
  front : listed <+: items
  fits : (listed.flatMap bytes).length ≤ room
  longest : ∀ part, part <+: items → (part.flatMap bytes).length ≤ room →
    part.length ≤ listed.length

/-- **What was taken fits.**

**Proof sketch.** By induction on the items, for every budget: an item that is taken leaves the
budget smaller by its size. -/
theorem totalSize_takeWithin_le (size : α → Nat) (budget : Nat) (xs : List α) :
    totalSize size (takeWithin size budget xs) ≤ budget := by
  induction xs generalizing budget with
  | nil => simp [takeWithin, totalSize]
  | cons x xs ih =>
    simp only [takeWithin]
    split
    · have := ih (budget - size x)
      simp only [totalSize]
      omega
    · simp [totalSize]

/-- **Items are taken from the front.** -/
theorem takeWithin_prefix (size : α → Nat) (budget : Nat) (xs : List α) :
    takeWithin size budget xs <+: xs := by
  induction xs generalizing budget with
  | nil => exact List.prefix_rfl
  | cons x xs ih =>
    simp only [takeWithin]
    split
    · exact List.cons_prefix_cons.2 ⟨rfl, ih _⟩
    · exact List.nil_prefix

/-- **The next item does not fit.**

**Proof sketch.** By induction on the items, for every budget. At the first item that is not taken
the rest of the budget is smaller than the item. -/
theorem lt_totalSize_takeWithin_add (size : α → Nat) (budget : Nat) {xs rest : List α} {next : α}
    (h : takeWithin size budget xs ++ next :: rest = xs) :
    budget < totalSize size (takeWithin size budget xs) + size next := by
  induction xs generalizing budget with
  | nil => simp [takeWithin] at h
  | cons x xs ih =>
    simp only [takeWithin] at h ⊢
    split
    next hfits =>
      rw [if_pos hfits, List.cons_append, List.cons.injEq] at h
      have hlt := ih (budget - size x) h.2
      simp only [totalSize]
      omega
    next hover =>
      rw [if_neg hover, List.nil_append, List.cons.injEq] at h
      simp only [totalSize, h.1]
      omega

/-- Items written one after the other take the bytes of all. -/
theorem length_flatMap {size : α → Nat} {bytes : α → Bytes} (h : ∀ x, (bytes x).length = size x)
    (xs : List α) : (xs.flatMap bytes).length = totalSize size xs := by
  induction xs with
  | nil => rfl
  | cons x xs ih => rw [List.flatMap_cons, List.length_append, ih, h, totalSize]

/-- The size of one item is part of the size of all. -/
theorem le_totalSize_of_mem {size : α → Nat} {x : α} {xs : List α} (h : x ∈ xs) :
    size x ≤ totalSize size xs := by
  induction xs with
  | nil => cases h
  | cons y ys ih =>
    rw [totalSize]
    rcases List.mem_cons.1 h with rfl | h
    · exact Nat.le_add_right _ _
    · exact Nat.le_trans (ih h) (Nat.le_add_left _ _)

/-- Items that take bytes are no more than the bytes that they take. -/
theorem length_le_totalSize {size : α → Nat} (h : ∀ x, 0 < size x) (xs : List α) :
    xs.length ≤ totalSize size xs := by
  induction xs with
  | nil => exact Nat.le_refl 0
  | cons x xs ih =>
    rw [List.length_cons, totalSize, Nat.add_comm]
    exact Nat.add_le_add (h x) ih

/-- **No longer part fits** than the one that is taken.

**Proof sketch.** By induction on the items. A part that fits begins with the first item, so that
item fits and is taken, and what is behind it in the part fits in what is left. -/
theorem length_le_length_takeWithin {size : α → Nat} {budget : Nat} {part xs : List α}
    (hfront : part <+: xs) (hfits : totalSize size part ≤ budget) :
    part.length ≤ (takeWithin size budget xs).length := by
  induction xs generalizing budget part with
  | nil =>
    rw [List.prefix_nil.1 hfront]
    exact Nat.le_refl _
  | cons x xs ih =>
    cases part with
    | nil => exact Nat.zero_le _
    | cons y part =>
      obtain ⟨rfl, htail⟩ := List.cons_prefix_cons.1 hfront
      rw [totalSize] at hfits
      rw [takeWithin, if_pos (by omega), List.length_cons, List.length_cons]
      exact Nat.succ_le_succ (ih htail (by omega))

/-- **What is taken is the longest part that fits**, if the sizes are those of the bytes. -/
theorem longestFitting_takeWithin {size : α → Nat} {bytes : α → Bytes}
    (h : ∀ x, (bytes x).length = size x) (budget : Nat) (xs : List α) :
    LongestFitting bytes budget xs (takeWithin size budget xs) where
  front := takeWithin_prefix size budget xs
  fits := by
    rw [length_flatMap h]
    exact totalSize_takeWithin_le size budget xs
  longest part hfront hfits := by
    rw [length_flatMap h] at hfits
    exact length_le_length_takeWithin hfront hfits

end FleetStatus.Wire
