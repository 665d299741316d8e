set_option relaxedAutoImplicit false
set_option autoImplicit false

/-!
# Ordered indexes

An `Index κ α` keeps at most one value a key, in ascending order of the keys. The order is part of
the type, so two indexes with the same look-ups are the same index, and a listing of an index needs
no sorting.

## Main definitions

* `FleetStatus.Index` — a list of pairs whose keys ascend strictly.
* `FleetStatus.Index.get?`, `FleetStatus.Index.insert`, `FleetStatus.Index.erase`,
  `FleetStatus.Index.filter`, `FleetStatus.Index.adjust` — the operations.

## Main results

* `FleetStatus.Index.get?_insert`, `FleetStatus.Index.get?_erase` — what an operation does to the
  look-ups.
* `FleetStatus.Index.ext_get?` — equal look-ups make equal indexes.
-/

namespace FleetStatus

universe u v w

/-- An **index**: pairs of a key and its value, the keys strictly ascending. -/
structure Index (κ : Type u) (α : Type v) [Ord κ] where
  /-- The pairs in ascending order of their keys. -/
  entries : List (κ × α)
  /-- Every key is below the keys after it. -/
  sorted : entries.Pairwise fun a b => compare a.1 b.1 = .lt

namespace Index

variable {κ : Type u} {α : Type v} [Ord κ]

/-- An index is its list of entries. -/
@[ext]
theorem ext {a b : Index κ α} (h : a.entries = b.entries) : a = b := by
  cases a; cases b; cases h; rfl

instance [DecidableEq κ] [DecidableEq α] : DecidableEq (Index κ α) := fun a b =>
  decidable_of_iff (a.entries = b.entries) ⟨ext, fun h => h ▸ rfl⟩

/-! ## Views -/

/-- The index without entries. -/
def empty : Index κ α := ⟨[], .nil⟩

instance : Inhabited (Index κ α) := ⟨empty⟩

instance : EmptyCollection (Index κ α) := ⟨empty⟩

/-- The first value in `l` whose key compares equal to `k`. -/
def lookup (k : κ) : List (κ × α) → Option α
  | [] => none
  | (k', v) :: rest => if compare k k' = .eq then some v else lookup k rest

/-- The value kept under `k`. -/
def get? (m : Index κ α) (k : κ) : Option α := lookup k m.entries

/-- Whether a value is kept under `k`. -/
def contains (m : Index κ α) (k : κ) : Bool := (m.get? k).isSome

/-- The number of entries. -/
def size (m : Index κ α) : Nat := m.entries.length

/-- The keys in ascending order. -/
def keys (m : Index κ α) : List κ := m.entries.map (·.1)

/-- The values in the order of their keys. -/
def values (m : Index κ α) : List α := m.entries.map (·.2)

/-! ## Changing an index -/

/-- Sorted insertion into a list of pairs; an equal key is replaced. -/
def insertEntry (k : κ) (v : α) : List (κ × α) → List (κ × α)
  | [] => [(k, v)]
  | (k', v') :: rest =>
    match compare k k' with
    | .lt => (k, v) :: (k', v') :: rest
    | .eq => (k, v) :: rest
    | .gt => (k', v') :: insertEntry k v rest

/-- An entry of a list after an insertion is the one put in or was there before. -/
theorem mem_insertEntry {k : κ} {v : α} {e : κ × α} {l : List (κ × α)}
    (h : e ∈ insertEntry k v l) : e = (k, v) ∨ e ∈ l := by
  induction l with
  | nil => simpa [insertEntry] using h
  | cons hd tl ih =>
    obtain ⟨k', v'⟩ := hd
    rw [insertEntry] at h
    split at h <;> grind

section Ordered

variable [Std.TransOrd κ] [Std.LawfulEqOrd κ]

/-- An insertion keeps the keys in order.

**Proof sketch.** By induction on the list, along the three outcomes of the comparison with the key
in front. In the last of them the entry goes in further behind, and what is behind the front stays
above it by `mem_insertEntry`. -/
theorem pairwise_insertEntry {k : κ} {v : α} {l : List (κ × α)}
    (h : l.Pairwise fun a b => compare a.1 b.1 = .lt) :
    (insertEntry k v l).Pairwise fun a b => compare a.1 b.1 = .lt := by
  induction l with
  | nil => simp [insertEntry]
  | cons hd tl ih =>
    obtain ⟨k', v'⟩ := hd
    rw [List.pairwise_cons] at h
    rw [insertEntry]
    split
    next hlt =>
      refine .cons (fun e he => ?_) (.cons h.1 h.2)
      rcases List.mem_cons.1 he with rfl | he
      · exact hlt
      · exact Std.TransCmp.lt_trans hlt (h.1 e he)
    next heq =>
      have := Std.LawfulEqOrd.eq_of_compare heq
      subst this
      exact .cons h.1 h.2
    next hgt =>
      refine .cons (fun e he => ?_) (ih h.2)
      rcases mem_insertEntry he with rfl | he
      · exact Std.OrientedCmp.lt_of_gt hgt
      · exact h.1 e he

/-- Keep `v` under `k`, in place of any value kept there before. -/
def insert (m : Index κ α) (k : κ) (v : α) : Index κ α :=
  ⟨insertEntry k v m.entries, pairwise_insertEntry m.sorted⟩

/-- The index of a list of pairs; of two pairs with one key the later one counts. -/
def ofList (l : List (κ × α)) : Index κ α := l.foldl (fun m e => m.insert e.1 e.2) empty

end Ordered

/-- Keep the entries that pass the test `p`. -/
def filter (m : Index κ α) (p : κ → α → Bool) : Index κ α :=
  ⟨m.entries.filter fun e => p e.1 e.2, m.sorted.filter _⟩

/-- Forget what is kept under `k`. -/
def erase (m : Index κ α) (k : κ) : Index κ α := m.filter fun k' _ => compare k k' ≠ .eq

/-- Change the value kept under `k`, if there is one. -/
def adjust (m : Index κ α) (k : κ) (f : α → α) : Index κ α where
  entries := m.entries.map fun e => (e.1, if compare k e.1 = .eq then f e.2 else e.2)
  sorted := List.pairwise_map.2 m.sorted

/-! ## Look-ups after a change -/

/-- Nothing is found in an index without entries. -/
@[simp]
theorem get?_empty (k : κ) : (empty : Index κ α).get? k = none := rfl

section Ordered

variable [Std.TransOrd κ] [Std.LawfulEqOrd κ]

/-- A look-up in a list after an insertion.

**Proof sketch.** By induction on the list. Where the insertion goes on behind the front, the key of
the front is not the one that is put in, so one comparison of the look-up decides for both lists. -/
theorem lookup_insertEntry (k k' : κ) (v : α) (l : List (κ × α)) :
    lookup k' (insertEntry k v l) = if compare k' k = .eq then some v else lookup k' l := by
  induction l with
  | nil => rfl
  | cons hd tl ih =>
    obtain ⟨k'', v''⟩ := hd
    rw [insertEntry]
    split
    next => rfl
    next heq =>
      have := Std.LawfulEqOrd.eq_of_compare heq
      subst this
      by_cases h : compare k' k = .eq <;> simp [lookup, h]
    next hgt =>
      by_cases h : compare k' k'' = .eq
      · have := Std.LawfulEqOrd.eq_of_compare h
        subst this
        have hne : compare k' k ≠ .eq := fun he => by
          rw [Std.OrientedCmp.eq_comm.1 he] at hgt
          cases hgt
        simp [lookup, hne]
      · simp [lookup, h, ih]

/-- **Insertion changes one look-up.** -/
theorem get?_insert (m : Index κ α) (k k' : κ) (v : α) [DecidableEq κ] :
    (m.insert k v).get? k' = if k' = k then some v else m.get? k' := by
  have : (compare k' k = .eq) ↔ k' = k := Std.LawfulEqOrd.compare_eq_iff_eq
  simp only [insert, get?, lookup_insertEntry, this]

omit [Std.TransOrd κ] [Std.LawfulEqOrd κ] in
/-- A key below all keys of a list is not found. -/
theorem lookup_eq_none_of_lt {k : κ} {l : List (κ × α)} (h : ∀ e ∈ l, compare k e.1 = .lt) :
    lookup k l = none := by
  induction l with
  | nil => rfl
  | cons e r ih =>
    have := h e List.mem_cons_self
    simp [lookup, this, ih fun e' he' => h e' (List.mem_cons_of_mem _ he')]

omit [Std.LawfulEqOrd κ] in
/-- A key below the first key of a sorted list is not found. -/
theorem lookup_eq_none_of_lt_head {k : κ} {e : κ × α} {r : List (κ × α)}
    (hk : compare k e.1 = .lt) (hr : ∀ e' ∈ r, compare e.1 e'.1 = .lt) :
    lookup k (e :: r) = none := by
  refine lookup_eq_none_of_lt fun e' he' => ?_
  rcases List.mem_cons.1 he' with rfl | he'
  · exact hk
  · exact Std.TransCmp.lt_trans hk (hr e' he')

omit [Std.LawfulEqOrd κ] in
/-- The first key of a list is found. -/
theorem lookup_cons_self (e : κ × α) (r : List (κ × α)) : lookup e.1 (e :: r) = some e.2 := by
  simp [lookup, Std.ReflCmp.compare_self]

omit [Std.TransOrd κ] in
/-- A look-up in a sorted list that was filtered.

**Proof sketch.** By induction on the list. That it is sorted matters where the entry in front is
the one looked for and does not pass: no entry behind it has the same key, so nothing is found. -/
theorem lookup_filter (p : κ → α → Bool) (k : κ) {l : List (κ × α)}
    (hl : l.Pairwise fun a b => compare a.1 b.1 = .lt) :
    lookup k (l.filter fun e => p e.1 e.2) = (lookup k l).filter (p k) := by
  induction l with
  | nil => rfl
  | cons hd tl ih =>
    obtain ⟨k', v'⟩ := hd
    rw [List.pairwise_cons] at hl
    by_cases h : compare k k' = .eq
    · have := Std.LawfulEqOrd.eq_of_compare h
      subst this
      have hnone := lookup_eq_none_of_lt hl.1
      by_cases hp : p k v'
      · simp [lookup, hp, Option.filter]
      · simp [lookup, hp, hnone, ih hl.2, Option.filter]
    · by_cases hp : p k' v' <;> simp [lookup, hp, h, ih hl.2]

omit [Std.TransOrd κ] in
/-- **A filter keeps the look-ups that pass.** -/
theorem get?_filter (m : Index κ α) (p : κ → α → Bool) (k : κ) :
    (m.filter p).get? k = (m.get? k).filter (p k) := lookup_filter p k m.sorted

omit [Std.TransOrd κ] in
/-- **Erasing forgets one look-up.** -/
theorem get?_erase (m : Index κ α) (k k' : κ) [DecidableEq κ] :
    (m.erase k).get? k' = if k' = k then none else m.get? k' := by
  have : (compare k k' = .eq) ↔ k' = k := Std.LawfulEqOrd.compare_eq_iff_eq.trans eq_comm
  rw [erase, get?_filter]
  by_cases h : k' = k
  · simp [h, Option.filter]; cases m.get? k <;> simp
  · simp [this, h, Option.filter]; cases m.get? k' <;> simp

omit [Std.TransOrd κ] in
/-- **Adjusting changes the value of one key.**

**Proof sketch.** By induction on the entries, whose keys stay as they are. -/
theorem get?_adjust (m : Index κ α) (k k' : κ) (f : α → α) [DecidableEq κ] :
    (m.adjust k f).get? k' = if k' = k then (m.get? k').map f else m.get? k' := by
  have hiff : ∀ a b : κ, (compare a b = .eq) ↔ a = b := fun _ _ => Std.LawfulEqOrd.compare_eq_iff_eq
  have key : ∀ l : List (κ × α),
      lookup k' (l.map fun e => (e.1, if compare k e.1 = .eq then f e.2 else e.2)) =
        if k' = k then (lookup k' l).map f else lookup k' l := by
    intro l
    induction l with
    | nil => simp [lookup]
    | cons hd tl ih =>
      by_cases h : k' = hd.1
      · subst h
        by_cases hk : hd.1 = k
        · simp [lookup, hiff, hk]
        · simp [lookup, hiff, hk, Ne.symm hk]
      · by_cases hk : k' = k <;> simp_all [lookup]
  exact key m.entries

/-! ## Extensionality -/

/-- Sorted lists with the same look-ups are equal.

**Proof sketch.** By induction on both lists. The keys in front are equal, because a key in front
that were the smaller one would be found in its own list only. Then the values in front are equal,
and the look-ups of the rests agree, since neither rest has the key in front. -/
theorem eq_of_lookup_eq {l₁ l₂ : List (κ × α)}
    (h₁ : l₁.Pairwise fun a b => compare a.1 b.1 = .lt)
    (h₂ : l₂.Pairwise fun a b => compare a.1 b.1 = .lt)
    (h : ∀ k, lookup k l₁ = lookup k l₂) : l₁ = l₂ := by
  induction l₁ generalizing l₂ with
  | nil =>
    cases l₂ with
    | nil => rfl
    | cons e r => cases (h e.1).trans (lookup_cons_self e r)
  | cons e₁ r₁ ih =>
    cases l₂ with
    | nil => cases (lookup_cons_self e₁ r₁).symm.trans (h e₁.1)
    | cons e₂ r₂ =>
      rw [List.pairwise_cons] at h₁ h₂
      have hkey : e₁.1 = e₂.1 := by
        cases hc : compare e₁.1 e₂.1 with
        | lt =>
          have hfound := h e₁.1
          rw [lookup_cons_self, lookup_eq_none_of_lt_head hc h₂.1] at hfound
          cases hfound
        | gt =>
          have hfound := h e₂.1
          rw [lookup_cons_self, lookup_eq_none_of_lt_head (Std.OrientedCmp.lt_of_gt hc) h₁.1]
            at hfound
          cases hfound
        | eq => exact Std.LawfulEqOrd.eq_of_compare hc
      have hvalue : e₁.2 = e₂.2 := by
        have hfound := h e₁.1
        rw [lookup_cons_self, hkey, lookup_cons_self] at hfound
        exact Option.some.inj hfound
      have hrest : r₁ = r₂ := by
        refine ih h₁.2 h₂.2 fun k => ?_
        by_cases hk : compare k e₁.1 = .eq
        · obtain rfl := Std.LawfulEqOrd.eq_of_compare hk
          rw [lookup_eq_none_of_lt h₁.1, hkey, lookup_eq_none_of_lt h₂.1]
        · simpa [lookup, hk, ← hkey] using h k
      rw [Prod.ext hkey hvalue, hrest]

/-- **Extensionality.** Two indexes with the same look-ups are equal. -/
theorem ext_get? {a b : Index κ α} (h : ∀ k, a.get? k = b.get? k) : a = b :=
  ext (eq_of_lookup_eq a.sorted b.sorted h)

end Ordered

end Index

end FleetStatus
