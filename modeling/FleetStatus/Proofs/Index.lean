import FleetStatus.Index
import Mathlib.Data.Set.Card

set_option relaxedAutoImplicit false
set_option autoImplicit false

/-!
# Counting in ordered indexes

An index lists every look-up once. So the length of a listing is the number of the keys that it is
about, and an index built from a list of pairs with distinct keys finds exactly those pairs.

## Main definitions

* `FleetStatus.Index.holding` — the keys under which a value is kept.
* `FleetStatus.Index.map` — the index with other values under the same keys.

## Main results

* `FleetStatus.Index.mem_entries_iff` — the entries are the look-ups.
* `FleetStatus.Index.ncard_holding`, `FleetStatus.Index.ncard_contains` — listings count keys.
* `FleetStatus.Index.get?_ofList_eq_some_iff`, `FleetStatus.Index.get?_ofList_map` — the index of a
  list.
* `FleetStatus.Index.keys_eq_of_contains` — the same keys are listed in the same order.
-/

namespace FleetStatus.Index

universe u v w

variable {κ : Type u} {α : Type v} {β : Type w} [Ord κ]

section Lawful

variable [Std.LawfulEqOrd κ]

/-! ## Entries and look-ups -/

/-- In an ascending list of pairs a look-up finds exactly the pairs of the list.

**Proof sketch.** By induction on the list. If the first pair has the key, no pair behind it has,
since the keys ascend. -/
theorem lookup_eq_some_iff {l : List (κ × α)}
    (hl : l.Pairwise fun a b => compare a.1 b.1 = .lt) (k : κ) (x : α) :
    lookup k l = some x ↔ (k, x) ∈ l := by
  induction l with
  | nil => simp [lookup]
  | cons e rest ih =>
    obtain ⟨k', x'⟩ := e
    rw [List.pairwise_cons] at hl
    by_cases h : compare k k' = .eq
    · have hk : k = k' := Std.LawfulEqOrd.eq_of_compare h
      subst hk
      have hnot : (k, x) ∉ rest := fun hmem => by
        have := hl.1 _ hmem
        simp [Std.ReflCmp.compare_self] at this
      simp [lookup, hnot, eq_comm]
    · have hk : k ≠ k' := fun hk => h (hk ▸ Std.ReflCmp.compare_self)
      simp [lookup, h, hk, ih hl.2]

/-- **The entries are the look-ups.** -/
theorem mem_entries_iff (m : Index κ α) (k : κ) (x : α) :
    (k, x) ∈ m.entries ↔ m.get? k = some x :=
  (lookup_eq_some_iff m.sorted k x).symm

/-- The keys are those under which something is found. -/
theorem mem_keys_iff (m : Index κ α) (k : κ) : k ∈ m.keys ↔ m.contains k := by
  simp only [keys, List.mem_map, Prod.exists, exists_and_right, exists_eq_right, mem_entries_iff,
    contains, Option.isSome_iff_exists]

/-- The values are what is found under some key. -/
theorem mem_values_iff (m : Index κ α) (x : α) : x ∈ m.values ↔ ∃ k, m.get? k = some x := by
  simp only [values, List.mem_map, Prod.exists, exists_eq_right, mem_entries_iff]

/-- After an erasure all other keys are there as before. -/
theorem contains_erase (m : Index κ α) (k k' : κ) [DecidableEq κ] :
    (m.erase k).contains k' = (k' ≠ k && m.contains k') := by
  by_cases h : k' = k <;> simp [contains, get?_erase, h]

/-- A filter keeps the keys whose values pass. -/
theorem contains_filter (m : Index κ α) (p : κ → α → Bool) (k : κ) :
    (m.filter p).contains k ↔ ∃ x, m.get? k = some x ∧ p k x := by
  simp only [contains, get?_filter, Option.isSome_iff_exists, Option.filter_eq_some_iff]

/-- Several erasures forget the look-ups of all their keys, in whatever order. -/
theorem get?_foldl_erase [DecidableEq κ] (m : Index κ α) (ks : List κ) (k : κ) :
    (ks.foldl erase m).get? k = if k ∈ ks then none else m.get? k := by
  induction ks generalizing m with
  | nil => simp
  | cons k' ks ih =>
    rw [List.foldl_cons, ih, get?_erase]
    by_cases hk : k = k' <;> by_cases hmem : k ∈ ks <;> simp [hk, hmem]

section Missing

variable {m : Index κ α} {k : κ} [DecidableEq κ]

/-- A key that is missing is missing after an erasure. -/
theorem get?_erase_eq_none (h : m.get? k = none) (k' : κ) : (m.erase k').get? k = none := by
  rw [get?_erase, h, ite_self]

/-- A key that is missing is missing after a value was adjusted. -/
theorem get?_adjust_eq_none (h : m.get? k = none) (k' : κ) (f : α → α) :
    (m.adjust k' f).get? k = none := by
  rw [get?_adjust, h, Option.map_none, ite_self]

/-- A key that is missing is missing after an insertion under another key. -/
theorem get?_insert_eq_none [Std.TransOrd κ] (h : m.get? k = none) {k' : κ} (hne : k' ≠ k) (x : α) :
    (m.insert k' x).get? k = none := by
  rw [get?_insert, if_neg hne.symm, h]

end Missing

/-- Values that tell their own keys are listed in the order of the keys. -/
theorem map_values_eq_keys {m : Index κ α} {f : α → κ} (h : ∀ k x, m.get? k = some x → f x = k) :
    m.values.map f = m.keys := by
  rw [values, keys, List.map_map]
  refine List.map_congr_left fun e he => ?_
  exact h e.1 e.2 ((mem_entries_iff _ _ _).1 he)

/-- Keys in text are listed in their own order. -/
theorem ascending_keys (m : Index String α) : m.keys.Pairwise (· < ·) :=
  List.pairwise_map.2 (m.sorted.imp compareOfLessAndEq_eq_lt.1)

/-- No key is listed twice. -/
theorem nodup_keys (m : Index κ α) : m.keys.Nodup := by
  refine List.pairwise_map.2 (m.sorted.imp fun {a b} hab heq => ?_)
  simp [heq, Std.ReflCmp.compare_self] at hab

/-! ## Counting -/

/-- The keys under which `x` is kept. -/
def holding (m : Index κ α) (x : α) : Set κ := {k | m.get? k = some x}

/-- The entries whose values pass a test are as many as the keys under which such a value is
kept.

**Proof sketch.** The set is that of the keys of the entries that pass, and these are distinct since
all keys are. -/
theorem ncard_setOf_get? (m : Index κ α) (p : α → Bool) :
    {k | ∃ x, m.get? k = some x ∧ p x}.ncard = (m.entries.filter fun e => p e.2).length := by
  classical
  have hnodup : ((m.entries.filter fun e => p e.2).map (·.1)).Nodup :=
    m.nodup_keys.sublist (List.filter_sublist.map _)
  have hset : {k | ∃ x, m.get? k = some x ∧ p x} =
      ((m.entries.filter fun e => p e.2).map (·.1)).toFinset := by
    ext k
    simp only [Set.mem_ofPred_eq, List.coe_toFinset, List.mem_map, List.mem_filter, Prod.exists,
      exists_and_right, exists_eq_right, mem_entries_iff]
  rw [hset, Set.ncard_coe_finset, List.toFinset_card_of_nodup hnodup, List.length_map]

/-- **A value is listed as often as there are keys for it.** -/
theorem ncard_holding [BEq α] [LawfulBEq α] (m : Index κ α) (x : α) :
    (m.holding x).ncard = (m.values.filter (· == x)).length := by
  have hset : m.holding x = {k | ∃ y, m.get? k = some y ∧ (y == x)} := by
    ext k
    simp [holding]
  rw [hset, ncard_setOf_get?, values, List.filter_map, List.length_map]
  rfl

/-- **The size is the number of keys.** -/
theorem ncard_contains (m : Index κ α) : {k | m.contains k}.ncard = m.size := by
  have hset : {k | m.contains k} = {k | ∃ x, m.get? k = some x ∧ (fun _ => true) x} := by
    ext k
    simp [contains, Option.isSome_iff_exists]
  rw [hset, ncard_setOf_get?, List.filter_true, size]

/-- An index has finitely many keys. -/
theorem finite_contains (m : Index κ α) : {k | m.contains k}.Finite := by
  refine (List.finite_toSet m.keys).subset fun k hk => ?_
  exact (m.mem_keys_iff k).2 hk

omit [Std.LawfulEqOrd κ] in
/-- A key that holds a value is a key of the index. -/
theorem holding_subset (m : Index κ α) (x : α) : m.holding x ⊆ {k | m.contains k} := by
  intro k hk
  simp only [holding, Set.mem_ofPred_eq] at hk
  simp [contains, hk]

/-- A value is held by finitely many keys. -/
theorem finite_holding (m : Index κ α) (x : α) : (m.holding x).Finite :=
  m.finite_contains.subset (m.holding_subset x)

/-- No value is kept under more keys than there are. -/
theorem ncard_holding_le (m : Index κ α) (x : α) : (m.holding x).ncard ≤ m.size := by
  rw [← ncard_contains]
  exact Set.ncard_le_ncard (m.holding_subset x) m.finite_contains

omit [Std.LawfulEqOrd κ] in
/-- A filter adds nothing. -/
theorem size_filter_le (m : Index κ α) (p : κ → α → Bool) : (m.filter p).size ≤ m.size :=
  List.length_filter_le _ _

/-! ## Other values -/

/-- The index with other values under the same keys. -/
def map (m : Index κ α) (f : κ → α → β) : Index κ β where
  entries := m.entries.map fun e => (e.1, f e.1 e.2)
  sorted := List.pairwise_map.2 m.sorted

/-- Mapping the values maps what is found. -/
theorem get?_map (m : Index κ α) (f : κ → α → β) (k : κ) :
    (m.map f).get? k = (m.get? k).map (f k) := by
  ext y
  rw [← mem_entries_iff, Option.map_eq_some_iff]
  simp only [map, List.mem_map, Prod.exists, Prod.mk.injEq, mem_entries_iff]
  constructor
  · rintro ⟨_, x, hx, rfl, rfl⟩
    exact ⟨x, hx, rfl⟩
  · rintro ⟨x, hx, rfl⟩
    exact ⟨k, x, hx, rfl, rfl⟩

omit [Std.LawfulEqOrd κ] in
/-- Mapping the values leaves the keys as they are. -/
@[simp]
theorem keys_map (m : Index κ α) (f : κ → α → β) : (m.map f).keys = m.keys := by
  simp [map, keys, Function.comp_def]

end Lawful

section Ordered

variable [Std.TransOrd κ] [Std.LawfulEqOrd κ]

omit [Std.TransOrd κ] [Std.LawfulEqOrd κ] in
/-- An insertion makes a list longer by one entry at most. -/
theorem length_insertEntry_le (k : κ) (x : α) (l : List (κ × α)) :
    (insertEntry k x l).length ≤ l.length + 1 := by
  induction l with
  | nil => exact Nat.le_refl _
  | cons e rest ih =>
    rw [insertEntry]
    split <;> simp only [List.length_cons] <;> omega

/-- An insertion adds one key at most. -/
theorem size_insert_le (m : Index κ α) (k : κ) (x : α) : (m.insert k x).size ≤ m.size + 1 :=
  length_insertEntry_le k x m.entries

/-- After an insertion its key is there, and the others are as before. -/
theorem contains_insert (m : Index κ α) (k k' : κ) (x : α) [DecidableEq κ] :
    (m.insert k x).contains k' = (k' = k || m.contains k') := by
  by_cases h : k' = k <;> simp [contains, get?_insert, h]

/-! ## Building an index -/

/-- The last pair of a list is put in last. -/
theorem ofList_append_singleton (l : List (κ × α)) (e : κ × α) :
    ofList (l ++ [e]) = (ofList l).insert e.1 e.2 := by
  simp [ofList]

/-- What the index of a list finds is in the list.

**Proof sketch.** By induction on the list from its end: what is found was put in last, or was found
before. -/
theorem mem_of_get?_ofList {l : List (κ × α)} {k : κ} {x : α} [DecidableEq κ]
    (h : (ofList l).get? k = some x) : (k, x) ∈ l := by
  induction l using List.reverseRecOn with
  | nil => cases h
  | append_singleton l e ih =>
    rw [ofList_append_singleton, get?_insert] at h
    split at h
    next hk =>
      obtain rfl := Option.some.inj h
      exact List.mem_append_right l (List.mem_singleton.2 (Prod.ext hk rfl))
    next => exact List.mem_append_left _ (ih h)

/-- **The index of a list of pairs** with distinct keys finds exactly those pairs.

**Proof sketch.** By induction on the list from its end. The key of the last pair is none of those
before it, so its insertion changes no other look-up. -/
theorem get?_ofList_eq_some_iff {l : List (κ × α)} (hl : (l.map (·.1)).Nodup) (k : κ) (x : α) :
    (ofList l).get? k = some x ↔ (k, x) ∈ l := by
  classical
  induction l using List.reverseRecOn with
  | nil => simp [ofList]
  | append_singleton l e ih =>
    obtain ⟨k', x'⟩ := e
    rw [List.map_append, List.nodup_append] at hl
    obtain ⟨hnodup, -, hdisjoint⟩ := hl
    rw [ofList_append_singleton, get?_insert]
    by_cases hk : k = k'
    · subst hk
      have hnot : (k, x) ∉ l := fun hmem =>
        hdisjoint k (List.mem_map_of_mem (f := (·.1)) hmem) k (by simp) rfl
      simp [hnot, eq_comm]
    · simp [hk, ih hnodup]

/-- The index of the entries of an index is the index. -/
theorem ofList_entries (m : Index κ α) : ofList m.entries = m := by
  classical
  refine ext_get? fun k => Option.ext fun x => ?_
  rw [get?_ofList_eq_some_iff m.nodup_keys, mem_entries_iff]

/-- The index of a list whose items tell their own keys and values. -/
theorem get?_ofList_map {γ : Type*} {l : List γ} (f : γ → κ) (g : γ → α) (hl : (l.map f).Nodup)
    (k : κ) (x : α) :
    (ofList (l.map fun a => (f a, g a))).get? k = some x ↔ ∃ a ∈ l, f a = k ∧ g a = x := by
  have hnodup : ((l.map fun a => (f a, g a)).map (·.1)).Nodup := by
    rw [List.map_map]
    exact hl
  rw [get?_ofList_eq_some_iff hnodup, List.mem_map]
  simp only [Prod.mk.injEq]

/-- Other values may be taken before or after the index is built.

**Proof sketch.** By induction on the list from its end, comparing the look-ups after the last
insertion. -/
theorem ofList_map_values (l : List (κ × α)) (g : α → β) :
    ofList (l.map fun e => (e.1, g e.2)) = (ofList l).map fun _ => g := by
  classical
  induction l using List.reverseRecOn with
  | nil => rfl
  | append_singleton l e ih =>
    rw [List.map_append, List.map_singleton, ofList_append_singleton, ofList_append_singleton, ih]
    refine ext_get? fun k => ?_
    rw [get?_insert, get?_map, get?_map, get?_insert]
    split <;> rfl

/-- **The same keys are listed in the same order.**

**Proof sketch.** Without their values both indexes have the same look-ups, so they are equal then,
and the keys are the same as before. -/
theorem keys_eq_of_contains {a : Index κ α} {b : Index κ β}
    (h : ∀ k, a.contains k = b.contains k) : a.keys = b.keys := by
  have hunit : a.map (fun _ _ => ()) = b.map fun _ _ => () := by
    refine ext_get? fun k => ?_
    have hk := h k
    rw [contains, contains] at hk
    rw [get?_map, get?_map]
    cases ha : a.get? k <;> cases hb : b.get? k <;> simp [ha, hb] at hk ⊢
  rw [← keys_map a fun _ _ => (), hunit, keys_map]

end Ordered

end FleetStatus.Index
