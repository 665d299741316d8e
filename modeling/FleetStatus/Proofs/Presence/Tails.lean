import FleetStatus.Proofs.Presence.History
import FleetStatus.Proofs.Text.Digits

set_option relaxedAutoImplicit false
set_option autoImplicit false

/-!
# Tails of the log

A tail reads the log again and again. It keeps nothing but a cursor in text: it starts at the end
of the log or at its origin, and after each reading the cursor is the one of the last entry that the
reading gave. Operations of any kind may happen between two readings, and several tails may read
one log.

The log has a bounded length, so a tail that reads too seldom misses entries: at each reading the
oldest ones that it has not read, as many as the log has dropped. What it does read comes in order,
and nothing comes twice.

A reading that waits for entries gives what is there when the waiting ends, so it is taken as a
reading at that moment.

## Main definitions

* `FleetStatus.entriesBetween` — the entries of a history after one place up to another.
* `FleetStatus.Reading`, `FleetStatus.Tail` — one reading, and all readings of one tail.
* `FleetStatus.Tailing`, `FleetStatus.Tailing.run` — a store with its tails, and what happens to it.
* `FleetStatus.Tail.Exact`, `FleetStatus.Tailing.Exact` — what tails read, told by the history.

## Main results

* `FleetStatus.cursorOfText_cursorText` — a cursor in text reads back as its place.
* `FleetStatus.Store.HasHistory.readAfter` — what one reading gives, also after the log dropped
  entries.
* `FleetStatus.Tailing.exact_run` — in every run, every tail reads exactly what the log keeps for
  it, in order and once.
-/

namespace FleetStatus

/-! ## Cursors in text -/

/-- **A cursor in text reads back as its place.**

**Proof sketch.** The text is the decimal digits, a dash and a zero. What stands before the dash is
read as a number, and the digits of a number in range are read as that number. -/
theorem cursorOfText_cursorText {n : Nat} (h : n < UInt64.size) :
    cursorOfText (cursorText n) = n := by
  have hchars : (cursorText n).toList = Nat.toDigits 10 n ++ ['-', '0'] := by
    simp [cursorText, Nat.toString_eq_repr, Nat.toList_repr]
  have hdigits : (cursorText n).toList.takeWhile (· ≠ '-') = Nat.toDigits 10 n := by
    rw [hchars, List.takeWhile_append_of_pos]
    · simp
    · intro c hc
      have hdigit := Text.Digits.isDigit_of_mem_toDigits hc
      refine decide_eq_true fun hdash => ?_
      simp [hdash] at hdigit
  have hplain : plainNumber? (Nat.toDigits 10 n) = some n := by
    unfold plainNumber?
    split
    next hplus =>
      have hdigit := Text.Digits.isDigit_of_mem_toDigits (hplus ▸ List.mem_cons_self)
      simp at hdigit
    next => exact Text.Digits.value?_toDigits h
  rw [cursorOfText, hdigits, hplain, Option.getD_some]

/-- Entries as a reading lists them: each with the text of the cursor after it. -/
def listed (entries : List (Nat × Event)) : List (String × Event) :=
  entries.map fun e => (cursorText e.1, e.2)

/-- Entries are listed one after the other. -/
@[simp]
theorem listed_append (entries entries' : List (Nat × Event)) :
    listed (entries ++ entries') = listed entries ++ listed entries' := List.map_append

/-- Every entry is listed. -/
@[simp]
theorem length_listed (entries : List (Nat × Event)) :
    (listed entries).length = entries.length := List.length_map _

/-- A part of the entries is listed as a part of the list. -/
theorem listed_sublist {entries entries' : List (Nat × Event)} (h : entries.Sublist entries') :
    (listed entries).Sublist (listed entries') := h.map _

/-! ## Parts of a history -/

/-- The **entries between** two places of a history: the ones after entry `from_` up to entry
`upTo`, with their numbers. -/
def entriesBetween (events : List Event) (from_ upTo : Nat) : List (Nat × Event) :=
  numbered from_ ((events.take upTo).drop from_)

section Between

variable {events : List Event} {a b c k : Nat}

/-- A part of a history has as many entries as there are places in it. -/
theorem length_entriesBetween (hb : b ≤ events.length) :
    (entriesBetween events a b).length = b - a := by
  rw [entriesBetween, length_numbered, List.length_drop, List.length_take, Nat.min_eq_left hb]

/-- The entries of a part of a history have their numbers in it. -/
theorem mem_entriesBetween {e : Nat × Event} (h : e ∈ entriesBetween events a b) :
    a < e.1 ∧ e.1 ≤ b := by
  have hmem := mem_numbered h
  rw [List.length_drop, List.length_take] at hmem
  omega

/-- A part that ends where it starts, or before, is empty. -/
theorem entriesBetween_of_le (h : b ≤ a) : entriesBetween events a b = [] := by
  rw [entriesBetween, List.drop_of_length_le (by rw [List.length_take]; omega), numbered_nil]

/-- Two parts of a history that meet make one.

**Proof sketch.** A list without its first `a` elements is cut at the place `b`; what comes first
ends at `b`, so that the numbers go on from there. -/
theorem entriesBetween_append (hab : a ≤ b) (hbc : b ≤ c) (hb : b ≤ events.length) :
    entriesBetween events a b ++ entriesBetween events b c = entriesBetween events a c := by
  have hsplit : (events.take c).drop a =
      (events.take b).drop a ++ (events.take c).drop b := by
    have hfirst : events.take b = (events.take c).take b := by rw [List.take_take, min_eq_left hbc]
    rw [hfirst]
    conv_lhs => rw [← List.take_append_drop b (events.take c)]
    exact List.drop_append_of_le_length (by rw [List.length_take, List.length_take]; omega)
  have hlength : a + ((events.take b).drop a).length = b := by
    rw [List.length_drop, List.length_take]
    omega
  rw [entriesBetween, entriesBetween, entriesBetween, hsplit, numbered_append, hlength]

/-- What a history prolongs does not change its parts. -/
theorem entriesBetween_prolong (hb : b ≤ events.length) (more : List Event) :
    entriesBetween (events ++ more) a b = entriesBetween events a b := by
  rw [entriesBetween, entriesBetween, List.take_append_of_le_length hb]

/-- The first entries of a part of a history are a part of it. -/
theorem take_entriesBetween :
    (entriesBetween events a b).take k = entriesBetween events a (min b (a + k)) := by
  rw [entriesBetween, entriesBetween, take_numbered, List.take_drop, List.take_take, min_comm]

/-- The entries of a part of a history that come after a place are a part of it.

**Proof sketch.** The entries are numbered in order, so those after the place `k` are all but the
first `k - a`. -/
theorem filter_gt_entriesBetween :
    (entriesBetween events a b).filter (·.1 > k) = entriesBetween events (max a k) b := by
  obtain hle | hgt := Nat.le_total k a
  · rw [max_eq_left hle]
    exact List.filter_eq_self.2 fun e he =>
      decide_eq_true (Nat.lt_of_le_of_lt hle (mem_entriesBetween he).1)
  · have hfilter := filter_numbered a (k - a) ((events.take b).drop a)
    rw [Nat.add_sub_cancel' hgt, List.drop_drop, Nat.add_sub_cancel' hgt] at hfilter
    rw [max_eq_right hgt]
    exact hfilter

/-- The last entry of a part of a history is the one that the part reaches up to. -/
theorem getLast?_entriesBetween (hab : a < b) (hb : b ≤ events.length) :
    (entriesBetween events a b).getLast?.map (·.1) = some b := by
  have hlast := getLast?_numbered a ((events.take b).drop a)
  rw [List.length_drop, List.length_take, min_eq_left hb, Nat.add_sub_cancel' hab.le] at hlast
  have hsome : (entriesBetween events a b).getLast?.isSome := by
    rw [List.getLast?_isSome, ← List.length_pos_iff, length_entriesBetween hb]
    omega
  obtain ⟨e, he⟩ := Option.isSome_iff_exists.1 hsome
  rw [entriesBetween] at he ⊢
  rw [he] at hlast ⊢
  exact congrArg some hlast

/-- The entries of a part of a history are numbered without a gap. -/
theorem map_fst_entriesBetween (hb : b ≤ events.length) :
    (entriesBetween events a b).map (·.1) = List.range' (a + 1) (b - a) := by
  simp [entriesBetween, numbered, Function.comp_def, min_eq_left hb]

/-- A part of a history is a part of the whole. -/
theorem entriesBetween_sublist (hb : b ≤ events.length) :
    (entriesBetween events a b).Sublist (entriesBetween events 0 events.length) := by
  obtain hle | hlt := Nat.le_total b a
  · rw [entriesBetween_of_le hle]
    exact List.nil_sublist _
  · rw [← entriesBetween_append (Nat.zero_le b) hb hb,
      ← entriesBetween_append (Nat.zero_le a) hlt (hlt.trans hb)]
    exact (List.sublist_append_right _ _).trans (List.sublist_append_left _ _)

/-- The cursors of fewer entries than a cursor can number are all different.

**Proof sketch.** The numbers of the entries are different, and cursors of different numbers that
can be told are different since they read back. -/
theorem nodup_listed_entriesBetween (hb : b < UInt64.size) :
    (listed (entriesBetween events a b)).Nodup := by
  have hnumbers : ((entriesBetween events a b).map (·.1)).Nodup := by
    simp [entriesBetween, numbered, Function.comp_def, List.nodup_range']
  refine List.Nodup.map_on (fun e he e' he' heq => ?_) hnumbers.of_map
  have hle := (mem_entriesBetween he).2
  have hle' := (mem_entriesBetween he').2
  obtain ⟨htext, hevent⟩ := Prod.mk.inj heq
  have hnumber := congrArg cursorOfText htext
  rw [cursorOfText_cursorText (by omega), cursorOfText_cursorText (by omega)] at hnumber
  exact Prod.ext hnumber hevent

/-- The elements that a part of a list without repetitions has in common with another.

**Proof sketch.** By induction on how the one list is part of the other. An element that is left out
does not occur in the part, as it occurs only once in the whole. -/
theorem filter_mem_of_sublist {α : Type} [BEq α] [LawfulBEq α] {l whole : List α}
    (h : l.Sublist whole) (hnodup : whole.Nodup) : whole.filter (· ∈ l) = l := by
  induction h with
  | slnil => rfl
  | @cons l whole x h ih =>
    obtain ⟨hx, hrest⟩ := List.nodup_cons.1 hnodup
    have hout : x ∉ l := fun hmem => hx (h.subset hmem)
    rw [List.filter_cons_of_neg (by simpa using hout), ih hrest]
  | @cons_cons l whole x h ih =>
    obtain ⟨hx, hrest⟩ := List.nodup_cons.1 hnodup
    have hcongr : whole.filter (· ∈ x :: l) = whole.filter (· ∈ l) :=
      List.filter_congr fun y hy => by
        have hne : y ≠ x := fun heq => hx (heq ▸ hy)
        simp [hne]
    rw [List.filter_cons_of_pos (by simp), hcongr, ih hrest]

/-- Two parts of a list without repetitions have what is in both in the same order.

**Proof sketch.** Each of the two is what the whole list has in common with it, so both sides are
what the whole list has in common with both. -/
theorem filter_mem_comm_of_sublist {α : Type} [BEq α] [LawfulBEq α] {l l' whole : List α}
    (h : l.Sublist whole) (h' : l'.Sublist whole) (hnodup : whole.Nodup) :
    l.filter (· ∈ l') = l'.filter (· ∈ l) := by
  calc l.filter (· ∈ l')
      = (whole.filter (· ∈ l)).filter (· ∈ l') := by rw [filter_mem_of_sublist h hnodup]
    _ = (whole.filter (· ∈ l')).filter (· ∈ l) := by
        rw [List.filter_filter, List.filter_filter]
        exact List.filter_congr fun x _ => Bool.and_comm _ _
    _ = l'.filter (· ∈ l) := by rw [filter_mem_of_sublist h' hnodup]

end Between

/-! ## Reading the log by cursors -/

namespace Store

variable {s : Store} {events : List Event}

/-- No operation changes how many entries the log keeps. -/
theorem capacity_perform (s : Store) (op : Operation) : (s.perform op).capacity = s.capacity := by
  refine perform_of_effect (P := fun t => t.capacity = s.capacity) rfl ?_
  cases op with
  | join p => exact joined_frame (·.capacity) (fun _ _ _ _ _ _ => rfl) s p
  | leave uuid id => exact left_frame (·.capacity) (fun _ _ _ _ _ _ => rfl) s uuid id
  | fetch now => exact healed_frame (·.capacity) (fun _ _ => rfl) s
  | register | unregister | heartbeat | expire | close => rfl

/-- **A place by its number reads the same entries as its cursor in text**, so a member that follows
the log by numbers is a tail of it. -/
theorem readAfter_cursorText {n : Nat} (hn : n < UInt64.size) (most : Nat) :
    s.readAfter (cursorText n) most = (s.entriesAfter n most).map listed := by
  rw [Store.readAfter, cursorOfText_cursorText hn]
  rfl

/-- The log is the last part of its history. -/
theorem HasHistory.log_eq_entriesBetween (h : s.HasHistory events) :
    s.log = entriesBetween events (events.length - s.capacity) events.length := by
  rw [h.log_eq, drop_numbered, Nat.zero_add, entriesBetween, List.take_length]

/-- **What one reading gives**: the first entries after its cursor that the log still keeps.

**Proof sketch.** The log is the last part of the history, and those of its entries that come after
the cursor are a part again. -/
theorem HasHistory.readAfter (h : s.HasHistory events) (hopen : s.closed = false)
    (cursor : String) (most : Nat) :
    s.readAfter cursor most = .ok (listed ((entriesBetween events
      (max (cursorOfText cursor) (events.length - s.capacity)) events.length).take most)) := by
  have hkept : s.log.filter (·.1 > cursorOfText cursor) = entriesBetween events
      (max (cursorOfText cursor) (events.length - s.capacity)) events.length := by
    rw [h.log_eq_entriesBetween, filter_gt_entriesBetween, max_comm]
  simp only [Store.readAfter, Store.entriesAfter, whenOpen, hopen, Bool.false_eq_true, if_false,
    hkept, Except.map, listed]

end Store

/-! ## Tails -/

/-- One **reading** of the log. -/
structure Reading where
  /-- The cursor it was made with. -/
  cursor : String
  /-- The most entries that it gives. -/
  most : Nat
  /-- How many entries had been appended when it was made. -/
  appended : Nat
  /-- What it gave: events with the cursors after them. -/
  batch : List (String × Event)
  deriving DecidableEq

namespace Reading

/-- The entry that the reading started after. -/
def place (r : Reading) : Nat := cursorOfText r.cursor

/-- The cursor after the reading: the one of the last entry it gave. -/
def next (r : Reading) : String := (r.batch.getLast?.map (·.1)).getD r.cursor

/-- What a reading gives when the log keeps `capacity` entries: the first entries after its place
that the log had not dropped. -/
def Exact (capacity : Nat) (events : List Event) (r : Reading) : Prop :=
  r.batch = listed
    ((entriesBetween events (max r.place (r.appended - capacity)) r.appended).take r.most)

variable {capacity : Nat} {events : List Event} {r : Reading}

/-- Where an exact reading stops: it gives the entries from its place on, without the dropped ones,
up to the one that its next cursor stands for.

**Proof sketch.** An exact reading gives the first entries of a part of the history, which are a
part. If it gives any, its next cursor is that of the last one and reads back as the end of the
part; if not, the cursor stays. -/
theorem Exact.reached (h : r.Exact capacity events) (happended : r.appended ≤ events.length)
    (hplace : r.place ≤ r.appended) (hfew : events.length < UInt64.size) :
    r.place ≤ cursorOfText r.next ∧ cursorOfText r.next ≤ r.appended ∧
      r.batch = listed (entriesBetween events (max r.place (r.appended - capacity))
        (cursorOfText r.next)) := by
  rw [Exact, take_entriesBetween] at h
  generalize hfirst : max r.place (r.appended - capacity) = first at h ⊢
  generalize hupTo : min r.appended (first + r.most) = upTo at h
  obtain hle | hlt := Nat.lt_or_ge first upTo |>.symm
  · rw [entriesBetween_of_le hle] at h
    have hnext : r.next = r.cursor := by rw [next, h]; rfl
    rw [hnext, h]
    have hfrom : cursorOfText r.cursor ≤ first := hfirst ▸ Nat.le_max_left _ _
    exact ⟨le_rfl, hplace, by rw [entriesBetween_of_le hfrom]⟩
  · have hlast : (entriesBetween events first upTo).getLast?.map (·.1) = some upTo :=
      getLast?_entriesBetween hlt (by omega)
    have hnext : r.next = cursorText upTo := by
      rw [next, h, listed, List.getLast?_map, Option.map_map]
      rw [Option.map_eq_some_iff] at hlast
      obtain ⟨e, he, hnumber⟩ := hlast
      rw [he, ← hnumber]
      rfl
    rw [hnext, cursorOfText_cursorText (by omega)]
    exact ⟨by omega, by omega, h⟩

/-- **A reading of fewer entries than it may give has reached the end of the log.**

**Proof sketch.** The entries that are given end at the next cursor. Were there more, the reading
would have given as many as it may. -/
theorem Exact.caughtUp (h : r.Exact capacity events) (hcapacity : 0 < capacity)
    (happended : r.appended ≤ events.length) (hplace : r.place ≤ r.appended)
    (hfew : events.length < UInt64.size) (hshort : r.batch.length < r.most) :
    cursorOfText r.next = r.appended := by
  obtain ⟨hfrom, hupTo, hbatch⟩ := h.reached happended hplace hfew
  have hlength : r.batch.length = cursorOfText r.next - max r.place (r.appended - capacity) := by
    rw [hbatch, length_listed, length_entriesBetween (hupTo.trans happended)]
  have hasked : r.batch.length =
      min r.most (r.appended - max r.place (r.appended - capacity)) := by
    rw [h, length_listed, List.length_take, length_entriesBetween happended]
  omega

end Reading

/-- A **tail** of the log: its cursor and what came of its readings. -/
structure Tail where
  /-- The cursor it started with. -/
  start : String
  /-- How many entries it was not to read: none from the origin, and from the end of the log all
  that had been appended. -/
  passed : Nat
  cursor : String := start
  /-- Its readings, oldest first. -/
  readings : List Reading := []
  deriving DecidableEq

namespace Tail

/-- The entry that the next reading starts after. -/
def place (t : Tail) : Nat := cursorOfText t.cursor

/-- All that the tail was given. -/
def given (t : Tail) : List (String × Event) := t.readings.flatMap (·.batch)

/-- The tail after one more reading. -/
def took (t : Tail) (r : Reading) : Tail :=
  { t with cursor := r.next, readings := t.readings ++ [r] }

/-- Whether an entry was **missed**: at some reading it was unread and the log had dropped it. -/
def Missed (capacity : Nat) (t : Tail) (n : Nat) : Prop :=
  ∃ r ∈ t.readings, r.place < n ∧ n + capacity ≤ r.appended

instance (capacity : Nat) (t : Tail) (n : Nat) : Decidable (t.Missed capacity n) :=
  inferInstanceAs (Decidable (∃ r ∈ t.readings, r.place < n ∧ n + capacity ≤ r.appended))

/-- **A tail is exact** when its readings give, in order and once, the entries after its start that
it did not miss. -/
structure Exact (capacity : Nat) (events : List Event) (t : Tail) : Prop where
  /-- The cursor of the start comes before the first entry to read. -/
  start_eq : cursorOfText t.start = t.passed
  /-- The cursor is that of the last entry that was given. -/
  cursor_eq : t.cursor = (t.given.getLast?.map (·.1)).getD t.start
  passed_le : t.passed ≤ t.place
  place_le : t.place ≤ events.length
  appended_le : ∀ r ∈ t.readings, r.appended ≤ events.length
  /-- Each reading misses the oldest unread entries only. -/
  readings : ∀ r ∈ t.readings, r.Exact capacity events
  /-- A reading of fewer entries than it may give has reached the end of the log. -/
  caughtUp : ∀ r ∈ t.readings, r.batch.length < r.most → cursorOfText r.next = r.appended
  given_eq : t.given = listed
    ((entriesBetween events t.passed t.place).filter fun e => !decide (t.Missed capacity e.1))
  /-- A tail that reads often enough is given every entry. -/
  whole : (∀ r ∈ t.readings, r.appended ≤ r.place + capacity) →
    t.given = listed (entriesBetween events t.passed t.place)

section Readings

variable {capacity : Nat} {events : List Event} {t : Tail}

/-- A tail that reads before the log drops unread entries misses none. -/
theorem not_missed (h : ∀ r ∈ t.readings, r.appended ≤ r.place + capacity) (n : Nat) :
    ¬t.Missed capacity n := by
  rintro ⟨r, hr, hunread, hdropped⟩
  have := h r hr
  omega

/-- What a tail is given in whole follows from what it is given but for missed entries. -/
theorem whole_of_given_eq
    (h : t.given = listed
      ((entriesBetween events t.passed t.place).filter fun e => !decide (t.Missed capacity e.1)))
    (hoften : ∀ r ∈ t.readings, r.appended ≤ r.place + capacity) :
    t.given = listed (entriesBetween events t.passed t.place) := by
  rw [h, List.filter_eq_self.2 fun e _ => by simpa using not_missed hoften e.1]

/-- A tail that did not read yet is exact. -/
theorem exact_of_start {start : String} {passed : Nat} (hstart : cursorOfText start = passed)
    (hpassed : passed ≤ events.length) : Exact capacity events { start, passed } where
  start_eq := hstart
  cursor_eq := rfl
  passed_le := hstart.ge
  place_le := hstart.trans_le hpassed
  appended_le := by simp
  readings := by simp
  caughtUp := by simp
  given_eq := by simp [place, hstart, entriesBetween_of_le, given, listed]
  whole := by simp [place, hstart, entriesBetween_of_le, given, listed]

/-- Further entries do not change what was read.

**Proof sketch.** Every place up to which something was read is in the history as it was, and its
parts up to there do not change. -/
theorem Exact.prolong (h : t.Exact capacity events) (more : List Event) :
    t.Exact capacity (events ++ more) where
  start_eq := h.start_eq
  cursor_eq := h.cursor_eq
  passed_le := h.passed_le
  place_le := by
    have := h.place_le
    rw [List.length_append]
    omega
  appended_le r hr := by
    have := h.appended_le r hr
    rw [List.length_append]
    omega
  readings r hr := by
    rw [Reading.Exact, entriesBetween_prolong (h.appended_le r hr)]
    exact h.readings r hr
  caughtUp := h.caughtUp
  given_eq := by rw [entriesBetween_prolong h.place_le, h.given_eq]
  whole hoften := by rw [entriesBetween_prolong h.place_le, h.whole hoften]

/-- A reading gives its batch after what was given before. -/
theorem given_took (t : Tail) (r : Reading) : (t.took r).given = t.given ++ r.batch := by
  simp [given, took]

/-- A tail misses what it missed before, and what the log dropped before the reading. -/
theorem missed_took {r : Reading} {n : Nat} :
    (t.took r).Missed capacity n ↔
      t.Missed capacity n ∨ r.place < n ∧ n + capacity ≤ r.appended := by
  simp [Missed, took, or_and_right, exists_or]

/-- The entries that a tail was to read are those before a reading and those of the reading, without
the missed ones.

**Proof sketch.** The entries up to the place of the tail come before those that the reading could
drop, so of them the same are missed as before. Of the later ones those are missed that the log does
not keep any more. -/
theorem Exact.filter_took (h : t.Exact capacity events) {r : Reading}
    (hcursor : r.cursor = t.cursor) (happended : r.appended = events.length) {upTo : Nat}
    (hplace : t.place ≤ upTo) :
    (entriesBetween events t.passed upTo).filter
        (fun e => !decide ((t.took r).Missed capacity e.1)) =
      (entriesBetween events t.passed t.place).filter (fun e => !decide (t.Missed capacity e.1)) ++
        entriesBetween events (max t.place (events.length - capacity)) upTo := by
  have hr : r.place = t.place := congrArg cursorOfText hcursor
  rw [← entriesBetween_append h.passed_le hplace h.place_le, List.filter_append]
  congr 1
  · -- before the place of the reading nothing is missed anew
    refine List.filter_congr fun e he => ?_
    have hle := (mem_entriesBetween he).2
    have hnew : ¬(r.place < e.1 ∧ e.1 + capacity ≤ r.appended) := by omega
    simp [missed_took, hnew]
  · -- after it, what is missed is what the log has dropped by now
    rw [← filter_gt_entriesBetween]
    refine List.filter_congr fun e he => ?_
    have hlt := (mem_entriesBetween he).1
    have hiff : (t.took r).Missed capacity e.1 ↔ e.1 + capacity ≤ events.length := by
      rw [missed_took]
      constructor
      · rintro (⟨r', hr', -, hdropped⟩ | ⟨-, hdropped⟩)
        · exact hdropped.trans (h.appended_le r' hr')
        · exact happended ▸ hdropped
      · exact fun hdropped => .inr ⟨by omega, by omega⟩
    rw [Bool.eq_iff_iff]
    simp only [hiff, Bool.not_eq_true', decide_eq_false_iff_not, decide_eq_true_eq]
    omega

/-- **An exact reading keeps a tail exact.**

**Proof sketch.** What is given goes on by the batch, which is the part of the history from the
place of the tail, or from where the log starts if that is later, up to the next cursor
(`Exact.reached`). The entries between are those that the tail missed. -/
theorem Exact.took (h : t.Exact capacity events) (hcapacity : 0 < capacity)
    (hfew : events.length < UInt64.size) {r : Reading} (hr : r.Exact capacity events)
    (hcursor : r.cursor = t.cursor) (happended : r.appended = events.length) :
    (t.took r).Exact capacity events := by
  have hplace : r.place = t.place := congrArg cursorOfText hcursor
  have hbefore : r.place ≤ r.appended := by rw [hplace, happended]; exact h.place_le
  obtain ⟨hfrom, hupTo, hbatch⟩ := hr.reached happended.le hbefore hfew
  rw [happended] at hupTo
  rw [hplace, happended] at hbatch
  rw [hplace] at hfrom
  have hgiven : (t.took r).given = listed
      ((entriesBetween events t.passed (cursorOfText r.next)).filter
        fun e => !decide ((t.took r).Missed capacity e.1)) := by
    rw [given_took, h.given_eq, hbatch, h.filter_took hcursor happended hfrom, listed_append]
  have hall {P : Reading → Prop} (hold : ∀ r' ∈ t.readings, P r') (hnew : P r) :
      ∀ r' ∈ (t.took r).readings, P r' := by
    intro r' hr'
    obtain hmem | heq := List.mem_append.1 hr'
    · exact hold r' hmem
    · exact List.mem_singleton.1 heq ▸ hnew
  exact {
    start_eq := h.start_eq
    cursor_eq := by
      rw [given_took, List.getLast?_append]
      change r.next = (Option.map (fun e : String × Event => e.1) _).getD t.start
      cases hlast : r.batch.getLast? with
      | none => simpa [Reading.next, hlast, hcursor] using h.cursor_eq
      | some e => simp [Reading.next, hlast]
    passed_le := h.passed_le.trans hfrom
    place_le := hupTo
    appended_le := hall h.appended_le happended.le
    readings := hall h.readings hr
    caughtUp := hall h.caughtUp (hr.caughtUp hcapacity happended.le hbefore hfew)
    given_eq := hgiven
    whole := whole_of_given_eq hgiven }

/-- **What a tail is given is a part of the log's history**, in its order.

**Proof sketch.** What a tail is given is a part of the history without some of its entries. -/
theorem Exact.given_sublist (h : t.Exact capacity events) :
    t.given.Sublist (listed (entriesBetween events 0 events.length)) := by
  rw [h.given_eq]
  refine listed_sublist ?_
  have hpart := entriesBetween_sublist (a := t.passed) h.place_le
  exact List.filter_sublist.trans hpart

end Readings

end Tail

/-! ## A log with tails -/

/-- A store, and the tails of its log. -/
structure Tailing where
  store : Store
  /-- All events that were appended to the log, oldest first. -/
  events : List Event := []
  tails : List Tail := []
  deriving DecidableEq

namespace Tailing

/-- What happens to a log with tails. -/
inductive Step where
  /-- An operation on the store. -/
  | operation (op : Store.Operation)
  /-- A tail starts at the origin of the log. -/
  | fromOrigin
  /-- A tail starts at the end of the log. -/
  | fromLatest
  /-- A tail reads. -/
  | read (i most : Nat)
  deriving DecidableEq

/-- A log with its tails after one step. A closed store lets no tail start or read. -/
def step (t : Tailing) : Step → Tailing
  | .operation op =>
    { t with store := t.store.perform op, events := t.events ++ t.store.entriesOf op }
  | .fromOrigin => { t with tails := t.tails ++ [{ start := cursorText 0, passed := 0 }] }
  | .fromLatest =>
    match t.store.latestCursor with
    | .ok start => { t with tails := t.tails ++ [{ start, passed := t.events.length }] }
    | .error _ => t
  | .read i most =>
    match t.tails[i]? with
    | none => t
    | some tail =>
      match t.store.readAfter tail.cursor most with
      | .ok batch =>
        let reading := ⟨tail.cursor, most, t.events.length, batch⟩
        { t with tails := t.tails.set i (tail.took reading) }
      | .error _ => t

/-- A log that keeps `capacity` entries, but at least one, after steps from its beginning. -/
def run (capacity : Nat) (steps : List Step) : Tailing :=
  steps.foldl step { store := .withCapacity capacity }

/-- **Tails are exact**: the log is the end of all that was appended, each tail reads it exactly,
and any two have what both were given in the same order. -/
structure Exact (capacity : Nat) (t : Tailing) : Prop where
  log_events : t.store.log.map (·.2) = t.events.drop (t.events.length - capacity)
  log_numbers : t.store.log.map (·.1) =
    List.range' (t.events.length - capacity + 1) (min capacity t.events.length)
  tails : ∀ tail ∈ t.tails, tail.Exact capacity t.events
  common : ∀ tail ∈ t.tails, ∀ tail' ∈ t.tails,
    tail.given.filter (· ∈ tail'.given) = tail'.given.filter (· ∈ tail.given)

/-- One more step is done after the others. -/
theorem run_concat (capacity : Nat) (steps : List Step) (x : Step) :
    run capacity (steps ++ [x]) = (run capacity steps).step x := List.foldl_append

/-- What every step keeps. -/
structure Sound (capacity : Nat) (t : Tailing) : Prop where
  history : t.store.HasHistory t.events
  capacity_eq : t.store.capacity = capacity
  tails : ∀ tail ∈ t.tails, tail.Exact capacity t.events

variable {capacity : Nat} {t : Tailing}

/-- A further tail that is exact at its start does no harm. -/
theorem Sound.withTail (h : t.Sound capacity) {tail : Tail} (htail : tail.Exact capacity t.events) :
    Sound capacity { t with tails := t.tails ++ [tail] } where
  history := h.history
  capacity_eq := h.capacity_eq
  tails tail' hmem := by
    obtain hold | hnew := List.mem_append.1 hmem
    · exact h.tails tail' hold
    · exact List.mem_singleton.1 hnew ▸ htail

/-- **Every step keeps the tails exact**, as long as the entries can be numbered.

**Proof sketch.** By cases on the step. An operation prolongs the history and leaves the readings
exact, a new tail is exact at its start, and a reading gives the entries after its cursor that the
log still keeps. -/
theorem Sound.step (h : t.Sound capacity) (hfew : t.events.length < UInt64.size) (x : Step) :
    (t.step x).Sound capacity := by
  cases x with
  | operation op =>
    exact {
      history := h.history.perform op
      capacity_eq := (Store.capacity_perform t.store op).trans h.capacity_eq
      tails := fun tail hmem => (h.tails tail hmem).prolong _ }
  | fromOrigin =>
    exact h.withTail (Tail.exact_of_start (cursorOfText_cursorText (by decide)) (Nat.zero_le _))
  | fromLatest =>
    simp only [Tailing.step]
    cases hclosed : t.store.closed with
    | true => simpa [Store.latestCursor, Store.latest, Store.whenOpen, hclosed, Except.map] using h
    | false =>
      rw [Store.latestCursor, h.history.latest hclosed]
      exact h.withTail (Tail.exact_of_start (cursorOfText_cursorText hfew) le_rfl)
  | read i most =>
    simp only [Tailing.step]
    split
    · exact h
    next tail htail =>
      cases hclosed : t.store.closed with
      | true =>
        simpa [Store.readAfter, Store.entriesAfter, Store.whenOpen, hclosed, Except.map] using h
      | false =>
        rw [h.history.readAfter hclosed, h.capacity_eq]
        have hexact := h.tails tail (List.mem_of_getElem? htail)
        have hpos : 0 < capacity := h.capacity_eq ▸ h.history.capacity_pos
        refine { h with tails := fun tail' hmem => ?_ }
        obtain hold | hnew := List.mem_or_eq_of_mem_set hmem
        · exact h.tails tail' hold
        · rw [hnew]
          exact hexact.took hpos hfew rfl rfl rfl

/-- A step only appends to what was appended before. -/
theorem length_events_step (t : Tailing) (x : Step) :
    t.events.length ≤ (t.step x).events.length := by
  cases x with
  | operation op =>
    show _ ≤ (t.events ++ _).length
    rw [List.length_append]
    omega
  | fromOrigin => rfl
  | fromLatest =>
    simp only [step]
    split <;> rfl
  | read i most =>
    simp only [step]
    split
    · rfl
    · split <;> rfl

/-- Every run keeps the tails exact, as long as the entries can be numbered.

**Proof sketch.** By induction on the steps from the end. No step takes back an entry, so the
entries before the last step can be numbered if those after it can. -/
theorem sound_run (capacity : Nat) (steps : List Step)
    (hfew : (run capacity steps).events.length < UInt64.size) :
    (run capacity steps).Sound (max capacity 1) := by
  induction steps using List.reverseRecOn with
  | nil =>
    exact ⟨Store.hasHistory_withCapacity capacity, rfl, by simp [run]⟩
  | append_singleton steps x ih =>
    rw [run_concat] at hfew ⊢
    have hbefore := (length_events_step _ x).trans_lt hfew
    exact (ih hbefore).step hbefore x

/-- **Tails read each entry once and in order.** Whatever operations happen between the readings of
whatever tails, the log keeps the newest entries under consecutive numbers; each tail is given the
entries after its start, without the ones that the log had dropped before it came to them, which
are at each reading the oldest unread ones; and two tails have what both were given in the same
order.

**Proof sketch.** Each step keeps the tails exact: an operation prolongs the history, which changes
none of its parts, and a reading gives the part of the history from its place, or from the oldest
entry that the log keeps, up to the place of its last entry. What any tail was given is so a part
of the history, in which no cursor comes twice. -/
theorem exact_run (capacity : Nat) (steps : List Step)
    (hfew : (run capacity steps).events.length < UInt64.size) :
    (run capacity steps).Exact (max capacity 1) := by
  have h := sound_run capacity steps hfew
  have hlog := h.history.log_eq_entriesBetween
  rw [h.capacity_eq] at hlog
  exact {
    log_events := by rw [hlog, entriesBetween, map_snd_numbered, List.take_length]
    log_numbers := by
      rw [hlog, map_fst_entriesBetween le_rfl]
      congr 1
      omega
    tails := h.tails
    common := fun tail hmem tail' hmem' =>
      filter_mem_comm_of_sublist (h.tails tail hmem).given_sublist
        (h.tails tail' hmem').given_sublist (nodup_listed_entriesBetween hfew) }

/-- The log keeps two entries. The first tail reads one entry, then three more are appended, so that
it misses one of them; the second starts at the end of the log and misses none. -/
theorem exact_run_overrun :
    let beat (n : Int64) : Step :=
      .operation (.heartbeat { serverId := "a", serverName := "A", lastHeartbeat := n })
    let steps : List Step := [.fromOrigin, beat 1, .read 0 1, beat 2, .fromLatest, beat 3, beat 4,
      .read 0 1, .read 1 9, .read 0 9]
    (run 2 steps).events.length < UInt64.size ∧ (run 2 steps).Exact (max 2 1) ∧
      (run 2 steps).tails.map (fun t => t.given.map (·.1)) =
        [["1-0", "3-0", "4-0"], ["3-0", "4-0"]] := by
  intro beat steps
  have hfew : (run 2 steps).events.length < UInt64.size := by decide
  exact ⟨hfew, exact_run 2 steps hfew, by decide +kernel⟩

end Tailing

end FleetStatus
