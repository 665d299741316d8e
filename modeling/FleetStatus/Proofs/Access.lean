import FleetStatus.Access
import FleetStatus.Proofs.Index

set_option relaxedAutoImplicit false
set_option autoImplicit false

/-!
# Which bearer tokens open an endpoint

A request presents bytes, and the table keeps texts. Two texts have the same bytes only if they are
the same, so at most one entry of the table speaks for the bytes that are presented: which entry the
search comes to first does not matter. The empty token is never looked up.

## Main definitions

* `FleetStatus.AccessTable.Grants` — some bytes are those of a token that opens an endpoint.

## Main results

* `FleetStatus.AccessTable.permissionsFor?_eq_some_iff` — whose permissions are found.
* `FleetStatus.AccessTable.allows_iff` — an endpoint may be read if it is open to everyone, or if
  the token opens it.
-/

namespace FleetStatus

/-- **Texts with the same bytes are the same.** -/
theorem Text.utf8_inj {s t : String} : utf8 s = utf8 t ↔ s = t := by
  constructor
  · intro h
    have hread : ofUtf8? (utf8 s) = some t := ofUtf8?_eq_some_iff.2 h.symm
    rw [ofUtf8?_utf8] at hread
    exact Option.some.inj hread
  · intro h
    rw [h]

namespace AccessTable

variable (table : AccessTable) {endpoint : Endpoint} {token : Bytes}

/-- The bytes are those of a token of the table, not the empty one, that opens the endpoint. -/
def Grants (endpoint : Endpoint) (token : Bytes) : Prop :=
  ∃ k p, table.tokens.get? k = some p ∧ k ≠ "" ∧ p.allows endpoint = true ∧ Text.utf8 k = token

/-- The entry that the search comes to. -/
theorem of_find?_eq_some {k : String} {p : Permissions}
    (h : (table.tokens.entries.find? fun e => Text.utf8 e.1 == token) = some (k, p)) :
    table.tokens.get? k = some p ∧ Text.utf8 k = token := by
  have hbytes := List.find?_some h
  refine ⟨?_, eq_of_beq hbytes⟩
  exact (table.tokens.mem_entries_iff k p).1 (List.mem_of_find?_eq_some h)

/-- **Whose permissions are found**: those of the token with these bytes.

**Proof sketch.** The search takes the first entry whose token has the bytes. No other entry has
them too, since texts are told apart by their bytes and the entries by their tokens. -/
theorem permissionsFor?_eq_some_iff {p : Permissions} : table.permissionsFor? token = some p ↔
    ∃ k, table.tokens.get? k = some p ∧ Text.utf8 k = token := by
  rw [permissionsFor?, Option.map_eq_some_iff]
  constructor
  · rintro ⟨⟨k, p'⟩, hfound, hp⟩
    simp only at hp
    subst hp
    exact ⟨k, table.of_find?_eq_some hfound⟩
  · rintro ⟨k, hget, hbytes⟩
    have hmem : (k, p) ∈ table.tokens.entries := (table.tokens.mem_entries_iff k p).2 hget
    have hsome : (table.tokens.entries.find? fun e => Text.utf8 e.1 == token).isSome := by
      rw [List.find?_isSome]
      exact ⟨(k, p), hmem, beq_iff_eq.2 hbytes⟩
    obtain ⟨⟨k', p'⟩, hfound⟩ := Option.isSome_iff_exists.1 hsome
    obtain ⟨hget', hbytes'⟩ := table.of_find?_eq_some hfound
    -- the entry that is found has the same bytes, so it is this one
    have hsame : k' = k := Text.utf8_inj.1 (hbytes'.trans hbytes.symm)
    rw [hsame, hget] at hget'
    exact ⟨(k', p'), hfound, (Option.some.inj hget').symm⟩

/-- The empty token opens nothing, whatever the table says of it. -/
theorem not_grants_nil : ¬table.Grants endpoint [] := by
  rintro ⟨k, p, -, hne, -, hbytes⟩
  exact hne (Text.utf8_inj.1 hbytes)

/-- Bytes that are no text open nothing. -/
theorem not_grants_of_ofUtf8?_eq_none (h : Text.ofUtf8? token = none) :
    ¬table.Grants endpoint token := by
  rintro ⟨k, p, -, -, -, rfl⟩
  rw [Text.ofUtf8?_utf8] at h
  cases h

/-- **Who may read an endpoint**: everyone if it is open, else those who present a token that opens
it.

**Proof sketch.** By cases on the token that is presented. An empty one is passed over by the code
and opens nothing by `not_grants_nil`; for any other the permissions are those of
`permissionsFor?_eq_some_iff`. -/
theorem allows_iff (bearer : Option Bytes) : table.allows endpoint bearer = true ↔
    table.everyone.allows endpoint = true ∨ ∃ token, bearer = some token ∧
      table.Grants endpoint token := by
  unfold allows
  rw [Bool.or_eq_true]
  refine or_congr_right ?_
  cases bearer with
  | none => simp
  | some token =>
    simp only [Option.some.injEq, exists_eq_left']
    cases token with
    | nil => simp [table.not_grants_nil]
    | cons b bs =>
      rw [Option.any_eq_true]
      constructor
      · rintro ⟨p, hfound, hopens⟩
        obtain ⟨k, hget, hbytes⟩ := table.permissionsFor?_eq_some_iff.1 hfound
        refine ⟨k, p, hget, ?_, hopens, hbytes⟩
        rintro rfl
        cases hbytes
      · rintro ⟨k, p, hget, -, hopens, hbytes⟩
        exact ⟨p, table.permissionsFor?_eq_some_iff.2 ⟨k, hget, hbytes⟩, hopens⟩

end AccessTable

end FleetStatus
