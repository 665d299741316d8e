import FleetStatus.Presence.Document
import FleetStatus.Proofs.Json.Values

set_option relaxedAutoImplicit false
set_option autoImplicit false

/-!
# Events survive their text

An entry of the log is kept and sent as text. The text of an event is read as the event, whatever
its strings are, so no two events have one text. Two kinds of events have a field that may be left
out: it is written if there is something to tell, and what is read from an object tells nothing
where the field is missing or `null`, and only there.

## Main definitions

* `FleetStatus.Event.note` — the field that may be left out, and what it tells.
* `FleetStatus.Event.withoutNote` — an event without what its note tells.

## Main results

* `FleetStatus.Event.ofJson?_object` — what is read from an object.
* `FleetStatus.Event.ofText?_toText` — the text of an event is read as the event.
* `FleetStatus.Event.ofJson?_without` — an object without the note of its event.
* `FleetStatus.Event.reads_back_from_text` — the three together.
-/

namespace FleetStatus

namespace Event

/-! ## Documents of events -/

/-- The document of an event is written without a loss. -/
theorem isLossless_toJson (e : Event) : e.toJson.isLossless := by
  cases e with
  | playerJoin uuid username id name previous => cases previous <;> rfl
  | playerLeave uuid id => rfl
  | serverHeartbeat id count max =>
    simp [toJson, fields, Json.isLossless, Json.fieldsLossless, Json.readsBack_u32.lossless]
  | serverOnline id name => rfl
  | serverOffline id reason => cases reason <;> rfl

/-- The document of an event is not nested. -/
theorem depth_toJson (e : Event) : e.toJson.depth = 1 := by
  cases e with
  | playerJoin uuid username id name previous => cases previous <;> rfl
  | playerLeave uuid id => rfl
  | serverHeartbeat id count max => rfl
  | serverOnline id name => rfl
  | serverOffline id reason => cases reason <;> rfl

/-- **What is read from an object**: one field names the kind, and the others are read for it.

**Proof sketch.** The object is read if it is plain and not too deep, and has one field that tells
of the kind. -/
theorem ofJson?_object {fields : List (String × Json)} {e : Event} :
    ofJson? (.object fields) = some e ↔
      ((Json.object fields).isPlain ∧ (Json.object fields).depth ≤ maxDepth) ∧
      ∃ name kind, fields.filter (·.1 == "type") = [(name, .string kind)] ∧
        ofFields? kind (.object (fields.filter (·.1 != "type"))) = some e := by
  constructor
  · intro h
    rw [ofJson?] at h
    split at h
    next hfits =>
      split at h
      next name kind htype => exact ⟨by simpa using hfits, name, kind, htype, h⟩
      next => simp at h
    next => simp at h
  · rintro ⟨⟨hplain, hdepth⟩, name, kind, htype, h⟩
    simp [ofJson?, hplain, hdepth, htype, h]

/-- Each kind finds its fields under the names that they are written with. -/
theorem ofFields?_fields (e : Event) : ofFields? e.kind (.object e.fields) = some e := by
  rcases e with ⟨uuid, username, id, name, _ | previous⟩ | ⟨uuid, id⟩ | ⟨id, count, max⟩ |
      ⟨id, name⟩ | ⟨id, _ | reason⟩ <;>
    simp [ofFields?, kind, fields, optionalField, Json.record?, Json.namesDiffer,
      Json.Record.required, Json.Record.withDefault, Json.Record.get?, Json.text?, Json.nullable?,
      Json.readsBack_u32.reads, Uuid.ofJson?, Uuid.toJson]

/-- No field of an event but the first is named like the kind. -/
theorem ne_type_of_mem_fields (e : Event) : ∀ field ∈ e.fields, field.1 ≠ "type" := by
  rcases e with ⟨uuid, username, id, name, _ | previous⟩ | ⟨uuid, id⟩ | ⟨id, count, max⟩ |
      ⟨id, name⟩ | ⟨id, _ | reason⟩ <;>
    simp [fields, optionalField]

/-- **The document of an event is read as the event.**

**Proof sketch.** The document is plain and flat. Its first field names the kind and is the only one
that does, and the kind finds the others by their names. -/
theorem ofJson?_toJson (e : Event) : ofJson? e.toJson = some e := by
  have hplain := Json.isPlain_of_isLossless (isLossless_toJson e)
  have hdepth : e.toJson.depth ≤ maxDepth := by rw [depth_toJson e]; decide
  have hnone : e.fields.filter (·.1 == "type") = [] :=
    List.filter_eq_nil_iff.2 fun field hfield => by simpa using ne_type_of_mem_fields e field hfield
  have hall : e.fields.filter (·.1 != "type") = e.fields :=
    List.filter_eq_self.2 fun field hfield => by simpa using ne_type_of_mem_fields e field hfield
  refine ofJson?_object.2 ⟨⟨hplain, hdepth⟩, "type", e.kind, ?_, ?_⟩
  · rw [List.filter_cons_of_pos rfl, hnone]
  · rw [List.filter_cons_of_neg (by simp), hall, ofFields?_fields]

/-- **The text of an event is read as the event.** -/
theorem ofText?_toText (e : Event) : ofText? e.toText = some e := by
  rw [ofText?, toText, Json.parse?_toText (isLossless_toJson e), Option.bind_some, ofJson?_toJson]

/-! ## The field that may be left out -/

/-- The **note** of an event: the name of the field that may be left out, and what it tells, if
there is anything to tell. -/
def note : Event → Option (String × Option String)
  | .playerJoin _ _ _ _ previous => some ("previous_server_id", previous)
  | .serverOffline _ reason => some ("reason", reason)
  | _ => none

/-- The event without what its note tells. -/
def withoutNote : Event → Event
  | .playerJoin uuid username id name _ => .playerJoin uuid username id name none
  | .serverOffline id _ => .serverOffline id none
  | e => e

/-- **A note is written if there is something to tell**, and then as a string. -/
theorem mem_fields_iff {e : Event} {name : String} {value : Option String}
    (h : e.note = some (name, value)) (v : Json) :
    (name, v) ∈ ("type", .string e.kind) :: e.fields ↔ value.map Json.string = some v := by
  cases e with
  | playerJoin uuid username id name previous =>
    cases h
    cases value <;> simp [fields, optionalField, eq_comm]
  | serverOffline id reason =>
    cases h
    cases value <;> simp [fields, optionalField, eq_comm]
  | _ => simp [note] at h

/-- A field that may be left out tells nothing if it is left out or `null`, and only then.

**Proof sketch.** By whether the field is found. A field that is found is unique, so to say that
every such field is `null` is to say that this one is. -/
theorem eq_none_iff_of_withDefault {names : List String} {fields : List (String × Json)}
    {r : Json.Record} (hr : Json.record? names (.object fields) = some r) {name : String}
    (hname : name ∈ names) {value : Option String}
    (h : r.withDefault name none (Json.nullable? Json.text?) = some value) :
    value = none ↔ ∀ v, (name, v) ∈ fields → v = .null := by
  simp only [← Json.get?_of_record? hr hname]
  rw [Json.Record.withDefault] at h
  cases hget : r.get? name with
  | none =>
    rw [hget] at h
    simpa using (Option.some.inj h).symm
  | some v =>
    rw [hget] at h
    cases value <;> cases v <;> simp_all [Json.nullable?, Json.text?]

/-- A note that is left out or `null` tells nothing, and without the note the same event is read,
less what the note tells.

**Proof sketch.** By cases on the kind. Two kinds have a note. To take out its field leaves the
others to be found, and the note has its default, so it tells nothing. The other kinds have no note.
-/
theorem ofFields?_without {kind name : String} {fields : List (String × Json)} {e : Event}
    {value : Option String} (hnote : e.note = some (name, value))
    (h : ofFields? kind (.object fields) = some e) :
    (value = none ↔ ∀ v, (name, v) ∈ fields → v = .null) ∧
      ofFields? kind (.object (fields.filter (·.1 != name))) = some e.withoutNote := by
  simp only [ofFields?] at h
  split at h
  case h_6 => simp at h
  all_goals
    simp only [Option.bind_eq_bind, Option.bind_eq_some_iff, Option.pure_def,
      Option.some.injEq] at h
  case h_1 =>
    obtain ⟨r, hr, uuid, huuid, username, husername, id, hid, serverName, hname, previous,
      hprevious, rfl⟩ := h
    cases hnote
    have hgone := Json.record?_filter hr "previous_server_id"
    constructor
    · exact eq_none_iff_of_withDefault hr (by simp) hprevious
    · simp [ofFields?, hgone, Json.Record.required_erase, Json.Record.withDefault_erase, huuid,
        husername, hid, hname, withoutNote]
  case h_5 =>
    obtain ⟨r, hr, id, hid, reason, hreason, rfl⟩ := h
    cases hnote
    have hgone := Json.record?_filter hr "reason"
    constructor
    · exact eq_none_iff_of_withDefault hr (by simp) hreason
    · simp [ofFields?, hgone, Json.Record.required_erase, Json.Record.withDefault_erase, hid,
        withoutNote]
  -- the other kinds have no note
  case h_2 =>
    obtain ⟨r, hr, uuid, huuid, id, hid, rfl⟩ := h
    simp [note] at hnote
  case h_3 =>
    obtain ⟨r, hr, id, hid, count, hcount, max, hmax, rfl⟩ := h
    simp [note] at hnote
  case h_4 =>
    obtain ⟨r, hr, id, hid, serverName, hname, rfl⟩ := h
    simp [note] at hnote

/-- A note does not have the name of the kind. -/
theorem ne_type_of_note {e : Event} {name : String} {value : Option String}
    (h : e.note = some (name, value)) : name ≠ "type" := by
  cases e <;> simp [note] at h <;> simp [← h.1]

/-- **An object without the note** of its event is read as the event without what the note tells. A
note tells nothing if it is not there or `null`, and only then.

**Proof sketch.** The note is not the field that names the kind, so the kind is found as before, and
it makes no difference whether the note is taken out before or after the kind. Then
`ofFields?_without` applies. -/
theorem ofJson?_without {name : String} {fields : List (String × Json)} {e : Event}
    {value : Option String} (hnote : e.note = some (name, value))
    (h : ofJson? (.object fields) = some e) :
    (value = none ↔ ∀ v, (name, v) ∈ fields → v = .null) ∧
      ofJson? (.object (fields.filter (·.1 != name))) = some e.withoutNote := by
  obtain ⟨⟨hplain, hdepth⟩, tag, kind, htype, hbody⟩ := ofJson?_object.1 h
  have hne := ne_type_of_note hnote
  have htag : (fields.filter (·.1 != name)).filter (·.1 == "type") =
      fields.filter (·.1 == "type") := by
    rw [List.filter_filter]
    congr 1
    funext field
    by_cases heq : field.1 = "type" <;> simp [heq, hne.symm]
  have hrest : (fields.filter (·.1 != name)).filter (·.1 != "type") =
      (fields.filter (·.1 != "type")).filter (·.1 != name) := by
    simp only [List.filter_filter, Bool.and_comm]
  have hdeep : (Json.object (fields.filter (·.1 != name))).depth ≤ maxDepth :=
    Nat.le_trans (Nat.succ_le_succ (Json.fieldsDepth_filter_le fields _)) hdepth
  obtain ⟨hvalue, hwithout⟩ := ofFields?_without hnote hbody
  constructor
  · simpa [hne] using hvalue
  · rw [ofJson?_object, htag, hrest]
    exact ⟨⟨Json.fieldsPlain_filter hplain _, hdeep⟩, tag, kind, htype, hwithout⟩

/-- **Events survive their text.** The text of an event is read as the event, and two different
events have different texts. The text of an event with a note has a field for it exactly if there is
something to tell, which then is the string in that field. Whatever text of an object is read as an
event with a note, the note tells nothing exactly if its field is missing or `null`, and the object
without the field is read as the same event with nothing to tell.

**Proof sketch.** The document of an event holds only strings and integers of 32 bits, so it is read
back from its text (`Json.parse?_toText`), and each kind finds its fields in it again
(`ofJson?_toJson`). A record is read field by field, each under its own name, so to leave one field
out leaves the others as they are (`Json.record?_filter`). -/
theorem reads_back_from_text :
    (∀ e : Event, ofText? e.toText = some e) ∧
    (∀ e e' : Event, e ≠ e' → e.toText ≠ e'.toText) ∧
    (∀ (e : Event) (name : String) (value : Option String), e.note = some (name, value) →
      (∃ fields, Json.parse? e.toText = some (.object fields) ∧
        ∀ v, (name, v) ∈ fields ↔ value.map Json.string = some v) ∧
      ∀ (text : String) (fields : List (String × Json)),
        Json.parse? text = some (.object fields) → ofText? text = some e →
        (value = none ↔ ∀ v, (name, v) ∈ fields → v = .null) ∧
        ofJson? (.object (fields.filter (·.1 != name))) = some e.withoutNote) := by
  refine ⟨ofText?_toText, fun e e' hne htext => ?_, fun e name value hnote => ⟨?_, ?_⟩⟩
  · have hread := ofText?_toText e
    rw [htext, ofText?_toText] at hread
    exact hne (Option.some.inj hread).symm
  · exact ⟨_, Json.parse?_toText (isLossless_toJson e), mem_fields_iff hnote⟩
  · intro text fields hparse hread
    rw [ofText?, hparse, Option.bind_some] at hread
    exact ofJson?_without hnote hread

/-- A server with a quote, a backslash, braces and control characters in its name leaves for no
reason that is told: its own text, and one with its fields in another order, a reason that is `null`
and a field that no event has. -/
theorem reads_back_from_text_null :
    let id := "\"\x7b\\\x01\n\x7d"
    let e : Event := .serverOffline id none
    let fields : List (String × Json) := [("reason", .null), ("type", .string "server_offline"),
      ("extra", .array []), ("server_id", .string id)]
    let text := (Json.object fields).toText
    e.note = some ("reason", none) ∧ ofText? e.toText = some e ∧
    Json.parse? text = some (.object fields) ∧ ofText? text = some e ∧
    ofJson? (.object (fields.filter (·.1 != "reason"))) = some e := by
  intro id e fields text
  have hparse : Json.parse? text = some (.object fields) := Json.parse?_toText rfl
  have hread : ofText? text = some e := by
    rw [ofText?, hparse]
    rfl
  obtain ⟨hround, _, hnote⟩ := reads_back_from_text
  exact ⟨rfl, hround e, hparse, hread, ((hnote e "reason" none rfl).2 text fields hparse hread).2⟩

example : (Event.serverOffline "a" (some "\n\"")).toText =
    "\x7b\"type\":\"server_offline\",\"server_id\":\"a\",\"reason\":\"\\n\\\"\"\x7d" := by
  decide +kernel

end Event

end FleetStatus
