import FleetStatus.Json.Record

set_option relaxedAutoImplicit false
set_option autoImplicit false

/-!
# Fields of a record

A field of a record that was written as an object is the field of the object, and to leave one field
out of the object leaves all other fields of the record as they are.

## Main definitions

* `FleetStatus.Json.Record.erase` — a record without one of its fields.

## Main results

* `FleetStatus.Json.get?_of_record?` — the fields of a record are those of the object.
* `FleetStatus.Json.record?_filter` — an object without a field is the record without the field.
-/

namespace FleetStatus.Json

/-! ## Some of the fields of an object -/

/-- Fields that are left of plain ones are plain. -/
theorem fieldsPlain_filter {fields : List (String × Json)} (h : fieldsPlain fields)
    (p : String × Json → Bool) : fieldsPlain (fields.filter p) := by
  induction fields with
  | nil => exact h
  | cons field fields ih =>
    obtain ⟨hv, hfields⟩ := Bool.and_eq_true_iff.1 h
    rw [List.filter_cons]
    split
    · exact Bool.and_eq_true_iff.2 ⟨hv, ih hfields⟩
    · exact ih hfields

/-- Fields that are left are nested no deeper. -/
theorem fieldsDepth_filter_le (fields : List (String × Json)) (p : String × Json → Bool) :
    fieldsDepth (fields.filter p) ≤ fieldsDepth fields := by
  induction fields with
  | nil => exact Nat.le_refl _
  | cons field fields ih =>
    rw [List.filter_cons]
    split <;> simp only [fieldsDepth] <;> omega

/-! ## Fields by their names -/

/-- No name repeats when the names are listed once each. -/
theorem namesDiffer_iff_nodup (fields : List (String × Json)) :
    namesDiffer fields ↔ (fields.map (·.1)).Nodup := by
  induction fields with
  | nil => simp [namesDiffer]
  | cons field fields ih =>
    obtain ⟨k, v⟩ := field
    have hfresh : fields.all (·.1 != k) ↔ k ∉ fields.map (·.1) := by
      simp only [List.all_eq_true, bne_iff_ne, List.mem_map, not_exists, not_and]
    rw [namesDiffer, Bool.and_eq_true, hfresh, ih, List.map_cons, List.nodup_cons]

/-- Where no name repeats, a field is found by its name.

**Proof sketch.** By induction on the fields. If the first field has the name, no field behind it
has. -/
theorem find?_eq_some_iff_mem {fields : List (String × Json)} (h : (fields.map (·.1)).Nodup)
    (name : String) (v : Json) :
    (fields.find? (·.1 == name)).map (·.2) = some v ↔ (name, v) ∈ fields := by
  induction fields with
  | nil => simp
  | cons field fields ih =>
    obtain ⟨k, w⟩ := field
    obtain ⟨hk, hfields⟩ := List.nodup_cons.1 h
    by_cases heq : k = name
    · subst heq
      have hfresh : (k, v) ∉ fields := fun hv => hk (List.mem_map.2 ⟨_, hv, rfl⟩)
      simp [hfresh, eq_comm]
    · rw [List.find?_cons_of_neg (by simpa using heq), ih hfields]
      simp [Ne.symm heq]

/-- The record that an object is. -/
theorem record?_object {names : List String} {fields : List (String × Json)} {r : Record} :
    record? names (.object fields) = some r ↔
      namesDiffer (fields.filter fun (k, _) => names.contains k) ∧
        r = ⟨false, fields.filter fun (k, _) => names.contains k⟩ := by
  simp only [record?]
  split
  next hdiffer => exact ⟨fun h => ⟨hdiffer, (Option.some.inj h).symm⟩, fun h => by rw [h.2]⟩
  next hdiffer => exact ⟨nofun, fun h => absurd h.1 hdiffer⟩

/-- **The fields of a record are those of the object** with the names of the record.

**Proof sketch.** The record is made of the fields whose names are among those of the record, and no
name repeats among them. -/
theorem get?_of_record? {names : List String} {fields : List (String × Json)} {r : Record}
    (h : record? names (.object fields) = some r) {name : String} (hname : name ∈ names)
    (v : Json) :
    r.get? name = some v ↔ (name, v) ∈ fields := by
  obtain ⟨hdiffer, rfl⟩ := record?_object.1 h
  rw [Record.get?, find?_eq_some_iff_mem ((namesDiffer_iff_nodup _).1 hdiffer)]
  simp [hname]

namespace Record

/-- The record **without the field** of a name. -/
def erase (r : Record) (name : String) : Record := { r with found := r.found.filter (·.1 != name) }

variable {α : Type} (r : Record) {name other : String} (f : Json → Option α)

/-- To take out a field leaves all others to be found. -/
theorem get?_erase (name other : String) :
    (r.erase name).get? other = if other = name then none else r.get? other := by
  rw [get?, erase, List.find?_filter]
  split
  next heq =>
    subst heq
    simp
  next hne =>
    congr 2
    funext field
    by_cases hother : field.1 = other <;> simp [hother, hne]

/-- A field that must be there is read as before when another one is taken out. -/
theorem required_erase (h : other ≠ name) :
    (r.erase name).required other f = r.required other f := by
  rw [required, get?_erase, if_neg h, required]

/-- A field that is taken out has its default. -/
theorem withDefault_erase (default : α) :
    (r.erase name).withDefault name default f = some default := by
  rw [withDefault, get?_erase, if_pos rfl]

end Record

/-- **An object without a field** is the record without the field.

**Proof sketch.** It makes no difference whether the field is taken out before or after the names of
the record are looked for, and among fewer names none repeats either. -/
theorem record?_filter {names : List String} {fields : List (String × Json)} {r : Record}
    (h : record? names (.object fields) = some r) (name : String) :
    record? names (.object (fields.filter (·.1 != name))) = some (r.erase name) := by
  obtain ⟨hdiffer, rfl⟩ := record?_object.1 h
  have hswap : (fields.filter (·.1 != name)).filter (fun (k, _) => names.contains k) =
      (fields.filter fun (k, _) => names.contains k).filter (·.1 != name) := by
    simp only [List.filter_filter, Bool.and_comm]
  rw [record?_object, hswap]
  refine ⟨(namesDiffer_iff_nodup _).2 ?_, rfl⟩
  exact ((namesDiffer_iff_nodup _).1 hdiffer).sublist (List.filter_sublist.map _)

end FleetStatus.Json
