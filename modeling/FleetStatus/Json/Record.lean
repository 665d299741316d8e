import FleetStatus.Json

set_option relaxedAutoImplicit false
set_option autoImplicit false

/-!
# Records in JSON

A record is an object with named fields, or an array of the fields in their order. Names that the
record does not have are passed over; a name of the record must not repeat.

## Main definitions

* `FleetStatus.Json.Record` — the fields that were found.
* `FleetStatus.Json.record?` — the record that a value is.
* `FleetStatus.Json.Record.required`, `FleetStatus.Json.Record.optional`,
  `FleetStatus.Json.Record.withDefault` — a field that must be there, one that may be missing from
  an object, and one that may be missing.
-/

namespace FleetStatus.Json

/-- The fields of a record that were found. -/
structure Record where
  /-- Whether the record was written as an array. -/
  positional : Bool
  /-- The names and values. -/
  found : List (String × Json)
  deriving Inhabited

/-- Whether no name repeats. -/
def namesDiffer : List (String × Json) → Bool
  | [] => true
  | (k, _) :: rest => rest.all (·.1 != k) && namesDiffer rest

/-- The record with the given field names that a value is. -/
def record? (names : List String) : Json → Option Record
  | .object fields =>
    let known := fields.filter fun (k, _) => names.contains k
    if namesDiffer known then some ⟨false, known⟩ else none
  | .array items => if items.length ≤ names.length then some ⟨true, names.zip items⟩ else none
  | _ => none

namespace Record

variable {α : Type}

/-- The value of a field. -/
def get? (r : Record) (name : String) : Option Json := (r.found.find? (·.1 == name)).map (·.2)

/-- A field that must be there. -/
def required (r : Record) (name : String) (f : Json → Option α) : Option α := (r.get? name).bind f

/-- A field that may be `null`, or missing from an object. -/
def optional (r : Record) (name : String) (f : Json → Option α) : Option (Option α) :=
  match r.get? name with
  | some v => v.nullable? f
  | none => if r.positional then none else some none

/-- A field that may be missing and then has the value `default`. -/
def withDefault (r : Record) (name : String) (default : α) (f : Json → Option α) : Option α :=
  match r.get? name with
  | some v => f v
  | none => some default

end Record

end FleetStatus.Json
