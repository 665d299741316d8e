import FleetStatus.Proofs.Json.Records
import FleetStatus.Proofs.Json.RoundTrip

set_option relaxedAutoImplicit false
set_option autoImplicit false

/-!
# Values that are read back from their documents

A type of settings or records has a function that writes its values as documents and one that reads
them. Values are read back when each document is written without a loss and read as the value that
it was written for. The property is passed on from the values to those that may be `null`, and from
the fields of a record to the record.

## Main definitions

* `FleetStatus.Json.ReadsBack` — the values of a type are read back from their documents.

## Main results

* `FleetStatus.Json.readsBack_text`, `FleetStatus.Json.readsBack_u16`, … — strings, truth values and
  numbers.
* `FleetStatus.Json.ReadsBack.nullable` — values that may be missing.
* `FleetStatus.Json.isLossless_object_iff`, `FleetStatus.Json.record?_of_map_eq`,
  `FleetStatus.Json.Record.withDefault_cons` — a record that is written as a whole.
* `FleetStatus.Json.ReadsBack.parse?_toText` — values are read back from their texts.
-/

namespace FleetStatus.Json

variable {α : Type} {write : α → Json} {read : Json → Option α}

/-- The values of a type **are read back** from their documents. -/
structure ReadsBack (write : α → Json) (read : Json → Option α) : Prop where
  lossless : ∀ a, (write a).isLossless
  reads : ∀ a, read (write a) = some a

/-- **Values are read back from their texts.** -/
theorem ReadsBack.parse?_toText (h : ReadsBack write read) (a : α) :
    (parse? (write a).toText).bind read = some a := by
  rw [Json.parse?_toText (h.lossless a), Option.bind_some, h.reads a]

/-! ## Strings, truth values and numbers -/

/-- Texts are read back. -/
theorem readsBack_text : ReadsBack string text? := ⟨fun _ => rfl, fun _ => rfl⟩

/-- Truth values are read back. -/
theorem readsBack_bool : ReadsBack bool bool? := ⟨fun _ => rfl, fun _ => rfl⟩

/-- A number of 64 bits is written without a loss. -/
theorem isLossless_nat {n : Nat} (h : n < UInt64.size) : (nat n).isLossless := decide_eq_true h

/-- A number below a bound is read as itself under the bound. -/
theorem natBelow?_nat {n bound : Nat} (h : n < bound) : (nat n).natBelow? bound = some n := by
  have hhigh : (n : Int) ≤ bound - 1 := by omega
  simp [natBelow?, intIn?, nat, int, hhigh]

/-- Numbers of 16 bits are read back. -/
theorem readsBack_u16 : ReadsBack (fun n : UInt16 => nat n.toNat) u16? where
  lossless n := isLossless_nat (Nat.lt_trans n.toNat_lt (by decide))
  reads n := by rw [u16?, natBelow?_nat n.toNat_lt, Option.map_some, UInt16.ofNat_toNat]

/-- Numbers of 32 bits are read back. -/
theorem readsBack_u32 : ReadsBack (fun n : UInt32 => nat n.toNat) u32? where
  lossless n := isLossless_nat (Nat.lt_trans n.toNat_lt (by decide))
  reads n := by rw [u32?, natBelow?_nat n.toNat_lt, Option.map_some, UInt32.ofNat_toNat]

/-- Numbers of 64 bits are read back. -/
theorem readsBack_u64 : ReadsBack (fun n : UInt64 => nat n.toNat) u64? where
  lossless n := isLossless_nat n.toNat_lt
  reads n := by rw [u64?, natBelow?_nat n.toNat_lt, Option.map_some, UInt64.ofNat_toNat]

/-! ## Values that may be missing -/

/-- **Values that may be missing** are read back, if none of them is written as `null`. -/
theorem ReadsBack.nullable (h : ReadsBack write read) (hnull : ∀ a, write a ≠ .null) :
    ReadsBack (Json.nullable write) (nullable? read) where
  lossless
    | none => rfl
    | some a => h.lossless a
  reads
    | none => rfl
    | some a => by
      have hsome : nullable? read (write a) = (read (write a)).map some :=
        nullable?.eq_2 read (write a) (hnull a)
      rw [Json.nullable, Option.elim_some, hsome, h.reads, Option.map_some]

/-! ## Records -/

/-- A record is written without a loss if its fields are. -/
theorem isLossless_object_iff {fields : List (String × Json)} :
    (object fields).isLossless ↔ ∀ field ∈ fields, field.2.isLossless := by
  rw [isLossless]
  induction fields with
  | nil => simp [fieldsLossless]
  | cons field fields ih => rw [fieldsLossless, Bool.and_eq_true, ih, List.forall_mem_cons]

/-- **A record that was written as a whole** has all of its fields.

**Proof sketch.** All fields have names of the record, so none is left out, and the names are
different. -/
theorem record?_of_map_eq {names : List String} {fields : List (String × Json)}
    (hnames : fields.map (·.1) = names) (hdiffer : names.Nodup) :
    record? names (.object fields) = some ⟨false, fields⟩ := by
  rw [record?_object, List.filter_eq_self.2]
  · exact ⟨(namesDiffer_iff_nodup fields).2 (hnames ▸ hdiffer), rfl⟩
  · intro field hfield
    exact List.contains_iff_mem.2 (hnames ▸ List.mem_map_of_mem hfield)

/-- **A field is found by its name.** -/
theorem Record.withDefault_cons (positional : Bool) (field : String × Json)
    (found : List (String × Json)) (name : String) (default : α) (f : Json → Option α) :
    (⟨positional, field :: found⟩ : Record).withDefault name default f =
      if field.1 = name then f field.2
      else (⟨positional, found⟩ : Record).withDefault name default f := by
  by_cases hname : field.1 = name <;> simp [withDefault, get?, hname]

end FleetStatus.Json
