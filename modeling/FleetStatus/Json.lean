import FleetStatus.Json.Numeral

set_option relaxedAutoImplicit false
set_option autoImplicit false

/-!
# JSON values

A value as it stands in a document: the fields of an object keep their order and may repeat.

## Main definitions

* `FleetStatus.Json` — values.
* `FleetStatus.Json.depth` — how deep arrays and objects are nested.
* `FleetStatus.Json.isPlain` — whether every part of a value stands for something.
-/

namespace FleetStatus

/-- A JSON value. -/
inductive Json where
  | null
  | bool (b : Bool)
  | number (n : Numeral)
  | string (s : String)
  | array (items : List Json)
  | object (fields : List (String × Json))
  /-- Well formed, but stands for nothing: a string with half of a surrogate pair, or an object with
  such a name. It can be passed over and not be read. -/
  | valueless
  deriving Inhabited

namespace Json

/-- The integer `n`. -/
def int (n : Int) : Json := .number (.integer n)

/-- The natural number `n`. -/
def nat (n : Nat) : Json := int n

/-- The value of `x`, or `null`. -/
def nullable {α : Type} (f : α → Json) (x : Option α) : Json := x.elim .null f

mutual

/-- How deep arrays and objects are nested. -/
def depth : Json → Nat
  | .array items => itemsDepth items + 1
  | .object fields => fieldsDepth fields + 1
  | _ => 0

/-- The greatest depth of the items. -/
def itemsDepth : List Json → Nat
  | [] => 0
  | v :: rest => max v.depth (itemsDepth rest)

/-- The greatest depth of the fields. -/
def fieldsDepth : List (String × Json) → Nat
  | [] => 0
  | (_, v) :: rest => max v.depth (fieldsDepth rest)

end

mutual

/-- Whether every string is a text and every number in the range of the double format. -/
def isPlain : Json → Bool
  | .number n => n.fitsDouble
  | .array items => itemsPlain items
  | .object fields => fieldsPlain fields
  | .valueless => false
  | _ => true

/-- Whether all items are plain. -/
def itemsPlain : List Json → Bool
  | [] => true
  | v :: rest => v.isPlain && itemsPlain rest

/-- Whether all fields are plain. -/
def fieldsPlain : List (String × Json) → Bool
  | [] => true
  | (_, v) :: rest => v.isPlain && fieldsPlain rest

end

/-! ## What a value stands for -/

/-- The text. -/
def text? : Json → Option String
  | .string s => some s
  | _ => none

/-- The truth value. -/
def bool? : Json → Option Bool
  | .bool b => some b
  | _ => none

/-- The integer from `low` to `high`. -/
def intIn? (low high : Int) : Json → Option Int
  | .number (.integer n) => if low ≤ n ∧ n ≤ high then some n else none
  | _ => none

/-- The natural number below `bound`. -/
def natBelow? (bound : Nat) (v : Json) : Option Nat := (v.intIn? 0 (bound - 1)).map Int.toNat

/-- The 16-bit number. -/
def u16? (v : Json) : Option UInt16 := (v.natBelow? UInt16.size).map UInt16.ofNat

/-- The 32-bit number. -/
def u32? (v : Json) : Option UInt32 := (v.natBelow? UInt32.size).map UInt32.ofNat

/-- The 64-bit number. -/
def u64? (v : Json) : Option UInt64 := (v.natBelow? UInt64.size).map UInt64.ofNat

/-- The signed 64-bit number. -/
def i64? (v : Json) : Option Int64 :=
  (v.intIn? Int64.minValue.toInt Int64.maxValue.toInt).map Int64.ofInt

/-- What `f` makes of the value, where `null` stands for nothing. -/
def nullable? {α : Type} (f : Json → Option α) : Json → Option (Option α)
  | .null => some none
  | v => (f v).map some

end Json

end FleetStatus
