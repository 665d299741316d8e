import FleetStatus.Uuid
import FleetStatus.Wire.Cursor

set_option relaxedAutoImplicit false
set_option autoImplicit false

/-!
# Fields on the wire

The fields that datagrams are made of: numbers with the low byte first, texts and blocks behind a
two-byte length, identities, and plain bytes.

## Main definitions

* `FleetStatus.Wire.u16`, `FleetStatus.Wire.text`, … — the bytes of one field.
* `FleetStatus.Wire.Reader.u16`, `FleetStatus.Wire.Reader.text`, … — the actions that read them.
* `FleetStatus.Wire.Field`, `FleetStatus.Wire.FieldKind` — a field as a value, and what to expect.
-/

namespace FleetStatus.Wire

/-- The largest length that two bytes can tell. -/
def maxLength : Nat := 65535

/-! ## Writing -/

/-- A one-byte number. -/
def u8 (v : UInt8) : Bytes := [v]

/-- A two-byte number. -/
def u16 (v : UInt16) : Bytes := Bytes.little 2 v.toNat

/-- A four-byte number. -/
def u32 (v : UInt32) : Bytes := Bytes.little 4 v.toNat

/-- A signed four-byte number in two's complement. -/
def i32 (v : Int32) : Bytes := u32 v.toUInt32

/-- A length in two bytes. -/
def length (n : Nat) : Bytes := Bytes.little 2 n

/-- Bytes behind their length; what two bytes cannot count is cut off. -/
def counted (bs : Bytes) : Bytes :=
  let kept := bs.take maxLength
  length kept.length ++ kept

/-- A text behind the length of its bytes, cut between two characters to what two bytes can
count. -/
def text (s : String) : Bytes :=
  let kept := Text.utf8 (Text.truncate s maxLength)
  length kept.length ++ kept

/-- A block: its kind, and its body behind the length. -/
def block (kind : UInt16) (body : Bytes) : Bytes := u16 kind ++ counted body

/-! ## Reading -/

namespace Reader

/-- A one-byte number. -/
def u8 : Reader UInt8 := do return UInt8.ofNat (Bytes.ofLittle (← take 1))

/-- A two-byte number. -/
def u16 : Reader UInt16 := do return UInt16.ofNat (Bytes.ofLittle (← take 2))

/-- A four-byte number. -/
def u32 : Reader UInt32 := do return UInt32.ofNat (Bytes.ofLittle (← take 4))

/-- A signed four-byte number. -/
def i32 : Reader Int32 := do return (← u32).toInt32

/-- The bytes behind a length. -/
def counted : Reader Bytes := do take (← u16).toNat

/-- A text behind the length of its bytes. -/
def text : Reader String := do
  match Text.ofUtf8? (← counted) with
  | some s => return s
  | none => fail .invalidText

/-- An identity. -/
def uuid : Reader Uuid := do return Uuid.ofBytes (← take 16)

end Reader

/-! ## Fields as values -/

/-- One field of a datagram. -/
inductive Field where
  | u8 (v : UInt8)
  | u16 (v : UInt16)
  | u32 (v : UInt32)
  | i32 (v : Int32)
  | text (s : String)
  | uuid (u : Uuid)
  | raw (bs : Bytes)
  deriving DecidableEq, Inhabited

/-- The bytes of a field. -/
def Field.encode : Field → Bytes
  | .u8 v => Wire.u8 v
  | .u16 v => Wire.u16 v
  | .u32 v => Wire.u32 v
  | .i32 v => Wire.i32 v
  | .text s => Wire.text s
  | .uuid u => u.toBytes
  | .raw bs => bs

/-- What field to expect. -/
inductive FieldKind where
  | u8
  | u16
  | u32
  | i32
  | text
  | uuid
  | raw (n : Nat)
  deriving DecidableEq, Inhabited

/-- Read the field that is expected. -/
def FieldKind.read : FieldKind → Reader Field
  | .u8 => do return .u8 (← Reader.u8)
  | .u16 => do return .u16 (← Reader.u16)
  | .u32 => do return .u32 (← Reader.u32)
  | .i32 => do return .i32 (← Reader.i32)
  | .text => do return .text (← Reader.text)
  | .uuid => do return .uuid (← Reader.uuid)
  | .raw n => do return .raw (← Reader.take n)

/-- The kind under which a field is read. -/
def Field.kind : Field → FieldKind
  | .u8 _ => .u8
  | .u16 _ => .u16
  | .u32 _ => .u32
  | .i32 _ => .i32
  | .text _ => .text
  | .uuid _ => .uuid
  | .raw bs => .raw bs.length

/-- The bytes of several fields in turn. -/
def encodeAll (fields : List Field) : Bytes := fields.flatMap Field.encode

/-- Read several fields in turn. -/
def readAll : List FieldKind → Reader (List Field)
  | [] => pure []
  | k :: ks => do return (← k.read) :: (← readAll ks)

end FleetStatus.Wire
