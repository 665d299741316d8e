import FleetStatus.Address
import FleetStatus.Text.Digits

set_option relaxedAutoImplicit false
set_option autoImplicit false

/-!
# Internet addresses in text

Version 4 addresses are four decimal numbers; version 6 addresses are eight hexadecimal groups, of
which one run of zeros may be left out and the last two may be written as a version 4 address.

## Main definitions

* `FleetStatus.Ip.ofText?`, `FleetStatus.Ip.toText` — an address.
* `FleetStatus.SocketAddress.ofText?`, `FleetStatus.SocketAddress.toText` — an address with a port;
  a version 6 address stands in square brackets, with an optional zone.
-/

namespace FleetStatus

namespace Address

/-! ## Reading parts of an address

Each function reads from the front and gives back what it did not read. -/

/-- A number below `bound`, with at most `most` digits and, unless `padded`, no idle zero in
front. -/
def number? (radix bound : Nat) (most : Option Nat) (padded : Bool) (cs : List Char) :
    Option (Nat × List Char) :=
  let digits := cs.takeWhile fun c => (Text.Digits.digit? radix c).isSome
  if most.any (· < digits.length) ||
      (!padded && digits.head? == some '0' && digits.length > 1) then none
  else (Text.Digits.value? radix bound digits).map fun value => (value, cs.drop digits.length)

/-- The rest after the character `c`. -/
def after? (c : Char) : List Char → Option (List Char)
  | [] => none
  | d :: rest => if d = c then some rest else none

/-- A number from 0 to 255 without idle zeros. -/
def octet? (cs : List Char) : Option (Nat × List Char) := number? 10 256 (some 3) false cs

/-- Four numbers with dots between them. -/
def v4? (cs : List Char) : Option (Nat × List Char) := do
  let (a, cs) ← octet? cs
  let (b, cs) ← octet? (← after? '.' cs)
  let (c, cs) ← octet? (← after? '.' cs)
  let (d, cs) ← octet? (← after? '.' cs)
  return (((a * 256 + b) * 256 + c) * 256 + d, cs)

/-- Up to `most` groups with colons between them, the last two possibly written as a version 4
address; whether they were is told as well. -/
def groups (most : Nat) (first : Bool) (cs : List Char) : List Nat × Bool × List Char :=
  match most with
  | 0 => ([], false, cs)
  | more + 1 =>
    match if first then some cs else after? ':' cs with
    | none => ([], false, cs)
    | some start =>
      match if more = 0 then none else v4? start with
      | some (a, rest) => ([a / 65536, a % 65536], true, rest)
      | none =>
        match number? 16 65536 (some 4) true start with
        | none => ([], false, cs)
        | some (g, rest) =>
          let (gs, dotted, rest) := groups more false rest
          (g :: gs, dotted, rest)

/-- The number whose 16-bit groups are given. -/
def ofGroups (gs : List Nat) : Nat := gs.foldl (fun n g => 65536 * n + g) 0

/-- Eight groups, or fewer with a `::` for at least one group of zeros. -/
def v6? (cs : List Char) : Option (Nat × List Char) :=
  match groups 8 true cs with
  | (front, dotted, rest) =>
    if front.length = 8 then some (ofGroups front, rest)
    else if dotted then none
    else do
      let rest ← after? ':' (← after? ':' rest)
      let (back, _, rest) := groups (7 - front.length) true rest
      let zeros := List.replicate (8 - front.length - back.length) 0
      return (ofGroups (front ++ zeros ++ back), rest)

/-- A port after a colon. -/
def port? (cs : List Char) : Option (Nat × List Char) := do
  number? 10 65536 none true (← after? ':' cs)

/-- A zone after a percent sign; no zone is zone zero. -/
def zone (cs : List Char) : Nat × List Char :=
  ((after? '%' cs).bind (number? 10 UInt32.size none true)).getD (0, cs)

end Address

/-! ## Addresses -/

namespace Ip

open Address

/-- The address written in a text. -/
def ofText? (s : String) : Option Ip :=
  match v4? s.toList with
  | some (a, []) => some (.v4 (BitVec.ofNat 32 a))
  | _ =>
    match v6? s.toList with
    | some (a, []) => some (.v6 (BitVec.ofNat 128 a))
    | _ => none

/-- Four decimal numbers with dots between them. -/
def dotted (a : BitVec 32) : String :=
  ".".intercalate ((Bytes.big 4 a.toNat).map fun b => toString b.toNat)

/-- A group without idle zeros. -/
def group (n : Nat) : String := String.ofList (Nat.toDigits 16 n)

/-- The groups of a version 6 address. -/
def groupsOf (a : BitVec 128) : List Nat :=
  (List.range 8).map fun i => (a.toNat >>> (16 * (7 - i))) % 65536

/-- The first of the longest runs of zeros in `gs`, as its start and length. -/
def zeroRun (gs : List Nat) : Nat × Nat :=
  (List.range gs.length).foldl (fun best i =>
    let run := ((gs.drop i).takeWhile (· == 0)).length
    if run > best.2 then (i, run) else best) (0, 0)

/-- The printed form of a version 6 address: `::` stands for the first of the longest runs of two or
more zero groups, and a mapped address shows its version 4 form. -/
def colons (a : BitVec 128) : String :=
  match mapped? a with
  | some short => "::ffff:" ++ dotted short
  | none =>
    let gs := groupsOf a
    let (start, run) := zeroRun gs
    let join (l : List Nat) : String := ":".intercalate (l.map group)
    if run > 1 then join (gs.take start) ++ "::" ++ join (gs.drop (start + run)) else join gs

/-- The printed form. -/
def toText : Ip → String
  | .v4 a => dotted a
  | .v6 a => colons a

end Ip

namespace SocketAddress

open Address

/-- The address and port written in a text. -/
def ofText? (s : String) : Option SocketAddress :=
  let short : Option SocketAddress := do
    let (a, cs) ← v4? s.toList
    let (p, cs) ← port? cs
    if cs.isEmpty then some ⟨.v4 (BitVec.ofNat 32 a), UInt16.ofNat p, 0⟩ else none
  let long : Option SocketAddress := do
    let (a, cs) ← v6? (← after? '[' s.toList)
    let (z, cs) := Address.zone cs
    let (p, cs) ← port? (← after? ']' cs)
    if cs.isEmpty then some ⟨.v6 (BitVec.ofNat 128 a), UInt16.ofNat p, UInt32.ofNat z⟩ else none
  short.or long

/-- The printed form. -/
def toText (a : SocketAddress) : String :=
  let port := toString a.port.toNat
  match a.ip with
  | .v4 ip => Ip.dotted ip ++ ":" ++ port
  | .v6 ip =>
    let zone := if a.zone = 0 then "" else "%" ++ toString a.zone.toNat
    "[" ++ Ip.colons ip ++ zone ++ "]:" ++ port

end SocketAddress

end FleetStatus
