import FleetStatus.Bytes

set_option relaxedAutoImplicit false
set_option autoImplicit false

/-!
# Internet addresses

The addresses that datagrams come from and that the listener is bound to.

## Main definitions

* `FleetStatus.Ip` — an address of version 4 or 6, its bytes and its canonical form.
* `FleetStatus.SocketAddress` — an address with a port.
-/

namespace FleetStatus

/-- An internet address. -/
inductive Ip where
  /-- A version 4 address as a number. -/
  | v4 (address : BitVec 32)
  /-- A version 6 address as a number. -/
  | v6 (address : BitVec 128)
  deriving DecidableEq, Inhabited

namespace Ip

/-- The bytes of the address, high byte first. -/
def octets : Ip → Bytes
  | .v4 a => Bytes.big 4 a.toNat
  | .v6 a => Bytes.big 16 a.toNat

/-- The version 4 address that a version 6 address stands for, when its first 96 bits are those of
`::ffff:0:0`. -/
def mapped? (a : BitVec 128) : Option (BitVec 32) :=
  if a.toNat / UInt32.size = 0xffff then some (BitVec.ofNat 32 a.toNat) else none

/-- The **canonical form**: a version 6 address that stands for a version 4 address becomes that
address. -/
def canonical : Ip → Ip
  | .v4 a => .v4 a
  | .v6 a => (mapped? a).elim (.v6 a) .v4

end Ip

/-- Where a datagram comes from, or where to listen. -/
structure SocketAddress where
  ip : Ip
  port : UInt16
  /-- The zone of a version 6 address; zero when none is given. -/
  zone : UInt32 := 0
  deriving DecidableEq, Inhabited

end FleetStatus
