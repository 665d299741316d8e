import FleetStatus.Address
import FleetStatus.Bytes

set_option relaxedAutoImplicit false
set_option autoImplicit false

/-!
# The listener

Every received datagram is handed to a responder, and what the responder answers is sent back to
where the datagram came from.

## Main definitions

* `FleetStatus.Listener` — the counts that are kept.
* `FleetStatus.Listener.receive` — one datagram and its reply.
* `FleetStatus.Listener.serve` — datagrams in turn.
-/

namespace FleetStatus

/-- How many datagrams were received and how many of them were answered. -/
structure Listener where
  received : UInt64 := 0
  answered : UInt64 := 0
  deriving DecidableEq, Inhabited

namespace Listener

/-- The size of the receive buffer; the rest of a longer datagram is lost. -/
def bufferSize : Nat := 2048

/-- The largest datagram that can be sent. -/
def maxDatagram : Nat := 65507

/-- How many datagrams got no reply. -/
def dropped (l : Listener) : UInt64 :=
  if l.answered ≤ l.received then l.received - l.answered else 0

/-- What is sent back for a datagram: what `respond` makes of the bytes that fit the buffer, if it
can be sent. -/
def sent (respond : SocketAddress → Bytes → Option Bytes) (source : SocketAddress)
    (datagram : Bytes) : Option Bytes :=
  (respond source (datagram.take bufferSize)).filter (·.length ≤ maxDatagram)

/-- Receive a datagram and send the reply. -/
def receive (l : Listener) (respond : SocketAddress → Bytes → Option Bytes)
    (source : SocketAddress) (datagram : Bytes) : Option Bytes × Listener :=
  match sent respond source datagram with
  | some reply => (some reply, { received := l.received + 1, answered := l.answered + 1 })
  | none => (none, { l with received := l.received + 1 })

/-- Receive datagrams in turn; the replies, each with where it is sent to, are in the order of the
datagrams they answer. -/
def serve (l : Listener) (respond : SocketAddress → Bytes → Option Bytes) :
    List (SocketAddress × Bytes) → List (SocketAddress × Bytes) × Listener
  | [] => ([], l)
  | (source, datagram) :: rest =>
    let (reply, l) := l.receive respond source datagram
    let (replies, l) := l.serve respond rest
    (reply.toList.map (source, ·) ++ replies, l)

end Listener

end FleetStatus
