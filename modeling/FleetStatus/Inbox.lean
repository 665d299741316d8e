import FleetStatus.Presence.Event

set_option relaxedAutoImplicit false
set_option autoImplicit false

/-!
# Subscriptions

A subscriber reads events at its own pace. An inbox keeps the newest of them; a slow reader is told
how many it lost.

## Main definitions

* `FleetStatus.Inbox` — the events of one subscriber that were not read.
* `FleetStatus.Inbox.push`, `FleetStatus.Inbox.drain` — an event arrives, or all are read.
-/

namespace FleetStatus

/-- The events of one subscriber that were not read. -/
structure Inbox where
  /-- How many events were lost since the last reading. -/
  lost : Nat := 0
  /-- The newest events, oldest first. -/
  unread : List Event := []
  deriving DecidableEq, Inhabited

namespace Inbox

/-- How many events an inbox keeps. -/
def capacity : Nat := 256

/-- The inbox after an event arrived; the oldest one makes room. -/
def push (i : Inbox) (e : Event) : Inbox :=
  let events := i.unread ++ [e]
  let excess := events.length - capacity
  { lost := i.lost + excess, unread := events.drop excess }

/-- The inbox after it was read. -/
def drain (_ : Inbox) : Inbox := {}

end Inbox

end FleetStatus
