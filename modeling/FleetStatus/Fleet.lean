import FleetStatus.Node

set_option relaxedAutoImplicit false
set_option autoImplicit false

/-!
# Fleets

Nodes that share one store. Whatever one of them writes to the log is taken in by all that follow it
before anything else happens; a store that was closed is closed for all of them.

Two clocks are kept apart: the wall clock, which stands in records and tokens, and the uptime, which
the timers go by.

## Main definitions

* `FleetStatus.Fleet` — the nodes and their store.
* `FleetStatus.Fleet.start`, `FleetStatus.Fleet.stop` — the life of one node.
* `FleetStatus.Fleet.settle` — all nodes take in the log.
* `FleetStatus.Fleet.advance` — time goes by.
-/

namespace FleetStatus

/-- Nodes that share one store. -/
structure Fleet where
  nodes : List Node
  store : Store := {}
  /-- The wall clock. -/
  now : Int64
  /-- The milliseconds since the fleet was set up. -/
  uptime : Nat := 0
  deriving DecidableEq

namespace Fleet

/-! ## Acting on one node -/

/-- The fleet with one node replaced by a function of it. -/
def modifyNode (f : Fleet) (i : Nat) (change : Node → Node) : Fleet :=
  { f with nodes := f.nodes.modify i change }

/-- The fleet with the member of one node replaced by a function of it. -/
def modifyMember (f : Fleet) (i : Nat) (change : Member → Member) : Fleet :=
  f.modifyNode i fun n => { n with member := change n.member }

/-- Ask one node something that its member needs the store for; `none` if there is no such node. -/
def ask {α : Type} (f : Fleet) (i : Nat) (action : Node → Store → α × Member × Store) :
    Option (α × Fleet) :=
  f.nodes[i]?.map fun n =>
    let (answer, member, store) := action n f.store
    (answer, { f with nodes := f.nodes.set i { n with member }, store })

/-- Let one node do something that its member needs the store for. -/
def act (f : Fleet) (i : Nat) (action : Node → Store → Member × Store) : Fleet :=
  ((f.ask i fun n store => ((), action n store)).map (·.2)).getD f

/-! ## Following the log -/

/-- The fleet with all members replaced by a function of them. -/
def mapMembers (f : Fleet) (change : Member → Member) : Fleet :=
  { f with nodes := f.nodes.map fun n => { n with member := change n.member } }

/-- All nodes read the log once. -/
def readOnce (f : Fleet) : Fleet := f.mapMembers (·.followOnce f.now f.store)

/-- All nodes **take in the log** to its end. -/
def settle (f : Fleet) : Fleet := f.mapMembers (·.follow f.now f.store)

/-! ## The life of a node -/

/-- Start a node on the shared store. Its timers are counted from a start that succeeds. -/
def start (f : Fleet) (i : Nat) : Option (Except MemberError Unit × Fleet) :=
  (f.ask i fun n store => n.member.startWith n.report f.now store).map fun (result, started) =>
    (result, started.modifyNode i fun n =>
      if result.toBool then { n with startedAt := f.uptime } else n)

/-- Record what waits in the queue of a node. -/
def drain (f : Fleet) (i : Nat) : Fleet := f.act i fun n store => n.member.drain store

/-- Stop a node that runs. What waits in its queue is recorded first and can still be read by all
nodes; the store is closed right after the node left. -/
def stop (f : Fleet) (i : Nat) : Fleet :=
  if (f.nodes[i]?.map (·.member.isRunning)).getD false then
    (f.drain i).readOnce.act i fun n store => n.member.leaveFleet store
  else f

/-- Record a change of a node's players and wait for the outcome. -/
def record (f : Fleet) (i : Nat) (change : Node → PlayerChange) :
    Option (Except MemberError ChangeOutcome × Fleet) :=
  f.ask i fun n store => n.member.recordNow (change n) store

/-- Queue changes of a node's players. A node that does not run takes none. -/
def enqueue (f : Fleet) (i : Nat) (changes : Node → List PlayerChange) : Fleet :=
  f.modifyNode i fun n =>
    { n with
      member := (changes n).foldl (fun m c => (m.enqueue c).toOption.getD m) n.member }

/-! ## Time -/

/-- The chores that are due after the present and within some milliseconds, with the numbers of
their nodes, in the order of their times. -/
def due (f : Fleet) (millis : Nat) : List (Nat × Nat × Chore) :=
  let chores := f.nodes.zipIdx.flatMap fun (n, i) =>
    (n.due f.uptime (f.uptime + millis)).map fun (time, chore) => (time, i, chore)
  chores.mergeSort fun a b => a.1 ≤ b.1

/-- Let one node do a chore, and all nodes take in the log after it. -/
def work (f : Fleet) (i : Nat) (chore : Chore) : Fleet :=
  (f.act i fun n store => n.work f.now store chore).settle

/-- Let **time go by** while the wall clock stands: every chore that falls due is done. -/
def advance (f : Fleet) (millis : Nat) : Fleet :=
  let worked := (f.due millis).foldl (fun f (_, i, chore) => f.work i chore) f
  { worked with uptime := f.uptime + millis }

end Fleet

end FleetStatus
