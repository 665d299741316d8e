import FleetStatus.Presence.Event

set_option relaxedAutoImplicit false
set_option autoImplicit false

/-!
# What events say about one player and one server

For a single player an event either settles where the player is, or takes the player off one
server, or says nothing. So a list of events does the same twice as once: if one of them settles the
whereabouts of the player, what was before does not matter, and otherwise they take the player off
some servers, which has no effect the second time. The same holds of whether a server is part of
the fleet.

## Main definitions

* `FleetStatus.Stay` — a player's time on a server.
* `FleetStatus.Event.stayAfter`, `FleetStatus.Event.placeAfter` — where a player is after an event,
  with and without the names.
* `FleetStatus.Event.listedAfter` — whether a server is part of the fleet after an event.

## Main results

* `FleetStatus.Event.foldl_stayAfter_twice`, `FleetStatus.Event.foldl_placeAfter_twice`,
  `FleetStatus.Event.foldl_listedAfter_twice` — events that are replayed change nothing.
-/

namespace FleetStatus

/-- The **stay** of a player: the server, and the names given at the join. -/
structure Stay where
  serverId : String
  username : String
  serverName : String
  deriving DecidableEq

/-- The stay that a record tells of. -/
def PlayerRecord.stay (p : PlayerRecord) : Stay := ⟨p.serverId, p.username, p.serverName⟩

namespace Event

/-! ## Players -/

/-- The stay of a player after an event. -/
def stayAfter (uuid : Uuid) (before : Option Stay) : Event → Option Stay
  | .playerJoin uuid' username id name _ => if uuid' = uuid then some ⟨id, username, name⟩ else before
  | .playerLeave uuid' id => if uuid' = uuid then before.filter (·.serverId ≠ id) else before
  | .serverOffline id _ => before.filter (·.serverId ≠ id)
  | .serverHeartbeat .. | .serverOnline .. => before

/-- To keep a stay unless it is on one server is to ask where it is. -/
theorem filter_serverId_ne (v : Option Stay) (id : String) :
    v.filter (·.serverId ≠ id) = if v.map (·.serverId) = some id then none else v := by
  cases v with
  | none => simp
  | some stay => by_cases h : stay.serverId = id <;> simp [h]

/-- An event settles the stay of a player, or takes the player off some servers.

**Proof sketch.** A join of the player settles the stay. Everything else takes the player off one
server or off none. -/
theorem stayAfter_cases (uuid : Uuid) (e : Event) :
    (∃ w, ∀ v, stayAfter uuid v e = w) ∨
      ∃ keep : String → Bool, ∀ v, stayAfter uuid v e = v.filter (keep ·.serverId) := by
  have hall : ∀ v : Option Stay, v = v.filter fun _ => true := fun v => by cases v <;> rfl
  cases e with
  | playerJoin uuid' username id name previous =>
    by_cases h : uuid' = uuid
    · exact .inl ⟨some ⟨id, username, name⟩, fun v => if_pos h⟩
    · exact .inr ⟨fun _ => true, fun v => (if_neg h).trans (hall v)⟩
  | playerLeave uuid' id =>
    by_cases h : uuid' = uuid
    · exact .inr ⟨(· ≠ id), fun v => if_pos h⟩
    · exact .inr ⟨fun _ => true, fun v => (if_neg h).trans (hall v)⟩
  | serverOffline id => exact .inr ⟨(· ≠ id), fun v => rfl⟩
  | serverHeartbeat => exact .inr ⟨fun _ => true, hall⟩
  | serverOnline => exact .inr ⟨fun _ => true, hall⟩

/-- Events settle the stay of a player, or take the player off some servers.

**Proof sketch.** By induction on the events. To settle hides what came before; to take off twice
takes off the servers of both. -/
theorem foldl_stayAfter_cases (uuid : Uuid) (events : List Event) :
    (∃ w, ∀ v, events.foldl (stayAfter uuid) v = w) ∨
      ∃ keep : String → Bool, ∀ v,
        events.foldl (stayAfter uuid) v = v.filter (keep ·.serverId) := by
  induction events with
  | nil => exact .inr ⟨fun _ => true, fun v => by cases v <;> rfl⟩
  | cons e events ih =>
    simp only [List.foldl_cons]
    obtain ⟨w, hw⟩ | ⟨keep, hkeep⟩ := ih
    · exact .inl ⟨w, fun v => hw _⟩
    · obtain ⟨w, hw⟩ | ⟨keep', hkeep'⟩ := stayAfter_cases uuid e
      · exact .inl ⟨w.filter (keep ·.serverId), fun v => by rw [hkeep, hw]⟩
      · refine .inr ⟨fun id => keep' id && keep id, fun v => ?_⟩
        rw [hkeep, hkeep', Option.filter_filter]

/-- **Replayed events settle a stay as they did before.**

**Proof sketch.** What is settled is settled again, and to take a player off the same servers twice
is to do it once. -/
theorem foldl_stayAfter_twice (uuid : Uuid) (events : List Event) (v : Option Stay) :
    events.foldl (stayAfter uuid) (events.foldl (stayAfter uuid) v) =
      events.foldl (stayAfter uuid) v := by
  obtain ⟨w, hw⟩ | ⟨keep, hkeep⟩ := foldl_stayAfter_cases uuid events
  · rw [hw, hw]
  · rw [hkeep, hkeep, Option.filter_filter]
    simp only [Bool.and_self]

/-! ## The server of a player -/

/-- The server of a player after an event. -/
def placeAfter (uuid : Uuid) (before : Option String) : Event → Option String
  | .playerJoin uuid' _ id _ _ => if uuid' = uuid then some id else before
  | .playerLeave uuid' id => if uuid' = uuid then before.filter (· ≠ id) else before
  | .serverOffline id _ => before.filter (· ≠ id)
  | .serverHeartbeat .. | .serverOnline .. => before

/-- The server of a player is the one of the stay. -/
theorem placeAfter_map_serverId (uuid : Uuid) (v : Option Stay) (e : Event) :
    placeAfter uuid (v.map (·.serverId)) e = (stayAfter uuid v e).map (·.serverId) := by
  cases e with
  | playerJoin uuid' username id name previous =>
    rw [placeAfter, stayAfter]
    split <;> rfl
  | playerLeave uuid' id =>
    rw [placeAfter, stayAfter, Option.filter_map]
    split <;> rfl
  | serverOffline id reason =>
    rw [placeAfter, stayAfter, Option.filter_map]
    rfl
  | serverHeartbeat => rfl
  | serverOnline => rfl

/-- Events in order lead to the server of the stay that they lead to. -/
theorem foldl_placeAfter_map_serverId (uuid : Uuid) (events : List Event) (v : Option Stay) :
    events.foldl (placeAfter uuid) (v.map (·.serverId)) =
      (events.foldl (stayAfter uuid) v).map (·.serverId) := by
  induction events generalizing v with
  | nil => rfl
  | cons e events ih => rw [List.foldl_cons, List.foldl_cons, placeAfter_map_serverId, ih]

/-- **Replayed events settle the server of a player as they did before.** -/
theorem foldl_placeAfter_twice (uuid : Uuid) (events : List Event) (v : Option String) :
    events.foldl (placeAfter uuid) (events.foldl (placeAfter uuid) v) =
      events.foldl (placeAfter uuid) v := by
  have hv : v = (v.map fun id => Stay.mk id "" "").map (·.serverId) := by cases v <;> rfl
  rw [hv, foldl_placeAfter_map_serverId, foldl_placeAfter_map_serverId, foldl_stayAfter_twice]

/-! ## Servers -/

/-- Whether a server is part of the fleet after an event. -/
def listedAfter (id : String) (before : Bool) : Event → Bool
  | .serverOnline id' _ => id' = id || before
  | .serverOffline id' _ => id' ≠ id && before
  | .playerJoin .. | .playerLeave .. | .serverHeartbeat .. => before

/-- Events settle whether a server is part of the fleet, or say nothing about it.

**Proof sketch.** By induction on the events: the last one about the server settles it, if there is
one. -/
theorem foldl_listedAfter_cases (id : String) (events : List Event) :
    (∃ w, ∀ v, events.foldl (listedAfter id) v = w) ∨
      ∀ v, events.foldl (listedAfter id) v = v := by
  induction events with
  | nil => exact .inr fun v => rfl
  | cons e events ih =>
    simp only [List.foldl_cons]
    obtain ⟨w, hw⟩ | hsame := ih
    · exact .inl ⟨w, fun v => hw _⟩
    · simp only [hsame]
      cases e with
      | serverOnline id' name =>
        by_cases h : id' = id
        · exact .inl ⟨true, fun v => by simp [listedAfter, h]⟩
        · exact .inr fun v => by simp [listedAfter, h]
      | serverOffline id' reason =>
        by_cases h : id' = id
        · exact .inl ⟨false, fun v => by simp [listedAfter, h]⟩
        · exact .inr fun v => by simp [listedAfter, h]
      | _ => exact .inr fun v => rfl

/-- **Replayed events leave the servers of the fleet as they are.** -/
theorem foldl_listedAfter_twice (id : String) (events : List Event) (v : Bool) :
    events.foldl (listedAfter id) (events.foldl (listedAfter id) v) =
      events.foldl (listedAfter id) v := by
  obtain ⟨w, hw⟩ | hsame := foldl_listedAfter_cases id events
  · rw [hw, hw]
  · rw [hsame]

end Event

end FleetStatus
