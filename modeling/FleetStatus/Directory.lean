import FleetStatus.Member
import FleetStatus.Text.Glob

set_option relaxedAutoImplicit false
set_option autoImplicit false

/-!
# Looking up servers and players

Questions about a fleet, answered from one snapshot. Patterns are those of
`FleetStatus.Text.globMatches`: server patterns are held against ids, player patterns against names,
and letter case does not matter.

## Main definitions

* `FleetStatus.Snapshot.serversMatching`, `FleetStatus.Snapshot.playersMatching` — by pattern.
* `FleetStatus.Snapshot.playerNamed?` — by name.
* `FleetStatus.Snapshot.onlineServers`, `FleetStatus.Snapshot.playerCountMatching` — counts.
* `FleetStatus.Directory.open?` — whether a member answers such questions at all.
-/

namespace FleetStatus.Snapshot

/-- The servers whose ids match a pattern. -/
def serversMatching (s : Snapshot) (pattern : String) : List ServerRecord :=
  s.servers.filter fun r => Text.globMatches pattern r.serverId

/-- The players whose names match a pattern. -/
def playersMatching (s : Snapshot) (pattern : String) : List PlayerRecord :=
  s.players.filter fun p => Text.globMatches pattern p.username

/-- The first player with the given name, in any letter case. -/
def playerNamed? (s : Snapshot) (name : String) : Option PlayerRecord :=
  let wanted := Text.lowerChars name
  s.players.find? fun p => Text.lowerChars p.username == wanted

/-- The number of servers that are not stale. -/
def onlineServers (s : Snapshot) (now : Int64) (timeout : Nat) : Nat :=
  (s.servers.filter fun r => !r.isStale now timeout).length

/-- The number of players on the servers whose ids match a pattern. -/
def playerCountMatching (s : Snapshot) (pattern : String) : UInt32 :=
  sumCounts ((s.serversMatching pattern).map (·.playerCount))

end FleetStatus.Snapshot

namespace FleetStatus

/-- The **directory** of a fleet: the member whose view the questions are asked about. -/
structure Directory where
  member : Member
  deriving DecidableEq

/-- The directory over a member; `none` unless there is one and it runs. -/
def Directory.open? (member : Option Member) : Option Directory :=
  (member.filter (·.isRunning)).map Directory.mk

end FleetStatus
