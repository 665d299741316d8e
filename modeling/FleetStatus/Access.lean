import FleetStatus.Index
import FleetStatus.Text.Utf8

set_option relaxedAutoImplicit false
set_option autoImplicit false

/-!
# Who may ask what

Two endpoints can be read: a summary of the server, and its list of players. Each is open to
everyone or needs a bearer token to which it is permitted.

## Main definitions

* `FleetStatus.Endpoint`, `FleetStatus.Permissions` — what can be read, and which of it is allowed.
* `FleetStatus.AccessTable` — what everyone may read, and what each bearer token may read.
* `FleetStatus.AccessTable.allows` — the decision.
-/

namespace FleetStatus

/-- What can be read. -/
inductive Endpoint where
  /-- The summary of the server. -/
  | basic
  /-- The list of players. -/
  | players
  deriving DecidableEq, Inhabited

/-- The name of an endpoint. -/
def Endpoint.name : Endpoint → String
  | .basic => "basic"
  | .players => "players"

/-- Which endpoints may be read. -/
structure Permissions where
  basic : Bool := true
  players : Bool := true
  deriving DecidableEq, Inhabited

namespace Permissions

/-- Every endpoint. -/
def all : Permissions := ⟨true, true⟩

/-- No endpoint. -/
def nothing : Permissions := ⟨false, false⟩

/-- Whether an endpoint may be read. -/
def allows (p : Permissions) : Endpoint → Bool
  | .basic => p.basic
  | .players => p.players

end Permissions

/-- What everyone may read, and what the holder of a token may read. -/
structure AccessTable where
  /-- The permissions of requests without a token. -/
  everyone : Permissions := .all
  /-- The permissions of each bearer token. -/
  tokens : Index String Permissions := .empty
  deriving DecidableEq, Inhabited

namespace AccessTable

/-- Whether an endpoint is closed to requests without a token. -/
def isGated (table : AccessTable) (endpoint : Endpoint) : Bool := !table.everyone.allows endpoint

/-- The permissions of the token whose bytes are given. -/
def permissionsFor? (table : AccessTable) (token : Bytes) : Option Permissions :=
  (table.tokens.entries.find? fun e => Text.utf8 e.1 == token).map (·.2)

/-- Whether a request with the given bearer token, if any, may read an endpoint. An empty token
counts as none. -/
def allows (table : AccessTable) (endpoint : Endpoint) (token : Option Bytes) : Bool :=
  table.everyone.allows endpoint ||
    match token with
    | some (b :: bs) => (table.permissionsFor? (b :: bs)).any (·.allows endpoint)
    | _ => false

end AccessTable

end FleetStatus
