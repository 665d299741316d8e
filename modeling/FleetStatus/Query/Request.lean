import FleetStatus.Access
import FleetStatus.Challenge
import FleetStatus.Wire.Field

set_option relaxedAutoImplicit false
set_option autoImplicit false

/-!
# Requests

A request asks for a challenge token or is a query that carries one. Reading is lenient at the end:
a query may stop after its type, and a field that is cut short counts as absent.

```text
magic 8 | type 1 | token 32 | request id 4 | flags 2 | offset 4 | [length 2, bearer token]
```

## Main definitions

* `FleetStatus.Query` — a query, and `FleetStatus.Query.encode` its bytes.
* `FleetStatus.Request` — a challenge request or a query.
* `FleetStatus.Request.parse` — the request in a datagram.
-/

namespace FleetStatus

/-! ## Kinds of query -/

/-- What a request asks for. -/
inductive QueryKind where
  /-- A challenge token. -/
  | challenge
  /-- The summary. -/
  | basic
  /-- A page of the list of players. -/
  | players
  deriving DecidableEq, Inhabited

namespace QueryKind

/-- The type byte of a kind. -/
def code : QueryKind → UInt8
  | .challenge => 0
  | .basic => 1
  | .players => 2

/-- The kind with the given type byte. -/
def ofCode? (c : UInt8) : Option QueryKind :=
  if c = 0 then some .challenge
  else if c = 1 then some .basic
  else if c = 2 then some .players
  else none

/-- The endpoint that a kind of query reads; a challenge reads none. -/
def endpoint? : QueryKind → Option Endpoint
  | .challenge => none
  | .basic => some .basic
  | .players => some .players

/-- The name of a kind. -/
def name : QueryKind → String
  | .challenge => "Challenge"
  | .basic => "Basic"
  | .players => "Players"

end QueryKind

/-! ## Queries -/

/-- A query: every request but the one for a challenge token. -/
structure Query where
  /-- The type byte as received. -/
  typeCode : UInt8
  /-- The challenge token. -/
  token : Option Challenge.Token := none
  /-- The number by which the client knows the reply. -/
  requestId : UInt32 := 0
  flags : UInt16 := 0
  /-- The first player to list. -/
  offset : UInt32 := 0
  /-- The bearer token. -/
  bearer : Option Bytes := none
  deriving DecidableEq

namespace Query

/-- The flag that says that a bearer token follows. -/
def hasBearer : UInt16 := 0x0001

/-- The kind that is answered: a type that asks for no endpoint is answered with the summary. -/
def kind (q : Query) : QueryKind :=
  match QueryKind.ofCode? q.typeCode with
  | some .players => .players
  | _ => .basic

/-- The endpoint that is read. -/
def endpoint (q : Query) : Endpoint :=
  match q.kind with
  | .players => .players
  | _ => .basic

/-- The same query with a bearer token. -/
def withBearer (q : Query) (bearer : Bytes) : Query :=
  { q with bearer := some bearer, flags := q.flags ||| hasBearer }

/-- The bytes `ONEQUERY`. -/
def magic : Bytes := [0x4f, 0x4e, 0x45, 0x51, 0x55, 0x45, 0x52, 0x59]

/-- The bytes of a query. An absent challenge token is written as zeros. -/
def encode (q : Query) : Bytes :=
  magic ++ Wire.u8 q.typeCode ++
    q.token.elim (List.replicate Challenge.tokenSize 0) (·.val) ++
    Wire.u32 q.requestId ++ Wire.u16 q.flags ++ Wire.u32 q.offset ++
    q.bearer.elim [] Wire.counted

end Query

/-- A request in a datagram. -/
inductive Request where
  /-- A request for a challenge token. -/
  | challenge
  /-- A query. -/
  | query (q : Query)
  deriving DecidableEq

namespace Request

/-- The bytes of a request for a challenge token. -/
def challengeBytes : Bytes := Query.magic ++ [QueryKind.challenge.code]

/-! ## Reading -/

/-- Whether a datagram begins with the magic bytes. -/
def isRequest (data : Bytes) : Bool := data.take 8 == Query.magic

/-- The `n` bytes from `start` on, if all of them are there. -/
def slice? (data : Bytes) (start n : Nat) : Option Bytes :=
  let bs := (data.drop start).take n
  if bs.length = n then some bs else none

/-- The number in the `n` bytes from `start` on, or zero. -/
def number (data : Bytes) (start n : Nat) : Nat := ((slice? data start n).map Bytes.ofLittle).getD 0

/-- The challenge token, if all of it is there. -/
def token? (data : Bytes) : Option Challenge.Token :=
  let bs := (data.drop 9).take Challenge.tokenSize
  if h : bs.length = Challenge.tokenSize then some ⟨bs, h⟩ else none

/-- The bearer token, if all of it is there. -/
def bearer? (data : Bytes) : Option Bytes := do
  let n ← (slice? data 51 2).map Bytes.ofLittle
  slice? data 53 n

/-- The **request** in a datagram. -/
def parse (data : Bytes) : Except Wire.ReadError Request :=
  if !isRequest data then .error .badMagic
  else
    match data[8]? with
    | none => .error (.truncated 9 8)
    | some typeCode =>
      if typeCode = QueryKind.challenge.code then .ok .challenge
      else
        let flags := UInt16.ofNat (number data 45 2)
        .ok <| .query {
          typeCode
          token := token? data
          requestId := UInt32.ofNat (number data 41 4)
          flags
          offset := UInt32.ofNat (number data 47 4)
          bearer := if flags &&& Query.hasBearer ≠ 0 then bearer? data else none }

end Request

end FleetStatus
