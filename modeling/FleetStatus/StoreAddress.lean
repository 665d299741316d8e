import FleetStatus.Address.Text
import FleetStatus.Presence.Store
import FleetStatus.Text.Utf8

set_option relaxedAutoImplicit false
set_option autoImplicit false

/-!
# Addresses of Redis servers

The address of a Redis server is a URL. The schemes `redis` and `rediss` name a host, the schemes
`unix` and `redis+unix` a socket file; the rest of the URL tells the database, the credentials and
the version of the protocol.

## Main definitions

* `FleetStatus.StoreAddress` — what an address tells.
* `FleetStatus.StoreAddress.ofText?` — reading an address.
* `FleetStatus.StoreAddress.refusal` — why no store is reached by a text.
-/

namespace FleetStatus

/-- How a Redis server is reached. -/
inductive StoreRoute where
  /-- By the network, possibly encrypted. -/
  | host (name : String) (port : UInt16) (secure : Bool)
  /-- By a socket file. -/
  | socket (path : String)
  deriving DecidableEq, Inhabited

/-- The address of a Redis server. -/
structure StoreAddress where
  route : StoreRoute
  database : Int := 0
  deriving DecidableEq, Inhabited

namespace StoreAddress

/-! ## Parts of a URL -/

/-- The text before the first `c`, and the text after it if there is a `c`. -/
def cut (c : Char) (cs : List Char) : List Char × Option (List Char) :=
  match cs.span (· ≠ c) with
  | (front, []) => (front, none)
  | (front, _ :: back) => (front, some back)

/-- The text without control characters and spaces at its ends and without line breaks and tabs
anywhere. -/
def cleaned (cs : List Char) : List Char :=
  let idle (c : Char) : Bool := c.toNat ≤ 0x20
  let trimmed := ((cs.dropWhile idle).reverse.dropWhile idle).reverse
  trimmed.filter fun c => !(c = '\t' || c = '\n' || c = '\r')

/-- The scheme in small letters and the text after it. -/
def scheme? (cs : List Char) : Option (String × List Char) :=
  match cs.span fun c => c.isAlphanum || c = '+' || c = '-' || c = '.' with
  | (c :: name, ':' :: rest) =>
    if c.isAlpha then some (String.ofList ((c :: name).map Char.toLower), rest) else none
  | _ => none

/-- A text with escapes, as bytes: a percent sign and two hexadecimal digits stand for a byte. -/
def unescape : List Char → Bytes
  | '%' :: a :: b :: rest =>
    match Bytes.hexValue? a, Bytes.hexValue? b with
    | some x, some y => UInt8.ofNat (16 * x + y) :: unescape rest
    | _, _ => Text.utf8 "%" ++ unescape (a :: b :: rest)
  | c :: rest => Text.utf8 (String.singleton c) ++ unescape rest
  | [] => []

/-- The last value that a query gives for a key. A plus sign in a query stands for a space. -/
def value? (query : List Char) (key : String) : Option Bytes :=
  let plain (cs : List Char) : Bytes := unescape (cs.map fun c => if c = '+' then ' ' else c)
  let pairs := (query.splitOn '&').map fun pair => (cut '=' pair)
  ((pairs.reverse.find? fun pair => plain pair.1 == Text.utf8 key)).map fun pair =>
    plain (pair.2.getD [])

/-- A whole number of 64 bits with an optional sign. -/
def integer? (cs : List Char) : Option Int :=
  let (negative, digits) := match cs with
    | '-' :: rest => (true, rest)
    | '+' :: rest => (false, rest)
    | cs => (false, cs)
  let value := (Text.Digits.value? 10 UInt64.size digits).map fun size =>
    if negative then -(size : Int) else size
  value.filter fun n => Int64.minValue.toInt ≤ n && n ≤ Int64.maxValue.toInt

/-- The number of dots, plain or escaped, if there is nothing else. -/
def dots? : List Char → Option Nat
  | [] => some 0
  | '.' :: rest => (dots? rest).map (· + 1)
  | '%' :: '2' :: c :: rest => if c = 'e' || c = 'E' then (dots? rest).map (· + 1) else none
  | _ => none

/-- Whether a part of a path names a drive: a letter and a colon or a bar, and then the end or a
backslash. -/
def isDrive : List Char → Bool
  | c :: mark :: rest => c.isAlpha && (mark = ':' || mark = '|') && rest.head?.all (· = '\\')
  | _ => false

/-- The parts of a path without the last one (last first). A drive stays. -/
def parent : List (List Char) → List (List Char)
  | [] => []
  | part :: before => if isDrive part then part :: before else before

/-- The parts of a path: those that are one dot are left out, those that are two dots take the part
before them away. -/
def segments (path : List Char) : List (List Char) :=
  let kept := (path.splitOn '/').foldl (fun done part =>
    match dots? part with
    | some 1 => done
    | some 2 => parent done
    | _ => part :: done) []
  kept.reverse

/-- The database that a path names; none is number zero. -/
def database? (path : List Char) : Option Int :=
  let name := ['/'].intercalate (segments path)
  let name := ((name.dropWhile (· = '/')).reverse.dropWhile (· = '/')).reverse
  if name.isEmpty then some 0 else integer? name

/-- Whether a host name has none of the characters that would be misread. -/
def isHostName (cs : List Char) : Bool :=
  cs.all fun c => !("\x00\t\n\r #/:<>?@[\\]^|".toList.contains c)

/-- The host, which is a name or a version 6 address in square brackets, and the text after it. -/
def host? (cs : List Char) : Option (String × List Char) :=
  match cs with
  | '[' :: rest =>
    match cut ']' rest with
    | (inner, some rest) =>
      match Ip.ofText? (String.ofList inner) with
      | some (.v6 a) => some ((Ip.v6 a).toText, rest)
      | _ => none
    | (_, none) => none
  | cs =>
    let (name, rest) := cs.span (· ≠ ':')
    if isHostName name then some (String.ofList name, rest) else none

/-- The port of Redis. -/
def defaultPort : UInt16 := 6379

/-- The port after a colon and the text after it, which is empty or begins with a backslash; no
digits stand for the port of Redis. -/
def port? : List Char → Option (UInt16 × List Char)
  | [] => some (defaultPort, [])
  | ':' :: cs =>
    let (digits, rest) := cs.span Char.isDigit
    if rest.head?.any (· ≠ '\\') then none
    else if digits.isEmpty then some (defaultPort, rest)
    else (Text.Digits.value? 10 UInt16.size digits).map fun n => (UInt16.ofNat n, rest)
  | _ => none

/-- The path of a URL: a backslash after the port begins it as well. -/
def pathFrom (rest path : List Char) : List Char :=
  if rest.isEmpty then path else '/' :: rest ++ path

/-- Who connects, as far as an authority tells, and the text after it. The last at sign ends the
credentials. -/
def credentials (authority : List Char) : List Char × List Char :=
  let back := authority.reverse.takeWhile (· ≠ '@')
  (authority.take (authority.length - back.length - 1), back.reverse)

/-- Whether the name and the password before a host are text. -/
def areText (credentials : List Char) : Bool :=
  let (name, password) := cut ':' credentials
  (Text.ofUtf8? (unescape name)).isSome && (Text.ofUtf8? (unescape (password.getD []))).isSome

/-- Whether the version of the protocol that a query asks for is known. -/
def knowsProtocol (query : List Char) : Bool :=
  (value? query "protocol").all fun v => ["2", "3", "resp2", "resp3"].any (Text.utf8 · == v)

/-! ## Addresses -/

/-- The address of a server on the network. -/
def ofNetwork? (secure : Bool) (authority path query : List Char) (fragment : Option (List Char)) :
    Option StoreAddress := do
  let (who, place) := credentials authority
  let (name, rest) ← host? place
  let (port, rest) ← port? rest
  let database ← database? (pathFrom rest path)
  if name = "" || !areText who || !knowsProtocol query ||
      (secure && fragment.any (· ≠ "insecure".toList)) then none
  else some { route := .host name port secure, database }

/-- The address of a socket file. The only host that can have it is the local one, which may be left
out if nobody is named to connect. -/
def ofSocket? (authority path query : List Char) : Option StoreAddress := do
  let (_, place) := credentials authority
  let (name, rest) ← host? place
  let (_, rest) ← port? rest
  let path := pathFrom rest path
  let isLocal := authority.isEmpty || authority = [':', '@'] || name = "localhost"
  let database ← match value? query "db" with
    | none => some 0
    | some v => (Text.ofUtf8? v).bind fun s => integer? s.toList
  if isLocal && path.head? = some '/' && knowsProtocol query then
    some { route := .socket (String.ofList path), database }
  else none

/-- The **address in a text**. -/
def ofText? (s : String) : Option StoreAddress := do
  let (scheme, rest) ← scheme? (cleaned s.toList)
  let (rest, fragment) := cut '#' rest
  let (rest, query) := cut '?' rest
  let query := query.getD []
  let (authority, path) := match rest with
    | '/' :: '/' :: rest => rest.span (· ≠ '/')
    | path => ([], path)
  match scheme with
  | "redis" => ofNetwork? false authority path query fragment
  | "rediss" => ofNetwork? true authority path query fragment
  | "unix" | "redis+unix" => ofSocket? authority path query
  | _ => none

/-- Why no store is reached by a text when no server answers: the text is no address, or nobody is
there. -/
def refusal (s : String) : StoreError := if (ofText? s).isSome then .unreachable else .badAddress

end StoreAddress

end FleetStatus
