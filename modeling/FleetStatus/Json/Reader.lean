import FleetStatus.Bytes
import FleetStatus.Json
import FleetStatus.Text.Digits

set_option relaxedAutoImplicit false
set_option autoImplicit false

/-!
# Reading JSON

The strict grammar: one value with blanks around it and nothing else, no comments, no trailing
commas, no idle zeros, no raw control characters in strings.

Each function reads from the front of a list of characters and gives back the rest. The numbers that
the functions count down are bounds on the characters they may look at.

## Main definitions

* `FleetStatus.Json.read` — a value at the front.
* `FleetStatus.Json.parse?` — the value that a text is.
-/

namespace FleetStatus.Json

/-- Whether a character may stand between the parts of a document. -/
def isSpace (c : Char) : Bool := c = ' ' || c = '\n' || c = '\t' || c = '\r'

/-- The rest after spaces. -/
def skipSpace (cs : List Char) : List Char := cs.dropWhile isSpace

/-! ## Strings -/

/-- The 16-bit unit in four hexadecimal digits. -/
def unit? : List Char → Option (Nat × List Char)
  | a :: b :: c :: d :: rest => do
    let n := ((← Bytes.hexValue? a) * 16 + (← Bytes.hexValue? b)) * 256 +
      ((← Bytes.hexValue? c) * 16 + (← Bytes.hexValue? d))
    return (n, rest)
  | _ => none

/-- The second half of a surrogate pair, escaped. -/
def lowHalf? : List Char → Option (Nat × List Char)
  | '\\' :: 'u' :: rest => do
    let (n, rest) ← unit? rest
    if 0xdc00 ≤ n ∧ n ≤ 0xdfff then some (n, rest) else none
  | _ => none

/-- The character of an escape whose backslash was read. Half of a surrogate pair is none. -/
def escape? : List Char → Option (Option Char × List Char)
  | '"' :: rest => some ('"', rest)
  | '\\' :: rest => some ('\\', rest)
  | '/' :: rest => some ('/', rest)
  | 'b' :: rest => some ('\x08', rest)
  | 'f' :: rest => some ('\x0c', rest)
  | 'n' :: rest => some ('\n', rest)
  | 'r' :: rest => some ('\r', rest)
  | 't' :: rest => some ('\t', rest)
  | 'u' :: rest => do
    let (n, rest) ← unit? rest
    if 0xdc00 ≤ n ∧ n ≤ 0xdfff then some (none, rest)
    else if 0xd800 ≤ n ∧ n ≤ 0xdbff then
      match lowHalf? rest with
      | some (m, rest) => some (Char.ofNat (0x10000 + (n - 0xd800) * 0x400 + (m - 0xdc00)), rest)
      | none => some (none, rest)
    else some (Char.ofNat n, rest)
  | _ => none

/-- The string whose opening quote was read, behind the characters of `done` (last first); `none` in
the place of the text if `whole` is false or a character is missing. -/
def readString (done : List Char) (whole : Bool) : Nat → List Char →
    Option (Option String × List Char)
  | 0, _ => none
  | more + 1, cs =>
    match cs with
    | [] => none
    | '"' :: rest => some (if whole then some (String.ofList done.reverse) else none, rest)
    | '\\' :: rest =>
      match escape? rest with
      | none => none
      | some (some c, rest) => readString (c :: done) whole more rest
      | some (none, rest) => readString done false more rest
    | c :: rest => if c.toNat < 0x20 then none else readString (c :: done) whole more rest

/-! ## Numbers -/

/-- The digits at the front and the rest. -/
def spanDigits (cs : List Char) : List Char × List Char :=
  (cs.takeWhile Char.isDigit, cs.dropWhile Char.isDigit)

/-- The digits of the integer part: a zero, or digits that do not begin with one. -/
def wholeDigits? : List Char → Option (List Char × List Char)
  | '0' :: rest => some (['0'], rest)
  | cs =>
    match spanDigits cs with
    | ([], _) => none
    | found => some found

/-- The digits after a point, if there is a point. -/
def fraction? : List Char → Option (Option (List Char) × List Char)
  | '.' :: rest =>
    match spanDigits rest with
    | ([], _) => none
    | (digits, rest) => some (some digits, rest)
  | cs => some (none, cs)

/-- All exponents from this one on stand for this one: no number is written with as many digits. -/
def exponentBound : Nat := 1 <<< 31

/-- The exponent after its letter, if there is a letter. -/
def exponent? : List Char → Option (Option Int × List Char)
  | [] => some (none, [])
  | c :: rest =>
    if c = 'e' ∨ c = 'E' then
      let (negative, rest) :=
        match rest with
        | '-' :: rest => (true, rest)
        | '+' :: rest => (false, rest)
        | rest => (false, rest)
      match spanDigits rest with
      | ([], _) => none
      | (digits, rest) =>
        let n : Int := (Text.Digits.value? 10 exponentBound digits).getD exponentBound
        some (some (if negative then -n else n), rest)
    else some (none, c :: rest)

/-- A number at the front. -/
def readNumber (cs : List Char) : Option (Numeral × List Char) := do
  let (negative, cs) :=
    match cs with
    | '-' :: rest => (true, rest)
    | cs => (false, cs)
  let (whole, cs) ← wholeDigits? cs
  let (fraction, cs) ← fraction? cs
  let (exponent, cs) ← exponent? cs
  return (.ofDigits negative whole fraction exponent, cs)

/-! ## Values -/

/-- The rest after the given characters. -/
def afterWord? (word cs : List Char) : Option (List Char) :=
  if cs.take word.length = word then some (cs.drop word.length) else none

/-- The object of fields; one whose name is no text makes it stand for nothing. -/
def ofFields (fields : List (Option String × Json)) : Json :=
  if fields.all (·.1.isSome) then .object (fields.map fun (k, v) => (k.getD "", v)) else .valueless

mutual

/-- A value after spaces. -/
def read : Nat → List Char → Option (Json × List Char)
  | 0, _ => none
  | more + 1, cs =>
    match skipSpace cs with
    | [] => none
    | '"' :: rest => do
      let (s, rest) ← readString [] true more rest
      return (s.elim .valueless .string, rest)
    | '[' :: rest =>
      match skipSpace rest with
      | ']' :: rest => some (.array [], rest)
      | _ => do
        let (items, rest) ← readItems more rest
        return (.array items, rest)
    | '\x7b' :: rest =>
      match skipSpace rest with
      | '\x7d' :: rest => some (.object [], rest)
      | _ => do
        let (fields, rest) ← readFields more rest
        return (ofFields fields, rest)
    | 'n' :: rest => do return (.null, ← afterWord? ['u', 'l', 'l'] rest)
    | 't' :: rest => do return (.bool true, ← afterWord? ['r', 'u', 'e'] rest)
    | 'f' :: rest => do return (.bool false, ← afterWord? ['a', 'l', 's', 'e'] rest)
    | cs => do
      let (n, rest) ← readNumber cs
      return (.number n, rest)

/-- One or more items up to the closing bracket. -/
def readItems : Nat → List Char → Option (List Json × List Char)
  | 0, _ => none
  | more + 1, cs => do
    let (v, rest) ← read more cs
    match skipSpace rest with
    | ']' :: rest => return ([v], rest)
    | ',' :: rest =>
      let (items, rest) ← readItems more rest
      return (v :: items, rest)
    | _ => none

/-- One or more fields up to the closing brace. -/
def readFields : Nat → List Char → Option (List (Option String × Json) × List Char)
  | 0, _ => none
  | more + 1, cs => do
    match skipSpace cs with
    | '"' :: rest =>
      let (k, rest) ← readString [] true more rest
      match skipSpace rest with
      | ':' :: rest =>
        let (v, rest) ← read more rest
        match skipSpace rest with
        | '\x7d' :: rest => return ([(k, v)], rest)
        | ',' :: rest =>
          let (fields, rest) ← readFields more rest
          return ((k, v) :: fields, rest)
        | _ => none
      | _ => none
    | _ => none

end

/-- The **value that a text is**. Every step of the reading takes a character, so twice the length
bounds the steps. -/
def parse? (s : String) : Option Json :=
  let cs := s.toList
  match read (2 * cs.length + 1) cs with
  | some (v, rest) => if (skipSpace rest).isEmpty then some v else none
  | none => none

end FleetStatus.Json
