import FleetStatus.Bytes
import FleetStatus.Json

set_option relaxedAutoImplicit false
set_option autoImplicit false

/-!
# Writing JSON

The compact form: no spaces, fields in their order, and only the escapes that are needed.

## Main definitions

* `FleetStatus.Json.print` — the characters of a value.
* `FleetStatus.Json.toText` — the text of a value.
-/

namespace FleetStatus.Json

/-- A character inside a string. Quotes, backslashes and control characters are escaped. -/
def printChar (c : Char) : List Char :=
  if c = '"' then ['\\', '"']
  else if c = '\\' then ['\\', '\\']
  else if c = '\x08' then ['\\', 'b']
  else if c = '\x0c' then ['\\', 'f']
  else if c = '\n' then ['\\', 'n']
  else if c = '\r' then ['\\', 'r']
  else if c = '\t' then ['\\', 't']
  else if c.toNat < 0x20 then
    ['\\', 'u', '0', '0', Bytes.hexDigit (c.toNat / 16), Bytes.hexDigit (c.toNat % 16)]
  else [c]

/-- A string in quotes. -/
def printString (s : String) : List Char := '"' :: s.toList.flatMap printChar ++ ['"']

/-- A number. -/
def printNumeral : Numeral → List Char
  | .integer value => (toString value).toList
  | .decimal mantissa exponent => (toString mantissa).toList ++ 'e' :: (toString exponent).toList

mutual

/-- The **compact form** of a value. -/
def print : Json → List Char
  | .null => ['n', 'u', 'l', 'l']
  | .bool true => ['t', 'r', 'u', 'e']
  | .bool false => ['f', 'a', 'l', 's', 'e']
  | .number n => printNumeral n
  | .string s => printString s
  | .array items => '[' :: printItems items
  | .object fields => '\x7b' :: printFields fields
  | .valueless => ['n', 'u', 'l', 'l']

/-- Items up to the closing bracket. -/
def printItems : List Json → List Char
  | [] => [']']
  | [v] => print v ++ [']']
  | v :: rest => print v ++ ',' :: printItems rest

/-- Fields up to the closing brace. -/
def printFields : List (String × Json) → List Char
  | [] => ['\x7d']
  | [(k, v)] => printString k ++ ':' :: print v ++ ['\x7d']
  | (k, v) :: rest => printString k ++ ':' :: print v ++ ',' :: printFields rest

end

/-- The text of a value. -/
def toText (v : Json) : String := String.ofList v.print

end FleetStatus.Json
