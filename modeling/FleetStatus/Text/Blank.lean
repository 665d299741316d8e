set_option relaxedAutoImplicit false
set_option autoImplicit false

/-!
# Blanks

The characters with the Unicode property `White_Space`, and texts without them at their ends.

## Main definitions

* `FleetStatus.Text.isBlankChar`, `FleetStatus.Text.trim`, `FleetStatus.Text.isBlank`.
-/

namespace FleetStatus.Text

/-- The blanks, as ranges of characters. -/
def blankRows : List (Nat × Nat) := [
  (0x09, 0x0d), (0x20, 0x20), (0x85, 0x85), (0xa0, 0xa0), (0x1680, 0x1680), (0x2000, 0x200a),
  (0x2028, 0x2029), (0x202f, 0x202f), (0x205f, 0x205f), (0x3000, 0x3000)]

/-- Whether a character is a blank. -/
def isBlankChar (c : Char) : Bool :=
  blankRows.any fun (first, last) => first ≤ c.toNat && c.toNat ≤ last

/-- The text without the blanks at its two ends. -/
def trim (s : String) : String :=
  String.ofList <|
    (((s.toList.dropWhile isBlankChar).reverse).dropWhile isBlankChar).reverse

/-- Whether a text has nothing but blanks. -/
def isBlank (s : String) : Bool := s.toList.all isBlankChar

/-- The text with the capital letters of ASCII made small. -/
def asciiLower (s : String) : String := String.ofList (s.toList.map Char.toLower)

/-- The text with the small letters of ASCII made capital. -/
def asciiUpper (s : String) : String := String.ofList (s.toList.map Char.toUpper)

end FleetStatus.Text
