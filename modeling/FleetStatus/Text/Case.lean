import FleetStatus.Text.Case.Table

set_option relaxedAutoImplicit false
set_option autoImplicit false

/-!
# Lowercase

The lowercase form of a text, as the Unicode standard defines it without regard to a language: each
character has a form of its own, `İ` has one of two characters, and the capital sigma becomes a
final sigma at the end of a word.

## Main definitions

* `FleetStatus.Text.lowerChars` — the characters of the lowercase form of a text.
-/

namespace FleetStatus.Text

namespace Case

/-- Whether a character is in one of the ranges. -/
def inRows (rows : Array (Nat × Nat)) (c : Char) : Bool :=
  rows.any fun (first, last) => first ≤ c.toNat && c.toNat ≤ last

/-- Whether a character is passed over when the case of a neighbour is looked for. -/
def isIgnorable (c : Char) : Bool := inRows ignorableRows c

/-- Whether the first character that is not passed over has a case. -/
def leadsToCased (cs : List Char) : Bool :=
  match cs.dropWhile isIgnorable with
  | [] => false
  | c :: _ => inRows casedRows c

/-- Whether a sigma ends a word, given what stands before it (nearest first) and after it. -/
def endsWord (before after : List Char) : Bool := leadsToCased before && !leadsToCased after

/-- The lowercase form of a character other than the capital sigma. -/
def lower (c : Char) : List Char :=
  if c = 'İ' then ['i', '\u0307']
  else
    let row := lowerRows.find? fun (first, last, step, _) =>
      first ≤ c.toNat && c.toNat ≤ last && (c.toNat - first) % step == 0
    match row with
    | some (first, _, _, target) => [Char.ofNat (target + (c.toNat - first))]
    | none => [c]

/-- The lowercase form of a text after `before` (nearest first), behind the characters of `done`
(last first). -/
def lowerAfter (before done : List Char) : List Char → List Char
  | [] => done.reverse
  | c :: rest =>
    let form := if c = 'Σ' then [if endsWord before rest then 'ς' else 'σ'] else lower c
    lowerAfter (c :: before) (form.reverseAux done) rest

end Case

/-- The characters of the **lowercase form** of a text. -/
def lowerChars (s : String) : List Char := Case.lowerAfter [] [] s.toList

end FleetStatus.Text
