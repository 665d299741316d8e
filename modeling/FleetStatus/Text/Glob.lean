import FleetStatus.Text.Case

set_option relaxedAutoImplicit false
set_option autoImplicit false

/-!
# Patterns of names

In a pattern `*` stands for any stretch of characters, `?` for one character, and every other
character for itself. Letter case does not matter.

A pattern and a text are gone through side by side. A star stands for nothing at first. Where the
two differ, the last star is made to stand for one character more, and the pattern behind it is
tried again from there. A star before the last one is never gone back to: it could only leave less
text for what comes behind it.

## Main definitions

* `FleetStatus.Text.Glob.Scan` — a place in a pattern and a text.
* `FleetStatus.Text.Glob.Scan.next?`, `FleetStatus.Text.Glob.Scan.Step` — how a scan goes on.
* `FleetStatus.Text.Glob.accepts` — whether a pattern covers a list of characters.
* `FleetStatus.Text.globMatches` — the same for texts, without regard to case.

## Main results

* `FleetStatus.Text.Glob.Scan.Step.lt` — why every scan comes to an end.
-/

namespace FleetStatus.Text

namespace Glob

/-- A **place** in a pattern and a text, and where to go on if the two differ there. -/
structure Scan where
  /-- What is left of the pattern. -/
  pattern : List Char
  /-- What is left of the text. -/
  text : List Char
  /-- The pattern behind the last star, and the text behind what the star stands for. -/
  star : Option (List Char × List Char)
  /-- The place is not before the one behind the last star. -/
  text_le : ∀ behind ∈ star, text.length ≤ behind.2.length

namespace Scan

variable {s s' : Scan}

/-- The place where a pattern and a text begin. -/
def start (pattern text : List Char) : Scan := ⟨pattern, text, none, nofun⟩

/-- The place behind a star that stands for nothing, before a text. -/
def behindStar (pattern text : List Char) : Scan where
  pattern := pattern
  text := text
  star := some (pattern, text)
  text_le := by
    rintro _ ⟨⟩
    exact Nat.le_refl _

/-- The place behind a character of the pattern and one of the text. -/
def advance (s : Scan) : Scan where
  pattern := s.pattern.tail
  text := s.text.tail
  star := s.star
  text_le behind h := by
    rw [List.length_tail]
    exact Nat.le_trans (Nat.sub_le _ _) (s.text_le behind h)

/-- The place behind the last star, if there is one, when it stands for one character more. -/
def retry? (s : Scan) : Option Scan := s.star.map fun behind => behindStar behind.1 behind.2.tail

/-- The **next place**; `none` where the text ends, and where it differs from the pattern and there
is no star to go back to. -/
def next? (s : Scan) : Option Scan :=
  match s.text, s.pattern with
  | [], _ => none
  | _ :: _, [] => s.retry?
  | c :: _, d :: pattern =>
    if d = '*' then some (behindStar pattern s.text)
    else if d = '?' ∨ d = c then some s.advance
    else s.retry?

/-- The text goes on at a place, and the pattern ends there or has a character that does not stand
for the one of the text. -/
def Differs (s : Scan) : Prop :=
  s.text ≠ [] ∧ ∀ d ∈ s.pattern.head?, ∀ c ∈ s.text.head?, d ≠ '*' ∧ ¬(d = '?' ∨ d = c)

/-- How a scan goes on. -/
inductive Step (s : Scan) : Scan → Prop where
  /-- Past a star. -/
  | passes {pattern : List Char} (hpattern : s.pattern = '*' :: pattern) (htext : s.text ≠ []) :
    s.Step (behindStar pattern s.text)
  /-- Past a character of the text for which one of the pattern stands. -/
  | meets {d c : Char} {pattern text : List Char} (hpattern : s.pattern = d :: pattern)
    (htext : s.text = c :: text) (hstar : d ≠ '*') (hmeets : d = '?' ∨ d = c) : s.Step s.advance
  /-- Back to the last star. -/
  | retries {behind : List Char × List Char} (hstar : s.star = some behind) (hdiffers : s.Differs) :
    s.Step (behindStar behind.1 behind.2.tail)

/-- What is next is a step, and without a next place the scan is over.

**Proof sketch.** By cases on the text, the pattern and what is in front of it. Where the two do not
meet, the scan goes back behind the last star, if there is one. -/
theorem next?_cases (s : Scan) : (∃ s', s.next? = some s' ∧ s.Step s') ∨
    s.next? = none ∧ (s.text = [] ∨ s.Differs ∧ s.star = none) := by
  have hretry (hdiffers : s.Differs) (hnext : s.next? = s.retry?) :
      (∃ s', s.next? = some s' ∧ s.Step s') ∨
        s.next? = none ∧ (s.text = [] ∨ s.Differs ∧ s.star = none) := by
    cases hstar : s.star with
    | none => exact .inr ⟨by rw [hnext, retry?, hstar, Option.map_none], .inr ⟨hdiffers, rfl⟩⟩
    | some behind =>
      exact .inl ⟨_, by rw [hnext, retry?, hstar, Option.map_some], .retries hstar hdiffers⟩
  cases htext : s.text with
  | nil => exact .inr ⟨by simp only [next?, htext], .inl rfl⟩
  | cons c text =>
    have hne : s.text ≠ [] := htext ▸ List.cons_ne_nil c text
    simp only [← htext]
    cases hpattern : s.pattern with
    | nil => exact hretry ⟨hne, by simp [hpattern]⟩ (by simp only [next?, htext, hpattern])
    | cons d pattern =>
      by_cases hd : d = '*'
      · subst hd
        exact .inl ⟨behindStar pattern s.text, by simp [next?, htext, hpattern],
          .passes hpattern hne⟩
      · by_cases hmeets : d = '?' ∨ d = c
        · exact .inl ⟨s.advance, by simp only [next?, htext, hpattern, hd, hmeets, if_true, if_false],
            .meets hpattern htext hd hmeets⟩
        · exact hretry ⟨hne, by simpa [hpattern, htext, hd] using hmeets⟩
            (by simp only [next?, htext, hpattern, hd, hmeets, if_false])

/-- What is next is a step. -/
theorem step_of_next? (h : s.next? = some s') : s.Step s' := by
  obtain ⟨_, hnext, hstep⟩ | ⟨hnext, -⟩ := s.next?_cases
  · rw [hnext] at h
    exact Option.some.inj h ▸ hstep
  · rw [hnext] at h
    cases h

/-- How much text the last star can still be made to stand for. -/
def room (s : Scan) : Nat := s.star.elim (s.text.length + 1) (·.2.length)

/-- **Each step leaves less room for the last star, or the same room and less of the pattern.**

**Proof sketch.** A star takes over the room of the rest of the text, which is no more than the room
of the star before it, and shortens the pattern. A letter that meets shortens the pattern and leaves
the room. Going back takes one character off the room. -/
theorem Step.lt (h : s.Step s') : Prod.Lex (· < ·) (· < ·)
    (s'.room, s'.pattern.length) (s.room, s.pattern.length) := by
  rw [Prod.lex_def]
  cases h with
  | passes hpattern htext =>
    have hle : s.text.length ≤ s.room := by
      unfold room
      cases hstar : s.star with
      | none => simp
      | some behind => exact s.text_le behind hstar
    simp only [room, behindStar, Option.elim_some, hpattern, List.length_cons] at hle ⊢
    omega
  | meets hpattern htext =>
    simp only [room, advance, hpattern, htext, List.tail_cons, List.length_cons]
    cases s.star <;> simp
  | retries hstar hdiffers =>
    have hle := s.text_le _ hstar
    have hpos := List.length_pos_iff.2 hdiffers.1
    simp only [room, behindStar, hstar, Option.elim_some, List.length_tail]
    omega

/-- Whether the text was gone through to its end, and only stars are left of the pattern. -/
def succeeds (s : Scan) : Bool := s.text.isEmpty && s.pattern.all (· = '*')

/-- Whether the pattern covers the text, found out from a place on. -/
def run (s : Scan) : Bool :=
  match _h : s.next? with
  | some s' => s'.run
  | none => s.succeeds
termination_by (s.room, s.pattern.length)
decreasing_by exact (step_of_next? _h).lt

end Scan

/-- Whether `pattern` covers `text`. -/
def accepts (pattern text : List Char) : Bool := (Scan.start pattern text).run

end Glob

/-- Whether a pattern covers a text when both are written in lowercase. -/
def globMatches (pattern text : String) : Bool :=
  Glob.accepts (lowerChars pattern) (lowerChars text)

end FleetStatus.Text
