import FleetStatus.Text.Glob
import Mathlib.Data.List.Forall2

set_option relaxedAutoImplicit false
set_option autoImplicit false

/-!
# What a pattern covers

A pattern covers a text that can be cut into consecutive pieces, one for each character of the
pattern, such that each character may stand for its piece.

A scan finds out whether there is such a cut, and it need not go back further than to the last star.
Say that a star comes later, and that the part of the pattern between the two stars was laid on the
text as far to the front as it could be. In every cut that gives more to the first of the two stars
the later star begins behind that place. But the later star may as well begin at the place and stand
for more.

## Main definitions

* `FleetStatus.Text.Glob.StandsFor` — what a character of a pattern may stand for.
* `FleetStatus.Text.Glob.Covers` — a pattern covers a text.
* `FleetStatus.Text.Glob.Scan.Laid`, `FleetStatus.Text.Glob.Scan.Hopeful` — what a scan has done
  since the last star, and what it still can find.

## Main results

* `FleetStatus.Text.Glob.Covers.of_laid` — the cut that a later star makes needless.
* `FleetStatus.Text.Glob.Scan.Step.laid`, `FleetStatus.Text.Glob.Scan.Step.hopeful_iff` — what a
  step keeps.
* `FleetStatus.Text.Glob.Scan.run_eq_true_iff` — what a scan finds out.
* `FleetStatus.Text.globMatches_eq_true_iff` — a pattern matches a text when it covers the text.
-/

namespace FleetStatus.Text

namespace Glob

variable {d c : Char} {pattern run text part piece : List Char}

/-! ## Covering -/

/-- What a character of a pattern **may stand for**: a star for any piece of a text, a question mark
for one character, and every other character for itself. -/
def StandsFor (d : Char) (piece : List Char) : Prop :=
  if d = '*' then True else if d = '?' then piece.length = 1 else piece = [d]

/-- The pattern **covers** the text: the text is made of consecutive pieces, one for each character
of the pattern, and each character may stand for its piece. -/
def Covers (pattern text : List Char) : Prop :=
  ∃ pieces : List (List Char), List.Forall₂ StandsFor pattern pieces ∧ pieces.flatten = text

/-- A character of a pattern other than a star stands for a character of a text. -/
def Meets (d c : Char) : Prop := d ≠ '*' ∧ (d = '?' ∨ d = c)

/-- A character other than a star stands for one character, any one if it is a question mark. -/
theorem standsFor_iff_of_ne_star (hd : d ≠ '*') :
    StandsFor d piece ↔ ∃ c, piece = [c] ∧ (d = '?' ∨ d = c) := by
  rw [StandsFor, if_neg hd]
  split
  next hq =>
    rw [List.length_eq_one_iff]
    simp [hq]
  next hq => simp [hq]

/-- The empty pattern covers the empty text only. -/
theorem covers_nil : Covers [] text ↔ text = [] := by
  constructor
  · rintro ⟨_, hpieces, rfl⟩
    rw [List.forall₂_nil_left_iff.1 hpieces]
    rfl
  · rintro rfl
    exact ⟨[], .nil, rfl⟩

/-- A pattern covers a text when its first character may stand for the beginning of the text and its
rest covers what comes behind. -/
theorem covers_cons : Covers (d :: pattern) text ↔
    ∃ piece rest, text = piece ++ rest ∧ StandsFor d piece ∧ Covers pattern rest := by
  constructor
  · rintro ⟨_, hpieces, rfl⟩
    cases hpieces with
    | cons hfirst hrest => exact ⟨_, _, List.flatten_cons, hfirst, _, hrest, rfl⟩
  · rintro ⟨piece, _, rfl, hfirst, pieces, hrest, rfl⟩
    exact ⟨piece :: pieces, .cons hfirst hrest, List.flatten_cons⟩

/-- Behind a star any end of the text may be covered.

**Proof sketch.** The star may stand for anything, so the text before that end is what it stands
for. -/
theorem covers_star : Covers ('*' :: pattern) text ↔ ∃ rest, rest <:+ text ∧ Covers pattern rest := by
  rw [covers_cons]
  constructor
  · rintro ⟨piece, rest, rfl, -, hrest⟩
    exact ⟨rest, List.suffix_append piece rest, hrest⟩
  · rintro ⟨rest, ⟨piece, rfl⟩, hrest⟩
    exact ⟨piece, rest, rfl, trivial, hrest⟩

/-- A star stands for nothing, or for the first character and more.

**Proof sketch.** An end of a text is the text itself or an end of what follows its first character.
-/
theorem covers_star_iff_tail :
    Covers ('*' :: pattern) text ↔ Covers pattern text ∨ Covers ('*' :: pattern) text.tail := by
  simp only [covers_star]
  constructor
  · rintro ⟨rest, hsuffix, hrest⟩
    rcases text with _ | ⟨c, text⟩
    · rw [List.suffix_nil.1 hsuffix] at hrest
      exact .inl hrest
    · rcases List.suffix_cons_iff.1 hsuffix with rfl | hsuffix
      · exact .inl hrest
      · exact .inr ⟨rest, hsuffix, hrest⟩
  · rintro (hrest | ⟨rest, hsuffix, hrest⟩)
    · exact ⟨text, List.suffix_rfl, hrest⟩
    · exact ⟨rest, hsuffix.trans (List.tail_suffix text), hrest⟩

/-- A character other than a star stands for the first character of the text. -/
theorem covers_cons_of_ne_star (hd : d ≠ '*') : Covers (d :: pattern) text ↔
    ∃ c rest, text = c :: rest ∧ (d = '?' ∨ d = c) ∧ Covers pattern rest := by
  simp only [covers_cons, standsFor_iff_of_ne_star hd]
  constructor
  · rintro ⟨_, rest, rfl, ⟨c, rfl, hmeets⟩, hrest⟩
    exact ⟨c, rest, rfl, hmeets, hrest⟩
  · rintro ⟨c, rest, rfl, hmeets, hrest⟩
    exact ⟨[c], rest, rfl, ⟨c, rfl, hmeets⟩, hrest⟩

/-- In the empty text a star stands for nothing. -/
theorem covers_star_nil : Covers ('*' :: pattern) [] ↔ Covers pattern [] := by
  simp [covers_star]

/-- The text without characters is covered by stars only.

**Proof sketch.** By induction on the pattern. A character other than a star needs one of the text.
-/
theorem covers_nil_right : Covers pattern [] ↔ ∀ d ∈ pattern, d = '*' := by
  induction pattern with
  | nil => simp [covers_nil]
  | cons d pattern ih =>
    by_cases hd : d = '*'
    · simp [hd, covers_star_nil, ih]
    · simp [hd, covers_cons_of_ne_star hd]

/-- A star may stand for more. -/
theorem Covers.star_of_suffix {text' : List Char} (h : Covers ('*' :: pattern) text)
    (hsuffix : text <:+ text') : Covers ('*' :: pattern) text' := by
  obtain ⟨rest, hrest, hcovers⟩ := covers_star.1 h
  exact covers_star.2 ⟨rest, hrest.trans hsuffix, hcovers⟩

/-- Two stars in a row are as good as one.

**Proof sketch.** What the second star may leave out the first one may leave out, too. -/
theorem covers_star_star : Covers ('*' :: '*' :: pattern) text ↔ Covers ('*' :: pattern) text := by
  constructor
  · intro h
    obtain ⟨rest, hsuffix, hrest⟩ := covers_star.1 h
    exact hrest.star_of_suffix hsuffix
  · exact fun h => covers_star.2 ⟨text, List.suffix_rfl, h⟩

/-! ## A later star -/

/-- Behind characters that stand for one character each, the rest of the pattern covers what is
behind as many characters of the text.

**Proof sketch.** By induction on the characters that were laid. -/
theorem Covers.drop_of_laid (hlaid : List.Forall₂ Meets run part)
    (h : Covers (run ++ pattern) text) : Covers pattern (text.drop part.length) := by
  induction hlaid generalizing text with
  | nil => exact h
  | cons hmeets _ ih =>
    rw [List.cons_append, covers_cons_of_ne_star hmeets.1] at h
    obtain ⟨c, rest, rfl, -, hrest⟩ := h
    exact ih hrest

/-- **A cut that gives more to an earlier star is needless**: a run of the pattern behind the star
was laid on the text, and in the cut the pattern behind the run covers an end of the text behind
it. -/
theorem Covers.of_laid (hlaid : List.Forall₂ Meets run part)
    (h : Covers ('*' :: (run ++ pattern)) (part ++ text)) : Covers ('*' :: pattern) text := by
  obtain ⟨rest, ⟨before, hsplit⟩, hrest⟩ := covers_star.1 h
  have hend : rest.drop part.length = text.drop before.length :=
    calc rest.drop part.length
        = (before ++ rest).drop (before.length + part.length) := by
          rw [← List.drop_drop, List.drop_left]
      _ = text.drop before.length := by
          rw [hsplit, Nat.add_comm, ← List.drop_drop, List.drop_left]
  exact covers_star.2 ⟨_, hend ▸ List.drop_suffix _ _, hrest.drop_of_laid hlaid⟩

/-! ## What a scan finds out -/

namespace Scan

variable {s s' : Scan} {behind : List Char × List Char}

/-- What lies between the last star and the place was laid on the text, character by character. -/
def Laid (s : Scan) : Prop :=
  ∀ behind ∈ s.star, ∃ run part, behind.1 = run ++ s.pattern ∧ behind.2 = part ++ s.text ∧
    List.Forall₂ Meets run part

/-- What a scan **still can find**: that the rest of the pattern covers the rest of the text, or
that it does so when the last star stands for more. -/
def Hopeful (s : Scan) : Prop :=
  Covers s.pattern s.text ∨ ∃ behind ∈ s.star, Covers ('*' :: behind.1) behind.2.tail

/-- At the start no star was passed. -/
theorem laid_start (pattern text : List Char) : (start pattern text).Laid := nofun

/-- At the start a scan can find what there is. -/
theorem hopeful_start : (start pattern text).Hopeful ↔ Covers pattern text :=
  or_iff_left fun ⟨_, hstar, _⟩ => nomatch hstar

/-- Behind a star nothing was laid yet. -/
theorem laid_behindStar (pattern text : List Char) : (behindStar pattern text).Laid := by
  rintro _ ⟨⟩
  exact ⟨[], [], rfl, rfl, .nil⟩

/-- Behind a star a scan can find what the star covers. -/
theorem hopeful_behindStar : (behindStar pattern text).Hopeful ↔ Covers ('*' :: pattern) text := by
  rw [covers_star_iff_tail]
  exact or_congr_right ⟨fun ⟨_, hstar, h⟩ => by cases hstar; exact h, fun h => ⟨_, rfl, h⟩⟩

/-- What the last star can make good by standing for more, a star at the place could make good.

**Proof sketch.** The star that stands for more covers more, and there the pattern that was laid
since then is laid at another place, which is needless (`Covers.of_laid`). -/
theorem Laid.covers_star (h : s.Laid) (hstar : behind ∈ s.star)
    (hcovers : Covers ('*' :: behind.1) behind.2.tail) : Covers ('*' :: s.pattern) s.text := by
  obtain ⟨run, part, hpattern, htext, hlaid⟩ := h behind hstar
  have hwhole := hcovers.star_of_suffix (List.tail_suffix _)
  rw [hpattern, htext] at hwhole
  exact hwhole.of_laid hlaid

/-- Where the text differs from the pattern, it is not covered. -/
theorem Differs.not_covers (h : s.Differs) : ¬Covers s.pattern s.text := by
  obtain ⟨hne, hdiffers⟩ := h
  obtain ⟨c, text, htext⟩ := List.exists_cons_of_ne_nil hne
  rw [htext] at hdiffers ⊢
  cases hpattern : s.pattern with
  | nil => simp [covers_nil]
  | cons d pattern =>
    obtain ⟨hd, hmeets⟩ := hdiffers d (by rw [hpattern]; rfl) c rfl
    rw [covers_cons_of_ne_star hd]
    rintro ⟨_, _, ⟨⟩, hmeets', -⟩
    exact hmeets hmeets'

/-- A step keeps what was laid on the text in order. -/
theorem Step.laid (h : s.Step s') (hlaid : s.Laid) : s'.Laid := by
  cases h with
  | passes => exact laid_behindStar _ _
  | retries => exact laid_behindStar _ _
  | meets hpattern htext hd hmeets =>
    intro behind hstar
    obtain ⟨run, part, hrun, hpart, hall⟩ := hlaid behind hstar
    refine ⟨run ++ [_], part ++ [_], ?_, ?_, List.rel_append hall (.cons ⟨hd, hmeets⟩ .nil)⟩
    · simp [hrun, hpattern, advance]
    · simp [hpart, htext, advance]

/-- **A step neither loses nor invents anything** that the scan still can find.

**Proof sketch.** By cases on the step. To pass a star forgets the star before, which could make
good only what the new one can. To go on with one character keeps the star and needs no other
character at the place. To try again moves the beginning behind the star by one, after the scan
failed at the place. -/
theorem Step.hopeful_iff (h : s.Step s') (hlaid : s.Laid) : s'.Hopeful ↔ s.Hopeful := by
  cases h with
  | passes hpattern htext =>
    rw [hopeful_behindStar, ← hpattern]
    refine ⟨.inl, ?_⟩
    rintro (hcovers | ⟨behind, hstar, hcovers⟩)
    · exact hcovers
    · have hagain := hlaid.covers_star hstar hcovers
      rw [hpattern, covers_star_star] at hagain
      exact hpattern ▸ hagain
  | meets hpattern htext hd hmeets =>
    refine or_congr_left ?_
    rw [hpattern, htext, covers_cons_of_ne_star hd]
    simp only [advance, hpattern, htext, List.tail_cons]
    constructor
    · exact fun hrest => ⟨_, _, rfl, hmeets, hrest⟩
    · rintro ⟨_, _, ⟨⟩, -, hrest⟩
      exact hrest
  | retries hstar hdiffers =>
    rw [hopeful_behindStar, Hopeful, or_iff_right hdiffers.not_covers, hstar]
    simp

/-- Where a scan is over, it tells what it found.

**Proof sketch.** A scan is over at the end of the text, where only stars may be left, or where the
text differs from the pattern and no star was passed. -/
theorem succeeds_iff (hlaid : s.Laid) (h : s.next? = none) : s.succeeds = true ↔ s.Hopeful := by
  obtain ⟨_, hnext, -⟩ | ⟨-, htext | ⟨hdiffers, hstar⟩⟩ := s.next?_cases
  · rw [hnext] at h
    cases h
  · have hlast : s.Hopeful ↔ Covers s.pattern s.text := by
      refine or_iff_left_of_imp ?_
      rintro ⟨behind, hstar, hcovers⟩
      have hagain := hlaid.covers_star hstar hcovers
      rwa [htext, covers_star_nil, ← htext] at hagain
    rw [hlast, htext, covers_nil_right]
    simp [succeeds, htext]
  · have hnothing : ¬s.Hopeful := by
      rintro (hcovers | ⟨_, hmem, -⟩)
      · exact hdiffers.not_covers hcovers
      · rw [hstar] at hmem
        cases hmem
    simp [succeeds, hnothing, hdiffers.1]

/-- **What a scan finds out** is what it still could find.

**Proof sketch.** By induction along the scan: no step changes what it still can find, and at its
end it tells it. -/
theorem run_eq_true_iff (hlaid : s.Laid) : s.run = true ↔ s.Hopeful := by
  fun_induction run s with
  | case1 s s' hnext ih =>
    have hstep := step_of_next? hnext
    rw [ih (hstep.laid hlaid), hstep.hopeful_iff hlaid]
  | case2 s hnext => exact succeeds_iff hlaid hnext

end Scan

/-- **A list of characters is accepted exactly when the pattern covers it.** -/
theorem accepts_eq_true_iff : accepts pattern text = true ↔ Covers pattern text := by
  rw [accepts, Scan.run_eq_true_iff (Scan.laid_start pattern text), Scan.hopeful_start]

/-- The first star gives way twice, and the second one takes a star of the text. -/
example : accepts ['*', 'a', 'b', '*', 'c'] ['a', 'a', 'b', '*', 'c', 'b', 'c'] = true := by cbv

end Glob

/-- **A pattern matches a text** exactly when the lowercase text can be cut into consecutive pieces,
one for each character of the lowercase pattern, where a star may stand for any piece, a question
mark for one character, and every other character for itself.

**Proof sketch.** A scan keeps that the part of the pattern behind its last star is laid on the text
behind that star. So of the cuts that give more to a star, those of the last star are as good as
those of all stars before it, and a step loses none that is needed. Every scan comes to an end,
since a step leaves less text for the last star to take or goes on in the pattern. -/
theorem globMatches_eq_true_iff (pattern text : String) :
    globMatches pattern text = true ↔ Glob.Covers (lowerChars pattern) (lowerChars text) :=
  Glob.accepts_eq_true_iff

end FleetStatus.Text
