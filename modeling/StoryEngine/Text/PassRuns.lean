import StoryEngine.Text.WordPatterns

namespace StoryEngine.Text

open Pattern

/-! # Runs of replacing passes

A run replaces the matches of one pattern after the other, each by a label of its own.  What shows
itself in the text that the run ends with stood in the text that it begins with, or was put there by
a pass, and no later pass took a part of it.
-/

structure Pass where
  regex : Pattern
  label : Text

def Pass.apply (pass : Pass) (text : Text) : Text := pass.regex.replace pass.label text

def applyPasses (passes : List Pass) (text : Text) : Text :=
  passes.foldl (fun text pass => pass.apply text) text

/-- No match takes a part of what is found between the two texts, which become two others. -/
def Pass.Keeps (pass : Pass) (left found right nextLeft nextRight : Text) : Prop :=
  ∃ before after, pass.regex.scan (left ++ (found ++ right)) =
      before ++ (found.map .plain ++ after) ∧ source before = left ∧
    before.flatMap (Piece.render pass.label) = nextLeft ∧
      after.flatMap (Piece.render pass.label) = nextRight

/-- What is found there has a character that the pass puts. -/
def Pass.Puts (pass : Pass) (text left found right : Text) : Prop :=
  pass.apply text = left ++ (found ++ right) ∧ ∀ earlierLeft earlierRight,
    text = earlierLeft ++ (found ++ earlierRight) →
      ¬pass.Keeps earlierLeft found earlierRight left right

section

variable (shows : Text → Text → Text → Prop)

def Survives : List Pass → Text → Text → Text → Prop
  | [], left, found, right => shows left found right
  | pass :: later, left, found, right => ∃ nextLeft nextRight,
      pass.Keeps left found right nextLeft nextRight ∧ Survives later nextLeft found nextRight

/-- What a pass of the run puts, with the text beside it, shows itself in the end. -/
def Arises (passes : List Pass) (text : Text) : Prop :=
  ∃ earlier pass later, passes = earlier ++ pass :: later ∧
    ∃ left found right, pass.Puts (applyPasses earlier text) left found right ∧
      Survives shows later left found right

/-- What the text has shows itself in the end, or what a pass puts there does. -/
def Lasts (passes : List Pass) (text : Text) : Prop :=
  (∃ left found right, text = left ++ (found ++ right) ∧ Survives shows passes left found right) ∨
    Arises shows passes text

end

section

variable {shows : Text → Text → Text → Prop} {passes earlier later : List Pass} {pass : Pass}
  {text left found right nextLeft nextRight : Text}

theorem replace_of_no_match {pattern : Pattern} (none : pattern.matchAll text = []) (label : Text) :
    pattern.replace label text = text := by
  have pieces : ∀ piece ∈ pattern.scan text, Piece.render label piece = Piece.source piece := by
    intro piece member
    cases piece with
    | plain c => rfl
    | hit behind matched ahead captured =>
      have absent := List.filterMap_eq_nil_iff.mp none _ member
      cases absent
  rw [replace, List.flatMap_congr pieces]
  exact scan_source pattern text

theorem applyPasses_append (first second : List Pass) (text : Text) :
    applyPasses (first ++ second) text = applyPasses second (applyPasses first text) :=
  List.foldl_append

theorem applyPasses_cons (pass : Pass) (later : List Pass) (text : Text) :
    applyPasses (pass :: later) text = applyPasses later (pass.apply text) := rfl

theorem render_plain (label found : Text) :
    (found.map Piece.plain).flatMap (Piece.render label) = found := by
  induction found with
  | nil => rfl
  | cons c rest ih =>
    rw [List.map_cons, List.flatMap_cons, ih]
    rfl

theorem Pass.Keeps.apply_eq (keeps : pass.Keeps left found right nextLeft nextRight) :
    pass.apply (left ++ (found ++ right)) = nextLeft ++ (found ++ nextRight) := by
  obtain ⟨before, after, split, _, rfl, rfl⟩ := keeps
  rw [Pass.apply, replace, split, List.flatMap_append, List.flatMap_append, render_plain]

/-- The pattern does not match where its pass keeps what is found. -/
theorem Pass.Keeps.ends (keeps : pass.Keeps left found right nextLeft nextRight)
    (consumes : pass.regex.consumes = true) (some : found ≠ []) :
    pass.regex.ends { behind := left.reverse, ahead := found ++ right } = [] := by
  obtain ⟨before, after, split, isLeft, _, _⟩ := keeps
  cases found with
  | nil => exact absurd rfl some
  | cons c rest =>
    have whole := scan_source pass.regex (left ++ (c :: rest ++ right))
    rw [split, source_append, isLeft, source_append, source_plain] at whole
    have isRight : source after = right :=
      List.append_cancel_left (List.append_cancel_left whole)
    have piece : pass.regex.scan (left ++ (c :: rest ++ right)) =
        before ++ .plain c :: (rest.map Piece.plain ++ after) := split
    have turn := scan_piece consumes piece
    rw [source_append, source_plain, isLeft, isRight] at turn
    exact turn

theorem Survives.shown (survives : Survives shows passes left found right) :
    ∃ before after, applyPasses passes (left ++ (found ++ right)) = before ++ (found ++ after) ∧
      shows before found after := by
  induction passes generalizing left right with
  | nil => exact ⟨left, right, rfl, survives⟩
  | cons pass later ih =>
    obtain ⟨nextLeft, nextRight, keeps, onward⟩ := survives
    rw [applyPasses_cons, keeps.apply_eq]
    exact ih onward

theorem lasts_of_shown (shown : ∃ left found right,
    applyPasses passes text = left ++ (found ++ right) ∧ shows left found right) :
    Lasts shows passes text := by
  induction passes generalizing text with
  | nil => exact .inl shown
  | cons pass later ih =>
    rw [applyPasses_cons] at shown
    rcases ih shown with ⟨left, found, right, isNext, survives⟩ |
      ⟨earlier, maker, rest, rfl, left, found, right, puts, survives⟩
    · by_cases kept : ∃ before after, text = before ++ (found ++ after) ∧
          pass.Keeps before found after left right
      · obtain ⟨before, after, isText, keeps⟩ := kept
        exact .inl ⟨before, found, after, isText, left, right, keeps, survives⟩
      · refine .inr ⟨[], pass, later, rfl, left, found, right, ⟨isNext, ?_⟩, survives⟩
        intro before after isText keeps
        exact kept ⟨before, after, isText, keeps⟩
    · exact .inr ⟨pass :: earlier, maker, rest, rfl, left, found, right, puts, survives⟩

theorem lasts_iff : (∃ left found right,
    applyPasses passes text = left ++ (found ++ right) ∧ shows left found right) ↔
      Lasts shows passes text := by
  constructor
  · exact lasts_of_shown
  · rintro (⟨left, found, right, rfl, survives⟩ |
      ⟨earlier, pass, later, rfl, left, found, right, ⟨isNext, _⟩, survives⟩)
    · obtain ⟨before, after, whole, shown⟩ := survives.shown
      exact ⟨before, found, after, whole, shown⟩
    · rw [applyPasses_append, applyPasses_cons, isNext]
      obtain ⟨before, after, whole, shown⟩ := survives.shown
      exact ⟨before, found, after, whole, shown⟩

end

end StoryEngine.Text
