import StoryEngine.Text.Replacement

namespace StoryEngine.Text

/-! # Patterns that match words

Literals that begin and end with word characters match words when they stand between word
boundaries.
-/

def Free (neighbour : Option Char) : Prop := neighbour.any isWordChar = false

def Edged (text : Text) : Prop :=
  text.head?.any isWordChar = true ∧ text.getLast?.any isWordChar = true

instance (neighbour : Option Char) : Decidable (Free neighbour) :=
  inferInstanceAs (Decidable (_ = _))

instance (text : Text) : Decidable (Edged text) := inferInstanceAs (Decidable (_ ∧ _))

structure Run (text run : Text) : Prop where
  nonempty : run ≠ []
  words : ∀ c ∈ run, isWordChar c = true
  stands : ∃ left right, text = left ++ (run ++ right) ∧ Free left.getLast? ∧ Free right.head?

section

variable {text run left middle right : Text}

theorem head_append {text : Text} (some : text ≠ []) (more : Text) :
    (text ++ more).head? = text.head? := by
  cases text with
  | nil => exact absurd rfl some
  | cons c rest => rfl

theorem Run.within (isRun : Run middle run) (opens : Free left.getLast?) (closes : Free right.head?) :
    Run (left ++ (middle ++ right)) run := by
  obtain ⟨nonempty, words, before, after, rfl, starts, ends⟩ := isRun
  refine ⟨nonempty, words, left ++ before, after ++ right, by simp only [List.append_assoc], ?_, ?_⟩
  · rcases List.eq_nil_or_concat' before with rfl | ⟨others, c, rfl⟩
    · rw [List.append_nil]
      exact opens
    · rw [← List.append_assoc, List.getLast?_append]
      simpa using starts
  · cases after with
    | nil => exact closes
    | cons c after => exact ends

end

theorem any_letter {letter : Char → Char}
    (keeps : ∀ c, isWordChar (letter c) = isWordChar c) (neighbour : Option Char) :
    (neighbour.map letter).any isWordChar = neighbour.any isWordChar := by
  cases neighbour with
  | none => rfl
  | some c => exact keeps c

theorem Edged.ne_nil {text : Text} (edged : Edged text) : text ≠ [] := by
  rintro rfl
  cases edged.1

theorem Cursor.Reaches.upTo_trans {first second third : Cursor} (before : first.Reaches second)
    (after : second.Reaches third) :
    first.upTo third = first.upTo second ++ second.upTo third := by
  have whole := (before.trans after).ahead_eq
  have start := before.ahead_eq
  have rest := after.ahead_eq
  rw [start, rest, ← List.append_assoc] at whole
  exact (List.append_cancel_right whole).symm

theorem Cursor.Reaches.behind_eq {cursor later : Cursor} (reaches : cursor.Reaches later) :
    later.behind = (cursor.upTo later).reverse ++ cursor.behind := by
  have reads := reaches.ahead_eq
  obtain ⟨read, ahead, behind⟩ := reaches
  rw [ahead] at reads
  rw [behind, List.append_cancel_right reads]

theorem Cursor.upTo_self (cursor : Cursor) : cursor.upTo cursor = [] := by
  rw [Cursor.upTo, Nat.sub_self, List.take_zero]

namespace Pattern

section

variable {cases : CaseMapping} {ignoreCase : Bool} {text wanted found : Text} {body : Pattern}

theorem upTo_accept {accepts : Char → Bool} {cursor next : Cursor}
    (inEnds : next ∈ (Pattern.accept accepts).ends cursor) :
    ∃ c, accepts c = true ∧ cursor.upTo next = [c] := by
  rw [ends] at inEnds
  split at inEnds
  · cases inEnds
  · next c rest ahead =>
      split at inEnds
      · next accepted =>
          rw [List.mem_singleton.mp inEnds]
          refine ⟨c, accepted, ?_⟩
          rw [Cursor.upTo, ahead]
          simp
      · cases inEnds

theorem upTo_seq {first second : Pattern} {cursor next : Cursor}
    (inEnds : next ∈ (Pattern.seq first second).ends cursor) :
    ∃ middle ∈ first.ends cursor, next ∈ second.ends middle ∧
      cursor.upTo next = cursor.upTo middle ++ middle.upTo next := by
  obtain ⟨middle, inFirst, inSecond⟩ := List.mem_flatMap.mp inEnds
  refine ⟨middle, inFirst, inSecond, ?_⟩
  exact (first.ends_reaches cursor middle inFirst).upTo_trans
    (second.ends_reaches middle next inSecond)

theorem acceptsChar_same {c d : Char} (accepted : acceptsChar cases ignoreCase c d = true) :
    cases.canonicalize d = cases.canonicalize c := by
  cases ignoreCase with
  | true => exact (of_decide_eq_true accepted).symm
  | false => rw [of_decide_eq_true (p := c = d) accepted]

theorem literal_reads (text : Text) : ∀ cursor, ∀ next ∈ (literal cases ignoreCase text).ends cursor,
    (cursor.upTo next).map cases.canonicalize = text.map cases.canonicalize := by
  induction text with
  | nil =>
    intro cursor next member
    rw [List.mem_singleton.mp member, Cursor.upTo_self]
  | cons c rest ih =>
    intro cursor next member
    have first : literal cases ignoreCase (c :: rest) =
        .seq (.accept (acceptsChar cases ignoreCase c)) (literal cases ignoreCase rest) := rfl
    rw [first] at member
    obtain ⟨middle, inFirst, inRest, whole⟩ := upTo_seq member
    obtain ⟨d, accepted, single⟩ := upTo_accept inFirst
    rw [whole, single, List.map_append, ih middle next inRest, List.map_singleton,
      acceptsChar_same accepted]
    rfl

theorem mem_bounded_iff {cursor next : Cursor} :
    next ∈ (Pattern.seq .wordBoundary (.seq body .wordBoundary)).ends cursor ↔
      next ∈ body.ends cursor ∧ cursor.atBoundary = true ∧ next.atBoundary = true := by
  have edge (place other : Cursor) : other ∈ Pattern.wordBoundary.ends place ↔
      other = place ∧ place.atBoundary = true := by
    rw [ends]
    cases place.atBoundary with
    | true => simp
    | false => simp
  simp only [ends.eq_def (.seq _ _), List.mem_flatMap, edge]
  constructor
  · rintro ⟨_, ⟨rfl, opening⟩, _, inBody, rfl, closing⟩
    exact ⟨inBody, opening, closing⟩
  · rintro ⟨inBody, opening, closing⟩
    exact ⟨cursor, ⟨rfl, opening⟩, next, inBody, rfl, closing⟩

theorem mem_bounded {cursor next : Cursor}
    (inEnds : next ∈ (Pattern.seq .wordBoundary (.seq body .wordBoundary)).ends cursor) :
    next ∈ body.ends cursor ∧ cursor.atBoundary = true ∧ next.atBoundary = true :=
  mem_bounded_iff.mp inEnds

theorem bounded_free {cursor next : Cursor}
    (inEnds : next ∈ (Pattern.seq .wordBoundary (.seq body .wordBoundary)).ends cursor) :
    ((cursor.upTo next).head?.any isWordChar = true → Free cursor.behind.head?) ∧
      ((cursor.upTo next).getLast?.any isWordChar = true → Free next.ahead.head?) := by
  obtain ⟨inBody, opening, closing⟩ := mem_bounded inEnds
  have reaches := body.ends_reaches cursor next inBody
  constructor
  · intro first
    have some : cursor.upTo next ≠ [] := by
      intro empty
      rw [empty] at first
      cases first
    rw [Cursor.atBoundary, reaches.ahead_eq, head_append some, first] at opening
    simpa [Free] using opening
  · intro last
    have some : (cursor.upTo next).reverse ≠ [] := by
      intro empty
      rw [List.reverse_eq_nil_iff.mp empty] at last
      cases last
    have behind : next.behind.head?.any isWordChar = true := by
      rw [reaches.behind_eq, head_append some, List.head?_reverse]
      exact last
    rw [Cursor.atBoundary, behind] at closing
    simpa [Free] using closing

theorem literal_consumes (nonempty : text ≠ []) : (literal cases ignoreCase text).consumes = true := by
  cases text with
  | nil => exact absurd rfl nonempty
  | cons c rest => rfl

/-- Where a text stands between word boundaries, a pattern that matches it there does so between
word boundaries. -/
theorem bounded_ends {behind ahead : Text} (edged : Edged found) (opens : Free behind.head?)
    (closes : Free ahead.head?)
    (inEnds : ({ behind := found.reverse ++ behind, ahead } : Cursor) ∈
      body.ends { behind, ahead := found ++ ahead }) :
    (Pattern.seq .wordBoundary (.seq body .wordBoundary)).ends
      { behind, ahead := found ++ ahead } ≠ [] := by
  have opening : ({ behind, ahead := found ++ ahead } : Cursor).atBoundary = true := by
    rw [Cursor.atBoundary, head_append edged.ne_nil, edged.1, opens]
    rfl
  have closing : ({ behind := found.reverse ++ behind, ahead } : Cursor).atBoundary = true := by
    have reversed : found.reverse ≠ [] := by
      intro empty
      exact edged.ne_nil (List.reverse_eq_nil_iff.mp empty)
    rw [Cursor.atBoundary, head_append reversed, List.head?_reverse, edged.2, closes]
    rfl
  exact List.ne_nil_of_mem (mem_bounded_iff.mpr ⟨inEnds, opening, closing⟩)

end

end Pattern

end StoryEngine.Text
