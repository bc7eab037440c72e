import StoryEngine.Text.Classes
import StoryEngine.Text.Stops

namespace StoryEngine.Text

namespace Pattern

/-! # What patterns spell

A pattern without a look at what lies behind spells a language: the words that it can read, each with
what may be left ahead.
-/

def Spells (pattern : Pattern) (language : Text → Text → Prop) : Prop :=
  ∀ cursor rest, (∃ next ∈ pattern.ends cursor, next.ahead = rest) ↔
    ∃ word, cursor.ahead = word ++ rest ∧ language word rest

section

variable {pattern first second body : Pattern} {language other : Text → Text → Prop}
  {accepts : Char → Bool} {cases : CaseMapping}

theorem Spells.congr (spells : pattern.Spells language)
    (same : ∀ word rest, language word rest ↔ other word rest) : pattern.Spells other := by
  intro cursor rest
  rw [spells cursor rest]
  simp only [same]

theorem Spells.ends_iff (spells : pattern.Spells language) (cursor : Cursor) :
    pattern.ends cursor ≠ [] ↔ ∃ word rest, cursor.ahead = word ++ rest ∧ language word rest := by
  constructor
  · intro some
    obtain ⟨next, inEnds⟩ := List.exists_mem_of_ne_nil _ some
    obtain ⟨word, ahead, spelled⟩ := (spells cursor next.ahead).mp ⟨next, inEnds, rfl⟩
    exact ⟨word, next.ahead, ahead, spelled⟩
  · rintro ⟨word, rest, ahead, spelled⟩
    obtain ⟨next, inEnds, _⟩ := (spells cursor rest).mpr ⟨word, ahead, spelled⟩
    exact List.ne_nil_of_mem inEnds

theorem spells_empty : Pattern.empty.Spells fun word _ => word = [] := by
  intro cursor rest
  constructor
  · rintro ⟨next, inEnds, rfl⟩
    rw [List.mem_singleton.mp inEnds]
    exact ⟨[], rfl, rfl⟩
  · rintro ⟨word, ahead, rfl⟩
    exact ⟨cursor, List.mem_singleton_self _, ahead⟩

theorem spells_atEnd : Pattern.atEnd.Spells fun word rest => word = [] ∧ rest = [] := by
  intro cursor rest
  rw [ends]
  constructor
  · rintro ⟨next, inEnds, rfl⟩
    split at inEnds
    · next finished =>
        rw [List.mem_singleton.mp inEnds]
        exact ⟨[], rfl, rfl, List.isEmpty_iff.mp finished⟩
    · cases inEnds
  · rintro ⟨word, ahead, rfl, rfl⟩
    have finished : cursor.ahead.isEmpty = true := by
      rw [ahead]
      rfl
    exact ⟨cursor, by rw [if_pos finished]; exact List.mem_singleton_self _, ahead⟩

theorem spells_accept :
    (Pattern.accept accepts).Spells fun word _ => ∃ c, accepts c = true ∧ word = [c] := by
  intro cursor rest
  obtain ⟨behind, ahead, captured⟩ := cursor
  cases ahead with
  | nil => simp [ends]
  | cons c ahead =>
    by_cases accepted : accepts c = true
    · simp only [ends, if_pos accepted, List.mem_singleton]
      constructor
      · rintro ⟨next, rfl, rfl⟩
        exact ⟨[c], rfl, c, accepted, rfl⟩
      · rintro ⟨word, whole, d, _, rfl⟩
        obtain ⟨_, same⟩ := List.cons.inj whole
        exact ⟨_, rfl, same⟩
    · simp only [ends, if_neg accepted, List.not_mem_nil, false_and, exists_false, false_iff]
      rintro ⟨word, whole, d, accepted', rfl⟩
      obtain ⟨rfl, _⟩ := List.cons.inj whole
      exact accepted accepted'

theorem spells_char (wanted : Char) :
    (Pattern.accept (· == wanted)).Spells fun word _ => word = [wanted] := by
  refine spells_accept.congr fun word rest => ?_
  constructor
  · rintro ⟨c, accepted, rfl⟩
    rw [eq_of_beq accepted]
  · rintro rfl
    exact ⟨wanted, beq_self_eq_true wanted, rfl⟩

theorem Spells.seq (left : first.Spells language) (right : second.Spells other) :
    (Pattern.seq first second).Spells fun word rest => ∃ before after, word = before ++ after ∧
      language before (after ++ rest) ∧ other after rest := by
  intro cursor rest
  rw [ends]
  constructor
  · rintro ⟨next, inEnds, ahead⟩
    obtain ⟨middle, inFirst, inSecond⟩ := List.mem_flatMap.mp inEnds
    obtain ⟨after, aheadMiddle, spelledAfter⟩ := (right middle rest).mp ⟨next, inSecond, ahead⟩
    obtain ⟨before, aheadCursor, spelledBefore⟩ :=
      (left cursor middle.ahead).mp ⟨middle, inFirst, rfl⟩
    rw [aheadMiddle] at aheadCursor spelledBefore
    exact ⟨before ++ after, by rw [aheadCursor, List.append_assoc], before, after, rfl,
      spelledBefore, spelledAfter⟩
  · rintro ⟨word, ahead, before, after, rfl, spelledBefore, spelledAfter⟩
    rw [List.append_assoc] at ahead
    obtain ⟨middle, inFirst, aheadMiddle⟩ :=
      (left cursor (after ++ rest)).mpr ⟨before, ahead, spelledBefore⟩
    obtain ⟨next, inSecond, aheadNext⟩ :=
      (right middle rest).mpr ⟨after, aheadMiddle, spelledAfter⟩
    exact ⟨next, List.mem_flatMap.mpr ⟨middle, inFirst, inSecond⟩, aheadNext⟩

theorem Spells.alt (left : first.Spells language) (right : second.Spells other) :
    (Pattern.alt first second).Spells fun word rest => language word rest ∨ other word rest := by
  intro cursor rest
  simp only [ends, List.mem_append, or_and_right, exists_or, left cursor rest, right cursor rest,
    and_or_left]

theorem Spells.optional (spells : body.Spells language) :
    (Pattern.optional body).Spells fun word rest => language word rest ∨ word = [] :=
  spells.alt spells_empty

theorem repeatEnds_spells (fuel : Nat) (cursor : Cursor) (rest : Text) :
    (∃ next ∈ repeatEnds (Pattern.accept accepts).ends fuel cursor, next.ahead = rest) ↔
      ∃ word, cursor.ahead = word ++ rest ∧ word.length ≤ fuel ∧ ∀ c ∈ word, accepts c = true := by
  induction fuel generalizing cursor with
  | zero =>
    simp only [repeatEnds, List.mem_singleton]
    constructor
    · rintro ⟨next, rfl, rfl⟩
      exact ⟨[], rfl, Nat.le_refl 0, by simp⟩
    · rintro ⟨word, ahead, short, _⟩
      obtain rfl : word = [] := List.eq_nil_of_length_eq_zero (Nat.le_zero.mp short)
      exact ⟨cursor, rfl, ahead⟩
  | succ fuel ih =>
    constructor
    · rintro ⟨next, inEnds, ahead⟩
      rcases List.mem_append.mp inEnds with later | here
      · obtain ⟨middle, inBody, inRest⟩ := List.mem_flatMap.mp later
        have once := (spells_accept cursor middle.ahead).mp
          ⟨middle, List.mem_of_mem_filter inBody, rfl⟩
        obtain ⟨single, aheadCursor, c, accepted, rfl⟩ := once
        obtain ⟨word, aheadMiddle, short, all⟩ := (ih middle).mp ⟨next, inRest, ahead⟩
        refine ⟨c :: word, by rw [aheadCursor, aheadMiddle]; rfl, Nat.succ_le_succ short, ?_⟩
        exact List.forall_mem_cons.mpr ⟨accepted, all⟩
      · rw [List.mem_singleton.mp here] at ahead
        exact ⟨[], ahead, Nat.zero_le _, by simp⟩
    · rintro ⟨word, ahead, short, all⟩
      cases word with
      | nil => exact ⟨cursor, List.mem_append_right _ (List.mem_singleton_self _), ahead⟩
      | cons c word =>
        obtain ⟨accepted, later⟩ := List.forall_mem_cons.mp all
        obtain ⟨middle, inBody, aheadMiddle⟩ :=
          (spells_accept cursor (word ++ rest)).mpr ⟨[c], ahead, c, accepted, rfl⟩
        obtain ⟨next, inRest, aheadNext⟩ :=
          (ih middle).mpr ⟨word, aheadMiddle, Nat.le_of_succ_le_succ short, later⟩
        refine ⟨next, List.mem_append_left _ (List.mem_flatMap.mpr ⟨middle, ?_, inRest⟩),
          aheadNext⟩
        refine List.mem_filter.mpr ⟨inBody, ?_⟩
        rw [aheadMiddle, ahead]
        simp

theorem spells_star :
    (Pattern.star (.accept accepts)).Spells fun word _ => ∀ c ∈ word, accepts c = true := by
  intro cursor rest
  rw [ends, repeatEnds_spells]
  refine exists_congr fun word => and_congr_right fun ahead => and_iff_right ?_
  rw [ahead, List.length_append]
  exact Nat.le_add_right _ _

theorem spells_plus : (Pattern.plus (.accept accepts)).Spells fun word _ =>
    word ≠ [] ∧ ∀ c ∈ word, accepts c = true := by
  refine (spells_accept.seq spells_star).congr fun word rest => ?_
  constructor
  · rintro ⟨before, after, rfl, ⟨c, accepted, rfl⟩, all⟩
    exact ⟨by simp, List.forall_mem_cons.mpr ⟨accepted, all⟩⟩
  · rintro ⟨some, all⟩
    cases word with
    | nil => exact absurd rfl some
    | cons c word =>
      obtain ⟨accepted, later⟩ := List.forall_mem_cons.mp all
      exact ⟨[c], word, rfl, ⟨c, accepted, rfl⟩, later⟩

theorem spells_literal (text : Text) : (literal cases true text).Spells fun word _ =>
    word.map cases.canonicalize = text.map cases.canonicalize := by
  induction text with
  | nil =>
    refine spells_empty.congr fun word rest => ?_
    rw [List.map_nil, List.map_eq_nil_iff]
  | cons c text ih =>
    have split : literal cases true (c :: text) =
        .seq (.accept (acceptsChar cases true c)) (literal cases true text) := rfl
    rw [split]
    refine (spells_accept.seq ih).congr fun word rest => ?_
    constructor
    · rintro ⟨before, after, rfl, ⟨d, accepted, rfl⟩, later⟩
      have same : cases.canonicalize c = cases.canonicalize d := by
        simpa [acceptsChar] using accepted
      rw [List.singleton_append, List.map_cons, List.map_cons, same, later]
    · intro same
      cases word with
      | nil => cases same
      | cons d word =>
        obtain ⟨head, later⟩ := List.cons.inj same
        refine ⟨[d], word, rfl, ⟨d, ?_, rfl⟩, later⟩
        simp [acceptsChar, head]

/-- The pattern matches where a word of the head stands ahead of what the tail asks for. -/
def Opens (pattern : Pattern) (head tail : Text → Prop) : Prop :=
  ∀ cursor, pattern.ends cursor ≠ [] ↔
    ∃ word rest, cursor.ahead = word ++ rest ∧ head word ∧ tail rest

def Followed (opening head : Text → Prop) (word : Text) : Prop :=
  ∃ before after, word = before ++ after ∧ opening before ∧ head after

theorem Opens.after {opening head tail : Text → Prop}
    (left : first.Spells fun word _ => opening word) (right : second.Opens head tail) :
    (Pattern.seq first second).Opens (Followed opening head) tail := by
  intro cursor
  constructor
  · intro some
    obtain ⟨next, inEnds⟩ := List.exists_mem_of_ne_nil _ some
    obtain ⟨middle, inFirst, inSecond⟩ := List.mem_flatMap.mp inEnds
    obtain ⟨before, aheadCursor, opens⟩ := (left cursor middle.ahead).mp ⟨middle, inFirst, rfl⟩
    obtain ⟨after, rest, aheadMiddle, isHead, isTail⟩ :=
      (right middle).mp (List.ne_nil_of_mem inSecond)
    refine ⟨before ++ after, rest, ?_, ⟨before, after, rfl, opens, isHead⟩, isTail⟩
    rw [aheadCursor, aheadMiddle, List.append_assoc]
  · rintro ⟨word, rest, ahead, ⟨before, after, rfl, opens, isHead⟩, isTail⟩
    rw [List.append_assoc] at ahead
    obtain ⟨middle, inFirst, aheadMiddle⟩ := (left cursor (after ++ rest)).mpr ⟨before, ahead, opens⟩
    obtain ⟨next, inSecond⟩ := List.exists_mem_of_ne_nil _
      ((right middle).mpr ⟨after, rest, aheadMiddle, isHead, isTail⟩)
    exact List.ne_nil_of_mem (List.mem_flatMap.mpr ⟨middle, inFirst, inSecond⟩)

theorem opens_until (closing : Char) :
    (Pattern.seq (.star (.accept (· != closing))) (.accept (· == closing))).Opens (· = [])
      (closing ∈ ·) := by
  intro cursor
  rw [(spells_star.seq spells_accept).ends_iff]
  constructor
  · rintro ⟨word, rest, ahead, before, after, rfl, _, c, accepted, rfl⟩
    refine ⟨[], cursor.ahead, rfl, rfl, ?_⟩
    rw [ahead, ← eq_of_beq accepted]
    simp
  · rintro ⟨word, rest, ahead, rfl, member⟩
    obtain ⟨before, after, split, absent⟩ := List.eq_append_cons_of_mem member
    refine ⟨before ++ [closing], after, by rw [ahead, split]; simp, before, [closing], rfl, ?_,
      closing, by simp, rfl⟩
    intro c inside
    simpa using fun same : c = closing => absent (same ▸ inside)

theorem opens_untilEnd (closing : Char) :
    (Pattern.seq (.star (.accept (· != closing))) (.alt (.accept (· == closing)) .atEnd)).Opens
      (· = []) fun _ => True := by
  intro cursor
  rw [(spells_star.seq (spells_accept.alt spells_atEnd)).ends_iff]
  refine iff_of_true ?_ ⟨[], cursor.ahead, rfl, rfl, trivial⟩
  have upTo {before : Text} (absent : closing ∉ before) :
      ∀ c ∈ before, (c != closing) = true := by
    intro c inside
    simpa using fun same : c = closing => absent (same ▸ inside)
  by_cases member : closing ∈ cursor.ahead
  · obtain ⟨before, after, split, absent⟩ := List.eq_append_cons_of_mem member
    exact ⟨before ++ [closing], after, by rw [split]; simp, before, [closing], rfl, upTo absent,
      .inl ⟨closing, by simp, rfl⟩⟩
  · exact ⟨cursor.ahead, [], by simp, cursor.ahead, [], by simp, upTo member, .inr ⟨rfl, rfl⟩⟩

theorem opens_rest (closing : Char) :
    (Pattern.seq (.star (.accept (· != closing))) (.optional (.accept (· == closing)))).Opens
      (· = []) fun _ => True := by
  intro cursor
  rw [(spells_star.seq spells_accept.optional).ends_iff]
  refine iff_of_true ?_ ⟨[], cursor.ahead, rfl, rfl, trivial⟩
  exact ⟨[], cursor.ahead, rfl, [], [], rfl, by simp, .inr rfl⟩

theorem opens_char (wanted : Char) :
    (Pattern.accept (· == wanted)).Opens (· = [wanted]) fun _ => True := by
  intro cursor
  rw [(spells_char wanted).ends_iff]
  simp only [and_true]

end

end Pattern

open Pattern

/-! # What removals join

Removals of the matches of patterns, one after the other, let a match stand only where one of them
has joined it from both sides of what it removed.
-/

/-- A pattern whose matches are removed.  It matches where a word stands ahead that its head accepts
and the text behind the word has what its tail asks for. -/
structure Removal where
  pattern : Pattern
  head : Text → Prop
  tail : Text → Prop
  consumes : pattern.consumes = true
  finds : pattern.Opens head tail
  solid : ∀ word, head word → word ≠ []
  grows : ∀ rest more, rest.Sublist more → tail rest → tail more

namespace Removal

def apply (removal : Removal) (text : Text) : Text := removal.pattern.replace [] text

def Found (removal : Removal) (text : Text) : Prop :=
  ∃ before word after, text = before ++ (word ++ after) ∧ removal.head word ∧ removal.tail after

theorem found_iff_test (removal : Removal) (text : Text) :
    removal.Found text ↔ removal.pattern.test text = true := by
  rw [test_iff]
  constructor
  · rintro ⟨before, word, after, whole, head, tail⟩
    exact ⟨before, word ++ after, whole, (removal.finds _).mpr ⟨word, after, rfl, head, tail⟩⟩
  · rintro ⟨before, ahead, whole, some⟩
    obtain ⟨word, after, split, head, tail⟩ := (removal.finds _).mp some
    exact ⟨before, word, after, by rw [whole, ← split], head, tail⟩

theorem apply_eq (removal : Removal) (text : Text) :
    removal.apply text = rendered [] (removal.pattern.scan text) := replace_eq (by simp) _ _

theorem apply_of_none {removal : Removal} {text : Text} (none : ¬removal.Found text) :
    removal.apply text = text := by
  apply replace_eq_self (by simp) removal.consumes
  intro before matched after whole next inEnds
  obtain ⟨word, rest, split, head, tail⟩ := (removal.finds _).mp (List.ne_nil_of_mem inEnds)
  exact absurd ⟨before, word, rest, by rw [whole, ← split], head, tail⟩ none

end Removal

def applyRemovals (removals : List Removal) (text : Text) : Text :=
  removals.foldl (fun text removal => removal.apply text) text

theorem applyRemovals_eq (removals : List Removal) (text : Text) : applyRemovals removals text =
    (removals.map Removal.pattern).foldl (fun text pattern => pattern.replace [] text) text := by
  rw [List.foldl_map]
  rfl

def Pattern.Piece.isHit : Piece → Bool
  | .plain _ => false
  | .hit _ _ _ _ => true

def Straddle (pieces : List Piece) : Prop :=
  ∃ first inner last, pieces = .plain first :: (inner ++ [.plain last]) ∧ inner.any Piece.isHit = true

/-- The later removals leave the word standing, with what its tail asks for. -/
def Outlives (removal : Removal) (word : Text) : List Removal → Text → Text → Prop
  | [], _, after => removal.tail after
  | later :: rest, before, after => ∃ left right,
      later.pattern.scan (before ++ (word ++ after)) = left ++ (word.map .plain ++ right) ∧
        source left = before ∧ Outlives removal word rest (rendered [] left) (rendered [] right)

/-- What is removed stands inside a word that is joined by its removal and stays joined. -/
def Joins (remover removal : Removal) (rest : List Removal) (text : Text) : Prop :=
  ∃ left joined right, remover.pattern.scan text = left ++ (joined ++ right) ∧ Straddle joined ∧
    removal.head (rendered [] joined) ∧
      Outlives removal (rendered [] joined) rest (rendered [] left) (rendered [] right)

/-- One of the removals joins a word of its own pattern, or of one whose turn is over. -/
inductive LastingJoin : List Removal → List Removal → Text → Prop where
  | here {seen rest : List Removal} {remover removal : Removal} {text : Text}
      (known : removal ∈ remover :: seen) (joins : Joins remover removal rest text) :
      LastingJoin seen (remover :: rest) text
  | later {seen rest : List Removal} {remover : Removal} {text : Text}
      (lasting : LastingJoin (remover :: seen) rest (remover.apply text)) :
      LastingJoin seen (remover :: rest) text

section

variable {pieces left right : List Piece} {before word after text : Text}
  {removal remover : Removal} {seen rest : List Removal}

theorem plain_of_rendered (noHit : pieces.any Piece.isHit = false) :
    pieces = (rendered [] pieces).map .plain := by
  induction pieces with
  | nil => rfl
  | cons piece pieces ih =>
    rw [List.any_cons, Bool.or_eq_false_iff] at noHit
    cases piece with
    | hit behind matched ahead captured => cases noHit.1
    | plain c =>
      rw [rendered_cons, List.map_append, ← ih noHit.2]
      rfl

theorem rendered_split (whole : rendered [] pieces = before ++ (word ++ after))
    (some : word ≠ []) : ∃ left middle right, pieces = left ++ (middle ++ right) ∧
      rendered [] left = before ∧ rendered [] middle = word ∧ rendered [] right = after ∧
        (middle = word.map .plain ∨ Straddle middle) := by
  cases word with
  | nil => exact absurd rfl some
  | cons first word =>
    obtain ⟨left, others, rfl, isBefore, others'⟩ := rendered_nil_split pieces whole
    rcases List.eq_nil_or_concat word with rfl | ⟨inside, last, rfl⟩
    · exact ⟨left, [.plain first], others, rfl, isBefore, rfl, others', .inl rfl⟩
    · have others'' : rendered [] others = inside ++ last :: after := by
        rw [others', List.concat_eq_append]
        simp
      obtain ⟨inner, right, rfl, isInside, isAfter⟩ := rendered_nil_split others others''
      have middle : rendered [] (.plain first :: (inner ++ [.plain last])) =
          first :: (inside ++ [last]) := by
        rw [rendered_cons, rendered_append, isInside]
        rfl
      refine ⟨left, .plain first :: (inner ++ [.plain last]), right, by simp, isBefore,
        by rw [middle, List.concat_eq_append], isAfter, ?_⟩
      cases hits : inner.any Piece.isHit with
      | true => exact .inr ⟨first, inner, last, rfl, hits⟩
      | false =>
        left
        rw [plain_of_rendered hits, isInside, List.concat_eq_append]
        simp

theorem rendered_sublist_source (pieces : List Piece) :
    (rendered [] pieces).Sublist (source pieces) := by
  induction pieces with
  | nil => exact List.Sublist.refl _
  | cons piece pieces ih =>
    rw [rendered_cons, source_cons]
    refine List.Sublist.append ?_ ih
    cases piece with
    | plain c => exact List.Sublist.refl _
    | hit behind matched ahead captured => exact List.nil_sublist _

theorem scan_split_source {pattern : Pattern} {middle : List Piece}
    (split : pattern.scan text = left ++ (middle ++ right)) :
    text = source left ++ (source middle ++ source right) := by
  rw [← pattern.scan_source text, split, source_append, source_append]

theorem Outlives.tail (outlives : Outlives removal word rest before after) : removal.tail after := by
  induction rest generalizing before after with
  | nil => exact outlives
  | cons later rest ih =>
    obtain ⟨left, right, split, isBefore, onward⟩ := outlives
    have whole := scan_split_source split
    rw [isBefore, source_plain] at whole
    have isAfter : after = source right :=
      List.append_cancel_left (List.append_cancel_left whole)
    rw [isAfter]
    exact removal.grows _ _ (rendered_sublist_source right) (ih onward)

theorem Outlives.found (outlives : Outlives removal word rest before after)
    (head : removal.head word) :
    removal.Found (applyRemovals rest (before ++ (word ++ after))) := by
  induction rest generalizing before after with
  | nil => exact ⟨before, word, after, rfl, head, outlives⟩
  | cons later rest ih =>
    obtain ⟨left, right, split, _, onward⟩ := outlives
    have applied : later.apply (before ++ (word ++ after)) =
        rendered [] left ++ (word ++ rendered [] right) := by
      rw [Removal.apply_eq, split, rendered_append, rendered_append, rendered_plain]
    rw [applyRemovals, List.foldl_cons, applied]
    exact ih onward

theorem not_standing (split : remover.pattern.scan text = left ++ (word.map .plain ++ right))
    (head : remover.head word) (tail : remover.tail (rendered [] right)) : False := by
  cases word with
  | nil => exact absurd rfl (remover.solid [] head)
  | cons c word =>
    have turn : remover.pattern.ends { behind := (source left).reverse
                                       ahead := c :: source (word.map .plain ++ right) } = [] :=
      scan_piece remover.consumes split
    refine absurd turn ((remover.finds _).mpr ⟨c :: word, source right, ?_, head, ?_⟩)
    · rw [source_append, source_plain]
      rfl
    · exact remover.grows _ _ (rendered_sublist_source right) tail

theorem found_of_removals (known : removal ∈ seen ++ rest)
    (found : removal.Found (applyRemovals rest text)) :
    (∃ early ∈ seen, ∃ before word after, text = before ++ (word ++ after) ∧ early.head word ∧
      Outlives early word rest before after) ∨ LastingJoin seen rest text := by
  induction rest generalizing seen text with
  | nil =>
    rw [List.append_nil] at known
    exact .inl ⟨removal, known, found⟩
  | cons remover rest ih =>
    have knownLater : removal ∈ remover :: seen ++ rest := by
      simp only [List.mem_append, List.mem_cons] at known ⊢
      tauto
    rw [applyRemovals, List.foldl_cons] at found
    rcases ih knownLater found with ⟨early, inSeen, before, word, after, whole, head, outlives⟩ |
      lasting
    · rw [Removal.apply_eq] at whole
      obtain ⟨left, middle, right, split, isBefore, isWord, isAfter, standing | joined⟩ :=
        rendered_split whole (early.solid word head)
      · rw [standing] at split
        rw [← isBefore, ← isAfter] at outlives
        rcases List.mem_cons.mp inSeen with rfl | inEarlier
        · exact (not_standing split head outlives.tail).elim
        · refine .inl ⟨early, inEarlier, source left, word, source right, ?_, head, ?_⟩
          · rw [scan_split_source split, source_plain]
          · refine ⟨left, right, ?_, rfl, outlives⟩
            rw [← split, scan_split_source split, source_plain]
      · refine .inr (.here inSeen ⟨left, middle, right, split, joined, ?_, ?_⟩)
        · rwa [isWord]
        · rwa [isBefore, isWord, isAfter]
    · exact .inr (.later lasting)

theorem LastingJoin.found (lasting : LastingJoin seen rest text) :
    ∃ removal ∈ seen ++ rest, removal.Found (applyRemovals rest text) := by
  induction lasting with
  | @here seen rest remover removal text known joins =>
    obtain ⟨left, joined, right, split, _, head, outlives⟩ := joins
    refine ⟨removal, ?_, ?_⟩
    · simp only [List.mem_append, List.mem_cons] at known ⊢
      tauto
    · have applied : remover.apply text =
          rendered [] left ++ (rendered [] joined ++ rendered [] right) := by
        rw [Removal.apply_eq, split, rendered_append, rendered_append]
      rw [applyRemovals, List.foldl_cons, applied]
      exact outlives.found head
  | @later seen rest remover text lasting ih =>
    obtain ⟨removal, known, found⟩ := ih
    refine ⟨removal, ?_, found⟩
    simp only [List.mem_append, List.mem_cons] at known ⊢
    tauto

theorem found_iff_lastingJoin (removals : List Removal) (text : Text) :
    (∃ removal ∈ removals, removal.Found (applyRemovals removals text)) ↔
      LastingJoin [] removals text := by
  constructor
  · rintro ⟨removal, known, found⟩
    have knownAmong : removal ∈ [] ++ removals := known
    rcases found_of_removals knownAmong found with ⟨early, absent, _⟩ | lasting
    · cases absent
    · exact lasting
  · exact LastingJoin.found

theorem applyRemovals_of_none {removals : List Removal}
    (none : ∀ removal ∈ removals, ¬removal.Found text) : applyRemovals removals text = text := by
  induction removals with
  | nil => rfl
  | cons removal rest ih =>
    obtain ⟨first, later⟩ := List.forall_mem_cons.mp none
    rw [applyRemovals, List.foldl_cons, Removal.apply_of_none first]
    exact ih later

end

end StoryEngine.Text
