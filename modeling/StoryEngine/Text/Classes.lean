import Mathlib.Data.List.Chain
import StoryEngine.Text.WordPatterns

namespace StoryEngine.Text

/-! # Classes of characters

A class is replaced character by character, or run by run.  Where it has no word characters, the
runs of word characters of a text stay what they were.
-/

namespace Pattern

section

variable {accepts : Char → Bool} {label : Char}

theorem repeatEnds_accept (fuel : Nat) (behind ahead : Text) (captured : Option Text)
    (enough : ahead.length ≤ fuel) :
    (repeatEnds (Pattern.accept accepts).ends fuel { behind, ahead, captured }).head? = some {
      behind := (ahead.takeWhile accepts).reverse ++ behind
      ahead := ahead.dropWhile accepts
      captured } := by
  induction fuel generalizing behind ahead with
  | zero =>
    obtain rfl : ahead = [] := List.eq_nil_of_length_eq_zero (Nat.le_zero.mp enough)
    rfl
  | succ fuel ih =>
    cases ahead with
    | nil => simp [repeatEnds, ends]
    | cons c rest =>
      by_cases accepted : accepts c
      · have later := ih (c :: behind) rest (Nat.le_of_succ_le_succ enough)
        have turn : (Pattern.accept accepts).ends { behind, ahead := c :: rest, captured } =
            [{ behind := c :: behind, ahead := rest, captured }] := by
          simp [ends, accepted]
        simp only [repeatEnds, turn, List.filter_cons, List.filter_nil, List.length_cons,
          Nat.lt_succ_self, decide_true, if_true, List.flatMap_cons, List.flatMap_nil,
          List.append_nil, List.head?_append, later, Option.some_or]
        simp [accepted]
      · have turn : (Pattern.accept accepts).ends { behind, ahead := c :: rest, captured } =
            [] := by
          simp [ends, accepted]
        simp [repeatEnds, turn, accepted]

theorem plus_accept_head {c : Char} (accepted : accepts c = true) (behind rest : Text)
    (captured : Option Text) :
    ((plus (.accept accepts)).ends { behind, ahead := c :: rest, captured }).head? = some {
      behind := (rest.takeWhile accepts).reverse ++ c :: behind
      ahead := rest.dropWhile accepts
      captured } := by
  have first : (Pattern.accept accepts).ends { behind, ahead := c :: rest, captured } =
      [{ behind := c :: behind, ahead := rest, captured }] := by
    simp [ends, accepted]
  rw [plus, ends, first, List.flatMap_cons, List.flatMap_nil, List.append_nil, ends]
  exact repeatEnds_accept rest.length (c :: behind) rest captured le_rfl

theorem plus_accept_none {behind ahead : Text} {captured : Option Text}
    (none : ∀ c ∈ ahead.head?, accepts c = false) :
    (plus (.accept accepts)).ends { behind, ahead, captured } = [] := by
  cases ahead with
  | nil => rfl
  | cons c rest => simp [plus, ends, none c rfl]

def runsTo (accepts : Char → Bool) (label : Char) (text : Text) : Text :=
  (collapseRuns accepts false text).map fun c => if accepts c then label else c

theorem collapseRuns_dropWhile (text : Text) :
    collapseRuns accepts true text = collapseRuns accepts false (text.dropWhile accepts) := by
  induction text with
  | nil => rfl
  | cons c rest ih =>
    by_cases accepted : accepts c
    · rw [collapseRuns, if_pos accepted, if_pos rfl, ih, List.dropWhile_cons_of_pos accepted]
    · rw [List.dropWhile_cons_of_neg accepted, collapseRuns, collapseRuns, if_neg accepted,
        if_neg accepted]

theorem plus_accept_scan (fuel : Nat) (behind ahead : Text) (enough : ahead.length < fuel) :
    rendered [label] ((plus (.accept accepts)).scanFrom fuel { behind, ahead }) =
      runsTo accepts label ahead := by
  induction fuel generalizing behind ahead with
  | zero => exact absurd enough (Nat.not_lt_zero _)
  | succ fuel ih =>
    cases ahead with
    | nil =>
      have nothing : (plus (.accept accepts)).ends { behind, ahead := [] } = [] := rfl
      simp [scanFrom, nothing, rendered, runsTo, collapseRuns]
    | cons c rest =>
      have left : rest.length < fuel := Nat.lt_of_succ_lt_succ enough
      by_cases accepted : accepts c
      · have shorter : (rest.dropWhile accepts).length ≤ rest.length :=
          (List.dropWhile_sublist accepts).length_le
        have later := ih ((rest.takeWhile accepts).reverse ++ c :: behind)
          (rest.dropWhile accepts) (Nat.lt_of_le_of_lt shorter left)
        have less : (rest.dropWhile accepts).length < (c :: rest).length := by
          rw [List.length_cons]
          omega
        simp only [scanFrom, plus_accept_head accepted, if_pos less, rendered_cons, later]
        simp only [runsTo, collapseRuns, accepted, if_true, Bool.false_eq_true, if_false,
          List.map_cons, collapseRuns_dropWhile rest]
        rfl
      · have none : ∀ d ∈ (c :: rest).head?, accepts d = false := by
          simpa using accepted
        simp only [scanFrom, plus_accept_none none, List.head?_nil, rendered_cons,
          ih (c :: behind) rest left]
        simp only [runsTo, collapseRuns, accepted, Bool.false_eq_true, if_false, List.map_cons]
        rfl

theorem replace_plus (plain : label ≠ '$') (text : Text) :
    (plus (.accept accepts)).replace [label] text = runsTo accepts label text := by
  rw [replace_eq (by simpa using plain.symm)]
  exact plus_accept_scan (text.length + 1) [] text (Nat.lt_succ_self _)

theorem accept_scan (fuel : Nat) (behind ahead : Text) (enough : ahead.length < fuel) :
    rendered [label] ((Pattern.accept accepts).scanFrom fuel { behind, ahead }) =
      ahead.map fun c => if accepts c then label else c := by
  induction fuel generalizing behind ahead with
  | zero => exact absurd enough (Nat.not_lt_zero _)
  | succ fuel ih =>
    cases ahead with
    | nil => simp [scanFrom, ends, rendered]
    | cons c rest =>
      have later := ih (c :: behind) rest (Nat.lt_of_succ_lt_succ enough)
      by_cases accepted : accepts c
      · simp only [scanFrom, ends, accepted, if_true, List.head?_cons, List.length_cons,
          Nat.lt_succ_self, rendered_cons, later, List.map_cons]
        rfl
      · simp only [scanFrom, ends, accepted, Bool.false_eq_true, if_false, List.head?_nil,
          rendered_cons, later, List.map_cons]
        rfl

theorem replace_accept (plain : label ≠ '$') (text : Text) :
    (Pattern.accept accepts).replace [label] text =
      text.map fun c => if accepts c then label else c := by
  rw [replace_eq (by simpa using plain.symm)]
  exact accept_scan (text.length + 1) [] text (Nat.lt_succ_self _)

end

end Pattern

section

variable {accepts : Char → Bool} {label : Char} {text : Text}

def Collapsed (accepts : Char → Bool) (text : Text) : Prop :=
  text.IsChain fun first second => ¬(accepts first = true ∧ accepts second = true)

theorem collapsed_collapseRuns (inside : Bool) (text : Text) :
    Collapsed accepts (collapseRuns accepts inside text) ∧
      (inside = true → ∀ c ∈ (collapseRuns accepts inside text).head?, accepts c = false) := by
  induction text generalizing inside with
  | nil => exact ⟨List.isChain_nil, by simp [collapseRuns]⟩
  | cons c rest ih =>
    by_cases accepted : accepts c
    · obtain ⟨chain, first⟩ := ih true
      cases inside with
      | true =>
        rw [collapseRuns, if_pos accepted, if_pos rfl]
        exact ⟨chain, first⟩
      | false =>
        rw [collapseRuns, if_pos accepted, if_neg (by simp)]
        refine ⟨List.isChain_cons.mpr ⟨?_, chain⟩, by simp⟩
        rintro d isFirst ⟨_, accepted⟩
        rw [first rfl d isFirst] at accepted
        cases accepted
    · obtain ⟨chain, _⟩ := ih false
      rw [collapseRuns, if_neg accepted]
      refine ⟨List.isChain_cons.mpr ⟨fun d _ both => accepted both.1, chain⟩, ?_⟩
      intro _ d isFirst
      rw [← Option.some.inj isFirst]
      simpa using accepted

theorem mem_collapseRuns {c : Char} {inside : Bool} (member : c ∈ collapseRuns accepts inside text) :
    c ∈ text := by
  induction text generalizing inside with
  | nil => cases member
  | cons d rest ih =>
    rw [collapseRuns] at member
    split at member
    · split at member
      · exact List.mem_cons_of_mem d (ih member)
      · rcases List.mem_cons.mp member with rfl | later
        · exact List.mem_cons_self
        · exact List.mem_cons_of_mem d (ih later)
    · rcases List.mem_cons.mp member with rfl | later
      · exact List.mem_cons_self
      · exact List.mem_cons_of_mem d (ih later)

theorem Collapsed.runsTo (accepted : accepts label = true) (text : Text) :
    Collapsed accepts (Pattern.runsTo accepts label text) := by
  refine List.isChain_map_of_isChain _ ?_ (collapsed_collapseRuns false text).1
  intro first second apart both
  apply apart
  have same : ∀ c, accepts (if accepts c then label else c) = accepts c := by
    intro c
    by_cases isAccepted : accepts c <;> simp [isAccepted, accepted]
  rwa [same, same] at both

theorem Collapsed.collapseRuns_eq (collapsed : Collapsed accepts text) {inside : Bool}
    (first : inside = true → ∀ c ∈ text.head?, accepts c = false) :
    collapseRuns accepts inside text = text := by
  induction text generalizing inside with
  | nil => rfl
  | cons c rest ih =>
    obtain ⟨apart, chain⟩ := List.isChain_cons.mp collapsed
    by_cases accepted : accepts c
    · have outside : inside = false := by
        by_contra isInside
        rw [first (by simpa using isInside) c rfl] at accepted
        cases accepted
      rw [collapseRuns, if_pos accepted, outside, if_neg (by simp), ih chain]
      intro _ d isFirst
      have other := apart d isFirst
      simpa [accepted] using other
    · rw [collapseRuns, if_neg accepted, ih chain]
      simp

theorem Collapsed.runsTo_eq (collapsed : Collapsed accepts text)
    (only : ∀ c ∈ text, accepts c = true → c = label) : Pattern.runsTo accepts label text = text := by
  rw [Pattern.runsTo, collapsed.collapseRuns_eq (by simp)]
  refine (List.map_congr_left fun c member => ?_).trans (List.map_id' text)
  split
  · next accepted => exact (only c member accepted).symm
  · rfl

theorem stripped_ends (accepts : Char → Bool) (text : Text) :
    (∀ c ∈ ((text.dropWhile accepts).rdropWhile accepts).head?, accepts c = false) ∧
      ∀ c ∈ ((text.dropWhile accepts).rdropWhile accepts).getLast?, accepts c = false := by
  refine ⟨?_, ?_⟩
  · intro c isFirst
    obtain ⟨rest, whole⟩ := List.rdropWhile_prefix accepts (text.dropWhile accepts)
    have first : (text.dropWhile accepts).head? = some c := by
      rw [← whole, List.head?_append]
      exact Option.or_eq_some_iff.mpr (.inl isFirst)
    have outside := List.head?_dropWhile_not accepts text
    rwa [first] at outside
  · intro c isLast
    have some : (text.dropWhile accepts).rdropWhile accepts ≠ [] := by
      intro none
      rw [none] at isLast
      cases isLast
    have outside := List.rdropWhile_last_not accepts (text.dropWhile accepts) some
    rw [List.getLast?_eq_getLast_of_ne_nil some] at isLast
    rw [← Option.some.inj isLast]
    exact Bool.eq_false_iff.mpr outside

theorem stripped_eq_self (first : ∀ c ∈ text.head?, accepts c = false)
    (last : ∀ c ∈ text.getLast?, accepts c = false) :
    (text.dropWhile accepts).rdropWhile accepts = text := by
  have front : text.dropWhile accepts = text := by
    cases text with
    | nil => rfl
    | cons c rest => rw [List.dropWhile_cons_of_neg (by simp [first c rfl])]
  rw [front, List.rdropWhile_eq_self_iff]
  intro some
  rw [last _ (List.getLast?_eq_getLast_of_ne_nil some)]
  simp

theorem trim_ends (text : Text) : (∀ c ∈ (trim text).head?, isSpace c = false) ∧
    ∀ c ∈ (trim text).getLast?, isSpace c = false := stripped_ends isSpace text

theorem trim_eq_self (first : ∀ c ∈ text.head?, isSpace c = false)
    (last : ∀ c ∈ text.getLast?, isSpace c = false) : trim text = text :=
  stripped_eq_self first last

end

section

variable {accepts : Char → Bool} {label : Char} {text run left right : Text}

theorem Edged.of_words (nonempty : text ≠ []) (words : ∀ c ∈ text, isWordChar c = true) :
    Edged text := by
  refine ⟨?_, ?_⟩
  · rw [List.head?_eq_some_head nonempty]
    exact words _ (List.head_mem nonempty)
  · rw [List.getLast?_eq_getLast_of_ne_nil nonempty]
    exact words _ (List.getLast_mem nonempty)

theorem Run.of_map {change : Char → Char} (words : ∀ c, isWordChar c = true → change c = c)
    (others : ∀ c, isWordChar c = false → isWordChar (change c) = false)
    (isRun : Run (text.map change) run) : Run text run := by
  have same : ∀ c, isWordChar (change c) = isWordChar c := by
    intro c
    cases isWord : isWordChar c with
    | true => rw [words c isWord, isWord]
    | false => exact others c isWord
  obtain ⟨nonempty, inside, left, right, whole, opens, closes⟩ := isRun
  obtain ⟨before, rest, rfl, isLeft, isRest⟩ := List.map_eq_append_iff.mp whole
  obtain ⟨middle, after, rfl, isRun, isRight⟩ := List.map_eq_append_iff.mp isRest
  have kept : middle = run := by
    rw [← isRun]
    refine (List.map_id' middle).symm.trans (List.map_congr_left fun c member => ?_)
    have isWord := inside (change c) (isRun ▸ List.mem_map_of_mem member)
    rw [same] at isWord
    exact (words c isWord).symm
  refine ⟨nonempty, inside, before, after, by rw [kept], ?_, ?_⟩
  · rw [← isLeft, List.getLast?_map] at opens
    simpa [Free, Option.any_map, Function.comp_def, same] using opens
  · rw [← isRight, List.head?_map] at closes
    simpa [Free, Option.any_map, Function.comp_def, same] using closes

theorem free_last_cons {c : Char} (apart : left = [] → isWordChar c = false)
    (free : Free left.getLast?) : Free (c :: left).getLast? := by
  cases left with
  | nil => simpa [Free] using apart rfl
  | cons d rest => simpa [Free, List.getLast?_cons_cons] using free

theorem free_last_tail {c : Char} (free : Free (c :: left).getLast?) : Free left.getLast? := by
  cases left with
  | nil => rfl
  | cons d rest => simpa [Free, List.getLast?_cons_cons] using free

theorem collapseRuns_starts (symbols : ∀ c, isWordChar c = true → accepts c = false)
    (words : ∀ c ∈ run, isWordChar c = true) (closes : Free right.head?)
    (whole : collapseRuns accepts false text = run ++ right) :
    ∃ after, text = run ++ after ∧ Free after.head? := by
  induction run generalizing text with
  | nil =>
    refine ⟨text, rfl, ?_⟩
    cases text with
    | nil => rfl
    | cons c rest =>
      have first : right.head? = some c := by
        rw [← List.nil_append right, ← whole, collapseRuns]
        split <;> rfl
      rwa [first] at closes
  | cons c run ih =>
    cases text with
    | nil => cases whole
    | cons d rest =>
      have isFirst : d = c := by
        rw [collapseRuns] at whole
        split at whole <;> exact (List.cons.inj whole).1
      subst isFirst
      have apart := symbols d (words d List.mem_cons_self)
      rw [collapseRuns, if_neg (by simp [apart])] at whole
      obtain ⟨after, rfl, free⟩ := ih (fun e member => words e (List.mem_cons_of_mem d member))
        (List.cons.inj whole).2
      exact ⟨after, rfl, free⟩

theorem Run.of_collapseRuns (symbols : ∀ c, isWordChar c = true → accepts c = false) {inside : Bool}
    (isRun : Run (collapseRuns accepts inside text) run) : Run text run := by
  obtain ⟨nonempty, words, left, right, whole, opens, closes⟩ := isRun
  suffices stands : ∃ before after, text = before ++ (run ++ after) ∧ Free before.getLast? ∧
      Free after.head? ∧ (before = [] → left = []) by
    obtain ⟨before, after, same, freeBefore, freeAfter, _⟩ := stands
    exact ⟨nonempty, words, before, after, same, freeBefore, freeAfter⟩
  induction text generalizing inside left with
  | nil =>
    obtain ⟨_, empty⟩ := List.append_eq_nil_iff.mp whole.symm
    exact absurd (List.append_eq_nil_iff.mp empty).1 nonempty
  | cons c rest ih =>
    by_cases accepted : accepts c
    · have symbol : isWordChar c = false := by
        by_contra isWord
        rw [symbols c (by simpa using isWord)] at accepted
        cases accepted
      have further : ∀ {left : Text}, collapseRuns accepts true rest = left ++ (run ++ right) →
          Free left.getLast? → ∃ before after, c :: rest = before ++ (run ++ after) ∧
            Free before.getLast? ∧ Free after.head? ∧ before ≠ [] := by
        intro left same free
        obtain ⟨before, after, rfl, freeBefore, freeAfter, _⟩ := ih left same free
        exact ⟨c :: before, after, rfl, free_last_cons (fun _ => symbol) freeBefore, freeAfter,
          List.cons_ne_nil c before⟩
      cases inside with
      | true =>
        rw [collapseRuns, if_pos accepted, if_pos rfl] at whole
        obtain ⟨before, after, same, freeBefore, freeAfter, some⟩ := further whole opens
        exact ⟨before, after, same, freeBefore, freeAfter, fun none => absurd none some⟩
      | false =>
        rw [collapseRuns, if_pos accepted, if_neg (by simp)] at whole
        cases left with
        | nil =>
          cases run with
          | nil => exact absurd rfl nonempty
          | cons d others =>
            have isFirst := (List.cons.inj whole).1
            rw [← isFirst] at words
            rw [words c List.mem_cons_self] at symbol
            cases symbol
        | cons d left =>
          obtain ⟨before, after, same, freeBefore, freeAfter, some⟩ :=
            further (List.cons.inj whole).2 (free_last_tail opens)
          exact ⟨before, after, same, freeBefore, freeAfter, fun none => absurd none some⟩
    · rw [collapseRuns, if_neg accepted] at whole
      cases left with
      | nil =>
        have again : collapseRuns accepts false (c :: rest) = run ++ right := by
          rw [collapseRuns, if_neg accepted]
          exact whole
        obtain ⟨after, same, free⟩ := collapseRuns_starts symbols words closes again
        exact ⟨[], after, same, rfl, free, fun _ => rfl⟩
      | cons d left =>
        obtain ⟨rfl, tail⟩ := List.cons.inj whole
        obtain ⟨before, after, rfl, freeBefore, freeAfter, first⟩ :=
          ih left tail (free_last_tail opens)
        refine ⟨c :: before, after, rfl, free_last_cons (fun none => ?_) freeBefore, freeAfter,
          fun none => absurd none (List.cons_ne_nil c before)⟩
        rw [first none] at opens
        simpa [Free] using opens

theorem isSpace_of_word (c : Char) (isWord : isWordChar c = true) : isSpace c = false := by
  simp only [isWordChar, Bool.or_eq_true, Bool.and_eq_true, decide_eq_true_eq, beq_iff_eq] at isWord
  simp only [isSpace, Bool.or_eq_false_iff, Bool.and_eq_false_iff, decide_eq_false_iff_not,
    beq_eq_false_iff_ne]
  omega

theorem isWordChar_of_space (c : Char) (space : isSpace c = true) : isWordChar c = false := by
  by_contra isWord
  rw [isSpace_of_word c (by simpa using isWord)] at space
  cases space

theorem Run.of_blanked {symbols : Char → Bool}
    (apart : ∀ c, symbols c = true → isWordChar c = false) {text run : Text}
    (isRun : Run (text.map fun c => if symbols c then ' ' else c) run) : Run text run := by
  apply isRun.of_map
  · intro c isWord
    split
    · next isSymbol =>
        rw [apart c isSymbol] at isWord
        cases isWord
    · rfl
  · intro c symbol
    split
    · decide
    · exact symbol

theorem Run.of_trim {text run : Text} (isRun : Run (trim text) run) : Run text run := by
  obtain ⟨leading, trailing, whole, left, right⟩ := trim_decomposition text
  rw [whole, List.append_assoc]
  refine isRun.within ?_ ?_
  · cases last : leading.getLast? with
    | none => rfl
    | some c => exact isWordChar_of_space c (left c (List.mem_of_mem_getLast? last))
  · cases first : trailing.head? with
    | none => rfl
    | some c => exact isWordChar_of_space c (right c (List.mem_of_mem_head? first))

end

namespace Pattern

def StartsWord (pattern : Pattern) : Prop :=
  ∀ cursor, ∀ next ∈ pattern.ends cursor, (cursor.upTo next).head?.any isWordChar = true

theorem rendered_nil_split {c : Char} {rest : Text} (pieces : List Piece) {left : Text}
    (whole : rendered [] pieces = left ++ c :: rest) :
    ∃ earlier later, pieces = earlier ++ .plain c :: later ∧ rendered [] earlier = left ∧
      rendered [] later = rest := by
  induction pieces generalizing left with
  | nil => exact absurd whole.symm (by simp [rendered])
  | cons piece pieces ih =>
    cases piece with
    | hit behind matched ahead captured =>
      rw [rendered_hit, List.nil_append] at whole
      obtain ⟨earlier, later, rfl, isLeft, isRest⟩ := ih whole
      refine ⟨.hit behind matched ahead captured :: earlier, later, rfl, ?_, isRest⟩
      rw [rendered_hit, isLeft, List.nil_append]
    | plain d =>
      cases left with
      | nil =>
        obtain ⟨rfl, same⟩ := List.cons.inj whole
        exact ⟨[], pieces, rfl, rfl, same⟩
      | cons e left =>
        obtain ⟨rfl, same⟩ := List.cons.inj whole
        obtain ⟨earlier, later, rfl, isLeft, isRest⟩ := ih same
        refine ⟨.plain d :: earlier, later, rfl, ?_, isRest⟩
        rw [rendered_cons, isLeft]
        rfl

theorem source_cons (piece : Piece) (later : List Piece) :
    source (piece :: later) = piece.source ++ source later := List.flatMap_cons

theorem replace_eq_self {pattern : Pattern} {label text : Text} (plain : '$' ∉ label)
    (consumes : pattern.consumes = true)
    (free : ∀ before matched after, text = before ++ (matched ++ after) →
      ∀ next ∈ pattern.ends { behind := before.reverse, ahead := matched ++ after },
        Cursor.upTo { behind := before.reverse, ahead := matched ++ after } next ≠ matched) :
    pattern.replace label text = text := by
  have untouched : ∀ piece ∈ pattern.scan text, piece.put label = piece.source := by
    intro piece isPiece
    obtain ⟨earlier, later, split⟩ := List.append_of_mem isPiece
    cases piece with
    | plain c => rfl
    | hit behind matched ahead captured =>
      obtain ⟨_, _, next, inEnds, _, _, reads⟩ := scan_piece consumes split
      have whole := scan_source pattern text
      rw [split, source_append, source_cons] at whole
      exact absurd reads (free (source earlier) matched (source later) whole.symm next inEnds)
  rw [replace_eq plain, rendered, List.flatMap_congr untouched]
  exact scan_source pattern text

section

variable {body : Pattern} {text run right : Text}

theorem no_hit_behind_word (consumes : body.consumes = true) (starts : body.StartsWord) {c : Char}
    (isWord : isWordChar c = true) {earlier later : List Piece} {behind matched ahead : Text}
    {captured : Option Text} :
    (Pattern.seq .wordBoundary (.seq body .wordBoundary)).scan text ≠
      earlier ++ .plain c :: .hit behind matched ahead captured :: later := by
  intro split
  have consumesAll : (Pattern.seq .wordBoundary (.seq body .wordBoundary)).consumes = true := by
    simp [Pattern.consumes, consumes]
  have atHit : (Pattern.seq .wordBoundary (.seq body .wordBoundary)).scan text =
      (earlier ++ [.plain c]) ++ .hit behind matched ahead captured :: later := by
    rw [split, List.append_assoc]
    rfl
  obtain ⟨_, _, next, inEnds, _, _, _⟩ := scan_piece consumesAll atHit
  have free := (bounded_free inEnds).1 (starts _ next (mem_bounded inEnds).1)
  rw [source_append, List.reverse_append] at free
  simp [source, Piece.source, Free, isWord] at free

theorem removed_continues (consumes : body.consumes = true) (starts : body.StartsWord) {c : Char}
    {earlier later : List Piece} (words : ∀ d ∈ c :: run, isWordChar d = true)
    (split : (Pattern.seq .wordBoundary (.seq body .wordBoundary)).scan text =
      earlier ++ .plain c :: later)
    (isRun : rendered [] later = run ++ right) (closes : Free right.head?) :
    ∃ others, later = run.map .plain ++ others ∧ Free (source others).head? := by
  have isWord := words c List.mem_cons_self
  induction run generalizing c earlier later with
  | nil =>
    refine ⟨later, rfl, ?_⟩
    cases later with
    | nil => rfl
    | cons piece later =>
      cases piece with
      | plain d =>
        rw [List.nil_append, rendered_cons] at isRun
        rw [← isRun] at closes
        exact closes
      | hit behind matched ahead captured =>
        exact absurd split (no_hit_behind_word consumes starts isWord)
  | cons d run ih =>
    cases later with
    | nil => cases isRun
    | cons piece later =>
      cases piece with
      | plain e =>
        obtain ⟨rfl, tail⟩ := List.cons.inj isRun
        have further : (Pattern.seq .wordBoundary (.seq body .wordBoundary)).scan text =
            (earlier ++ [.plain c]) ++ .plain e :: later := by
          rw [split, List.append_assoc]
          rfl
        have tailWords : ∀ other ∈ e :: run, isWordChar other = true :=
          fun other member => words other (List.mem_cons_of_mem c member)
        obtain ⟨others, rfl, free⟩ :=
          ih tailWords further tail (tailWords e List.mem_cons_self)
        exact ⟨others, rfl, free⟩
      | hit behind matched ahead captured =>
        exact absurd split (no_hit_behind_word consumes starts isWord)

theorem run_of_removed (consumes : body.consumes = true) (starts : body.StartsWord)
    (isRun : Run ((Pattern.seq .wordBoundary (.seq body .wordBoundary)).replace [] text) run) :
    ∃ before after, text = before ++ (run ++ after) ∧ Free before.getLast? ∧ Free after.head? ∧
      (Pattern.seq .wordBoundary (.seq body .wordBoundary)).ends
        { behind := before.reverse, ahead := run ++ after } = [] := by
  have consumesAll : (Pattern.seq .wordBoundary (.seq body .wordBoundary)).consumes = true := by
    simp [Pattern.consumes, consumes]
  obtain ⟨nonempty, words, left, right, whole, opens, closes⟩ := isRun
  rw [replace_eq (by simp)] at whole
  cases run with
  | nil => exact absurd rfl nonempty
  | cons c run =>
    obtain ⟨earlier, later, split, isLeft, isRest⟩ := rendered_nil_split _ whole
    obtain ⟨others, rfl, free⟩ := removed_continues consumes starts words split isRest closes
    have reads : source (run.map .plain ++ others) = run ++ source others := by
      rw [source_append, source_plain]
    have isText : text = source earlier ++ ((c :: run) ++ source others) := by
      have whole := scan_source (.seq .wordBoundary (.seq body .wordBoundary)) text
      rw [split, source_append, source_cons, reads] at whole
      exact whole.symm
    refine ⟨source earlier, source others, isText, ?_, free, ?_⟩
    · rcases List.eq_nil_or_concat' earlier with rfl | ⟨before, piece, rfl⟩
      · rfl
      · cases piece with
        | plain d =>
          rw [← isLeft, rendered_append] at opens
          have symbol : isWordChar d = false := by
            simpa [rendered, Piece.put, Free] using opens
          simp [source, Piece.source, Free, symbol]
        | hit behind matched ahead captured =>
          rw [List.append_assoc, List.singleton_append] at split
          obtain ⟨isBehind, isAhead, next, inEnds, rfl, nextBehind, _⟩ :=
            scan_piece consumesAll split
          have reads : next.ahead = c :: (source (run.map .plain ++ others)) :=
            List.append_cancel_left isAhead
          have boundary := (mem_bounded inEnds).2.2
          rw [Cursor.atBoundary, reads, nextBehind, isBehind, List.head?_cons, Option.any_some,
            words c List.mem_cons_self] at boundary
          rw [source_append, source_cons, ← List.head?_reverse]
          simpa [source, Piece.source, Free] using boundary
    · have turn := scan_piece consumesAll split
      rw [reads] at turn
      exact turn

end

end Pattern

end StoryEngine.Text
