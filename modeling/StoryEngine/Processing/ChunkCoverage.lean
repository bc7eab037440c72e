import Mathlib.Data.List.Chain
import StoryEngine.Processing.Chunks
import StoryEngine.Text.Words

namespace StoryEngine.Processing

open Text

/-! # The text in the chunks

A chunk is an overlap copied from the chunk before it and the sentences it was made for.  What is in
no sentence is in no chunk: marks that no sentence comes before, and the text behind the last mark.
-/

structure ChunkPart where
  overlap : Text := []
  body : Text := []

def ChunkPart.current (part : ChunkPart) : Text := part.overlap ++ part.body

/-- A chunking that tells the copied text from the sentences. -/
structure PartChunking where
  done : List ChunkPart := []
  last : ChunkPart := {}

def addPart (parts : PartChunking) (sentence : Text) : PartChunking :=
  if targetChunkSize < length16 parts.last.current + length16 sentence &&
      !parts.last.current.isEmpty then
    { done := parts.done ++ [parts.last]
      last := { overlap := lastUnits chunkOverlap parts.last.current, body := sentence } }
  else { parts with last := { parts.last with body := parts.last.body ++ sentence } }

def chunkParts (text : Text) : List ChunkPart :=
  let parts := (sentences text).foldl addPart {}
  if (trim parts.last.current).isEmpty then parts.done else parts.done ++ [parts.last]

/-- The first part begins with the copied text, and each other one with the end of the part before
it. -/
def Overlapping (copied : Text) : List ChunkPart → Prop
  | [] => True
  | part :: rest =>
    part.overlap = copied ∧ Overlapping (lastUnits chunkOverlap part.current) rest

/-- The chunks without what was copied are the words of the text. -/
structure LosesNothing (text : Text) : Prop where
  indices : Numbered (chunkTranscript text)
  chunks : (chunkTranscript text).map (·.text) =
    (chunkParts text).map fun part => trim part.current
  overlapping : Overlapping [] (chunkParts text)
  covered : words ((chunkParts text).flatMap (·.body)) = words text

def MarksApart : Text → Prop
  | [] => True
  | c :: rest =>
    (endsSentence c = true → ∀ d ∈ rest.head?, isSpace d = true →
      ∀ next ∈ (rest.dropWhile isSpace).head?, endsSentence next = false) ∧ MarksApart rest

/-- The text begins with a sentence, and behind its last mark there is only whitespace. -/
structure Punctuated (text : Text) : Prop where
  starts : ∀ c ∈ text.head?, endsSentence c = false
  ends : ∃ before mark spaces, text = before ++ mark :: spaces ∧ endsSentence mark = true ∧
    ∀ c ∈ spaces, isSpace c = true
  apart : MarksApart text

def Unmarked (text : Text) : Prop := ∀ c ∈ text.dropWhile endsSentence, endsSentence c = false

/-- How a sentence is found: marks are skipped, and whitespace behind its marks belongs to it. -/
structure FoundSentence (skipped body marks spaces rest : Text) : Prop where
  skips : ∀ c ∈ skipped, endsSentence c = true
  occupied : body ≠ []
  plain : ∀ c ∈ body, endsSentence c = false
  marked : marks ≠ []
  ends : ∀ c ∈ marks, endsSentence c = true
  blank : ∀ c ∈ spaces, isSpace c = true
  ended : ∀ c ∈ (spaces ++ rest).head?, endsSentence c = false
  solid : ∀ c ∈ rest.head?, isSpace c = false

inductive CutInto : Text → List Text → Prop where
  | none {text : Text} (unmarked : Unmarked text) : CutInto text []
  | next {text skipped body marks spaces rest : Text} {later : List Text}
      (whole : text = skipped ++ (body ++ (marks ++ (spaces ++ rest))))
      (found : FoundSentence skipped body marks spaces rest) (cut : CutInto rest later) :
      CutInto text ((body ++ marks ++ spaces) :: later)

variable {accepts : Char → Bool} {chunking : Chunking} {parts : PartChunking}

theorem head_dropWhile {text : Text} :
    ∀ c ∈ (text.dropWhile accepts).head?, accepts c = false := by
  intro c isHead
  have outside := List.head?_dropWhile_not accepts text
  rw [Option.mem_def.mp isHead] at outside
  exact outside

theorem takeWhile_ne_nil {text : Text} (occupied : text ≠ [])
    (first : ∀ c ∈ text.head?, accepts c = true) : text.takeWhile accepts ≠ [] := by
  cases text with
  | nil => exact absurd rfl occupied
  | cons c rest =>
    rw [List.takeWhile_cons_of_pos (first c rfl)]
    exact List.cons_ne_nil c _

theorem found_of {text start marked spaced : Text} (startIs : text.dropWhile endsSentence = start)
    (markedIs : start.dropWhile (!endsSentence ·) = marked) (nonempty : marked ≠ [])
    (spacedIs : marked.dropWhile endsSentence = spaced) :
    FoundSentence (text.takeWhile endsSentence) (start.takeWhile (!endsSentence ·))
      (marked.takeWhile endsSentence) (spaced.takeWhile isSpace) (spaced.dropWhile isSpace) where
  skips := fun _ member => List.mem_takeWhile_imp member
  occupied := by
    apply takeWhile_ne_nil
    · intro empty
      rw [empty] at markedIs
      exact nonempty markedIs.symm
    · rw [← startIs]
      intro c isHead
      simpa using head_dropWhile c isHead
  plain := by
    intro c member
    simpa using List.mem_takeWhile_imp member
  marked := by
    apply takeWhile_ne_nil nonempty
    rw [← markedIs]
    intro c isHead
    simpa using head_dropWhile c isHead
  ends := fun _ member => List.mem_takeWhile_imp member
  blank := fun _ member => List.mem_takeWhile_imp member
  ended := by
    rw [List.takeWhile_append_dropWhile, ← spacedIs]
    exact head_dropWhile
  solid := head_dropWhile

theorem sentencesUpTo_cut {fuel : Nat} {text : Text} (enough : text.length ≤ fuel) :
    CutInto text (sentencesUpTo fuel text) := by
  induction fuel generalizing text with
  | zero =>
    rw [List.eq_nil_of_length_eq_zero (Nat.le_zero.mp enough)]
    exact .none fun c absent => absurd absent List.not_mem_nil
  | succ fuel ih =>
    have skips := List.takeWhile_append_dropWhile (p := endsSentence) (l := text)
    rw [sentencesUpTo]
    generalize startIs : text.dropWhile endsSentence = start at skips ⊢
    have reads := List.takeWhile_append_dropWhile (p := (!endsSentence ·)) (l := start)
    generalize markedIs : start.dropWhile (!endsSentence ·) = marked at reads ⊢
    have ends := List.takeWhile_append_dropWhile (p := endsSentence) (l := marked)
    generalize spacedIs : marked.dropWhile endsSentence = spaced at ends ⊢
    have blank := List.takeWhile_append_dropWhile (p := isSpace) (l := spaced)
    by_cases empty : marked = []
    · rw [if_pos (List.isEmpty_iff.mpr empty)]
      refine .none ?_
      rw [empty, List.append_nil] at reads
      rw [Unmarked, startIs, ← reads]
      intro c member
      simpa using List.mem_takeWhile_imp member
    · rw [if_neg (fun none => empty (List.isEmpty_iff.mp none))]
      have found := found_of startIs markedIs empty spacedIs
      refine .next ?_ found (ih ?_)
      · rw [blank, ends, reads, skips]
      · have occupied := List.length_pos_iff.mpr found.occupied
        have lengths : text.length = (text.takeWhile endsSentence).length +
            ((start.takeWhile (!endsSentence ·)).length +
              ((marked.takeWhile endsSentence).length + ((spaced.takeWhile isSpace).length +
                (spaced.dropWhile isSpace).length))) := by
          rw [← List.length_append, ← List.length_append, ← List.length_append,
            ← List.length_append, blank, ends, reads, skips]
        omega

theorem space_unmarked {c : Char} (space : isSpace c = true) : endsSentence c = false := by
  cases mark : endsSentence c with
  | false => rfl
  | true =>
    simp only [endsSentence, Bool.or_eq_true, beq_iff_eq] at mark
    rcases mark with (rfl | rfl) | rfl
    · exact absurd space (by decide)
    · exact absurd space (by decide)
    · exact absurd space (by decide)

section

variable {text skipped body marks spaces rest : Text} {kept : List Text}

theorem marksApart_plain (plain : ∀ c ∈ body, endsSentence c = false) (text : Text) :
    MarksApart (body ++ text) ↔ MarksApart text := by
  induction body with
  | nil => rfl
  | cons c others ih =>
    obtain ⟨first, later⟩ := List.forall_mem_cons.mp plain
    rw [List.cons_append, MarksApart, ih later]
    constructor
    · intro both
      exact both.2
    · intro apart
      refine ⟨fun mark => ?_, apart⟩
      rw [first] at mark
      cases mark

theorem marksApart_marks (marked : marks ≠ []) (ends : ∀ c ∈ marks, endsSentence c = true)
    (text : Text) :
    MarksApart (marks ++ text) ↔
      (∀ d ∈ text.head?, isSpace d = true →
        ∀ next ∈ (text.dropWhile isSpace).head?, endsSentence next = false) ∧ MarksApart text := by
  induction marks with
  | nil => exact absurd rfl marked
  | cons c others ih =>
    obtain ⟨first, later⟩ := List.forall_mem_cons.mp ends
    rw [List.cons_append, MarksApart]
    cases others with
    | nil =>
      constructor
      · intro both
        exact ⟨both.1 first, both.2⟩
      · intro both
        exact ⟨fun _ => both.1, both.2⟩
    | cons d others =>
      rw [ih (List.cons_ne_nil d others) later]
      constructor
      · intro both
        exact both.2
      · intro both
        refine ⟨fun _ second isSecond space => ?_, both⟩
        obtain rfl := Option.some.inj isSecond
        have mark := later d List.mem_cons_self
        rw [space_unmarked space] at mark
        cases mark

theorem FoundSentence.marksApart (found : FoundSentence skipped body marks spaces rest) :
    MarksApart (body ++ (marks ++ (spaces ++ rest))) ↔
      (∀ c ∈ rest.head?, endsSentence c = false) ∧ MarksApart rest := by
  rw [marksApart_plain found.plain, marksApart_marks found.marked found.ends,
    marksApart_plain fun c member => space_unmarked (found.blank c member)]
  have onward : (spaces ++ rest).dropWhile isSpace = rest := by
    rw [List.dropWhile_append_of_pos found.blank]
    cases rest with
    | nil => rfl
    | cons c others =>
      rw [List.dropWhile_cons_of_neg]
      simp [found.solid c rfl]
  rw [onward]
  constructor
  · rintro ⟨next, apart⟩
    refine ⟨?_, apart⟩
    cases spaces with
    | nil => exact found.ended
    | cons d others => exact next d rfl (found.blank d List.mem_cons_self)
  · rintro ⟨next, apart⟩
    exact ⟨fun _ _ _ => next, apart⟩

theorem FoundSentence.ends_iff (found : FoundSentence skipped body marks spaces rest) :
    (∃ before mark after, body ++ (marks ++ (spaces ++ rest)) = before ++ mark :: after ∧
        endsSentence mark = true ∧ ∀ c ∈ after, isSpace c = true) ↔
      rest = [] ∨ ∃ before mark after, rest = before ++ mark :: after ∧
        endsSentence mark = true ∧ ∀ c ∈ after, isSpace c = true := by
  constructor
  · rintro ⟨before, mark, after, whole, isMark, blank⟩
    have split : (body ++ (marks ++ spaces)) ++ rest = before ++ mark :: after := by
      rw [List.append_assoc, List.append_assoc]
      exact whole
    rcases List.append_eq_append_iff.mp split with ⟨between, _, inRest⟩ | ⟨between, _, inSentence⟩
    · exact .inr ⟨between, mark, after, inRest, isMark, blank⟩
    · cases between with
      | nil => exact .inr ⟨[], mark, after, inSentence.symm, isMark, blank⟩
      | cons d between =>
        obtain ⟨_, tail⟩ := List.cons.inj inSentence
        cases rest with
        | nil => exact .inl rfl
        | cons c others =>
          have solid := found.solid c rfl
          rw [blank c (tail ▸ List.mem_append_right between List.mem_cons_self)] at solid
          cases solid
  · rintro (rfl | ⟨before, mark, after, rfl, isMark, blank⟩)
    · refine ⟨body ++ marks.dropLast, marks.getLast found.marked, spaces, ?_,
        found.ends _ (List.getLast_mem _), found.blank⟩
      conv => lhs; rw [← List.dropLast_concat_getLast found.marked]
      simp
    · refine ⟨body ++ (marks ++ (spaces ++ before)), mark, after, ?_, isMark, blank⟩
      simp only [List.append_assoc]

theorem FoundSentence.punctuated_iff (found : FoundSentence skipped body marks spaces rest) :
    Punctuated (skipped ++ (body ++ (marks ++ (spaces ++ rest)))) ↔
      skipped = [] ∧ (rest = [] ∨ Punctuated rest) := by
  constructor
  · rintro ⟨starts, ends, apart⟩
    cases skipped with
    | cons c others =>
      have mark := found.skips c List.mem_cons_self
      rw [starts c rfl] at mark
      cases mark
    | nil =>
      refine ⟨rfl, ?_⟩
      rw [List.nil_append] at ends apart
      obtain ⟨next, apartRest⟩ := found.marksApart.mp apart
      rcases found.ends_iff.mp ends with none | endsRest
      · exact .inl none
      · exact .inr ⟨next, endsRest, apartRest⟩
  · rintro ⟨rfl, remaining⟩
    rw [List.nil_append]
    refine ⟨?_, ?_, ?_⟩
    · obtain ⟨first, others, rfl⟩ := List.exists_cons_of_ne_nil found.occupied
      intro c isHead
      obtain rfl := Option.some.inj isHead
      exact found.plain first List.mem_cons_self
    · apply found.ends_iff.mpr
      cases remaining with
      | inl none => exact .inl none
      | inr punctuated => exact .inr punctuated.ends
    · apply found.marksApart.mpr
      cases remaining with
      | inl none =>
        rw [none]
        refine ⟨?_, trivial⟩
        intro c absent
        cases absent
      | inr punctuated => exact ⟨punctuated.starts, punctuated.apart⟩

def solidCount (text : Text) : Nat := (text.filter (!isSpace ·)).length

theorem solidCount_append (text later : Text) :
    solidCount (text ++ later) = solidCount text + solidCount later := by
  rw [solidCount, List.filter_append, List.length_append]
  rfl

theorem solidCount_of_solid (solid : ∀ c ∈ text, isSpace c = false) :
    solidCount text = text.length := by
  have all : text.filter (!isSpace ·) = text := by
    rw [List.filter_eq_self]
    intro c member
    simp [solid c member]
  rw [solidCount, all]

theorem Unmarked.not_punctuated (unmarked : Unmarked text) : ¬Punctuated text := by
  rintro ⟨starts, ⟨before, mark, spaces, whole, isMark, _⟩, _⟩
  have same : text.dropWhile endsSentence = text := by
    cases text with
    | nil => rfl
    | cons c rest =>
      rw [List.dropWhile_cons_of_neg]
      simp [starts c rfl]
  have inText : mark ∈ text := by
    rw [whole]
    exact List.mem_append_right before List.mem_cons_self
  rw [unmarked mark (same.symm ▸ inText)] at isMark
  cases isMark

theorem CutInto.solidCount_le (cut : CutInto text kept) :
    solidCount kept.flatten ≤ solidCount text := by
  induction cut with
  | none => exact Nat.zero_le _
  | next whole found _ ih =>
    rw [whole]
    simp only [List.flatten_cons, solidCount_append]
    omega

theorem CutInto.keeps_iff (cut : CutInto text kept)
    (solid : (∀ c ∈ text.head?, isSpace c = false) ∨ kept ≠ []) :
    solidCount kept.flatten = solidCount text ↔ text = [] ∨ Punctuated text := by
  induction cut with
  | @none text unmarked =>
    rcases solid with solid | some
    · constructor
      · intro none
        cases text with
        | nil => exact .inl rfl
        | cons c rest =>
          rw [solidCount, solidCount, List.filter_cons_of_pos (by simp [solid c rfl])] at none
          cases none
      · rintro (rfl | punctuated)
        · rfl
        · exact absurd punctuated unmarked.not_punctuated
    · exact absurd rfl some
  | @next text skipped body marks spaces rest later whole found cut ih =>
    have some : text ≠ [] := by
      intro empty
      rw [empty] at whole
      have none := (List.append_eq_nil_iff.mp whole.symm).2
      exact found.occupied (List.append_eq_nil_iff.mp none).1
    have skippedSolid : solidCount skipped = skipped.length := by
      apply solidCount_of_solid
      intro c member
      cases space : isSpace c with
      | false => rfl
      | true =>
        have mark := found.skips c member
        rw [space_unmarked space] at mark
        cases mark
    have fewer := cut.solidCount_le
    rw [or_iff_right some, whole, found.punctuated_iff, ← ih (.inl found.solid)]
    simp only [List.flatten_cons, solidCount_append, skippedSolid]
    rw [← List.length_eq_zero_iff]
    omega

theorem CutInto.flatten_eq (cut : CutInto text kept) (punctuated : Punctuated text) :
    kept.flatten = text := by
  induction cut with
  | none unmarked => exact absurd punctuated unmarked.not_punctuated
  | @next text skipped body marks spaces rest later whole found cut ih =>
    rw [whole] at punctuated ⊢
    obtain ⟨rfl, remaining⟩ := found.punctuated_iff.mp punctuated
    rw [List.flatten_cons, List.nil_append]
    have onward : later.flatten = rest := by
      rcases remaining with rfl | punctuatedRest
      · cases cut with
        | none => rfl
        | next whole found _ =>
          have none := (List.append_eq_nil_iff.mp whole.symm).2
          exact absurd (List.append_eq_nil_iff.mp none).1 found.occupied
      · exact ih punctuatedRest
    rw [onward]
    simp only [List.append_assoc]

theorem CutInto.eq_nil_iff (cut : CutInto text kept) : kept = [] ↔ Unmarked text := by
  cases cut with
  | none unmarked => exact ⟨fun _ => unmarked, fun _ => rfl⟩
  | @next text skipped body marks spaces rest later whole found cut =>
    constructor
    · intro none
      cases none
    · intro unmarked
      obtain ⟨mark, others, same⟩ := List.exists_cons_of_ne_nil found.marked
      have start : (skipped ++ (body ++ (marks ++ (spaces ++ rest)))).dropWhile endsSentence =
          body ++ (marks ++ (spaces ++ rest)) := by
        rw [List.dropWhile_append_of_pos found.skips]
        obtain ⟨first, remaining, rfl⟩ := List.exists_cons_of_ne_nil found.occupied
        rw [List.cons_append, List.dropWhile_cons_of_neg]
        simp [found.plain first List.mem_cons_self]
      rw [whole, Unmarked, start] at unmarked
      have isMark := found.ends mark (same ▸ List.mem_cons_self)
      have inText : mark ∈ body ++ (marks ++ (spaces ++ rest)) := by simp [same]
      rw [unmarked mark inText] at isMark
      cases isMark

end

structure Follows (chunking : Chunking) (parts : PartChunking) : Prop where
  chunks : chunking.chunks.map (·.text) = parts.done.map fun part => trim part.current
  current : chunking.current = parts.last.current

theorem Follows.push (follows : Follows chunking parts) :
    chunking.push.map (·.text) = (parts.done ++ [parts.last]).map fun part => trim part.current := by
  rw [Chunking.push, List.map_append, List.map_append, follows.chunks, follows.current]
  rfl

theorem Follows.addSentence
    (follows : Follows chunking parts) (sentence : Text) :
    Follows (addSentence chunking sentence) (addPart parts sentence) := by
  rw [Processing.addSentence, addPart, follows.current]
  split
  · exact ⟨follows.push, rfl⟩
  · exact ⟨follows.chunks, List.append_assoc parts.last.overlap parts.last.body sentence⟩

theorem Follows.sentences
    (follows : Follows chunking parts) (sentences : List Text) :
    Follows (sentences.foldl Processing.addSentence chunking) (sentences.foldl addPart parts) := by
  induction sentences generalizing chunking parts with
  | nil => exact follows
  | cons sentence rest ih => exact ih (follows.addSentence sentence)

theorem chunkTranscript_parts (text : Text) : (chunkTranscript text).map (·.text) =
    (chunkParts text).map fun part => trim part.current := by
  have follows := (@Follows.sentences {} {} ⟨rfl, rfl⟩ (sentences text))
  simp only [chunkTranscript, chunkParts, follows.current]
  split
  · exact follows.chunks
  · exact follows.push

section

variable {copied : Text} {done : List ChunkPart} {last next : ChunkPart}

theorem Overlapping.init (overlapping : Overlapping copied (done ++ [last])) :
    Overlapping copied done := by
  induction done generalizing copied with
  | nil => trivial
  | cons part rest ih => exact ⟨overlapping.1, ih overlapping.2⟩

theorem Overlapping.extend (overlapping : Overlapping copied (done ++ [last]))
    (same : next.overlap = last.overlap) : Overlapping copied (done ++ [next]) := by
  induction done generalizing copied with
  | nil => exact ⟨same.trans overlapping.1, trivial⟩
  | cons part rest ih => exact ⟨overlapping.1, ih overlapping.2⟩

theorem Overlapping.push (overlapping : Overlapping copied (done ++ [last]))
    (copies : next.overlap = lastUnits chunkOverlap last.current) :
    Overlapping copied (done ++ [last] ++ [next]) := by
  induction done generalizing copied with
  | nil => exact ⟨overlapping.1, copies, trivial⟩
  | cons part rest ih => exact ⟨overlapping.1, ih overlapping.2⟩

end

theorem addParts_overlapping
    (overlapping : Overlapping [] (parts.done ++ [parts.last])) (sentences : List Text) :
    Overlapping [] ((sentences.foldl addPart parts).done ++ [(sentences.foldl addPart parts).last]) := by
  induction sentences generalizing parts with
  | nil => exact overlapping
  | cons sentence rest ih =>
    apply ih
    rw [addPart]
    split
    · exact overlapping.push rfl
    · exact overlapping.extend rfl

theorem chunkParts_overlapping (text : Text) : Overlapping [] (chunkParts text) := by
  have overlapping := @addParts_overlapping {} ⟨rfl, trivial⟩ (sentences text)
  simp only [chunkParts]
  split
  · exact overlapping.init
  · exact overlapping

theorem addParts_bodies (parts : PartChunking) (sentences : List Text) :
    (sentences.foldl addPart parts).done.flatMap (·.body) ++
        (sentences.foldl addPart parts).last.body =
      parts.done.flatMap (·.body) ++ parts.last.body ++ sentences.flatten := by
  induction sentences generalizing parts with
  | nil => simp
  | cons sentence rest ih =>
    rw [List.foldl_cons, ih, addPart, List.flatten_cons]
    split
    · simp
    · simp

theorem addParts_last (parts : PartChunking) {sentences : List Text} {sentence : Text}
    (isLast : sentence ∈ sentences.getLast?) :
    ∀ c ∈ sentence, c ∈ (sentences.foldl addPart parts).last.current := by
  induction sentences generalizing parts with
  | nil => cases isLast
  | cons first rest ih =>
    cases rest with
    | nil =>
      obtain rfl := Option.some.inj isLast
      intro c member
      rw [List.foldl_cons, List.foldl_nil, addPart]
      split
      · exact List.mem_append_right _ member
      · exact List.mem_append_right _ (List.mem_append_right _ member)
    | cons second others =>
      rw [List.getLast?_cons_cons] at isLast
      exact ih (addPart parts first) isLast

theorem chunkParts_bodies {text : Text} (kept : trim ((sentences text).foldl addPart {}).last.current ≠ []) :
    (chunkParts text).flatMap (·.body) = (sentences text).flatten := by
  have bodies := addParts_bodies {} (sentences text)
  simp only [chunkParts]
  rw [if_neg (fun none => kept (List.isEmpty_iff.mp none)), List.flatMap_append]
  simpa using bodies

theorem CutInto.solid_mem {text : Text} {kept : List Text} (cut : CutInto text kept) :
    ∀ sentence ∈ kept, ∃ c ∈ sentence, isSpace c = false := by
  induction cut with
  | none =>
    intro sentence absent
    cases absent
  | @next text skipped body marks spaces rest later whole found _ ih =>
    refine List.forall_mem_cons.mpr ⟨?_, ih⟩
    obtain ⟨mark, others, same⟩ := List.exists_cons_of_ne_nil found.marked
    have isMark := found.ends mark (same ▸ List.mem_cons_self)
    refine ⟨mark, by simp [same], ?_⟩
    cases space : isSpace mark with
    | false => rfl
    | true =>
      rw [space_unmarked space] at isMark
      cases isMark

theorem chunkParts_bodies_of_unmarked {text : Text} (single : sentences text = [text]) :
    words ((chunkParts text).flatMap (·.body)) = words text := by
  have parts : (sentences text).foldl addPart {} = { last := { body := text } } := by
    rw [single]
    simp [addPart, ChunkPart.current]
  by_cases blank : trim text = []
  · have allBlank : ∀ c ∈ text, isSpace c = true := by
      intro c member
      by_contra solid
      exact trim_ne_nil member (eq_false_of_ne_true solid) blank
    have bodies : (chunkParts text).flatMap (·.body) = [] := by
      simp [chunkParts, parts, ChunkPart.current, blank]
    rw [bodies, words_eq_nil allBlank]
    rfl
  · have kept : trim ((sentences text).foldl addPart {}).last.current ≠ [] := by
      rw [parts]
      exact blank
    rw [chunkParts_bodies kept, single, List.flatten_singleton]

theorem chunkParts_bodies_of_cut {text : Text} {kept : List Text} (cut : CutInto text kept)
    (some : kept ≠ []) (same : sentences text = kept) :
    (chunkParts text).flatMap (·.body) = kept.flatten := by
  rw [← same]
  apply chunkParts_bodies
  obtain ⟨c, inLast, solid⟩ := cut.solid_mem (kept.getLast some) (List.getLast_mem some)
  have isLast : kept.getLast some ∈ (sentences text).getLast? := by
    rw [same]
    exact List.getLast?_eq_some_getLast some
  exact trim_ne_nil (addParts_last {} isLast c inLast) solid

/-- Nothing of a text is lost exactly when it has no mark behind its beginning, or when it begins
with a sentence, ends with one, and has a sentence before all of its marks. -/
theorem losesNothing_iff (text : Text) : LosesNothing text ↔ Unmarked text ∨ Punctuated text := by
  have cut := @sentencesUpTo_cut text.length text le_rfl
  have enough (covered : words ((chunkParts text).flatMap (·.body)) = words text) :
      LosesNothing text :=
    ⟨chunkTranscript_numbered text, chunkTranscript_parts text, chunkParts_overlapping text, covered⟩
  cases found : sentencesUpTo text.length text with
  | nil =>
    have unmarked := cut.eq_nil_iff.mp found
    have single : sentences text = [text] := by rw [sentences, found]
    constructor
    · intro _
      exact .inl unmarked
    · intro _
      exact enough (chunkParts_bodies_of_unmarked single)
  | cons sentence rest =>
    rw [found] at cut
    have some := List.cons_ne_nil sentence rest
    have same : sentences text = sentence :: rest := by rw [sentences, found]
    have bodies := chunkParts_bodies_of_cut cut some same
    constructor
    · intro loses
      have covered := congrArg List.flatten loses.covered
      rw [bodies, words_flatten, words_flatten] at covered
      rcases (cut.keeps_iff (.inr some)).mp (congrArg List.length covered) with rfl | punctuated
      · cases found
      · exact .inr punctuated
    · rintro (unmarked | punctuated)
      · exact absurd (cut.eq_nil_iff.mpr unmarked) some
      · apply enough
        rw [bodies, cut.flatten_eq punctuated]

/-- The words behind the last mark are in no chunk. -/
theorem losesNothing_not_unfinished :
    chunkTranscript "We agreed. Call me".toList = [{ text := "We agreed.".toList, index := 0 }] ∧
      ¬LosesNothing "We agreed. Call me".toList := by
  constructor
  · decide +kernel
  · intro loses
    have covered := loses.covered
    revert covered
    decide +kernel

end StoryEngine.Processing
