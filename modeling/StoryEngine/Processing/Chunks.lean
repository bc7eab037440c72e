import StoryEngine.Text.Basic

namespace StoryEngine.Processing

open Text

/-! # Chunks of a transcript -/

structure RawChunk where
  text : Text
  index : Nat
deriving DecidableEq

def targetChunkSize : Nat := 1500

def chunkOverlap : Nat := 200

def endsSentence (c : Char) : Bool := c == '.' || c == '!' || c == '?'

/-- `match(/[^.!?]+[.!?]+\s*/g)`: what stands after the last mark is in no match, nor are
marks that no sentence comes before. -/
def sentencesUpTo (fuel : Nat) (text : Text) : List Text :=
  match fuel with
  | 0 => []
  | fuel + 1 =>
    let start := text.dropWhile endsSentence
    let body := start.takeWhile (!endsSentence ·)
    let marked := start.dropWhile (!endsSentence ·)
    if marked.isEmpty then []
    else
      let marks := marked.takeWhile endsSentence
      let spaced := marked.dropWhile endsSentence
      (body ++ marks ++ spaced.takeWhile isSpace) ::
        sentencesUpTo fuel (spaced.dropWhile isSpace)

theorem length_dropWhile_marks {marked : Text} (some : marked ≠ [])
    (marks : ∀ c ∈ marked.head?, endsSentence c = true) :
    (marked.dropWhile endsSentence).length < marked.length := by
  cases marked with
  | nil => exact absurd rfl some
  | cons c rest =>
    rw [List.dropWhile_cons_of_pos (marks c rfl), List.length_cons]
    exact Nat.lt_succ_of_le (List.dropWhile_sublist _).length_le

theorem sentencesUpTo_eq {text : Text} {fuel more : Nat} (enough : text.length ≤ fuel)
    (also : text.length ≤ more) : sentencesUpTo fuel text = sentencesUpTo more text := by
  induction fuel generalizing text more with
  | zero =>
    obtain rfl := List.eq_nil_of_length_eq_zero (Nat.le_zero.mp enough)
    cases more <;> rfl
  | succ fuel ih =>
    cases more with
    | zero =>
      obtain rfl := List.eq_nil_of_length_eq_zero (Nat.le_zero.mp also)
      rfl
    | succ more =>
      unfold sentencesUpTo
      dsimp only
      split
      · rfl
      · next nonempty =>
          generalize markedIs : (text.dropWhile endsSentence).dropWhile (!endsSentence ·) =
            marked at nonempty
          have within : marked.length ≤ text.length := by
            rw [← markedIs]
            exact Nat.le_trans (List.dropWhile_sublist _).length_le
              (List.dropWhile_sublist _).length_le
          have less : (marked.dropWhile endsSentence).length < marked.length := by
            refine length_dropWhile_marks (by simpa using nonempty) fun c isHead => ?_
            have outside := List.head?_dropWhile_not (!endsSentence ·)
              (text.dropWhile endsSentence)
            rw [markedIs, isHead] at outside
            simpa using outside
          have shorter : ((marked.dropWhile endsSentence).dropWhile isSpace).length ≤
              (marked.dropWhile endsSentence).length := (List.dropWhile_sublist _).length_le
          rw [@ih ((marked.dropWhile endsSentence).dropWhile isSpace) more (by omega) (by omega)]

def sentences (text : Text) : List Text :=
  match sentencesUpTo text.length text with
  | [] => [text]
  | found => found

/-- `slice(-limit)`; half a surrogate pair is left out. -/
def lastUnits (limit : Nat) : Text → Text
  | [] => []
  | c :: rest => if length16 (c :: rest) ≤ limit then c :: rest else lastUnits limit rest

/-- The chunks so far, and the text that goes into the next one. -/
structure Chunking where
  chunks : List RawChunk := []
  current : Text := []

def Chunking.push (chunking : Chunking) : List RawChunk :=
  chunking.chunks ++ [{ text := trim chunking.current, index := chunking.chunks.length }]

def addSentence (chunking : Chunking) (sentence : Text) : Chunking :=
  if targetChunkSize < length16 chunking.current + length16 sentence &&
      !chunking.current.isEmpty then
    { chunks := chunking.push, current := lastUnits chunkOverlap chunking.current ++ sentence }
  else { chunking with current := chunking.current ++ sentence }

def chunkTranscript (text : Text) : List RawChunk :=
  let chunking := (sentences text).foldl addSentence {}
  if (trim chunking.current).isEmpty then chunking.chunks else chunking.push

def Numbered (chunks : List RawChunk) : Prop := chunks.map (·.index) = List.range chunks.length

theorem Chunking.numbered_push {chunking : Chunking} (numbered : Numbered chunking.chunks) :
    Numbered chunking.push := by
  have indices : chunking.chunks.map (·.index) = List.range chunking.chunks.length := numbered
  simp [Numbered, push, indices, List.range_succ]

theorem numbered_addSentence {chunking : Chunking} (numbered : Numbered chunking.chunks)
    (sentence : Text) : Numbered (addSentence chunking sentence).chunks := by
  unfold addSentence
  split
  · exact chunking.numbered_push numbered
  · exact numbered

theorem numbered_sentences {chunking : Chunking} (numbered : Numbered chunking.chunks)
    (sentences : List Text) : Numbered (sentences.foldl addSentence chunking).chunks := by
  induction sentences generalizing chunking with
  | nil => exact numbered
  | cons sentence rest ih => exact ih (numbered_addSentence numbered sentence)

theorem chunkTranscript_numbered (text : Text) : Numbered (chunkTranscript text) := by
  have numbered : Numbered ((sentences text).foldl addSentence {}).chunks :=
    @numbered_sentences {} rfl (sentences text)
  unfold chunkTranscript
  dsimp only
  split
  · exact numbered
  · exact Chunking.numbered_push numbered

end StoryEngine.Processing
