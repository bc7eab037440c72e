import StoryEngine.Pii.Windows
import StoryEngine.Processing.Chunks

namespace StoryEngine.Processing

open Text Pii

/-! # Masking chunk by chunk

The chunks of a transcript are masked one by one.  What a detector finds in the transcript it finds
in a chunk too, unless an edge of the chunk cuts its match.
-/

abbrev TracedText := List (Char × Nat)

def untraced (traced : TracedText) : Text := traced.map Prod.fst

def tracedSentencesUpTo (fuel : Nat) (text : TracedText) : List TracedText :=
  match fuel with
  | 0 => []
  | fuel + 1 =>
    let start := text.dropWhile (endsSentence ·.1)
    let body := start.takeWhile (!endsSentence ·.1)
    let marked := start.dropWhile (!endsSentence ·.1)
    if marked.isEmpty then []
    else
      let marks := marked.takeWhile (endsSentence ·.1)
      let spaced := marked.dropWhile (endsSentence ·.1)
      (body ++ marks ++ spaced.takeWhile (isSpace ·.1)) ::
        tracedSentencesUpTo fuel (spaced.dropWhile (isSpace ·.1))

def tracedSentences (text : TracedText) : List TracedText :=
  match tracedSentencesUpTo text.length text with
  | [] => [text]
  | found => found

def tracedLastUnits (limit : Nat) : TracedText → TracedText
  | [] => []
  | c :: rest =>
    if length16 (untraced (c :: rest)) ≤ limit then c :: rest else tracedLastUnits limit rest

def tracedTrim (text : TracedText) : TracedText :=
  (text.dropWhile (isSpace ·.1)).rdropWhile (isSpace ·.1)

structure TracedChunking where
  chunks : List TracedText := []
  current : TracedText := []

def addTracedSentence (chunking : TracedChunking) (sentence : TracedText) : TracedChunking :=
  if targetChunkSize < length16 (untraced chunking.current) + length16 (untraced sentence) &&
      !chunking.current.isEmpty then
    { chunks := chunking.chunks ++ [tracedTrim chunking.current]
      current := tracedLastUnits chunkOverlap chunking.current ++ sentence }
  else { chunking with current := chunking.current ++ sentence }

def tracedChunks (text : Text) : List TracedText :=
  let chunking := (tracedSentences text.zipIdx).foldl addTracedSentence {}
  if (tracedTrim chunking.current).isEmpty then chunking.chunks
  else chunking.chunks ++ [tracedTrim chunking.current]

/-- What a detection of the transcript covers is covered in every chunk that has it. -/
structure KeepsCovered (text : Text) : Prop where
  texts : (tracedChunks text).map untraced = (chunkTranscript text).map (·.text)
  covered : ∀ chunk ∈ tracedChunks text, ∀ place c position,
    chunk[place]? = some (c, position) → Covered (maskPii text).detections position →
      Covered (maskPii (untraced chunk)).detections place

/-- The place of the chunk is in a piece of the transcript whose edges cut no match, neither in the
transcript nor in the chunk. -/
def UncutAt (text : Text) (chunk : TracedText) (place : Nat) : Prop :=
  ∃ before inside after left right,
    text.zipIdx = before ++ (inside ++ after) ∧ chunk = left ++ (inside ++ right) ∧
    left.length ≤ place ∧ place < left.length + inside.length ∧
    UncutPart (untraced before) (untraced inside) (untraced after) ∧
    UncutPart (untraced left) (untraced inside) (untraced right)

/-- The chunks are made of pieces of the transcript, and their edges cut no match. -/
def UncutChunks (text : Text) : Prop :=
  ∀ chunk ∈ tracedChunks text, ∀ place < chunk.length, UncutAt text chunk place

section

variable {text : Text}

theorem untraced_zipIdx (text : Text) : untraced text.zipIdx = text := by
  rw [untraced, List.zipIdx_map_fst]

theorem untraced_cons (c : Char × Nat) (rest : TracedText) :
    untraced (c :: rest) = c.1 :: untraced rest := rfl

theorem untraced_append (left right : TracedText) :
    untraced (left ++ right) = untraced left ++ untraced right := List.map_append

theorem untraced_isEmpty (traced : TracedText) : (untraced traced).isEmpty = traced.isEmpty :=
  List.isEmpty_map

theorem untraced_dropWhile (accepts : Char → Bool) (traced : TracedText) :
    untraced (traced.dropWhile (accepts ·.1)) = (untraced traced).dropWhile accepts :=
  List.dropWhile_map.symm

theorem untraced_takeWhile (accepts : Char → Bool) (traced : TracedText) :
    untraced (traced.takeWhile (accepts ·.1)) = (untraced traced).takeWhile accepts :=
  List.takeWhile_map.symm

theorem untraced_sentencesUpTo (fuel : Nat) (traced : TracedText) :
    (tracedSentencesUpTo fuel traced).map untraced = sentencesUpTo fuel (untraced traced) := by
  induction fuel generalizing traced with
  | zero => rfl
  | succ fuel ih =>
    rw [tracedSentencesUpTo, sentencesUpTo]
    simp only [← untraced_dropWhile, ← untraced_takeWhile, untraced_isEmpty]
    split
    · rfl
    · rw [List.map_cons, ih, untraced_append, untraced_append]

theorem untraced_sentences (traced : TracedText) :
    (tracedSentences traced).map untraced = sentences (untraced traced) := by
  have same := untraced_sentencesUpTo traced.length traced
  have width : (untraced traced).length = traced.length := List.length_map _
  rw [tracedSentences, sentences, width, ← same]
  cases tracedSentencesUpTo traced.length traced with
  | nil => rfl
  | cons sentence rest => rfl

theorem untraced_lastUnits (limit : Nat) (traced : TracedText) :
    untraced (tracedLastUnits limit traced) = lastUnits limit (untraced traced) := by
  induction traced with
  | nil => rfl
  | cons c rest ih =>
    rw [tracedLastUnits]
    split
    · next within => rw [untraced_cons, lastUnits, ← untraced_cons, if_pos within]
    · next above => rw [ih, untraced_cons, lastUnits, ← untraced_cons, if_neg above]

theorem untraced_trim (traced : TracedText) :
    untraced (tracedTrim traced) = trim (untraced traced) := by
  rw [tracedTrim, trim, List.rdropWhile, List.rdropWhile, untraced, List.map_reverse, ← untraced,
    untraced_dropWhile, untraced, List.map_reverse, ← untraced, untraced_dropWhile]

/-- The traced chunking and the chunking have the same texts. -/
structure SameChunking (traced : TracedChunking) (chunking : Chunking) : Prop where
  chunks : traced.chunks.map untraced = chunking.chunks.map (·.text)
  current : untraced traced.current = chunking.current

variable {traced : TracedChunking} {chunking : Chunking}

theorem SameChunking.push
    (same : SameChunking traced chunking) :
    (traced.chunks ++ [tracedTrim traced.current]).map untraced =
      chunking.push.map (·.text) := by
  rw [Chunking.push, List.map_append, List.map_append, same.chunks, List.map_singleton,
    List.map_singleton, untraced_trim, same.current]

theorem SameChunking.add
    (same : SameChunking traced chunking) (sentence : TracedText) :
    SameChunking (addTracedSentence traced sentence) (addSentence chunking (untraced sentence)) := by
  rw [addTracedSentence, addSentence, same.current, ← untraced_isEmpty, same.current]
  split
  · refine ⟨same.push, ?_⟩
    rw [untraced_append, untraced_lastUnits, same.current]
  · exact ⟨same.chunks, by rw [untraced_append, same.current]⟩

theorem SameChunking.addAll
    (same : SameChunking traced chunking) (sentences : List TracedText) :
    SameChunking (sentences.foldl addTracedSentence traced)
      ((sentences.map untraced).foldl addSentence chunking) := by
  induction sentences generalizing traced chunking with
  | nil => exact same
  | cons sentence rest ih => exact ih (same.add sentence)

theorem untraced_chunks (text : Text) :
    (tracedChunks text).map untraced = (chunkTranscript text).map (·.text) := by
  have start : SameChunking {} {} := ⟨rfl, rfl⟩
  have same := start.addAll (tracedSentences text.zipIdx)
  rw [untraced_sentences, untraced_zipIdx] at same
  rw [tracedChunks, chunkTranscript]
  simp only [← untraced_isEmpty, untraced_trim, same.current]
  split
  · exact same.chunks
  · exact same.push

theorem covered_piece {inside before after : TracedText}
    (piece : text.zipIdx = before ++ (inside ++ after))
    (uncut : UncutPart (untraced before) (untraced inside) (untraced after)) {place position : Nat}
    {c : Char} (stands : inside[place]? = some (c, position))
    (covered : Covered (collectPiiDetections text) position) :
    Covered (collectPiiDetections (untraced inside)) place := by
  have within : place < inside.length := (List.getElem?_eq_some_iff.mp stands).1
  have whole : text = untraced before ++ (untraced inside ++ untraced after) := by
    rw [← untraced_append, ← untraced_append, ← piece, untraced_zipIdx]
  have behind : (untraced before).length = before.length := List.length_map _
  have inText : text.zipIdx[before.length + place]? = some (c, position) := by
    rw [piece, List.getElem?_append_right (Nat.le_add_right _ _), Nat.add_sub_cancel_left,
      List.getElem?_append_left within, stands]
  rw [List.getElem?_zipIdx, Option.map_eq_some_iff] at inText
  obtain ⟨_, _, same⟩ := inText
  have isPosition : position = (untraced before).length + place := by
    have second := congrArg Prod.snd same
    simp only [Nat.zero_add] at second
    rw [behind, second]
  have inPiece : place < (untraced inside).length := by
    rw [untraced, List.length_map]
    exact within
  rw [whole, isPosition] at covered
  exact (covered_part uncut inPiece).mp covered

theorem covered_chunk {chunk : TracedText} {place position : Nat} {c : Char}
    (uncut : UncutAt text chunk place) (stands : chunk[place]? = some (c, position))
    (covered : Covered (collectPiiDetections text) position) :
    Covered (collectPiiDetections (untraced chunk)) place := by
  obtain ⟨before, inside, after, left, right, piece, rfl, starts, ends, inText, inChunk⟩ := uncut
  have within : place - left.length < inside.length := by omega
  rw [List.getElem?_append_right starts, List.getElem?_append_left within] at stands
  have inPiece := covered_piece piece inText stands covered
  have width : (untraced left).length = left.length := List.length_map _
  have inside : place - left.length < (untraced inside).length := by
    rw [untraced, List.length_map]
    exact within
  have whole := (covered_part inChunk inside).mpr inPiece
  rw [width, Nat.add_sub_cancel' starts, ← untraced_append, ← untraced_append] at whole
  exact whole

theorem maskPii_detections (text : Text) :
    (maskPii text).detections = collectPiiDetections text := rfl

/-- Where no chunk edge cuts a match, masking the chunks hides what masking the transcript hides. -/
theorem chunks_keepCovered (uncut : UncutChunks text) : KeepsCovered text := by
  refine ⟨untraced_chunks text, fun chunk member place c position stands covered => ?_⟩
  rw [maskPii_detections] at covered ⊢
  exact covered_chunk (uncut chunk member place (List.getElem?_eq_some_iff.mp stands).1) stands
    covered

theorem uncutPart_whole (inside : Text) : UncutPart [] inside [] := by
  intro regex member
  constructor
  · intro read rest split nonempty
    exact absurd (List.append_eq_nil_iff.mp split.symm).2 nonempty
  · intro read rest _ _
    simp [Cursor.within]

theorem uncutAt_of_part {before chunk after : TracedText}
    (piece : text.zipIdx = before ++ (chunk ++ after))
    (uncut : UncutPart (untraced before) (untraced chunk) (untraced after)) :
    ∀ place < chunk.length, UncutAt text chunk place := by
  intro place within
  refine ⟨before, chunk, after, [], [], piece, by simp, Nat.zero_le _, ?_, uncut,
    uncutPart_whole _⟩
  simpa using within

theorem uncut_pieces {stops : Char → Prop}
    (unread : ∀ c, stops c → ∀ regex ∈ piiRegexes, regex.Stop c) {traced : TracedText}
    {first second : Nat} (firstEdge : ∀ c ∈ (untraced (traced.take first)).getLast?, stops c)
    (secondEdge : ∀ c ∈ (untraced (traced.take second)).getLast?, stops c) :
    ∀ chunk ∈ [traced.take first, traced.drop second],
      ∃ before after, traced = before ++ (chunk ++ after) ∧
        UncutPart (untraced before) (untraced chunk) (untraced after) := by
  have noEdge : ∀ c ∈ (untraced []).head?, stops c := by
    intro c absent
    cases absent
  intro chunk member
  rcases List.mem_pair.mp member with rfl | rfl
  · refine ⟨[], traced.drop first, by rw [List.nil_append, List.take_append_drop], ?_⟩
    exact uncutPart_of_stops unread noEdge (.inl firstEdge)
  · refine ⟨traced.take second, [], by rw [List.append_nil, List.take_append_drop], ?_⟩
    exact uncutPart_of_stops unread secondEdge (.inr noEdge)

def isUnread (c : Char) : Prop := c = ';' ∨ c = '!'

instance : DecidablePred isUnread := fun c => inferInstanceAs (Decidable (c = ';' ∨ c = '!'))

theorem isUnread_edge {edge : Option Char} (unread : edge.all isUnread = true) :
    ∀ c ∈ edge, isUnread c := by
  intro c stands
  rw [Option.mem_def.mp stands] at unread
  exact of_decide_eq_true unread

theorem isUnread_stop : ∀ c, isUnread c → ∀ regex ∈ piiRegexes, regex.Stop c := by
  have table : ∀ regex ∈ piiRegexes, regex.stopsAt ';' = true ∧ regex.stopsAt '!' = true := by
    decide +kernel
  rintro c (rfl | rfl) regex member
  · exact ⟨(table regex member).1, by decide⟩
  · exact ⟨(table regex member).2, by decide⟩

def longOpening : Text := List.replicate 1480 ';'

def keptMail : Text :=
  longOpening ++ ("john@example.com;!" : String).toList ++ List.replicate 100 ';' ++ ['!']

theorem keptMail_uncut : UncutChunks keptMail := by
  have chunks : tracedChunks keptMail = [keptMail.zipIdx.take 1498, keptMail.zipIdx.drop 1298] := by
    decide +kernel
  rw [UncutChunks, chunks]
  intro chunk member
  obtain ⟨before, after, piece, uncut⟩ := uncut_pieces isUnread_stop
    (isUnread_edge (by decide +kernel)) (isUnread_edge (by decide +kernel)) chunk member
  exact uncutAt_of_part piece uncut

def dottedMail : Text := ("bob@acme.com. ...Bye." : String).toList

/-- The dots between two sentences are in no chunk. -/
theorem dottedMail_uncut : UncutChunks dottedMail := by
  have chunks : tracedChunks dottedMail =
      [dottedMail.zipIdx.take 14 ++ dottedMail.zipIdx.drop 17] := by decide +kernel
  rw [UncutChunks, chunks]
  intro chunk member place within
  obtain rfl := List.mem_singleton.mp member
  by_cases first : place < 14
  · refine ⟨[], dottedMail.zipIdx.take 14, dottedMail.zipIdx.drop 14, [],
      dottedMail.zipIdx.drop 17, (List.take_append_drop _ _).symm, rfl, Nat.zero_le _, ?_, ?_, ?_⟩
    · exact Nat.lt_of_lt_of_eq first (by decide +kernel)
    · decide +kernel
    · decide +kernel
  · refine ⟨dottedMail.zipIdx.take 17, dottedMail.zipIdx.drop 17, [], dottedMail.zipIdx.take 14, [],
      ?_, ?_, ?_, ?_, ?_, ?_⟩
    · rw [List.append_nil, List.take_append_drop]
    · rw [List.append_nil]
    · exact (Nat.le_of_eq (by decide +kernel)).trans (Nat.le_of_not_lt first)
    · rw [← List.length_append]
      exact within
    · decide +kernel
    · decide +kernel

theorem uncutMails_keepCovered : KeepsCovered keptMail ∧ KeepsCovered dottedMail :=
  ⟨chunks_keepCovered keptMail_uncut, chunks_keepCovered dottedMail_uncut⟩

def cutMail : Text := longOpening ++ ("Ask john@example.com about it." : String).toList

theorem covered_behind_opening {inside : Text} {place : Nat} (within : place < inside.length) :
    Covered (collectPiiDetections (longOpening ++ inside)) (1480 + place) ↔
      Covered (collectPiiDetections inside) place := by
  have uncut : UncutPart longOpening inside [] := by
    apply uncutPart_of_stops isUnread_stop
    · exact isUnread_edge (by decide +kernel)
    · right
      intro c absent
      cases absent
  have width : longOpening.length = 1480 := List.length_replicate
  have covered := covered_part uncut within
  rw [List.append_nil, width] at covered
  exact covered

/-- The address is hidden in the transcript, and what its first chunk has of it is not. -/
theorem cutMail_not_keepsCovered :
    Covered (maskPii cutMail).detections (1480 + 4) ∧
      (chunkTranscript cutMail)[0]? =
        some { text := longOpening ++ ("Ask john@example." : String).toList, index := 0 } ∧
      ¬KeepsCovered cutMail := by
  have hidden : Covered (maskPii cutMail).detections (1480 + 4) := by
    rw [maskPii_detections, cutMail]
    apply (@covered_behind_opening ("Ask john@example.com about it." : String).toList 4 ?_).mpr
    · decide +kernel
    · decide +kernel
  have chunk : (tracedChunks cutMail)[0]? = some (cutMail.zipIdx.take 1497) := by decide +kernel
  have stands : (cutMail.zipIdx.take 1497)[1480 + 4]? = some ('j', 1480 + 4) := by decide +kernel
  have text : untraced (cutMail.zipIdx.take 1497) =
      longOpening ++ ("Ask john@example." : String).toList := by decide +kernel
  refine ⟨hidden, by decide +kernel, fun keeps => ?_⟩
  have masked := keeps.covered _ (List.mem_of_getElem? chunk) _ 'j' _ stands hidden
  rw [text] at masked
  have shown : ¬Covered (collectPiiDetections ("Ask john@example." : String).toList) 4 := by
    decide +kernel
  rw [maskPii_detections] at masked
  apply shown
  apply (@covered_behind_opening ("Ask john@example." : String).toList 4 ?_).mp masked
  decide +kernel

end

end StoryEngine.Processing
