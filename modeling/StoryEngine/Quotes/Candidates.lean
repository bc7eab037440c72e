import Mathlib.Data.List.Dedup
import StoryEngine.Data.Upserts
import StoryEngine.Processing.SearchIndex

namespace StoryEngine.Quotes

open Data Processing Schema Text

/-! # Candidates for quotes

A chunk of a transcript may give one candidate.  Of the chunks whose candidates have the same
normalized text, one is kept.
-/

structure QuoteChunk extends TranscriptChunk where
  tagConfidences : List ℚ := []

structure QuoteCandidate where
  chunkId : RowId
  text : Text
  confidence : ℚ
  chunkIndex : Nat

/-- `replace(/\s+/g, " ")` -/
def collapseSpaces (text : Text) : Text :=
  (collapseRuns isSpace false text).map fun c => if isSpace c then ' ' else c

def greetings : List Text := [
  "hello", "hi there", "good morning", "good afternoon", "thanks for joining", "can you hear me",
  "quick sync"]

/-- `split(/(?<=[.!?])\s+/)` of a text without runs of spaces; `ended` says whether the previous
character ends a sentence. -/
def splitSentences (ended : Bool) : Text → List Text
  | [] => [[]]
  | c :: rest =>
    if ended && isSpace c then [] :: splitSentences false rest
    else
      match splitSentences (c == '.' || c == '!' || c == '?') rest with
      | [] => [[c]]
      | part :: parts => (c :: part) :: parts

/-- `slice(0, limit)`; half a surrogate pair is left out. -/
def firstUnits (limit : Nat) : Text → Text
  | [] => []
  | c :: rest =>
    if length16 [c] ≤ limit then c :: firstUnits (limit - length16 [c]) rest else []

section

variable (cases : CaseMapping)

def greetingPattern : Pattern :=
  .seq .wordBoundary
    (.seq (Pattern.choice (greetings.map (Pattern.literal cases true))) .wordBoundary)

def deriveCandidateQuote (text : Text) : Option Text :=
  let cleaned := trim (collapseSpaces text)
  if length16 cleaned < 70 ∨ 400 < length16 cleaned then none
  else if (greetingPattern cases).test cleaned then none
  else
    let sentence := (splitSentences false cleaned).find? fun part => 50 ≤ length16 (trim part)
    let chosen := trim (sentence.getD cleaned)
    if length16 chosen < 50 then none else some (firstUnits 320 chosen)

def normalizeQuoteText (text : Text) : Text := cases.toLowerCase (collapseSpaces (trim text))

def topConfidence (chunk : QuoteChunk) : ℚ := chunk.tagConfidences.max?.getD (55 / 100)

def supersedes (candidate existing : QuoteCandidate) : Bool :=
  decide (existing.confidence < candidate.confidence) ||
    (candidate.confidence == existing.confidence &&
      decide (existing.chunkIndex < candidate.chunkIndex))

/-- `seen` are the normalized texts of the quotes that the call already has. -/
def addCandidate (seen : List Text) (table : List (Text × QuoteCandidate)) (chunk : QuoteChunk) :
    List (Text × QuoteCandidate) :=
  match deriveCandidateQuote cases chunk.text with
  | none => table
  | some text =>
    let normalized := normalizeQuoteText cases text
    if normalized.isEmpty || seen.contains normalized then table
    else
      let candidate : QuoteCandidate := {
        chunkId := chunk.id
        text
        confidence := topConfidence chunk
        chunkIndex := chunk.chunkIndex }
      if (table.lookup normalized).all (supersedes candidate) then
        upsertEntry table (normalized, candidate)
      else table

def candidateTable (seen : List Text) (chunks : List QuoteChunk) : List (Text × QuoteCandidate) :=
  chunks.foldl (addCandidate cases seen) []

def rankCandidates (candidates : List QuoteCandidate) : List QuoteCandidate :=
  candidates.insertionSort fun first second =>
    second.confidence < first.confidence ∨
      (first.confidence = second.confidence ∧ first.chunkIndex ≤ second.chunkIndex)

def newTexts (seen : List Text) (chunks : List QuoteChunk) : List Text :=
  (((chunks.filterMap fun chunk => deriveCandidateQuote cases chunk.text).map
      (normalizeQuoteText cases)).filter fun text =>
    !text.isEmpty && !seen.contains text).dedup

def BringsText (seen : List Text) (chunk : QuoteChunk) (text : Text) : Prop :=
  (∃ candidate, deriveCandidateQuote cases chunk.text = some candidate ∧
    normalizeQuoteText cases candidate = text) ∧ text ≠ [] ∧ text ∉ seen

variable {seen : List Text} {chunks : List QuoteChunk} {text : Text}
  {table : List (Text × QuoteCandidate)} {chunk : QuoteChunk}

theorem mem_newTexts :
    text ∈ newTexts cases seen chunks ↔ ∃ chunk ∈ chunks, BringsText cases seen chunk text := by
  simp only [newTexts, BringsText, List.mem_dedup, List.mem_filter, List.mem_map,
    List.mem_filterMap, Bool.and_eq_true, Bool.not_eq_true', List.isEmpty_eq_false_iff]
  constructor
  · rintro ⟨⟨candidate, ⟨chunk, member, derived⟩, same⟩, solid, unseen⟩
    exact ⟨chunk, member, ⟨candidate, derived, same⟩, solid, by simpa using unseen⟩
  · rintro ⟨chunk, member, ⟨candidate, derived, same⟩, solid, unseen⟩
    exact ⟨⟨candidate, ⟨chunk, member, derived⟩, same⟩, solid, by simpa using unseen⟩

/-- Each new text stands once, with a candidate of that text. -/
structure HasNewTexts (seen : List Text) (chunks : List QuoteChunk)
    (table : List (Text × QuoteCandidate)) : Prop where
  once : (table.map (·.1)).Nodup
  own : ∀ entry ∈ table, normalizeQuoteText cases entry.2.text = entry.1
  keys : ∀ text, text ∈ table.map (·.1) ↔ text ∈ newTexts cases seen chunks

variable {cases}

theorem mem_newTexts_concat (chunk : QuoteChunk) :
    text ∈ newTexts cases seen (chunks ++ [chunk]) ↔
      text ∈ newTexts cases seen chunks ∨ BringsText cases seen chunk text := by
  simp only [mem_newTexts, List.mem_append, List.mem_singleton, or_and_right, exists_or,
    exists_eq_left]

theorem HasNewTexts.keep
    (has : HasNewTexts cases seen chunks table)
    (old : ∀ text, BringsText cases seen chunk text → text ∈ table.map (·.1)) :
    HasNewTexts cases seen (chunks ++ [chunk]) table := by
  refine ⟨has.once, has.own, fun text => ?_⟩
  rw [mem_newTexts_concat, ← has.keys]
  exact ⟨.inl, fun either => either.elim id (old text)⟩

theorem HasNewTexts.upsert
    (has : HasNewTexts cases seen chunks table)
    {candidate : QuoteCandidate}
    (own : normalizeQuoteText cases candidate.text = text)
    (brings : ∀ brought, BringsText cases seen chunk brought ↔ brought = text) :
    HasNewTexts cases seen (chunks ++ [chunk]) (upsertEntry table (text, candidate)) := by
  constructor
  · exact nodup_upsertEntry has.once _
  · rintro ⟨key, value⟩ member
    rcases (mem_upsertEntry has.once).mp member with same | ⟨_, old⟩
    · cases same
      exact own
    · exact has.own (key, value) old
  · intro key
    rw [mem_keys_upsertEntry has.once, has.keys, mem_newTexts_concat, brings, or_comm]

theorem HasNewTexts.add
    (has : HasNewTexts cases seen chunks table)
    (chunk : QuoteChunk) :
    HasNewTexts cases seen (chunks ++ [chunk]) (addCandidate cases seen table chunk) := by
  cases derived : deriveCandidateQuote cases chunk.text with
  | none =>
    simp only [addCandidate, derived]
    apply has.keep
    rintro text ⟨⟨candidate, isDerived, _⟩, _⟩
    rw [derived] at isDerived
    cases isDerived
  | some candidate =>
    have brings (text : Text) : BringsText cases seen chunk text ↔
        text = normalizeQuoteText cases candidate ∧ text ≠ [] ∧ text ∉ seen := by
      simp only [BringsText, derived, Option.some.injEq, exists_eq_left', eq_comm]
    simp only [addCandidate, derived]
    split
    · next refused =>
        apply has.keep
        intro text brought
        obtain ⟨rfl, solid, unseen⟩ := (brings text).mp brought
        simp [solid, unseen] at refused
    · next accepted =>
        simp only [Bool.or_eq_true, List.isEmpty_iff, List.contains_iff_mem, not_or] at accepted
        split
        · refine has.upsert ?_ ?_
          · rfl
          · intro text
            rw [brings]
            exact ⟨And.left, fun own => ⟨own, own ▸ accepted⟩⟩
        · next kept =>
            apply has.keep
            intro text brought
            obtain ⟨rfl, _⟩ := (brings text).mp brought
            cases found : table.lookup (normalizeQuoteText cases candidate) with
            | none => simp [found] at kept
            | some existing =>
              obtain ⟨before, after, split, _⟩ := List.lookup_eq_some_iff.mp found
              rw [split]
              simp

theorem candidateTable_hasNewTexts (seen : List Text) (chunks : List QuoteChunk) :
    HasNewTexts cases seen chunks (candidateTable cases seen chunks) := by
  induction chunks using List.reverseRecOn with
  | nil => exact ⟨List.nodup_nil, nofun, fun text => by simp [candidateTable, newTexts]⟩
  | append_singleton chunks chunk ih =>
    rw [candidateTable, List.foldl_append]
    exact ih.add chunk

theorem HasNewTexts.length_eq
    (has : HasNewTexts cases seen chunks table) :
    table.length = (newTexts cases seen chunks).length := by
  have same : (table.map (·.1)).Perm (newTexts cases seen chunks) :=
    (List.perm_ext_iff_of_nodup has.once (List.nodup_dedup _)).mpr has.keys
  rw [← same.length_eq, List.length_map]

theorem HasNewTexts.ranked
    (has : HasNewTexts cases seen chunks table) :
    (((rankCandidates (table.map (·.2))).map fun candidate =>
        normalizeQuoteText cases candidate.text).Nodup) ∧
      ∀ candidate ∈ rankCandidates (table.map (·.2)),
        normalizeQuoteText cases candidate.text ∉ seen := by
  have texts : (table.map (·.2)).map (fun candidate => normalizeQuoteText cases candidate.text) =
      table.map (·.1) := by
    rw [List.map_map]
    exact List.map_congr_left has.own
  have same := List.perm_insertionSort (fun first second : QuoteCandidate =>
    second.confidence < first.confidence ∨
      (first.confidence = second.confidence ∧ first.chunkIndex ≤ second.chunkIndex))
    (table.map (·.2))
  constructor
  · exact ((same.map _).trans (List.Perm.of_eq texts)).nodup_iff.mpr has.once
  · intro candidate member
    obtain ⟨entry, inTable, rfl⟩ := List.mem_map.mp (same.mem_iff.mp member)
    have isNew := (has.keys entry.1).mp (List.mem_map_of_mem inTable)
    obtain ⟨_, _, _, _, unseen⟩ := (mem_newTexts cases).mp isNew
    rw [has.own entry inTable]
    exact unseen

end

end StoryEngine.Quotes
