import StoryEngine.Stories.MergedTexts
import StoryEngine.Stories.Truncation
import StoryEngine.Text.Words

namespace StoryEngine.Stories

open Schema Text

/-! # The size of a merged document

Calls are dropped by an estimate, which takes thirty words for the lines above each text and none
for the first line of the document.  The document is measured by its words, so it is as long as it
may be exactly when these lines, of titles and names of any length, do not exceed what is left.
-/

/-- A document that fits, or that is of one call, and that says whether calls are missing. -/
structure DocumentFits (maxWords : Int) (result : MergedTranscriptResult) : Prop where
  size : result.wordCount ≤ maxWords ∨ result.includedCalls = 1
  truncated : result.truncated = true ↔ result.includedCalls < result.totalCalls

def headerWords (entry : CallTranscriptEntry) : Nat :=
  ((entryHeader entry ++ participantSections entry).map countWords).sum

def documentWords (entries : List CallTranscriptEntry) : Nat :=
  8 + (entries.map fun entry => headerWords entry + countWords entry.fullText).sum

structure LongestFitting (mode : TruncationMode) (entries : List CallTranscriptEntry)
    (maxWords : Int) (kept : List CallTranscriptEntry) : Prop where
  split : ∃ dropped, Splits mode entries dropped kept
  fits : estimate kept ≤ maxWords
  longest : ∀ dropped other, Splits mode entries dropped other → estimate other ≤ maxWords →
    other.length ≤ kept.length

/-- The head of the document and the lines above its texts take no more than thirty words a call and
what the estimate leaves of the limit. -/
def LinesFit (maxWords : Int) (kept : List CallTranscriptEntry) : Prop :=
  8 + (kept.map headerWords).sum ≤ 30 * kept.length + (maxWords - estimate kept)

/-- The lines above the texts of the calls that the estimate admits fit, and a call alone is
admitted. -/
structure LimitHolds (mode : TruncationMode) (entries : List CallTranscriptEntry)
    (maxWords : Int) : Prop where
  none : entries = [] → 0 ≤ maxWords
  single : entries.length = 1 → estimate entries ≤ maxWords
  several : ∀ kept, LongestFitting mode entries maxWords kept → 2 ≤ kept.length →
    LinesFit maxWords kept

/-- A stored word count is the number of words of the text. -/
def Counted (entries : List CallTranscriptEntry) : Prop :=
  ∀ entry ∈ entries, entry.wordCount = countWords entry.fullText

theorem countWords_eq (text : Text) : countWords text = wordsFrom true text :=
  words_length text

theorem countWords_join (parts : List Text) :
    countWords (Text.join ['\n'] parts) = (parts.map countWords).sum := by
  induction parts with
  | nil => rfl
  | cons part rest ih =>
    cases rest with
    | nil => simp [Text.join]
    | cons next others =>
      have newline (apart : Bool) (later : Text) :
          wordsFrom apart ('\n' :: later) = wordsFrom true later := rfl
      rw [join_cons (List.cons_ne_nil next others), List.map_cons, List.sum_cons, ← ih,
        countWords_eq, countWords_eq, countWords_eq, List.append_assoc, wordsFrom_append,
        List.singleton_append, newline]

theorem numeral_solid (number : Nat) : Solid (numeral number) where
  occupied := Nat.toDigits_ne_nil
  unbroken := by
    intro c member
    exact isSpace_digit (Nat.isDigit_of_mem_toDigits (by decide) (by decide) member)

theorem padded_solid (width number : Nat) : Solid (padded width number) := by
  obtain ⟨occupied, unbroken⟩ := numeral_solid number
  rw [padded, List.leftpad]
  refine ⟨fun empty => occupied (List.append_eq_nil_iff.mp empty).2, fun c member => ?_⟩
  cases List.mem_append.mp member with
  | inl pad =>
    rw [(List.mem_replicate.mp pad).2]
    decide
  | inr inNumeral => exact unbroken c inNumeral

theorem yearText_solid (year : Nat) :
    Solid (if year ≤ 9999 then padded 4 year else '+' :: padded 6 year) := by
  by_cases short : year ≤ 9999
  · rw [if_pos short]
    exact padded_solid 4 year
  · have plus : Solid ['+'] := by decide
    rw [if_neg short]
    exact plus.append (padded_solid 6 year)

theorem isoDay_solid (moment : Date) : Solid (isoDay moment) := by
  have dash : Solid ("-" : String).toList := by decide
  simp only [isoDay, template, List.flatten_cons, List.flatten_nil, List.append_nil]
  exact (yearText_solid _).append
    (dash.append ((padded_solid 2 _).append (dash.append (padded_solid 2 _))))

theorem headerLine_words {number first last : Text} (solid : Solid number)
    (solidFirst : Solid first) (solidLast : Solid last) :
    countWords (template ["# Merged Transcripts (", number, " calls, ", first, " to ", last, ")\n"]) =
      8 := by
  have opening : wordsFrom true ("# Merged Transcripts (" : String).toList = 4 := by
    decide +kernel
  have openingEnds : endsApart true ("# Merged Transcripts (" : String).toList = false := by
    decide +kernel
  have calls : wordsFrom false (" calls, " : String).toList = 1 := by decide +kernel
  have callsEnd : endsApart false (" calls, " : String).toList = true := by decide +kernel
  have between : wordsFrom false (" to " : String).toList = 1 := by decide +kernel
  have betweenEnds : endsApart false (" to " : String).toList = true := by decide +kernel
  have closing : wordsFrom false (")\n" : String).toList = 0 := by decide +kernel
  rw [countWords_eq, template]
  simp only [List.flatten_cons, List.flatten_nil, List.append_nil, wordsFrom_append]
  rw [opening, openingEnds, solid.wordsFrom, solid.endsApart, calls, callsEnd,
    solidFirst.wordsFrom, solidFirst.endsApart, between, betweenEnds, solidLast.wordsFrom,
    solidLast.endsApart, closing]
  rfl

theorem documentHeader_words {entries : List CallTranscriptEntry} (occupied : entries ≠ []) :
    countWords (documentHeader entries) = 8 := by
  have solidDay {entry : Option CallTranscriptEntry} (some : entry ≠ none) :
      Solid ((entry.map fun entry => isoDay entry.occurredAt).getD []) := by
    cases entry with
    | none => exact absurd rfl some
    | some entry =>
      rw [Option.map_some, Option.getD_some]
      exact isoDay_solid entry.occurredAt
  rw [documentHeader]
  apply headerLine_words (numeral_solid _)
  · apply solidDay
    intro empty
    exact occupied (List.head?_eq_none_iff.mp empty)
  · apply solidDay
    intro empty
    exact occupied (List.getLast?_eq_none_iff.mp empty)

theorem buildMarkdown_words {entries : List CallTranscriptEntry} (occupied : entries ≠ []) :
    countWords (buildMarkdown entries) = documentWords entries := by
  have sections (entries : List CallTranscriptEntry) :
      ((entries.flatMap entrySections).map countWords).sum =
        (entries.map fun entry => headerWords entry + countWords entry.fullText).sum := by
    induction entries with
    | nil => rfl
    | cons entry rest ih =>
      have blank : countWords [] = 0 := by decide
      rw [List.flatMap_cons, List.map_append, List.sum_append, ih, List.map_cons, List.sum_cons,
        entrySections, headerWords]
      simp only [List.map_append, List.sum_append, List.map_cons, List.map_nil, List.sum_cons,
        List.sum_nil, blank, Nat.add_zero]
  rw [buildMarkdown, countWords_join, List.map_cons, List.sum_cons, documentHeader_words occupied,
    sections, documentWords]

theorem documentWords_le_iff {entries : List CallTranscriptEntry} {maxWords : Int}
    (counted : Counted entries) :
    documentWords entries ≤ maxWords ↔ LinesFit maxWords entries := by
  have words : ((entries.map fun entry => headerWords entry + countWords entry.fullText).sum : Int) +
      30 * entries.length = (entries.map headerWords).sum + estimate entries := by
    induction entries with
    | nil => rfl
    | cons entry rest ih =>
      obtain ⟨first, others⟩ := List.forall_mem_cons.mp counted
      have later := ih others
      simp only [estimate, List.map_cons, List.sum_cons, List.length_cons, entryWords,
        first] at later ⊢
      push_cast at later ⊢
      omega
  rw [documentWords, LinesFit]
  push_cast at words ⊢
  omega

def mergeLimit (db : Database) (options : MergedTranscriptOptions) : Int :=
  let orgSettings := db.orgSettings.find? (·.organizationId == options.organizationId)
  (options.maxWords.or (orgSettings.map (·.transcriptMergeMaxWords))).getD
    defaultTranscriptMergeMaxWords

section

variable {mode : TruncationMode} {entries kept : List CallTranscriptEntry} {maxWords : Int}

theorem LongestFitting.unique {other : List CallTranscriptEntry}
    (first : LongestFitting mode entries maxWords kept)
    (second : LongestFitting mode entries maxWords other) : kept = other := by
  obtain ⟨dropped, split⟩ := first.split
  obtain ⟨otherDropped, otherSplit⟩ := second.split
  have below := second.longest dropped kept split first.fits
  have above := first.longest otherDropped other otherSplit second.fits
  exact split.kept_unique otherSplit (Nat.le_antisymm below above)

theorem Splits.shorter {dropped : List CallTranscriptEntry} (split : Splits mode entries dropped kept)
    (fits : estimate kept ≤ maxWords) (above : maxWords < estimate entries) :
    kept.length < entries.length := by
  have lengths := split.length
  by_contra whole
  have same := split.kept_unique (splits_all mode entries) (by omega)
  rw [same] at fits
  omega

theorem Splits.counted {dropped : List CallTranscriptEntry}
    (split : Splits mode entries dropped kept) (counted : Counted entries) : Counted kept := by
  intro entry member
  apply counted
  cases mode with
  | oldestFirst =>
    rw [show entries = dropped ++ kept from split]
    exact List.mem_append_right _ member
  | newestFirst =>
    rw [show entries = kept ++ dropped from split]
    exact List.mem_append_left _ member

theorem several_iff (counted : Counted entries) (fits : estimate kept ≤ maxWords ∨ kept.length = 1)
    (split : ∃ dropped, Splits mode entries dropped kept) (remains : kept ≠ [])
    (larger : ∀ before after, Splits mode entries before after → kept.length < after.length →
      maxWords < estimate after) :
    (documentWords kept ≤ maxWords ∨ kept.length = 1) ↔
      ∀ other, LongestFitting mode entries maxWords other → 2 ≤ other.length →
        LinesFit maxWords other := by
  have bounded {before after : List CallTranscriptEntry} (parts : Splits mode entries before after)
      (afterFits : estimate after ≤ maxWords) : after.length ≤ kept.length := by
    by_contra longer
    have exceeds := larger before after parts (by omega)
    omega
  constructor
  · intro small other longest several
    obtain ⟨dropped, parts⟩ := longest.split
    have shorter := bounded parts longest.fits
    have whole : LongestFitting mode entries maxWords kept := by
      refine ⟨split, ?_, fun _ _ parts fits => bounded parts fits⟩
      cases fits with
      | inl fits => exact fits
      | inr single => omega
    have same := whole.unique longest
    subst same
    cases small with
    | inl small => exact (documentWords_le_iff (parts.counted counted)).mp small
    | inr single => omega
  · intro several
    have occupied := List.length_pos_iff.mpr remains
    cases fits with
    | inr single => exact .inr single
    | inl fits =>
      by_cases two : 2 ≤ kept.length
      · obtain ⟨dropped, parts⟩ := split
        have lines := several kept ⟨⟨dropped, parts⟩, fits, fun _ _ parts fits => bounded parts fits⟩
          two
        exact .inl ((documentWords_le_iff (parts.counted counted)).mpr lines)
      · exact .inr (by omega)

end

section

variable {db : Database} {options : MergedTranscriptOptions}

def mergeMode (db : Database) (options : MergedTranscriptOptions) : TruncationMode :=
  let orgSettings := db.orgSettings.find? (·.organizationId == options.organizationId)
  (options.truncationMode.or (orgSettings.map (·.transcriptTruncationMode))).getD
    defaultTruncationMode

theorem mergeTranscripts_of_none (empty : transcriptEntries db options = []) :
    mergeTranscripts db options = {
      markdown := []
      wordCount := 0
      totalCalls := 0
      includedCalls := 0
      truncated := false
      truncationBoundary := none
      truncationMode := mergeMode db options } := by
  simp only [mergeTranscripts, empty, List.length_nil, if_true]
  rfl

theorem mergeTranscripts_of_some (occupied : transcriptEntries db options ≠ [])
    {truncation : Truncation}
    (cut : applyTruncation (transcriptEntries db options) (mergeLimit db options)
      (mergeMode db options) = truncation) (remains : truncation.included ≠ []) :
    mergeTranscripts db options = {
      markdown := buildMarkdown truncation.included
      wordCount := documentWords truncation.included
      totalCalls := (transcriptEntries db options).length
      includedCalls := truncation.included.length
      truncated := truncation.truncated
      truncationBoundary := truncation.truncationBoundary
      truncationMode := mergeMode db options } := by
  have merged : mergedEntries db options = (truncation, mergeMode db options) := by
    rw [← cut]
    rfl
  have some : (transcriptEntries db options).length ≠ 0 := by
    intro none
    exact occupied (List.eq_nil_of_length_eq_zero none)
  simp only [mergeTranscripts, merged, if_neg some, buildMarkdown_words remains]

theorem transcriptEntries_counted (counted : ∀ transcript ∈ db.transcripts,
    transcript.wordCount = countWords transcript.fullText) :
    Counted (transcriptEntries db options) := by
  intro entry member
  obtain ⟨call, _, isEntry⟩ := List.mem_filterMap.mp member
  obtain ⟨transcript, found, rfl⟩ := Option.map_eq_some_iff.mp isEntry
  exact counted transcript (List.mem_of_find?_eq_some found)

/-- A merge keeps its limit exactly when the lines above the texts that it keeps fit. -/
theorem mergeTranscripts_fits_iff (db : Database) (options : MergedTranscriptOptions)
    (counted : ∀ transcript ∈ db.transcripts,
      transcript.wordCount = countWords transcript.fullText) :
    DocumentFits (mergeLimit db options) (mergeTranscripts db options) ↔
      LimitHolds (mergeMode db options) (transcriptEntries db options) (mergeLimit db options) := by
  have entriesCounted := @transcriptEntries_counted db options counted
  generalize limit : mergeLimit db options = maxWords
  by_cases empty : transcriptEntries db options = []
  · rw [mergeTranscripts_of_none empty, empty]
    constructor
    · intro document
      refine ⟨fun _ => ?_, nofun, fun kept longest several => ?_⟩
      · cases document.size with
        | inl size => exact size
        | inr single => cases single
      · obtain ⟨dropped, split⟩ := longest.split
        have lengths := split.length
        rw [List.length_nil] at lengths
        omega
    · intro holds
      exact ⟨.inl (holds.none rfl), ⟨nofun, nofun⟩⟩
  · have occupied := List.length_pos_iff.mpr empty
    rcases le_or_gt (estimate (transcriptEntries db options)) maxWords with fits | above
    · have cut := @applyTruncation_below (mergeMode db options) maxWords _ fits
      rw [← limit] at cut
      rw [mergeTranscripts_of_some empty cut empty]
      have several := several_iff entriesCounted (.inl fits)
        ⟨[], splits_all (mergeMode db options) _⟩ empty
        (fun before after split longer => by
          have lengths := split.length
          omega)
      constructor
      · intro document
        exact ⟨fun none => absurd none empty, fun _ => fits, several.mp document.size⟩
      · intro holds
        refine ⟨several.mpr holds.several, ?_⟩
        constructor
        · intro truncated
          cases truncated
        · intro fewer
          exact absurd fewer (Nat.lt_irrefl _)
    · obtain ⟨dropped, kept, cut, split, remains, fits, larger⟩ :=
        @applyTruncation_above (mergeMode db options) maxWords _ empty above
      rw [← limit] at cut
      rw [mergeTranscripts_of_some empty cut remains]
      have several := several_iff entriesCounted fits ⟨dropped, split⟩ remains larger
      have lengths := split.length
      have some := List.length_pos_iff.mpr remains
      have fewer : kept.length < (transcriptEntries db options).length ↔
          (transcriptEntries db options).length ≠ 1 := by
        constructor
        · intro fewer
          omega
        · intro more
          cases fits with
          | inl fits => exact split.shorter fits above
          | inr single => omega
      constructor
      · intro document
        have dropped := document.truncated.mp rfl
        refine ⟨fun none => absurd none empty, fun single => ?_, several.mp document.size⟩
        exact absurd single (fewer.mp dropped)
      · intro holds
        refine ⟨several.mpr holds.several, fun _ => fewer.mpr fun single => ?_, fun _ => rfl⟩
        have admitted := holds.single single
        omega

end

def longTitles : Database where
  calls := [
    { id := 1, organizationId := 1, accountId := some 1
      title := some (List.replicate 30 ['a', ' ']).flatten, occurredAt := 1 },
    { id := 2, organizationId := 1, accountId := some 1
      title := some (List.replicate 30 ['a', ' ']).flatten, occurredAt := 2 }]
  transcripts := [
    { callId := 1, fullText := [], wordCount := 0 },
    { callId := 2, fullText := [], wordCount := 0 }]

/-- Within a hundred words there is room for both titles. -/
theorem longTitles_fit :
    LimitHolds .oldestFirst (transcriptEntries longTitles { accountId := 1, organizationId := 1 })
      100 := by
  have merged : DocumentFits 100
      (mergeTranscripts longTitles
        { accountId := 1, organizationId := 1, maxWords := some 100 }) :=
    ⟨.inl (by decide +kernel), by decide +kernel⟩
  exact (mergeTranscripts_fits_iff longTitles
    { accountId := 1, organizationId := 1, maxWords := some 100 } (by decide)).mp merged

/-- The two calls are taken for sixty words, and their document has more. -/
theorem longTitles_exceed :
    (∀ transcript ∈ longTitles.transcripts,
        transcript.wordCount = countWords transcript.fullText) ∧
      (mergeTranscripts longTitles { accountId := 1, organizationId := 1, maxWords := some 60 }).wordCount
        = 76 ∧
      ¬DocumentFits 60
        (mergeTranscripts longTitles
          { accountId := 1, organizationId := 1, maxWords := some 60 }) := by
  have size : (mergeTranscripts longTitles
        { accountId := 1, organizationId := 1, maxWords := some 60 }).wordCount = 76 ∧
      (mergeTranscripts longTitles
        { accountId := 1, organizationId := 1, maxWords := some 60 }).includedCalls = 2 := by
    decide +kernel
  refine ⟨by decide +kernel, size.1, fun document => ?_⟩
  rcases document.size with fits | single
  · rw [size.1] at fits
    omega
  · rw [size.2] at single
    omega

end StoryEngine.Stories
