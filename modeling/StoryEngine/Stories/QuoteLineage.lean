import StoryEngine.Data.OptionSequence
import StoryEngine.Stories.StoryBuilder

namespace StoryEngine.Stories

open Pipeline Processing Schema

/-! # The lineage of quotes

A story stores its quotes with the chunks that they come from.  The provider's answer names no
chunk: each quote is given the first of the segments that were sent whose text has the beginning
of the quote, and without one the first segment.
-/

def targetSegments (segments : List TranscriptSegment) : List TranscriptSegment :=
  let valuable := segments.filter isValuable
  if valuable.isEmpty then segments else valuable

/-- The fields of the answer are kept as they are; one that is absent is null. -/
structure ExtractedQuote where
  speaker : Json
  quoteText : Json
  context : Json
  metricType : Json
  metricValue : Json
  callId : RowId
  sourceChunkId : RowId
  sourceCallTitle : Option Text
  sourceRecordingUrl : Option Text

/-- `includes`, where the sought text is given by its code units. -/
def includesUnits (text : Text) (sought : List Nat) : Bool :=
  decide (sought <:+: codeUnits text)

section

variable (platform : AiPlatform) (listText : List Json → Text)

/-- What `quote_text.slice(0, 50)` reads as in a search: a text and a list can be cut, and
`listText` is `String(list)`.  It throws on everything else. -/
def soughtUnits : Option Json → Option (List Nat)
  | some (.string text) => some ((codeUnits text).take 50)
  | some (.array items) =>
    if (Json.array (items.take 50)).textThrows then none
    else some (codeUnits (listText (items.take 50)))
  | _ => none

def selectSegment (targets : List TranscriptSegment) (sought : List Nat) :
    Option TranscriptSegment :=
  (targets.find? fun segment => includesUnits segment.chunkText sought).or targets.head?

def readQuote (targets : List TranscriptSegment) : Json → Option ExtractedQuote
  | .object fields => do
      let sought ← soughtUnits listText (property fields "quote_text")
      let selected ← selectSegment targets sought
      some {
        speaker := (property fields "speaker").getD .null
        quoteText := (property fields "quote_text").getD .null
        context := (property fields "context").getD .null
        metricType := (property fields "metric_type").getD .null
        metricValue := (property fields "metric_value").getD .null
        callId := selected.callId
        sourceChunkId := selected.chunkId
        sourceCallTitle := selected.callTitle
        sourceRecordingUrl := selected.recordingUrl }
  | _ => none

def parseQuotes (segments : List TranscriptSegment) (content : Text) : List ExtractedQuote :=
  if content.isEmpty then []
  else
    match platform.parseJson content with
    | some (.object fields) =>
      match property fields "quotes" with
      | some (.array items) =>
        (items.mapM (readQuote listText (targetSegments segments))).getD []
      | _ => []
    | _ => []

/-- A claim of the type `QUOTE`. -/
structure StoryClaimLineage where
  organizationId : RowId
  storyId : RowId
  claimText : Text
  sourceCallId : RowId
  sourceChunkId : Option RowId
  speaker : Option Text
  context : Option Text
  metricType : Option Text
  metricValue : Option Text
  sourceCallTitle : Option Text
  sourceRecordingUrl : Option Text
deriving DecidableEq

def nullableText : Json → Option (Option Text)
  | .null => some none
  | .string text => some (some text)
  | _ => none

def requiredText : Json → Option Text
  | .string text => some text
  | _ => none

/-- `none` where the row of the quote is refused. -/
def lineageRow (organizationId storyId : RowId) (segments : List TranscriptSegment)
    (quote : ExtractedQuote) : Option StoryClaimLineage := do
  let source := segments.find? (·.chunkId == quote.sourceChunkId)
  let claimText ← requiredText quote.quoteText
  let speaker ← nullableText quote.speaker
  let context ← nullableText quote.context
  let metricType ← nullableText quote.metricType
  let metricValue ← nullableText quote.metricValue
  some {
    organizationId, storyId, claimText, speaker, context, metricType, metricValue
    sourceCallId := (source.map (·.callId)).getD quote.callId
    sourceChunkId := some quote.sourceChunkId
    sourceCallTitle := quote.sourceCallTitle.or (source.bind (·.callTitle))
    sourceRecordingUrl := quote.sourceRecordingUrl.or (source.bind (·.recordingUrl)) }

/-- Each quote is written to two tables; `writes` is how many writes the database takes before it
fails.  What was written stays. -/
def persistQuotes (organizationId storyId : RowId) (segments : List TranscriptSegment) :
    (writes : Nat) → List ExtractedQuote → List StoryClaimLineage
  | writes + 2, quote :: rest =>
    match lineageRow organizationId storyId segments quote with
    | none => []
    | some row => row :: persistQuotes organizationId storyId segments writes rest
  | _, _ => []

/-- The rows that a story stores, `storyId` being the identifier it is given. -/
def storedLineage (state : PipelineState) (options : StoryBuilderOptions) (fails : Bool)
    (storyId : RowId) (writes : Nat) : List StoryClaimLineage :=
  match (buildStory platform state options fails).1 with
  | some { quotes := some answer, .. } =>
    let segments := gatherSegments options state.search
    persistQuotes options.organizationId storyId segments writes
      (parseQuotes platform listText segments answer)
  | _ => []

end

variable {segments targets : List TranscriptSegment} {segment : TranscriptSegment}
  {options : StoryBuilderOptions} {search : SearchState} {quoteText : Text}
  {quote : ExtractedQuote} {row : StoryClaimLineage}

theorem mem_of_mem_targetSegments
    (member : segment ∈ targetSegments segments) : segment ∈ segments := by
  simp only [targetSegments] at member
  split at member
  · exact member
  · exact List.mem_of_mem_filter member

def IsAccountChunk (options : StoryBuilderOptions) (search : SearchState)
    (chunk : TranscriptChunk) : Prop :=
  chunk ∈ search.chunks ∧ ∃ call ∈ search.db.calls,
    call.id = chunk.callId ∧ call.accountId = some options.accountId ∧
      call.organizationId = options.organizationId

theorem chunkSegment_eq {call : Call}
    {chunk : TranscriptChunk}
    (gathered : chunkSegment options search call chunk = some segment) :
    segment.chunkId = chunk.id ∧ segment.chunkText = chunk.text := by
  simp only [chunkSegment] at gathered
  split at gathered
  · cases gathered
  · cases gathered
    exact ⟨rfl, rfl⟩

theorem gatherSegments_chunk
    (member : segment ∈ gatherSegments options search) :
    ∃ chunk, IsAccountChunk options search chunk ∧
      segment.chunkId = chunk.id ∧ segment.chunkText = chunk.text := by
  obtain ⟨call, ordered, inCall⟩ := List.mem_flatMap.mp member
  obtain ⟨isCall, ofAccount⟩ := List.mem_filter.mp ((List.mem_insertionSort _).mp ordered)
  simp only [Bool.and_eq_true, beq_iff_eq] at ofAccount
  split at inCall
  · obtain ⟨chunk, isOrdered, gathered⟩ := List.mem_filterMap.mp inCall
    obtain ⟨stored, ofCall⟩ := List.mem_filter.mp ((List.mem_insertionSort _).mp isOrdered)
    have sameCall : chunk.callId = call.id := by simpa using ofCall
    exact ⟨chunk, ⟨stored, call, isCall, sameCall.symm, ofAccount⟩, chunkSegment_eq gathered⟩
  · cases inCall

def HasBeginning (quoteText : Text) (segment : TranscriptSegment) : Prop :=
  (codeUnits quoteText).take 50 <:+: codeUnits segment.chunkText

instance (quoteText : Text) : DecidablePred (HasBeginning quoteText) :=
  fun _ => inferInstanceAs (Decidable (_ <:+: _))

/-- The first segment with the beginning of the quote; where none has it, the first segment. -/
def SelectedFor (targets : List TranscriptSegment) (quoteText : Text)
    (segment : TranscriptSegment) : Prop :=
  (HasBeginning quoteText segment ∧ ∃ before after, targets = before ++ segment :: after ∧
      ∀ other ∈ before, ¬HasBeginning quoteText other) ∨
    (targets.head? = some segment ∧ ∀ other ∈ targets, ¬HasBeginning quoteText other)

theorem selectSegment_selected
    (selected : selectSegment targets ((codeUnits quoteText).take 50) = some segment) :
    SelectedFor targets quoteText segment := by
  simp only [selectSegment] at selected
  cases found : targets.find? fun segment =>
      includesUnits segment.chunkText ((codeUnits quoteText).take 50) with
  | some first =>
    rw [found, Option.some_or] at selected
    cases selected
    obtain ⟨has, before, after, split, none⟩ := List.find?_eq_some_iff_append.mp found
    refine .inl ⟨of_decide_eq_true has, before, after, split, fun other member => ?_⟩
    simpa [includesUnits, HasBeginning] using none other member
  | none =>
    rw [found, Option.none_or] at selected
    refine .inr ⟨selected, fun other member => ?_⟩
    simpa [includesUnits, HasBeginning] using List.find?_eq_none.mp found other member

theorem SelectedFor.mem
    (selected : SelectedFor targets quoteText segment) :
    segment ∈ targets := by
  rcases selected with ⟨_, before, after, split, _⟩ | ⟨first, _⟩
  · rw [split]
    exact List.mem_append_right before List.mem_cons_self
  · exact List.mem_of_mem_head? first

theorem readQuote_selected {listText : List Json → Text}
    {item : Json}
    (read : readQuote listText targets item = some quote)
    (text : quote.quoteText = .string quoteText) :
    ∃ segment, SelectedFor targets quoteText segment ∧ quote.sourceChunkId = segment.chunkId := by
  cases item with
  | object fields =>
    simp only [readQuote, Option.bind_eq_bind, Option.bind_eq_some_iff] at read
    obtain ⟨sought, isSought, segment, isSelected, made⟩ := read
    cases made
    cases stored : property fields "quote_text" with
    | none =>
      simp only [stored, soughtUnits] at isSought
      cases isSought
    | some value =>
      simp only [stored, Option.getD_some] at text isSought
      subst text
      cases isSought
      exact ⟨segment, selectSegment_selected isSelected, rfl⟩
  | null | bool _ | number _ | string _ | array _ => cases read

theorem parseQuotes_read {platform : AiPlatform} {listText : List Json → Text}
    {content : Text}
    (member : quote ∈ parseQuotes platform listText segments content) :
    ∃ item, readQuote listText (targetSegments segments) item = some quote := by
  simp only [parseQuotes] at member
  split at member
  · cases member
  · split at member
    · split at member
      · rename_i items _
        cases read : items.mapM (readQuote listText (targetSegments segments)) with
        | none =>
          rw [read] at member
          cases member
        | some quotes =>
          rw [read] at member
          obtain ⟨item, _, isRead⟩ := (Data.mapM_eq_some read).2 quote member
          exact ⟨item, isRead⟩
      · cases member
    · cases member

theorem lineageRow_quote {organizationId storyId : RowId}
    (made : lineageRow organizationId storyId segments quote = some row) :
    quote.quoteText = .string row.claimText ∧ row.sourceChunkId = some quote.sourceChunkId := by
  simp only [lineageRow, Option.bind_eq_bind, Option.bind_eq_some_iff] at made
  obtain ⟨claimText, isText, _, _, _, _, _, _, _, _, same⟩ := made
  cases same
  refine ⟨?_, rfl⟩
  cases stored : quote.quoteText with
  | string text =>
    rw [stored] at isText
    cases isText
    rfl
  | null | bool _ | number _ | array _ | object _ =>
    rw [stored] at isText
    cases isText

theorem persistQuotes_quote {organizationId storyId : RowId}
    {writes : Nat} {quotes : List ExtractedQuote}
    (stored : row ∈ persistQuotes organizationId storyId segments writes quotes) :
    ∃ quote ∈ quotes, lineageRow organizationId storyId segments quote = some row := by
  induction writes, quotes using persistQuotes.induct organizationId storyId segments with
  | case1 writes quote rest refused =>
    simp only [persistQuotes, refused] at stored
    cases stored
  | case2 writes quote rest first made ih =>
    simp only [persistQuotes, made, List.mem_cons] at stored
    rcases stored with same | later
    · exact ⟨quote, List.mem_cons_self, same ▸ made⟩
    · obtain ⟨other, member, isMade⟩ := ih later
      exact ⟨other, List.mem_cons_of_mem _ member, isMade⟩
  | case3 writes quotes ends =>
    rw [persistQuotes] at stored
    · cases stored
    · exact ends

/-- The row refers to the chunk of the segment that is selected for its text. -/
structure RefersTo (options : StoryBuilderOptions) (search : SearchState)
    (row : StoryClaimLineage) (segment : TranscriptSegment) (chunk : TranscriptChunk) : Prop where
  selected : SelectedFor (targetSegments (gatherSegments options search)) row.claimText segment
  stored : IsAccountChunk options search chunk
  sameText : segment.chunkText = chunk.text
  sourceChunkId : row.sourceChunkId = some chunk.id

theorem stored_rows_refer_to_selected_chunk (platform : AiPlatform) (listText : List Json → Text)
    (state : PipelineState) (options : StoryBuilderOptions) (fails : Bool) (storyId : RowId)
    (writes : Nat) :
    ∀ row ∈ storedLineage platform listText state options fails storyId writes,
      ∃ segment chunk, RefersTo options state.search row segment chunk := by
  intro row stored
  simp only [storedLineage] at stored
  split at stored
  · obtain ⟨quote, isQuote, made⟩ := persistQuotes_quote stored
    obtain ⟨text, isSource⟩ := lineageRow_quote made
    obtain ⟨item, read⟩ := parseQuotes_read isQuote
    obtain ⟨segment, selected, sameChunk⟩ := readQuote_selected read text
    obtain ⟨chunk, isChunk, sameId, sameText⟩ :=
      gatherSegments_chunk (mem_of_mem_targetSegments selected.mem)
    exact ⟨segment, chunk, selected, isChunk, sameText, by rw [isSource, sameChunk, sameId]⟩
  · cases stored

/-- The property: a chunk of the row has the first 50 characters of the quote, whatever their
case. -/
def PointsToEvidence (cases : CaseMapping) (search : SearchState) (row : StoryClaimLineage) :
    Prop :=
  ∀ chunkId, row.sourceChunkId = some chunkId → ∃ chunk ∈ search.chunks, chunk.id = chunkId ∧
    cases.toLowerCase (row.claimText.take 50) <:+: cases.toLowerCase chunk.text

instance (cases : CaseMapping) (search : SearchState) :
    DecidablePred (PointsToEvidence cases search) := fun row =>
  match known : row.sourceChunkId with
  | none => isTrue fun _ same => by rw [known] at same; cases same
  | some chunkId =>
    decidable_of_iff (∃ chunk ∈ search.chunks, chunk.id = chunkId ∧
        cases.toLowerCase (row.claimText.take 50) <:+: cases.toLowerCase chunk.text)
      ⟨fun found _ same => by rw [known] at same; cases same; exact found, fun all => all _ known⟩

def greeted : PipelineState where
  search := {
    db := {
      accounts := [{ id := 1, organizationId := 1, name := "Acme", normalizedName := "acme" }]
      calls := [{ id := 3, organizationId := 1, accountId := some 1 }]
      transcripts := [{ callId := 3, fullText := "Hello there.", wordCount := 2 }] }
    chunks := [{ id := 5, callId := 3, chunkIndex := 0, text := "Hello there." }] }

def inventingPlatform : AiPlatform where
  answer := fun _ => some ("{..}" : String).toList
  parseJson := fun _ => some (.object [("quotes", .array [
    .object [("speaker", .null), ("quote_text", .string ("We saved 40%." : String).toList)]])])
  hashText := id

def inventedRow : StoryClaimLineage where
  organizationId := 1
  storyId := 7
  claimText := ("We saved 40%." : String)
  sourceCallId := 3
  sourceChunkId := some 5
  speaker := none
  context := none
  metricType := none
  metricValue := none
  sourceCallTitle := none
  sourceRecordingUrl := none

def savingState : PipelineState where
  search := { greeted.search with
    db := { greeted.search.db with
      transcripts := [{ callId := 3, fullText := "Hello there. We saved 40%. Thanks.",
                        wordCount := 6 }] }
    chunks := [{ id := 5, callId := 3, chunkIndex := 0, text := "Hello there." },
      { id := 6, callId := 3, chunkIndex := 1, text := "We saved 40%. Thanks." }] }

/-- The quote is not in the first of the two segments. -/
theorem savedRow_refers_to_second_segment :
    (gatherSegments { accountId := 1, organizationId := 1 } savingState.search).map (·.chunkId) =
        [5, 6] ∧
      ∃ segment chunk, RefersTo { accountId := 1, organizationId := 1 } savingState.search
        { inventedRow with sourceChunkId := some 6 } segment chunk := by
  have stored : { inventedRow with sourceChunkId := some 6 } ∈
      storedLineage inventingPlatform (fun _ => []) savingState
        { accountId := 1, organizationId := 1 } false 7 2 := by
    decide +kernel
  refine ⟨by decide +kernel, ?_⟩
  exact stored_rows_refer_to_selected_chunk inventingPlatform (fun _ => []) savingState _ false 7 2
    _ stored

theorem invented_quote_is_stored :
    ∃ row ∈ storedLineage inventingPlatform (fun _ => []) greeted
        { accountId := 1, organizationId := 1 } false 7 2,
      ¬PointsToEvidence .ascii greeted.search row := by
  decide +kernel

end StoryEngine.Stories
