import StoryEngine.Pii.Masking
import StoryEngine.Stories.MergedTexts
import StoryEngine.Stories.StoryBuilder

namespace StoryEngine.Stories

open Data Pipeline Processing Schema

/-! # Texts that look alike once they are masked

Two organizations differ only in the texts of their transcripts, which masking makes equal.
Processing a call stores and sends masked chunks and hides the difference.  A story merges the
raw texts, and hides the difference only where the texts it merges are equal.
-/

/-- The text, and its chunks, look alike once they are masked. -/
structure MaskedAlike (text other : Text) : Prop where
  whole : maskedText text = maskedText other
  chunks : (chunkTranscript text).map (maskedText ·.text) =
    (chunkTranscript other).map (maskedText ·.text)

structure Counterpart (transcript other : Transcript) : Prop where
  callId : transcript.callId = other.callId
  wordCount : transcript.wordCount = other.wordCount
  masked : MaskedAlike transcript.fullText other.fullText

abbrev Counterparts : List Transcript → List Transcript → Prop := List.Forall₂ Counterpart

def searchWithTexts (search : SearchState) (others : List Transcript) : SearchState :=
  { search with db := { search.db with transcripts := others } }

def withTexts (state : PipelineState) (others : List Transcript) : PipelineState :=
  { state with search := searchWithTexts state.search others }

def textOf (transcripts : List Transcript) (callId : RowId) : Text :=
  ((transcripts.find? (·.callId == callId)).map (·.fullText)).getD []

section

variable {platform : AiPlatform} {config : TaggerConfig} {state : PipelineState}
  {search : SearchState} {others : List Transcript} {db : Database}

variable {transcripts : List Transcript} {options : MergedTranscriptOptions}

theorem find?_counterpart (alike : Counterparts transcripts others)
    (callId : RowId) :
    (transcripts.find? (·.callId == callId) = none ∧ others.find? (·.callId == callId) = none) ∨
      ∃ transcript other, transcripts.find? (·.callId == callId) = some transcript ∧
        others.find? (·.callId == callId) = some other ∧ Counterpart transcript other := by
  induction alike with
  | nil => exact Or.inl ⟨rfl, rfl⟩
  | @cons transcript other rest others pair _ ih =>
    by_cases own : transcript.callId = callId
    · have ownOther : other.callId = callId := pair.callId ▸ own
      exact Or.inr ⟨transcript, other, by simp [own], by simp [ownOther], pair⟩
    · have ownOther : other.callId ≠ callId := pair.callId ▸ own
      simpa [own, ownOther] using ih

theorem any_counterpart (alike : Counterparts transcripts others)
    (callId : RowId) :
    others.any (·.callId == callId) = transcripts.any (·.callId == callId) := by
  induction alike with
  | nil => rfl
  | cons pair _ ih => rw [List.any_cons, List.any_cons, pair.callId, ih]

theorem upsertChunk_withTexts (mask : Text → Text) (callId : RowId) (raw : RawChunk) :
    upsertChunk mask callId (searchWithTexts search others) raw =
      searchWithTexts (upsertChunk mask callId search raw) others := by
  simp only [upsertChunk, apply_ite (searchWithTexts · others)]
  rfl

theorem storeChunks_withTexts (mask : Text → Text) (callId : RowId) (chunks : List RawChunk) :
    storeChunks mask callId (searchWithTexts search others) chunks =
      searchWithTexts (storeChunks mask callId search chunks) others := by
  induction chunks generalizing search with
  | nil => rfl
  | cons raw rest ih =>
    simp only [storeChunks, List.foldl_cons] at ih ⊢
    rw [upsertChunk_withTexts]
    exact ih

theorem storeChunks_congr {mask : Text → Text} {callId : RowId} {chunks more : List RawChunk}
    (same : chunks.map (fun raw => (raw.index, mask raw.text)) =
      more.map fun raw => (raw.index, mask raw.text)) :
    storeChunks mask callId search chunks = storeChunks mask callId search more := by
  induction chunks generalizing search more with
  | nil =>
    obtain rfl : more = [] := List.map_eq_nil_iff.mp same.symm
    rfl
  | cons raw rest ih =>
    cases more with
    | nil => simp at same
    | cons other others =>
      obtain ⟨first, remaining⟩ := List.cons.inj same
      obtain ⟨index, masked⟩ := Prod.mk.inj first
      have step : upsertChunk mask callId search raw = upsertChunk mask callId search other := by
        simp only [upsertChunk, index, masked]
      simp only [storeChunks, List.foldl_cons, step] at ih ⊢
      exact ih remaining

theorem MaskedAlike.chunkRows {text other : Text} (alike : MaskedAlike text other) :
    (chunkTranscript text).map (fun raw => (raw.index, maskedText raw.text)) =
      (chunkTranscript other).map fun raw => (raw.index, maskedText raw.text) := by
  have rows (text : Text) : (chunkTranscript text).map (fun raw => (raw.index, maskedText raw.text))
      = (List.range (chunkTranscript text).length).zip
        ((chunkTranscript text).map (maskedText ·.text)) := by
    rw [← chunkTranscript_numbered text, List.zip_map']
  have lengths := congrArg List.length alike.chunks
  rw [List.length_map, List.length_map] at lengths
  rw [rows, rows, lengths, alike.chunks]

theorem storeTags_withTexts (tags : List ChunkTag) :
    storeTags (withTexts state others) tags = withTexts (storeTags state tags) others := by
  have stores (search : SearchState) : tags.foldl storeTag (searchWithTexts search others) =
      searchWithTexts (tags.foldl storeTag search) others := by
    induction tags generalizing search with
    | nil => rfl
    | cons tag rest ih =>
      have first : storeTag (searchWithTexts search others) tag =
          searchWithTexts (storeTag search tag) others := by
        simp only [storeTag, apply_ite (searchWithTexts · others)]
        rfl
      rw [List.foldl_cons, first]
      exact ih _
  exact congrArg (fun search => { state with search }) (stores state.search)

@[simp] theorem withTexts_sent : (withTexts state others).sent = state.sent := rfl

theorem indexNext_withTexts (job : ProcessCallJob) (accountId : RowId) (embeddedOnly : Bool)
    (chunk : TranscriptChunk) :
    indexNext platform job accountId embeddedOnly (withTexts state others) chunk =
      ((indexNext platform job accountId embeddedOnly state chunk).1,
        withTexts (indexNext platform job accountId embeddedOnly state chunk).2 others) := by
  have branch (holds : Bool) :
      (if holds then
          (true, { withTexts state others with
            sent := state.sent ++ [.embedding chunk.text]
            search := indexChunk job accountId (withTexts state others).search chunk })
        else
          (false, { withTexts state others with sent := state.sent ++ [.embedding chunk.text] })) =
      Prod.map id (withTexts · others) (if holds then
          (true, { state with
            sent := state.sent ++ [.embedding chunk.text]
            search := indexChunk job accountId state.search chunk })
        else (false, { state with sent := state.sent ++ [.embedding chunk.text] })) := by
    cases holds with
    | false => rfl
    | true => rfl
  exact branch _

theorem indexAll_withTexts (job : ProcessCallJob) (accountId : RowId) (stop : Option (Nat × Bool))
    (chunks : List TranscriptChunk) :
    indexAll platform job accountId stop (withTexts state others) chunks =
      withTexts (indexAll platform job accountId stop state chunks) others := by
  induction chunks generalizing stop state with
  | nil =>
    cases stop with
    | none => rfl
    | some limit => rfl
  | cons chunk rest ih =>
    cases stop with
    | none =>
      simp only [indexAll, indexNext_withTexts]
      cases indexNext platform job accountId false state chunk with
      | mk succeeded next =>
        cases succeeded with
        | true => exact ih none
        | false => rfl
    | some limit =>
      obtain ⟨count, embedded⟩ := limit
      cases count with
      | zero =>
        simp only [indexAll]
        split
        · rw [indexNext_withTexts]
        · rfl
      | succ count =>
        simp only [indexAll, indexNext_withTexts]
        cases indexNext platform job accountId false state chunk with
        | mk succeeded next =>
          cases succeeded with
          | true => exact ih (some (count, embedded))
          | false => rfl

theorem indexCallChunks_withTexts (job : ProcessCallJob) (stop : Option (Nat × Bool)) :
    indexCallChunks platform job (withTexts state others) stop =
      withTexts (indexCallChunks platform job state stop) others := by
  unfold indexCallChunks
  cases job.accountId with
  | none => rfl
  | some accountId => exact indexAll_withTexts job accountId stop _

theorem tagAndIndex_withTexts (job : ProcessCallJob) (met : PipelineRun) :
    tagAndIndex platform config job met (withTexts state others) =
      withTexts (tagAndIndex platform config job met state) others := by
  have tagging : processChunksWithConcurrency platform config
      (orderedChunks (withTexts state others).search job.callId) (withTexts state others).cache
        (withTexts state others).sent met.turns =
      processChunksWithConcurrency platform config (orderedChunks state.search job.callId)
        state.cache state.sent met.turns := rfl
  simp only [tagAndIndex, tagging]
  generalize processChunksWithConcurrency platform config (orderedChunks state.search job.callId)
    state.cache state.sent met.turns = result
  have tagged : { withTexts state others with cache := result.cache, sent := result.sent } =
      withTexts { state with cache := result.cache, sent := result.sent } others := rfl
  cases result.outcome with
  | none => rfl
  | some results =>
    match met.stop with
    | none | some (.storing _) | some .resolving =>
      simp only [tagged, storeTags_withTexts]
      exact indexCallChunks_withTexts job none
    | some (.tagging places) =>
      simp only [tagged]
      exact storeTags_withTexts _
    | some (.indexing count embedded) =>
      simp only [tagged, storeTags_withTexts]
      exact indexCallChunks_withTexts job (some (count, embedded))

theorem storeMasked_withTexts {chunks more : List RawChunk} (callId : RowId)
    (same : chunks.map (fun raw => (raw.index, maskedText raw.text)) =
      more.map fun raw => (raw.index, maskedText raw.text)) :
    storeMasked (withTexts state others) callId more =
      withTexts (storeMasked state callId chunks) others := by
  have stored := @storeChunks_withTexts state.search others maskedText callId chunks
  rw [storeChunks_congr same] at stored
  exact congrArg (fun search => { state with search }) stored

theorem processCall_withTexts (alike : Counterparts state.search.db.transcripts others)
    (job : ProcessCallJob) (met : PipelineRun) :
    Pipeline.processCall platform config (withTexts state others) job met =
      withTexts (Pipeline.processCall platform config state job met) others := by
  have texts {state : PipelineState} {found : Option Transcript}
      (isFound : state.search.db.transcripts.find? (·.callId == job.callId) = found) :
      findTranscript state.search.db job.callId = found.map (·.fullText) :=
    congrArg (Option.map Transcript.fullText) isFound
  unfold Pipeline.processCall
  rcases find?_counterpart alike job.callId with ⟨missing, missingOther⟩ |
    ⟨transcript, other, isTranscript, isOther, pair⟩
  · rw [texts missing, @texts (withTexts state others) _ missingOther]
    rfl
  · have rows := pair.masked.chunkRows
    rw [texts isTranscript, @texts (withTexts state others) _ isOther]
    simp only [Option.map_some, processRawChunks]
    match met.stop with
    | some (.storing count) =>
      have prefixes := congrArg (List.take count) rows
      rw [← List.map_take, ← List.map_take] at prefixes
      exact storeMasked_withTexts job.callId prefixes
    | some .resolving => exact storeMasked_withTexts job.callId rows
    | none | some (.tagging _) | some (.indexing _ _) =>
      simp only [storeMasked_withTexts job.callId rows]
      exact tagAndIndex_withTexts job met

def retext (others : List Transcript) (entry : CallTranscriptEntry) : CallTranscriptEntry :=
  { entry with fullText := textOf others entry.callId }

theorem retext_keeps (others : List Transcript) : KeepsHeader (retext others) :=
  ⟨fun _ => rfl, fun _ => rfl, fun _ => rfl, fun _ => rfl, fun _ => rfl⟩

theorem transcriptEntry_withTexts (alike : Counterparts db.transcripts others) (call : Call) :
    transcriptEntry { db with transcripts := others } call =
      (transcriptEntry db call).map (retext others) := by
  simp only [transcriptEntry]
  rcases find?_counterpart alike call.id with ⟨missing, missingOther⟩ |
    ⟨transcript, other, isTranscript, isOther, pair⟩
  · simp only [missing, missingOther, Option.map_none]
  · simp [isTranscript, isOther, retext, textOf, pair.wordCount]

theorem transcriptEntries_withTexts (alike : Counterparts db.transcripts others)
    (options : MergedTranscriptOptions) :
    transcriptEntries { db with transcripts := others } options =
      (transcriptEntries db options).map (retext others) := by
  simp only [transcriptEntries, List.map_filterMap, transcriptEntry_withTexts alike]

theorem mergedEntries_withTexts (alike : Counterparts db.transcripts others)
    (options : MergedTranscriptOptions) :
    (mergedEntries { db with transcripts := others } options).1 =
      { (mergedEntries db options).1 with
        included := (mergedEntries db options).1.included.map (retext others) } := by
  simp only [mergedEntries, transcriptEntries_withTexts alike]
  exact applyTruncation_map (retext_keeps others) _ _ _

theorem Counterparts.count (alike : Counterparts db.transcripts others)
    {entry : CallTranscriptEntry}
    (member : entry ∈ transcriptEntries db options) :
    (retext others entry).fullText.count '#' = entry.fullText.count '#' := by
  obtain ⟨call, _, isEntry⟩ := List.mem_filterMap.mp member
  obtain ⟨transcript, found, rfl⟩ := Option.map_eq_some_iff.mp isEntry
  rcases find?_counterpart alike call.id with ⟨missing, _⟩ |
    ⟨row, other, isRow, isOther, pair⟩
  · rw [missing] at found
    cases found
  · obtain rfl := Option.some.inj (isRow.symm.trans found)
    have masked := congrArg (List.count '#') pair.masked.whole
    simp only [maskedText, Pii.maskPii_count] at masked
    simpa [retext, textOf, isOther] using masked.symm

theorem included_subset (options : MergedTranscriptOptions) :
    (mergedEntries db options).1.included ⊆ transcriptEntries db options :=
  applyTruncation_subset _ _ _

theorem mergeTranscripts_counterpart (alike : Counterparts db.transcripts others)
    (options : MergedTranscriptOptions) :
    ∃ markdown wordCount, mergeTranscripts { db with transcripts := others } options =
      { mergeTranscripts db options with markdown, wordCount } := by
  have included := mergedEntries_withTexts alike options
  simp only [mergeTranscripts, transcriptEntries_withTexts alike, List.length_map]
  split
  · exact ⟨_, _, rfl⟩
  · rw [included, List.length_map]
    exact ⟨_, _, rfl⟩

theorem mergeTranscripts_markdown
    (some : (mergedEntries db options).1.included ≠ []) :
    (mergeTranscripts db options).markdown = buildMarkdown (mergedEntries db options).1.included ∧
      (mergeTranscripts db options).includedCalls ≠ 0 := by
  obtain ⟨entry, member⟩ := List.exists_mem_of_ne_nil _ some
  have calls : (transcriptEntries db options).length ≠ 0 := by
    have inEntries := included_subset options member
    exact Nat.ne_of_gt (List.length_pos_of_mem inEntries)
  simp only [mergeTranscripts, if_neg calls, true_and]
  intro none
  exact some (List.eq_nil_of_length_eq_zero none)

theorem merged_markdown_eq_iff (alike : Counterparts db.transcripts others)
    (some : (mergedEntries db options).1.included ≠ []) :
    (mergeTranscripts { db with transcripts := others } options).markdown =
        (mergeTranscripts db options).markdown ↔
      ∀ entry ∈ (mergedEntries db options).1.included,
        textOf others entry.callId = entry.fullText := by
  have counts : ∀ entry ∈ (mergedEntries db options).1.included,
      (retext others entry).fullText.count '#' = entry.fullText.count '#' := by
    intro entry member
    exact alike.count (included_subset options member)
  have included := mergedEntries_withTexts alike options
  have someOther : (mergedEntries { db with transcripts := others } options).1.included ≠ [] := by
    rw [included]
    simpa using some
  rw [(mergeTranscripts_markdown some).1, (mergeTranscripts_markdown someOther).1, included]
  exact buildMarkdown_map_eq_iff (retext_keeps others) counts

theorem mergeTranscripts_withTexts (alike : Counterparts db.transcripts others)
    (texts : ∀ entry ∈ (mergedEntries db options).1.included,
      textOf others entry.callId = entry.fullText) :
    mergeTranscripts { db with transcripts := others } options = mergeTranscripts db options := by
  have unchanged : (mergedEntries db options).1.included.map (retext others) =
      (mergedEntries db options).1.included := by
    apply (List.map_congr_left _).trans (List.map_id _)
    intro entry member
    simp only [retext, texts entry member, id]
  have included := mergedEntries_withTexts alike options
  rw [unchanged] at included
  have merged : mergedEntries { db with transcripts := others } options =
      mergedEntries db options := Prod.ext included rfl
  simp only [mergeTranscripts, transcriptEntries_withTexts alike, List.length_map, merged]

theorem gatherSegments_withTexts (alike : Counterparts search.db.transcripts others)
    (options : StoryBuilderOptions) :
    gatherSegments options (searchWithTexts search others) = gatherSegments options search := by
  have sources : (searchWithTexts search others).db.transcripts = others := rfl
  simp only [gatherSegments, sources, any_counterpart alike]
  rfl

theorem ask_withTexts (client : ChatClient) (messages : List ChatMessage) :
    ask platform client (withTexts state others) messages =
      ((ask platform client state messages).1,
        withTexts (ask platform client state messages).2 others) := rfl

theorem extractQuotes_withTexts (client : ChatClient) (segments : List TranscriptSegment) :
    extractQuotes platform client (withTexts state others) segments =
      ((extractQuotes platform client state segments).1,
        withTexts (extractQuotes platform client state segments).2 others) := by
  simp only [extractQuotes]
  split
  · rfl
  · simp only [ask_withTexts]

def mergeOptions (options : StoryBuilderOptions) : MergedTranscriptOptions where
  accountId := options.accountId
  organizationId := options.organizationId

theorem buildStory_withTexts (alike : Counterparts state.search.db.transcripts others)
    {options : StoryBuilderOptions} {fails : Bool}
    (texts : fails = false →
      (state.search.db.accounts.any (·.id == options.accountId)) = true →
        ∀ entry ∈ (mergedEntries state.search.db (mergeOptions options)).1.included,
          textOf others entry.callId = entry.fullText) :
    buildStory platform (withTexts state others) options fails =
      ((buildStory platform state options fails).1,
        withTexts (buildStory platform state options fails).2 others) := by
  have accounts : (withTexts state others).search.db.accounts = state.search.db.accounts := rfl
  simp only [buildStory, accounts]
  cases isAccount : state.search.db.accounts.find? (·.id == options.accountId) with
  | none => rfl
  | some account =>
    cases fails with
    | true => rfl
    | false =>
      have own := List.find?_some isAccount
      have known : state.search.db.accounts.any (·.id == options.accountId) = true :=
        List.any_eq_true.mpr ⟨account, List.mem_of_find?_eq_some isAccount, own⟩
      have merged : mergeTranscripts (withTexts state others).search.db
          (mergeOptions options) = mergeTranscripts state.search.db (mergeOptions options) :=
        mergeTranscripts_withTexts alike (texts rfl known)
      have segments : gatherSegments options (withTexts state others).search =
          gatherSegments options state.search := gatherSegments_withTexts alike options
      have settings : (withTexts state others).search.db.orgSettings =
        state.search.db.orgSettings := rfl
      simp only [mergeOptions] at merged
      simp only [merged, segments, settings, ask_withTexts]
      split
      · rfl
      · cases ask platform options.client state _ with
        | mk answer asked =>
          cases answer with
          | none => rfl
          | some content =>
            simp only [extractQuotes_withTexts]
            cases extractQuotes platform options.client asked _ with
            | mk quotes finished =>
              cases quotes with
              | none => rfl
              | some quotes => rfl

end

end StoryEngine.Stories
