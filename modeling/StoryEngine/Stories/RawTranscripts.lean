import StoryEngine.Stories.Counterparts

namespace StoryEngine.Stories

open Data Pipeline Processing Schema

/-! # Raw transcripts in prompts

Calls are processed and stories are built for two organizations that differ only in texts which
masking makes equal.  The prompt of a story shows the difference in every text that it merges.
-/

inductive PipelineAction where
  | processCall (job : ProcessCallJob) (met : PipelineRun)
  | buildStory (options : StoryBuilderOptions) (fails : Bool)

def pipelineStep (platform : AiPlatform) (config : TaggerConfig) (state : PipelineState) :
    PipelineAction → PipelineState
  | .processCall job met => processCall platform config state job met
  | .buildStory options fails => (buildStory platform state options fails).2

/-- A story that gets to its prompt merges no transcript whose text differs. -/
def MergesEqualTexts (others : List Transcript) (state : PipelineState) : PipelineAction → Prop
  | .processCall _ _ => True
  | .buildStory options fails =>
    fails = false → (state.search.db.accounts.any (·.id == options.accountId)) = true →
      ∀ entry ∈ (mergedEntries state.search.db (mergeOptions options)).1.included,
        textOf others entry.callId = entry.fullText

instance (others : List Transcript) (state : PipelineState) :
    (action : PipelineAction) → Decidable (MergesEqualTexts others state action)
  | .processCall _ _ => isTrue trivial
  | .buildStory options fails =>
    inferInstanceAs (Decidable (fails = false →
      (state.search.db.accounts.any (·.id == options.accountId)) = true → ∀ entry ∈ _, _))

section

variable {platform : AiPlatform} {config : TaggerConfig} {state : PipelineState}
  {others : List Transcript} {options : StoryBuilderOptions}

/-- More may have been sent, and the transcripts are the same. -/
structure Later (before after : PipelineState) : Prop where
  transcripts : after.search.db.transcripts = before.search.db.transcripts
  sent : before.sent <+: after.sent

theorem Later.refl (state : PipelineState) : Later state state :=
  ⟨rfl, List.prefix_refl _⟩

theorem Later.trans {first second third : PipelineState} (one : Later first second)
    (two : Later second third) : Later first third :=
  ⟨two.transcripts.trans one.transcripts, one.sent.trans two.sent⟩

theorem storeMasked_later (callId : RowId) (rawChunks : List RawChunk) :
    Later state (storeMasked state callId rawChunks) := by
  have own := @storeChunks_withTexts state.search state.search.db.transcripts maskedText callId
    rawChunks
  constructor
  · exact congrArg (·.db.transcripts) own
  · exact List.prefix_refl _

theorem storeTags_later (tags : List ChunkTag) : Later state (storeTags state tags) := by
  have own := @storeTags_withTexts state state.search.db.transcripts tags
  constructor
  · exact congrArg (·.search.db.transcripts) own
  · exact List.prefix_refl _

theorem indexNext_later (job : ProcessCallJob) (accountId : RowId) (embeddedOnly : Bool)
    (chunk : TranscriptChunk) :
    Later state (indexNext platform job accountId embeddedOnly state chunk).2 := by
  simp only [indexNext]
  split
  · exact ⟨rfl, List.prefix_append _ _⟩
  · exact ⟨rfl, List.prefix_append _ _⟩

theorem indexAll_later (job : ProcessCallJob) (accountId : RowId) (stop : Option (Nat × Bool))
    (chunks : List TranscriptChunk) :
    Later state (indexAll platform job accountId stop state chunks) := by
  induction chunks generalizing stop state with
  | nil =>
    cases stop with
    | none => exact Later.refl state
    | some limit => exact Later.refl state
  | cons chunk rest ih =>
    have indexed := @indexNext_later platform state job accountId false chunk
    cases stop with
    | none =>
      simp only [indexAll]
      cases isNext : indexNext platform job accountId false state chunk with
      | mk succeeded after =>
        rw [isNext] at indexed
        cases succeeded with
        | true => exact indexed.trans (ih none)
        | false => exact indexed
    | some limit =>
      obtain ⟨count, embedded⟩ := limit
      cases count with
      | zero =>
        simp only [indexAll]
        split
        · exact indexNext_later job accountId true chunk
        · exact Later.refl state
      | succ count =>
        simp only [indexAll]
        cases isNext : indexNext platform job accountId false state chunk with
        | mk succeeded after =>
          rw [isNext] at indexed
          cases succeeded with
          | true => exact indexed.trans (ih (some (count, embedded)))
          | false => exact indexed

theorem indexCallChunks_later (job : ProcessCallJob) (stop : Option (Nat × Bool)) :
    Later state (indexCallChunks platform job state stop) := by
  unfold indexCallChunks
  cases job.accountId with
  | none => exact Later.refl state
  | some accountId => exact indexAll_later job accountId stop _

theorem workerTurn_grows (chunks : List TranscriptChunk) (tagging : Tagging)
    (turn : Nat × Date) :
    tagging.sent <+: (workerTurn platform config chunks tagging turn).sent := by
  obtain ⟨place, now⟩ := turn
  simp only [workerTurn]
  split
  · simp only [takeChunk]
    split
    · exact List.prefix_refl _
    · split
      · exact List.prefix_refl _
      · exact List.prefix_refl _
  · split
    · exact List.prefix_append _ _
    · exact List.prefix_refl _
  · split
    · simp only [receiveTags]
      split
      · exact List.prefix_refl _
      · exact List.prefix_refl _
    · exact List.prefix_refl _
  all_goals exact List.prefix_refl _

theorem processChunks_grows (chunks : List TranscriptChunk) (cache : TagCache)
    (sent : List Sent) (turns : List (Nat × Date)) :
    sent <+: (processChunksWithConcurrency platform config chunks cache sent turns).sent := by
  have turned (tagging : Tagging) :
      tagging.sent <+: (turns.foldl (workerTurn platform config chunks) tagging).sent := by
    induction turns generalizing tagging with
    | nil => exact List.prefix_refl _
    | cons turn rest ih => exact (workerTurn_grows chunks tagging turn).trans (ih _)
  exact turned {
    cache, sent, workers := List.replicate (min config.concurrency chunks.length) .ready }

theorem tagAndIndex_later (job : ProcessCallJob) (met : PipelineRun) :
    Later state (tagAndIndex platform config job met state) := by
  have grows := @processChunks_grows platform config (orderedChunks state.search job.callId)
    state.cache state.sent met.turns
  simp only [tagAndIndex]
  generalize processChunksWithConcurrency platform config (orderedChunks state.search job.callId)
    state.cache state.sent met.turns = result at grows ⊢
  have tagged : Later state { state with cache := result.cache, sent := result.sent } :=
    ⟨rfl, grows⟩
  cases result.outcome with
  | none => exact tagged
  | some results =>
    have indexed (stop : Option (Nat × Bool)) (stored : PipelineState) :=
      @indexCallChunks_later platform stored job stop
    cases met.stop with
    | none => exact (tagged.trans (storeTags_later _)).trans (indexed none _)
    | some stop =>
      cases stop with
      | storing | resolving => exact (tagged.trans (storeTags_later _)).trans (indexed none _)
      | tagging places => exact tagged.trans (storeTags_later _)
      | indexing count embedded =>
        exact (tagged.trans (storeTags_later _)).trans (indexed (some (count, embedded)) _)

theorem processCall_later (job : ProcessCallJob) (met : PipelineRun) :
    Later state (Pipeline.processCall platform config state job met) := by
  unfold Pipeline.processCall
  cases findTranscript state.search.db job.callId with
  | none => exact Later.refl state
  | some fullText =>
    simp only [processRawChunks]
    cases met.stop with
    | none => exact (storeMasked_later job.callId _).trans (tagAndIndex_later job met)
    | some stop =>
      cases stop with
      | storing | resolving => exact storeMasked_later job.callId _
      | tagging | indexing =>
        exact (storeMasked_later job.callId _).trans (tagAndIndex_later job met)

theorem ask_later (client : ChatClient) (messages : List ChatMessage) :
    Later state (ask platform client state messages).2 :=
  ⟨rfl, List.prefix_append _ _⟩

theorem extractQuotes_later (client : ChatClient) (segments : List TranscriptSegment) :
    Later state (extractQuotes platform client state segments).2 := by
  simp only [extractQuotes]
  split
  · exact Later.refl state
  · exact @ask_later platform state client _

def storyPrompt (options : StoryBuilderOptions) (search : SearchState) (accountName : Text) :
    List ChatMessage :=
  let orgSettings := search.db.orgSettings.find? (·.organizationId == options.organizationId)
  narrativeMessages accountName (mergeTranscripts search.db (mergeOptions options))
    (gatherSegments options search) ((orgSettings.map (·.storyContext)).getD {})
    (storySettings options ((orgSettings.map (·.storyPromptDefaults)).getD {}))

theorem buildStory_asks {account : Account}
    (isAccount : state.search.db.accounts.find? (·.id == options.accountId) = some account)
    (some : (mergeTranscripts state.search.db (mergeOptions options)).includedCalls ≠ 0) :
    Later (ask platform options.client state (storyPrompt options state.search account.name)).2
      (buildStory platform state options false).2 := by
  simp only [mergeOptions] at some
  simp only [buildStory, isAccount, if_neg some, storyPrompt, mergeOptions]
  cases ask platform options.client state _ with
  | mk answer asked =>
    cases answer with
    | none => exact Later.refl asked
    | some content =>
      have quoted := @extractQuotes_later platform asked options.client
        (gatherSegments options state.search)
      cases isQuotes : extractQuotes platform options.client asked
        (gatherSegments options state.search) with
      | mk quotes finished =>
        rw [isQuotes] at quoted
        simp only [isQuotes]
        cases quotes with
        | none => exact quoted
        | some quotes => exact quoted

theorem buildStory_later (fails : Bool) :
    Later state (buildStory platform state options fails).2 := by
  cases isAccount : state.search.db.accounts.find? (·.id == options.accountId) with
  | none =>
    simp only [buildStory, isAccount]
    exact Later.refl state
  | some account =>
    cases fails with
    | true =>
      simp only [buildStory, isAccount]
      exact Later.refl state
    | false =>
      by_cases none :
          (mergeTranscripts state.search.db (mergeOptions options)).includedCalls = 0
      · simp only [mergeOptions] at none
        simp only [buildStory, isAccount, if_pos none]
        exact Later.refl state
      · exact (ask_later options.client _).trans (buildStory_asks isAccount none)

theorem pipelineStep_later (action : PipelineAction) :
    Later state (pipelineStep platform config state action) := by
  cases action with
  | processCall job met => exact processCall_later job met
  | buildStory options fails => exact buildStory_later fails

theorem narrativeMessages_markdown {accountName markdown : Text} {wordCount : Nat}
    {merged : MergedTranscriptResult} {segments : List TranscriptSegment}
    {context : StoryContextSettings} {settings : StorySettings}
    (same : narrativeMessages accountName { merged with markdown, wordCount } segments context
      settings = narrativeMessages accountName merged segments context settings) :
    markdown = merged.markdown := by
  have user := (List.cons.inj (List.cons.inj same).2).1
  exact List.append_cancel_left (congrArg ChatMessage.content user)

theorem storyPrompt_markdown {search : SearchState} {accountName : Text}
    (alike : Counterparts search.db.transcripts others)
    (same : storyPrompt options (searchWithTexts search others) accountName =
      storyPrompt options search accountName) :
    (mergeTranscripts { search.db with transcripts := others } (mergeOptions options)).markdown =
      (mergeTranscripts search.db (mergeOptions options)).markdown := by
  obtain ⟨markdown, wordCount, merged⟩ :=
    mergeTranscripts_counterpart alike (mergeOptions options)
  have tables : (searchWithTexts search others).db = { search.db with transcripts := others } := rfl
  simp only [storyPrompt, gatherSegments_withTexts alike, tables, merged] at same
  rw [merged]
  exact narrativeMessages_markdown same

theorem buildStory_diverges {fails : Bool}
    (alike : Counterparts state.search.db.transcripts others)
    (differ : ¬MergesEqualTexts others state (.buildStory options fails)) :
    Diverged (buildStory platform (withTexts state others) options fails).2.sent
      (buildStory platform state options fails).2.sent := by
  simp only [MergesEqualTexts, Classical.not_imp] at differ
  obtain ⟨rfl, known, texts⟩ := differ
  obtain ⟨account, isAccount⟩ := Option.isSome_iff_exists.mp
    (List.find?_isSome.mpr (List.any_eq_true.mp known))
  have some : (mergedEntries state.search.db (mergeOptions options)).1.included ≠ [] := by
    intro none
    rw [none] at texts
    exact texts fun entry member => absurd member List.not_mem_nil
  have prompts : storyPrompt options (searchWithTexts state.search others) account.name ≠
      storyPrompt options state.search account.name := by
    intro same
    exact texts ((merged_markdown_eq_iff alike some).mp (storyPrompt_markdown alike same))
  have calls := (mergeTranscripts_markdown some).2
  have otherCalls : (mergeTranscripts (withTexts state others).search.db
      (mergeOptions options)).includedCalls ≠ 0 := by
    obtain ⟨markdown, wordCount, merged⟩ :=
      mergeTranscripts_counterpart alike (mergeOptions options)
    exact fun none => calls (by rw [← none]; exact (congrArg (·.includedCalls) merged).symm)
  have otherAccount : (withTexts state others).search.db.accounts.find?
      (·.id == options.accountId) = Option.some account := isAccount
  have asked := (@buildStory_asks platform state options account isAccount calls).sent
  have otherAsked := (@buildStory_asks platform (withTexts state others) options account
    otherAccount otherCalls).sent
  refine (diverged_append ?_).later otherAsked asked
  intro same
  exact prompts (Sent.chat.inj same).2

/-- Two organizations that differ only in texts which masking makes equal cause the same to be
sent just if no story merges a transcript that differs. -/
theorem sends_same_iff (alike : Counterparts state.search.db.transcripts others)
    (actions : List PipelineAction) :
    (run (pipelineStep platform config) (withTexts state others) actions).sent =
        (run (pipelineStep platform config) state actions).sent ↔
      Guarded (pipelineStep platform config) (MergesEqualTexts others) state actions := by
  apply @same_messages_iff _ _ _ (pipelineStep platform config) (·.sent)
    (MergesEqualTexts others) (withTexts · others)
    (fun state => Counterparts state.search.db.transcripts others)
  · intro state action initial
    rw [(pipelineStep_later action).transcripts]
    exact initial
  · intro state action
    exact (pipelineStep_later action).sent
  · intro state _
    rfl
  · intro state action initial equal
    cases action with
    | processCall job met => exact processCall_withTexts initial job met
    | buildStory options fails => exact congrArg Prod.snd (buildStory_withTexts initial equal)
  · intro state action initial differ
    cases action with
    | processCall job met => exact absurd trivial differ
    | buildStory options fails => exact buildStory_diverges initial differ
  · exact alike

end

def recorded (phone : Text) : List Transcript := [
  { callId := 3, fullText := template ["Call me at ", phone, ". Bye."], wordCount := 6 },
  { callId := 4, fullText := "We saved a lot.", wordCount := 4 }]

def recordedState (phone : Text) : PipelineState where
  search := {
    db := {
      accounts := [
        { id := 1, organizationId := 1, name := "Acme", normalizedName := "acme" },
        { id := 2, organizationId := 1, name := "Initech", normalizedName := "initech" }]
      calls := [
        { id := 3, organizationId := 1, accountId := some 1 },
        { id := 4, organizationId := 1, accountId := some 2 }]
      transcripts := recorded phone } }

def silentPlatform : AiPlatform where
  answer := fun _ => some []
  parseJson := fun _ => none
  hashText := id

theorem recorded_alike :
    Counterparts (recorded "555-123-4567") (recorded "555-987-6543") := by
  apply List.Forall₂.cons
  · exact ⟨rfl, rfl, by decide +kernel, by decide +kernel⟩
  · apply List.Forall₂.cons
    · exact ⟨rfl, rfl, rfl, rfl⟩
    · exact List.Forall₂.nil

def quietActions : List PipelineAction := [
  .buildStory { accountId := 2, organizationId := 1 } false,
  .processCall { callId := 3, organizationId := 1, accountId := some 1, hasTranscript := true }
    { turns := [(0, 0), (0, 0), (0, 0), (0, 0)] }]

theorem quiet_actions_send_same :
    (run (pipelineStep silentPlatform {})
        (withTexts (recordedState "555-123-4567") (recorded "555-987-6543")) quietActions).sent =
      (run (pipelineStep silentPlatform {}) (recordedState "555-123-4567") quietActions).sent :=
  (sends_same_iff recorded_alike quietActions).mpr (by decide +kernel)

theorem recorded_differ :
    ¬MergesEqualTexts (recorded "555-987-6543") (recordedState "555-123-4567")
      (.buildStory { accountId := 1, organizationId := 1 } false) := by
  decide +kernel

/-- The story of the first account asks for different things. -/
theorem story_shows_phone_number :
    Counterparts (recordedState "555-123-4567").search.db.transcripts (recorded "555-987-6543") ∧
      (run (pipelineStep silentPlatform {})
          (withTexts (recordedState "555-123-4567") (recorded "555-987-6543"))
          [.buildStory { accountId := 1, organizationId := 1 } false]).sent ≠
        (run (pipelineStep silentPlatform {}) (recordedState "555-123-4567")
          [.buildStory { accountId := 1, organizationId := 1 } false]).sent :=
  ⟨recorded_alike, (buildStory_diverges recorded_alike recorded_differ).ne⟩

end StoryEngine.Stories
