import StoryEngine.Data.Upserts
import StoryEngine.Processing.AccountSearch

namespace StoryEngine.Processing

open Data Ingestion Resolution Schema

/-! # Chunks of the current transcript

`processCall` writes chunks by their index and deletes none, so that the end of a longer
earlier text stays behind.
-/

def ownTexts (state : SearchState) (callId : RowId) : List (Nat × Text) :=
  (state.chunks.filter (·.callId == callId)).map fun chunk => (chunk.chunkIndex, chunk.text)

def maskedChunks (maskPII : Text → Text) (chunks : List RawChunk) : List (Nat × Text) :=
  chunks.map fun raw => (raw.index, maskPII raw.text)

/-- In the order of their indices, the stored chunks of the call are the masked chunks of its
transcript. -/
def StoresCurrent (maskPII : Text → Text) (state : SearchState) (callId : RowId) : Prop :=
  ∀ fullText ∈ findTranscript state.db callId,
    inKeyOrder (ownTexts state callId) = maskedChunks maskPII (chunkTranscript fullText)

def NoLaterChunks (state : SearchState) (callId : RowId) (fullText : Text) : Prop :=
  ∀ chunk ∈ state.chunks, chunk.callId = callId →
    chunk.chunkIndex < (chunkTranscript fullText).length

def runsThrough (job : ProcessCallJob) (met : ProcessRun) : Bool :=
  match met.stop with
  | none => true
  | some (.indexing _) => job.accountId.isNone
  | some (.storing _) | some .tagging => false

section

variable {state before after : SearchState} {callId : RowId} {job : ProcessCallJob}
  (maskPII : Text → Text)

def chunkTexts (state : SearchState) : List (RowId × Nat × Text) :=
  state.chunks.map fun chunk => (chunk.callId, chunk.chunkIndex, chunk.text)

theorem ownTexts_eq (state : SearchState) (callId : RowId) :
    ownTexts state callId = ((chunkTexts state).filter (·.1 == callId)).map (·.2) := by
  rw [chunkTexts, List.filter_map, List.map_map]
  rfl

theorem ownTexts_congr (same : chunkTexts after = chunkTexts before) (callId : RowId) :
    ownTexts after callId = ownTexts before callId := by
  rw [ownTexts_eq, ownTexts_eq, same]

theorem any_ownTexts (state : SearchState) (callId : RowId) (index : Nat) :
    (ownTexts state callId).any (·.1 == index) =
      state.chunks.any fun row => row.callId == callId && row.chunkIndex == index := by
  rw [ownTexts, List.any_map, List.any_filter]
  rfl

theorem ownTexts_upsertChunk (state : SearchState) (callId : RowId) (raw : RawChunk) :
    ownTexts (upsertChunk maskPII callId state raw) callId =
      upsertEntry (ownTexts state callId) (raw.index, maskPII raw.text) := by
  rw [upsertEntry, any_ownTexts, upsertChunk]
  split
  · rw [ownTexts, filter_updateWhere_kept, ownTexts, updateWhere, List.map_map, List.map_map]
    · apply List.map_congr_left
      intro chunk member
      have own := (List.mem_filter.mp member).2
      simp only [Function.comp_apply, own, Bool.true_and]
      split
      · next here => rw [beq_iff_eq.mp here]
      · rfl
    · intro row
      rfl
  · simp [ownTexts, List.filter_append]

theorem ownTexts_upsertChunk_other {other : RowId} (apart : other ≠ callId) (raw : RawChunk) :
    ownTexts (upsertChunk maskPII callId state raw) other = ownTexts state other := by
  rw [upsertChunk]
  split
  · rw [ownTexts, filter_updateWhere, ownTexts]
    intro chunk _ selected
    have own : chunk.callId = callId := by
      simp only [Bool.and_eq_true, beq_iff_eq] at selected
      exact selected.1
    simp [own, Ne.symm apart]
  · simp [ownTexts, List.filter_append, Ne.symm apart]

theorem ownTexts_storeChunks (chunks : List RawChunk) :
    ownTexts (storeChunks maskPII callId state chunks) callId =
      (maskedChunks maskPII chunks).foldl upsertEntry (ownTexts state callId) := by
  induction chunks generalizing state with
  | nil => rfl
  | cons raw rest ih =>
    have later := @ih (upsertChunk maskPII callId state raw)
    rw [ownTexts_upsertChunk] at later
    exact later

theorem ownTexts_storeChunks_other {other : RowId} (apart : other ≠ callId)
    (chunks : List RawChunk) :
    ownTexts (storeChunks maskPII callId state chunks) other = ownTexts state other := by
  induction chunks generalizing state with
  | nil => rfl
  | cons raw rest ih =>
    have later := @ih (upsertChunk maskPII callId state raw)
    rw [ownTexts_upsertChunk_other maskPII apart] at later
    exact later

theorem chunkTexts_tagged (labels : List ChunkLabel) :
    chunkTexts (tagCallTranscript callId state labels) = chunkTexts state := by
  induction labels generalizing state with
  | nil => rfl
  | cons label rest ih =>
    have step : chunkTexts (upsertTag callId state label) = chunkTexts state := by
      rw [upsertTag]
      split
      · rfl
      · dsimp only
        split <;> rfl
    exact (@ih (upsertTag callId state label)).trans step

theorem chunkTexts_indexed {accountId : RowId} (chunks : List TranscriptChunk) :
    chunkTexts (indexChunks job accountId state chunks) = chunkTexts state := by
  induction chunks generalizing state with
  | nil => rfl
  | cons chunk rest ih =>
    have step : chunkTexts (indexChunk job accountId state chunk) = chunkTexts state :=
      map_updateWhere fun _ => rfl
    exact (@ih (indexChunk job accountId state chunk)).trans step

theorem chunkTexts_indexCall (stop : Option ProcessStop) :
    chunkTexts (indexCall state job stop).1 = chunkTexts state := by
  unfold indexCall
  dsimp only
  split
  · exact chunkTexts_indexed _
  · exact chunkTexts_indexed _
  · rfl

theorem indexCall_completed (met : ProcessRun) (notStoring : ∀ count, met.stop ≠ some (.storing count))
    (notTagging : met.stop ≠ some .tagging) :
    (indexCall state job met.stop).2 = .completed ↔ runsThrough job met = true := by
  unfold indexCall runsThrough
  cases account : job.accountId with
  | none =>
    cases stops : met.stop with
    | none => simp
    | some stop =>
      cases stop with
      | storing count => exact absurd stops (notStoring count)
      | tagging => exact absurd stops notTagging
      | indexing count => simp
  | some accountId =>
    cases stops : met.stop with
    | none => simp
    | some stop =>
      cases stop with
      | storing count => exact absurd stops (notStoring count)
      | tagging => exact absurd stops notTagging
      | indexing count => simp

theorem processCall_completed_iff (met : ProcessRun) :
    (processCall maskPII state job met).2 = .completed ↔
      (findTranscript state.db job.callId).isSome ∧ runsThrough job met = true := by
  unfold processCall
  split
  · next missing => simp [missing]
  · next fullText found =>
      dsimp only
      split
      · next stops => simp [runsThrough, stops]
      · next stops => simp [runsThrough, stops]
      · next notStoring notTagging =>
          rw [found, Option.isSome_some]
          simp only [true_and]
          have completed (state : SearchState) :=
            @indexCall_completed state job met notStoring notTagging
          exact completed _

theorem processCall_texts {met : ProcessRun} {fullText : Text}
    (found : findTranscript state.db job.callId = some fullText)
    (through : runsThrough job met = true) :
    chunkTexts (processCall maskPII state job met).1 =
      chunkTexts (storeChunks maskPII job.callId state (chunkTranscript fullText)) := by
  unfold processCall
  rw [found]
  dsimp only
  split
  · next stops => simp [runsThrough, stops] at through
  · next stops => simp [runsThrough, stops] at through
  · rw [chunkTexts_indexCall, chunkTexts_tagged]

theorem processCall_stores (met : ProcessRun) :
    ∃ chunks, chunkTexts (processCall maskPII state job met).1 =
      chunkTexts (storeChunks maskPII job.callId state chunks) := by
  unfold processCall
  split
  · exact ⟨[], rfl⟩
  · dsimp only
    split
    · exact ⟨_, rfl⟩
    · exact ⟨_, rfl⟩
    · exact ⟨_, by rw [chunkTexts_indexCall, chunkTexts_tagged]⟩

theorem processCall_db (met : ProcessRun) : (processCall maskPII state job met).1.db = state.db := by
  have stored (state : SearchState) (chunks : List RawChunk) :
      (storeChunks maskPII job.callId state chunks).db = state.db := by
    induction chunks generalizing state with
    | nil => rfl
    | cons raw rest ih =>
      refine (ih (upsertChunk maskPII job.callId state raw)).trans ?_
      rw [upsertChunk]
      split <;> rfl
  have tagged (state : SearchState) (labels : List ChunkLabel) :
      (tagCallTranscript job.callId state labels).db = state.db := by
    induction labels generalizing state with
    | nil => rfl
    | cons label rest ih =>
      refine (ih (upsertTag job.callId state label)).trans ?_
      rw [upsertTag]
      split
      · rfl
      · dsimp only
        split <;> rfl
  have indexed (state : SearchState) (accountId : RowId) (chunks : List TranscriptChunk) :
      (indexChunks job accountId state chunks).db = state.db := by
    induction chunks generalizing state with
    | nil => rfl
    | cons chunk rest ih => exact ih (indexChunk job accountId state chunk)
  unfold processCall
  split
  · rfl
  · dsimp only
    split
    · exact stored _ _
    · exact stored _ _
    · unfold indexCall
      dsimp only
      split
      · exact (indexed _ _ _).trans ((tagged _ _).trans (stored _ _))
      · exact (indexed _ _ _).trans ((tagged _ _).trans (stored _ _))
      · exact (tagged _ _).trans (stored _ _)

def ChunkIndices (state : SearchState) : Prop :=
  ∀ callId, ((ownTexts state callId).map (·.1)).Nodup

theorem ChunkIndices.congr (indices : ChunkIndices before)
    (same : chunkTexts after = chunkTexts before) : ChunkIndices after := by
  intro callId
  rw [ownTexts_congr same]
  exact indices callId

theorem ChunkIndices.stored (indices : ChunkIndices state) (callId : RowId)
    (chunks : List RawChunk) : ChunkIndices (storeChunks maskPII callId state chunks) := by
  intro other
  by_cases own : other = callId
  · subst own
    rw [ownTexts_storeChunks]
    exact nodup_upsertEntries (indices other) _
  · rw [ownTexts_storeChunks_other maskPII own]
    exact indices other

theorem maskedChunks_increasing (fullText : Text) :
    ((maskedChunks maskPII (chunkTranscript fullText)).map (·.1)).Pairwise (· < ·) := by
  have numbered : (chunkTranscript fullText).map (·.index) = _ := chunkTranscript_numbered fullText
  rw [maskedChunks, List.map_map, Function.comp_def]
  rw [numbered]
  exact List.pairwise_lt_range

theorem mem_maskedChunks_index (fullText : Text) (index : Nat) :
    index ∈ (maskedChunks maskPII (chunkTranscript fullText)).map (·.1) ↔
      index < (chunkTranscript fullText).length := by
  have numbered : (chunkTranscript fullText).map (·.index) = _ := chunkTranscript_numbered fullText
  rw [maskedChunks, List.map_map, Function.comp_def]
  rw [numbered]
  exact List.mem_range

theorem storesCurrent_iff (indices : ChunkIndices state) {met : ProcessRun} {fullText : Text}
    (found : findTranscript state.db job.callId = some fullText)
    (through : runsThrough job met = true) :
    inKeyOrder (ownTexts (processCall maskPII state job met).1 job.callId) =
        maskedChunks maskPII (chunkTranscript fullText) ↔
      NoLaterChunks state job.callId fullText := by
  rw [ownTexts_congr (processCall_texts maskPII found through), ownTexts_storeChunks,
    inKeyOrder_upsertEntries_iff (indices job.callId) (maskedChunks_increasing maskPII fullText)]
  constructor
  · intro covered chunk member own
    have stored : (chunk.chunkIndex, chunk.text) ∈ ownTexts state job.callId :=
      List.mem_map_of_mem (List.mem_filter.mpr ⟨member, by simpa using own⟩)
    exact (mem_maskedChunks_index maskPII fullText _).mp (covered _ stored)
  · intro within row member
    obtain ⟨chunk, selected, rfl⟩ := List.mem_map.mp member
    obtain ⟨inChunks, own⟩ := List.mem_filter.mp selected
    exact (mem_maskedChunks_index maskPII fullText _).mpr
      (within chunk inChunks (by simpa using own))

end

def startedRun (state : SearchState) : SearchAction → Option (CallJob × ProcessRun)
  | .runJob jobId met =>
    ((findJob state.queue jobId).filter (·.state == .waiting)).map fun job => (job, met)
  | _ => none

/-- After every run of `processCall` that gets to its end, the chunks are current. -/
def RunsStoreCurrentChunks (maskPII : Text → Text) (resolver : Resolver)
    (minRelevanceScore : ℚ) (state : SearchState) (actions : List SearchAction) : Prop :=
  ∀ taken ∈ trace (searchStep maskPII resolver minRelevanceScore) state actions,
    ∀ ran ∈ startedRun taken.1 taken.2,
      (processCall maskPII taken.1 ran.1.data ran.2).2 = .completed →
        StoresCurrent maskPII (searchStep maskPII resolver minRelevanceScore taken.1 taken.2)
          ran.1.data.callId

/-- A run that does not throw finds no chunk behind the last one of the transcript. -/
def FindsNoLaterChunks (state : SearchState) (action : SearchAction) : Prop :=
  ∀ ran ∈ startedRun state action, runsThrough ran.1.data ran.2 = true →
    ∀ fullText ∈ findTranscript state.db ran.1.data.callId,
      NoLaterChunks state ran.1.data.callId fullText

section

variable {state : SearchState} (maskPII : Text → Text) (resolver : Resolver)
  (minRelevanceScore : ℚ)

theorem searchStep_job {action : SearchAction} {ran : CallJob × ProcessRun}
    (runs : ran ∈ startedRun state action) :
    let result := (processCall maskPII state ran.1.data ran.2).1
    let after := searchStep maskPII resolver minRelevanceScore state action
    after.chunks = result.chunks ∧ after.db = result.db := by
  cases action with
  | runJob jobId met =>
    obtain ⟨job, isJob, rfl⟩ := Option.map_eq_some_iff.mp runs
    simp only [searchStep, runJob, isJob]
    exact ⟨rfl, rfl⟩
  | _ => cases runs

theorem ChunkIndices.step (indices : ChunkIndices state) (action : SearchAction) :
    ChunkIndices (searchStep maskPII resolver minRelevanceScore state action) := by
  cases action with
  | changes change failedAdds => exact indices.congr rfl
  | runJob jobId met =>
    rcases runJob_cases maskPII state jobId met with unchanged | ⟨job, _, ran, outcome, _, _,
      processed, ends⟩
    · simp only [searchStep, unchanged]
      exact indices
    · obtain ⟨chunks, written⟩ := @processCall_stores state job.data maskPII met
      simp only [searchStep, ends]
      rw [processed] at written
      exact (indices.stored maskPII job.data.callId chunks).congr written
  | ragQuery input found =>
    simp only [searchStep, ragQuery]
    split <;> exact indices.congr rfl
  | forgetAnswer key => exact indices.congr rfl

/-- Every run of `processCall` that gets to its end stores the masked chunks of the current
transcript, and no others, if, and only if, it finds no chunk behind the last one of them. -/
theorem runs_store_current_chunks_iff (db : Database) (actions : List SearchAction) :
    RunsStoreCurrentChunks maskPII resolver minRelevanceScore (freshIndex db) actions ↔
      Guarded (searchStep maskPII resolver minRelevanceScore) FindsNoLaterChunks
        (freshIndex db) actions := by
  have start : ChunkIndices (freshIndex db) := fun _ => List.nodup_nil
  have indices : ∀ taken ∈ trace (searchStep maskPII resolver minRelevanceScore)
      (freshIndex db) actions, ChunkIndices taken.1 := by
    intro taken member
    have free : Guarded (searchStep maskPII resolver minRelevanceScore) (fun _ _ => True)
        (freshIndex db) actions := fun _ _ => trivial
    exact (trace_guarded_invariant ChunkIndices
      (fun _ action kept _ => kept.step maskPII resolver minRelevanceScore action)
      start free taken member).1
  have exactly (taken : SearchState × SearchAction) (kept : ChunkIndices taken.1)
      (ran : CallJob × ProcessRun) (runs : ran ∈ startedRun taken.1 taken.2) (fullText : Text)
      (found : findTranscript taken.1.db ran.1.data.callId = some fullText)
      (through : runsThrough ran.1.data ran.2 = true) :
      StoresCurrent maskPII (searchStep maskPII resolver minRelevanceScore taken.1 taken.2)
        ran.1.data.callId ↔ NoLaterChunks taken.1 ran.1.data.callId fullText := by
    obtain ⟨chunks, tables⟩ := searchStep_job maskPII resolver minRelevanceScore runs
    rw [← storesCurrent_iff maskPII kept found through, StoresCurrent, tables, processCall_db,
      found, ownTexts, chunks]
    simp only [Option.mem_def, Option.some.injEq, forall_eq']
    rfl
  constructor
  · intro current taken member ran runs through fullText found
    have completed := (processCall_completed_iff maskPII ran.2).mpr
      ⟨Option.isSome_of_mem found, through⟩
    exact (exactly taken (indices taken member) ran runs fullText found through).mp
      (current taken member ran runs completed)
  · intro guarded taken member ran runs completed
    obtain ⟨transcript, through⟩ := (processCall_completed_iff maskPII ran.2).mp completed
    obtain ⟨fullText, found⟩ := Option.isSome_iff_exists.mp transcript
    exact (exactly taken (indices taken member) ran runs fullText found through).mpr
      (guarded taken member ran runs through fullText found)

end

instance (state : SearchState) (callId : RowId) (fullText : Text) :
    Decidable (NoLaterChunks state callId fullText) :=
  inferInstanceAs (Decidable (∀ chunk ∈ state.chunks, _))

instance (state : SearchState) (action : SearchAction) :
    Decidable (FindsNoLaterChunks state action) :=
  inferInstanceAs (Decidable (∀ ran ∈ startedRun state action, _ → ∀ fullText ∈ _, _))

def longText : Text := List.replicate 1500 'a' ++ ['.', ' ', 'b', '.']

def shortText : Text := ['b', '.']

/-- The transcript has two chunks when the call is indexed; a second event brings a text that
has one, and the call is indexed again. -/
def shortenedTranscript : List SearchAction :=
  [.changes (.handleEvent (callReady 1 ['g'] (some longText) 0)) 0, .runJob (.processCall 3) {},
    .changes (.handleEvent (callReady 1 ['g'] (some shortText) 60)) 0,
    .changes (.addJob {
      callId := 3, organizationId := 1, accountId := some 1, hasTranscript := true }) 0,
    .runJob (.generated 2) {}]

/-- The second chunk of the first text is still there. -/
theorem shortened_transcript_keeps_old_chunk :
    ¬RunsStoreCurrentChunks id plainResolver 0 (freshIndex callOfFirst) shortenedTranscript ∧
    (ownTexts (run (searchStep id plainResolver 0) (freshIndex callOfFirst) shortenedTranscript)
      3).map (·.1) = [0, 1] ∧
    findTranscript (run (searchStep id plainResolver 0) (freshIndex callOfFirst)
      shortenedTranscript).db 3 = some shortText := by
  constructor
  · intro current
    have stored := current
      (run (searchStep id plainResolver 0) (freshIndex callOfFirst) (shortenedTranscript.take 4),
        .runJob (.generated 2) {})
      (.tail _ (.tail _ (.tail _ (.tail _ (.head _)))))
      (callJob (.generated 2)
        { callId := 3, organizationId := 1, accountId := some 1, hasTranscript := true }, {})
      (by decide +kernel) (by decide +kernel) shortText (by decide +kernel)
    have lengths := congrArg List.length stored
    rw [inKeyOrder, (List.mergeSort_perm _ _).length_eq] at lengths
    revert lengths
    decide +kernel
  · decide +kernel

end StoryEngine.Processing
