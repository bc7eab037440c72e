import StoryEngine.Processing.SearchIndex

namespace StoryEngine.Processing

open Accounts Data Ingestion Resolution Schema Statements

/-! # What a run of `processCall` does to the index -/

def chunkRows (state : SearchState) : List (RowId × RowId) :=
  state.chunks.map fun chunk => (chunk.id, chunk.callId)

/-- Chunks have distinct ids that were handed out, and a vector is that of a chunk of its
call. -/
structure ChunkTable (state : SearchState) : Prop where
  distinct : ((chunkRows state).map (·.1)).Nodup
  fresh : ∀ row ∈ chunkRows state, row.1 < state.nextChunkId
  named : ∀ vector ∈ state.vectors, vector.id = vector.chunkId
  chunked : ∀ vector ∈ state.vectors, (vector.chunkId, vector.callId) ∈ chunkRows state

/-- The chunks of one call are written, and vectors of it under the account of the job. -/
structure Processes (job : ProcessCallJob) (before after : SearchState) : Prop where
  table : ChunkTable after
  rows : chunkRows before ⊆ chunkRows after
  others : ∀ row ∈ chunkRows after, row.2 ≠ job.callId → row ∈ chunkRows before
  kept : ∀ vector ∈ before.vectors, ∃ row ∈ after.vectors, row.id = vector.id
  written : ∀ vector ∈ after.vectors,
    vector ∈ before.vectors ∨ vector.callId = job.callId ∧ job.accountId = some vector.accountId
  elsewhere : after.db = before.db ∧ after.queue = before.queue ∧
    after.processed = before.processed ∧ after.queryCache = before.queryCache

section

variable {job : ProcessCallJob} {before between after state : SearchState}

theorem mem_chunkRows {row : RowId × RowId} :
    row ∈ chunkRows state ↔ ∃ chunk ∈ state.chunks, chunk.id = row.1 ∧ chunk.callId = row.2 := by
  simp only [chunkRows, List.mem_map, Prod.ext_iff]

theorem chunkRows_update {selects : TranscriptChunk → Bool}
    {change : TranscriptChunk → TranscriptChunk} (id : ∀ chunk, (change chunk).id = chunk.id)
    (callId : ∀ chunk, (change chunk).callId = chunk.callId) :
    chunkRows { state with chunks := updateWhere state.chunks selects change } =
      chunkRows state := by
  exact map_updateWhere fun chunk => by rw [id, callId]

theorem ChunkTable.same (table : ChunkTable before) (rows : chunkRows after = chunkRows before)
    (nextChunkId : after.nextChunkId = before.nextChunkId)
    (vectors : after.vectors = before.vectors) : ChunkTable after where
  distinct := rows ▸ table.distinct
  fresh := rows ▸ nextChunkId ▸ table.fresh
  named := vectors ▸ table.named
  chunked := rows ▸ vectors ▸ table.chunked

namespace Processes

theorem ofRows (table : ChunkTable before) (rows : chunkRows after = chunkRows before)
    (nextChunkId : after.nextChunkId = before.nextChunkId)
    (vectors : after.vectors = before.vectors)
    (elsewhere : after.db = before.db ∧ after.queue = before.queue ∧
      after.processed = before.processed ∧ after.queryCache = before.queryCache) :
    Processes job before after where
  table := table.same rows nextChunkId vectors
  rows := fun _ member => rows ▸ member
  others := fun _ member _ => rows ▸ member
  kept := fun vector member => ⟨vector, vectors ▸ member, rfl⟩
  written := fun _ member => .inl (vectors ▸ member)
  elsewhere := elsewhere

theorem refl (table : ChunkTable state) : Processes job state state :=
  .ofRows table rfl rfl rfl ⟨rfl, rfl, rfl, rfl⟩

theorem trans (first : Processes job before between) (second : Processes job between after) :
    Processes job before after where
  table := second.table
  rows := fun _ member => second.rows (first.rows member)
  others := fun row member other => first.others row (second.others row member other) other
  kept := by
    intro vector member
    obtain ⟨row, inRows, id⟩ := first.kept vector member
    obtain ⟨new, inNew, newId⟩ := second.kept row inRows
    exact ⟨new, inNew, newId.trans id⟩
  written := by
    intro vector member
    rcases second.written vector member with old | new
    · exact first.written vector old
    · exact .inr new
  elsewhere := by
    obtain ⟨db, queue, processed, cache⟩ := first.elsewhere
    obtain ⟨laterDb, laterQueue, laterProcessed, laterCache⟩ := second.elsewhere
    exact ⟨laterDb.trans db, laterQueue.trans queue, laterProcessed.trans processed,
      laterCache.trans cache⟩

theorem foldl {α : Type} {step : SearchState → α → SearchState} {items : List α}
    (each : ∀ state item, item ∈ items → Processes job before state →
      Processes job state (step state item))
    (table : ChunkTable before) : Processes job before (items.foldl step before) := by
  suffices general : ∀ (rest : List α) state, (∀ item ∈ rest, item ∈ items) →
      Processes job before state → Processes job before (rest.foldl step state) from
    general items before (fun _ member => member) (.refl table)
  intro rest
  induction rest with
  | nil => exact fun state _ reached => reached
  | cons item rest ih =>
    intro state within reached
    apply ih (step state item) fun other member => within other (List.mem_cons_of_mem _ member)
    exact reached.trans (each state item (within item List.mem_cons_self) reached)

end Processes

theorem upsertChunk_processes (maskPII : Text → Text) (table : ChunkTable state) (raw : RawChunk) :
    Processes job state (upsertChunk maskPII job.callId state raw) := by
  unfold upsertChunk
  dsimp only
  split
  · exact .ofRows table (chunkRows_update (fun _ => rfl) fun _ => rfl) rfl rfl ⟨rfl, rfl, rfl, rfl⟩
  · have rows (chunk : TranscriptChunk) :
        chunkRows { state with
          nextChunkId := state.nextChunkId + 1, chunks := state.chunks ++ [chunk] } =
            chunkRows state ++ [(chunk.id, chunk.callId)] := List.map_append
    refine ⟨⟨?_, ?_, table.named, ?_⟩, ?_, ?_, fun vector member => ⟨vector, member, rfl⟩,
      fun vector member => .inl member, ⟨rfl, rfl, rfl, rfl⟩⟩
    · rw [rows, List.map_append, List.nodup_append]
      refine ⟨table.distinct, by simp, fun old inOld new inNew same => ?_⟩
      obtain ⟨row, member, rfl⟩ := List.mem_map.mp inOld
      obtain rfl : new = state.nextChunkId := by simpa using inNew
      exact Nat.lt_irrefl _ (same ▸ table.fresh row member)
    · intro row member
      rw [rows] at member
      rcases List.mem_append.mp member with old | new
      · exact Nat.lt_succ_of_lt (table.fresh row old)
      · rw [List.mem_singleton.mp new]
        exact Nat.lt_succ_self _
    · intro vector member
      rw [rows]
      exact List.mem_append_left _ (table.chunked vector member)
    · intro row member
      rw [rows]
      exact List.mem_append_left _ member
    · intro row member other
      rw [rows] at member
      rcases List.mem_append.mp member with old | new
      · exact old
      · exact absurd (by rw [List.mem_singleton.mp new]) other

theorem storeChunks_processes (maskPII : Text → Text) (table : ChunkTable state)
    (chunks : List RawChunk) : Processes job state (storeChunks maskPII job.callId state chunks) :=
  .foldl (fun _ raw _ reached => upsertChunk_processes maskPII reached.table raw) table

theorem tagCallTranscript_processes (table : ChunkTable state) (labels : List ChunkLabel) :
    Processes job state (tagCallTranscript job.callId state labels) := by
  refine .foldl (fun state label _ reached => ?_) table
  unfold upsertTag
  split
  · exact .refl reached.table
  · dsimp only
    split
    · exact .refl reached.table
    · exact .ofRows reached.table rfl rfl rfl ⟨rfl, rfl, rfl, rfl⟩

theorem storeChunks_vectors (maskPII : Text → Text) (callId : RowId) (state : SearchState)
    (chunks : List RawChunk) : (storeChunks maskPII callId state chunks).vectors = state.vectors := by
  unfold storeChunks
  induction chunks generalizing state with
  | nil => rfl
  | cons raw rest ih =>
    rw [List.foldl_cons, ih]
    unfold upsertChunk
    dsimp only
    split <;> rfl

theorem mem_upsertVector {vectors : List ChunkVector} {vector row : ChunkVector} :
    row ∈ upsertVector vectors vector ↔ row ∈ vectors ∧ row.id ≠ vector.id ∨ row = vector := by
  simp [upsertVector]

theorem indexChunk_processes {accountId : RowId} {chunk : TranscriptChunk}
    (table : ChunkTable state) (account : job.accountId = some accountId)
    (row : (chunk.id, job.callId) ∈ chunkRows state) :
    Processes job state (indexChunk job accountId state chunk) := by
  have rows : chunkRows (indexChunk job accountId state chunk) = chunkRows state :=
    chunkRows_update (fun _ => rfl) fun _ => rfl
  refine ⟨⟨rows ▸ table.distinct, rows ▸ table.fresh, ?_, ?_⟩, rows ▸ fun _ member => member,
    fun _ member _ => rows ▸ member, ?_, ?_, ⟨rfl, rfl, rfl, rfl⟩⟩
  · intro vector member
    rcases mem_upsertVector.mp member with ⟨old, _⟩ | rfl
    · exact table.named vector old
    · rfl
  · intro vector member
    rw [rows]
    rcases mem_upsertVector.mp member with ⟨old, _⟩ | rfl
    · exact table.chunked vector old
    · exact row
  · intro vector member
    by_cases same : vector.id = chunk.id
    · exact ⟨_, mem_upsertVector.mpr (.inr rfl), same.symm⟩
    · exact ⟨vector, mem_upsertVector.mpr (.inl ⟨member, same⟩), rfl⟩
  · intro vector member
    rcases mem_upsertVector.mp member with ⟨old, _⟩ | rfl
    · exact .inl old
    · exact .inr ⟨rfl, account⟩

theorem indexChunks_processes {accountId : RowId} {chunks : List TranscriptChunk}
    (table : ChunkTable state) (account : job.accountId = some accountId)
    (own : ∀ chunk ∈ chunks, (chunk.id, job.callId) ∈ chunkRows state) :
    Processes job state (indexChunks job accountId state chunks) :=
  .foldl (fun _ chunk member reached =>
    indexChunk_processes reached.table account (reached.rows (own chunk member))) table

def IndexedUnder (accountId chunkId : RowId) (vectors : List ChunkVector) : Prop :=
  (∃ vector ∈ vectors, vector.id = chunkId) ∧
    ∀ vector ∈ vectors, vector.id = chunkId → vector.accountId = accountId

theorem indexChunk_indexes (accountId : RowId) (chunk : TranscriptChunk) :
    IndexedUnder accountId chunk.id (indexChunk job accountId state chunk).vectors := by
  refine ⟨⟨_, mem_upsertVector.mpr (.inr rfl), rfl⟩, fun vector member same => ?_⟩
  rcases mem_upsertVector.mp member with ⟨_, other⟩ | rfl
  · exact absurd same other
  · rfl

theorem indexChunk_keeps_indexed {accountId chunkId : RowId} {chunk : TranscriptChunk}
    (indexed : IndexedUnder accountId chunkId state.vectors) :
    IndexedUnder accountId chunkId (indexChunk job accountId state chunk).vectors := by
  by_cases same : chunk.id = chunkId
  · exact same ▸ indexChunk_indexes accountId chunk
  · obtain ⟨⟨vector, member, named⟩, under⟩ := indexed
    refine ⟨⟨vector, mem_upsertVector.mpr (.inl ⟨member, fun isNew => same ?_⟩), named⟩,
      fun row inRows isRow => ?_⟩
    · exact isNew.symm.trans named
    · rcases mem_upsertVector.mp inRows with ⟨old, _⟩ | rfl
      · exact under row old isRow
      · exact absurd isRow same

theorem indexChunks_indexed {accountId : RowId} {chunks : List TranscriptChunk}
    {chunk : TranscriptChunk} (member : chunk ∈ chunks) :
    IndexedUnder accountId chunk.id (indexChunks job accountId state chunks).vectors := by
  have stays (rest : List TranscriptChunk) : ∀ state : SearchState,
      IndexedUnder accountId chunk.id state.vectors →
        IndexedUnder accountId chunk.id (indexChunks job accountId state rest).vectors := by
    induction rest with
    | nil => exact fun _ indexed => indexed
    | cons next rest ih => exact fun state indexed => ih _ (indexChunk_keeps_indexed indexed)
  induction chunks generalizing state with
  | nil => cases member
  | cons next rest ih =>
    rcases List.mem_cons.mp member with rfl | inRest
    · exact stays rest _ (indexChunk_indexes accountId chunk)
    · exact ih inRest

theorem indexChunks_rows (accountId : RowId) (chunks : List TranscriptChunk) :
    chunkRows (indexChunks job accountId state chunks) = chunkRows state := by
  induction chunks generalizing state with
  | nil => rfl
  | cons chunk rest ih =>
    exact ih.trans (chunkRows_update (fun _ => rfl) fun _ => rfl)

theorem ownChunk_row {callId : RowId} {chunk : TranscriptChunk}
    (own : chunk ∈ state.chunks.filter (·.callId == callId)) :
    (chunk.id, callId) ∈ chunkRows state := by
  obtain ⟨member, ofCall⟩ := List.mem_filter.mp own
  exact mem_chunkRows.mpr ⟨chunk, member, rfl, by simpa using ofCall⟩

theorem indexCall_processes (table : ChunkTable state) (stop : Option ProcessStop) :
    Processes job state (indexCall state job stop).1 := by
  unfold indexCall
  dsimp only
  split
  · next account =>
      exact indexChunks_processes table account fun _ taken =>
        ownChunk_row (List.mem_of_mem_take taken)
  · next account _ => exact indexChunks_processes table account fun _ => ownChunk_row
  · exact .refl table

theorem indexCall_indexed {accountId : RowId} {stop : Option ProcessStop}
    (account : job.accountId = some accountId)
    (completed : (indexCall state job stop).2 = .completed) :
    ∀ row ∈ chunkRows (indexCall state job stop).1, row.2 = job.callId →
      IndexedUnder accountId row.1 (indexCall state job stop).1.vectors := by
  unfold indexCall at completed ⊢
  dsimp only at completed ⊢
  split at completed
  · cases completed
  · next job accountId' _ isAccount _ =>
      intro row member ofCall
      rw [isAccount] at account
      obtain rfl := Option.some.inj account
      rw [indexChunks_rows] at member
      obtain ⟨chunk, inChunks, id, callId⟩ := mem_chunkRows.mp member
      rw [← id]
      exact indexChunks_indexed (List.mem_filter.mpr ⟨inChunks, by simp [callId, ofCall]⟩)
  · next isAccount => exact absurd (isAccount.symm.trans account) (by simp)

variable (maskPII : Text → Text)

theorem processCall_processes (table : ChunkTable state) (met : ProcessRun) :
    Processes job state (processCall maskPII state job met).1 := by
  unfold processCall
  split
  · exact .refl table
  · next fullText _ =>
      dsimp only
      have stored : Processes job state
          (storeChunks maskPII job.callId state (chunkTranscript fullText)) :=
        storeChunks_processes maskPII table _
      split
      · exact storeChunks_processes maskPII table _
      · exact stored
      · have tagged := stored.trans (tagCallTranscript_processes stored.table met.labels)
        exact tagged.trans (indexCall_processes tagged.table _)

theorem processCall_indexed {accountId : RowId} {met : ProcessRun}
    (account : job.accountId = some accountId)
    (completed : (processCall maskPII state job met).2 = .completed) :
    ∀ row ∈ chunkRows (processCall maskPII state job met).1, row.2 = job.callId →
      IndexedUnder accountId row.1 (processCall maskPII state job met).1.vectors := by
  unfold processCall at completed ⊢
  split at completed
  · cases completed
  · dsimp only at completed ⊢
    split at completed
    · cases completed
    · cases completed
    · exact indexCall_indexed account completed

def stopsEarly (state : SearchState) (callId : RowId) (met : ProcessRun) : Bool :=
  (findTranscript state.db callId).isNone ||
    match met.stop with
    | some (.storing _) | some .tagging => true
    | some (.indexing _) | none => false

theorem processCall_early {met : ProcessRun} (early : stopsEarly state job.callId met = true) :
    (processCall maskPII state job met).1.vectors = state.vectors ∧
      (processCall maskPII state job met).2 ≠ .completed := by
  unfold processCall
  split
  · exact ⟨rfl, fun outcome => (by cases outcome)⟩
  · next found =>
      dsimp only
      split
      · exact ⟨storeChunks_vectors maskPII _ _ _, fun outcome => (by cases outcome)⟩
      · exact ⟨storeChunks_vectors maskPII _ _ _, fun outcome => (by cases outcome)⟩
      · next notStoring notTagging =>
          cases stop : met.stop with
          | none => simp [stopsEarly, found, stop] at early
          | some stop' =>
            cases stop' with
            | storing count => exact absurd stop (notStoring count)
            | tagging => exact absurd stop notTagging
            | indexing count => simp [stopsEarly, found, stop] at early

theorem processCall_ends {met : ProcessRun} (transcript : (findTranscript state.db job.callId).isSome) :
    (processCall maskPII state job met).2 ≠ .skipped ∧
      (met.stop = none → (processCall maskPII state job met).2 = .completed) := by
  obtain ⟨fullText, found⟩ := Option.isSome_iff_exists.mp transcript
  unfold processCall
  rw [found]
  dsimp only
  split
  · next stop => exact ⟨fun outcome => (by cases outcome), fun none => (by simp [stop] at none)⟩
  · next stop => exact ⟨fun outcome => (by cases outcome), fun none => (by simp [stop] at none)⟩
  · unfold indexCall
    dsimp only
    constructor
    · split <;> exact fun outcome => by cases outcome
    · intro none
      rw [none]
      split
      · next stop => cases stop
      · rfl
      · rfl

end

end StoryEngine.Processing
