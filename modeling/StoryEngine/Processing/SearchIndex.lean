import StoryEngine.Processing.Arrivals
import StoryEngine.Processing.Chunks

namespace StoryEngine.Processing

open Accounts Data Ingestion Resolution Schema Statements

/-! # The search index

`processCall` cuts the transcript of a call into chunks, tags them and indexes them under
the account of its job; `RAGEngine.query` searches the vectors of an account.
-/

inductive FunnelStage where
  | tofu
  | mofu
  | bofu
  | postSale
  | internal
  | vertical
deriving DecidableEq

def FunnelStage.name : FunnelStage → Text
  | tofu => ("TOFU" : String).toList
  | mofu => ("MOFU" : String).toList
  | bofu => ("BOFU" : String).toList
  | postSale => ("POST_SALE" : String).toList
  | internal => ("INTERNAL" : String).toList
  | vertical => ("VERTICAL" : String).toList

/-- `callId` is the call of the transcript. -/
structure TranscriptChunk where
  id : RowId
  callId : RowId
  chunkIndex : Nat
  text : Text
  speaker : Option Text := none
  embeddingId : Option RowId := none
deriving DecidableEq

structure ChunkTag where
  chunkId : RowId
  funnelStage : FunnelStage
  topic : Text
deriving DecidableEq

/-- The vector `chunk_<id>` with its metadata; `embedded` is the text whose embedding it
is. -/
structure ChunkVector where
  id : RowId
  embedded : Text
  chunkId : RowId
  accountId : RowId
  organizationId : RowId
  callId : RowId
  funnelStages : List FunnelStage := []
  topics : List Text := []

structure RagQuery where
  query : Text
  accountId : RowId
  organizationId : RowId
  topK : Option Nat := none
  funnelStages : List Text := []

structure RagQueryKey where
  organizationId : RowId
  accountId : RowId
  topK : Nat
  query : Text
  funnelStages : Text
deriving DecidableEq

structure RagSource where
  chunkId : RowId
  callId : RowId
  callTitle : Option Text
  occurredAt : Date
  text : Text
  relevanceScore : ℚ
deriving DecidableEq

/-- The tables, the queue, the vector index and the cache of the answers.  `processed`
has the calls whose last run of `processCall` got to its end. -/
structure SearchState where
  db : Database
  chunks : List TranscriptChunk := []
  nextChunkId : RowId := 1
  tags : List ChunkTag := []
  vectors : List ChunkVector := []
  queue : List CallJob := []
  nextJob : Nat := 0
  processed : List RowId := []
  queryCache : List (RagQueryKey × List RagSource) := []

section

variable (maskPII : Text → Text)

/-- `transcriptChunk.upsert` under the call and the index. -/
def upsertChunk (callId : RowId) (state : SearchState) (raw : RawChunk) : SearchState :=
  let same (row : TranscriptChunk) : Bool := row.callId == callId && row.chunkIndex == raw.index
  if state.chunks.any same then
    { state with
      chunks := updateWhere state.chunks same fun row => { row with text := maskPII raw.text } }
  else
    { state with
      nextChunkId := state.nextChunkId + 1
      chunks := state.chunks ++ [{
        id := state.nextChunkId
        callId
        chunkIndex := raw.index
        text := maskPII raw.text }] }

def storeChunks (callId : RowId) (state : SearchState) (chunks : List RawChunk) : SearchState :=
  chunks.foldl (upsertChunk maskPII callId) state

structure ChunkLabel where
  chunkIndex : Nat
  funnelStage : FunnelStage
  topic : Text
deriving DecidableEq

def upsertTag (callId : RowId) (state : SearchState) (label : ChunkLabel) : SearchState :=
  match state.chunks.find? fun chunk =>
      chunk.callId == callId && chunk.chunkIndex == label.chunkIndex with
  | none => state
  | some chunk =>
    let tag : ChunkTag := {
      chunkId := chunk.id, funnelStage := label.funnelStage, topic := label.topic }
    if tag ∈ state.tags then state else { state with tags := state.tags ++ [tag] }

def tagCallTranscript (callId : RowId) (state : SearchState) (labels : List ChunkLabel) :
    SearchState :=
  labels.foldl (upsertTag callId) state

def chunkVector (job : ProcessCallJob) (accountId : RowId) (tags : List ChunkTag)
    (chunk : TranscriptChunk) : ChunkVector :=
  let own := tags.filter (·.chunkId == chunk.id)
  { id := chunk.id
    embedded := chunk.text
    chunkId := chunk.id
    accountId
    organizationId := job.organizationId
    callId := job.callId
    funnelStages := (own.map (·.funnelStage)).eraseDups
    topics := own.map (·.topic) }

/-- `upsert` replaces the vector with the id. -/
def upsertVector (vectors : List ChunkVector) (vector : ChunkVector) : List ChunkVector :=
  vectors.filter (·.id != vector.id) ++ [vector]

def indexChunk (job : ProcessCallJob) (accountId : RowId) (state : SearchState)
    (chunk : TranscriptChunk) : SearchState :=
  { state with
    vectors := upsertVector state.vectors (chunkVector job accountId state.tags chunk)
    chunks := updateWhere state.chunks (·.id == chunk.id) fun row =>
      { row with embeddingId := some chunk.id } }

def indexChunks (job : ProcessCallJob) (accountId : RowId) (state : SearchState)
    (chunks : List TranscriptChunk) : SearchState :=
  chunks.foldl (indexChunk job accountId) state

/-- Where a run of `processCall` throws: after some chunks are stored, when the client is
resolved or the chunks are tagged, or after some chunks are indexed. -/
inductive ProcessStop where
  | storing (chunks : Nat)
  | tagging
  | indexing (chunks : Nat)
deriving DecidableEq

/-- What a run of `processCall` meets. -/
structure ProcessRun where
  stop : Option ProcessStop := none
  labels : List ChunkLabel := []
deriving DecidableEq

inductive ProcessOutcome where
  | skipped
  | completed
  | failed
deriving DecidableEq

def indexCall (state : SearchState) (job : ProcessCallJob) (stop : Option ProcessStop) :
    SearchState × ProcessOutcome :=
  let own := state.chunks.filter (·.callId == job.callId)
  match job.accountId, stop with
  | some accountId, some (.indexing count) =>
    (indexChunks job accountId state (own.take count), .failed)
  | some accountId, _ => (indexChunks job accountId state own, .completed)
  | none, _ => (state, .completed)

/-- The extraction of quotes at the end touches neither chunks nor vectors, and its errors
are caught. -/
def processCall (state : SearchState) (job : ProcessCallJob) (met : ProcessRun) :
    SearchState × ProcessOutcome :=
  match findTranscript state.db job.callId with
  | none => (state, .skipped)
  | some fullText =>
    let rawChunks := chunkTranscript fullText
    match met.stop with
    | some (.storing count) =>
      (storeChunks maskPII job.callId state (rawChunks.take count), .failed)
    | some .tagging => (storeChunks maskPII job.callId state rawChunks, .failed)
    | stop =>
      indexCall (tagCallTranscript job.callId (storeChunks maskPII job.callId state rawChunks)
        met.labels) job stop

def endJob (job : CallJob) (ran : SearchState) (outcome : ProcessOutcome) : SearchState :=
  let others := ran.processed.filter (· != job.data.callId)
  { ran with
    queue := changeJob ran.queue job.id fun job => job.started.ended (outcome != .failed)
    processed := if outcome = .completed then others ++ [job.data.callId] else others }

def runJob (state : SearchState) (jobId : JobId) (met : ProcessRun) : SearchState :=
  match (findJob state.queue jobId).filter (·.state == .waiting) with
  | none => state
  | some job =>
    let ran := processCall maskPII state job.data met
    endJob job ran.1 ran.2

end

def normalizeQueryKey (cases : CaseMapping) (query : Text) : Text :=
  Text.join [' '] (Text.splitSpaces (cases.toLowerCase (Text.trim query)))

def codeUnits (text : Text) : List Nat :=
  text.flatMap fun char =>
    if char.toNat < 0x10000 then [char.toNat]
    else [0xD800 + (char.toNat - 0x10000) / 0x400, 0xDC00 + (char.toNat - 0x10000) % 0x400]

def normalizeArrayKey (values : List Text) : Text :=
  Text.join ['|'] <|
    ((values.map Text.trim).filter (!·.isEmpty)).insertionSort fun first second =>
      @LE.le (List Nat) List.instLE (codeUnits first) (codeUnits second)

def buildRagQueryCacheKey (cases : CaseMapping) (input : RagQuery) (topK : Nat) : RagQueryKey where
  organizationId := input.organizationId
  accountId := input.accountId
  topK
  query := normalizeQueryKey cases input.query
  funnelStages := normalizeArrayKey input.funnelStages

def matchesFilter (input : RagQuery) (vector : ChunkVector) : Bool :=
  vector.accountId == input.accountId && vector.organizationId == input.organizationId &&
    (input.funnelStages.isEmpty ||
      vector.funnelStages.any (input.funnelStages.contains ·.name))

/-- The index answers with vectors that match the filter; `found` are the ids and scores
that it comes up with. -/
def searchVectors (vectors : List ChunkVector) (input : RagQuery) (topK : Nat)
    (found : List (RowId × ℚ)) : List (ChunkVector × ℚ) :=
  (found.filterMap fun (id, score) =>
    ((vectors.filter (matchesFilter input)).find? (·.id == id)).map fun vector =>
      (vector, score)).take topK

def hydrateSource (state : SearchState) (found : ChunkVector × ℚ) : Option RagSource := do
  let chunk ← state.chunks.find? (·.id == found.1.chunkId)
  let call ← state.db.calls.find? (·.id == chunk.callId)
  return {
    chunkId := chunk.id
    callId := call.id
    callTitle := call.title
    occurredAt := call.occurredAt
    text := chunk.text
    relevanceScore := found.2 }

def hydrateSources (state : SearchState) (found : List (ChunkVector × ℚ)) : List RagSource :=
  found.filterMap (hydrateSource state)

def filterGroundedSources (sources : List RagSource) (minRelevanceScore : ℚ) : List RagSource :=
  sources.filter (min 1 (max 0 minRelevanceScore) ≤ ·.relevanceScore)

/-- The sources of the answer to a query that the index comes up with `found` for; answers
are cached, those without a source too. -/
def ragQuery (cases : CaseMapping) (minRelevanceScore : ℚ) (state : SearchState)
    (input : RagQuery) (found : List (RowId × ℚ)) : List RagSource × SearchState :=
  let topK := input.topK.getD 8
  let key := buildRagQueryCacheKey cases input topK
  match state.queryCache.find? (·.1 == key) with
  | some entry => (entry.2, state)
  | none =>
    let sources := filterGroundedSources
      (hydrateSources state (searchVectors state.vectors input topK found)) minRelevanceScore
    (sources, { state with queryCache := (key, sources) :: state.queryCache })

def forgetAnswer (state : SearchState) (key : RagQueryKey) : SearchState :=
  { state with queryCache := state.queryCache.filter (·.1 != key) }

end StoryEngine.Processing
