import StoryEngine.Governance.LegalHold
import StoryEngine.Processing.AccountSearch

namespace StoryEngine.Governance

open Accounts Data Ingestion Processing Resolution Schema

/-! # Retention sweeps over the search index

Before the sweep deletes the expired calls of an organization, it prunes the vectors of their
chunks; chunks and tags then go with their calls.
-/

/-- The chunks that the retention names, oldest first, as the rows stand in the order in
which they were created. -/
def expiredChunks (state : SearchState) (organizationId : RowId) (olderThan : Date) :
    List TranscriptChunk :=
  state.chunks.filter fun chunk =>
    chunk.embeddingId.isSome && state.db.calls.any fun call =>
      call.id == chunk.callId && call.organizationId == organizationId &&
        decide (call.occurredAt < olderThan)

def pruneCandidates (limit : Nat) (state : SearchState) (organizationId : RowId)
    (olderThan : Date) : List TranscriptChunk :=
  (expiredChunks state organizationId olderThan).take (max 1 limit)

def vectorIds (candidates : List TranscriptChunk) : List RowId :=
  candidates.filterMap (·.embeddingId)

def deleteVectors (state : SearchState) (ids : List RowId) : SearchState :=
  { state with vectors := state.vectors.filter fun vector => !ids.contains vector.id }

def deleteVectorsForCandidates (state : SearchState) (candidates : List TranscriptChunk) :
    SearchState :=
  let pruned := deleteVectors state (vectorIds candidates)
  { pruned with
    chunks := updateWhere state.chunks (fun chunk => (candidates.map (·.id)).contains chunk.id)
      fun chunk => { chunk with embeddingId := none } }

def pruneRagVectors (limit : Nat) (state : SearchState) (organizationId : RowId)
    (olderThan : Date) : SearchState :=
  deleteVectorsForCandidates state (pruneCandidates limit state organizationId olderThan)

def deleteExpiredRows (state : SearchState) (organizationId : RowId) (cutoff : Date) :
    SearchState :=
  let gone := fun callId => state.db.calls.any fun call =>
    call.id == callId && call.organizationId == organizationId &&
      decide (call.occurredAt < cutoff)
  { state with
    db := deleteExpired state.db organizationId cutoff
    chunks := deleteWhere state.chunks fun chunk => gone chunk.callId
    tags := deleteWhere state.tags fun tag =>
      state.chunks.any fun chunk => chunk.id == tag.chunkId && gone chunk.callId }

/-- `times` has the moment at which the sweep comes to an organization. -/
def cutoffOf (db : Database) (times : RowId → Date) (organizationId : RowId) : Date :=
  retentionCutoff (getDataGovernancePolicy db organizationId) (times organizationId)

def sweepOrganization (limit : Nat) (times : RowId → Date) (state : SearchState)
    (organizationId : RowId) : SearchState :=
  if isLegalHoldEnabled state.db organizationId then state
  else
    let cutoff := cutoffOf state.db times organizationId
    deleteExpiredRows (pruneRagVectors limit state organizationId cutoff) organizationId cutoff

def sweptOrganizations (db : Database) : List RowId := db.orgSettings.map (·.organizationId)

def runDataRetentionSweep (limit : Nat) (times : RowId → Date) (state : SearchState) :
    SearchState :=
  (sweptOrganizations state.db).foldl (sweepOrganization limit times) state

/-- Where a sweep throws at an organization: after some batches of vectors, or in the
transaction. -/
inductive SweepStop where
  | pruning (batches : Nat)
  | deleting

def stoppedAt (limit : Nat) (times : RowId → Date) (state : SearchState) (organizationId : RowId)
    (stop : SweepStop) : SearchState :=
  if isLegalHoldEnabled state.db organizationId then state
  else
    let cutoff := cutoffOf state.db times organizationId
    match stop with
    | .pruning batches =>
      deleteVectors state
        ((vectorIds (pruneCandidates limit state organizationId cutoff)).take (100 * batches))
    | .deleting => pruneRagVectors limit state organizationId cutoff

def brokenSweep (limit : Nat) (times : RowId → Date) (state : SearchState) (organizations : Nat)
    (stop : SweepStop) : SearchState :=
  let swept := ((sweptOrganizations state.db).take organizations).foldl
    (sweepOrganization limit times) state
  match (sweptOrganizations state.db)[organizations]? with
  | none => swept
  | some organizationId => stoppedAt limit times swept organizationId stop

/-- `indexUnrecorded` is the indexing of a chunk that fails after the vector is stored. -/
inductive RetentionAction where
  | sweep (times : RowId → Date)
  | brokenSweep (times : RowId → Date) (organizations : Nat) (stop : SweepStop)
  | search (action : SearchAction)
  | indexUnrecorded (job : ProcessCallJob) (accountId chunkId : RowId)
  | setPolicy (organizationId : RowId) (value : Json)

def indexUnrecorded (state : SearchState) (job : ProcessCallJob) (accountId chunkId : RowId) :
    SearchState :=
  match state.chunks.find? (·.id == chunkId) with
  | none => state
  | some chunk =>
    { state with
      vectors := upsertVector state.vectors (chunkVector job accountId state.tags chunk) }

def retentionStep (maskPII : Text → Text) (resolver : Resolver) (minRelevanceScore : ℚ)
    (limit : Nat) (state : SearchState) : RetentionAction → SearchState
  | .sweep times => runDataRetentionSweep limit times state
  | .brokenSweep times organizations stop => brokenSweep limit times state organizations stop
  | .search action => searchStep maskPII resolver minRelevanceScore state action
  | .indexUnrecorded job accountId chunkId => indexUnrecorded state job accountId chunkId
  | .setPolicy organizationId value =>
    { state with db := setPolicyColumn state.db organizationId value }

/-! # Vectors of deleted calls

A sweep prunes a limited number of vectors, but it deletes all expired calls; with the chunks
of a call go the only rows that name its vectors.
-/

def LeavesNoVectors (before after : SearchState) : Prop :=
  ∀ vector ∈ after.vectors, ∀ chunk ∈ before.chunks, chunk.id = vector.chunkId →
    ∀ call ∈ before.db.calls, call.id = chunk.callId → call.id ∈ after.db.calls.map (·.id)

def due (db : Database) (times : RowId → Date) (call : Call) : Bool :=
  !isLegalHoldEnabled db call.organizationId &&
    decide (call.occurredAt < cutoffOf db times call.organizationId)

/-- Every vector for a chunk of an expired call is named by the row of the chunk, and that
chunk is among the oldest that one pruning takes. -/
def VectorsSelected (limit : Nat) (times : RowId → Date) (state : SearchState) : Prop :=
  ∀ vector ∈ state.vectors, ∀ chunk ∈ state.chunks, chunk.id = vector.chunkId →
    ∀ call ∈ state.db.calls, call.id = chunk.callId →
      call.organizationId ∈ sweptOrganizations state.db → due state.db times call = true →
        chunk ∈ pruneCandidates limit state call.organizationId
          (cutoffOf state.db times call.organizationId)

/-- Ids are keys, a row names its own vector, and a vector its own chunk. -/
structure IndexKeys (state : SearchState) : Prop where
  calls : CallTable state.db
  distinct : (state.chunks.map (·.id)).Nodup
  fresh : ∀ chunk ∈ state.chunks, chunk.id < state.nextChunkId
  recorded : ∀ chunk ∈ state.chunks, ∀ vectorId ∈ chunk.embeddingId, vectorId = chunk.id
  named : ∀ vector ∈ state.vectors, vector.id = vector.chunkId

section

variable {limit : Nat} {times : RowId → Date} {before state : SearchState}
  {organizationId : RowId} {done : List RowId}

def sweptCall (db : Database) (times : RowId → Date) (done : List RowId) (call : Call) : Bool :=
  done.contains call.organizationId && due db times call

def sweptChunk (db : Database) (times : RowId → Date) (done : List RowId)
    (chunk : TranscriptChunk) : Bool :=
  db.calls.any fun call => call.id == chunk.callId && sweptCall db times done call

def candidates (limit : Nat) (times : RowId → Date) (state : SearchState)
    (organizationId : RowId) : List TranscriptChunk :=
  if isLegalHoldEnabled state.db organizationId then []
  else pruneCandidates limit state organizationId (cutoffOf state.db times organizationId)

/-- What is left after these organizations, in terms of the state before the sweep. -/
structure Swept (limit : Nat) (times : RowId → Date) (before : SearchState) (done : List RowId)
    (state : SearchState) : Prop where
  settings : state.db.orgSettings = before.db.orgSettings
  calls : state.db.calls = before.db.calls.filter fun call => !sweptCall before.db times done call
  chunks : state.chunks = before.chunks.filter fun chunk => !sweptChunk before.db times done chunk
  vectors : state.vectors = before.vectors.filter fun vector =>
    !done.any fun organizationId =>
      (vectorIds (candidates limit times before organizationId)).contains vector.id
  nextIds : state.db.nextId = before.db.nextId ∧ state.nextChunkId = before.nextChunkId

variable {db : Database} {call : Call} {chunk : TranscriptChunk}

theorem cutoffOf_congr {other : Database} (same : db.orgSettings = other.orgSettings) :
    cutoffOf db times organizationId = cutoffOf other times organizationId := by
  simp only [cutoffOf, getDataGovernancePolicy, storedPolicy, same]

theorem due_own (own : call.organizationId = organizationId)
    (off : isLegalHoldEnabled db organizationId = false) :
    due db times call = decide (call.occurredAt < cutoffOf db times organizationId) := by
  rw [due, own, off, Bool.not_false, Bool.true_and]

theorem sweptCall_append :
    sweptCall db times (done ++ [organizationId]) call =
      (sweptCall db times done call ||
        (call.organizationId == organizationId && due db times call)) := by
  rw [sweptCall, List.contains_append, Bool.and_or_distrib_right, List.contains_cons,
    List.contains_nil, Bool.or_false, sweptCall]

theorem any_or {ρ : Type} (rows : List ρ) (first second : ρ → Bool) :
    (rows.any fun row => first row || second row) = (rows.any first || rows.any second) := by
  induction rows with
  | nil => rfl
  | cons row rest ih =>
    rw [List.any_cons, List.any_cons, List.any_cons, ih]
    cases first row <;> cases second row <;> simp

def dueChunk (db : Database) (times : RowId → Date) (organizationId : RowId)
    (chunk : TranscriptChunk) : Bool :=
  db.calls.any fun call =>
    call.id == chunk.callId && (call.organizationId == organizationId && due db times call)

theorem sweptChunk_append :
    sweptChunk db times (done ++ [organizationId]) chunk =
      (sweptChunk db times done chunk || dueChunk db times organizationId chunk) := by
  simp only [sweptChunk, dueChunk, sweptCall_append, Bool.and_or_distrib_left, any_or]

theorem any_expired
    (off : isLegalHoldEnabled db organizationId = false) :
    (db.calls.any fun call => call.id == chunk.callId && call.organizationId == organizationId &&
      decide (call.occurredAt < cutoffOf db times organizationId)) =
        dueChunk db times organizationId chunk := by
  apply List.any_congr rfl
  intro call
  by_cases own : call.organizationId = organizationId
  · rw [due_own own off, Bool.and_assoc]
  · simp [beq_false_of_ne own]

theorem dueChunk_held (held : isLegalHoldEnabled db organizationId = true)
    (chunk : TranscriptChunk) : dueChunk db times organizationId chunk = false := by
  apply List.any_eq_false.mpr
  intro call _ selected
  simp only [Bool.and_eq_true, beq_iff_eq, due] at selected
  rw [selected.2.1, held] at selected
  simp at selected

theorem candidates_eq (limit : Nat) (times : RowId → Date) (state : SearchState)
    (organizationId : RowId) :
    candidates limit times state organizationId =
      (state.chunks.filter fun chunk =>
        chunk.embeddingId.isSome && dueChunk state.db times organizationId chunk).take
          (max 1 limit) := by
  cases held : isLegalHoldEnabled state.db organizationId with
  | true => simp [candidates, held, dueChunk_held held]
  | false => simp [candidates, held, pruneCandidates, expiredChunks, any_expired held]

theorem mem_candidates
    (member : chunk ∈ candidates limit times state organizationId) :
    chunk ∈ state.chunks ∧ dueChunk state.db times organizationId chunk = true := by
  rw [candidates_eq] at member
  have selected := List.mem_filter.mp (List.mem_of_mem_take member)
  simp only [Bool.and_eq_true] at selected
  exact ⟨selected.1, selected.2.2⟩

theorem sweepOrganization_off (limit : Nat) (times : RowId → Date)
    (off : isLegalHoldEnabled state.db organizationId = false)
    (distinct : (state.chunks.map (·.id)).Nodup) :
    let swept := sweepOrganization limit times state organizationId
    swept.db.calls = state.db.calls.filter (fun call =>
      !(call.organizationId == organizationId && due state.db times call)) ∧
    swept.chunks = state.chunks.filter
      (fun chunk => !dueChunk state.db times organizationId chunk) ∧
    swept.vectors = state.vectors.filter (fun vector =>
      !(vectorIds (candidates limit times state organizationId)).contains vector.id) ∧
    swept.db.orgSettings = state.db.orgSettings ∧
    swept.db.nextId = state.db.nextId ∧ swept.nextChunkId = state.nextChunkId := by
  dsimp only
  have isSwept : sweepOrganization limit times state organizationId =
      deleteExpiredRows (pruneRagVectors limit state organizationId
        (cutoffOf state.db times organizationId)) organizationId
        (cutoffOf state.db times organizationId) := by
    rw [sweepOrganization, if_neg (by simp [off])]
  have isCandidates : candidates limit times state organizationId =
      pruneCandidates limit state organizationId (cutoffOf state.db times organizationId) := by
    rw [candidates, if_neg (by simp [off])]
  rw [isSwept, isCandidates]
  refine ⟨?_, ?_, rfl, rfl, rfl, rfl⟩
  · apply List.filter_congr
    intro call _
    by_cases own : call.organizationId = organizationId
    · rw [due_own own off]
    · simp [beq_false_of_ne own]
  · -- The rows that the pruning has written are among those that go.
    have chunks : (deleteExpiredRows (pruneRagVectors limit state organizationId
        (cutoffOf state.db times organizationId)) organizationId
        (cutoffOf state.db times organizationId)).chunks =
      (updateWhere state.chunks _ _).filter
        fun chunk => !dueChunk state.db times organizationId chunk :=
      List.filter_congr fun chunk _ => congrArg not (any_expired off)
    rw [chunks]
    refine (filter_updateWhere_kept fun _ => ?_).trans (updateWhere_none fun chunk member => ?_)
    · rfl
    obtain ⟨inChunks, kept⟩ := List.mem_filter.mp member
    apply Bool.eq_false_iff.mpr
    intro selected
    obtain ⟨candidate, inCandidates, sameId⟩ := List.mem_map.mp (List.contains_iff_mem.mp selected)
    rw [← isCandidates] at inCandidates
    obtain ⟨inState, isDue⟩ := mem_candidates inCandidates
    have same : candidate = chunk := eq_of_key distinct inState inChunks sameId
    rw [← same, isDue] at kept
    cases kept

namespace Swept

theorem start (limit : Nat) (times : RowId → Date) (state : SearchState) :
    Swept limit times state [] state := by
  have none (chunk : TranscriptChunk) : sweptChunk state.db times [] chunk = false := by
    apply List.any_eq_false.mpr
    intro call _ gone
    simp [sweptCall] at gone
  exact ⟨rfl, by simp [sweptCall], by simp [none], by simp, ⟨rfl, rfl⟩⟩

theorem due_eq (swept : Swept limit times before done state) (call : Call) :
    due state.db times call = due before.db times call := by
  rw [due, due, hold_congr swept.settings, cutoffOf_congr swept.settings]

theorem any_calls (swept : Swept limit times before done state) (selects : Call → Bool) :
    state.db.calls.any selects =
      before.db.calls.any fun call => !sweptCall before.db times done call && selects call := by
  rw [swept.calls, List.any_filter]

theorem dueChunk_eq (swept : Swept limit times before done state)
    (other : done.contains organizationId = false) (chunk : TranscriptChunk) :
    dueChunk state.db times organizationId chunk = dueChunk before.db times organizationId chunk := by
  rw [dueChunk, swept.any_calls, dueChunk]
  apply List.any_congr rfl
  intro call
  rw [swept.due_eq]
  by_cases own : call.organizationId = organizationId
  · rw [sweptCall, own, other, Bool.false_and, Bool.not_false, Bool.true_and]
  · simp [beq_false_of_ne own]

theorem dueChunk_done (swept : Swept limit times before done state)
    (again : done.contains organizationId = true) (chunk : TranscriptChunk) :
    dueChunk state.db times organizationId chunk = false := by
  rw [dueChunk, swept.any_calls]
  apply List.any_eq_false.mpr
  intro call _ selected
  rw [swept.due_eq] at selected
  simp only [Bool.and_eq_true, beq_iff_eq, Bool.not_eq_true', sweptCall] at selected
  rw [selected.2.2.1, again, selected.2.2.2] at selected
  cases selected.1

variable {chunk : TranscriptChunk}

theorem not_sweptChunk (distinct : (before.db.calls.map (·.id)).Nodup)
    (other : done.contains organizationId = false)
    (isDue : dueChunk before.db times organizationId chunk = true) :
    sweptChunk before.db times done chunk = false := by
  obtain ⟨call, member, selected⟩ := List.any_eq_true.mp isDue
  simp only [Bool.and_eq_true, beq_iff_eq] at selected
  apply List.any_eq_false.mpr
  intro found inCalls gone
  simp only [Bool.and_eq_true, beq_iff_eq, sweptCall] at gone
  have same : found = call := eq_of_key distinct inCalls member (gone.1.trans selected.1.symm)
  rw [same, selected.2.1, other] at gone
  cases gone.2.1

theorem sweptChunk_again (again : done.contains organizationId = true)
    (isDue : dueChunk before.db times organizationId chunk = true) :
    sweptChunk before.db times done chunk = true := by
  obtain ⟨call, member, selected⟩ := List.any_eq_true.mp isDue
  simp only [Bool.and_eq_true, beq_iff_eq] at selected
  apply List.any_eq_true.mpr
  refine ⟨call, member, ?_⟩
  rw [sweptCall, selected.2.1, again, selected.2.2, selected.1, beq_self_eq_true]
  rfl

theorem candidates_other (swept : Swept limit times before done state)
    (distinct : (before.db.calls.map (·.id)).Nodup)
    (other : done.contains organizationId = false) :
    candidates limit times state organizationId = candidates limit times before organizationId := by
  rw [candidates_eq, candidates_eq, swept.chunks, List.filter_filter]
  congr 1
  apply List.filter_congr
  intro chunk _
  rw [swept.dueChunk_eq other]
  cases isDue : dueChunk before.db times organizationId chunk with
  | false => simp
  | true => rw [not_sweptChunk distinct other isDue, Bool.not_false, Bool.and_true]

theorem candidates_done (swept : Swept limit times before done state)
    (again : done.contains organizationId = true) :
    candidates limit times state organizationId = [] := by
  simp [candidates_eq, swept.dueChunk_done again]

theorem next (swept : Swept limit times before done state)
    (calls : (before.db.calls.map (·.id)).Nodup) (chunks : (before.chunks.map (·.id)).Nodup) :
    Swept limit times before (done ++ [organizationId])
      (sweepOrganization limit times state organizationId) := by
  cases held : isLegalHoldEnabled state.db organizationId with
  | true =>
    have before_held : isLegalHoldEnabled before.db organizationId = true :=
      (hold_congr swept.settings).symm.trans held
    have notDue (call : Call) :
        (call.organizationId == organizationId && due before.db times call) = false := by
      by_cases own : call.organizationId = organizationId
      · simp [due, own, before_held]
      · simp [beq_false_of_ne own]
    rw [sweepOrganization, if_pos held]
    constructor
    · exact swept.settings
    · simp only [sweptCall_append, notDue, Bool.or_false]
      exact swept.calls
    · simp only [sweptChunk_append, dueChunk_held before_held, Bool.or_false]
      exact swept.chunks
    · simp only [List.any_append, List.any_cons, List.any_nil, candidates, before_held, if_true,
        vectorIds, List.filterMap_nil, List.contains_nil, Bool.or_false]
      exact swept.vectors
    · exact swept.nextIds
  | false =>
    have distinct : (state.chunks.map (·.id)).Nodup := by
      rw [swept.chunks]
      exact chunks.sublist (List.filter_sublist.map _)
    obtain ⟨isCalls, isChunks, isVectors, settings, nextId, nextChunkId⟩ :=
      sweepOrganization_off limit times held distinct
    constructor
    · exact settings.trans swept.settings
    · rw [isCalls, swept.calls, List.filter_filter]
      apply List.filter_congr
      intro call _
      rw [sweptCall_append, swept.due_eq, Bool.not_or, Bool.and_comm]
    · rw [isChunks, swept.chunks, List.filter_filter]
      apply List.filter_congr
      intro chunk _
      rw [sweptChunk_append, Bool.not_or, Bool.and_comm]
      cases again : done.contains organizationId with
      | false => rw [swept.dueChunk_eq again]
      | true =>
        rw [swept.dueChunk_done again]
        cases isDue : dueChunk before.db times organizationId chunk with
        | false => rfl
        | true =>
          rw [sweptChunk_again again isDue]
          rfl
    · rw [isVectors, swept.vectors, List.filter_filter]
      apply List.filter_congr
      intro vector _
      rw [List.any_append, List.any_cons, List.any_nil, Bool.or_false, Bool.not_or, Bool.and_comm]
      cases again : done.contains organizationId with
      | false => rw [swept.candidates_other calls again]
      | true =>
        rw [swept.candidates_done again]
        cases named : (vectorIds (candidates limit times before organizationId)).contains
            vector.id with
        | false => rfl
        | true =>
          have pruned : (done.any fun organizationId =>
              (vectorIds (candidates limit times before organizationId)).contains
                vector.id) = true :=
            List.any_eq_true.mpr ⟨organizationId, List.contains_iff_mem.mp again, named⟩
          rw [pruned]
          rfl
    · exact ⟨nextId.trans swept.nextIds.1, nextChunkId.trans swept.nextIds.2⟩

end Swept

theorem swept_foldl (limit : Nat) (times : RowId → Date) (keys : IndexKeys before)
    (organizations : List RowId) :
    Swept limit times before organizations
      (organizations.foldl (sweepOrganization limit times) before) := by
  suffices general : ∀ (rest done : List RowId) (state : SearchState),
      Swept limit times before done state →
        Swept limit times before (done ++ rest)
          (rest.foldl (sweepOrganization limit times) state) from
    general organizations [] before (Swept.start limit times before)
  intro rest
  induction rest with
  | nil => exact fun done state swept => (List.append_nil done).symm ▸ swept
  | cons organizationId rest ih =>
    intro done state swept
    have following := ih (done ++ [organizationId]) _
      (swept.next keys.calls.distinct keys.distinct)
    rwa [List.append_assoc, List.singleton_append] at following

theorem swept_run (limit : Nat) (times : RowId → Date) (keys : IndexKeys before) :
    Swept limit times before (sweptOrganizations before.db)
      (runDataRetentionSweep limit times before) :=
  swept_foldl limit times keys _

theorem mem_sweptCalls (keys : IndexKeys before) (member : call ∈ before.db.calls) :
    call.id ∈ (runDataRetentionSweep limit times before).db.calls.map (·.id) ↔
      sweptCall before.db times (sweptOrganizations before.db) call = false := by
  rw [(swept_run limit times keys).calls]
  constructor
  · intro kept
    obtain ⟨other, inOthers, sameId⟩ := List.mem_map.mp kept
    obtain ⟨inCalls, notSwept⟩ := List.mem_filter.mp inOthers
    rw [← eq_of_key keys.calls.distinct inCalls member sameId]
    simpa using notSwept
  · intro notSwept
    exact List.mem_map_of_mem (List.mem_filter.mpr ⟨member, by rw [notSwept]; rfl⟩)

theorem pruned_iff (limit : Nat) (times : RowId → Date) (keys : IndexKeys before)
    (inChunks : chunk ∈ before.chunks) (inCalls : call ∈ before.db.calls)
    (owns : call.id = chunk.callId) (organizations : List RowId)
    (listed : call.organizationId ∈ organizations) :
    (organizations.any fun organizationId =>
      (vectorIds (candidates limit times before organizationId)).contains chunk.id) = true ↔
        chunk ∈ candidates limit times before call.organizationId := by
  have recorded (organizationId : RowId) :
      (vectorIds (candidates limit times before organizationId)).contains chunk.id = true ↔
        chunk ∈ candidates limit times before organizationId := by
    rw [List.contains_iff_mem, vectorIds, List.mem_filterMap]
    constructor
    · rintro ⟨candidate, member, names⟩
      have inState := (mem_candidates member).1
      have same : candidate = chunk := eq_of_key keys.distinct inState inChunks
        (keys.recorded candidate inState chunk.id names).symm
      exact same ▸ member
    · intro member
      rw [candidates_eq] at member
      have selected := (List.mem_filter.mp (List.mem_of_mem_take member)).2
      simp only [Bool.and_eq_true] at selected
      obtain ⟨vectorId, names⟩ := Option.isSome_iff_exists.mp selected.1
      refine ⟨chunk, by rw [candidates_eq]; exact member, ?_⟩
      rw [names, keys.recorded chunk inChunks vectorId names]
  constructor
  · intro named
    obtain ⟨organizationId, _, names⟩ := List.any_eq_true.mp named
    have member := (recorded organizationId).mp names
    obtain ⟨found, inFound, selected⟩ := List.any_eq_true.mp (mem_candidates member).2
    simp only [Bool.and_eq_true, beq_iff_eq] at selected
    have same : found = call :=
      eq_of_key keys.calls.distinct inFound inCalls (selected.1.trans owns.symm)
    rw [← same, selected.2.1]
    exact member
  · intro member
    exact List.any_eq_true.mpr ⟨call.organizationId, listed, (recorded _).mpr member⟩

theorem leavesNoVectors_iff (keys : IndexKeys before) :
    LeavesNoVectors before (runDataRetentionSweep limit times before) ↔
      VectorsSelected limit times before := by
  have vectors := (swept_run limit times keys).vectors
  constructor
  · intro leavesNone vector inVectors chunk inChunks ofChunk call inCalls owns listed isDue
    have off : isLegalHoldEnabled before.db call.organizationId = false := by
      simp only [due, Bool.and_eq_true, Bool.not_eq_true'] at isDue
      exact isDue.1
    have isCandidate : chunk ∈ candidates limit times before call.organizationId := by
      rw [← pruned_iff limit times keys inChunks inCalls owns _ listed]
      by_contra notPruned
      have named := keys.named vector inVectors
      have stays : vector ∈ (runDataRetentionSweep limit times before).vectors := by
        rw [vectors]
        refine List.mem_filter.mpr ⟨inVectors, ?_⟩
        rw [named, ← ofChunk, Bool.eq_false_iff.mpr notPruned]
        rfl
      have kept := leavesNone vector stays chunk inChunks ofChunk call inCalls owns
      rw [mem_sweptCalls keys inCalls, sweptCall, List.contains_iff_mem.mpr listed, isDue] at kept
      cases kept
    rwa [candidates, if_neg (by simp [off])] at isCandidate
  · intro selected vector inSwept chunk inChunks ofChunk call inCalls owns
    rw [vectors] at inSwept
    obtain ⟨inVectors, notPruned⟩ := List.mem_filter.mp inSwept
    rw [mem_sweptCalls keys inCalls]
    apply Bool.eq_false_iff.mpr
    intro isSwept
    simp only [sweptCall, Bool.and_eq_true, List.contains_iff_mem] at isSwept
    obtain ⟨listed, isDue⟩ := isSwept
    have off : isLegalHoldEnabled before.db call.organizationId = false := by
      simp only [due, Bool.and_eq_true, Bool.not_eq_true'] at isDue
      exact isDue.1
    have isCandidate := selected vector inVectors chunk inChunks ofChunk call inCalls owns listed
      isDue
    have pruned := (pruned_iff limit times keys inChunks inCalls owns _ listed).mpr (by rw [candidates, if_neg (by simp [off])]; exact isCandidate)
    rw [keys.named vector inVectors, ← ofChunk, pruned] at notPruned
    cases notPruned

end

namespace IndexKeys

section

variable {before after state : SearchState} {limit : Nat} {times : RowId → Date}

theorem fewer (keys : IndexKeys before) (calls : CallTable after.db)
    (distinct : (after.chunks.map (·.id)).Nodup)
    (chunks : ∀ chunk ∈ after.chunks, ∃ old ∈ before.chunks, old.id = chunk.id ∧
      (chunk.embeddingId = none ∨ chunk.embeddingId = old.embeddingId))
    (nextChunkId : after.nextChunkId = before.nextChunkId)
    (vectors : ∀ vector ∈ after.vectors, vector ∈ before.vectors) : IndexKeys after where
  calls := calls
  distinct := distinct
  fresh := by
    intro chunk member
    obtain ⟨old, inBefore, sameId, _⟩ := chunks chunk member
    rw [nextChunkId, ← sameId]
    exact keys.fresh old inBefore
  recorded := by
    intro chunk member vectorId names
    obtain ⟨old, inBefore, sameId, none | same⟩ := chunks chunk member
    · rw [none] at names
      cases names
    · rw [same] at names
      exact (keys.recorded old inBefore vectorId names).trans sameId
  named := fun vector member => keys.named vector (vectors vector member)

theorem same (keys : IndexKeys before) (calls : CallTable after.db)
    (chunks : after.chunks = before.chunks) (nextChunkId : after.nextChunkId = before.nextChunkId)
    (vectors : ∀ vector ∈ after.vectors, vector ∈ before.vectors) : IndexKeys after :=
  keys.fewer calls (chunks ▸ keys.distinct)
    (fun chunk member => ⟨chunk, chunks ▸ member, rfl, .inr rfl⟩) nextChunkId vectors

theorem swept {done : List RowId} (keys : IndexKeys before)
    (swept : Swept limit times before done state) : IndexKeys state := by
  have calls : CallTable state.db := by
    constructor
    · rw [swept.calls]
      exact keys.calls.distinct.sublist (List.filter_sublist.map _)
    · intro call member
      rw [swept.calls] at member
      rw [swept.nextIds.1]
      exact keys.calls.fresh call (List.mem_of_mem_filter member)
  apply keys.fewer calls
  · rw [swept.chunks]
    exact keys.distinct.sublist (List.filter_sublist.map _)
  · intro chunk member
    rw [swept.chunks] at member
    exact ⟨chunk, List.mem_of_mem_filter member, rfl, .inr rfl⟩
  · exact swept.nextIds.2
  · intro vector member
    rw [swept.vectors] at member
    exact List.mem_of_mem_filter member

theorem prune (keys : IndexKeys state) (organizationId : RowId) (olderThan : Date) :
    IndexKeys (pruneRagVectors limit state organizationId olderThan) := by
  have calls : CallTable (pruneRagVectors limit state organizationId olderThan).db := keys.calls
  apply keys.fewer calls
  · have ids : (pruneRagVectors limit state organizationId olderThan).chunks.map (·.id) =
        state.chunks.map (·.id) := map_updateWhere fun _ => rfl
    rw [ids]
    exact keys.distinct
  · intro chunk member
    obtain ⟨old, inState, written | kept⟩ := mem_updateWhere.mp member
    · exact ⟨old, inState, by rw [written.2], .inl (by rw [written.2])⟩
    · exact ⟨old, inState, by rw [kept.2], .inr (by rw [kept.2])⟩
  · rfl
  · exact fun vector member => List.mem_of_mem_filter member

theorem broken (keys : IndexKeys state) (organizations : Nat) (stop : SweepStop) :
    IndexKeys (brokenSweep limit times state organizations stop) := by
  have prefixKeys := keys.swept (swept_foldl limit times keys
    ((sweptOrganizations state.db).take organizations))
  simp only [brokenSweep]
  split
  · exact prefixKeys
  · simp only [stoppedAt]
    split
    · exact prefixKeys
    · cases stop with
      | pruning batches =>
        exact prefixKeys.same prefixKeys.calls rfl rfl
          fun vector member => List.mem_of_mem_filter member
      | deleting => exact prefixKeys.prune _ _

theorem upsertChunk (keys : IndexKeys state) (maskPII : Text → Text) (callId : RowId)
    (raw : RawChunk) : IndexKeys (upsertChunk maskPII callId state raw) := by
  simp only [Processing.upsertChunk]
  split
  · constructor
    · exact keys.calls
    · dsimp only
      rw [map_updateWhere]
      · exact keys.distinct
      · intro row
        rfl
    · exact forall_mem_updateWhere keys.fresh fun _ _ _ fresh => fresh
    · exact forall_mem_updateWhere keys.recorded fun _ _ _ recorded => recorded
    · exact keys.named
  · constructor
    · exact keys.calls
    · apply nodup_map_append_fresh keys.distinct
      intro old inState same
      have older := keys.fresh old inState
      rw [same] at older
      exact Nat.lt_irrefl _ older
    · intro chunk member
      rcases List.mem_append.mp member with old | new
      · exact Nat.lt_succ_of_lt (keys.fresh chunk old)
      · rw [List.mem_singleton.mp new]
        exact Nat.lt_succ_self _
    · intro chunk member
      rcases List.mem_append.mp member with old | new
      · exact keys.recorded chunk old
      · rw [List.mem_singleton.mp new]
        exact fun _ names => nomatch names
    · exact keys.named

theorem upsertTag (keys : IndexKeys state) (callId : RowId) (label : ChunkLabel) :
    IndexKeys (upsertTag callId state label) := by
  simp only [Processing.upsertTag]
  split
  · exact keys
  · split
    · exact keys
    · exact keys.same keys.calls rfl rfl fun _ member => member

theorem storeVector (keys : IndexKeys state) (vector : ChunkVector)
    (named : vector.id = vector.chunkId) :
    IndexKeys { state with vectors := upsertVector state.vectors vector } where
  calls := keys.calls
  distinct := keys.distinct
  fresh := keys.fresh
  recorded := keys.recorded
  named := by
    intro row member
    rcases mem_upsertVector.mp member with old | rfl
    · exact keys.named row old.1
    · exact named

theorem indexChunk (keys : IndexKeys state) (job : ProcessCallJob) (accountId : RowId)
    (chunk : TranscriptChunk) : IndexKeys (indexChunk job accountId state chunk) := by
  have stored := keys.storeVector (chunkVector job accountId state.tags chunk) rfl
  constructor
  · exact keys.calls
  · simp only [Processing.indexChunk]
    rw [map_updateWhere]
    · exact keys.distinct
    · intro row
      rfl
  · exact forall_mem_updateWhere keys.fresh fun _ _ _ fresh => fresh
  · apply forall_mem_updateWhere keys.recorded
    intro old _ selected _ vectorId names
    have own : old.id = chunk.id := by simpa using selected
    rw [own]
    exact (Option.some.inj names).symm
  · exact stored.named

theorem foldl {α : Type} {step : SearchState → α → SearchState}
    (each : ∀ state item, IndexKeys state → IndexKeys (step state item)) (keys : IndexKeys state)
    (items : List α) : IndexKeys (items.foldl step state) := by
  induction items generalizing state with
  | nil => exact keys
  | cons item rest ih => exact ih (each state item keys)

theorem indexCall (keys : IndexKeys state) (job : ProcessCallJob) (stop : Option ProcessStop) :
    IndexKeys (indexCall state job stop).1 := by
  have each (accountId : RowId) (state : SearchState) (chunk : TranscriptChunk)
      (keys : IndexKeys state) := keys.indexChunk job accountId chunk
  simp only [Processing.indexCall]
  split
  · exact foldl (each _) keys _
  · exact foldl (each _) keys _
  · exact keys

theorem processCall (keys : IndexKeys state) (maskPII : Text → Text) (job : ProcessCallJob)
    (met : ProcessRun) : IndexKeys (processCall maskPII state job met).1 := by
  have stores (chunks : List RawChunk) : IndexKeys (storeChunks maskPII job.callId state chunks) :=
    foldl (fun _ raw keys => keys.upsertChunk maskPII job.callId raw) keys chunks
  simp only [Processing.processCall]
  split
  · exact keys
  · split
    · exact stores _
    · exact stores _
    · exact (foldl (fun _ label keys => keys.upsertTag job.callId label) (stores _)
        met.labels).indexCall job _

theorem search (keys : IndexKeys state) (maskPII : Text → Text) (resolver : Resolver)
    (minRelevanceScore : ℚ) (action : SearchAction) :
    IndexKeys (searchStep maskPII resolver minRelevanceScore state action) := by
  cases action with
  | changes change failedAdds =>
    have calls : CallTable (changeCalls resolver state change failedAdds).db := by
      rcases @applyChange_submits resolver state.db change keys.calls with
        submits | ⟨payload, rfl⟩
      · exact (submits.callTable keys.calls).same rfl rfl
      · exact keys.calls.same rfl rfl
    exact keys.same calls rfl rfl fun _ member => member
  | runJob jobId met =>
    rcases runJob_cases maskPII state jobId met with unchanged | ⟨job, _, ran, outcome, _, _,
      processed, ends⟩
    · simp only [searchStep, unchanged]
      exact keys
    · have processedKeys := keys.processCall maskPII job.data met
      rw [processed] at processedKeys
      simp only [searchStep, ends]
      exact processedKeys.same processedKeys.calls rfl rfl fun _ member => member
  | ragQuery input found =>
    simp only [searchStep, Processing.ragQuery]
    split
    · exact keys
    · exact keys.same keys.calls rfl rfl fun _ member => member
  | forgetAnswer key => exact keys.same keys.calls rfl rfl fun _ member => member

theorem step (keys : IndexKeys state) (maskPII : Text → Text) (resolver : Resolver)
    (minRelevanceScore : ℚ) (limit : Nat) (action : RetentionAction) :
    IndexKeys (retentionStep maskPII resolver minRelevanceScore limit state action) := by
  cases action with
  | sweep times => exact keys.swept (swept_run limit times keys)
  | brokenSweep times organizations stop => exact keys.broken organizations stop
  | search action => exact keys.search maskPII resolver minRelevanceScore action
  | indexUnrecorded job accountId chunkId =>
    simp only [retentionStep, indexUnrecorded]
    split
    · exact keys
    · exact keys.storeVector _ rfl
  | setPolicy organizationId value =>
    have calls : CallTable (setPolicyColumn state.db organizationId value) := by
      apply keys.calls.same (setPolicyColumn_rows state.db organizationId value).1
      simp only [setPolicyColumn, Approval.upsertOrgSettings]
      split <;> rfl
    exact keys.same calls rfl rfl fun _ member => member

theorem fresh_index {db : Database} (table : CallTable db) : IndexKeys (freshIndex db) where
  calls := table.same rfl rfl
  distinct := List.nodup_nil
  fresh := fun _ member => nomatch member
  recorded := fun _ member => nomatch member
  named := fun _ member => nomatch member

end

end IndexKeys

/-- Every sweep of the run leaves no vector for a chunk of a call that it deleted. -/
def SweepsLeaveNoVectors (maskPII : Text → Text) (resolver : Resolver) (minRelevanceScore : ℚ)
    (limit : Nat) (state : SearchState) (actions : List RetentionAction) : Prop :=
  ∀ taken ∈ trace (retentionStep maskPII resolver minRelevanceScore limit) state actions,
    ∀ times, taken.2 = .sweep times →
      LeavesNoVectors taken.1
        (retentionStep maskPII resolver minRelevanceScore limit taken.1 taken.2)

def SelectsVectors (limit : Nat) (state : SearchState) : RetentionAction → Prop
  | .sweep times => VectorsSelected limit times state
  | _ => True

/-- In runs of sweeps, failed sweeps, changes of the calls and of the policies, and indexing,
every sweep leaves no vector for a chunk of a call that it deleted if, and only if, every
sweep finds the vectors of expired calls named by rows that one pruning takes. -/
theorem sweeps_leave_no_vectors_iff (maskPII : Text → Text) (resolver : Resolver)
    (minRelevanceScore : ℚ) (limit : Nat) {db : Database} (table : CallTable db)
    (actions : List RetentionAction) :
    SweepsLeaveNoVectors maskPII resolver minRelevanceScore limit (freshIndex db) actions ↔
      Guarded (retentionStep maskPII resolver minRelevanceScore limit) (SelectsVectors limit)
        (freshIndex db) actions := by
  have keys : ∀ taken ∈ trace (retentionStep maskPII resolver minRelevanceScore limit)
      (freshIndex db) actions, IndexKeys taken.1 := by
    intro taken member
    have free : Guarded (retentionStep maskPII resolver minRelevanceScore limit)
        (fun _ _ => True) (freshIndex db) actions := fun _ _ => trivial
    exact (trace_guarded_invariant IndexKeys
      (fun state action kept _ => kept.step maskPII resolver minRelevanceScore limit action)
      (IndexKeys.fresh_index table) free taken member).1
  constructor
  · intro leavesNone taken member
    cases acts : taken.2 with
    | sweep times =>
      have swept := leavesNone taken member times acts
      rw [acts] at swept
      exact (leavesNoVectors_iff (keys taken member)).mp swept
    | _ => trivial
  · intro selected taken member times acts
    have guard := selected taken member
    rw [acts] at guard ⊢
    exact (leavesNoVectors_iff (keys taken member)).mpr guard

instance (limit : Nat) (times : RowId → Date) (state : SearchState) :
    Decidable (VectorsSelected limit times state) :=
  inferInstanceAs (Decidable (∀ vector ∈ state.vectors, _))

instance (limit : Nat) (state : SearchState) : DecidablePred (SelectsVectors limit state)
  | .sweep times => inferInstanceAs (Decidable (VectorsSelected limit times state))
  | .brokenSweep _ _ _ | .search _ | .indexUnrecorded _ _ _ | .setPolicy _ _ => isTrue trivial

def twoCalls : Database where
  nextId := 3
  orgSettings := [{ organizationId := 1 }]
  calls := [{ id := 1, organizationId := 1 }, { id := 2, organizationId := 1 }]
  transcripts := [
    { callId := 1, fullText := ['a', '.'], wordCount := 1 },
    { callId := 2, fullText := ['b', '.'], wordCount := 1 }]

theorem twoCalls_table : CallTable twoCalls where
  distinct := by decide
  fresh := by decide

def indexedAndSwept : List RetentionAction :=
  [.search (.changes (.addJob {
      callId := 1, organizationId := 1, accountId := some 7, hasTranscript := true }) 0),
    .search (.changes (.addJob {
      callId := 2, organizationId := 1, accountId := some 7, hasTranscript := true }) 0),
    .search (.runJob (.generated 0) {}), .search (.runJob (.generated 1) {}),
    .sweep fun _ => 40000000000]

theorem both_calls_leave_the_index :
    SweepsLeaveNoVectors id plainResolver 0 2 (freshIndex twoCalls) indexedAndSwept :=
  (sweeps_leave_no_vectors_iff id plainResolver 0 2 twoCalls_table indexedAndSwept).mpr
    (by decide +kernel)

/-- Whatever was indexed and swept before, a sweep deletes exactly the calls that are due in the
organizations that have settings. -/
theorem sweeps_delete_exactly_due (maskPII : Text → Text) (resolver : Resolver)
    (minRelevanceScore : ℚ) (limit : Nat) {db : Database} (table : CallTable db)
    (actions : List RetentionAction) (times : RowId → Date) :
    let before :=
      run (retentionStep maskPII resolver minRelevanceScore limit) (freshIndex db) actions
    ∀ call ∈ before.db.calls,
      call.id ∈ (runDataRetentionSweep limit times before).db.calls.map (·.id) ↔
        sweptCall before.db times (sweptOrganizations before.db) call = false := by
  intro before call member
  have keys : IndexKeys before := run_invariant IndexKeys
    (fun _ action kept => kept.step maskPII resolver minRelevanceScore limit action) actions
    (.fresh_index table)
  exact mem_sweptCalls keys member

theorem due_call_is_deleted :
    1 ∉ (runDataRetentionSweep 2 (fun _ => 40000000000)
      (run (retentionStep id plainResolver 0 2) (freshIndex twoCalls)
        (indexedAndSwept.take 4))).db.calls.map (·.id) := by
  intro kept
  have spared := (sweeps_delete_exactly_due id plainResolver 0 2 twoCalls_table
    (indexedAndSwept.take 4) (fun _ => 40000000000) { id := 1, organizationId := 1 }
    (by decide +kernel)).mp kept
  revert spared
  decide +kernel

/-- A limit of one vector leaves the vector of the second call in the index. -/
theorem second_vector_outlives_its_call :
    ¬SweepsLeaveNoVectors id plainResolver 0 1 (freshIndex twoCalls) indexedAndSwept ∧
    (run (retentionStep id plainResolver 0 1) (freshIndex twoCalls) indexedAndSwept).db.calls = [] ∧
    (run (retentionStep id plainResolver 0 1) (freshIndex twoCalls)
      indexedAndSwept).vectors.map (·.callId) = [2] := by
  constructor
  · intro leavesNone
    have swept := leavesNone
      (run (retentionStep id plainResolver 0 1) (freshIndex twoCalls) (indexedAndSwept.take 4),
        .sweep fun _ => 40000000000)
      (.tail _ (.tail _ (.tail _ (.tail _ (.head _))))) _ rfl
    revert swept
    simp only [LeavesNoVectors]
    decide +kernel
  · decide +kernel

end StoryEngine.Governance
