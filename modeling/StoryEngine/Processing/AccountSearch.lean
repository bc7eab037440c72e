import StoryEngine.Processing.SearchRuns

namespace StoryEngine.Processing

open Accounts Data Ingestion Resolution Schema Statements

/-! # An account is answered from its own calls -/

/-- The vectors of every processed call are under the account that it has, and the answer
to a query for an account has sources of its calls only. -/
structure SearchAgrees (cases : CaseMapping) (minRelevanceScore : ℚ) (state : SearchState) :
    Prop where
  carried : ∀ callId ∈ state.processed, ∀ vector ∈ state.vectors, vector.callId = callId →
    accountOf state.db callId = some vector.accountId
  indexed : ∀ callId ∈ state.processed, (accountOf state.db callId).isSome →
    ∀ chunk ∈ state.chunks, chunk.callId = callId →
      ∃ vector ∈ state.vectors, vector.chunkId = chunk.id ∧ vector.callId = callId
  answered : ∀ input found, ∀ source ∈ (ragQuery cases minRelevanceScore state input found).1,
    accountOf state.db source.callId = some input.accountId

def Settled (state : SearchState) (callId : RowId) : Prop :=
  Current state callId ∧
    (callId ∈ state.processed → (accountOf state.db callId).isSome →
      ∀ row ∈ chunkRows state, row.2 = callId → ∃ vector ∈ state.vectors, vector.id = row.1)

/-- Every call is settled or waits for a job, and no cached answer is behind. -/
structure Followed (state : SearchState) : Prop where
  calls : CallTable state.db
  outbox : state.db.processCallJobs = []
  jobIds : (state.queue.map (·.id)).Nodup
  chunks : ChunkTable state
  settled : ∀ callId, Settled state callId ∨ Awaited state state.queue callId
  cached : ∀ entry ∈ state.queryCache, ∀ source ∈ entry.2,
    accountOf state.db source.callId = some entry.1.accountId

section

variable {state before : SearchState} {callId : RowId}

theorem Awaited.mono {after : SearchState} {jobs more : List CallJob}
    (awaited : Awaited before jobs callId)
    (account : accountOf after.db callId = accountOf before.db callId)
    (kept : ∀ job ∈ jobs, job.pending = true → job.data.callId = callId → job ∈ more) :
    Awaited after more callId := by
  obtain ⟨known, job, member, pending, ofCall, under⟩ := awaited
  exact ⟨account ▸ known, job, kept job member pending ofCall, pending, ofCall,
    under.trans account.symm⟩

theorem mem_searchVectors {vectors : List ChunkVector} {input : RagQuery} {topK : Nat}
    {found : List (RowId × ℚ)} {hit : ChunkVector × ℚ}
    (member : hit ∈ searchVectors vectors input topK found) :
    hit.1 ∈ vectors ∧ hit.1.accountId = input.accountId := by
  obtain ⟨⟨id, score⟩, _, isHit⟩ := List.mem_filterMap.mp (List.mem_of_mem_take member)
  obtain ⟨vector, isFound, rfl⟩ := Option.map_eq_some_iff.mp isHit
  obtain ⟨inVectors, matching⟩ := List.mem_filter.mp (List.mem_of_find?_eq_some isFound)
  simp only [matchesFilter, Bool.and_eq_true, beq_iff_eq] at matching
  exact ⟨inVectors, matching.1.1⟩

theorem hydrateSource_callId (table : ChunkTable state) {hit : ChunkVector × ℚ}
    {source : RagSource} (member : hit.1 ∈ state.vectors)
    (hydrates : hydrateSource state hit = some source) : source.callId = hit.1.callId := by
  simp only [hydrateSource, Option.bind_eq_bind, Option.bind_eq_some_iff, Option.pure_def,
    Option.some.injEq] at hydrates
  obtain ⟨chunk, isChunk, call, isCall, rfl⟩ := hydrates
  have ofChunk : call.id = chunk.callId := by simpa using List.find?_some isCall
  have named : chunk.id = hit.1.chunkId := by simpa using List.find?_some isChunk
  have row : (chunk.id, chunk.callId) ∈ chunkRows state :=
    mem_chunkRows.mpr ⟨chunk, List.mem_of_find?_eq_some isChunk, rfl, rfl⟩
  have same := eq_of_key table.distinct row (table.chunked hit.1 member) named
  exact ofChunk.trans (congrArg Prod.snd same)

theorem Followed.vector_account (followed : Followed state) {input : RagQuery}
    (inTime : AsksInTime state input) {vector : ChunkVector} (member : vector ∈ state.vectors)
    (asked : vector.accountId = input.accountId) :
    accountOf state.db vector.callId = some input.accountId := by
  rw [← asked]
  rcases followed.settled vector.callId with ⟨current, _⟩ | ⟨_, job, inQueue, pending, ofCall, _⟩
  · exact current vector member rfl
  · exact inTime vector member asked ⟨job, inQueue, pending, ofCall⟩

variable {cases : CaseMapping} {minRelevanceScore : ℚ} {input : RagQuery}
  {found : List (RowId × ℚ)}

theorem Followed.ragQuery_sources (followed : Followed state) (inTime : AsksInTime state input) :
    ∀ source ∈ (ragQuery cases minRelevanceScore state input found).1,
      accountOf state.db source.callId = some input.accountId := by
  intro source member
  unfold ragQuery at member
  dsimp only at member
  split at member
  · next entry isEntry =>
      have isKey : entry.1 = buildRagQueryCacheKey cases input (input.topK.getD 8) := by
        simpa using List.find?_some isEntry
      have account := followed.cached entry (List.mem_of_find?_eq_some isEntry) source member
      rwa [isKey] at account
  · obtain ⟨hydrated, _⟩ := List.mem_filter.mp member
    obtain ⟨hit, isHit, hydrates⟩ := List.mem_filterMap.mp hydrated
    obtain ⟨inVectors, asked⟩ := mem_searchVectors isHit
    rw [hydrateSource_callId followed.chunks inVectors hydrates]
    exact followed.vector_account inTime inVectors asked

theorem Followed.ragQuery (followed : Followed state) (inTime : AsksInTime state input) :
    Followed (ragQuery cases minRelevanceScore state input found).2 := by
  have sources := @Followed.ragQuery_sources _ cases minRelevanceScore _ found followed inTime
  unfold Processing.ragQuery at sources ⊢
  dsimp only at sources ⊢
  split
  · exact followed
  · next missed =>
      rw [missed] at sources
      obtain ⟨calls, outbox, jobIds, chunks, settled, cached⟩ := followed
      refine ⟨calls, outbox, jobIds, chunks.same rfl rfl rfl, settled, ?_⟩
      intro entry member source inEntry
      rcases List.mem_cons.mp member with rfl | old
      · exact sources source inEntry
      · exact cached entry old source inEntry

theorem Followed.forgetAnswer (followed : Followed state) (key : RagQueryKey) :
    Followed (forgetAnswer state key) := by
  obtain ⟨calls, outbox, jobIds, chunks, settled, cached⟩ := followed
  exact ⟨calls, outbox, jobIds, chunks.same rfl rfl rfl, settled,
    fun entry member => cached entry (List.mem_of_mem_filter member)⟩

variable {resolver : Resolver} {change : CallChange} {failedAdds : Nat}

theorem submitJob_cases (jobId : ProcessCallJob → JobId) (queue : List CallJob)
    (payload : ProcessCallJob) :
    submitJob jobId failedAdds queue payload = queue ∨
      submitJob jobId failedAdds queue payload = addJob queue (callJob (jobId payload) payload) := by
  unfold submitJob enqueueProcessCallJob
  split
  · exact .inr rfl
  · exact .inl rfl

variable {jobs : List ProcessCallJob} {jobId : ProcessCallJob → JobId} {queue : List CallJob}

theorem mem_submitted {job : CallJob}
    (member : job ∈ jobs.foldl (submitJob jobId failedAdds) queue) :
    job ∈ queue ∨ job.data ∈ jobs := by
  induction jobs generalizing queue with
  | nil => exact .inl member
  | cons payload rest ih =>
    rcases ih member with accepted | later
    · rcases submitJob_cases jobId queue payload with refused | added
      · exact .inl (refused ▸ accepted)
      · rcases mem_addJob (added ▸ accepted) with old | rfl
        · exact .inl old
        · exact .inr List.mem_cons_self
    · exact .inr (List.mem_cons_of_mem _ later)

theorem subset_submitted : queue ⊆ jobs.foldl (submitJob jobId failedAdds) queue := by
  induction jobs generalizing queue with
  | nil => exact fun _ member => member
  | cons payload rest ih =>
    intro job member
    apply ih
    rcases @submitJob_cases failedAdds jobId queue payload with refused | added
    · rwa [refused]
    · rw [added]
      exact mem_addJob_of_mem member

theorem nodup_submitted (distinct : (queue.map (·.id)).Nodup) :
    ((jobs.foldl (submitJob jobId failedAdds) queue).map (·.id)).Nodup := by
  induction jobs generalizing queue with
  | nil => exact distinct
  | cons payload rest ih =>
    apply ih
    rcases @submitJob_cases failedAdds jobId queue payload with refused | added
    · rwa [refused]
    · rw [added]
      exact nodup_addJob distinct

theorem Followed.awaited (followed : Followed state)
    (requeued : Requeued state (changeCalls resolver state change failedAdds) callId)
    (moved : accountOf (changeCalls resolver state change failedAdds).db callId ≠
      accountOf state.db callId) :
    Awaited (changeCalls resolver state change failedAdds)
      (changeCalls resolver state change failedAdds).queue callId := by
  obtain ⟨known, job, member, pending, ofCall, old⟩ := requeued
  refine ⟨known, job, member, pending, ofCall, ?_⟩
  rcases mem_submitted member with inQueue | inOutbox
  · exact old inQueue
  · rcases @applyChange_submits resolver state.db change followed.calls with submits | ⟨payload, rfl⟩
    · exact ofCall ▸ submits.account followed.outbox inOutbox
    · exact absurd rfl moved

theorem Followed.changeCalls (followed : Followed state)
    (inTime : MovesInTime state (changeCalls resolver state change failedAdds)) :
    Followed (changeCalls resolver state change failedAdds) where
  calls := by
    rcases @applyChange_submits resolver state.db change followed.calls with submits | ⟨payload, rfl⟩
    · exact (submits.callTable followed.calls).same rfl rfl
    · exact followed.calls.same rfl rfl
  outbox := rfl
  jobIds := nodup_submitted followed.jobIds
  chunks := followed.chunks.same rfl rfl rfl
  settled := by
    intro callId
    by_cases same : accountOf (Processing.changeCalls resolver state change failedAdds).db callId =
        accountOf state.db callId
    · rcases followed.settled callId with ⟨current, indexed⟩ | awaited
      · refine .inl ⟨fun vector member ofCall => ?_, fun processed account => ?_⟩
        · exact same.trans (current vector member ofCall)
        · exact indexed processed (same ▸ account)
      · exact .inr (awaited.mono same fun job member _ _ => subset_submitted member)
    · by_cases touched : callId ∈ state.vectors.map (·.callId) ++ state.processed
      · exact .inr (followed.awaited (inTime.1 callId touched same) same)
      · rw [List.mem_append, not_or] at touched
        refine .inl ⟨fun vector member ofCall => ?_, fun processed => absurd processed touched.2⟩
        exact absurd (List.mem_map.mpr ⟨vector, member, ofCall⟩) touched.1
  cached := by
    intro entry member source inEntry
    exact (inTime.2 entry member source inEntry).trans (followed.cached entry member source inEntry)

variable {maskPII : Text → Text} {met : ProcessRun} {jobId : JobId}

theorem runJob_cases (maskPII : Text → Text) (state : SearchState) (jobId : JobId)
    (met : ProcessRun) :
    runJob maskPII state jobId met = state ∨
      ∃ job ∈ state.queue, ∃ ran outcome, job.id = jobId ∧ job.state = .waiting ∧
        processCall maskPII state job.data met = (ran, outcome) ∧
          runJob maskPII state jobId met = endJob job ran outcome := by
  unfold runJob
  split
  · exact .inl rfl
  · next job isJob =>
      obtain ⟨found, waiting⟩ := Option.filter_eq_some_iff.mp isJob
      exact .inr ⟨job, List.mem_of_find?_eq_some found, _, _, findJob_id found,
        by simpa using waiting, rfl, rfl⟩

section

variable {job : ProcessCallJob} {after : SearchState}

theorem Processes.current (processes : Processes job before after)
    (current : Current before callId)
    (right : callId = job.callId → job.accountId = accountOf before.db callId) :
    Current after callId := by
  intro vector member ofCall
  rw [processes.elsewhere.1]
  rcases processes.written vector member with old | ⟨ofJob, account⟩
  · exact current vector old ofCall
  · exact (right (ofCall.symm.trans ofJob)).symm.trans account

theorem ChunkTable.current (table : ChunkTable state) {accountId : RowId}
    (account : accountOf state.db callId = some accountId)
    (indexed : ∀ row ∈ chunkRows state, row.2 = callId →
      IndexedUnder accountId row.1 state.vectors) : Current state callId := by
  intro vector member ofCall
  have under := (indexed _ (table.chunked vector member) ofCall).2 vector member
    (table.named vector member)
  rw [account, under]

end

section

variable {job : CallJob} {ran : SearchState} {outcome : ProcessOutcome}

theorem mem_processed (member : callId ∈ (endJob job ran outcome).processed) :
    callId ≠ job.data.callId ∧ callId ∈ ran.processed ∨
      callId = job.data.callId ∧ outcome = .completed := by
  unfold endJob at member
  dsimp only at member
  split at member
  · next completed =>
      rcases List.mem_append.mp member with other | own
      · obtain ⟨inProcessed, different⟩ := List.mem_filter.mp other
        exact .inl ⟨by simpa using different, inProcessed⟩
      · exact .inr ⟨List.mem_singleton.mp own, completed⟩
  · obtain ⟨inProcessed, different⟩ := List.mem_filter.mp member
    exact .inl ⟨by simpa using different, inProcessed⟩

theorem Awaited.endJob (processes : Processes job.data state ran)
    (awaited : Awaited state (state.queue.filter (·.id != job.id)) callId) :
    Awaited (endJob job ran outcome) (endJob job ran outcome).queue callId := by
  obtain ⟨db, queue, _, _⟩ := processes.elsewhere
  refine awaited.mono (congrArg (accountOf · callId) db) fun other member _ _ => ?_
  obtain ⟨inQueue, different⟩ := List.mem_filter.mp member
  exact mem_changeJob_of_ne (queue ▸ inQueue) (by simpa using different)

theorem Followed.settled_other (followed : Followed state) (member : job ∈ state.queue)
    (processes : Processes job.data state ran) (other : callId ≠ job.data.callId) :
    Settled (endJob job ran outcome) callId ∨
      Awaited (endJob job ran outcome) (endJob job ran outcome).queue callId := by
  obtain ⟨db, queue, processed, _⟩ := processes.elsewhere
  rcases followed.settled callId with ⟨current, indexed⟩ | ⟨known, waiting, inQueue, pending,
    ofCall, under⟩
  · refine .inl ⟨processes.current current fun own => absurd own other, ?_⟩
    intro inProcessed account row inRows ofRow
    rcases mem_processed inProcessed with ⟨_, inRan⟩ | ⟨own, _⟩
    · obtain ⟨vector, inVectors, isVector⟩ := indexed (processed ▸ inRan) (by rwa [← db]) row
        (processes.others row inRows (ofRow ▸ other)) ofRow
      obtain ⟨kept, inKept, isKept⟩ := processes.kept vector inVectors
      exact ⟨kept, inKept, isKept.trans isVector⟩
    · exact absurd own other
  · refine .inr (Awaited.endJob processes ⟨known, waiting, ?_, pending, ofCall, under⟩)
    refine List.mem_filter.mpr ⟨inQueue, ?_⟩
    have different : waiting.id ≠ job.id := fun same => other (by
      rw [← ofCall, eq_of_key followed.jobIds inQueue member same])
    simpa using different

theorem Processes.settled_current (processes : Processes job.data state ran)
    (runs : processCall maskPII state job.data met = (ran, outcome))
    (current : Current state job.data.callId)
    (kept : stopsEarly state job.data.callId met = true ∨
      job.data.accountId = accountOf state.db job.data.callId) :
    Settled (endJob job ran outcome) job.data.callId := by
  have db := processes.elsewhere.1
  rcases kept with early | right
  · obtain ⟨vectors, unfinished⟩ := @processCall_early job.data state maskPII met early
    rw [runs] at vectors unfinished
    refine ⟨fun vector member ofCall => ?_, fun inProcessed => ?_⟩
    · exact (congrArg (accountOf · job.data.callId) db).trans
        (current vector (vectors ▸ member) ofCall)
    · rcases mem_processed inProcessed with ⟨other, _⟩ | ⟨_, completed⟩
      · exact absurd rfl other
      · exact absurd completed unfinished
  · refine ⟨processes.current current fun _ => right, fun inProcessed known row inRows ofRow => ?_⟩
    rcases mem_processed inProcessed with ⟨other, _⟩ | ⟨_, completed⟩
    · exact absurd rfl other
    · obtain ⟨accountId, account⟩ := Option.isSome_iff_exists.mp known
      have under : job.data.accountId = some accountId :=
        right.trans ((congrArg (accountOf · job.data.callId) db).symm.trans account)
      have indexed := @processCall_indexed job.data state maskPII accountId met under (runs ▸ completed)
      rw [runs] at indexed
      exact (indexed row inRows ofRow).1

theorem Followed.settled_indexed (followed : Followed state)
    (member : job ∈ state.queue) (waiting : job.state = .waiting)
    (processes : Processes job.data state ran)
    (runs : processCall maskPII state job.data met = (ran, outcome))
    (right : job.data.accountId = accountOf state.db job.data.callId)
    (transcript : (findTranscript state.db job.data.callId).isSome)
    (again : met.stop = none ∨ job.attemptsMade + 1 < job.attempts) :
    Settled (endJob job ran outcome) job.data.callId ∨
      Awaited (endJob job ran outcome) (endJob job ran outcome).queue job.data.callId := by
  obtain ⟨db, queue, _, _⟩ := processes.elsewhere
  have sameAccount : accountOf ran.db job.data.callId = accountOf state.db job.data.callId :=
    congrArg (accountOf · job.data.callId) db
  cases account : accountOf state.db job.data.callId with
  | none =>
    rcases followed.settled job.data.callId with ⟨current, _⟩ | ⟨known, _⟩
    · exact .inl (processes.settled_current runs current (.inr right))
    · rw [account] at known
      cases known
  | some accountId =>
    obtain ⟨notSkipped, completes⟩ := @processCall_ends job.data state maskPII met transcript
    have indexed := @processCall_indexed job.data state maskPII accountId met (right.trans account)
    rw [runs] at notSkipped completes indexed
    cases outcome with
    | skipped => exact absurd rfl notSkipped
    | completed =>
      refine .inl ⟨processes.table.current (sameAccount.trans account) (indexed rfl), ?_⟩
      exact fun _ _ row inRows ofRow => (indexed rfl row inRows ofRow).1
    | failed =>
      have left : job.attemptsMade + 1 < job.attempts := by
        rcases again with noStop | left
        · exact absurd (completes noStop) (by simp)
        · exact left
      refine .inr ⟨?_, job.started.ended false, ?_, Job.retried_pending waiting left, ?_, ?_⟩
      · exact sameAccount ▸ account ▸ rfl
      · exact mem_updateWhere.mpr ⟨job, queue ▸ member, .inl ⟨by simp, rfl⟩⟩
      · rw [Job.ended_data, Job.started_data]
      · rw [Job.ended_data, Job.started_data, right]
        exact sameAccount.symm

end

theorem Followed.runJob (followed : Followed state) (inTime : RunsInTime state jobId met) :
    Followed (runJob maskPII state jobId met) := by
  rcases runJob_cases maskPII state jobId met with same | ⟨job, member, ran, outcome, rfl, waiting,
    runs, isRun⟩
  · rwa [same]
  · have processes := @processCall_processes job.data state maskPII followed.chunks met
    rw [runs] at processes
    obtain ⟨db, queue, _, cache⟩ := processes.elsewhere
    rw [isRun]
    refine ⟨?_, ?_, ?_, ?_, fun callId => ?_, ?_⟩
    · exact (congrArg CallTable db).mpr followed.calls
    · exact (congrArg (·.processCallJobs) db).trans followed.outbox
    · exact nodup_changeJob (fun _ => by simp) (queue ▸ followed.jobIds)
    · exact processes.table.same rfl rfl rfl
    · by_cases own : callId = job.data.callId
      · subst own
        rcases inTime job member rfl waiting with awaited | ⟨current, kept⟩ | ⟨right, transcript, again⟩
        · exact .inr (Awaited.endJob processes awaited)
        · exact .inl (processes.settled_current runs current kept)
        · exact followed.settled_indexed member waiting processes runs right transcript again
      · exact followed.settled_other member processes own
    · intro entry inCache source inEntry
      exact (congrArg (accountOf · source.callId) db).trans
        (followed.cached entry (cache ▸ inCache) source inEntry)

theorem freshIndex_followed {db : Database} (table : CallTable db) : Followed (freshIndex db) where
  calls := table.same rfl rfl
  outbox := rfl
  jobIds := List.nodup_nil
  chunks := by
    refine ⟨List.nodup_nil, fun row member => ?_, fun vector member => ?_, fun vector member => ?_⟩
    all_goals cases member
  settled := by
    refine fun callId => .inl ⟨fun vector member => ?_, fun processed => ?_⟩
    · cases member
    · cases processed
  cached := by
    intro entry member
    cases member

theorem Followed.searchStep (followed : Followed state) {action : SearchAction}
    (inTime : IndexFollows maskPII resolver minRelevanceScore state action) :
    Followed (searchStep maskPII resolver minRelevanceScore state action) := by
  cases action with
  | changes change failedAdds => exact followed.changeCalls inTime
  | runJob jobId met => exact followed.runJob inTime
  | ragQuery input found => exact followed.ragQuery inTime
  | forgetAnswer key => exact followed.forgetAnswer key

theorem Followed.agrees (followed : Followed state) (allRun : AllRun state.queue) :
    SearchAgrees cases minRelevanceScore state := by
  have settled (callId : RowId) : Settled state callId := by
    rcases followed.settled callId with settled | ⟨_, job, member, pending, _⟩
    · exact settled
    · rw [allRun job member] at pending
      cases pending
  refine ⟨fun callId _ => (settled callId).1, fun callId processed known chunk member ofCall => ?_,
    fun input found => followed.ragQuery_sources fun vector inVectors _ ⟨job, inQueue, pending, _⟩ => ?_⟩
  · have row : (chunk.id, chunk.callId) ∈ chunkRows state :=
      mem_chunkRows.mpr ⟨chunk, member, rfl, rfl⟩
    obtain ⟨vector, inVectors, isVector⟩ := (settled callId).2 processed known _ row ofCall
    have chunkId := (followed.chunks.named vector inVectors).symm.trans isVector
    have same := eq_of_key followed.chunks.distinct (followed.chunks.chunked vector inVectors) row chunkId
    exact ⟨vector, inVectors, chunkId, (congrArg Prod.snd same).trans ofCall⟩
  · rw [allRun job inQueue] at pending
    cases pending

end

/-- While every change of an indexed call's account comes with a job and every job runs in
time, an account is answered from all its processed calls and from no other call. -/
theorem account_search_agrees (maskPII : Text → Text) (resolver : Resolver)
    (minRelevanceScore : ℚ) {db : Database} (table : CallTable db) (actions : List SearchAction)
    (inTime : Guarded (searchStep maskPII resolver minRelevanceScore)
      (IndexFollows maskPII resolver minRelevanceScore) (freshIndex db) actions)
    (allRun : AllRun
      (run (searchStep maskPII resolver minRelevanceScore) (freshIndex db) actions).queue) :
    SearchAgrees resolver.cases minRelevanceScore
      (run (searchStep maskPII resolver minRelevanceScore) (freshIndex db) actions) := by
  have followed : Followed
      (run (searchStep maskPII resolver minRelevanceScore) (freshIndex db) actions) :=
    run_guarded_invariant Followed (fun _ _ followed inTime => followed.searchStep inTime)
      (freshIndex_followed table) inTime
  exact followed.agrees allRun

section

variable (maskPII : Text → Text) (resolver : Resolver) (minRelevanceScore : ℚ)

instance (state : SearchState) (jobs : List CallJob) (callId : RowId) :
    Decidable (Awaited state jobs callId) :=
  inferInstanceAs (Decidable (_ ∧ _))

instance (before after : SearchState) (callId : RowId) : Decidable (Requeued before after callId) :=
  inferInstanceAs (Decidable (_ ∧ _))

instance (state : SearchState) (callId : RowId) : Decidable (Current state callId) :=
  inferInstanceAs (Decidable (∀ vector ∈ state.vectors, _))

instance (state : SearchState) (jobId : JobId) (met : ProcessRun) :
    Decidable (RunsInTime state jobId met) :=
  inferInstanceAs (Decidable (∀ job ∈ state.queue, _))

instance (state : SearchState) (action : SearchAction) :
    Decidable (IndexFollows maskPII resolver minRelevanceScore state action) :=
  match action with
  | .changes _ _ => inferInstanceAs (Decidable ((∀ callId ∈ _, _) ∧ ∀ entry ∈ _, _))
  | .runJob jobId met => inferInstanceAs (Decidable (RunsInTime state jobId met))
  | .ragQuery _ _ => inferInstanceAs (Decidable (∀ vector ∈ state.vectors, _))
  | .forgetAnswer _ => inferInstanceAs (Decidable True)

end

def callOfFirst : Database where
  nextId := 4
  accounts := [
    { id := 1, organizationId := 1, name := ['a'], normalizedName := ['a'] },
    { id := 2, organizationId := 1, name := ['b'], normalizedName := ['b'],
      domain := some ['b', '.', 'i', 'o'] }]
  calls := [
    { id := 3, organizationId := 1, accountId := some 1, provider := .gong,
      mergeRecordingId := some ['m'], externalId := some ['g'] }]

theorem callOfFirst_table : CallTable callOfFirst where
  distinct := by decide
  fresh := by
    intro call member
    obtain rfl := List.mem_singleton.mp member
    decide

def indexedOnce : List SearchAction :=
  [.changes (.handleEvent (callReady 1 ['g'] (some ['t', '.']) 0)) 0, .runJob (.processCall 3) {}]

def indexedAnew : List SearchAction :=
  indexedOnce ++ [
    .changes (.ingestRecording 1 {
      id := ['m']
      participants := [{ email := some ['c', '@', 'b', '.', 'i', 'o'] }]
      transcript := some ['t', '.'] } .gong 60) 0,
    .runJob (.generated 1) {}]

theorem moved_call_is_found_again :
    SearchAgrees CaseMapping.ascii 0
      (run (searchStep id plainResolver 0) (freshIndex callOfFirst) indexedAnew) :=
  account_search_agrees id plainResolver 0 callOfFirst_table indexedAnew (by decide +kernel)
    (by decide +kernel)

/-- The review queue moves the call without a job. -/
theorem assigned_call_is_found_under_old_account :
    ¬∀ actions, AllRun (run (searchStep id plainResolver 0) (freshIndex callOfFirst) actions).queue →
      SearchAgrees CaseMapping.ascii 0
        (run (searchStep id plainResolver 0) (freshIndex callOfFirst) actions) := by
  intro every
  have agrees := every (indexedOnce ++ [.changes (.resolveCall 3 2 1) 0]) (by decide +kernel)
  have answered := agrees.answered { query := ['t'], accountId := 1, organizationId := 1 } [(1, 1)]
  revert answered
  decide +kernel

end StoryEngine.Processing
