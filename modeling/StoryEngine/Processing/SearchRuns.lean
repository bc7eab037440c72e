import StoryEngine.Processing.CallChanges
import StoryEngine.Processing.IndexSteps

namespace StoryEngine.Processing

open Accounts Data Ingestion Resolution Schema Statements

/-! # Runs of the search index

Operations give calls other accounts and enqueue jobs, the worker runs jobs, and queries
are asked.
-/

/-- What writes calls or enqueues jobs; the transcript fetcher and the replay of failed jobs
add jobs with payloads of their own. -/
inductive CallChange where
  | resolveCall (callId accountId organizationId : RowId)
  | applyEntityResolutionFixes (organizationId : RowId) (fixes : List EntityResolutionFix)
  | persistCall (organizationId : RowId) (provider : CallProvider) (call : NormalizedCall)
      (stop : Option PersistStep)
  | ingestRecording (organizationId : RowId) (recording : MergeRecording)
      (provider : CallProvider) (now : Date)
  | handleEvent (event : WebhookEvent)
  | executeMerge (organizationId primaryAccountId secondaryAccountId : RowId)
      (initiatedByUserId : Option RowId) (notes : Option Text)
  | undoMerge (organizationId mergeRunId : RowId) (undoneByUserId : Option RowId) (now : Date)
  | mergeAccounts (sourceAccountId targetAccountId organizationId : RowId)
  | addJob (payload : ProcessCallJob)

/-- The queue refuses the first `failedAdds` calls of `add`. -/
inductive SearchAction where
  | changes (change : CallChange) (failedAdds : Nat)
  | runJob (jobId : JobId) (met : ProcessRun)
  | ragQuery (input : RagQuery) (found : List (RowId × ℚ))
  | forgetAnswer (key : RagQueryKey)

def committed {ε : Type} (db : Database) (outcome : Except ε Database) : Database :=
  outcome.toOption.getD db

def applyChange (resolver : Resolver) (db : Database) : CallChange → Database
  | .resolveCall callId accountId organizationId =>
    committed db (resolveCall resolver.cases db callId accountId organizationId)
  | .applyEntityResolutionFixes organizationId fixes =>
    (applyEntityResolutionFixes db organizationId fixes).1
  | .persistCall organizationId provider call stop =>
    after (persistCall resolver organizationId provider call stop db)
  | .ingestRecording organizationId recording provider now =>
    after (ingestRecording resolver organizationId recording provider now db)
  | .handleEvent event => after (handleEvent resolver event db)
  | .executeMerge organizationId primaryAccountId secondaryAccountId initiatedByUserId notes =>
    committed db ((executeMerge db organizationId primaryAccountId secondaryAccountId
      initiatedByUserId notes).map (·.1))
  | .undoMerge organizationId mergeRunId undoneByUserId now =>
    committed db ((undoMerge resolver.cases db organizationId mergeRunId undoneByUserId
      now).map (·.1))
  | .mergeAccounts sourceAccountId targetAccountId organizationId =>
    committed db (mergeAccounts db sourceAccountId targetAccountId organizationId)
  | .addJob payload => Ingestion.enqueueProcessCallJob payload db

def CallChange.jobId (change : CallChange) (nextJob : Nat) (payload : ProcessCallJob) : JobId :=
  match change with
  | .handleEvent _ => .processCall payload.callId
  | _ => .generated nextJob

/-- An operation whose `add` fails throws at its end. -/
def submitJob (jobId : ProcessCallJob → JobId) (failedAdds : Nat) (queue : List CallJob)
    (payload : ProcessCallJob) : List CallJob :=
  (enqueueProcessCallJob queue (jobId payload) payload failedAdds).getD queue

def changeCalls (resolver : Resolver) (state : SearchState) (change : CallChange)
    (failedAdds : Nat) : SearchState :=
  let later := applyChange resolver state.db change
  { state with
    db := { later with processCallJobs := [] }
    queue := later.processCallJobs.foldl
      (submitJob (change.jobId state.nextJob) failedAdds) state.queue
    nextJob := state.nextJob + 1 }

def searchStep (maskPII : Text → Text) (resolver : Resolver) (minRelevanceScore : ℚ)
    (state : SearchState) : SearchAction → SearchState
  | .changes change failedAdds => changeCalls resolver state change failedAdds
  | .runJob jobId met => runJob maskPII state jobId met
  | .ragQuery input found => (ragQuery resolver.cases minRelevanceScore state input found).2
  | .forgetAnswer key => forgetAnswer state key

def freshIndex (db : Database) : SearchState := { db := { db with processCallJobs := [] } }

def Current (state : SearchState) (callId : RowId) : Prop :=
  ∀ vector ∈ state.vectors, vector.callId = callId →
    accountOf state.db callId = some vector.accountId

def Awaited (state : SearchState) (jobs : List CallJob) (callId : RowId) : Prop :=
  (accountOf state.db callId).isSome ∧ ∃ job ∈ jobs, job.pending = true ∧
    job.data.callId = callId ∧ job.data.accountId = accountOf state.db callId

/-- A pending job of the call is a new one, or under the account that the call has now. -/
def Requeued (before after : SearchState) (callId : RowId) : Prop :=
  (accountOf after.db callId).isSome ∧ ∃ job ∈ after.queue, job.pending = true ∧
    job.data.callId = callId ∧
      (job ∈ before.queue → job.data.accountId = accountOf after.db callId)

/-- A call that is indexed or was processed gets another account only with a job for it,
and a call that a cached answer names keeps its account. -/
def MovesInTime (before after : SearchState) : Prop :=
  (∀ callId ∈ before.vectors.map (·.callId) ++ before.processed,
    accountOf after.db callId ≠ accountOf before.db callId → Requeued before after callId) ∧
  ∀ entry ∈ before.queryCache, ∀ source ∈ entry.2,
    accountOf after.db source.callId = accountOf before.db source.callId

/-- A waiting job runs when another one is to index its call; else it runs under the account
of its call, and it indexes the call, is tried again, or nothing of the call has to be
indexed anew. -/
def RunsInTime (state : SearchState) (jobId : JobId) (met : ProcessRun) : Prop :=
  ∀ job ∈ state.queue, job.id = jobId → job.state = .waiting →
    Awaited state (state.queue.filter (·.id != jobId)) job.data.callId ∨
    Current state job.data.callId ∧
      (stopsEarly state job.data.callId met = true ∨
        job.data.accountId = accountOf state.db job.data.callId) ∨
    job.data.accountId = accountOf state.db job.data.callId ∧
      (findTranscript state.db job.data.callId).isSome ∧
        (met.stop = none ∨ job.attemptsMade + 1 < job.attempts)

/-- No call that a job waits for has left the account that is asked about. -/
def AsksInTime (state : SearchState) (input : RagQuery) : Prop :=
  ∀ vector ∈ state.vectors, vector.accountId = input.accountId →
    (∃ job ∈ state.queue, job.pending = true ∧ job.data.callId = vector.callId) →
      accountOf state.db vector.callId = some vector.accountId

def IndexFollows (maskPII : Text → Text) (resolver : Resolver) (minRelevanceScore : ℚ)
    (state : SearchState) (action : SearchAction) : Prop :=
  match action with
  | .changes _ _ => MovesInTime state (searchStep maskPII resolver minRelevanceScore state action)
  | .runJob jobId met => RunsInTime state jobId met
  | .ragQuery input _ => AsksInTime state input
  | .forgetAnswer _ => True

section

variable {resolver : Resolver} {db : Database} {change : CallChange} {state : SearchState}
  {failedAdds : Nat}

theorem Submits.committed {ε : Type} {outcome : Except ε Database}
    (same : ∀ later, outcome = .ok later → SameIds db later) :
    Submits db (committed db outcome) := by
  cases outcome with
  | error failure => exact .nothing (.refl db)
  | ok later => exact .nothing (same later rfl).keepsCalls

theorem applyChange_submits (table : CallTable db) :
    Submits db (applyChange resolver db change) ∨ ∃ payload, change = .addJob payload := by
  cases change with
  | resolveCall callId accountId organizationId =>
    exact .inl (.committed fun _ ran => resolveCall_sameIds ran)
  | applyEntityResolutionFixes organizationId fixes =>
    exact .inl (.nothing (applyEntityResolutionFixes_sameIds db organizationId fixes).keepsCalls)
  | persistCall organizationId provider call stop =>
    exact .inl (persistCall_submits resolver organizationId provider call stop)
  | ingestRecording organizationId recording provider now =>
    exact .inl (ingestRecording_submits resolver organizationId recording provider now)
  | handleEvent event => exact .inl (handleEvent_submits resolver table event)
  | executeMerge organizationId primaryId secondaryId initiatedByUserId notes =>
    refine .inl (.committed fun later ran => ?_)
    obtain ⟨⟨after, result⟩, merges, rfl⟩ := map_eq_ok.mp ran
    exact executeMerge_sameIds merges
  | undoMerge organizationId mergeRunId undoneByUserId now =>
    refine .inl (.committed fun later ran => ?_)
    obtain ⟨⟨after, result⟩, undoes, rfl⟩ := map_eq_ok.mp ran
    exact undoMerge_sameIds undoes
  | mergeAccounts sourceAccountId targetAccountId organizationId =>
    exact .inl (.committed fun _ ran => mergeAccounts_sameIds ran)
  | addJob payload => exact .inr ⟨payload, rfl⟩

theorem Submits.callTable {later : Database} (submits : Submits db later) (table : CallTable db) :
    CallTable later := by
  cases submits with
  | nothing keeps => exact keeps.table table
  | job job keeps known account => exact (keeps.table table).same rfl rfl

theorem Submits.account {later : Database} (submits : Submits db later)
    (empty : db.processCallJobs = []) {job : ProcessCallJob} (member : job ∈ later.processCallJobs) :
    job.accountId = accountOf later job.callId := by
  cases submits with
  | nothing keeps =>
    rw [keeps.processCallJobs, empty] at member
    cases member
  | @job between submitted keeps known account =>
    have outbox : (Ingestion.enqueueProcessCallJob submitted between).processCallJobs =
        [submitted] := by
      simp [Ingestion.enqueueProcessCallJob, keeps.processCallJobs, empty]
    rw [outbox] at member
    obtain rfl := List.mem_singleton.mp member
    exact account

end

end StoryEngine.Processing
