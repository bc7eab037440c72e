import StoryEngine.Accounts.Domains
import StoryEngine.Processing.Arrivals

namespace StoryEngine.Processing

open Accounts Data Ingestion Resolution Schema Statements

/-! # What the operations do to the calls

Calls get other accounts, new calls come in, and a job is enqueued under the account that
its call has then.
-/

def accountOf (db : Database) (callId : RowId) : Option RowId :=
  (db.calls.find? (·.id == callId)).bind (·.accountId)

def KnownCall (db : Database) (callId : RowId) : Prop := callId ∈ db.calls.map (·.id)

/-- The ids of the calls are distinct and were handed out. -/
structure CallTable (db : Database) : Prop where
  distinct : (db.calls.map (·.id)).Nodup
  fresh : CallsFresh db

structure SameIds (before after : Database) : Prop where
  ids : after.calls.map (·.id) = before.calls.map (·.id)
  processCallJobs : after.processCallJobs = before.processCallJobs
  nextId : before.nextId ≤ after.nextId

structure KeepsCalls (before after : Database) : Prop where
  table : CallTable before → CallTable after
  known : ∀ callId, KnownCall before callId → KnownCall after callId
  processCallJobs : after.processCallJobs = before.processCallJobs

/-- The last step may be to enqueue a job under the account of its call. -/
inductive Submits (before : Database) : Database → Prop where
  | nothing {after : Database} (keeps : KeepsCalls before after) : Submits before after
  | job {between : Database} (job : ProcessCallJob) (keeps : KeepsCalls before between)
      (known : KnownCall between job.callId)
      (account : job.accountId = accountOf between job.callId) :
      Submits before (Ingestion.enqueueProcessCallJob job between)

section

variable {before after later : Database}

theorem CallTable.same (table : CallTable before) (calls : after.calls = before.calls)
    (nextId : after.nextId = before.nextId) : CallTable after where
  distinct := calls ▸ table.distinct
  fresh := fun call member => nextId ▸ table.fresh call (calls ▸ member)

theorem SameIds.refl (db : Database) : SameIds db db := ⟨rfl, rfl, Nat.le_refl _⟩

theorem SameIds.trans (first : SameIds before after) (second : SameIds after later) :
    SameIds before later :=
  ⟨second.ids.trans first.ids, second.processCallJobs.trans first.processCallJobs,
    Nat.le_trans first.nextId second.nextId⟩

theorem SameIds.ofUpdate {selects : Call → Bool} {change : Call → Call}
    (calls : after.calls = updateWhere before.calls selects change)
    (kept : ∀ call, (change call).id = call.id)
    (processCallJobs : after.processCallJobs = before.processCallJobs)
    (nextId : before.nextId ≤ after.nextId) : SameIds before after :=
  ⟨by rw [calls, map_updateWhere kept], processCallJobs, nextId⟩

theorem SameIds.ofCalls (calls : after.calls = before.calls)
    (processCallJobs : after.processCallJobs = before.processCallJobs)
    (nextId : before.nextId ≤ after.nextId) : SameIds before after :=
  ⟨by rw [calls], processCallJobs, nextId⟩

theorem SameIds.ofRelinks {callId : RowId} (relinks : Relinks callId before after) :
    SameIds before after := by
  obtain ⟨change, relabels, calls⟩ := relinks.calls
  exact .ofUpdate calls (relabels.column Call.id fun _ => rfl) relinks.processCallJobs relinks.nextId

theorem SameIds.keepsCalls (same : SameIds before after) : KeepsCalls before after where
  table := by
    intro table
    refine ⟨same.ids ▸ table.distinct, fun call member => ?_⟩
    have there : call.id ∈ before.calls.map (·.id) := same.ids ▸ List.mem_map_of_mem member
    obtain ⟨old, inOld, isOld⟩ := List.mem_map.mp there
    exact isOld ▸ Nat.lt_of_lt_of_le (table.fresh old inOld) same.nextId
  known := by
    intro callId known
    rwa [KnownCall, same.ids]
  processCallJobs := same.processCallJobs

theorem KeepsCalls.refl (db : Database) : KeepsCalls db db := (SameIds.refl db).keepsCalls

theorem KeepsCalls.trans (first : KeepsCalls before after) (second : KeepsCalls after later) :
    KeepsCalls before later :=
  ⟨second.table ∘ first.table, fun callId known => second.known callId (first.known callId known),
    second.processCallJobs.trans first.processCallJobs⟩

theorem KeepsCalls.created {call : Call} (calls : after.calls = before.calls ++ [call])
    (id : call.id = before.nextId) (nextId : before.nextId < after.nextId)
    (processCallJobs : after.processCallJobs = before.processCallJobs) :
    KeepsCalls before after where
  table := by
    intro table
    refine ⟨?_, table.fresh.created calls id nextId⟩
    rw [calls, List.map_append, List.nodup_append]
    refine ⟨table.distinct, by simp, fun old inOld new inNew same => ?_⟩
    obtain ⟨row, member, rfl⟩ := List.mem_map.mp inOld
    obtain rfl : new = call.id := by simpa using inNew
    have less := table.fresh row member
    rw [same, id] at less
    exact Nat.lt_irrefl _ less
  known := by
    intro callId known
    rw [KnownCall, calls, List.map_append]
    exact List.mem_append_left _ known
  processCallJobs := processCallJobs

theorem Submits.after_keeps (keeps : KeepsCalls before after) (submits : Submits after later) :
    Submits before later := by
  cases submits with
  | nothing next => exact .nothing (keeps.trans next)
  | job job next known account => exact .job job (keeps.trans next) known account

theorem accountOf_eq {db : Database} {call : Call} (table : CallTable db) (member : call ∈ db.calls) :
    accountOf db call.id = call.accountId := by
  cases found : db.calls.find? (·.id == call.id) with
  | none => exact absurd (List.find?_eq_none.mp found call member) (by simp)
  | some row =>
    have same : row.id = call.id := by simpa using List.find?_some found
    obtain rfl := eq_of_key table.distinct (List.mem_of_find?_eq_some found) member same
    rw [accountOf, found]
    rfl

end

section

variable {db after : Database} {organizationId : RowId}

theorem resolveCall_sameIds {cases : CaseMapping} {callId accountId : RowId}
    (ran : resolveCall cases db callId accountId organizationId = .ok after) : SameIds db after :=
  .ofRelinks (resolveCall_relinks ran)

theorem applyFix_sameIds (state : Database × Nat) (fix : EntityResolutionFix) :
    SameIds state.1 (applyFix organizationId state fix).1 := by
  unfold applyFix
  split
  · exact .ofUpdate rfl (fun _ => rfl) rfl (Nat.le_refl _)
  · exact .refl state.1

theorem applyEntityResolutionFixes_sameIds (db : Database) (organizationId : RowId)
    (fixes : List EntityResolutionFix) :
    SameIds db (applyEntityResolutionFixes db organizationId fixes).1 := by
  suffices general : ∀ state : Database × Nat,
      SameIds state.1 (fixes.foldl (applyFix organizationId) state).1 from general (db, 0)
  induction fixes with
  | nil => exact fun state => .refl state.1
  | cons fix rest ih => exact fun state => (applyFix_sameIds state fix).trans (ih _)

theorem moveContact_sameIds {primaryAccountId : RowId} {emails : List Text}
    {state next : Database × List RowId} {contact : Contact}
    (ran : moveContact primaryAccountId emails state contact = .ok next) :
    SameIds state.1 next.1 := by
  unfold moveContact at ran
  dsimp only at ran
  split at ran
  · simp only [Data.bind_eq_ok, statement_eq_ok, pure_eq_ok] at ran
    obtain ⟨_, ⟨_, rfl⟩, _, ⟨_, rfl⟩, rfl⟩ := ran
    exact .ofCalls rfl rfl (Nat.le_refl _)
  · simp only [Data.bind_eq_ok, statement_eq_ok, pure_eq_ok] at ran
    obtain ⟨_, ⟨_, rfl⟩, rfl⟩ := ran
    exact .ofCalls rfl rfl (Nat.le_refl _)

theorem moveContacts_sameIds {primaryAccountId secondaryAccountId : RowId}
    {moved : Database × List RowId}
    (ran : moveContacts db primaryAccountId secondaryAccountId = .ok moved) : SameIds db moved.1 :=
  foldlM_invariant (fun _ state => SameIds db state.1)
    (fun _ _ _ _ _ _ same turn => same.trans (moveContact_sameIds turn)) (.refl db) ran

theorem addDomainAlias_sameIds {primary secondary : Account} {added : Database × List Text}
    (ran : addDomainAlias db primary secondary = .ok added) : SameIds db added.1 := by
  unfold addDomainAlias at ran
  split at ran
  · obtain rfl := pure_eq_ok.mp ran
    exact .refl db
  · simp only [Data.bind_eq_ok, statement_eq_ok, pure_eq_ok] at ran
    obtain ⟨_, ⟨_, rfl⟩, rfl⟩ := ran
    exact .ofCalls rfl rfl (Nat.le_succ _)

theorem moveAlias_sameIds {primary : Account} {state next : Database × List Text}
    {row : AccountDomain} (ran : moveAlias primary state row = .ok next) :
    SameIds state.1 next.1 := by
  unfold moveAlias at ran
  dsimp only at ran
  split at ran
  · simp only [Data.bind_eq_ok, statement_eq_ok, pure_eq_ok] at ran
    obtain ⟨_, ⟨_, rfl⟩, rfl⟩ := ran
    exact .ofCalls rfl rfl (Nat.le_refl _)
  · split at ran
    · simp only [Data.bind_eq_ok, statement_eq_ok, pure_eq_ok] at ran
      obtain ⟨_, ⟨_, rfl⟩, rfl⟩ := ran
      exact .ofCalls rfl rfl (Nat.le_refl _)
    · simp only [Data.bind_eq_ok, statement_eq_ok, pure_eq_ok] at ran
      obtain ⟨_, ⟨_, rfl⟩, rfl⟩ := ran
      exact .ofCalls rfl rfl (Nat.le_refl _)

theorem moveAliases_sameIds {primary secondary : Account} {state moved : Database × List Text}
    (ran : moveAliases primary secondary state = .ok moved) : SameIds state.1 moved.1 :=
  foldlM_invariant (fun _ next => SameIds state.1 next.1)
    (fun _ _ _ _ _ _ same turn => same.trans (moveAlias_sameIds turn)) (.refl state.1) ran

theorem mergeCrmIdentifiers_sameIds {primary secondary : Account}
    (ran : mergeCrmIdentifiers db primary secondary = .ok after) : SameIds db after := by
  unfold mergeCrmIdentifiers at ran
  dsimp only at ran
  split at ran
  · obtain rfl := pure_eq_ok.mp ran
    exact .refl db
  · obtain ⟨_, rfl⟩ := statement_eq_ok.mp ran
    exact .ofCalls rfl rfl (Nat.le_refl _)

theorem moveCalls_sameIds (db : Database) (fromId toId : RowId) :
    SameIds db (moveCalls db fromId toId) :=
  .ofUpdate rfl (fun _ => rfl) rfl (Nat.le_refl _)

theorem deleteAccount_sameIds (db : Database) (fromId : RowId) :
    SameIds db (deleteAccount db fromId) :=
  .ofUpdate rfl (fun _ => rfl) rfl (Nat.le_refl _)

theorem executeMerge_sameIds {primaryId secondaryId : RowId} {initiatedByUserId : Option RowId}
    {notes : Option Text} {result : MergeResult}
    (ran : executeMerge db organizationId primaryId secondaryId initiatedByUserId notes =
      .ok (after, result)) : SameIds db after := by
  simp only [executeMerge, Data.bind_eq_ok, required_eq_ok, ensure_eq_ok, statement_eq_ok,
    Prod.exists, pure_eq_ok, Prod.mk.injEq] at ran
  obtain ⟨primary, _, secondary, _, _, _, _, _, _, _, contactsMoved, _, contacts, callsMoved,
    ⟨_, isMoved⟩, _, ⟨_, rfl⟩, _, ⟨_, rfl⟩, accessMoved, ⟨_, isAccess⟩, added, _, adds, _, _, moves,
    identifiers, merges, deleted, ⟨_, rfl⟩, rfl, _⟩ := ran
  have access : SameIds callsMoved accessMoved :=
    isAccess ▸ .ofCalls rfl rfl (Nat.le_refl _)
  have calls : SameIds db callsMoved :=
    (moveContacts_sameIds contacts).trans (isMoved ▸ moveCalls_sameIds _ _ _)
  have domains : SameIds accessMoved identifiers :=
    ((addDomainAlias_sameIds adds).trans (moveAliases_sameIds moves)).trans
      (mergeCrmIdentifiers_sameIds merges)
  have recorded (db : Database) (run : AccountMergeRun) : SameIds db (recordMergeRun db run) :=
    .ofCalls rfl rfl (Nat.le_succ _)
  exact ((calls.trans access).trans domains).trans ((deleteAccount_sameIds _ _).trans (recorded _ _))

theorem undoMerge_sameIds {cases : CaseMapping} {mergeRunId : RowId}
    {undoneByUserId : Option RowId} {now : Date} {result : UndoResult}
    (ran : undoMerge cases db organizationId mergeRunId undoneByUserId now = .ok (after, result)) :
    SameIds db after := by
  simp only [undoMerge, Data.bind_eq_ok, required_eq_ok, ensure_eq_ok, statement_eq_ok, pure_eq_ok,
    Prod.mk.injEq] at ran
  obtain ⟨run, _, _, _, restored, restores, _, ⟨_, rfl⟩, _, ⟨_, rfl⟩, _, ⟨_, rfl⟩, rfl, _⟩ := ran
  have back : SameIds db restored := by
    rcases restoreSecondary_cases restores with rfl | ⟨_, _, rfl⟩
    · exact .refl _
    · exact .ofCalls rfl rfl (Nat.le_refl _)
  exact back.trans (.ofUpdate rfl (fun _ => rfl) rfl (Nat.le_refl _))

theorem absorbContact_sameIds {targetAccountId : RowId} {contact : Contact}
    (ran : absorbContact targetAccountId db contact = .ok after) : SameIds db after := by
  unfold absorbContact at ran
  split at ran
  · simp only [Data.bind_eq_ok, statement_eq_ok] at ran
    obtain ⟨_, ⟨_, rfl⟩, _, rfl⟩ := ran
    exact .ofCalls rfl rfl (Nat.le_refl _)
  · obtain ⟨_, rfl⟩ := statement_eq_ok.mp ran
    exact .ofCalls rfl rfl (Nat.le_refl _)

theorem copyAlias_sameIds {target : Account} {row : AccountDomain}
    (ran : copyAlias target db row = .ok after) : SameIds db after := by
  unfold copyAlias at ran
  split at ran
  · obtain ⟨_, rfl⟩ := statement_eq_ok.mp ran
    exact .ofCalls rfl rfl (Nat.le_succ _)
  · obtain rfl := pure_eq_ok.mp ran
    exact .refl db

theorem mergeAccounts_sameIds {sourceAccountId targetAccountId : RowId}
    (ran : mergeAccounts db sourceAccountId targetAccountId organizationId = .ok after) :
    SameIds db after := by
  simp only [mergeAccounts, Data.bind_eq_ok, required_eq_ok, ensure_eq_ok, statement_eq_ok,
    Prod.exists] at ran
  obtain ⟨source, _, target, _, _, _, _, ⟨_, rfl⟩, absorbed, absorbs, added, _, adds, copied, copies,
    _, ⟨_, rfl⟩, _, ⟨_, rfl⟩, _, ⟨_, rfl⟩, _, ⟨_, rfl⟩, _, rfl⟩ := ran
  have contacts : SameIds db absorbed :=
    foldlM_invariant (fun _ state => SameIds db state)
      (fun _ _ _ _ _ _ same turn => same.trans (absorbContact_sameIds turn))
      (moveCalls_sameIds db sourceAccountId targetAccountId) absorbs
  have aliases : SameIds added copied :=
    foldlM_invariant (fun _ state => SameIds added state)
      (fun _ _ _ _ _ _ same turn => same.trans (copyAlias_sameIds turn)) (.refl added) copies
  have moved (db : Database) : SameIds db (moveUserAccess (moveSalesforceEvents (moveStories
      (deleteAliases db sourceAccountId) sourceAccountId targetAccountId) sourceAccountId
        targetAccountId) sourceAccountId targetAccountId) :=
    .ofCalls rfl rfl (Nat.le_refl _)
  exact (((contacts.trans (addDomainAlias_sameIds adds)).trans aliases).trans (moved copied)).trans
    (deleteAccount_sameIds _ _)

end

section

variable {db stored written : Database} {organizationId : RowId} {provider : CallProvider}
  {recording : MergeRecording} {now : Date} {call : Call}

theorem WritesParticipants.sameIds (writes : WritesParticipants db written) : SameIds db written :=
  .ofCalls writes.calls writes.processCallJobs writes.nextId

theorem storeTranscript_sameIds (db : Database) (callId : RowId) (transcript : Option Text) :
    SameIds db (storeTranscript callId transcript db) := by
  unfold storeTranscript
  split <;> exact .ofCalls rfl rfl (Nat.le_refl _)

theorem Upserts.keepsCalls (upserts : Upserts organizationId provider recording now db call written) :
    KeepsCalls db written ∧ KnownCall written call.id := by
  cases upserts with
  | refreshed existing found =>
    have same : SameIds db (updateCall db existing.id recording.refresh) :=
      .ofUpdate rfl (fun _ => rfl) rfl (Nat.le_refl _)
    have there : KnownCall db existing.id := List.mem_map_of_mem (List.mem_of_find?_eq_some found)
    exact ⟨same.keepsCalls, same.keepsCalls.known _ there⟩
  | created missing =>
    exact ⟨.created rfl rfl (Nat.lt_succ_self _) rfl, by simp [KnownCall]⟩

theorem Stores.keepsCalls {normalized : NormalizedCall} {hasTranscript : Bool}
    (stores : Stores organizationId provider normalized db call hasTranscript written) :
    KeepsCalls db written ∧ KnownCall written call.id := by
  cases stores with
  | refreshed existing found =>
    have same : SameIds db (updateCall db existing.id
        (refreshed normalized.title normalized.recordingUrl normalized.duration)) :=
      .ofUpdate rfl (fun _ => rfl) rfl (Nat.le_refl _)
    have there : KnownCall db existing.id := List.mem_map_of_mem (List.mem_of_find?_eq_some found)
    exact ⟨same.keepsCalls, same.keepsCalls.known _ there⟩
  | created _ missing creates =>
    exact ⟨.created creates.calls rfl creates.nextId creates.processCallJobs, by
      simp [KnownCall, creates.calls]⟩

theorem accountOf_updateCall {callId : RowId} {change : Call → Call} {accountId : Option RowId}
    (known : KnownCall db callId) (kept : ∀ call, (change call).id = call.id)
    (account : ∀ call, (change call).accountId = accountId) :
    accountOf (updateCall db callId change) callId = accountId := by
  obtain ⟨row, member, isCall⟩ := List.mem_map.mp known
  rw [accountOf, updateCall, find?_updateWhere fun call => by rw [kept]]
  cases found : db.calls.find? (·.id == callId) with
  | none => exact absurd (List.find?_eq_none.mp found row member) (by simpa using isCall)
  | some row =>
    have named : row.id = callId := by simpa using List.find?_some found
    simp [named, account]

theorem resolveAndLinkContacts_account {resolver : Resolver} {callId : RowId}
    {participants : List CallParticipantInput} {callTitle : Option Text}
    (known : KnownCall db callId) :
    accountOf (resolveAndLinkContacts resolver db organizationId callId participants callTitle).1
        callId =
      (resolveAndLinkContacts resolver db organizationId callId participants callTitle).2.map
        (·.accountId) := by
  unfold resolveAndLinkContacts
  cases resolve resolver db organizationId participants callTitle with
  | none => exact accountOf_updateCall known (fun _ => rfl) fun _ => rfl
  | some resolution =>
    refine accountOf_updateCall ?_ (fun _ => rfl) fun _ => rfl
    rwa [KnownCall, linkContacts_calls]

theorem finishRecording_submits (resolver : Resolver) (known : KnownCall db call.id) :
    Submits db (after (finishRecording resolver organizationId recording call db)) := by
  rw [finishRecording_eq]
  dsimp only [after]
  have relinks : Relinks call.id db (resolveAndLinkContacts resolver db organizationId call.id
      (recording.participants.map RecordingParticipant.input) none).1 :=
    resolveAndLinkContacts_relinks
  have account := @resolveAndLinkContacts_account db organizationId resolver call.id
    (recording.participants.map RecordingParticipant.input) none known
  generalize resolveAndLinkContacts resolver db organizationId call.id
    (recording.participants.map RecordingParticipant.input) none = linked at relinks account
  have kept : KeepsCalls db (storeTranscript call.id recording.transcript linked.1) :=
    ((SameIds.ofRelinks relinks).trans (storeTranscript_sameIds _ _ _)).keepsCalls
  refine .job _ kept (kept.known _ known) ?_
  rw [accountOf, storeTranscript_calls]
  exact account.symm

theorem recording_submits (resolver : Resolver) (participants : Call → List CallParticipant)
    {statement : CallParticipant → Ingest PUnit}
    (writes : ∀ participant, Keeps WritesParticipants (statement participant)) :
    Submits db (after ((do
      let call ← upsertCall organizationId provider recording now
      each (participants call) statement
      finishRecording resolver organizationId recording call : Ingest PUnit) db)) := by
  rw [bind_apply]
  cases ran : upsertCall organizationId provider recording now db with
  | error failure written =>
    obtain rfl := upsertCall_error ran
    exact .nothing (.refl written)
  | ok call stored =>
    obtain ⟨kept, known⟩ := Upserts.keepsCalls (upsertCall_eq_ok ran)
    refine .after_keeps kept ?_
    dsimp only
    rw [bind_apply]
    have stores : Keeps WritesParticipants (each (participants call) statement) :=
      .each .refl .trans fun participant _ => writes participant
    cases each : each (participants call) statement stored with
    | error failure written => exact .nothing (WritesParticipants.sameIds (stores.error each)).keepsCalls
    | ok _ written =>
      have same := (WritesParticipants.sameIds (stores.ok each)).keepsCalls
      exact .after_keeps same (finishRecording_submits resolver (same.known _ known))

theorem ingestRecording_submits (resolver : Resolver) (organizationId : RowId)
    (recording : MergeRecording) (provider : CallProvider) (now : Date) :
    Submits db (after (ingestRecording resolver organizationId recording provider now db)) :=
  recording_submits resolver _ createParticipant_writes

theorem locateReady_keeps (table : CallTable db) (externalId : Text) {located : LocatedCall}
    (ran : locateReady organizationId provider externalId now db = .ok located written) :
    KeepsCalls db written ∧ KnownCall written located.callId ∧
      located.accountId = accountOf written located.callId := by
  unfold locateReady at ran
  split at ran
  · next existing found =>
      obtain ⟨rfl, rfl⟩ := EStateM.Result.ok.inj ran
      have member := List.mem_of_find?_eq_some found
      exact ⟨.refl db, List.mem_map_of_mem member, (accountOf_eq table member).symm⟩
  · obtain ⟨call, stored, creates, returns⟩ := Statements.bind_eq_ok.mp ran
    obtain ⟨isCall, rfl⟩ := createCall_eq_ok creates
    obtain ⟨rfl, rfl⟩ := EStateM.Result.ok.inj returns
    have kept : KeepsCalls db
        { db with nextId := db.nextId + 1, calls := db.calls ++ [call] } :=
      .created rfl (by rw [isCall]) (Nat.lt_succ_self _) rfl
    exact ⟨kept, by simp [KnownCall], (accountOf_eq (kept.table table) (by simp)).symm⟩

theorem handleEvent_submits (resolver : Resolver) (table : CallTable db) (event : WebhookEvent) :
    Submits db (after (handleEvent resolver event db)) := by
  cases event with
  | recording organizationId integration recording now =>
    rw [handleEvent_recording]
    exact recording_submits resolver _ storeParticipant_writes
  | ready organizationId provider externalId transcript now =>
    unfold handleEvent
    rw [bind_apply]
    cases ran : locate resolver (.ready organizationId provider externalId transcript now) db with
    | error failure written =>
      have same : written = db := by
        simp only [locate, locateReady] at ran
        split at ran
        · cases ran
        · rw [bind_apply, createCall] at ran
          split at ran
          · cases ran
          · next failed =>
              split at failed
              · obtain ⟨_, rfl⟩ := EStateM.Result.error.inj failed
                exact (EStateM.Result.error.inj ran).2.symm
              · cases failed
      exact .nothing (same ▸ .refl db)
    | ok located written =>
      obtain ⟨kept, known, account⟩ := locateReady_keeps table externalId ran
      have stored := (storeTranscript_sameIds written located.callId transcript).keepsCalls
      refine .job _ (kept.trans stored) (stored.known _ known) ?_
      rw [accountOf, storeTranscript_calls]
      exact account

theorem enqueueTranscript_submits {stop : Option PersistStep} {callId : RowId}
    (known : KnownCall db callId) :
    Submits db (after (enqueueTranscript stop organizationId callId db)) := by
  by_cases early : stop = some .accountLookup
  · simp only [enqueueTranscript, reach, bind_apply, early, if_true]
    exact .nothing (.refl db)
  by_cases late : stop = some .enqueue
  · have stopped : enqueueTranscript stop organizationId callId db = .error .interrupted db := by
      simp [enqueueTranscript, reach, bind_apply, late]
      rfl
    rw [stopped]
    exact .nothing (.refl db)
  · have enqueued : enqueueTranscript stop organizationId callId db =
        .ok ⟨⟩ (Ingestion.enqueueProcessCallJob {
          callId, organizationId, accountId := accountOf db callId, hasTranscript := true } db) := by
      simp only [enqueueTranscript, reach, bind_apply, if_neg early, if_neg late]
      rfl
    rw [enqueued]
    exact .job _ (.refl db) known rfl

theorem persistCall_submits (resolver : Resolver) (organizationId : RowId)
    (provider : CallProvider) (normalized : NormalizedCall) (stop : Option PersistStep) :
    Submits db (after (persistCall resolver organizationId provider normalized stop db)) := by
  unfold persistCall
  refine .after_keeps (.refl db) ?_
  rw [bind_apply]
  by_cases early : stop = some .transaction
  · rw [show reach stop .transaction db = .error .interrupted db from if_pos early]
    exact .nothing (.refl db)
  rw [show reach stop .transaction db = .ok ⟨⟩ db from if_neg early]
  dsimp only
  rw [bind_apply]
  cases ran : storeCall organizationId provider normalized db with
  | error failure written =>
    obtain rfl := storeCall_error ran
    exact .nothing (.refl written)
  | ok result stored =>
    obtain ⟨row, hasTranscript⟩ := result
    obtain ⟨kept, known⟩ := Stores.keepsCalls (storeCall_eq_ok ran)
    refine .after_keeps kept ?_
    dsimp only
    rw [bind_apply]
    cases links : linkCall resolver stop organizationId row.id normalized stored with
    | error failure linked =>
      exact .nothing (SameIds.ofRelinks ((linkCall_relinks normalized).error links)).keepsCalls
    | ok _ linked =>
      have same := (SameIds.ofRelinks ((linkCall_relinks normalized).ok links)).keepsCalls
      refine .after_keeps same ?_
      dsimp only
      split
      · exact enqueueTranscript_submits (same.known _ known)
      · exact .nothing (.refl linked)

end

end StoryEngine.Processing
