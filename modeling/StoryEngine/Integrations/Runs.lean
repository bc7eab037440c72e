import StoryEngine.Data.Interleaving
import StoryEngine.Data.Keys
import StoryEngine.Schema.Rows

namespace StoryEngine.Integrations

open Data Schema

/-! # Integration runs

`syncIntegration` takes the run of its idempotency key, calls the provider and
records how the run ended.  Every database statement is one turn of the caller.
-/

inductive RunType where
  | scheduled
  | manual
  | backfill
  | replay
deriving DecidableEq

inductive RunStatus where
  | running
  | completed
  | failed
deriving DecidableEq

structure IntegrationRun where
  id : RowId
  organizationId : RowId
  integrationConfigId : Option RowId := none
  runType : RunType
  status : RunStatus
  idempotencyKey : Option Text := none
  processedCount : Nat := 0
  successCount : Nat := 0
  failureCount : Nat := 0
  errorMessage : Option Text := none
deriving DecidableEq

structure RunTable where
  nextId : RowId := 1
  rows : List IntegrationRun := []

/-- The key of the unique index on organization and idempotency key. -/
structure RunKey where
  organizationId : RowId
  idempotencyKey : Text
deriving DecidableEq

def IntegrationRun.hasKey (run : IntegrationRun) (key : RunKey) : Bool :=
  run.organizationId == key.organizationId && run.idempotencyKey == some key.idempotencyKey

/-- The arguments of a call, and what the sync of the provider comes to: the
number of synced records, or the message of an error. -/
structure SyncInput where
  configId : RowId
  key : RunKey
  runType : RunType
  synced : Except Text Nat

inductive SyncCallError where
  | uniqueViolation
  | recordNotFound
  | syncFailed (message : Text)

inductive SyncStage where
  | called
  | restarting (runId : RowId)
  | creating
  | syncing (runId : RowId)
  | ended (runId : RowId) (result : Except Text Nat)
  | returned (runId : RowId) (skipped : Bool)
  | thrown (failure : SyncCallError)

structure SyncCall where
  input : SyncInput
  stage : SyncStage := .called

/-- `integrationRun.update({ where: { id } })` throws when there is no such row. -/
def updateRun (table : RunTable) (runId : RowId) (change : IntegrationRun → IntegrationRun) :
    Except SyncCallError RunTable :=
  if table.rows.any (·.id == runId) then
    .ok { table with rows := updateWhere table.rows (·.id == runId) change }
  else .error .recordNotFound

def restarted (run : IntegrationRun) : IntegrationRun :=
  { run with
    status := .running
    processedCount := 0
    successCount := 0
    failureCount := 0
    errorMessage := none }

def createRun (table : RunTable) (input : SyncInput) : Except SyncCallError (RunTable × RowId) :=
  if table.rows.any (·.hasKey input.key) then .error .uniqueViolation
  else .ok ({
    nextId := table.nextId + 1
    rows := table.rows ++ [{
      id := table.nextId
      organizationId := input.key.organizationId
      integrationConfigId := some input.configId
      runType := input.runType
      status := .running
      idempotencyKey := some input.key.idempotencyKey }] }, table.nextId)

def finished (result : Except Text Nat) (run : IntegrationRun) : IntegrationRun :=
  match result with
  | .ok count =>
    { run with
      status := .completed
      processedCount := count
      successCount := count
      failureCount := 0
      errorMessage := none }
  | .error message =>
    { run with
      status := .failed
      processedCount := 0
      successCount := 0
      failureCount := 1
      errorMessage := some message }

/-- The first statement of `startIntegrationRun`: a run that is completed or
running is returned, any other one is started again, and a new one is created
when there is none. -/
def findRun (table : RunTable) (key : RunKey) : SyncStage :=
  match table.rows.find? (·.hasKey key) with
  | none => .creating
  | some existing =>
    if existing.status = .completed ∨ existing.status = .running then .returned existing.id true
    else .restarting existing.id

/-- What `syncIntegration` comes to once the end of its run is recorded. -/
def outcome (runId : RowId) : Except Text Nat → SyncStage
  | .ok _ => .returned runId false
  | .error message => .thrown (.syncFailed message)

def syncStep (table : RunTable) (input : SyncInput) : SyncStage → RunTable × SyncStage
  | .called => (table, findRun table input.key)
  | .restarting runId =>
    match updateRun table runId restarted with
    | .error failure => (table, .thrown failure)
    | .ok next => (next, .syncing runId)
  | .creating =>
    match createRun table input with
    | .error failure => (table, .thrown failure)
    | .ok (next, runId) => (next, .syncing runId)
  | .syncing runId => (table, .ended runId input.synced)
  | .ended runId result =>
    match updateRun table runId (finished result) with
    | .error failure => (table, .thrown failure)
    | .ok next => (next, outcome runId result)
  | .returned runId skipped => (table, .returned runId skipped)
  | .thrown failure => (table, .thrown failure)

def advance (table : RunTable) (call : SyncCall) : RunTable × SyncCall :=
  ((syncStep table call.input call.stage).1,
    { call with stage := (syncStep table call.input call.stage).2 })

abbrev SyncSystem := Interleaved RunTable SyncCall

def syncTurn (system : SyncSystem) (index : Nat) : SyncSystem := turn advance system index

def Listed (key : RunKey) (table : RunTable) (runId : RowId) : Prop :=
  ∃ row ∈ table.rows, row.hasKey key = true ∧ row.id = runId

def StatusOf (key : RunKey) (table : RunTable) (allowed : RunStatus → Prop) : Prop :=
  ∀ row ∈ table.rows, row.hasKey key = true → allowed row.status

def OneRow (key : RunKey) (table : RunTable) : Prop :=
  ∀ left ∈ table.rows, ∀ right ∈ table.rows,
    left.hasKey key = true → right.hasKey key = true → left.id = right.id

inductive Moves (table : RunTable) (input : SyncInput) :
    SyncStage → RunTable → SyncStage → Prop where
  | finds_none (free : ∀ row ∈ table.rows, row.hasKey input.key = false) :
      Moves table input .called table .creating
  | finds_taken (runId : RowId) (listed : Listed input.key table runId) :
      Moves table input .called table (.returned runId true)
  | finds_failed (runId : RowId) (listed : Listed input.key table runId) :
      Moves table input .called table (.restarting runId)
  | restarts (runId : RowId) :
      Moves table input (.restarting runId)
        { table with rows := updateWhere table.rows (·.id == runId) restarted } (.syncing runId)
  | clashes (runId : RowId) (listed : Listed input.key table runId) :
      Moves table input .creating table (.thrown .uniqueViolation)
  | creates (next : RunTable) (runId : RowId)
      (free : ∀ row ∈ table.rows, row.hasKey input.key = false)
      (created : createRun table input = .ok (next, runId)) :
      Moves table input .creating next (.syncing runId)
  | syncs (runId : RowId) : Moves table input (.syncing runId) table (.ended runId input.synced)
  | completes (runId : RowId) (count : Nat) :
      Moves table input (.ended runId (.ok count))
        { table with rows := updateWhere table.rows (·.id == runId) (finished (.ok count)) }
        (.returned runId false)
  | fails (runId : RowId) (message : Text) :
      Moves table input (.ended runId (.error message))
        { table with rows := updateWhere table.rows (·.id == runId) (finished (.error message)) }
        (.thrown (.syncFailed message))
  | stays_returned (runId : RowId) (skipped : Bool) :
      Moves table input (.returned runId skipped) table (.returned runId skipped)
  | stays_thrown (failure : SyncCallError) :
      Moves table input (.thrown failure) table (.thrown failure)

def SyncStage.runId : SyncStage → Option RowId
  | .restarting runId | .syncing runId | .ended runId _ | .returned runId _ => some runId
  | _ => none

section

variable {key : RunKey} {table : RunTable} {input : SyncInput} {stage : SyncStage} {runId : RowId}

@[simp] theorem hasKey_restarted (run : IntegrationRun) :
    (restarted run).hasKey key = run.hasKey key := rfl

@[simp] theorem hasKey_finished (result : Except Text Nat) (run : IntegrationRun) :
    (finished result run).hasKey key = run.hasKey key := by
  cases result <;> rfl

@[simp] theorem id_restarted (run : IntegrationRun) : (restarted run).id = run.id := rfl

@[simp] theorem id_finished (result : Except Text Nat) (run : IntegrationRun) :
    (finished result run).id = run.id := by
  cases result <;> rfl

theorem Listed.updateRun (listed : Listed key table runId)
    (change : IntegrationRun → IntegrationRun) :
    updateRun table runId change =
      .ok { table with rows := updateWhere table.rows (·.id == runId) change } := by
  obtain ⟨row, member, _, named⟩ := listed
  have found : table.rows.any (·.id == runId) = true :=
    List.any_eq_true.mpr ⟨row, member, by simpa using named⟩
  rw [Integrations.updateRun, if_pos found]

theorem syncStep_moves
    (listed : ∀ runId, stage.runId = some runId → Listed input.key table runId) :
    Moves table input stage (syncStep table input stage).1 (syncStep table input stage).2 := by
  cases stage with
  | called =>
    cases found : table.rows.find? (·.hasKey input.key) with
    | none =>
      have step : findRun table input.key = .creating := by rw [findRun, found]
      rw [syncStep, step]
      refine .finds_none fun row member => ?_
      simpa using List.find?_eq_none.mp found row member
    | some existing =>
      have there : Listed input.key table existing.id :=
        ⟨existing, List.mem_of_find?_eq_some found, by simpa using List.find?_some found, rfl⟩
      rw [syncStep, findRun, found]
      dsimp only
      split
      · exact .finds_taken existing.id there
      · exact .finds_failed existing.id there
  | restarting runId =>
    rw [syncStep, (listed runId rfl).updateRun]
    exact .restarts runId
  | creating =>
    cases taken : table.rows.any (·.hasKey input.key) with
    | true =>
      obtain ⟨row, member, has⟩ := List.any_eq_true.mp taken
      have clash : createRun table input = .error .uniqueViolation := by
        rw [createRun, if_pos taken]
      rw [syncStep, clash]
      exact .clashes row.id ⟨row, member, has, rfl⟩
    | false =>
      have free : ∀ row ∈ table.rows, row.hasKey input.key = false := by simpa using taken
      cases created : createRun table input with
      | error failure => simp [createRun, taken] at created
      | ok outcome =>
        rw [syncStep, created]
        exact .creates outcome.1 outcome.2 free created
  | syncing runId => exact .syncs runId
  | ended runId result =>
    rw [syncStep, (listed runId rfl).updateRun]
    cases result with
    | ok count => exact .completes runId count
    | error message => exact .fails runId message
  | returned runId skipped => exact .stays_returned runId skipped
  | thrown failure => exact .stays_thrown failure

theorem createRun_eq_ok {next : RunTable} (created : createRun table input = .ok (next, runId)) :
    ∃ row, next.rows = table.rows ++ [row] ∧ row.hasKey input.key = true ∧ row.id = runId ∧
      row.status = .running := by
  unfold createRun at created
  split at created
  · cases created
  · obtain ⟨rfl, rfl⟩ := Prod.mk.inj (Except.ok.inj created)
    exact ⟨_, rfl, by simp [IntegrationRun.hasKey], rfl, rfl⟩

end

end StoryEngine.Integrations
