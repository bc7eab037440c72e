import StoryEngine.Integrations.Runs

namespace StoryEngine.Integrations

open Data Schema

/-! # One execution for each idempotency key -/

def SyncStage.executing : SyncStage → Bool
  | .syncing _ => true
  | _ => false

def SyncStage.succeeded : SyncStage → Bool
  | .ended _ (.ok _) | .returned _ false => true
  | _ => false

def Executing (call : SyncCall) : Prop := call.stage.executing = true

def Succeeded (call : SyncCall) : Prop := call.stage.succeeded = true

/-- Calls with one key take turns at the provider, stop when one has succeeded,
and lose the race without an error. -/
structure OneExecution (key : RunKey) (system : SyncSystem) : Prop where
  alone : ∀ (index : Nat) (call : SyncCall), system.processes[index]? = some call →
    Executing call → Alone Executing system index
  afterSuccess : ∀ call ∈ system.processes, Succeeded call → Nobody Executing system
  afterCompletion : ∀ row ∈ system.shared.rows, row.hasKey key = true →
    row.status = .completed → Nobody Executing system
  thrown : ∀ call ∈ system.processes, ∀ failure, call.stage = .thrown failure →
    ∃ message, failure = .syncFailed message ∧ call.input.synced = .error message
  skipped : ∀ call ∈ system.processes, ∀ runId, call.stage = .returned runId true →
    Listed key system.shared runId

/-- What a caller found in the table still holds when it writes: a run that it
starts again is still failed, and one that it creates is still missing. -/
def stillAsFound (table : RunTable) (call : SyncCall) : Bool :=
  match call.stage with
  | .restarting runId => table.rows.all fun row => row.id != runId || row.status == .failed
  | .creating => table.rows.all fun row => !row.hasKey call.input.key
  | _ => true

def Undisturbed (system : SyncSystem) (index : Nat) : Prop :=
  ∀ call ∈ system.processes[index]?, stillAsFound system.shared call = true

instance (system : SyncSystem) (index : Nat) : Decidable (Undisturbed system index) :=
  inferInstanceAs (Decidable (∀ call ∈ system.processes[index]?, _))

section

variable {key : RunKey} {table next : RunTable} {input : SyncInput} {stage after : SyncStage}
  {runId other : RowId} {change : IntegrationRun → IntegrationRun}

theorem Listed.update (listed : Listed key table other)
    (has : ∀ row, (change row).hasKey key = row.hasKey key) (id : ∀ row, (change row).id = row.id) :
    Listed key { table with rows := updateWhere table.rows (·.id == runId) change } other := by
  obtain ⟨row, member, hasKey, named⟩ := listed
  cases selected : row.id == runId with
  | true =>
    exact ⟨change row, mem_updateWhere.mpr ⟨row, member, .inl ⟨selected, rfl⟩⟩,
      (has row).trans hasKey, (id row).trans named⟩
  | false => exact ⟨row, mem_updateWhere.mpr ⟨row, member, .inr ⟨selected, rfl⟩⟩, hasKey, named⟩

theorem Moves.listed (moves : Moves table input stage next after)
    (listed : Listed key table other) : Listed key next other := by
  cases moves with
  | restarts runId => exact listed.update hasKey_restarted id_restarted
  | creates next runId free created =>
    obtain ⟨row, rows, _⟩ := createRun_eq_ok created
    obtain ⟨old, member, hasKey, named⟩ := listed
    exact ⟨old, rows ▸ List.mem_append_left _ member, hasKey, named⟩
  | completes runId count | fails runId message =>
    exact listed.update (hasKey_finished _) (id_finished _)
  | finds_none | finds_taken | finds_failed | clashes | syncs | stays_returned | stays_thrown =>
    exact listed

theorem OneRow.update (one : OneRow key table)
    (has : ∀ row, (change row).hasKey key = row.hasKey key) (id : ∀ row, (change row).id = row.id) :
    OneRow key { table with rows := updateWhere table.rows (·.id == runId) change } := by
  have before : ∀ row ∈ updateWhere table.rows (·.id == runId) change,
      ∃ old ∈ table.rows, row.hasKey key = old.hasKey key ∧ row.id = old.id := by
    intro row member
    obtain ⟨old, inOld, ⟨_, rfl⟩ | ⟨_, rfl⟩⟩ := mem_updateWhere.mp member
    · exact ⟨old, inOld, has old, id old⟩
    · exact ⟨row, inOld, rfl, rfl⟩
  intro left inLeft right inRight leftKey rightKey
  obtain ⟨oldLeft, inOldLeft, leftHas, leftId⟩ := before left inLeft
  obtain ⟨oldRight, inOldRight, rightHas, rightId⟩ := before right inRight
  rw [leftId, rightId]
  exact one oldLeft inOldLeft oldRight inOldRight (leftHas ▸ leftKey) (rightHas ▸ rightKey)

theorem Moves.oneRow (moves : Moves table input stage next after) (own : input.key = key)
    (one : OneRow key table) : OneRow key next := by
  cases moves with
  | restarts runId => exact one.update hasKey_restarted id_restarted
  | creates next runId free created =>
    obtain ⟨row, rows, _⟩ := createRun_eq_ok created
    have only : ∀ other ∈ next.rows, other.hasKey key = true → other = row := by
      intro other member hasKey
      rw [rows] at member
      rcases List.mem_append.mp member with inOld | isNew
      · rw [← own, free other inOld] at hasKey
        cases hasKey
      · exact List.mem_singleton.mp isNew
    intro left inLeft right inRight leftKey rightKey
    rw [only left inLeft leftKey, only right inRight rightKey]
  | completes runId count | fails runId message =>
    exact one.update (hasKey_finished _) (id_finished _)
  | finds_none | finds_taken | finds_failed | clashes | syncs | stays_returned | stays_thrown =>
    exact one

theorem StatusOf.written {allowed : RunStatus → Prop} (one : OneRow key table)
    (listed : Listed key table runId) (status : ∀ row, allowed (change row).status) :
    StatusOf key { table with rows := updateWhere table.rows (·.id == runId) change } allowed := by
  intro row member hasKey
  obtain ⟨named, inNamed, namedHas, namedId⟩ := listed
  obtain ⟨old, inOld, ⟨_, rfl⟩ | ⟨different, rfl⟩⟩ := mem_updateWhere.mp member
  · exact status old
  · have same := one row inOld named inNamed hasKey namedHas
    simp [same, namedId] at different

theorem StatusOf.created {allowed : RunStatus → Prop}
    (free : ∀ row ∈ table.rows, row.hasKey key = false)
    (created : createRun table input = .ok (next, runId)) (running : allowed .running) :
    StatusOf key next allowed := by
  obtain ⟨new, rows, _, _, status⟩ := createRun_eq_ok created
  intro row member hasKey
  rw [rows] at member
  rcases List.mem_append.mp member with inOld | isNew
  · rw [free row inOld] at hasKey
    cases hasKey
  · obtain rfl := List.mem_singleton.mp isNew
    exact status ▸ running

end

structure SoundCall (key : RunKey) (table : RunTable) (call : SyncCall) : Prop where
  own : call.input.key = key
  listed : ∀ runId, call.stage.runId = some runId → Listed key table runId
  ended : ∀ runId result, call.stage = .ended runId result → result = call.input.synced
  thrown : ∀ failure, call.stage = .thrown failure →
    ∃ message, failure = .syncFailed message ∧ call.input.synced = .error message

def SyncStage.inProgress : SyncStage → Bool
  | .syncing _ | .ended _ _ => true
  | _ => false

def InProgress (call : SyncCall) : Prop := call.stage.inProgress = true

theorem Executing.inProgress {call : SyncCall} (executing : Executing call) : InProgress call := by
  unfold Executing at executing
  unfold InProgress
  cases stage : call.stage <;> simp_all [SyncStage.executing, SyncStage.inProgress]

section

variable {key : RunKey} {table next : RunTable} {call : SyncCall} {after : SyncStage}

theorem SoundCall.moves (sound : SoundCall key table call) :
    Moves table call.input call.stage (advance table call).1 (advance table call).2.stage :=
  syncStep_moves fun runId known => sound.own ▸ sound.listed runId known

theorem SoundCall.kept {other : SyncCall} {stage : SyncStage} (sound : SoundCall key table other)
    (moves : Moves table call.input stage next after) : SoundCall key next other :=
  { sound with listed := fun runId known => moves.listed (sound.listed runId known) }

theorem SoundCall.advanced (sound : SoundCall key table call)
    (moves : Moves table call.input call.stage next after)
    (unique : after ≠ .thrown .uniqueViolation) :
    SoundCall key next { call with stage := after } := by
  obtain ⟨input, stage⟩ := call
  have own := sound.own
  dsimp only at own moves
  have stays {runId : RowId} (listed : Listed key table runId) : Listed key next runId :=
    moves.listed listed
  cases moves with
  | finds_none free => exact ⟨own, by simp [SyncStage.runId], by simp, by simp⟩
  | finds_taken runId listed | finds_failed runId listed =>
    refine ⟨own, fun other known => ?_, by simp, by simp⟩
    obtain rfl := Option.some.inj known
    exact own ▸ listed
  | restarts runId =>
    refine ⟨own, fun other known => ?_, by simp, by simp⟩
    exact stays (sound.listed other known)
  | clashes runId listed => exact absurd rfl unique
  | creates next runId free created =>
    obtain ⟨row, rows, hasKey, named, _⟩ := createRun_eq_ok created
    refine ⟨own, fun other known => ?_, by simp, by simp⟩
    obtain rfl := Option.some.inj known
    exact ⟨row, by simp [rows], own ▸ hasKey, named⟩
  | syncs runId =>
    refine ⟨own, fun other known => sound.listed other known, fun other result ended => ?_,
      by simp⟩
    obtain ⟨_, rfl⟩ := SyncStage.ended.inj ended
    rfl
  | completes runId count =>
    exact ⟨own, fun other known => stays (sound.listed other known), by simp, by simp⟩
  | fails runId message =>
    refine ⟨own, by simp [SyncStage.runId], by simp, fun failure thrown => ?_⟩
    obtain rfl := SyncStage.thrown.inj thrown
    exact ⟨message, rfl, (sound.ended runId (.error message) rfl).symm⟩
  | stays_returned runId skipped | stays_thrown failure => exact sound

end

inductive RunPhase (key : RunKey) (system : SyncSystem) : Prop where
  | free (nobody : Nobody InProgress system) (fresh : Nobody Succeeded system)
      (status : StatusOf key system.shared (· = .failed))
  | held (index : Nat) (call : SyncCall) (there : system.processes[index]? = some call)
      (inside : InProgress call) (alone : Alone InProgress system index)
      (fresh : Alone Succeeded system index) (status : StatusOf key system.shared (· = .running))
  | closed (nobody : Nobody InProgress system) (present : ∃ runId, Listed key system.shared runId)
      (status : StatusOf key system.shared (· ≠ .failed))

structure RunInvariant (key : RunKey) (system : SyncSystem) : Prop where
  one : OneRow key system.shared
  sound : ∀ call ∈ system.processes, SoundCall key system.shared call
  phase : RunPhase key system

section

variable {key : RunKey} {system : SyncSystem} {index : Nat} {call : SyncCall}

theorem syncTurn_shared (there : system.processes[index]? = some call) :
    (syncTurn system index).shared = (advance system.shared call).1 := by
  rw [syncTurn, turn_some there]

theorem RunPhase.quiet (phase : RunPhase key system)
    (there : system.processes[index]? = some call)
    (table : (advance system.shared call).1 = system.shared) (outside : ¬InProgress call)
    (stays : ¬InProgress (advance system.shared call).2)
    (success : Succeeded (advance system.shared call).2 → Succeeded call) :
    RunPhase key (syncTurn system index) := by
  have shared : (syncTurn system index).shared = system.shared :=
    (syncTurn_shared there).trans table
  have elsewhere {other : Nat} {holder : SyncCall} (held : system.processes[other]? = some holder)
      (inside : InProgress holder) : other ≠ index := by
    rintro rfl
    obtain rfl := Option.some.inj (held.symm.trans there)
    exact outside inside
  cases phase with
  | free nobody fresh status =>
    refine .free (nobody.turn there stays) (fresh.turn there fun succeeded => ?_)
      (shared ▸ status)
    exact fresh index call there (success succeeded)
  | held other holder held inside alone fresh status =>
    have different := elsewhere held inside
    refine .held other holder ?_ inside (alone.turn_other there stays)
      (fresh.turn_other there fun succeeded => ?_) (shared ▸ status)
    · rw [syncTurn, getElem?_turn there, if_neg different, held]
    · exact different (fresh index call there (success succeeded)).symm
  | closed nobody present status =>
    exact .closed (nobody.turn there stays) (shared ▸ present) (shared ▸ status)

theorem RunPhase.holder (phase : RunPhase key system)
    (there : system.processes[index]? = some call) (inside : InProgress call) :
    Alone InProgress system index ∧ Alone Succeeded system index ∧
      StatusOf key system.shared (· = .running) := by
  cases phase with
  | free nobody _ _ | closed nobody _ _ => exact absurd inside (nobody index call there)
  | held other holder held _ alone fresh status =>
    obtain rfl := alone index call there inside
    exact ⟨alone, fresh, status⟩

theorem InProgress.listed (inside : InProgress call) (sound : SoundCall key system.shared call) :
    ∃ runId, Listed key system.shared runId := by
  unfold InProgress at inside
  cases stage : call.stage with
  | syncing runId | ended runId result => exact ⟨runId, sound.listed runId (by rw [stage]; rfl)⟩
  | called | restarting runId | creating | returned runId skipped | thrown failure =>
    rw [stage] at inside
    cases inside

theorem RunPhase.untaken (phase : RunPhase key system)
    (sound : ∀ call ∈ system.processes, SoundCall key system.shared call)
    (failed : StatusOf key system.shared (· = .failed)) :
    Nobody InProgress system ∧ Nobody Succeeded system := by
  cases phase with
  | free nobody fresh _ => exact ⟨nobody, fresh⟩
  | held other holder held inside _ _ running =>
    obtain ⟨runId, row, member, hasKey, _⟩ :=
      inside.listed (sound holder (List.mem_of_getElem? held))
    have both := (running row member hasKey).symm.trans (failed row member hasKey)
    cases both
  | closed _ present notFailed =>
    obtain ⟨runId, row, member, hasKey, _⟩ := present
    exact absurd (failed row member hasKey) (notFailed row member hasKey)

theorem syncTurn_phase (invariant : RunInvariant key system)
    (there : system.processes[index]? = some call) (undisturbed : Undisturbed system index) :
    RunPhase key (syncTurn system index) ∧
      (advance system.shared call).2.stage ≠ .thrown .uniqueViolation := by
  have phase := invariant.phase
  have sound := invariant.sound call (List.mem_of_getElem? there)
  have own := sound.own
  have still := undisturbed call there
  have moves := sound.moves
  have shared := syncTurn_shared there
  have atIndex : (syncTurn system index).processes[index]? = some (advance system.shared call).2 := by
    rw [syncTurn, getElem?_turn there, if_pos rfl]
  have quiet := @RunPhase.quiet key system index call phase there
  generalize tableIs : (advance system.shared call).1 = table at moves shared quiet
  generalize stageIs : (advance system.shared call).2.stage = after at moves
  unfold stillAsFound at still
  generalize stageWas : call.stage = stage at moves still
  have one := invariant.one
  subst own
  cases moves with
  | finds_none | finds_taken | finds_failed | stays_returned =>
    refine ⟨quiet rfl ?_ ?_ ?_, by simp⟩ <;>
      simp [InProgress, Succeeded, stageWas, stageIs, SyncStage.inProgress, SyncStage.succeeded]
  | stays_thrown failure =>
    refine ⟨quiet rfl ?_ ?_ ?_, fun clash => ?_⟩
    · simp [InProgress, stageWas, SyncStage.inProgress]
    · simp [InProgress, stageIs, SyncStage.inProgress]
    · simp [Succeeded, stageIs, SyncStage.succeeded]
    · obtain ⟨message, other, _⟩ := sound.thrown failure stageWas
      rw [other] at clash
      cases clash
  | restarts runId =>
    have listed := sound.listed runId (by rw [stageWas]; rfl)
    have failed : StatusOf call.input.key system.shared (· = .failed) := by
      intro row member hasKey
      obtain ⟨named, inNamed, namedHas, namedId⟩ := listed
      have same := (one row member named inNamed hasKey namedHas).trans namedId
      simpa [same] using List.all_eq_true.mp still row member
    obtain ⟨nobody, fresh⟩ := phase.untaken invariant.sound failed
    refine ⟨.held index _ atIndex (by rw [InProgress, stageIs]; rfl) (nobody.alone.turn_self there)
      (fresh.alone.turn_self there) ?_, by simp⟩
    exact shared ▸ StatusOf.written one listed fun _ => rfl
  | clashes runId listed =>
    obtain ⟨row, member, hasKey, _⟩ := listed
    simpa [hasKey] using List.all_eq_true.mp still row member
  | creates next runId free created =>
    have failed : StatusOf call.input.key system.shared (· = .failed) := by
      intro row member hasKey
      rw [free row member] at hasKey
      cases hasKey
    obtain ⟨nobody, fresh⟩ := phase.untaken invariant.sound failed
    refine ⟨.held index _ atIndex (by rw [InProgress, stageIs]; rfl) (nobody.alone.turn_self there)
      (fresh.alone.turn_self there) ?_, by simp⟩
    exact shared ▸ StatusOf.created free created rfl
  | syncs runId =>
    obtain ⟨alone, fresh, status⟩ := phase.holder there (by rw [InProgress, stageWas]; rfl)
    exact ⟨.held index _ atIndex (by rw [InProgress, stageIs]; rfl) (alone.turn_self there)
      (fresh.turn_self there) (shared ▸ status), by simp⟩
  | completes runId count =>
    obtain ⟨alone, _, _⟩ := phase.holder there (by rw [InProgress, stageWas]; rfl)
    have listed := sound.listed runId (by rw [stageWas]; rfl)
    refine ⟨.closed (alone.leaves there ?_) ⟨runId, ?_⟩ ?_, by simp⟩
    · simp [InProgress, stageIs, SyncStage.inProgress]
    · exact shared ▸ listed.update (hasKey_finished _) (id_finished _)
    · exact shared ▸ StatusOf.written one listed fun _ => by simp [finished]
  | fails runId message =>
    obtain ⟨alone, fresh, _⟩ := phase.holder there (by rw [InProgress, stageWas]; rfl)
    have listed := sound.listed runId (by rw [stageWas]; rfl)
    refine ⟨.free (alone.leaves there ?_) (fresh.leaves there ?_) ?_, by simp⟩
    · simp [InProgress, stageIs, SyncStage.inProgress]
    · simp [Succeeded, stageIs, SyncStage.succeeded]
    · exact shared ▸ StatusOf.written one listed fun _ => rfl

theorem syncTurn_invariant (invariant : RunInvariant key system)
    (undisturbed : Undisturbed system index) : RunInvariant key (syncTurn system index) := by
  cases there : system.processes[index]? with
  | none =>
    rw [syncTurn, turn_none there]
    exact invariant
  | some call =>
    obtain ⟨phase, unique⟩ := syncTurn_phase invariant there undisturbed
    have sound := invariant.sound call (List.mem_of_getElem? there)
    refine ⟨?_, fun moved member => ?_, phase⟩
    · rw [syncTurn_shared there]
      exact sound.moves.oneRow sound.own invariant.one
    · rw [syncTurn_shared there]
      obtain ⟨other, inNext⟩ := List.mem_iff_getElem?.mp member
      rw [syncTurn, getElem?_turn there] at inNext
      split at inNext
      · obtain rfl := Option.some.inj inNext
        exact sound.advanced sound.moves unique
      · exact (invariant.sound moved (List.mem_of_getElem? inNext)).kept sound.moves

theorem RunInvariant.oneExecution (invariant : RunInvariant key system) :
    OneExecution key system where
  alone index call there executing := by
    obtain ⟨alone, _, _⟩ := invariant.phase.holder there executing.inProgress
    exact fun other found inOther inside => alone other found inOther inside.inProgress
  afterSuccess call member succeeded := by
    intro other found inOther executing
    obtain ⟨index, there⟩ := List.mem_iff_getElem?.mp member
    obtain ⟨_, fresh, _⟩ := invariant.phase.holder inOther executing.inProgress
    obtain rfl := fresh index call there succeeded
    obtain rfl := Option.some.inj (there.symm.trans inOther)
    unfold Executing at executing
    unfold Succeeded at succeeded
    cases stage : call.stage <;> simp_all [SyncStage.executing, SyncStage.succeeded]
  afterCompletion row member hasKey completed := by
    intro other found inOther executing
    obtain ⟨_, _, running⟩ := invariant.phase.holder inOther executing.inProgress
    have both := completed.symm.trans (running row member hasKey)
    cases both
  thrown call member failure thrown := (invariant.sound call member).thrown failure thrown
  skipped call member runId skipped :=
    (invariant.sound call member).listed runId (by rw [skipped]; rfl)

end

def runKey (run : IntegrationRun) : Option RunKey :=
  run.idempotencyKey.map fun idempotencyKey =>
    { organizationId := run.organizationId, idempotencyKey }

theorem hasKey_iff {run : IntegrationRun} {key : RunKey} :
    run.hasKey key = true ↔ runKey run = some key := by
  cases key with
  | mk organizationId idempotencyKey =>
    cases known : run.idempotencyKey with
    | none => simp [IntegrationRun.hasKey, runKey, known]
    | some value => simp [IntegrationRun.hasKey, runKey, known]

/-- Callers that write only what they found run the provider one at a time and
not after a success, and nobody loses the race with an error. -/
theorem undisturbed_calls_execute_once {key : RunKey} {initial : SyncSystem} {schedule : List Nat}
    (unique : UniqueBy runKey initial.shared.rows) (distinct : initial.shared.rows.Nodup)
    (same : ∀ call ∈ initial.processes, call.input.key = key ∧ call.stage = .called)
    (undisturbed : Guarded syncTurn Undisturbed initial schedule) :
    OneExecution key initial ∧
      ∀ taken ∈ trace syncTurn initial schedule, OneExecution key (syncTurn taken.1 taken.2) := by
  have outside (index : Nat) (call : SyncCall) (there : initial.processes[index]? = some call) :
      call.stage = .called := (same call (List.mem_of_getElem? there)).2
  have equal : ∀ left ∈ initial.shared.rows, ∀ right ∈ initial.shared.rows,
      left.hasKey key = true → right.hasKey key = true → left = right :=
    fun left inLeft right inRight leftKey rightKey => (uniqueBy_iff distinct).mp unique
      left inLeft right inRight key (hasKey_iff.mp leftKey) (hasKey_iff.mp rightKey)
  have nobody : Nobody InProgress initial := by
    intro index call there inside
    rw [InProgress, outside index call there] at inside
    cases inside
  have start : RunInvariant key initial := by
    refine ⟨fun left inLeft right inRight leftKey rightKey =>
      congrArg IntegrationRun.id (equal left inLeft right inRight leftKey rightKey),
      fun call member => ?_, ?_⟩
    · obtain ⟨own, called⟩ := same call member
      exact ⟨own, by simp [called, SyncStage.runId], by simp [called], by simp [called]⟩
    · by_cases failed : StatusOf key initial.shared (· = .failed)
      · refine .free nobody (fun index call there succeeded => ?_) failed
        rw [Succeeded, outside index call there] at succeeded
        cases succeeded
      · simp only [StatusOf, not_forall] at failed
        obtain ⟨row, member, hasKey, notFailed⟩ := failed
        refine .closed nobody ⟨row.id, row, member, hasKey, rfl⟩ fun other inRows otherKey => ?_
        exact equal row member other inRows hasKey otherKey ▸ notFailed
  refine ⟨start.oneExecution, fun taken member => ?_⟩
  obtain ⟨invariant, still⟩ := trace_guarded_invariant (RunInvariant key)
    (fun _ _ => syncTurn_invariant) start undisturbed taken member
  exact (syncTurn_invariant invariant still).oneExecution

def nightly : RunKey where
  organizationId := 1
  idempotencyKey := ("scheduled:2:2025-01-01T03" : String)

def nightlyCall (synced : Except Text Nat) : SyncCall where
  input := { configId := 2, key := nightly, runType := .scheduled, synced }

def failedRun : RunTable where
  nextId := 8
  rows := [{
    id := 7
    organizationId := 1
    integrationConfigId := some 2
    runType := .scheduled
    status := .failed
    idempotencyKey := some nightly.idempotencyKey
    failureCount := 1
    errorMessage := some ("timeout" : String) }]

def threeCalls : SyncSystem where
  shared := failedRun
  processes := [nightlyCall (.error ("timeout" : String)), nightlyCall (.ok 3), nightlyCall (.ok 3)]

theorem threeCalls_called :
    ∀ call ∈ threeCalls.processes, call.input.key = nightly ∧ call.stage = .called := by
  simp [threeCalls, nightlyCall]

/-- The second call meets the first one at work, the third one starts after its end. -/
theorem calls_in_turn_execute_once :
    OneExecution nightly threeCalls ∧
      ∀ taken ∈ trace syncTurn threeCalls [0, 0, 1, 0, 0, 2, 2, 2, 2],
        OneExecution nightly (syncTurn taken.1 taken.2) := by
  refine undisturbed_calls_execute_once (by decide) (by decide) threeCalls_called ?_
  show ∀ taken ∈ trace syncTurn threeCalls [0, 0, 1, 0, 0, 2, 2, 2, 2], Undisturbed taken.1 taken.2
  decide +kernel

def twoNewCalls : SyncSystem where
  shared := {}
  processes := [nightlyCall (.ok 3), nightlyCall (.ok 3)]

/-- Two callers that find the failed run both start it again, and of two callers
that find no run one throws. -/
theorem racing_calls_execute_together :
    UniqueBy runKey failedRun.rows ∧
    (∀ call ∈ threeCalls.processes, call.input.key = nightly ∧ call.stage = .called) ∧
    ¬OneExecution nightly (run syncTurn threeCalls [0, 1, 0, 1]) ∧
    ¬OneExecution nightly (run syncTurn twoNewCalls [0, 1, 0, 1]) := by
  refine ⟨by decide, threeCalls_called, fun once => ?_, fun once => ?_⟩
  · have both := once.alone 0 { nightlyCall (.error ("timeout" : String)) with stage := .syncing 7 }
      rfl rfl 1 { nightlyCall (.ok 3) with stage := .syncing 7 } rfl rfl
    cases both
  · obtain ⟨message, other, _⟩ := once.thrown
      { nightlyCall (.ok 3) with stage := .thrown .uniqueViolation }
      (List.mem_of_getElem? (show (run syncTurn twoNewCalls [0, 1, 0, 1]).processes[1]? = _ from rfl))
      .uniqueViolation rfl
    cases other

end StoryEngine.Integrations
