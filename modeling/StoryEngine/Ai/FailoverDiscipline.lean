import StoryEngine.Ai.CircuitBreaker

namespace StoryEngine.Ai

open Data Schema

/-! # The discipline of a failover

Calls that run at the same time share the circuits in the memory of the process: each looks at
its circuit when it starts, and writes to it after its provider has answered.
-/

inductive Asked where
  | primary
  | fallback
deriving DecidableEq

/-- A call with the clients it has asked and the errors of its primary. -/
structure FailoverCall where
  client : FailoverAiClient
  stage : FailoverStage := .checking
  openAtStart : Bool := false
  asked : List Asked := []
  primaryErrors : List Text := []

structure CircuitNote where
  circuitKey : Text
  failed : Bool

/-- The calls of the process; the latest note comes first. -/
structure CallSystem where
  clock : Date
  circuits : CircuitStore := {}
  calls : List FailoverCall := []
  recorded : List CircuitNote := []

inductive CallEvent where
  | passes (milliseconds : Nat)
  | starts (resolved : ResolvedWithFailover) (circuitKey : Text) (cooldownMs maxAttempts : Nat)
  | continues (place : Nat) (thrown : Option Text)

def FailoverStage.asks : FailoverStage → List Asked
  | .askingPrimary _ => [.primary]
  | .askingFallback _ => [.fallback]
  | _ => []

def FailoverStage.primaryError (thrown : Option Text) : FailoverStage → List Text
  | .askingPrimary _ => thrown.toList
  | _ => []

def FailoverStage.records (circuitKey : Text) : FailoverStage → List CircuitNote
  | .recordingSuccess => [{ circuitKey, failed := false }]
  | .recordingFailure _ _ => [{ circuitKey, failed := true }]
  | _ => []

def FailoverCall.sawOpen (call : FailoverCall) (isOpen : Bool) : Bool :=
  match call.stage with
  | .checking => isOpen
  | _ => call.openAtStart

def FailoverCall.gotTo (call : FailoverCall) (isOpen : Bool) (thrown : Option Text)
    (stage : FailoverStage) : FailoverCall :=
  { call with
    stage
    openAtStart := call.sawOpen isOpen
    asked := call.asked ++ stage.asks
    primaryErrors := call.primaryErrors ++ call.stage.primaryError thrown }

section

variable (cases : CaseMapping)

def continueCall (system : CallSystem) (place : Nat) (thrown : Option Text)
    (call : FailoverCall) : CallSystem :=
  let isOpen := isCircuitOpen system.circuits system.clock false call.client.circuitKey
  let (circuits, stage) :=
    chatCompletion cases call.client system.clock false thrown system.circuits call.stage
  { system with
    circuits
    calls := system.calls.set place (call.gotTo isOpen thrown stage)
    recorded := call.stage.records call.client.circuitKey ++ system.recorded }

def callStep (thresholds : Text → Nat) (system : CallSystem) : CallEvent → CallSystem
  | .passes milliseconds => { system with clock := system.clock + milliseconds }
  | .starts resolved circuitKey cooldownMs maxAttempts =>
    let client :=
      failoverAiClient resolved circuitKey (thresholds circuitKey) cooldownMs maxAttempts
    { system with calls := system.calls ++ [{ client }] }
  | .continues place thrown =>
    match system.calls[place]? with
    | none => system
    | some call => continueCall cases system place thrown call

end

def failuresSinceSuccess (circuitKey : Text) : List CircuitNote → Nat
  | [] => 0
  | note :: earlier =>
    if note.circuitKey = circuitKey then
      if note.failed then failuresSinceSuccess circuitKey earlier + 1 else 0
    else failuresSinceSuccess circuitKey earlier

/-- A circuit counts the failures since the last success, and has been opened only when they
reach the threshold. -/
structure Counted (thresholds : Text → Nat) (circuits : CircuitStore)
    (recorded : List CircuitNote) : Prop where
  failures : ∀ key, (circuits.breakerState key).failures = failuresSinceSuccess key recorded
  opened : ∀ key, 0 < (circuits.breakerState key).openUntil →
    max 1 (thresholds key) ≤ (circuits.breakerState key).failures

section

variable {thresholds : Text → Nat} {circuits : CircuitStore} {recorded : List CircuitNote}
  {circuitKey : Text}

theorem Counted.recordSuccess (counted : Counted thresholds circuits recorded) (now : Date) :
    Counted thresholds (recordSuccess circuits now false circuitKey)
      ({ circuitKey, failed := false } :: recorded) := by
  constructor
  · intro key
    by_cases same : key = circuitKey
    · subst same
      simp [Ai.recordSuccess, putCircuit, failuresSinceSuccess]
    · simpa [Ai.recordSuccess, putCircuit, failuresSinceSuccess, same, Ne.symm same]
        using counted.failures key
  · intro key
    by_cases same : key = circuitKey
    · subst same
      simp [Ai.recordSuccess, putCircuit]
    · simpa [Ai.recordSuccess, putCircuit, same] using counted.opened key

theorem Counted.recordFailure (counted : Counted thresholds circuits recorded) (now : Date)
    (cooldownMs : Nat) :
    Counted thresholds
      (recordFailure circuits now false circuitKey (max 1 (thresholds circuitKey)) cooldownMs)
      ({ circuitKey, failed := true } :: recorded) := by
  constructor
  · intro key
    by_cases same : key = circuitKey
    · subst same
      simp [Ai.recordFailure, putCircuit, stateFor, CircuitState.failed, failuresSinceSuccess,
        counted.failures]
    · simpa [Ai.recordFailure, putCircuit, failuresSinceSuccess, same, Ne.symm same]
        using counted.failures key
  · intro key
    by_cases same : key = circuitKey
    · subst same
      have opened := counted.opened key
      simp only [Ai.recordFailure, putCircuit, stateFor, CircuitState.failed, Bool.false_eq_true,
        if_false, Function.update_self]
      split
      · next reached => exact fun _ => reached
      · intro earlier
        have reached := opened earlier
        omega
    · simpa [Ai.recordFailure, putCircuit, same] using counted.opened key

end

section

variable {cases : CaseMapping} {call : FailoverCall}

/-- What holds of a call at each stage: only a transient error lets it go on. -/
def Staged (cases : CaseMapping) (call : FailoverCall) : Prop :=
  match call.stage with
  | .checking => call.asked = [] ∧ call.primaryErrors = []
  | .askingPrimary attempt =>
    call.asked = List.replicate attempt .primary ∧
      ∀ error ∈ call.primaryErrors, isTransientProviderError cases error = true
  | .recordingFailure attempt message =>
    call.asked = List.replicate attempt .primary ∧ message ∈ call.primaryErrors ∧
      ∀ error ∈ call.primaryErrors,
        isTransientProviderError cases error = true ∨ error = message
  | .recordingSuccess | .askingFallback _ | .answered =>
    ∀ error ∈ call.primaryErrors, isTransientProviderError cases error = true
  | .failed message =>
    ∀ error ∈ call.primaryErrors, isTransientProviderError cases error = true ∨ error = message

structure Disciplined (cases : CaseMapping) (call : FailoverCall) : Prop where
  primary : call.asked.count .primary ≤ call.client.maxPrimaryAttempts
  fallback : call.asked.count .fallback ≤ 1
  reason : .fallback ∈ call.asked → call.openAtStart = true ∨
    ∃ error ∈ call.primaryErrors, isTransientProviderError cases error = true
  staged : Staged cases call

theorem Disciplined.fresh (client : FailoverAiClient) : Disciplined cases { client } where
  primary := Nat.zero_le _
  fallback := Nat.zero_le _
  reason := by
    intro asked
    cases asked
  staged := ⟨rfl, rfl⟩

theorem FailoverCall.sawOpen_started (call : FailoverCall) {isOpen : Bool}
    (started : call.stage ≠ .checking) : call.sawOpen isOpen = call.openAtStart := by
  cases stage : call.stage with
  | checking => exact absurd stage started
  | _ => simp only [sawOpen, stage]

theorem Disciplined.quiet (disciplined : Disciplined cases call) {isOpen : Bool}
    {thrown : Option Text} {stage : FailoverStage} (asks : stage.asks = [])
    (started : call.asked = [] ∨ call.stage ≠ .checking)
    (staged : Staged cases (call.gotTo isOpen thrown stage)) :
    Disciplined cases (call.gotTo isOpen thrown stage) := by
  have asked : (call.gotTo isOpen thrown stage).asked = call.asked := by
    simp [FailoverCall.gotTo, asks]
  refine ⟨?_, ?_, ?_, staged⟩
  · rw [asked]
    exact disciplined.primary
  · rw [asked]
    exact disciplined.fallback
  · rw [asked]
    intro member
    rcases started with none | started
    · rw [none] at member
      cases member
    · rcases disciplined.reason member with isOpen | ⟨error, thrown, transient⟩
      · exact .inl ((call.sawOpen_started started).trans isOpen)
      · exact .inr ⟨error, List.mem_append_left _ thrown, transient⟩

theorem one_le_maxPrimaryAttempts {client : FailoverAiClient} (positive : 1 ≤ client.maxAttempts) :
    1 ≤ client.maxPrimaryAttempts := by
  simp only [FailoverAiClient.maxPrimaryAttempts]
  split
  · exact le_rfl
  · exact positive

section

variable {store : CircuitStore} {now : Date} {thrown : Option Text}

theorem Disciplined.checked (disciplined : Disciplined cases call)
    (positive : 1 ≤ call.client.maxAttempts) (checking : call.stage = .checking) :
    Disciplined cases (call.gotTo (isCircuitOpen store now false call.client.circuitKey) thrown
      (chatCompletion cases call.client now false thrown store call.stage).2) := by
  have once := one_le_maxPrimaryAttempts positive
  obtain ⟨asked, errors⟩ : call.asked = [] ∧ call.primaryErrors = [] := by
    simpa [Staged, checking] using disciplined.staged
  have askPrimary : ∀ isOpen, Disciplined cases (call.gotTo isOpen thrown (.askingPrimary 1)) := by
    intro isOpen
    refine ⟨?_, ?_, ?_, ?_⟩
    · simpa [FailoverCall.gotTo, FailoverStage.asks, asked] using once
    · simp [FailoverCall.gotTo, FailoverStage.asks, asked]
    · simp [FailoverCall.gotTo, FailoverStage.asks, asked]
    · simp [Staged, FailoverCall.gotTo, FailoverStage.asks, FailoverStage.primaryError, asked,
        errors, checking]
  rw [checking]
  simp only [chatCompletion]
  cases fallback : call.client.fallback with
  | none => exact askPrimary _
  | some other =>
    by_cases isOpen : isCircuitOpen store now false call.client.circuitKey
    · simp only [isOpen, if_true]
      refine ⟨?_, ?_, ?_, ?_⟩
      · simp [FailoverCall.gotTo, FailoverStage.asks, asked]
      · simp [FailoverCall.gotTo, FailoverStage.asks, asked]
      · exact fun _ => .inl (by simp [FailoverCall.gotTo, FailoverCall.sawOpen, checking])
      · simp [Staged, FailoverCall.gotTo, FailoverStage.primaryError, errors, checking]
    · simp only [isOpen]
      exact askPrimary _

theorem Disciplined.failed (disciplined : Disciplined cases call) {attempt : Nat} {message : Text}
    (failing : call.stage = .recordingFailure attempt message) {isOpen : Bool} :
    Disciplined cases (call.gotTo isOpen thrown (afterFailure cases call.client attempt message)) := by
  obtain ⟨asked, isError, transientOrThis⟩ : call.asked = List.replicate attempt .primary ∧
      message ∈ call.primaryErrors ∧ ∀ error ∈ call.primaryErrors,
        isTransientProviderError cases error = true ∨ error = message := by
    simpa [Staged, failing] using disciplined.staged
  have started : call.asked = [] ∨ call.stage ≠ .checking := .inr (by simp [failing])
  have rethrows : Disciplined cases (call.gotTo isOpen thrown (.failed message)) := by
    refine disciplined.quiet rfl started ?_
    simpa [Staged, FailoverCall.gotTo, FailoverStage.primaryError, failing] using transientOrThis
  by_cases transient : isTransientProviderError cases message = true
  · have allTransient : ∀ error ∈ call.primaryErrors,
        isTransientProviderError cases error = true := by
      intro error member
      rcases transientOrThis error member with yes | rfl
      · exact yes
      · exact transient
    cases fallback : call.client.fallback with
    | none =>
      simp only [afterFailure, fallback, transient, Bool.true_and, decide_eq_true_eq]
      split
      · next budget =>
          refine ⟨?_, ?_, ?_, ?_⟩
          · simp only [FailoverCall.gotTo, FailoverStage.asks, asked, List.count_append,
              List.count_replicate_self, List.count_singleton_self]
            omega
          · simp [FailoverCall.gotTo, FailoverStage.asks, asked, List.count_replicate]
          · simp [FailoverCall.gotTo, FailoverStage.asks, asked]
          · simpa [Staged, FailoverCall.gotTo, FailoverStage.asks, FailoverStage.primaryError,
              failing, asked, List.replicate_succ'] using allTransient
      · exact rethrows
    | some other =>
      simp only [afterFailure, fallback, transient, if_true]
      refine ⟨?_, ?_, ?_, ?_⟩
      · simpa [FailoverCall.gotTo, FailoverStage.asks] using disciplined.primary
      · simp [FailoverCall.gotTo, FailoverStage.asks, asked, List.count_replicate]
      · exact fun _ => .inr ⟨message, List.mem_append_left _ isError, transient⟩
      · simpa [Staged, FailoverCall.gotTo, FailoverStage.primaryError, failing]
          using allTransient
  · have next : afterFailure cases call.client attempt message = .failed message := by
      cases fallback : call.client.fallback <;> simp [afterFailure, fallback, transient]
    rw [next]
    exact rethrows

theorem Disciplined.step (disciplined : Disciplined cases call)
    (positive : 1 ≤ call.client.maxAttempts) :
    Disciplined cases (call.gotTo (isCircuitOpen store now false call.client.circuitKey) thrown
      (chatCompletion cases call.client now false thrown store call.stage).2) := by
  have staged := disciplined.staged
  cases stage : call.stage with
  | checking =>
    rw [← stage]
    exact disciplined.checked positive stage
  | askingPrimary attempt =>
    simp only [Staged, stage] at staged
    have started : call.asked = [] ∨ call.stage ≠ .checking := .inr (by simp [stage])
    cases thrown with
    | none =>
      refine disciplined.quiet rfl started ?_
      simpa [Staged, chatCompletion, FailoverCall.gotTo, FailoverStage.primaryError, stage]
        using staged.2
    | some message =>
      refine disciplined.quiet rfl started ?_
      refine ⟨?_, ?_, ?_⟩
      · simpa [chatCompletion, FailoverCall.gotTo, FailoverStage.asks] using staged.1
      · simp [FailoverCall.gotTo, FailoverStage.primaryError, stage]
      · intro error member
        simp only [FailoverCall.gotTo, FailoverStage.primaryError, stage, List.mem_append,
          Option.mem_toList, Option.some.injEq] at member
        rcases member with earlier | rfl
        · exact .inl (staged.2 error earlier)
        · exact .inr rfl
  | recordingFailure attempt message => exact disciplined.failed stage
  | recordingSuccess | answered | failed message =>
    simp only [Staged, stage] at staged
    refine disciplined.quiet rfl (.inr (by simp [stage])) ?_
    simpa [Staged, chatCompletion, FailoverCall.gotTo, FailoverStage.primaryError, stage]
      using staged
  | askingFallback other =>
    simp only [Staged, stage] at staged
    cases thrown with
    | none =>
      refine disciplined.quiet rfl (.inr (by simp [stage])) ?_
      simpa [Staged, chatCompletion, FailoverCall.gotTo, FailoverStage.primaryError, stage]
        using staged
    | some message =>
      refine disciplined.quiet rfl (.inr (by simp [stage])) ?_
      simp only [Staged, FailoverCall.gotTo, FailoverStage.primaryError, stage,
        chatCompletion, List.append_nil]
      exact fun error member => .inl (staged error member)

end

end

section

variable {cases : CaseMapping} {thresholds : Text → Nat} {system : CallSystem}

structure KeepsDiscipline (cases : CaseMapping) (thresholds : Text → Nat) (system : CallSystem) :
    Prop where
  counted : Counted thresholds system.circuits system.recorded
  calls : ∀ call ∈ system.calls, Disciplined cases call ∧ 1 ≤ call.client.maxAttempts ∧
    call.client.failureThreshold = max 1 (thresholds call.client.circuitKey)

theorem Counted.chatCompletion {circuits : CircuitStore} {recorded : List CircuitNote}
    (counted : Counted thresholds circuits recorded) (client : FailoverAiClient)
    (shared : client.failureThreshold = max 1 (thresholds client.circuitKey)) (now : Date)
    (thrown : Option Text) (stage : FailoverStage) :
    Counted thresholds (chatCompletion cases client now false thrown circuits stage).1
      (stage.records client.circuitKey ++ recorded) := by
  cases stage with
  | checking =>
    simp only [Ai.chatCompletion]
    split
    · split <;> exact counted
    · exact counted
  | askingPrimary attempt => cases thrown <;> exact counted
  | recordingSuccess => exact counted.recordSuccess now
  | recordingFailure attempt message =>
    have recorded : Counted thresholds
        (Ai.recordFailure circuits now false client.circuitKey
          (max 1 (thresholds client.circuitKey)) client.cooldownMs)
        ({ circuitKey := client.circuitKey, failed := true } :: recorded) :=
      counted.recordFailure now client.cooldownMs
    rw [← shared] at recorded
    exact recorded
  | askingFallback other => cases thrown <;> exact counted
  | answered | failed message => exact counted

theorem KeepsDiscipline.step (keeps : KeepsDiscipline cases thresholds system) (event : CallEvent) :
    KeepsDiscipline cases thresholds (callStep cases thresholds system event) := by
  cases event with
  | passes milliseconds => exact ⟨keeps.counted, keeps.calls⟩
  | starts resolved circuitKey cooldownMs maxAttempts =>
    refine ⟨keeps.counted, ?_⟩
    intro call member
    rcases List.mem_append.mp member with earlier | isNew
    · exact keeps.calls call earlier
    · rw [List.mem_singleton.mp isNew]
      exact ⟨.fresh _, Nat.le_max_left 1 maxAttempts, rfl⟩
  | continues place thrown =>
    simp only [callStep]
    cases found : system.calls[place]? with
    | none => exact keeps
    | some call =>
      obtain ⟨disciplined, positive, shared⟩ := keeps.calls call (List.mem_of_getElem? found)
      refine ⟨keeps.counted.chatCompletion call.client shared _ _ _, ?_⟩
      intro other member
      rcases List.mem_or_eq_of_mem_set member with earlier | rfl
      · exact keeps.calls other earlier
      · exact ⟨disciplined.step positive, positive, shared⟩

end

/-- Whatever the order of the calls and the answers of the providers, a circuit is open only
after enough failures in a row, and no call asks more, or for less, than it may. -/
theorem failover_disciplined (cases : CaseMapping) (thresholds : Text → Nat) (clock : Date)
    (events : List CallEvent) :
    let system := run (callStep cases thresholds) { clock } events
    (∀ circuitKey, isCircuitOpen system.circuits system.clock false circuitKey = true →
      max 1 (thresholds circuitKey) ≤ failuresSinceSuccess circuitKey system.recorded) ∧
    ∀ call ∈ system.calls,
      call.asked.count .primary ≤ call.client.maxAttempts ∧
      (call.client.fallback.isSome → call.asked.count .primary ≤ 1) ∧
      call.asked.count .fallback ≤ 1 ∧
      (.fallback ∈ call.asked → call.openAtStart = true ∨
        ∃ error ∈ call.primaryErrors, isTransientProviderError cases error = true) ∧
      ∀ error ∈ call.primaryErrors, isTransientProviderError cases error = false →
        call.stage = .failed error ∨ ∃ attempt, call.stage = .recordingFailure attempt error := by
  intro system
  have keeps : KeepsDiscipline cases thresholds system := by
    refine run_invariant (KeepsDiscipline cases thresholds) (fun _ event kept => kept.step event)
      events ⟨⟨fun _ => rfl, ?_⟩, ?_⟩
    · intro key opened
      cases opened
    · intro call member
      cases member
  refine ⟨?_, ?_⟩
  · intro circuitKey isOpen
    have later : system.clock < (system.circuits.breakerState circuitKey).openUntil := by
      simpa [isCircuitOpen, stateFor] using isOpen
    have reached := keeps.counted.opened circuitKey (Nat.zero_lt_of_lt later)
    rwa [keeps.counted.failures] at reached
  · intro call member
    obtain ⟨disciplined, positive, _⟩ := keeps.calls call member
    have primary := disciplined.primary
    refine ⟨?_, ?_, disciplined.fallback, disciplined.reason, ?_⟩
    · simp only [FailoverAiClient.maxPrimaryAttempts] at primary
      split at primary <;> omega
    · intro hasFallback
      simpa [FailoverAiClient.maxPrimaryAttempts, hasFallback] using primary
    · intro error isError lasting
      have staged := disciplined.staged
      cases stage : call.stage with
      | checking =>
        simp only [Staged, stage] at staged
        rw [staged.2] at isError
        cases isError
      | askingPrimary attempt =>
        simp only [Staged, stage] at staged
        exact absurd (staged.2 error isError) (by simp [lasting])
      | recordingFailure attempt message =>
        simp only [Staged, stage] at staged
        rcases staged.2.2 error isError with transient | rfl
        · exact absurd transient (by simp [lasting])
        · exact .inr ⟨attempt, rfl⟩
      | recordingSuccess | askingFallback other | answered =>
        simp only [Staged, stage] at staged
        exact absurd (staged error isError) (by simp [lasting])
      | failed message =>
        simp only [Staged, stage] at staged
        rcases staged error isError with transient | rfl
        · exact absurd transient (by simp [lasting])
        · exact .inl rfl

end StoryEngine.Ai
