import StoryEngine.Ai.CircuitBreaker
import StoryEngine.Data.Interleaving

namespace StoryEngine.Ai

open Data Schema

/-! # Circuits of several organizations

The circuits of stories are those of one organization.  The circuits of tagging belong to a
provider and a model, so the failures of one organization open them for every other.
-/

/-- A step of both runs, or of one of them; what only one run has are requests of one
organization. -/
inductive PairedEvent where
  | both (event : FailoverEvent)
  | first (event : RequestEvent)
  | second (event : RequestEvent)

structure PairedRuns where
  first : FailoverSystem
  second : FailoverSystem

def pairedStep (cases : CaseMapping) (organizationId : RowId) (runs : PairedRuns) :
    PairedEvent → PairedRuns
  | .both event =>
    { first := failoverStep cases runs.first event
      second := failoverStep cases runs.second event }
  | .first event => { runs with first := requestStep cases organizationId runs.first event }
  | .second event => { runs with second := requestStep cases organizationId runs.second event }

/-- Every request of another organization was sent to the same providers and models. -/
def SentAlike (organizationId : RowId) (runs : PairedRuns) : Prop :=
  ∀ other, other ≠ organizationId → ∀ number,
    (runs.first.requests other number).map (·.sentTo) =
      (runs.second.requests other number).map (·.sentTo)

/-- A request that has a fallback finds its circuit open in both runs or in neither. -/
def FindsAlike (runs : PairedRuns) (other : RowId) (reachable : Bool) (request : FailoverRequest) :
    Prop :=
  request.stage = .checking → request.resolution.resolved.fallback.isSome = true →
    isCircuitOpen runs.first.circuits runs.first.clock reachable (request.client other).circuitKey =
      isCircuitOpen runs.second.circuits runs.second.clock reachable
        (request.client other).circuitKey

def CircuitsAlike (organizationId : RowId) (runs : PairedRuns) : PairedEvent → Prop
  | .both (.request other (.continues number reachable _)) =>
    other ≠ organizationId → ∀ request ∈ runs.first.requests other number,
      request.pipeline = .processCall → FindsAlike runs other reachable request
  | _ => True

instance (runs : PairedRuns) (other : RowId) (reachable : Bool) :
    DecidablePred (FindsAlike runs other reachable) :=
  fun _ => inferInstanceAs (Decidable (_ = _ → _ = _ → _ = _))

instance (organizationId : RowId) (runs : PairedRuns) :
    DecidablePred (CircuitsAlike organizationId runs)
  | .both (.request _ (.continues _ _ _)) =>
    inferInstanceAs (Decidable (_ ≠ _ → ∀ request ∈ _, _ = _ → FindsAlike _ _ _ request))
  | .both (.request _ (.asks _ _ _)) | .both (.passes _) | .first _ | .second _ => isTrue trivial

section

variable {organizationId other : RowId} {provider another : AiProvider} {modelName : Text}

theorem rowId_text_injective (same : organizationId.text = other.text) :
    organizationId = other := by
  have numbers := congrArg (fun digits => Nat.ofDigitChars 10 digits 0) same
  simpa only [RowId.text, Nat.ofDigitChars_ten_toDigits] using numbers

theorem colon_notMem_rowId (organizationId : RowId) : ':' ∉ organizationId.text := by
  intro member
  have digit := Nat.isDigit_of_mem_toDigits (by decide) (Nat.le_refl 10) member
  exact absurd digit (by decide)

theorem storyCircuitKey_ne (different : organizationId ≠ other) :
    storyCircuitKey organizationId provider ≠ storyCircuitKey other another := by
  intro same
  have name : ':' ∉ provider.name := by cases provider <;> decide
  have parts := (List.append_cons_inj_of_notMem (colon_notMem_rowId organizationId) name).mp
    (List.append_cancel_left same)
  exact different (rowId_text_injective parts.1)

theorem storyCircuitKey_ne_tagging :
    storyCircuitKey organizationId provider ≠ taggingCircuitKey another modelName := by
  intro same
  have first : 's' = 't' := (List.cons.inj same).1
  exact absurd first (by decide)

end

/-- The circuit of a key is in the same state, in memory and in Redis. -/
def SameAt (key : Text) (left right : CircuitStore) : Prop :=
  left.breakerState key = right.breakerState key ∧ left.redis key = right.redis key

section

variable {cases : CaseMapping} {key other : Text} {left right store : CircuitStore} {now : Date}
  {reachable : Bool} {client : FailoverAiClient} {thrown : Option Text} {stage : FailoverStage}

theorem SameAt.refl (key : Text) (store : CircuitStore) : SameAt key store store := ⟨rfl, rfl⟩

theorem SameAt.stateFor_eq (same : SameAt key left right) :
    stateFor left now reachable key = stateFor right now reachable key := by
  simp only [stateFor, same.1, same.2]

theorem SameAt.isCircuitOpen_eq (same : SameAt key left right) :
    isCircuitOpen left now reachable key = isCircuitOpen right now reachable key := by
  simp only [isCircuitOpen, same.stateFor_eq]

theorem SameAt.put (same : SameAt key left right) {first second : CircuitState} {expiry : Nat}
    (states : other = key → first = second) :
    SameAt key (putCircuit left now reachable other first expiry)
      (putCircuit right now reachable other second expiry) := by
  by_cases here : other = key
  · rw [states here, here]
    cases reachable with
    | true => exact ⟨same.1, by simp [putCircuit]⟩
    | false => exact ⟨by simp [putCircuit], same.2⟩
  · have away : key ≠ other := fun equal => here equal.symm
    cases reachable with
    | true => exact ⟨same.1, by simp [putCircuit, away, same.2]⟩
    | false => exact ⟨by simp [putCircuit, away, same.1], same.2⟩

theorem sameAt_put_away (away : key ≠ other) {state : CircuitState} {expiry : Nat} :
    SameAt key (putCircuit store now reachable other state expiry) store := by
  cases reachable with
  | true => exact ⟨rfl, by simp [putCircuit, away]⟩
  | false => exact ⟨by simp [putCircuit, away], rfl⟩

theorem chatCompletion_sameAt (same : SameAt key left right) :
    SameAt key (chatCompletion cases client now reachable thrown left stage).1
      (chatCompletion cases client now reachable thrown right stage).1 := by
  cases stage with
  | checking =>
    cases is : client.fallback with
    | none => simpa only [chatCompletion, is] using same
    | some fallback =>
      simp only [chatCompletion, is]
      split <;> split <;> exact same
  | askingPrimary attempt => cases thrown <;> exact same
  | recordingSuccess => exact same.put fun _ => rfl
  | recordingFailure attempt message =>
    apply same.put
    intro here
    rw [here, same.stateFor_eq]
  | askingFallback fallback => cases thrown <;> exact same
  | answered => exact same
  | failed message => exact same

theorem chatCompletion_away (away : client.circuitKey ≠ key) :
    SameAt key (chatCompletion cases client now reachable thrown store stage).1 store := by
  have same : SameAt key store store := SameAt.refl key store
  cases stage with
  | checking =>
    cases is : client.fallback with
    | none => simpa only [chatCompletion, is] using same
    | some fallback =>
      simp only [chatCompletion, is]
      split <;> exact same
  | askingPrimary attempt => cases thrown <;> exact same
  | recordingSuccess => exact sameAt_put_away away.symm
  | recordingFailure attempt message => exact sameAt_put_away away.symm
  | askingFallback fallback => cases thrown <;> exact same
  | answered => exact same
  | failed message => exact same

theorem chatCompletion_stage
    (looks : stage = .checking → client.fallback.isSome = true →
      isCircuitOpen left now reachable client.circuitKey =
        isCircuitOpen right now reachable client.circuitKey) :
    (chatCompletion cases client now reachable thrown left stage).2 =
      (chatCompletion cases client now reachable thrown right stage).2 := by
  cases stage with
  | checking =>
    cases is : client.fallback with
    | none => simp only [chatCompletion, is]
    | some fallback =>
      have open_ := looks rfl (by rw [is]; rfl)
      simp only [chatCompletion, is, open_]
      split <;> rfl
  | askingPrimary attempt => cases thrown <;> rfl
  | recordingSuccess => rfl
  | recordingFailure attempt message => rfl
  | askingFallback fallback => cases thrown <;> rfl
  | answered => rfl
  | failed message => rfl

end

section

variable {cases : CaseMapping} {organizationId other another : RowId} {system : FailoverSystem}

theorem requestStep_clock (event : RequestEvent) :
    (requestStep cases organizationId system event).clock = system.clock := by
  cases event with
  | asks number pipeline resolution => simp only [requestStep]; split <;> rfl
  | continues number reachable thrown => simp only [requestStep]; split <;> rfl

theorem requestStep_others (different : other ≠ organizationId) (event : RequestEvent)
    (number : Nat) :
    (requestStep cases organizationId system event).requests other number =
      system.requests other number := by
  cases event with
  | asks count pipeline resolution =>
    simp only [requestStep]
    split
    · simp [FailoverSystem.putRequest, different]
    · rfl
  | continues count reachable thrown =>
    simp only [requestStep]
    split
    · rfl
    · simp [continueRequest, FailoverSystem.putRequest, different]

end

def KeepsOff (untouched : Text → Prop) (organizationId : RowId) (system : FailoverSystem) : Prop :=
  ∀ number, ∀ request ∈ system.requests organizationId number,
    ¬untouched (request.client organizationId).circuitKey

def RequestEvent.Off (untouched : Text → Prop) (organizationId : RowId) : RequestEvent → Prop
  | .asks _ pipeline resolution =>
    ¬untouched (pipeline.client organizationId resolution.resolved).circuitKey
  | .continues _ _ _ => True

def PairedEvent.Off (untouched : Text → Prop) (organizationId : RowId) : PairedEvent → Prop
  | .both (.request other event) => other = organizationId → event.Off untouched organizationId
  | .both (.passes _) => True
  | .first event | .second event => event.Off untouched organizationId

/-- Two runs that differ in requests of the organization and in the circuits of its keys. -/
structure Alike (untouched : Text → Prop) (organizationId : RowId) (runs : PairedRuns) : Prop where
  clock : runs.first.clock = runs.second.clock
  others : ∀ other, other ≠ organizationId → ∀ number,
    runs.first.requests other number = runs.second.requests other number
  circuits : ∀ key, untouched key → SameAt key runs.first.circuits runs.second.circuits
  first : KeepsOff untouched organizationId runs.first
  second : KeepsOff untouched organizationId runs.second

section

variable {cases : CaseMapping} {untouched : Text → Prop} {organizationId other : RowId}
  {system : FailoverSystem} {runs : PairedRuns}

theorem keepsOff_put {number : Nat} {request : FailoverRequest}
    (off : KeepsOff untouched organizationId system)
    (new : ¬untouched (request.client organizationId).circuitKey) :
    KeepsOff untouched organizationId (system.putRequest organizationId number request) := by
  intro count found isFound
  simp only [FailoverSystem.putRequest, Function.update_self] at isFound
  by_cases same : count = number
  · rw [same, Function.update_self] at isFound
    rw [← Option.some.inj isFound]
    exact new
  · rw [Function.update_of_ne same] at isFound
    exact off count found isFound

theorem requestStep_off (off : KeepsOff untouched organizationId system) {event : RequestEvent}
    (eventOff : event.Off untouched organizationId) :
    KeepsOff untouched organizationId (requestStep cases organizationId system event) ∧
      ∀ key, untouched key →
        SameAt key (requestStep cases organizationId system event).circuits system.circuits := by
  cases event with
  | asks number pipeline resolution =>
    simp only [requestStep]
    split
    · exact ⟨keepsOff_put off eventOff, fun key _ => SameAt.refl key _⟩
    · exact ⟨off, fun key _ => SameAt.refl key _⟩
  | continues number reachable thrown =>
    simp only [requestStep]
    split
    · exact ⟨off, fun key _ => SameAt.refl key _⟩
    · rename_i request found
      have own := off number request found
      constructor
      · exact keepsOff_put off own
      · intro key isUntouched
        apply chatCompletion_away
        intro same
        exact own (same ▸ isUntouched)

theorem SameAt.symm {key : Text} {left right : CircuitStore} (same : SameAt key left right) :
    SameAt key right left := ⟨same.1.symm, same.2.symm⟩

theorem SameAt.trans {key : Text} {left middle right : CircuitStore}
    (before : SameAt key left middle) (after : SameAt key middle right) :
    SameAt key left right := ⟨before.1.trans after.1, before.2.trans after.2⟩

theorem Alike.step_first (alike : Alike untouched organizationId runs) {event : RequestEvent}
    (eventOff : event.Off untouched organizationId) :
    Alike untouched organizationId
      { runs with first := requestStep cases organizationId runs.first event } := by
  obtain ⟨off, same⟩ := @requestStep_off cases _ _ _ alike.first _ eventOff
  exact {
    clock := (requestStep_clock event).trans alike.clock
    others := fun other different number =>
      (requestStep_others different event number).trans (alike.others other different number)
    circuits := fun key isUntouched =>
      (same key isUntouched).trans (alike.circuits key isUntouched)
    first := off
    second := alike.second }

theorem Alike.step_second (alike : Alike untouched organizationId runs) {event : RequestEvent}
    (eventOff : event.Off untouched organizationId) :
    Alike untouched organizationId
      { runs with second := requestStep cases organizationId runs.second event } := by
  obtain ⟨off, same⟩ := @requestStep_off cases _ _ _ alike.second _ eventOff
  exact {
    clock := alike.clock.trans (requestStep_clock event).symm
    others := fun other different number =>
      (alike.others other different number).trans (requestStep_others different event number).symm
    circuits := fun key isUntouched =>
      (alike.circuits key isUntouched).trans (same key isUntouched).symm
    first := alike.first
    second := off }

theorem continueRequest_alike (alike : Alike untouched organizationId runs) {number : Nat}
    {reachable : Bool} {thrown : Option Text} {request : FailoverRequest}
    (tables : runs.first.requests other = runs.second.requests other)
    (finds : FindsAlike runs other reachable request) :
    (continueRequest cases runs.first other number reachable thrown request).requests other =
        (continueRequest cases runs.second other number reachable thrown request).requests other ∧
      ∀ key, untouched key →
        SameAt key
          (continueRequest cases runs.first other number reachable thrown request).circuits
          (continueRequest cases runs.second other number reachable thrown request).circuits := by
  have stages := @chatCompletion_stage cases runs.first.circuits runs.second.circuits
    runs.second.clock reachable (request.client other) thrown request.stage (by
      intro isChecking hasFallback
      rw [FailoverRequest.client_fallback] at hasFallback
      have found := finds isChecking hasFallback
      rw [alike.clock] at found
      exact found)
  constructor
  · simp only [continueRequest, FailoverSystem.putRequest, Function.update_self, tables,
      alike.clock, stages]
  · intro key isUntouched
    simp only [continueRequest, FailoverSystem.putRequest, alike.clock]
    exact chatCompletion_sameAt (alike.circuits key isUntouched)

theorem requestStep_alike (alike : Alike untouched organizationId runs)
    (different : other ≠ organizationId) (event : RequestEvent)
    (finds : ∀ number reachable thrown, event = .continues number reachable thrown →
      ∀ request ∈ runs.first.requests other number, FindsAlike runs other reachable request) :
    (requestStep cases other runs.first event).requests other =
        (requestStep cases other runs.second event).requests other ∧
      ∀ key, untouched key → SameAt key (requestStep cases other runs.first event).circuits
        (requestStep cases other runs.second event).circuits := by
  have tables : runs.first.requests other = runs.second.requests other :=
    funext (alike.others other different)
  cases event with
  | asks number pipeline resolution =>
    simp only [requestStep, tables]
    split
    · constructor
      · simp only [FailoverSystem.putRequest, Function.update_self, tables]
      · exact alike.circuits
    · exact ⟨tables, alike.circuits⟩
  | continues number reachable thrown =>
    cases found : runs.first.requests other number with
    | none =>
      have absent : runs.second.requests other number = none := by rw [← tables, found]
      simp only [requestStep, found, absent]
      exact ⟨tables, alike.circuits⟩
    | some request =>
      have present : runs.second.requests other number = some request := by
        rw [← tables, found]
      simp only [requestStep, found, present]
      exact continueRequest_alike alike tables
        (finds number reachable thrown rfl request found)

theorem Alike.step_other (alike : Alike untouched organizationId runs)
    (different : other ≠ organizationId) (event : RequestEvent)
    (finds : ∀ number reachable thrown, event = .continues number reachable thrown →
      ∀ request ∈ runs.first.requests other number, FindsAlike runs other reachable request) :
    Alike untouched organizationId {
      first := requestStep cases other runs.first event
      second := requestStep cases other runs.second event } := by
  have keeps (system : FailoverSystem) (off : KeepsOff untouched organizationId system) :
      KeepsOff untouched organizationId (requestStep cases other system event) := by
    intro number request found
    rw [requestStep_others different.symm] at found
    exact off number request found
  obtain ⟨own, circuits⟩ := @requestStep_alike cases _ _ _ _ alike different event finds
  exact {
    clock := by
      rw [requestStep_clock, requestStep_clock]
      exact alike.clock
    others := by
      intro another mine number
      by_cases same : another = other
      · rw [same, own]
      · rw [requestStep_others same, requestStep_others same]
        exact alike.others another mine number
    circuits
    first := keeps runs.first alike.first
    second := keeps runs.second alike.second }

theorem Alike.step (alike : Alike untouched organizationId runs)
    (stories : ∀ other, other ≠ organizationId → ∀ provider,
      untouched (storyCircuitKey other provider))
    {event : PairedEvent} (off : event.Off untouched organizationId)
    (circuits : CircuitsAlike organizationId runs event) :
    Alike untouched organizationId (pairedStep cases organizationId runs event) := by
  cases event with
  | first event => exact alike.step_first off
  | second event => exact alike.step_second off
  | both event =>
    cases event with
    | passes milliseconds =>
      exact {
        clock := congrArg (· + milliseconds) alike.clock
        others := alike.others
        circuits := alike.circuits
        first := alike.first
        second := alike.second }
    | request other event =>
      by_cases own : other = organizationId
      · rw [own] at off ⊢
        exact (alike.step_first (off rfl)).step_second (off rfl)
      · apply alike.step_other own event
        intro number reachable thrown continues request found
        cases pipeline : request.pipeline with
        | processCall =>
          rw [continues] at circuits
          exact circuits own request found pipeline
        | story =>
          intro _ _
          have key : (request.client other).circuitKey =
              storyCircuitKey other request.resolution.resolved.primary.provider := by
            rw [FailoverRequest.client_circuitKey, pipeline]
          have same := alike.circuits _ (stories other own
            request.resolution.resolved.primary.provider)
          rw [key, alike.clock, same.isCircuitOpen_eq]

theorem Alike.sentAlike (alike : Alike untouched organizationId runs) :
    SentAlike organizationId runs := by
  intro other different number
  rw [alike.others other different number]

end

section

variable {cases : CaseMapping} {organizationId other : RowId} {system : FailoverSystem}
  {runs : PairedRuns} {number : Nat} {reachable : Bool} {thrown : Option Text}
  {request : FailoverRequest}

theorem continueRequest_checking {fallback : ResolvedAiClient}
    (isChecking : request.stage = .checking)
    (hasFallback : (request.client other).fallback = some fallback) :
    ((continueRequest cases system other number reachable thrown request).requests other number).map
        (·.sentTo) =
      some (request.sentTo ++
        if isCircuitOpen system.circuits system.clock reachable (request.client other).circuitKey
        then [fallback.destination] else [(request.client other).primary.destination]) := by
  simp only [continueRequest, FailoverSystem.putRequest, Function.update_self, Option.map_some,
    isChecking, chatCompletion, hasFallback]
  split <;> rfl

theorem fallback_destination_ne {fallback : ResolvedAiClient}
    (hasFallback : request.resolution.resolved.fallback = some fallback) :
    fallback.destination ≠ request.resolution.resolved.primary.destination := by
  intro same
  apply request.resolution.elsewhere fallback hasFallback
  exact congrArg Destination.provider same

theorem not_sentAlike {event : PairedEvent} (others : ∀ other, other ≠ organizationId → ∀ number,
      runs.first.requests other number = runs.second.requests other number)
    (apart : ¬CircuitsAlike organizationId runs event) :
    ¬SentAlike organizationId (pairedStep cases organizationId runs event) := by
  cases event with
  | first event => exact absurd trivial apart
  | second event => exact absurd trivial apart
  | both event =>
    cases event with
    | passes milliseconds => exact absurd trivial apart
    | request other event =>
      cases event with
      | asks number pipeline resolution => exact absurd trivial apart
      | continues number reachable thrown =>
        simp only [CircuitsAlike, FindsAlike, Classical.not_imp, not_forall] at apart
        obtain ⟨different, request, found, _, isChecking, hasFallback, differs⟩ := apart
        have both : runs.second.requests other number = some request := by
          rw [← others other different number]
          exact found
        obtain ⟨fallback, isFallback⟩ := Option.isSome_iff_exists.mp hasFallback
        have apart := fallback_destination_ne isFallback
        rw [← request.client_fallback other] at isFallback
        intro same
        have sent := same other different number
        simp only [pairedStep, failoverStep, requestStep, Option.mem_def.mp found, both,
          continueRequest_checking isChecking isFallback, Option.some.injEq,
          List.append_cancel_left_eq] at sent
        revert differs sent
        cases isCircuitOpen runs.first.circuits runs.first.clock reachable
            (request.client other).circuitKey <;>
          cases isCircuitOpen runs.second.circuits runs.second.clock reachable
            (request.client other).circuitKey <;>
          simp [apart, apart.symm]

end

section

variable {cases : CaseMapping} {organizationId : RowId}

def StoryOfAnother (organizationId : RowId) (key : Text) : Prop :=
  ∃ other, other ≠ organizationId ∧ ∃ provider, key = storyCircuitKey other provider

theorem client_off_stories (pipeline : AiPipeline) (resolved : ResolvedWithFailover) :
    ¬StoryOfAnother organizationId (pipeline.client organizationId resolved).circuitKey := by
  intro shared
  obtain ⟨other, different, provider, same⟩ := shared
  cases pipeline with
  | processCall => exact storyCircuitKey_ne_tagging same.symm
  | story => exact storyCircuitKey_ne different same.symm

theorem off_stories (event : PairedEvent) :
    event.Off (StoryOfAnother organizationId) organizationId := by
  have request (event : RequestEvent) :
      event.Off (StoryOfAnother organizationId) organizationId := by
    cases event with
    | asks number pipeline resolution => exact client_off_stories pipeline resolution.resolved
    | continues number reachable thrown => exact trivial
  cases event with
  | first event => exact request event
  | second event => exact request event
  | both event =>
    cases event with
    | passes milliseconds => exact trivial
    | request other event => exact fun _ => request event

/-- Two runs that differ in requests of one organization send the requests of the others alike
exactly when each of these that is for tags and has a fallback finds its circuit open in both
runs or in neither. -/
theorem sent_alike_iff (cases : CaseMapping) (organizationId : RowId) (system : FailoverSystem)
    (events : List PairedEvent) :
    (∀ taken ∈ trace (pairedStep cases organizationId) ⟨system, system⟩ events,
        SentAlike organizationId (pairedStep cases organizationId taken.1 taken.2)) ↔
      Guarded (pairedStep cases organizationId) (CircuitsAlike organizationId) ⟨system, system⟩
        events := by
  apply trace_iff_guarded (Alike (StoryOfAnother organizationId) organizationId)
    (SentAlike organizationId)
  · intro runs event alike circuits
    exact alike.step (fun other different provider => ⟨other, different, provider, rfl⟩)
      (off_stories event) circuits
  · exact fun runs alike => alike.sentAlike
  · exact fun runs event alike apart => not_sentAlike alike.others apart
  · have off : KeepsOff (StoryOfAnother organizationId) organizationId system :=
      fun _ request _ => client_off_stories request.pipeline request.resolution.resolved
    exact {
      clock := rfl
      others := fun _ _ _ => rfl
      circuits := fun key _ => SameAt.refl key _
      first := off
      second := off }

end

/-- The organization is tagged with its own models only, and the others with a fallback are tagged
with none of these. -/
def RequestEvent.Apart (own : AiProvider → Text → Prop) (organizationId other : RowId) :
    RequestEvent → Prop
  | .asks _ .processCall resolution =>
    let primary := resolution.resolved.primary
    (other = organizationId → own primary.provider primary.client.modelName) ∧
      (other ≠ organizationId → resolution.resolved.fallback.isSome = true →
        ¬own primary.provider primary.client.modelName)
  | .asks _ .story _ | .continues _ _ _ => True

def PairedEvent.Apart (own : AiProvider → Text → Prop) (organizationId : RowId) :
    PairedEvent → Prop
  | .both (.request other event) => event.Apart own organizationId other
  | .both (.passes _) => True
  | .first event | .second event => event.Apart own organizationId organizationId

def Foreign (own : AiProvider → Text → Prop) (organizationId : RowId) (key : Text) : Prop :=
  StoryOfAnother organizationId key ∨
    ∃ provider modelName, ¬own provider modelName ∧ key = taggingCircuitKey provider modelName

def OthersApart (own : AiProvider → Text → Prop) (organizationId : RowId) (system : FailoverSystem) :
    Prop :=
  ∀ other, other ≠ organizationId → ∀ number, ∀ request ∈ system.requests other number,
    request.pipeline = .processCall → request.resolution.resolved.fallback.isSome = true →
      ¬own request.resolution.resolved.primary.provider
        request.resolution.resolved.primary.client.modelName

section

variable {cases : CaseMapping} {own : AiProvider → Text → Prop} {organizationId other : RowId}
  {system : FailoverSystem} {runs : PairedRuns}

theorem taggingCircuitKey_inj {provider another : AiProvider} {modelName model : Text}
    (same : taggingCircuitKey provider modelName = taggingCircuitKey another model) :
    provider = another ∧ modelName = model := by
  have names : provider.name ++ ':' :: modelName = another.name ++ ':' :: model :=
    List.append_cancel_left same
  have heads : provider.name.head? = another.name.head? := by
    have first := congrArg List.head? names
    cases provider <;> cases another <;> exact first
  have providers : provider = another := by
    revert heads
    cases provider <;> cases another <;> decide
  constructor
  · exact providers
  · rw [providers] at names
    exact (List.cons.inj (List.append_cancel_left names)).2

theorem RequestEvent.Apart.off {event : RequestEvent}
    (apart : event.Apart own organizationId organizationId) :
    event.Off (Foreign own organizationId) organizationId := by
  cases event with
  | continues number reachable thrown => exact trivial
  | asks number pipeline resolution =>
    intro foreign
    cases foreign with
    | inl story => exact client_off_stories pipeline resolution.resolved story
    | inr tagging =>
      obtain ⟨provider, modelName, others, same⟩ := tagging
      cases pipeline with
      | story => exact storyCircuitKey_ne_tagging same
      | processCall =>
        obtain ⟨rfl, rfl⟩ := taggingCircuitKey_inj same
        exact others (apart.1 rfl)

theorem OthersApart.requestStep (others : OthersApart own organizationId system)
    {event : RequestEvent} (apart : event.Apart own organizationId other) :
    OthersApart own organizationId (requestStep cases other system event) := by
  intro another different number request found tagging hasFallback
  by_cases mine : another = other
  · rw [mine] at found different
    cases event with
    | asks count pipeline resolution =>
      simp only [Ai.requestStep] at found
      split at found
      · simp only [FailoverSystem.putRequest, Function.update_self] at found
        by_cases new : number = count
        · rw [new, Function.update_self] at found
          obtain rfl := Option.some.inj found
          obtain rfl : pipeline = .processCall := tagging
          exact apart.2 different hasFallback
        · rw [Function.update_of_ne new] at found
          exact others other different number request found tagging hasFallback
      · exact others other different number request found tagging hasFallback
    | continues count reachable thrown =>
      simp only [Ai.requestStep] at found
      split at found
      · exact others other different number request found tagging hasFallback
      · rename_i before isBefore
        simp only [continueRequest, FailoverSystem.putRequest, Function.update_self] at found
        by_cases moved : number = count
        · rw [moved, Function.update_self] at found
          obtain rfl := Option.some.inj found
          exact others other different count before isBefore tagging hasFallback
        · rw [Function.update_of_ne moved] at found
          exact others other different number request found tagging hasFallback
  · rw [requestStep_others mine] at found
    exact others another different number request found tagging hasFallback

theorem OthersApart.pairedStep (others : OthersApart own organizationId runs.first)
    {event : PairedEvent} (apart : event.Apart own organizationId) :
    OthersApart own organizationId (pairedStep cases organizationId runs event).first := by
  cases event with
  | first event => exact others.requestStep apart
  | second event => exact others
  | both event =>
    cases event with
    | passes milliseconds => exact others
    | request other event => exact others.requestStep apart

theorem Alike.circuitsAlike (alike : Alike (Foreign own organizationId) organizationId runs)
    (others : OthersApart own organizationId runs.first) (event : PairedEvent) :
    CircuitsAlike organizationId runs event := by
  cases event with
  | first event => exact trivial
  | second event => exact trivial
  | both event =>
    cases event with
    | passes milliseconds => exact trivial
    | request other event =>
      cases event with
      | asks number pipeline resolution => exact trivial
      | continues number reachable thrown =>
        intro different request found tagging isChecking hasFallback
        have apart := others other different number request found tagging hasFallback
        have key : (request.client other).circuitKey =
            taggingCircuitKey request.resolution.resolved.primary.provider
              request.resolution.resolved.primary.client.modelName := by
          rw [FailoverRequest.client_circuitKey, tagging]
        have same := alike.circuits _ (.inr ⟨_, _, apart, key⟩)
        rw [alike.clock, same.isCircuitOpen_eq]

theorem PairedEvent.Apart.off {event : PairedEvent} (apart : event.Apart own organizationId) :
    event.Off (Foreign own organizationId) organizationId := by
  cases event with
  | first event => exact RequestEvent.Apart.off apart
  | second event => exact RequestEvent.Apart.off apart
  | both event =>
    cases event with
    | passes milliseconds => exact trivial
    | request other event =>
      intro same
      rw [same] at apart
      exact RequestEvent.Apart.off apart

/-- An organization changes nothing for the others while none of these that has a fallback is
tagged with one of its models. -/
theorem sent_alike_of_own_models {clock : Date} {circuits : CircuitStore}
    {events : List PairedEvent}
    (apart : ∀ event ∈ events, event.Apart own organizationId) :
    ∀ taken ∈ trace (Ai.pairedStep cases organizationId) ⟨{ clock, circuits }, { clock, circuits }⟩
        events,
      SentAlike organizationId (Ai.pairedStep cases organizationId taken.1 taken.2) := by
  have guarded : Guarded (Ai.pairedStep cases organizationId)
      (fun _ event => event.Apart own organizationId) ⟨{ clock, circuits }, { clock, circuits }⟩
      events :=
    fun taken member => apart taken.2 (trace_action _ _ _ taken member)
  have keeps (runs : PairedRuns) (event : PairedEvent)
      (kept : Alike (Foreign own organizationId) organizationId runs ∧
        OthersApart own organizationId runs.first)
      (isApart : event.Apart own organizationId) :
      Alike (Foreign own organizationId) organizationId
          (Ai.pairedStep cases organizationId runs event) ∧
        OthersApart own organizationId (Ai.pairedStep cases organizationId runs event).first := by
    constructor
    · exact kept.1.step (fun other different provider => .inl ⟨other, different, provider, rfl⟩)
        isApart.off (kept.1.circuitsAlike kept.2 event)
    · exact kept.2.pairedStep isApart
  have off : KeepsOff (Foreign own organizationId) organizationId
      ({ clock, circuits } : FailoverSystem) := by
    intro number request found
    cases found
  have others : OthersApart own organizationId ({ clock, circuits } : FailoverSystem) := by
    intro other _ number request found
    cases found
  have alike : Alike (Foreign own organizationId) organizationId
      ⟨{ clock, circuits }, { clock, circuits }⟩ := {
    clock := rfl
    others := fun _ _ _ => rfl
    circuits := fun key _ => SameAt.refl key _
    first := off
    second := off }
  intro taken member
  have held := trace_guarded_invariant _ keeps ⟨alike, others⟩ guarded taken member
  exact (keeps taken.1 taken.2 held.1 held.2).1.sentAlike

end

section

def ownKeyOnly : Resolution where
  resolved := {
    primary := {
      client := { provider := .openai, apiKey := "revoked", modelName := "gpt-4o" }
      isPlatformBilled := false
      provider := .openai
      model := "gpt-4o" }
    fallback := none
    retryBudget := 2 }
  elsewhere := nofun

def platformProviders : Resolution where
  resolved := {
    primary := {
      client := { provider := .openai, apiKey := "platform", modelName := "gpt-4o" }
      isPlatformBilled := true
      provider := .openai
      model := "gpt-4o" }
    fallback := some {
      client := { provider := .anthropic, apiKey := "platform", modelName := "claude" }
      isPlatformBilled := true
      provider := .anthropic
      model := "claude" }
    retryBudget := 2 }
  elsewhere := by decide

def rejectedRequest (number : Nat) : List PairedEvent := [
  .first (.asks number .processCall ownKeyOnly), .first (.continues number false none),
  .first (.continues number false (some "Incorrect API key provided")),
  .first (.continues number false none)]

theorem rejectedRequest_apart (number : Nat) : ∀ event ∈ rejectedRequest number,
    event.Apart (fun provider _ => provider = .openai) 1 := by
  simp [rejectedRequest, PairedEvent.Apart, RequestEvent.Apart, ownKeyOnly]

def anthropicFirst : Resolution where
  resolved := {
    primary := {
      client := { provider := .anthropic, apiKey := "platform", modelName := "claude" }
      isPlatformBilled := true
      provider := .anthropic
      model := "claude" }
    fallback := some {
      client := { provider := .openai, apiKey := "platform", modelName := "gpt-4o" }
      isPlatformBilled := true
      provider := .openai
      model := "gpt-4o" }
    retryBudget := 2 }
  elsewhere := by decide

/-- Three rejected keys of the first organization, and a request of the second whose primary is at
its limit. -/
def keysAndLimit : List PairedEvent :=
  (List.range 3).flatMap rejectedRequest ++ [
    .both (.request 2 (.asks 0 .processCall anthropicFirst)),
    .both (.request 2 (.continues 0 false none)),
    .both (.request 2 (.continues 0 false (some "429 Too Many Requests"))),
    .both (.request 2 (.continues 0 false none))]

def answeredByFallback : PairedEvent := .both (.request 2 (.continues 0 false none))

def keysAndLimitRuns : PairedRuns :=
  run (pairedStep .ascii 1) ⟨{ clock := 0 }, { clock := 0 }⟩ keysAndLimit

/-- The rejected keys open a circuit in the first run only, and the other organization falls back
in both. -/
theorem own_models_sent_alike :
    isCircuitOpen keysAndLimitRuns.first.circuits 0 false
        (taggingCircuitKey .openai ("gpt-4o" : String)) = true ∧
      isCircuitOpen keysAndLimitRuns.second.circuits 0 false
        (taggingCircuitKey .openai ("gpt-4o" : String)) = false ∧
      ((pairedStep .ascii 1 keysAndLimitRuns answeredByFallback).first.requests 2 0).map (·.sentTo) =
        some [{ provider := .anthropic, modelName := "claude" },
          { provider := .openai, modelName := "gpt-4o" }] ∧
      SentAlike 1 (pairedStep .ascii 1 keysAndLimitRuns answeredByFallback) := by
  have apart : ∀ event ∈ keysAndLimit ++ [answeredByFallback],
      event.Apart (fun provider _ => provider = .openai) 1 := by
    refine List.forall_mem_append.mpr ⟨List.forall_mem_append.mpr ⟨?_, ?_⟩, ?_⟩
    · intro event member
      obtain ⟨number, _, inRequest⟩ := List.mem_flatMap.mp member
      exact rejectedRequest_apart number event inRequest
    · simp [PairedEvent.Apart, RequestEvent.Apart, anthropicFirst]
    · simp [answeredByFallback, PairedEvent.Apart, RequestEvent.Apart]
  have last : (keysAndLimitRuns, answeredByFallback) ∈ trace (pairedStep .ascii 1)
      ⟨{ clock := 0 }, { clock := 0 }⟩ (keysAndLimit ++ [answeredByFallback]) := by
    rw [trace_append, keysAndLimitRuns]
    exact List.mem_append_right _ (List.mem_singleton_self _)
  refine ⟨by decide +kernel, by decide +kernel, by decide +kernel, ?_⟩
  exact sent_alike_of_own_models apart (keysAndLimitRuns, answeredByFallback) last

def otherOrganization : List PairedEvent := [
  .both (.request 2 (.asks 0 .processCall platformProviders)),
  .both (.request 2 (.continues 0 false none))]

/-- Three rejected keys of one organization send another one to its fallback. -/
theorem rejected_keys_reroute_others :
    ¬SentAlike 1 (run (pairedStep .ascii 1) ⟨{ clock := 0 }, { clock := 0 }⟩
      ((List.range 3).flatMap rejectedRequest ++ otherOrganization)) := by
  intro alike
  have sent := alike 2 (by decide) 0
  revert sent
  decide +kernel

end

end StoryEngine.Ai
