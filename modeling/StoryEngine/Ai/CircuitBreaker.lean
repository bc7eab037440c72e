import Mathlib.Logic.Function.Basic
import StoryEngine.Ai.Config
import StoryEngine.Data.Run
import StoryEngine.Schema.Database
import StoryEngine.Text.Pattern

namespace StoryEngine.Ai

open Data Schema

/-! # Failover between providers

A request goes to its primary provider, and to a fallback when that fails for a while or when the
circuit of the request is open.  Three failures in a row open a circuit for a minute; which
requests share one is decided by the text of its key.
-/

structure CircuitState where
  failures : Nat := 0
  openUntil : Date := 0
deriving DecidableEq

structure RedisCircuit where
  state : CircuitState := {}
  expiresAt : Date := 0
deriving DecidableEq

/-- The circuits in the memory of the process stand in while Redis is out of reach. -/
structure CircuitStore where
  breakerState : Text → CircuitState := fun _ => {}
  redis : Text → RedisCircuit := fun _ => {}

def RedisCircuit.get (circuit : RedisCircuit) (now : Date) : CircuitState :=
  if now < circuit.expiresAt then circuit.state else {}

def CircuitState.failed (state : CircuitState) (now : Date) (threshold cooldownMs : Nat) :
    CircuitState :=
  let failures := state.failures + 1
  { failures, openUntil := if threshold ≤ failures then now + cooldownMs else state.openUntil }

section

variable (store : CircuitStore) (now : Date) (reachable : Bool) (key : Text)

def stateFor : CircuitState :=
  if reachable then (store.redis key).get now else store.breakerState key

def isCircuitOpen : Bool := now < (stateFor store now reachable key).openUntil

def putCircuit (state : CircuitState) (expirySeconds : Nat) : CircuitStore :=
  if reachable then
    { store with
      redis := Function.update store.redis key {
        state, expiresAt := now + expirySeconds * 1000 } }
  else { store with breakerState := Function.update store.breakerState key state }

def recordSuccess : CircuitStore := putCircuit store now reachable key {} 300

def recordFailure (threshold cooldownMs : Nat) : CircuitStore :=
  putCircuit store now reachable key
    ((stateFor store now reachable key).failed now threshold cooldownMs)
    (max 300 ((cooldownMs + 999) / 1000 + 60))

end

section

open Text

/-- `.`, which matches no line terminator. -/
def anyInLine : Pattern :=
  .accept fun c => c != '\n' && c != '\r' && c.toNat != 0x2028 && c.toNat != 0x2029

variable (cases : CaseMapping)

def phrases (parts : List Pattern) : Pattern :=
  .sequence [.wordBoundary, .choice parts, .wordBoundary]

def phrase (text : String) : Pattern := Pattern.literal cases false text.toList

def transientPatterns : List Pattern := [
  phrases [phrase cases "429",
    .sequence [phrase cases "rate", .optional anyInLine, phrase cases "limit"],
    phrase cases "quota"],
  phrases [.seq (phrase cases "5") (.times 2 (.accept Char.isDigit)),
    phrase cases "service unavailable", phrase cases "gateway timeout",
    phrase cases "bad gateway"],
  phrases [phrase cases "timeout", phrase cases "timed out", phrase cases "connection reset",
    phrase cases "socket", phrase cases "network", phrase cases "temporar"]]

def isTransientProviderError (message : Text) : Bool :=
  (transientPatterns cases).any fun pattern => pattern.test (cases.toLowerCase message)

end

structure FailoverAiClient where
  primary : ResolvedAiClient
  fallback : Option ResolvedAiClient
  circuitKey : Text
  failureThreshold : Nat
  cooldownMs : Nat
  maxAttempts : Nat
deriving DecidableEq

def failoverAiClient (resolved : ResolvedWithFailover) (circuitKey : Text)
    (failureThreshold cooldownMs maxAttempts : Nat) : FailoverAiClient where
  primary := resolved.primary
  fallback := resolved.fallback
  circuitKey
  failureThreshold := max 1 failureThreshold
  cooldownMs := max 5000 cooldownMs
  maxAttempts := max 1 maxAttempts

inductive AiPipeline where
  | processCall
  | story
deriving DecidableEq

def taggingCircuitKey (provider : AiProvider) (modelName : Text) : Text :=
  ("transcript-tagging:" : String).toList ++ (provider.name ++ ':' :: modelName)

def storyCircuitKey (organizationId : RowId) (provider : AiProvider) : Text :=
  ("story:" : String).toList ++ (organizationId.text ++ ':' :: provider.name)

def AiPipeline.client (organizationId : RowId) (resolved : ResolvedWithFailover) :
    AiPipeline → FailoverAiClient
  | .processCall =>
    failoverAiClient resolved
      (taggingCircuitKey resolved.primary.provider resolved.primary.client.modelName)
      3 60000 resolved.retryBudget
  | .story =>
    failoverAiClient resolved (storyCircuitKey organizationId resolved.primary.provider)
      3 60000 resolved.retryBudget

structure Destination where
  provider : AiProvider
  modelName : Text
deriving DecidableEq

def ResolvedAiClient.destination (resolved : ResolvedAiClient) : Destination where
  provider := resolved.client.provider
  modelName := resolved.client.modelName

inductive FailoverStage where
  | checking
  | askingPrimary (attempt : Nat)
  | recordingSuccess
  | recordingFailure (attempt : Nat) (message : Text)
  | askingFallback (fallback : ResolvedAiClient)
  | answered
  | failed (message : Text)
deriving DecidableEq

def FailoverStage.sends (client : FailoverAiClient) : FailoverStage → List Destination
  | .askingPrimary _ => [client.primary.destination]
  | .askingFallback fallback => [fallback.destination]
  | _ => []

def FailoverAiClient.maxPrimaryAttempts (client : FailoverAiClient) : Nat :=
  if client.fallback.isSome then 1 else client.maxAttempts

def afterFailure (cases : CaseMapping) (client : FailoverAiClient) (attempt : Nat)
    (message : Text) : FailoverStage :=
  let retryable := isTransientProviderError cases message
  match client.fallback with
  | none =>
    if retryable && attempt < client.maxPrimaryAttempts then .askingPrimary (attempt + 1)
    else .failed message
  | some fallback => if retryable then .askingFallback fallback else .failed message

/-- The client that is asked throws a message or answers; elsewhere the answer is not looked at. -/
def chatCompletion (cases : CaseMapping) (client : FailoverAiClient) (now : Date)
    (reachable : Bool) (thrown : Option Text) (store : CircuitStore) :
    FailoverStage → CircuitStore × FailoverStage
  | .checking =>
    match client.fallback with
    | some fallback =>
      if isCircuitOpen store now reachable client.circuitKey then
        (store, .askingFallback fallback)
      else (store, .askingPrimary 1)
    | none => (store, .askingPrimary 1)
  | .askingPrimary attempt =>
    match thrown with
    | none => (store, .recordingSuccess)
    | some message => (store, .recordingFailure attempt message)
  | .recordingSuccess => (recordSuccess store now reachable client.circuitKey, .answered)
  | .recordingFailure attempt message =>
    (recordFailure store now reachable client.circuitKey client.failureThreshold
      client.cooldownMs, afterFailure cases client attempt message)
  | .askingFallback _ =>
    match thrown with
    | none => (store, .answered)
    | some message => (store, .failed message)
  | .answered => (store, .answered)
  | .failed message => (store, .failed message)

/-- Clients that were resolved for a request; the fallback is of another provider. -/
structure Resolution where
  resolved : ResolvedWithFailover
  elsewhere : ∀ fallback ∈ resolved.fallback,
    fallback.client.provider ≠ resolved.primary.client.provider

structure FailoverRequest where
  pipeline : AiPipeline
  resolution : Resolution
  stage : FailoverStage := .checking
  sentTo : List Destination := []

def FailoverRequest.client (request : FailoverRequest) (organizationId : RowId) :
    FailoverAiClient :=
  request.pipeline.client organizationId request.resolution.resolved

section

variable (request : FailoverRequest) (organizationId : RowId)

@[simp] theorem FailoverRequest.client_primary :
    (request.client organizationId).primary = request.resolution.resolved.primary := by
  cases pipeline : request.pipeline <;> simp only [client, pipeline] <;> rfl

@[simp] theorem FailoverRequest.client_fallback :
    (request.client organizationId).fallback = request.resolution.resolved.fallback := by
  cases pipeline : request.pipeline <;> simp only [client, pipeline] <;> rfl

theorem FailoverRequest.client_circuitKey :
    (request.client organizationId).circuitKey =
      match request.pipeline with
      | .processCall =>
        taggingCircuitKey request.resolution.resolved.primary.provider
          request.resolution.resolved.primary.client.modelName
      | .story => storyCircuitKey organizationId request.resolution.resolved.primary.provider := by
  cases pipeline : request.pipeline <;> simp only [client, pipeline] <;> rfl

end

/-- The requests of every organization, by a number of its own. -/
structure FailoverSystem where
  clock : Date
  circuits : CircuitStore := {}
  requests : RowId → Nat → Option FailoverRequest := fun _ _ => none

def FailoverSystem.putRequest (system : FailoverSystem) (organizationId : RowId) (number : Nat)
    (request : FailoverRequest) : FailoverSystem :=
  { system with
    requests := Function.update system.requests organizationId
      (Function.update (system.requests organizationId) number (some request)) }

inductive RequestEvent where
  | asks (number : Nat) (pipeline : AiPipeline) (resolution : Resolution)
  | continues (number : Nat) (reachable : Bool) (thrown : Option Text)

inductive FailoverEvent where
  | passes (milliseconds : Nat)
  | request (organizationId : RowId) (event : RequestEvent)

def continueRequest (cases : CaseMapping) (system : FailoverSystem) (organizationId : RowId)
    (number : Nat) (reachable : Bool) (thrown : Option Text) (request : FailoverRequest) :
    FailoverSystem :=
  let client := request.client organizationId
  let (circuits, stage) :=
    chatCompletion cases client system.clock reachable thrown system.circuits request.stage
  { system with circuits }.putRequest organizationId number
    { request with stage, sentTo := request.sentTo ++ stage.sends client }

def requestStep (cases : CaseMapping) (organizationId : RowId) (system : FailoverSystem) :
    RequestEvent → FailoverSystem
  | .asks number pipeline resolution =>
    match system.requests organizationId number with
    | none => system.putRequest organizationId number { pipeline, resolution }
    | some _ => system
  | .continues number reachable thrown =>
    match system.requests organizationId number with
    | none => system
    | some request =>
      continueRequest cases system organizationId number reachable thrown request

def failoverStep (cases : CaseMapping) (system : FailoverSystem) :
    FailoverEvent → FailoverSystem
  | .passes milliseconds => { system with clock := system.clock + milliseconds }
  | .request organizationId event => requestStep cases organizationId system event

section

variable {tables : AiTables} {organizationId userId : RowId} {role : UserRole}
  {runtime : AiRuntime} {overrides : OperationOverrides}

end

end StoryEngine.Ai
