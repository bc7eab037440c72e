import StoryEngine.Schema.Rows

namespace StoryEngine.Ai

open Schema

/-! # The provider and the model of an operation -/

/-- The names of the clients and the column type are in bijection. -/
inductive AiProvider where
  | openai
  | anthropic
  | google
deriving DecidableEq

inductive AiOperation where
  | storyGeneration
  | quoteExtraction
  | transcriptTagging
  | ragQuery
  | embedding
deriving DecidableEq

def AiProvider.name : AiProvider → Text
  | .openai => "openai"
  | .anthropic => "anthropic"
  | .google => "google"

def allProviders : List AiProvider := [.openai, .anthropic, .google]

def parseAiProviderName (value : Option Text) : Option AiProvider :=
  let normalized := ((value.map Text.trim).getD []).map Char.toLower
  allProviders.find? fun provider => provider.name == normalized

def normalizeModel (value : Option Text) : Option Text :=
  (value.map Text.trim).filter fun trimmed => !trimmed.isEmpty

inductive ResolutionSource where
  | override
  | orgDefault
  | operationDefault
  | accessDefault
deriving DecidableEq

def defaultProvider (_operation : AiOperation) : AiProvider := .openai

def defaultModel : AiOperation → Text
  | .embedding => "text-embedding-3-small"
  | _ => "gpt-4o"

structure OperationOverrides where
  operation : AiOperation := .storyGeneration
  provider : Option AiProvider := none
  model : Option Text := none

structure OperationModelPolicy where
  operation : AiOperation
  provider : AiProvider
  model : Text
  providerSource : ResolutionSource
  modelSource : ResolutionSource

def sourceOf {α β : Type} (overridden : Option α) (orgDefault : Option β) : ResolutionSource :=
  if overridden.isSome then .override
  else if orgDefault.isSome then .orgDefault
  else .operationDefault

def resolveOperationModelPolicy (overrides : OperationOverrides)
    (orgDefaultProvider orgDefaultModel : Option Text) : OperationModelPolicy where
  operation := overrides.operation
  provider := (overrides.provider.or (parseAiProviderName orgDefaultProvider)).getD
    (defaultProvider overrides.operation)
  model := ((normalizeModel overrides.model).or (normalizeModel orgDefaultModel)).getD
    (defaultModel overrides.operation)
  providerSource := sourceOf overrides.provider (parseAiProviderName orgDefaultProvider)
  modelSource := sourceOf (normalizeModel overrides.model) (normalizeModel orgDefaultModel)

end StoryEngine.Ai
