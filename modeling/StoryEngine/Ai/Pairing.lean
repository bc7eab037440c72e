import StoryEngine.Ai.Access

namespace StoryEngine.Ai

open Data Schema

/-! # Models of their own provider

The provider of a client and its model are defaulted independently.  They belong together where
both come from the same level, and elsewhere only by the choice of the rows.
-/

/-- What is set fits together level by level: the models of the providers are disjoint, and each
default model, and the one asked for, is a model of the provider next to it. -/
structure ModelCatalog (models : AiProvider → Text → Prop) (overrides : OperationOverrides)
    (orgDefaultProvider orgDefaultModel : Option Text) : Prop where
  disjoint : ∀ first second model, models first model → models second model → first = second
  operation : ∀ operation, models (defaultProvider operation) (defaultModel operation)
  organization : ∀ model, normalizeModel orgDefaultModel = some model →
    models ((parseAiProviderName orgDefaultProvider).getD .openai) model
  override : ∀ model, normalizeModel overrides.model = some model →
    ∃ provider, overrides.provider = some provider ∧ models provider model

/-- The override, the default of the organization, or openai, which gives way to the first
provider of the user's list if it is not on that list. -/
def askedProvider (access : ResolvedAccess) (override : Option AiProvider)
    (orgDefaultProvider : Option Text) : AiProvider :=
  match override.or (parseAiProviderName orgDefaultProvider), access.allowedProviders with
  | some provider, _ => provider
  | none, [] => .openai
  | none, first :: rest => if .openai ∈ first :: rest then .openai else first

def PairsModel (models : AiProvider → Text → Prop) (access : ResolvedAccess)
    (overrides : OperationOverrides) (orgDefaultProvider orgDefaultModel : Option Text) : Prop :=
  let provider := askedProvider access overrides.provider orgDefaultProvider
  match normalizeModel overrides.model, normalizeModel orgDefaultModel with
  | some _, _ => True
  | none, some _ => provider = (parseAiProviderName orgDefaultProvider).getD .openai
  | none, none =>
    match access.allowedModels with
    | [] => provider = .openai
    | first :: rest =>
      if defaultModel overrides.operation ∈ first :: rest then provider = .openai
      else models provider first

section

variable {α : Type} [DecidableEq α] {allowed : List α} {first target : α} {rest : List α}

theorem narrowed_set {source : ResolutionSource} (set : source ≠ .operationDefault) :
    narrowed source allowed target = target := by
  unfold narrowed
  cases allowed with
  | nil => rfl
  | cons first rest => exact if_neg (by simp [set])

theorem narrowed_default :
    narrowed .operationDefault (first :: rest) target =
      if target ∈ first :: rest then target else first := by
  unfold narrowed
  by_cases listed : target ∈ first :: rest
  · rw [if_pos listed]
    exact if_neg fun outside => absurd listed (by simpa using outside)
  · rw [if_neg listed]
    exact if_pos (by simpa using listed)

end

section

variable {models : AiProvider → Text → Prop} {access : ResolvedAccess}
  {overrides : OperationOverrides} {orgDefaultProvider orgDefaultModel : Option Text}

theorem narrowed_provider_eq :
    narrowed (resolveOperationModelPolicy overrides orgDefaultProvider orgDefaultModel).providerSource
        access.allowedProviders
        (resolveOperationModelPolicy overrides orgDefaultProvider orgDefaultModel).provider =
      askedProvider access overrides.provider orgDefaultProvider := by
  simp only [resolveOperationModelPolicy, sourceOf, askedProvider]
  cases asked : overrides.provider with
  | some provider =>
    rw [narrowed_set (by simp)]
    rfl
  | none =>
    cases parseAiProviderName orgDefaultProvider with
    | some provider =>
      rw [narrowed_set (by simp)]
      rfl
    | none =>
      cases access.allowedProviders with
      | nil => rfl
      | cons first rest => exact narrowed_default

theorem pairs_iff (catalog : ModelCatalog models overrides orgDefaultProvider orgDefaultModel) :
    models (askedProvider access overrides.provider orgDefaultProvider)
        (narrowed
          (resolveOperationModelPolicy overrides orgDefaultProvider orgDefaultModel).modelSource
          access.allowedModels
          (resolveOperationModelPolicy overrides orgDefaultProvider orgDefaultModel).model) ↔
      PairsModel models access overrides orgDefaultProvider orgDefaultModel := by
  have same {provider own : AiProvider} {model : Text} (belongs : models own model) :
      models provider model ↔ provider = own := by
    constructor
    · intro other
      exact catalog.disjoint provider own model other belongs
    · rintro rfl
      exact belongs
  simp only [resolveOperationModelPolicy, sourceOf, PairsModel]
  cases own : normalizeModel overrides.model with
  | some model =>
    obtain ⟨provider, asked, belongs⟩ := catalog.override model own
    have target : askedProvider access overrides.provider orgDefaultProvider = provider := by
      simp [askedProvider, asked]
    rw [target, narrowed_set (by simp)]
    simpa using belongs
  | none =>
    cases org : normalizeModel orgDefaultModel with
    | some model =>
      rw [narrowed_set (by simp)]
      exact same (catalog.organization model org)
    | none =>
      have openai := catalog.operation overrides.operation
      cases access.allowedModels with
      | nil => exact same openai
      | cons first rest =>
        have target : narrowed .operationDefault (first :: rest)
            (defaultModel overrides.operation) = _ := narrowed_default
        simp only [Option.or_none, Option.getD_none, Option.isSome_none, Bool.false_eq_true,
          if_false, target]
        by_cases listed : defaultModel overrides.operation ∈ first :: rest
        · rw [if_pos listed, if_pos listed]
          exact same openai
        · rw [if_neg listed, if_neg listed]

theorem ModelCatalog.fallback {provider : AiProvider}
    (catalog : ModelCatalog models overrides orgDefaultProvider orgDefaultModel) :
    ModelCatalog models { operation := overrides.operation, provider := some provider }
      orgDefaultProvider orgDefaultModel where
  disjoint := catalog.disjoint
  operation := catalog.operation
  organization := catalog.organization
  override := nofun

end

def Paired (models : AiProvider → Text → Prop) (client : AiClient) : Prop :=
  models client.provider client.modelName

def AsksForPair (models : AiProvider → Text → Prop) (tables : AiTables)
    (organizationId userId : RowId) (role : UserRole) (overrides : OperationOverrides) : Prop :=
  PairsModel models (resolveUserAccess tables organizationId userId role) overrides
    ((findSettings tables organizationId).bind (·.defaultProvider))
    ((findSettings tables organizationId).bind (·.defaultModel))

section

variable {models : AiProvider → Text → Prop} {tables : AiTables} {organizationId userId : RowId}
  {role : UserRole} {runtime : AiRuntime} {overrides : OperationOverrides}

theorem client_paired_iff
    (catalog : ModelCatalog models overrides
      ((findSettings tables organizationId).bind (·.defaultProvider))
      ((findSettings tables organizationId).bind (·.defaultModel)))
    {resolved : ResolvedAiClient}
    (returned : resolveClient tables organizationId userId role runtime overrides = .ok resolved) :
    Paired models resolved.client ↔
      AsksForPair models tables organizationId userId role overrides := by
  obtain ⟨client, provider, model, _, _⟩ := resolveClient_passed returned
  have target := provider.trans narrowed_provider_eq
  rw [Paired, client, target, model]
  exact pairs_iff catalog

end

/-- The clients that are returned have models of their own providers just if the primary, and
the fallback if there is one, is asked for with a model of its provider. -/
theorem clients_paired_iff (models : AiProvider → Text → Prop) (tables : AiTables)
    (organizationId userId : RowId) (role : UserRole) (runtime : AiRuntime)
    (overrides : OperationOverrides)
    (catalog : ModelCatalog models overrides
      ((findSettings tables organizationId).bind (·.defaultProvider))
      ((findSettings tables organizationId).bind (·.defaultModel))) :
    (∀ resolved, resolveClient tables organizationId userId role runtime overrides =
        .ok resolved →
      (Paired models resolved.client ↔
        AsksForPair models tables organizationId userId role overrides)) ∧
      ∀ resolved, resolveClientWithFailover tables organizationId userId role runtime overrides =
          .ok resolved →
        ((Paired models resolved.primary.client ∧
            ∀ fallback ∈ resolved.fallback, Paired models fallback.client) ↔
          (AsksForPair models tables organizationId userId role overrides ∧
            ∀ fallback ∈ resolved.fallback,
              AsksForPair models tables organizationId userId role
                { operation := overrides.operation, provider := some fallback.provider })) := by
  constructor
  · intro resolved returned
    exact client_paired_iff catalog returned
  · intro resolved returned
    obtain ⟨primary, fallbacks⟩ := resolveClientWithFailover_parts returned
    have each : ∀ fallback ∈ resolved.fallback,
        (Paired models fallback.client ↔
          AsksForPair models tables organizationId userId role
            { operation := overrides.operation, provider := some fallback.provider }) := by
      intro fallback found
      exact client_paired_iff catalog.fallback (fallbacks fallback found)
    rw [client_paired_iff catalog primary]
    exact and_congr_right fun _ => forall₂_congr each

def modelList : AiProvider → List Text
  | .openai => ["gpt-4o", "text-embedding-3-small"]
  | .anthropic => ["claude-sonnet-4-20250514"]
  | .google => ["gemini-2.0-flash"]

def listedModels (provider : AiProvider) (model : Text) : Prop := model ∈ modelList provider

instance (provider : AiProvider) (model : Text) : Decidable (listedModels provider model) :=
  inferInstanceAs (Decidable (model ∈ modelList provider))

def withDefault : AiTables where
  settings := [{
    organizationId := 1
    defaultProvider := some "anthropic"
    defaultModel := some "claude-sonnet-4-20250514" }]
  platformProviders := allProviders.map fun provider => { provider, encryptedApiKey := "key" }

theorem listedModels_disjoint (first second : AiProvider) (model : Text)
    (inFirst : listedModels first model) (inSecond : listedModels second model) :
    first = second := by
  have apart : ∀ model ∈ modelList first, model ∈ modelList second → first = second := by
    cases first <;> cases second <;> decide
  exact apart model inFirst inSecond

theorem withDefault_catalog (override : Option AiProvider) :
    ModelCatalog listedModels { provider := override }
      ((findSettings withDefault 1).bind (·.defaultProvider))
      ((findSettings withDefault 1).bind (·.defaultModel)) where
  disjoint := listedModels_disjoint
  operation := by
    intro operation
    cases operation <;> decide
  organization := by
    intro model set
    have isModel : model = "claude-sonnet-4-20250514" := by
      rw [← Option.some_inj, ← set]
      decide
    rw [isModel]
    decide
  override := nofun

/-- Without an override the default model goes with the default provider. -/
theorem default_is_paired :
    Paired listedModels {
      provider := .anthropic, apiKey := "key", modelName := "claude-sonnet-4-20250514" } := by
  have returned : resolveClient withDefault 1 1 .owner plainRuntime {} = .ok {
      client := {
        provider := .anthropic, apiKey := "key", modelName := "claude-sonnet-4-20250514" }
      isPlatformBilled := true
      provider := .anthropic
      model := "claude-sonnet-4-20250514" } := by decide
  exact ((clients_paired_iff listedModels withDefault 1 1 .owner plainRuntime {}
    (withDefault_catalog none)).1 _ returned).mpr rfl

/-- Another provider is given the default model of the organization. -/
theorem override_is_unpaired :
    ModelCatalog listedModels { provider := some .openai }
        ((findSettings withDefault 1).bind (·.defaultProvider))
        ((findSettings withDefault 1).bind (·.defaultModel)) ∧
      ∃ resolved, resolveClient withDefault 1 1 .owner plainRuntime { provider := some .openai } =
          .ok resolved ∧
        ¬Paired listedModels resolved.client := by
  refine ⟨withDefault_catalog (some .openai), _, rfl, ?_⟩
  unfold Paired
  decide

end StoryEngine.Ai
