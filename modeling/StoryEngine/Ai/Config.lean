import StoryEngine.Ai.OperationPolicy
import StoryEngine.Data.Rows

namespace StoryEngine.Ai

open Data Schema

/-! # The clients of a user

Rows of the organization, the user and the role decide which provider and which
model a request gets.
-/

structure OrgAiSettings where
  organizationId : RowId
  defaultProvider : Option Text := none
  defaultModel : Option Text := none

structure UserAiAccess where
  organizationId : RowId
  userId : RowId
  allowedProviders : List AiProvider := []
  allowedModels : List Text := []
  deniedProviders : List AiProvider := []
  deniedModels : List Text := []

structure OrgAiRoleDefault where
  organizationId : RowId
  role : UserRole
  allowedProviders : List AiProvider := []
  allowedModels : List Text := []

structure AiProviderConfig where
  organizationId : RowId
  provider : AiProvider
  encryptedApiKey : Text
  defaultModel : Option Text := none
  isActive : Bool := true

structure PlatformAiProvider where
  provider : AiProvider
  encryptedApiKey : Text
  isActive : Bool := true

structure PlatformModelPricing where
  provider : AiProvider
  modelId : Text
  isAvailable : Bool := true

structure AiTables where
  settings : List OrgAiSettings := []
  userAccess : List UserAiAccess := []
  roleDefaults : List OrgAiRoleDefault := []
  configs : List AiProviderConfig := []
  platformProviders : List PlatformAiProvider := []
  pricing : List PlatformModelPricing := []

/-- Decryption, which throws, and the retry budget of an organization. -/
structure AiRuntime where
  decryptApiKey : Text → Option Text
  retryBudget : RowId → Nat

inductive AiError where
  | providerDenied (provider : AiProvider) (allowed : List AiProvider)
  | modelDenied (model : Text) (allowed : List Text)
  | platformUnavailable (provider : AiProvider)
  | modelUnavailable (model : Text)
  | notConfigured (provider : AiProvider)
  | undecryptable
deriving DecidableEq

structure AiClient where
  provider : AiProvider
  apiKey : Text
  modelName : Text
deriving DecidableEq

def clientDefaultModel : AiProvider → Text
  | .openai => "gpt-4o"
  | .anthropic => "claude-sonnet-4-20250514"
  | .google => "gemini-2.0-flash"

def createAiClient (provider : AiProvider) (apiKey : Text) (model : Option Text) : AiClient :=
  { provider, apiKey, modelName := model.getD (clientDefaultModel provider) }

structure ResolvedAiClient where
  client : AiClient
  isPlatformBilled : Bool
  provider : AiProvider
  model : Text
deriving DecidableEq

structure ResolvedAccess where
  allowedProviders : List AiProvider := []
  allowedModels : List Text := []

section

variable (tables : AiTables) (organizationId userId : RowId) (role : UserRole)

def findSettings : Option OrgAiSettings :=
  tables.settings.find? (·.organizationId == organizationId)

def findUserAccess : Option UserAiAccess :=
  tables.userAccess.find? fun row =>
    row.organizationId == organizationId && row.userId == userId

def findRoleDefault : Option OrgAiRoleDefault :=
  tables.roleDefaults.find? fun row => row.organizationId == organizationId && row.role == role

def findConfig (provider : AiProvider) : Option AiProviderConfig :=
  tables.configs.find? fun row => row.organizationId == organizationId && row.provider == provider

def findPlatformProvider (provider : AiProvider) : Option PlatformAiProvider :=
  tables.platformProviders.find? (·.provider == provider)

def withoutDenied {α : Type} [DecidableEq α] (allowed denied : List α) : List α :=
  allowed.filter fun item => !denied.contains item

def resolveUserAccess : ResolvedAccess :=
  if role = .owner ∨ role = .admin then {}
  else match findUserAccess tables organizationId userId with
    | some row => {
        allowedProviders := withoutDenied row.allowedProviders row.deniedProviders
        allowedModels := withoutDenied row.allowedModels row.deniedModels }
    | none =>
      match findRoleDefault tables organizationId role with
      | some row => { allowedProviders := row.allowedProviders, allowedModels := row.allowedModels }
      | none => {}

variable (runtime : AiRuntime)

def decrypt (encrypted : Text) : Except AiError Text :=
  required (runtime.decryptApiKey encrypted) .undecryptable

def findPricing (provider : AiProvider) (modelId : Text) : Option PlatformModelPricing :=
  tables.pricing.find? fun row => row.provider == provider && row.modelId == modelId

def resolvePlatformClient (provider : AiProvider) (model : Option Text) :
    Except AiError AiClient := do
  let platformProvider ← required ((findPlatformProvider tables provider).filter (·.isActive))
    (.platformUnavailable provider)
  let apiKey ← decrypt runtime platformProvider.encryptedApiKey
  let _ ← ensure (model.all fun name =>
    name.isEmpty || (findPricing tables provider name).all (·.isAvailable))
    (.modelUnavailable (model.getD []))
  return createAiClient provider apiKey model

def resolveCustomClient (provider : AiProvider) (model : Option Text) :
    Except AiError AiClient := do
  let config ← required ((findConfig tables organizationId provider).filter (·.isActive))
    (.notConfigured provider)
  let apiKey ← decrypt runtime config.encryptedApiKey
  return createAiClient provider apiKey (model.or config.defaultModel)

def narrowed {α : Type} [DecidableEq α] (source : ResolutionSource) (allowed : List α)
    (target : α) : α :=
  match allowed with
  | [] => target
  | first :: _ =>
    if source = .operationDefault ∧ !allowed.contains target then first else target

def operationPolicy (overrides : OperationOverrides) : OperationModelPolicy :=
  resolveOperationModelPolicy overrides
    ((findSettings tables organizationId).bind (·.defaultProvider))
    ((findSettings tables organizationId).bind (·.defaultModel))

def resolveClient (overrides : OperationOverrides) : Except AiError ResolvedAiClient := do
  let access := resolveUserAccess tables organizationId userId role
  let policy := operationPolicy tables organizationId overrides
  let targetProvider := narrowed policy.providerSource access.allowedProviders policy.provider
  let targetModel := narrowed policy.modelSource access.allowedModels policy.model
  let _ ← ensure (access.allowedProviders.isEmpty || access.allowedProviders.contains targetProvider)
    (.providerDenied targetProvider access.allowedProviders)
  let _ ← ensure (targetModel.isEmpty || access.allowedModels.isEmpty ||
    access.allowedModels.contains targetModel) (.modelDenied targetModel access.allowedModels)
  if (findConfig tables organizationId targetProvider).any (·.isActive) then do
    let client ← resolveCustomClient tables organizationId runtime targetProvider (some targetModel)
    return { client, isPlatformBilled := false, provider := targetProvider, model := targetModel }
  else do
    let client ← resolvePlatformClient tables runtime targetProvider (some targetModel)
    return { client, isPlatformBilled := true, provider := targetProvider, model := targetModel }

def isProviderAvailableForOrg (provider : AiProvider) : Bool :=
  (findConfig tables organizationId provider).any (·.isActive) ||
    (findPlatformProvider tables provider).any (·.isActive)

structure ResolvedWithFailover where
  primary : ResolvedAiClient
  fallback : Option ResolvedAiClient
  retryBudget : Nat

def fallbackFor (overrides : OperationOverrides) (primary : ResolvedAiClient)
    (candidate : AiProvider) : Option ResolvedAiClient :=
  let access := resolveUserAccess tables organizationId userId role
  let allowedProviders :=
    if access.allowedProviders.isEmpty then allProviders else access.allowedProviders
  if allowedProviders.contains candidate && isProviderAvailableForOrg tables organizationId candidate
  then
    (resolveClient tables organizationId userId role runtime
      { operation := overrides.operation, provider := some candidate }).toOption.filter
        fun fallback => fallback.provider ≠ primary.provider
  else none

def resolveClientWithFailover (overrides : OperationOverrides) :
    Except AiError ResolvedWithFailover := do
  let primary ← resolveClient tables organizationId userId role runtime overrides
  let fallbackOrder := allProviders.filter (· ≠ primary.provider)
  return {
    primary
    fallback := fallbackOrder.findSome?
      (fallbackFor tables organizationId userId role runtime overrides primary)
    retryBudget := runtime.retryBudget organizationId }

end

end StoryEngine.Ai
