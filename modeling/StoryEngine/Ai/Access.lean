import StoryEngine.Ai.Config

namespace StoryEngine.Ai

open Data Schema

/-! # What the rows allow -/

/-- The lists of the row in force for a user; without a row they are empty. -/
structure AccessRow where
  allowedProviders : List AiProvider := []
  allowedModels : List Text := []
  deniedProviders : List AiProvider := []
  deniedModels : List Text := []

def rowInForce (tables : AiTables) (organizationId userId : RowId) (role : UserRole) : AccessRow :=
  match findUserAccess tables organizationId userId with
  | some row => {
      allowedProviders := row.allowedProviders
      allowedModels := row.allowedModels
      deniedProviders := row.deniedProviders
      deniedModels := row.deniedModels }
  | none =>
    match findRoleDefault tables organizationId role with
    | some row => { allowedProviders := row.allowedProviders, allowedModels := row.allowedModels }
    | none => {}

/-- The choice is not denied, and in the list of what is allowed when there is one. -/
def Permitted {α : Type} (allowed denied : List α) (choice : α) : Prop :=
  choice ∉ denied ∧ (allowed = [] ∨ choice ∈ allowed)

def Honours (row : AccessRow) (client : AiClient) : Prop :=
  Permitted row.allowedProviders row.deniedProviders client.provider ∧
    Permitted row.allowedModels row.deniedModels client.modelName

/-- The denials leave something of the list of what is allowed, or there is no such
list and the choice is not denied. -/
def Restrictive {α : Type} [DecidableEq α] (allowed denied : List α) (choice : α) : Prop :=
  withoutDenied allowed denied ≠ [] ∨ allowed = [] ∧ choice ∉ denied

def RowRestricts (row : AccessRow) (policy : OperationModelPolicy) : Prop :=
  Restrictive row.allowedProviders row.deniedProviders policy.provider ∧
    Restrictive row.allowedModels row.deniedModels policy.model

section

variable {α : Type} [DecidableEq α] {allowed denied : List α} {target : α}
  {source : ResolutionSource}

theorem mem_withoutDenied {item : α} :
    item ∈ withoutDenied allowed denied ↔ item ∈ allowed ∧ item ∉ denied := by
  simp [withoutDenied]

theorem withoutDenied_nil_right : withoutDenied allowed [] = allowed := by
  simp [withoutDenied]

theorem permitted_narrowed_iff
    (checked : withoutDenied allowed denied = [] ∨
      narrowed source (withoutDenied allowed denied) target ∈ withoutDenied allowed denied) :
    Permitted allowed denied (narrowed source (withoutDenied allowed denied) target) ↔
      Restrictive allowed denied target := by
  cases left : withoutDenied allowed denied with
  | nil =>
    have same : narrowed source ([] : List α) target = target := rfl
    rw [same, Restrictive, left]
    constructor
    · intro ⟨notDenied, listed⟩
      refine .inr ⟨listed.resolve_right fun inList => ?_, notDenied⟩
      have kept : target ∈ withoutDenied allowed denied :=
        mem_withoutDenied.mpr ⟨inList, notDenied⟩
      rw [left] at kept
      cases kept
    · intro restricts
      obtain ⟨noList, notDenied⟩ := restricts.resolve_left fun some => some rfl
      exact ⟨notDenied, .inl noList⟩
  | cons first rest =>
    rw [left] at checked
    have passes := checked.resolve_left (by simp)
    have inLeft : narrowed source (first :: rest) target ∈ withoutDenied allowed denied :=
      left ▸ passes
    obtain ⟨inList, notDenied⟩ := mem_withoutDenied.mp inLeft
    refine iff_of_true ⟨notDenied, .inr inList⟩ (.inl ?_)
    rw [left]
    exact List.cons_ne_nil first rest

end

section

variable {tables : AiTables} {organizationId userId : RowId} {role : UserRole}
  {runtime : AiRuntime} {overrides : OperationOverrides}

theorem resolveUserAccess_eq (notOwner : role ≠ .owner) (notAdmin : role ≠ .admin) :
    resolveUserAccess tables organizationId userId role = {
      allowedProviders :=
        withoutDenied (rowInForce tables organizationId userId role).allowedProviders
          (rowInForce tables organizationId userId role).deniedProviders
      allowedModels := withoutDenied (rowInForce tables organizationId userId role).allowedModels
        (rowInForce tables organizationId userId role).deniedModels } := by
  unfold resolveUserAccess rowInForce
  rw [if_neg (by simp [notOwner, notAdmin])]
  cases findUserAccess tables organizationId userId with
  | some row => rfl
  | none =>
    cases findRoleDefault tables organizationId role with
    | some row => simp [withoutDenied_nil_right]
    | none => rfl

variable {provider : AiProvider} {model : Text} {client : AiClient} {resolved : ResolvedAiClient}

theorem resolvePlatformClient_named
    (resolved : resolvePlatformClient tables runtime provider (some model) = .ok client) :
    client.provider = provider ∧ client.modelName = model := by
  simp only [resolvePlatformClient, bind_eq_ok, pure_eq_ok] at resolved
  obtain ⟨_, _, apiKey, _, _, _, rfl⟩ := resolved
  exact ⟨rfl, rfl⟩

theorem resolveCustomClient_named
    (resolved : resolveCustomClient tables organizationId runtime provider (some model) =
      .ok client) :
    client.provider = provider ∧ client.modelName = model := by
  simp only [resolveCustomClient, bind_eq_ok, pure_eq_ok] at resolved
  obtain ⟨_, _, apiKey, _, rfl⟩ := resolved
  exact ⟨rfl, rfl⟩

theorem normalizeModel_ne_nil {value : Option Text}
    (normalized : normalizeModel value = some model) : model ≠ [] := by
  have kept := (Option.filter_eq_some_iff.mp normalized).2
  simpa using kept

theorem operationPolicy_model : (operationPolicy tables organizationId overrides).model ≠ [] := by
  unfold operationPolicy resolveOperationModelPolicy
  dsimp only
  cases own : normalizeModel overrides.model with
  | some model => exact normalizeModel_ne_nil own
  | none =>
    cases org : normalizeModel ((findSettings tables organizationId).bind (·.defaultModel)) with
    | some model => exact normalizeModel_ne_nil org
    | none =>
      rw [Option.or_none, Option.getD_none]
      cases overrides.operation <;> decide

theorem narrowed_cases {α : Type} [DecidableEq α] {source : ResolutionSource} {allowed : List α}
    {target : α} : narrowed source allowed target = target ∨
      narrowed source allowed target ∈ allowed := by
  unfold narrowed
  cases allowed with
  | nil => exact .inl rfl
  | cons first rest =>
    dsimp only
    split
    · exact .inr List.mem_cons_self
    · exact .inl rfl

theorem resolveClient_passed
    (returned : resolveClient tables organizationId userId role runtime overrides = .ok resolved) :
    let access := resolveUserAccess tables organizationId userId role
    let policy := operationPolicy tables organizationId overrides
    resolved.client.provider = resolved.provider ∧
      resolved.provider =
        narrowed policy.providerSource access.allowedProviders policy.provider ∧
      resolved.client.modelName = narrowed policy.modelSource access.allowedModels policy.model ∧
      (access.allowedProviders = [] ∨
        narrowed policy.providerSource access.allowedProviders policy.provider ∈
          access.allowedProviders) ∧
      (access.allowedModels = [] ∨
        narrowed policy.modelSource access.allowedModels policy.model ∈ access.allowedModels) := by
  intro access policy
  obtain ⟨_, providerOk, afterProvider⟩ := bind_eq_ok.mp returned
  obtain ⟨_, modelOk, made⟩ := bind_eq_ok.mp afterProvider
  have checkedProvider := ensure_eq_ok.mp providerOk
  have checkedModel := ensure_eq_ok.mp modelOk
  rw [Bool.or_eq_true, List.isEmpty_iff, List.contains_iff_mem] at checkedProvider
  have named : resolved.client.provider = resolved.provider ∧
      resolved.provider =
        narrowed policy.providerSource access.allowedProviders policy.provider ∧
      resolved.client.modelName = narrowed policy.modelSource access.allowedModels policy.model := by
    split at made
    · obtain ⟨client, custom, isResolved⟩ := bind_eq_ok.mp made
      obtain rfl := pure_eq_ok.mp isResolved
      obtain ⟨provider, model⟩ := resolveCustomClient_named custom
      exact ⟨provider, rfl, model⟩
    · obtain ⟨client, platform, isResolved⟩ := bind_eq_ok.mp made
      obtain rfl := pure_eq_ok.mp isResolved
      obtain ⟨provider, model⟩ := resolvePlatformClient_named platform
      exact ⟨provider, rfl, model⟩
  refine ⟨named.1, named.2.1, named.2.2, checkedProvider, ?_⟩
  rw [Bool.or_eq_true, Bool.or_eq_true, List.isEmpty_iff, List.isEmpty_iff,
    List.contains_iff_mem, or_assoc] at checkedModel
  refine checkedModel.elim (fun empty => ?_) id
  refine narrowed_cases.imp_left fun same => ?_
  exact absurd (same.symm.trans empty) operationPolicy_model

theorem honours_iff (notOwner : role ≠ .owner) (notAdmin : role ≠ .admin)
    (returned : resolveClient tables organizationId userId role runtime overrides = .ok resolved) :
    Honours (rowInForce tables organizationId userId role) resolved.client ↔
      RowRestricts (rowInForce tables organizationId userId role)
        (operationPolicy tables organizationId overrides) := by
  obtain ⟨client, provider, model, providerOk, modelOk⟩ := resolveClient_passed returned
  rw [resolveUserAccess_eq notOwner notAdmin] at provider model providerOk modelOk
  rw [Honours, client, provider, model]
  exact and_congr (permitted_narrowed_iff providerOk) (permitted_narrowed_iff modelOk)

theorem resolveClient_override
    (asked : overrides.provider = some provider)
    (returned : resolveClient tables organizationId userId role runtime overrides = .ok resolved) :
    resolved.provider = provider := by
  obtain ⟨_, target, _⟩ := resolveClient_passed returned
  have policy : (operationPolicy tables organizationId overrides).provider = provider ∧
      (operationPolicy tables organizationId overrides).providerSource = .override := by
    simp [operationPolicy, resolveOperationModelPolicy, sourceOf, asked]
  rw [target, policy.1, policy.2]
  unfold narrowed
  cases (resolveUserAccess tables organizationId userId role).allowedProviders with
  | nil => rfl
  | cons first rest => exact if_neg (by simp)

theorem resolveClientWithFailover_parts {resolved : ResolvedWithFailover}
    (returned : resolveClientWithFailover tables organizationId userId role runtime overrides =
      .ok resolved) :
    resolveClient tables organizationId userId role runtime overrides = .ok resolved.primary ∧
      ∀ fallback, resolved.fallback = some fallback →
        resolveClient tables organizationId userId role runtime
          { operation := overrides.operation, provider := some fallback.provider } =
            .ok fallback := by
  obtain ⟨primary, first, isResolved⟩ := bind_eq_ok.mp returned
  obtain rfl := pure_eq_ok.mp isResolved
  refine ⟨first, fun fallback found => ?_⟩
  obtain ⟨candidate, _, candidateOk⟩ := List.exists_of_findSome?_eq_some found
  obtain ⟨_, kept⟩ := Option.ite_none_right_eq_some.mp candidateOk
  have again := toOption_eq_some.mp (Option.filter_eq_some_iff.mp kept).1
  rwa [resolveClient_override rfl again]

end

/-- A client that is returned, as primary or as fallback, honours the row in force of a
member or viewer exactly when the lists of the row restrict what the operation asks
for. -/
theorem denials_honoured_iff (tables : AiTables) (organizationId userId : RowId) (role : UserRole)
    (runtime : AiRuntime) (overrides : OperationOverrides) (notOwner : role ≠ .owner)
    (notAdmin : role ≠ .admin) :
    let row := rowInForce tables organizationId userId role
    let policy := operationPolicy tables organizationId
    (∀ resolved, resolveClient tables organizationId userId role runtime overrides =
        .ok resolved → (Honours row resolved.client ↔ RowRestricts row (policy overrides))) ∧
      ∀ resolved, resolveClientWithFailover tables organizationId userId role runtime overrides =
        .ok resolved →
          (Honours row resolved.primary.client ↔ RowRestricts row (policy overrides)) ∧
          ∀ fallback, resolved.fallback = some fallback →
            (Honours row fallback.client ↔ RowRestricts row (policy
              { operation := overrides.operation, provider := some fallback.provider })) := by
  intro row policy
  refine ⟨fun resolved returned => honours_iff notOwner notAdmin returned, ?_⟩
  intro resolved returned
  obtain ⟨primary, fallbacks⟩ := resolveClientWithFailover_parts returned
  exact ⟨honours_iff notOwner notAdmin primary, fun fallback found =>
    honours_iff notOwner notAdmin (fallbacks fallback found)⟩

def withAccess (access : UserAiAccess) : AiTables where
  userAccess := [access]
  platformProviders := allProviders.map fun provider => { provider, encryptedApiKey := "key" }

def plainRuntime : AiRuntime where
  decryptApiKey := some
  retryBudget _ := 2

def memberClient (access : UserAiAccess) (overrides : OperationOverrides) :
    Except AiError ResolvedAiClient :=
  resolveClient (withAccess access) 1 1 .member plainRuntime overrides

def oneDenied : UserAiAccess where
  organizationId := 1
  userId := 1
  allowedProviders := [.openai, .anthropic]
  deniedProviders := [.openai]

/-- The user gets the other one. -/
theorem remaining_provider_is_honoured :
    Honours (rowInForce (withAccess oneDenied) 1 1 .member)
      { provider := .anthropic, apiKey := "key", modelName := "gpt-4o" } := by
  have returned : memberClient oneDenied {} = .ok {
      client := { provider := .anthropic, apiKey := "key", modelName := "gpt-4o" }
      isPlatformBilled := true
      provider := .anthropic
      model := "gpt-4o" } := by decide
  refine ((denials_honoured_iff (withAccess oneDenied) 1 1 .member plainRuntime {} (by decide)
    (by decide)).1 _ returned).mpr ⟨.inl (by decide), .inr (by decide)⟩

def onlyDenied : UserAiAccess where
  organizationId := 1
  userId := 1
  deniedProviders := [.google]
  deniedModels := ["gpt-4o"]

def allDenied : UserAiAccess where
  organizationId := 1
  userId := 1
  allowedProviders := [.openai]
  deniedProviders := [.openai]

/-- Both give the user what is denied. -/
theorem denied_client_is_returned :
    (∃ resolved, memberClient onlyDenied { provider := some .google } = .ok resolved ∧
      resolved.client.provider ∈ onlyDenied.deniedProviders ∧
        resolved.client.modelName ∈ onlyDenied.deniedModels) ∧
    ∃ resolved, memberClient allDenied {} = .ok resolved ∧
      resolved.client.provider ∈ allDenied.deniedProviders := by
  refine ⟨⟨_, rfl, ?_⟩, ⟨_, rfl, ?_⟩⟩ <;> decide

end StoryEngine.Ai
