import StoryEngine.Billing.StripeEvents

namespace StoryEngine.Setup

open Data Schema Statements Billing

/-! # The setup wizard

Each operation of the wizard writes the step that comes after its own.
-/

inductive SetupWizardStep where
  | recordingProvider
  | crm
  | accountSync
  | plan
  | permissions
  | completed
deriving DecidableEq

def stepOrder : List SetupWizardStep :=
  [.recordingProvider, .crm, .accountSync, .plan, .permissions, .completed]

def SetupWizardStep.index (step : SetupWizardStep) : Nat := stepOrder.idxOf step

instance : LE SetupWizardStep := ⟨fun earlier later => earlier.index ≤ later.index⟩

instance (earlier later : SetupWizardStep) : Decidable (earlier ≤ later) :=
  inferInstanceAs (Decidable (earlier.index ≤ later.index))

structure SetupWizard where
  organizationId : RowId
  currentStep : SetupWizardStep := .recordingProvider
  completedAt : Option Date := none
  recordingProvider : Option CallProvider := none
  mergeLinkedAccountId : Option Text := none
  crmProvider : Option CrmProvider := none
  crmMergeLinkedAccountId : Option Text := none
  syncedAccountCount : Nat := 0
  unresolvedCount : Nat := 0
  syncReviewedAt : Option Date := none
  selectedPlan : Option Plan := none
  permissionsConfiguredAt : Option Date := none

structure SetupSettings where
  organizationId : RowId
  landingPagesEnabled : Bool := true
  defaultPageVisibility : PageVisibility
  approvalPolicy : ApprovalPolicy
  allowedPublishers : List UserRole
  requireApprovalToPublish : Bool

structure SetupCall where
  organizationId : RowId
  accountId : Option RowId := none

structure SetupTables where
  billing : BillingTables := {}
  wizards : List SetupWizard := []
  settings : List SetupSettings := []
  /-- The organizations of the accounts. -/
  accounts : List RowId := []
  calls : List SetupCall := []

inductive SetupError where
  | billing (failure : BillingError)
  /-- The row of an update is missing. -/
  | recordNotFound
  /-- `Selected plan is not configured for self-serve checkout.` -/
  | notConfigured
  /-- `Cannot skip step: COMPLETED` -/
  | cannotSkip

abbrev SetupWork (α : Type) := Work SetupError SetupTables α

def onBilling {α : Type} (work : BillingWork α) : SetupWork α := fun tables =>
  match work tables.billing with
  | .ok value billing => .ok value { tables with billing }
  | .error failure billing => .error (.billing failure) { tables with billing }

def findWizard (tables : SetupTables) (organizationId : RowId) : Option SetupWizard :=
  tables.wizards.find? (·.organizationId == organizationId)

def setWizard (tables : SetupTables) (organizationId : RowId) (change : SetupWizard → SetupWizard) :
    SetupTables :=
  { tables with wizards := updateWhere tables.wizards (·.organizationId == organizationId) change }

def updateWizard (organizationId : RowId) (change : SetupWizard → SetupWizard) :
    SetupWork PUnit := fun tables =>
  if tables.wizards.any (·.organizationId == organizationId) then
    .ok ⟨⟩ (setWizard tables organizationId change)
  else .error .recordNotFound tables

def getOrCreateWizard (organizationId : RowId) : SetupWork PUnit := fun tables =>
  if tables.wizards.any (·.organizationId == organizationId) then .ok ⟨⟩ tables
  else .ok ⟨⟩ { tables with wizards := tables.wizards ++ [{ organizationId }] }

def upsertSettings (settings : SetupSettings) : SetupWork PUnit := fun tables =>
  if tables.settings.any (·.organizationId == settings.organizationId) then
    .ok ⟨⟩ { tables with
      settings := updateWhere tables.settings (·.organizationId == settings.organizationId)
        fun row => { settings with landingPagesEnabled := row.landingPagesEnabled } }
  else .ok ⟨⟩ { tables with settings := tables.settings ++ [settings] }

/-- Stripe and its prices.  A call of Stripe may throw, and a session may come without
an address. -/
structure CheckoutStripe where
  createCustomer : RowId → Date → Option Text
  createSession : Text → Text → Date → Option (Option Text)
  prices : StripePrices

section

variable (stripe : CheckoutStripe) (now : Date)

def getStripePriceId (plan : Plan) : Option Text :=
  (stripe.prices.configured.lookup plan).join.filter fun price => !price.isEmpty

def createCustomer (organizationId : RowId) : SetupWork Text := fun tables =>
  match stripe.createCustomer organizationId now with
  | none => .error (.billing .stripe) tables
  | some customerId => .ok customerId tables

def customerOf (org : Organization) : SetupWork Text :=
  match org.stripeCustomerId.filter fun customer => !customer.isEmpty with
  | some customerId => pure customerId
  | none => do
      let customerId ← createCustomer stripe now org.id
      onBilling (updateOrganization org.id fun row =>
        { row with stripeCustomerId := some customerId })
      return customerId

def createSession (customerId priceId : Text) : SetupWork (Option Text) := fun tables =>
  match stripe.createSession customerId priceId now with
  | none => .error (.billing .stripe) tables
  | some url => .ok (url.filter fun address => !address.isEmpty) tables

def createCheckoutSession (organizationId : RowId) (plan : Plan) : SetupWork (Option Text) := do
  match findOrganization (← get).billing organizationId with
  | none => return none
  | some org =>
    let customerId ← customerOf stripe now org
    if plan = .freeTrial then return none
    else
      match getStripePriceId stripe plan with
      | none => return none
      | some priceId => createSession stripe now customerId priceId

end

def completeRecordingProvider (organizationId : RowId) (provider : CallProvider)
    (mergeLinkedAccountId : Text) : SetupWork PUnit :=
  updateWizard organizationId fun wizard =>
    { wizard with
      recordingProvider := some provider
      mergeLinkedAccountId := some mergeLinkedAccountId
      currentStep := .crm }

def completeCrmConnection (organizationId : RowId) (crmProvider : CrmProvider)
    (mergeLinkedAccountId : Text) : SetupWork PUnit :=
  updateWizard organizationId fun wizard =>
    { wizard with
      crmProvider := some crmProvider
      crmMergeLinkedAccountId := some mergeLinkedAccountId
      currentStep := .accountSync }

def completeAccountSyncReview (now : Date) (organizationId : RowId) : SetupWork PUnit := do
  let tables ← get
  updateWizard organizationId fun wizard =>
    { wizard with
      syncedAccountCount := tables.accounts.count organizationId
      unresolvedCount := (tables.calls.filter fun call =>
        call.organizationId == organizationId && call.accountId.isNone).length
      syncReviewedAt := some now
      currentStep := .plan }

def trialMs : Nat := 14 * 24 * 60 * 60 * 1000

def startTrial (now : Date) (row : Organization) : Organization :=
  { row with plan := .freeTrial, trialEndsAt := some (now + trialMs) }

def completePlanSelection (now : Date) (organizationId : RowId) (plan : Plan)
    (createCheckoutSession : RowId → Plan → SetupWork (Option Text)) :
    SetupWork (Option Text) := do
  onBilling (updateOrganization organizationId (startTrial now))
  if plan = .freeTrial then
    updateWizard organizationId fun wizard =>
      { wizard with selectedPlan := some plan, currentStep := .permissions }
    return none
  else
    match ← createCheckoutSession organizationId plan with
    | none => throw .notConfigured
    | some checkoutUrl =>
      updateWizard organizationId fun wizard =>
        { wizard with selectedPlan := some plan, currentStep := .plan }
      return some checkoutUrl

structure PermissionsConfig where
  defaultPageVisibility : PageVisibility
  allowedPublishers : List UserRole
  requireApprovalToPublish : Bool

def permissionsSettings (organizationId : RowId) (config : PermissionsConfig) : SetupSettings where
  organizationId
  defaultPageVisibility := config.defaultPageVisibility
  approvalPolicy := if config.requireApprovalToPublish then .allRequired else .allNoApproval
  allowedPublishers := config.allowedPublishers
  requireApprovalToPublish := config.requireApprovalToPublish

def permissionsConfigured (now : Date) (wizard : SetupWizard) : SetupWizard :=
  { wizard with
    permissionsConfiguredAt := some now
    currentStep := .completed
    completedAt := some now }

def completePermissionsSetup (now : Date) (organizationId : RowId) (config : PermissionsConfig) :
    SetupWork PUnit := do
  upsertSettings (permissionsSettings organizationId config)
  updateWizard organizationId (permissionsConfigured now)

def nextStep (step : SetupWizardStep) : Option SetupWizardStep :=
  stepOrder[step.index + 1]?

def skipStep (now : Date) (organizationId : RowId) (step : SetupWizardStep) : SetupWork PUnit :=
  match nextStep step with
  | none => throw .cannotSkip
  | some next =>
    updateWizard organizationId fun wizard =>
      { wizard with
        currentStep := next
        completedAt := if next = .completed then some now else wizard.completedAt }

inductive WizardRequest where
  | status
  | recordingProvider (provider : CallProvider) (mergeLinkedAccountId : Text)
  | crm (provider : CrmProvider) (mergeLinkedAccountId : Text)
  | accountSync
  | plan (plan : Plan)
  | permissions (config : PermissionsConfig)
  | skip (step : SetupWizardStep)

structure SetupContext where
  billingEnabled : Bool
  stripe : CheckoutStripe

def selectPlan (context : SetupContext) (now : Date) (organizationId : RowId) (plan : Plan) :
    SetupWork PUnit :=
  if context.billingEnabled then do
    let _ ← completePlanSelection now organizationId plan (createCheckoutSession context.stripe now)
  else do
    let _ ← completePlanSelection now organizationId .freeTrial fun _ _ => pure none
    onBilling (updateOrganization organizationId fun row => { row with trialEndsAt := none })

def wizardOperation (context : SetupContext) (now : Date) (organizationId : RowId) :
    WizardRequest → SetupWork PUnit
  | .status => pure ⟨⟩
  | .recordingProvider provider mergeLinkedAccountId =>
    completeRecordingProvider organizationId provider mergeLinkedAccountId
  | .crm provider mergeLinkedAccountId =>
    completeCrmConnection organizationId provider mergeLinkedAccountId
  | .accountSync => completeAccountSyncReview now organizationId
  | .plan plan => selectPlan context now organizationId plan
  | .permissions config => completePermissionsSetup now organizationId config
  | .skip step => skipStep now organizationId step

def wizardRoute (context : SetupContext) (now : Date) (organizationId : RowId)
    (request : WizardRequest) : SetupWork PUnit := do
  wizardOperation context now organizationId request
  getOrCreateWizard organizationId

end StoryEngine.Setup
