import StoryEngine.Billing.Tables

namespace StoryEngine.Billing

open Data Schema Statements

/-! # Events of Stripe

The five lifecycle events and what each writes.  A handler runs at one instant;
`retrieve` answers with what Stripe has then.
-/

inductive StripeStatus where
  | active
  | pastDue
  | canceled
  | unpaid
  | incomplete
  | incompleteExpired
  | trialing
  | paused
  /-- A status that the map does not have. -/
  | unknown
deriving DecidableEq

def mapStripeStatus : StripeStatus → SubscriptionStatus
  | .active => .active
  | .pastDue => .pastDue
  | .canceled => .canceled
  | .unpaid => .pastDue
  | .incomplete => .pastDue
  | .incompleteExpired => .canceled
  | .trialing => .trialing
  | .paused => .canceled
  | .unknown => .active

structure StripeSubscription where
  id : Text
  /-- `metadata.organizationId`. -/
  organizationId : Option RowId := none
  customer : Text
  status : StripeStatus
  /-- The price of the first item. -/
  priceId : Option Text := none
  currentPeriodStart : Nat
  currentPeriodEnd : Nat
  canceledAt : Option Nat := none
deriving DecidableEq

structure CheckoutSession where
  subscription : Option Text := none
  /-- `metadata.organizationId`. -/
  organizationId : Option RowId := none
deriving DecidableEq

inductive StripeEventData where
  | checkoutSessionCompleted (session : CheckoutSession)
  | invoicePaid (subscription : Option Text)
  | invoicePaymentFailed (subscription : Option Text)
  | subscriptionUpdated (subscription : StripeSubscription)
  | subscriptionDeleted (subscription : StripeSubscription)
  | other
deriving DecidableEq

structure StripeEvent where
  id : Text
  /-- Epoch seconds. -/
  created : Nat
  data : StripeEventData
deriving DecidableEq

structure StripePrices where
  starter : Option Text := none
  professional : Option Text := none
  enterprise : Option Text := none

def StripePrices.configured (prices : StripePrices) : List (Plan × Option Text) :=
  [(.starter, prices.starter), (.professional, prices.professional),
    (.enterprise, prices.enterprise)]

def getPlanByPriceId (prices : StripePrices) (priceId : Text) : Option Plan :=
  (prices.configured.find? fun (_, envPriceId) =>
    (envPriceId.filter fun price => !price.isEmpty) == some priceId).map (·.1)

def planOf (prices : StripePrices) (subscription : StripeSubscription) : Plan :=
  (((subscription.priceId.filter fun price => !price.isEmpty).bind
    (getPlanByPriceId prices))).getD .starter

/-- Stripe and the environment.  `retrieve` throws when it answers with nothing. -/
structure StripeRuntime where
  retrieve : Text → Date → Option StripeSubscription
  prices : StripePrices := {}

def staleSkewMs : Nat := 5000

def isStaleStripeLifecycleEvent (lastLocalUpdate : Date) (eventCreatedEpochSeconds : Nat) : Bool :=
  eventCreatedEpochSeconds * 1000 + staleSkewMs < lastLocalUpdate

section

variable (runtime : StripeRuntime) (now : Date)

def retrieve (subscriptionId : Text) : BillingWork StripeSubscription := fun tables =>
  match runtime.retrieve subscriptionId now with
  | none => .error .stripe tables
  | some subscription => .ok subscription tables

def resolveOrgFromCustomer (stripeCustomerId : Text) : BillingWork (Option RowId) := fun tables =>
  .ok ((tables.organizations.find? (·.stripeCustomerId == some stripeCustomerId)).map (·.id)) tables

def resolveOrgFromSubscription (subscriptionId : Text) : BillingWork (Option RowId) := do
  let subscription ← retrieve runtime now subscriptionId
  match subscription.organizationId with
  | some organizationId => return some organizationId
  | none => resolveOrgFromCustomer subscription.customer

def organizationOf (subscription : StripeSubscription) : BillingWork (Option RowId) :=
  match subscription.organizationId with
  | some organizationId => return some organizationId
  | none => resolveOrgFromCustomer subscription.customer

def stored (subscriptionId : Text) : BillingWork (Option Subscription) := fun tables =>
  .ok (findSubscription tables subscriptionId) tables

def synced (status : SubscriptionStatus) (subscription : StripeSubscription) (row : Subscription) :
    Subscription :=
  { row with
    status
    currentPeriodStart := some (subscription.currentPeriodStart * 1000)
    currentPeriodEnd := some (subscription.currentPeriodEnd * 1000) }

def checkoutOrganization (session : CheckoutSession) : BillingWork (Option RowId) :=
  match session.subscription, session.organizationId with
  | some subscriptionId, none => resolveOrgFromSubscription runtime now subscriptionId
  | _, organizationId => pure organizationId

def handleCheckoutCompleted (session : CheckoutSession) : BillingWork PUnit := do
  let orgId ← checkoutOrganization runtime now session
  match orgId, session.subscription with
  | some organizationId, some subscriptionId => do
      let subscription ← retrieve runtime now subscriptionId
      upsertSubscription subscription.id now organizationId
        (synced (mapStripeStatus subscription.status) subscription)
      updateOrganization organizationId fun row =>
        { row with plan := planOf runtime.prices subscription, trialEndsAt := none }
  | _, _ => pure ⟨⟩

def handleInvoicePaid (subscriptionId : Text) : BillingWork PUnit := do
  match ← stored subscriptionId with
  | none => pure ⟨⟩
  | some localSub =>
    let subscription ← retrieve runtime now subscriptionId
    updateSubscription subscriptionId now (synced .active subscription)
    updateOrganization localSub.organizationId fun row =>
      { row with plan := planOf runtime.prices subscription }

def handleInvoicePaymentFailed (created : Nat) (subscriptionId : Text) : BillingWork PUnit := do
  match ← stored subscriptionId with
  | none => pure ⟨⟩
  | some localSub =>
    if isStaleStripeLifecycleEvent localSub.updatedAt created then pure ⟨⟩
    else
      let subscription ← retrieve runtime now subscriptionId
      updateSubscription subscriptionId now
        (synced (mapStripeStatus subscription.status) subscription)

def staleFor (existing : Option Subscription) (created : Nat) : Bool :=
  existing.any fun row => isStaleStripeLifecycleEvent row.updatedAt created

def usable (status : SubscriptionStatus) : Bool := status == .active || status == .trialing

def handleSubscriptionUpdated (created : Nat) (incoming : StripeSubscription) :
    BillingWork PUnit := do
  if staleFor (← stored incoming.id) created then pure ⟨⟩
  else
    let subscription ← retrieve runtime now incoming.id
    match ← organizationOf subscription with
    | none => pure ⟨⟩
    | some organizationId =>
      let status := mapStripeStatus subscription.status
      upsertSubscription subscription.id now organizationId fun row =>
        { synced status subscription row with
          canceledAt := (subscription.canceledAt.filter (0 < ·)).map (· * 1000) }
      if usable status then
        updateOrganization organizationId fun row =>
          { row with plan := planOf runtime.prices subscription, trialEndsAt := none }

def otherActive (tables : BillingTables) (organizationId : RowId) (stripeSubscriptionId : Text) :
    Bool :=
  tables.subscriptions.any fun row =>
    row.organizationId == organizationId && row.status == .active &&
      row.stripeSubscriptionId.any (· != stripeSubscriptionId)

def canceled (row : Subscription) : Subscription :=
  { row with status := .canceled, canceledAt := some now }

def reverted (row : Organization) : Organization :=
  { row with plan := .freeTrial, trialEndsAt := some now }

def handleSubscriptionDeleted (created : Nat) (subscription : StripeSubscription) :
    BillingWork PUnit := do
  if staleFor (← stored subscription.id) created then pure ⟨⟩
  else
    match ← organizationOf subscription with
    | none => pure ⟨⟩
    | some organizationId =>
      updateSubscription subscription.id now (canceled now)
      if !otherActive (← get) organizationId subscription.id then
        updateOrganization organizationId (reverted now)

def handleStripeEvent (event : StripeEvent) : BillingWork PUnit :=
  match event.data with
  | .checkoutSessionCompleted session => handleCheckoutCompleted runtime now session
  | .invoicePaid subscription =>
    match subscription with
    | none => pure ⟨⟩
    | some subscriptionId => handleInvoicePaid runtime now subscriptionId
  | .invoicePaymentFailed subscription =>
    match subscription with
    | none => pure ⟨⟩
    | some subscriptionId => handleInvoicePaymentFailed runtime now event.created subscriptionId
  | .subscriptionUpdated subscription =>
    handleSubscriptionUpdated runtime now event.created subscription
  | .subscriptionDeleted subscription => handleSubscriptionDeleted now event.created subscription
  | .other => pure ⟨⟩

end

section

variable {tables after : BillingTables} {organizationId : RowId} {stripeSubscriptionId : Text}
  {subscription : StripeSubscription} {now : Date} {created : Nat}

theorem otherActive_set (change : Subscription → Subscription)
    (kept : ∀ row, (change row).stripeSubscriptionId = row.stripeSubscriptionId) :
    otherActive (setSubscription tables stripeSubscriptionId now change) organizationId
      stripeSubscriptionId = otherActive tables organizationId stripeSubscriptionId := by
  have same (row : Subscription) (own : row.stripeSubscriptionId = some stripeSubscriptionId) :
      row.stripeSubscriptionId.any (· != stripeSubscriptionId) = false := by
    simp [own]
  unfold otherActive setSubscription updateWhere
  rw [List.any_map]
  refine congrArg (tables.subscriptions.any ·) (funext fun row => ?_)
  rw [Function.comp_apply]
  split
  · next own =>
      have isOwn : row.stripeSubscriptionId = some stripeSubscriptionId := by simpa using own
      have changed := same (change row) ((kept row).trans isOwn)
      dsimp only
      rw [changed, same row isOwn, Bool.and_false, Bool.and_false]
  · rfl

theorem handleSubscriptionDeleted_cases
    (owner : organizationOf subscription tables = .ok (some organizationId) tables)
    (ran : handleSubscriptionDeleted now created subscription tables = .ok ⟨⟩ after) :
    staleFor (findSubscription tables subscription.id) created = true ∧ after = tables ∨
      staleFor (findSubscription tables subscription.id) created = false ∧
        (findSubscription tables subscription.id).isSome ∧
        after =
          if otherActive tables organizationId subscription.id then
            setSubscription tables subscription.id now (canceled now)
          else setOrganization (setSubscription tables subscription.id now (canceled now))
            organizationId (reverted now) := by
  unfold handleSubscriptionDeleted at ran
  obtain ⟨existing, between, read, ranRest⟩ := bind_eq_ok.mp ran
  obtain ⟨rfl, rfl⟩ := EStateM.Result.ok.inj read
  cases stale : staleFor (findSubscription tables subscription.id) created with
  | true =>
    rw [if_pos stale] at ranRest
    exact .inl ⟨rfl, (EStateM.Result.ok.inj ranRest).2.symm⟩
  | false =>
    rw [if_neg (by simp [stale])] at ranRest
    obtain ⟨found, same, resolved, ranWrites⟩ := bind_eq_ok.mp ranRest
    rw [owner] at resolved
    obtain ⟨rfl, rfl⟩ := EStateM.Result.ok.inj resolved
    obtain ⟨⟨⟩, updated, wrote, ranCheck⟩ := bind_eq_ok.mp ranWrites
    obtain ⟨known, rfl⟩ := updateSubscription_eq_ok.mp wrote
    refine .inr ⟨rfl, known, ?_⟩
    obtain ⟨current, _, readCurrent, ranLast⟩ := bind_eq_ok.mp ranCheck
    obtain ⟨rfl, rfl⟩ := EStateM.Result.ok.inj readCurrent
    have same : otherActive (setSubscription tables subscription.id now (canceled now))
        organizationId subscription.id = otherActive tables organizationId subscription.id :=
      otherActive_set (canceled now) fun _ => rfl
    cases others : otherActive tables organizationId subscription.id with
    | true =>
      rw [if_neg (by simp [same, others])] at ranLast
      rw [if_pos rfl]
      exact (EStateM.Result.ok.inj ranLast).2.symm
    | false =>
      rw [if_pos (by simp [same, others])] at ranLast
      rw [if_neg (by simp)]
      exact (updateOrganization_eq_ok.mp ranLast).2.symm

end

end StoryEngine.Billing
