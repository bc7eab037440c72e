import StoryEngine.Billing.StripeEvents

namespace StoryEngine.Billing

open Data Schema Statements

/-! # The trial gate

Requests pass during the trial, and on a paid plan while the latest subscription
is healthy.
-/

inductive GateAnswer where
  | next
  | authenticationRequired
  | organizationNotFound
  | subscriptionRequired
  | paymentPastDue
  | subscriptionInactive
  | trialExpired
deriving DecidableEq

def subscriptionAnswer : Option Subscription → GateAnswer
  | none => .subscriptionRequired
  | some latest =>
    match latest.status with
    | .active | .trialing => .next
    | .pastDue => .paymentPastDue
    | .canceled => .subscriptionInactive

def planAnswer (tables : BillingTables) (org : Organization) (now : Date) : GateAnswer :=
  if org.plan ≠ .freeTrial then
    match org.billingChannel with
    | .salesLed => .next
    | .selfServe => subscriptionAnswer (latestSubscription tables org.id)
  else match org.trialEndsAt with
    | none => .trialExpired
    | some trialEndsAt => if trialEndsAt < now then .trialExpired else .next

def trialGate (billingEnabled : Bool) (tables : BillingTables) (organizationId : Option RowId)
    (now : Date) : GateAnswer :=
  if !billingEnabled then .next
  else match organizationId with
    | none => .authenticationRequired
    | some orgId =>
      match findOrganization tables orgId with
      | none => .organizationNotFound
      | some org => planAnswer tables org now

/-- The organization needs no subscription, or its latest one is usable and not the
subscription with this id. -/
def KeptByLatest (tables : BillingTables) (org : Organization) (gone : Option Text) : Prop :=
  org.billingChannel = .salesLed ∨
    ∃ latest, latestSubscription tables org.id = some latest ∧ usable latest.status = true ∧
      (latest.stripeSubscriptionId ≠ gone ∨ gone = none)

/-- What has to hold for a request at a later time to pass after a deletion: a stale
deletion leaves everything, and otherwise another subscription has to be active and
the latest one usable, except within the instant of the deletion. -/
def AccessKept (tables : BillingTables) (org : Organization) (subscription : StripeSubscription)
    (created : Nat) (now later : Date) : Prop :=
  if staleFor (findSubscription tables subscription.id) created then KeptByLatest tables org none
  else if otherActive tables org.id subscription.id then
    KeptByLatest tables org (some subscription.id)
  else later ≤ now

section

variable {tables after : BillingTables} {org : Organization} {organizationId : RowId}
  {subscription : StripeSubscription} {event : StripeEvent} {now later : Date}
  {runtime : StripeRuntime}

theorem argmax_map {α κ : Type} [LinearOrder κ] {rows : List α} {key : α → κ} {change : α → α}
    (kept : ∀ row, key (change row) = key row) :
    (rows.map change).argmax key = (rows.argmax key).map change := by
  induction rows with
  | nil => rfl
  | cons row rest ih =>
    rw [List.map_cons, List.argmax_cons, List.argmax_cons, ih]
    cases rest.argmax key with
    | none => rfl
    | some best =>
      simp only [Option.map_some, kept]
      split <;> rfl

theorem latestSubscription_set {stripeSubscriptionId : Text} :
    latestSubscription (setSubscription tables stripeSubscriptionId now (canceled now))
        organizationId =
      (latestSubscription tables organizationId).map fun row =>
        if row.stripeSubscriptionId == some stripeSubscriptionId then
          { canceled now row with updatedAt := now }
        else row := by
  have own : (updateWhere tables.subscriptions
      (·.stripeSubscriptionId == some stripeSubscriptionId)
      fun row => { canceled now row with updatedAt := now }).filter
        (·.organizationId == organizationId) =
      updateWhere (tables.subscriptions.filter (·.organizationId == organizationId))
        (·.stripeSubscriptionId == some stripeSubscriptionId)
        fun row => { canceled now row with updatedAt := now } :=
    filter_updateWhere_kept fun _ => rfl
  simp only [latestSubscription, setSubscription, own]
  refine argmax_map fun row => ?_
  split <;> rfl

theorem subscriptionAnswer_next {latest : Option Subscription} :
    subscriptionAnswer latest = .next ↔ ∃ row, latest = some row ∧ usable row.status = true := by
  cases latest with
  | none => simp [subscriptionAnswer]
  | some row =>
    simp only [subscriptionAnswer, Option.some.injEq, exists_eq_left']
    cases row.status <;> decide

theorem planAnswer_paid (paid : org.plan ≠ .freeTrial) :
    planAnswer tables org later = .next ↔ KeptByLatest tables org none := by
  unfold planAnswer KeptByLatest
  rw [if_pos paid]
  cases org.billingChannel with
  | salesLed => simp
  | selfServe => simp [subscriptionAnswer_next]

theorem planAnswer_reverted :
    planAnswer tables (reverted now org) later = .next ↔ later ≤ now := by
  unfold planAnswer reverted
  simp

theorem keptByLatest_canceled {stripeSubscriptionId : Text} :
    KeptByLatest (setSubscription tables stripeSubscriptionId now (canceled now)) org none ↔
      KeptByLatest tables org (some stripeSubscriptionId) := by
  unfold KeptByLatest
  rw [latestSubscription_set]
  refine or_congr_right ?_
  cases latestSubscription tables org.id with
  | none => simp
  | some row =>
    by_cases own : row.stripeSubscriptionId = some stripeSubscriptionId
    · simp [own, canceled, usable]
    · simp [own]

/-- After the deletion of a subscription of a paying organization, its requests pass
exactly when access is kept. -/
theorem access_after_deletion_iff (found : findOrganization tables organizationId = some org)
    (paid : org.plan ≠ .freeTrial) (deletion : event.data = .subscriptionDeleted subscription)
    (owner : organizationOf subscription tables = .ok (some organizationId) tables)
    (handled : handleStripeEvent runtime now event tables = .ok ⟨⟩ after) :
    trialGate true after (some organizationId) later = .next ↔
      AccessKept tables org subscription event.created now later := by
  have isOrg : org.id = organizationId := findOrganization_id found
  have ran : handleSubscriptionDeleted now event.created subscription tables = .ok ⟨⟩ after := by
    rw [handleStripeEvent, deletion] at handled
    exact handled
  have gate {current : Organization} (tables : BillingTables)
      (known : findOrganization tables organizationId = some current) :
      trialGate true tables (some organizationId) later = planAnswer tables current later := by
    simp [trialGate, known]
  obtain ⟨stale, rfl⟩ | ⟨fresh, _, rfl⟩ := handleSubscriptionDeleted_cases owner ran
  · rw [gate after found, AccessKept, if_pos stale]
    exact planAnswer_paid paid
  · have left : findOrganization (setSubscription tables subscription.id now (canceled now))
        organizationId = some org := found
    rw [AccessKept, fresh, if_neg Bool.false_ne_true, isOrg]
    cases others : otherActive tables organizationId subscription.id with
    | true =>
      rw [if_pos rfl, if_pos rfl, gate _ left, planAnswer_paid paid]
      exact keptByLatest_canceled
    | false =>
      have known : findOrganization (setOrganization (setSubscription tables subscription.id now
          (canceled now)) organizationId (reverted now)) organizationId =
            some (reverted now org) := by
        rw [findOrganization_set (reverted now) fun _ => rfl, left, Option.map_some,
          if_pos (by simp [isOrg])]
      rw [if_neg Bool.false_ne_true, if_neg Bool.false_ne_true, gate _ known]
      exact planAnswer_reverted

end

def payingOrganization : Organization :=
  { id := 1, stripeCustomerId := some "cus_1", plan := .starter }

def firstSubscription : Subscription where
  organizationId := 1
  stripeSubscriptionId := some "sub_1"
  currentPeriodEnd := some 4000000
  createdAt := 0
  updatedAt := 0

def otherSubscription (status : SubscriptionStatus) (periodEnd : Date) : Subscription :=
  { firstSubscription with
    stripeSubscriptionId := some "sub_2"
    status
    currentPeriodEnd := some periodEnd }

def besideOther (status : SubscriptionStatus) (periodEnd : Date) : BillingTables where
  organizations := [payingOrganization]
  subscriptions := [firstSubscription, otherSubscription status periodEnd]

def firstDeleted : StripeSubscription where
  id := "sub_1"
  customer := "cus_1"
  status := .canceled
  currentPeriodStart := 1000
  currentPeriodEnd := 4000

def firstDeletion : StripeEvent :=
  { id := "evt_1", created := 3000, data := .subscriptionDeleted firstDeleted }

def noStripe : StripeRuntime where
  retrieve := fun _ _ => none

def afterFirstDeletion (tables : BillingTables) : BillingTables :=
  Statements.after (handleStripeEvent noStripe 3000000 firstDeletion tables)

/-- Another active subscription with a later period keeps the access. -/
theorem later_active_keeps_access :
    trialGate true (afterFirstDeletion (besideOther .active 5000000)) (some 1) 3500000 = .next := by
  have found : findOrganization (besideOther .active 5000000) 1 = some payingOrganization := rfl
  have handled : handleStripeEvent noStripe 3000000 firstDeletion (besideOther .active 5000000) =
      .ok ⟨⟩ (afterFirstDeletion (besideOther .active 5000000)) := rfl
  have latest : latestSubscription (besideOther .active 5000000) 1 =
      some (otherSubscription .active 5000000) := by decide
  have kept : KeptByLatest (besideOther .active 5000000) payingOrganization
      (some firstDeleted.id) :=
    .inr ⟨_, latest, rfl, .inl (by decide)⟩
  have deletion : firstDeletion.data = .subscriptionDeleted firstDeleted := rfl
  exact (access_after_deletion_iff found (by decide) deletion rfl handled).mpr kept

/-- The first subscription is deleted while another one is healthy, and the next
requests are answered so. -/
def RefusedBeside (status : SubscriptionStatus) (periodEnd : Date) (answer : GateAnswer) : Prop :=
  ∃ after, handleStripeEvent noStripe 3000000 firstDeletion (besideOther status periodEnd) =
      .ok ⟨⟩ after ∧
    otherSubscription status periodEnd ∈ after.subscriptions ∧ usable status = true ∧
      trialGate true after (some 1) 3500000 = answer

/-- Another subscription on trial does not, nor an active one that ends earlier. -/
theorem healthy_other_loses_access :
    RefusedBeside .trialing 5000000 .trialExpired ∧
      RefusedBeside .active 3500000 .subscriptionInactive :=
  ⟨⟨_, rfl, by decide⟩, ⟨_, rfl, by decide⟩⟩

end StoryEngine.Billing
