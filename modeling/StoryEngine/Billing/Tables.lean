import Mathlib.Data.List.MinMax
import Mathlib.Data.Prod.Lex
import Mathlib.Order.WithBot
import StoryEngine.Data.Rows
import StoryEngine.Data.Statements
import StoryEngine.Schema.Rows

namespace StoryEngine.Billing

open Data Schema Statements

/-! # Organizations and subscriptions

The columns that billing reads or writes, and the statements on them.
-/

inductive Plan where
  | freeTrial
  | starter
  | professional
  | enterprise
deriving DecidableEq

inductive BillingChannel where
  | selfServe
  | salesLed

inductive SubscriptionStatus where
  | active
  | pastDue
  | canceled
  | trialing
deriving DecidableEq

structure Organization where
  id : RowId
  stripeCustomerId : Option Text := none
  plan : Plan := .freeTrial
  billingChannel : BillingChannel := .selfServe
  trialEndsAt : Option Date := none

structure Subscription where
  organizationId : RowId
  stripeSubscriptionId : Option Text
  status : SubscriptionStatus := .active
  currentPeriodStart : Option Date := none
  currentPeriodEnd : Option Date := none
  canceledAt : Option Date := none
  createdAt : Date
  updatedAt : Date
deriving DecidableEq

structure BillingTables where
  organizations : List Organization := []
  subscriptions : List Subscription := []

inductive BillingError where
  /-- The row of an update is missing. -/
  | recordNotFound
  | stripe

abbrev BillingWork (α : Type) := Work BillingError BillingTables α

def findOrganization (tables : BillingTables) (organizationId : RowId) : Option Organization :=
  tables.organizations.find? (·.id == organizationId)

def findSubscription (tables : BillingTables) (stripeSubscriptionId : Text) : Option Subscription :=
  tables.subscriptions.find? (·.stripeSubscriptionId == some stripeSubscriptionId)

def setOrganization (tables : BillingTables) (organizationId : RowId)
    (change : Organization → Organization) : BillingTables :=
  { tables with organizations := updateWhere tables.organizations (·.id == organizationId) change }

def setSubscription (tables : BillingTables) (stripeSubscriptionId : Text) (now : Date)
    (change : Subscription → Subscription) : BillingTables :=
  { tables with
    subscriptions := updateWhere tables.subscriptions
      (·.stripeSubscriptionId == some stripeSubscriptionId)
      fun row => { change row with updatedAt := now } }

def updateOrganization (organizationId : RowId) (change : Organization → Organization) :
    BillingWork PUnit := fun tables =>
  if tables.organizations.any (·.id == organizationId) then
    .ok ⟨⟩ (setOrganization tables organizationId change)
  else .error .recordNotFound tables

def updateSubscription (stripeSubscriptionId : Text) (now : Date)
    (change : Subscription → Subscription) : BillingWork PUnit := fun tables =>
  if tables.subscriptions.any (·.stripeSubscriptionId == some stripeSubscriptionId) then
    .ok ⟨⟩ (setSubscription tables stripeSubscriptionId now change)
  else .error .recordNotFound tables

def upsertSubscription (stripeSubscriptionId : Text) (now : Date) (organizationId : RowId)
    (change : Subscription → Subscription) : BillingWork PUnit := fun tables =>
  if tables.subscriptions.any (·.stripeSubscriptionId == some stripeSubscriptionId) then
    .ok ⟨⟩ (setSubscription tables stripeSubscriptionId now change)
  else .ok ⟨⟩ { tables with
    subscriptions := tables.subscriptions ++ [change {
      organizationId
      stripeSubscriptionId := some stripeSubscriptionId
      createdAt := now
      updatedAt := now }] }

/-- `orderBy: [{ currentPeriodEnd: "desc" }, { createdAt: "desc" }]`; a null period
end comes first. -/
def Subscription.recency (row : Subscription) : WithTop Date ×ₗ Date :=
  toLex (row.currentPeriodEnd, row.createdAt)

def latestSubscription (tables : BillingTables) (organizationId : RowId) : Option Subscription :=
  (tables.subscriptions.filter (·.organizationId == organizationId)).argmax Subscription.recency

section

variable {tables after : BillingTables} {organizationId : RowId} {stripeSubscriptionId : Text}
  {now : Date} {changeOrganization : Organization → Organization}
  {change : Subscription → Subscription}

theorem findOrganization_id {org : Organization}
    (found : findOrganization tables organizationId = some org) : org.id = organizationId := by
  have first : tables.organizations.find? (·.id == organizationId) = some org := found
  simpa using List.find?_some first

theorem findSubscription_id {row : Subscription}
    (found : findSubscription tables stripeSubscriptionId = some row) :
    row.stripeSubscriptionId = some stripeSubscriptionId := by
  have first : tables.subscriptions.find?
    (·.stripeSubscriptionId == some stripeSubscriptionId) = some row := found
  simpa using List.find?_some first

theorem findOrganization_set (changeOrganization : Organization → Organization) {wanted : RowId}
    (kept : ∀ row, (changeOrganization row).id = row.id) :
    findOrganization (setOrganization tables organizationId changeOrganization) wanted =
      (findOrganization tables wanted).map fun row =>
        if row.id == organizationId then changeOrganization row else row :=
  find?_updateWhere fun row => by rw [kept]

theorem findSubscription_set (change : Subscription → Subscription) {wanted : Text}
    (kept : ∀ row, (change row).stripeSubscriptionId = row.stripeSubscriptionId) :
    findSubscription (setSubscription tables stripeSubscriptionId now change) wanted =
      (findSubscription tables wanted).map fun row =>
        if row.stripeSubscriptionId == some stripeSubscriptionId then
          { change row with updatedAt := now }
        else row :=
  find?_updateWhere fun row => by rw [kept]

theorem updateOrganization_eq_ok :
    updateOrganization organizationId changeOrganization tables = .ok ⟨⟩ after ↔
      (findOrganization tables organizationId).isSome ∧
        setOrganization tables organizationId changeOrganization = after := by
  unfold updateOrganization findOrganization
  rw [List.find?_isSome, ← List.any_eq_true]
  split
  · next known => simp [known]
  · next unknown => simp [unknown]

theorem updateSubscription_eq_ok :
    updateSubscription stripeSubscriptionId now change tables = .ok ⟨⟩ after ↔
      (findSubscription tables stripeSubscriptionId).isSome ∧
        setSubscription tables stripeSubscriptionId now change = after := by
  unfold updateSubscription findSubscription
  rw [List.find?_isSome, ← List.any_eq_true]
  split
  · next known => simp [known]
  · next unknown => simp [unknown]

end

end StoryEngine.Billing
