import StoryEngine.Setup.Progress

namespace StoryEngine.Setup

open Data Schema Statements Billing

/-! # Plans and trials in the wizard

Requests of the wizard and events of Stripe in any order.
-/

inductive PlanAction where
  | wizard (elapsed : Nat) (organizationId : RowId) (request : WizardRequest)
  | stripe (elapsed : Nat) (event : StripeEvent)

structure PlanSystem where
  now : Date
  tables : SetupTables
  /-- The request of the wizard that was just handled. -/
  last : Option (RowId × WizardRequest) := none

def advancePlan (context : SetupContext) (runtime : StripeRuntime) (system : PlanSystem) :
    PlanAction → PlanSystem
  | .wizard elapsed organizationId request => {
      now := system.now + elapsed
      tables := answerWizard context system.tables
        { now := system.now + elapsed, organizationId, request }
      last := some (organizationId, request) }
  | .stripe elapsed event => {
      now := system.now + elapsed
      tables := { system.tables with
        billing := Statements.after
          (handleStripeEvent runtime (system.now + elapsed) event system.tables.billing) } }

/-- What the wizard leaves of an organization: no later end of the trial, no trial for
a paid plan, and all as it was when the request is the one before. -/
structure TermsKept (row next : Organization) (repeated : Prop) : Prop where
  trial : ∀ endsAt later, row.trialEndsAt = some endsAt → next.trialEndsAt = some later →
    later ≤ endsAt
  plan : row.plan ≠ .freeTrial → next.plan ≠ .freeTrial
  unchanged : repeated → next.plan = row.plan ∧ next.trialEndsAt = row.trialEndsAt

def Protects (context : SetupContext) (runtime : StripeRuntime) (system : PlanSystem)
    (action : PlanAction) : Prop :=
  match action with
  | .wizard _ organizationId request => ∀ other row,
      findOrganization system.tables.billing other = some row →
        ∃ next, findOrganization (advancePlan context runtime system action).tables.billing other =
            some next ∧
          TermsKept row next (system.last = some (organizationId, request))
  | .stripe _ _ => True

/-- A plan is selected on the free plan, when the trial has no end or one that is two
weeks away. -/
def StartsTrial (system : PlanSystem) (action : PlanAction) : Prop :=
  match action with
  | .wizard elapsed organizationId (.plan _) => ∀ row,
      findOrganization system.tables.billing organizationId = some row →
        row.plan = .freeTrial ∧
          ∀ endsAt, row.trialEndsAt = some endsAt → system.now + elapsed + trialMs ≤ endsAt
  | _ => True

def termsOf (row : Organization) : RowId × Plan × Option Date :=
  (row.id, row.plan, row.trialEndsAt)

def SameTerms (before later : SetupTables) : Prop :=
  later.billing.organizations.map termsOf = before.billing.organizations.map termsOf

section

variable {tables : SetupTables} {organizationId other : RowId} {now : Date}
  {context : SetupContext} {row : Organization}

theorem sameTerms_refl (tables : SetupTables) : SameTerms tables tables := rfl

theorem SameTerms.trans {first second third : SetupTables} (left : SameTerms first second)
    (right : SameTerms second third) : SameTerms first third :=
  Eq.trans right left

theorem SameTerms.find {before later : SetupTables} (same : SameTerms before later)
    (found : findOrganization before.billing organizationId = some row) :
    ∃ next, findOrganization later.billing organizationId = some next ∧ next.plan = row.plan ∧
      next.trialEndsAt = row.trialEndsAt := by
  have lookup (tables : SetupTables) : (findOrganization tables.billing organizationId).map termsOf =
      (tables.billing.organizations.map termsOf).find? (·.1 == organizationId) := by
    rw [List.find?_map]
    rfl
  have terms : (findOrganization later.billing organizationId).map termsOf = some (termsOf row) := by
    rw [lookup, same, ← lookup, found, Option.map_some]
  obtain ⟨next, foundNext, equal⟩ := Option.map_eq_some_iff.mp terms
  have parts := (Prod.mk.inj equal).2
  exact ⟨next, foundNext, (Prod.mk.inj parts).1, (Prod.mk.inj parts).2⟩

theorem sameTerms_updateWizard {change : SetupWizard → SetupWizard} :
    Keeps SameTerms (updateWizard organizationId change) := by
  intro tables
  unfold updateWizard
  split <;> rfl

theorem sameTerms_getOrCreate : Keeps SameTerms (getOrCreateWizard organizationId) := by
  intro tables
  unfold getOrCreateWizard
  split <;> rfl

theorem sameTerms_upsertSettings {settings : SetupSettings} :
    Keeps SameTerms (upsertSettings settings) := by
  intro tables
  unfold upsertSettings
  split <;> rfl

theorem sameTerms_onBilling {change : Organization → Organization}
    (kept : ∀ row, termsOf (change row) = termsOf row) :
    Keeps SameTerms (onBilling (updateOrganization organizationId change)) := by
  intro tables
  unfold onBilling updateOrganization
  split
  · next billing ran =>
      split at ran
      · obtain ⟨_, rfl⟩ := EStateM.Result.ok.inj ran
        exact map_updateWhere kept
      · cases ran
  · next failure billing ran =>
      split at ran
      · cases ran
      · obtain ⟨_, rfl⟩ := EStateM.Result.error.inj ran
        rfl

theorem sameTerms_createCustomer {stripe : CheckoutStripe} :
    Keeps SameTerms (createCustomer stripe now organizationId) := by
  intro tables
  unfold createCustomer
  cases stripe.createCustomer organizationId now <;> rfl

theorem sameTerms_createSession {stripe : CheckoutStripe} {customerId priceId : Text} :
    Keeps SameTerms (createSession stripe now customerId priceId) := by
  intro tables
  unfold createSession
  cases stripe.createSession customerId priceId now <;> rfl

theorem sameTerms_createCheckoutSession {stripe : CheckoutStripe} {plan : Plan} :
    Keeps SameTerms (createCheckoutSession stripe now organizationId plan) := by
  refine Keeps.bind SameTerms.trans (Keeps.get sameTerms_refl) fun current => ?_
  cases findOrganization current.billing organizationId with
  | none => exact Keeps.pure sameTerms_refl _
  | some org =>
    refine Keeps.bind SameTerms.trans ?_ fun customerId => ?_
    · unfold customerOf
      split
      · exact Keeps.pure sameTerms_refl _
      · refine Keeps.bind SameTerms.trans sameTerms_createCustomer fun customerId => ?_
        refine Keeps.bind SameTerms.trans (sameTerms_onBilling fun _ => rfl) fun _ => ?_
        exact Keeps.pure sameTerms_refl _
    · split
      · exact Keeps.pure sameTerms_refl _
      · cases getStripePriceId stripe plan with
        | none => exact Keeps.pure sameTerms_refl _
        | some priceId => exact sameTerms_createSession

theorem sameTerms_selectPlan {stripe : CheckoutStripe} {plan : Plan} :
    SameTerms
      (Statements.after (onBilling (updateOrganization organizationId (startTrial now)) tables))
      (Statements.after
        (selectPlan { billingEnabled := true, stripe } now organizationId plan tables)) := by
  have selected : SameTerms
      (Statements.after (onBilling (updateOrganization organizationId (startTrial now)) tables))
      (Statements.after (completePlanSelection now organizationId plan
        (createCheckoutSession stripe now) tables)) := by
    refine Keeps.after_bind sameTerms_refl (fun _ => ?_) tables
    split
    · refine Keeps.bind SameTerms.trans sameTerms_updateWizard fun _ => ?_
      exact Keeps.pure sameTerms_refl _
    · refine Keeps.bind SameTerms.trans sameTerms_createCheckoutSession fun url => ?_
      cases url with
      | none => exact Keeps.throw sameTerms_refl _
      | some checkoutUrl =>
        refine Keeps.bind SameTerms.trans sameTerms_updateWizard fun _ => ?_
        exact Keeps.pure sameTerms_refl _
  exact selected.trans
    (Keeps.after_bind sameTerms_refl (fun _ => Keeps.pure sameTerms_refl _) tables)

theorem sameTerms_operation {request : WizardRequest} (noPlan : ∀ plan, request ≠ .plan plan) :
    Keeps SameTerms (wizardOperation context now organizationId request) := by
  cases request with
  | status => exact Keeps.pure sameTerms_refl _
  | recordingProvider provider mergeLinkedAccountId => exact sameTerms_updateWizard
  | crm provider mergeLinkedAccountId => exact sameTerms_updateWizard
  | accountSync =>
    refine Keeps.bind SameTerms.trans (Keeps.get sameTerms_refl) fun current => ?_
    exact sameTerms_updateWizard
  | plan plan => exact absurd rfl (noPlan plan)
  | permissions config =>
    exact Keeps.bind SameTerms.trans sameTerms_upsertSettings fun _ => sameTerms_updateWizard
  | skip step =>
    dsimp only [wizardOperation]
    unfold skipStep
    cases nextStep step with
    | none => exact Keeps.throw sameTerms_refl _
    | some next => exact sameTerms_updateWizard

theorem answer_terms (stripe : CheckoutStripe) (tables : SetupTables) (call : WizardCall) :
    ((∀ plan, call.request ≠ .plan plan) ∧
        SameTerms tables (answerWizard { billingEnabled := true, stripe } tables call)) ∨
      ((∃ plan, call.request = .plan plan) ∧
        SameTerms
          (Statements.after (onBilling
            (updateOrganization call.organizationId (startTrial call.now)) tables))
          (answerWizard { billingEnabled := true, stripe } tables call)) := by
  obtain ⟨now, organizationId, request⟩ := call
  have created : SameTerms
      (Statements.after (wizardOperation { billingEnabled := true, stripe } now organizationId
        request tables))
      (answerWizard { billingEnabled := true, stripe } tables { now, organizationId, request }) :=
    Keeps.after_bind sameTerms_refl (fun _ => sameTerms_getOrCreate) tables
  by_cases isPlan : ∃ plan, request = .plan plan
  · refine .inr ⟨isPlan, ?_⟩
    obtain ⟨plan, rfl⟩ := isPlan
    exact sameTerms_selectPlan.trans created
  · have noPlan : ∀ plan, request ≠ .plan plan := fun plan same => isPlan ⟨plan, same⟩
    exact .inl ⟨noPlan, (sameTerms_operation noPlan tables).trans created⟩

theorem findOrganization_selected
    (found : findOrganization tables.billing other = some row) {later : SetupTables}
    (same : SameTerms (Statements.after
      (onBilling (updateOrganization organizationId (startTrial now)) tables)) later) :
    ∃ next, findOrganization later.billing other = some next ∧
      if other = organizationId then
        next.plan = .freeTrial ∧ next.trialEndsAt = some (now + trialMs)
      else next.plan = row.plan ∧ next.trialEndsAt = row.trialEndsAt := by
  have started : ∃ middle, findOrganization (Statements.after (onBilling
      (updateOrganization organizationId (startTrial now)) tables)).billing other = some middle ∧
      middle = if other = organizationId then startTrial now row else row := by
    cases known : findOrganization tables.billing organizationId with
    | none =>
      have away : other ≠ organizationId := by
        intro own
        rw [own, known] at found
        cases found
      rw [startTrial_unknown known, if_neg away]
      exact ⟨row, found, rfl⟩
    | some org =>
      rw [startTrial_eq_ok known]
      refine ⟨_, (findOrganization_set (startTrial now) fun _ => rfl).trans
        (congrArg _ found), ?_⟩
      dsimp only
      rw [findOrganization_id found]
      by_cases own : other = organizationId
      · simp [own]
      · simp [own]
  obtain ⟨middle, foundMiddle, isMiddle⟩ := started
  obtain ⟨next, foundNext, plan, trial⟩ := same.find foundMiddle
  refine ⟨next, foundNext, ?_⟩
  split
  · next own =>
      rw [isMiddle, if_pos own] at plan trial
      exact ⟨plan, trial⟩
  · next away =>
      rw [isMiddle, if_neg away] at plan trial
      exact ⟨plan, trial⟩

theorem selected_terms {later : SetupTables} {next : Organization}
    (same : SameTerms (Statements.after
      (onBilling (updateOrganization organizationId (startTrial now)) tables)) later)
    (found : findOrganization later.billing organizationId = some next) :
    next.plan = .freeTrial ∧ next.trialEndsAt = some (now + trialMs) := by
  obtain ⟨middle, foundMiddle, plan, trial⟩ := SameTerms.find (Eq.symm same) found
  cases known : findOrganization tables.billing organizationId with
  | none =>
    rw [startTrial_unknown known] at foundMiddle
    rw [Statements.after, known] at foundMiddle
    cases foundMiddle
  | some org =>
    rw [startTrial_eq_ok known] at foundMiddle
    obtain rfl := Option.some.inj ((findOrganization_trialStarted now known).symm.trans foundMiddle)
    exact ⟨plan.symm, trial.symm⟩

end

section

variable {stripe : CheckoutStripe} {runtime : StripeRuntime} {system : PlanSystem}
  {action : PlanAction}

def FreshTrial (system : PlanSystem) : Prop :=
  ∀ organizationId plan, system.last = some (organizationId, .plan plan) → ∀ row,
    findOrganization system.tables.billing organizationId = some row →
      row.plan = .freeTrial ∧ row.trialEndsAt = some (system.now + trialMs)

theorem freshTrial_advance :
    FreshTrial (advancePlan { billingEnabled := true, stripe } runtime system action) := by
  intro organizationId plan last row found
  cases action with
  | stripe elapsed event => cases last
  | wizard elapsed caller request =>
    obtain ⟨rfl, rfl⟩ := Prod.mk.inj (Option.some.inj last)
    rcases answer_terms stripe system.tables
      { now := system.now + elapsed, organizationId := caller, request := .plan plan } with ⟨noPlan, _⟩ | ⟨_, same⟩
    · exact absurd rfl (noPlan plan)
    · exact selected_terms same found

theorem TermsKept.same {row next : Organization} {repeated : Prop} (plan : next.plan = row.plan)
    (trial : next.trialEndsAt = row.trialEndsAt) : TermsKept row next repeated := by
  constructor
  · intro endsAt later ends endsLater
    rw [trial, ends] at endsLater
    exact le_of_eq (Option.some.inj endsLater).symm
  · intro paid
    rwa [plan]
  · exact fun _ => ⟨plan, trial⟩

theorem protects_iff_startsTrial (fresh : FreshTrial system) :
    Protects { billingEnabled := true, stripe } runtime system action ↔
      StartsTrial system action := by
  cases action with
  | stripe elapsed event => exact Iff.rfl
  | wizard elapsed organizationId request =>
    rcases answer_terms stripe system.tables
      { now := system.now + elapsed, organizationId, request } with ⟨noPlan, same⟩ | ⟨⟨plan, isPlan⟩, same⟩
    · refine iff_of_true ?_ ?_
      · intro other row found
        obtain ⟨next, foundNext, plan, trial⟩ := same.find found
        exact ⟨next, foundNext, TermsKept.same plan trial⟩
      · cases request with
        | plan plan => exact absurd rfl (noPlan plan)
        | _ => trivial
    · obtain rfl : request = .plan plan := isPlan
      constructor
      · intro protects row found
        obtain ⟨next, foundNext, kept⟩ := protects organizationId row found
        obtain ⟨free, ends⟩ := selected_terms same foundNext
        refine ⟨by_contra fun paid => kept.plan paid free, fun endsAt before => ?_⟩
        exact kept.trial endsAt _ before ends
      · intro starts other row found
        obtain ⟨next, foundNext, terms⟩ := findOrganization_selected found same
        refine ⟨next, foundNext, ?_⟩
        by_cases own : other = organizationId
        · rw [if_pos own] at terms
          subst own
          obtain ⟨free, due⟩ := starts row found
          constructor
          · intro endsAt later before isLater
            rw [terms.2] at isLater
            exact Option.some.inj isLater ▸ due endsAt before
          · exact fun paid => absurd free paid
          · intro repeated
            obtain ⟨_, trial⟩ := fresh other plan repeated row found
            have notLater := due _ trial
            have same : system.now + elapsed + trialMs = system.now + trialMs :=
              Nat.le_antisymm notLater
                (Nat.add_le_add_right (Nat.le_add_right system.now elapsed) trialMs)
            exact ⟨terms.1.trans free.symm, by rw [terms.2, trial, ← same]⟩
        · rw [if_neg own] at terms
          exact TermsKept.same terms.1 terms.2

end

/-- In every run of requests and events the wizard protects all terms exactly when each
plan is selected for a trial that is due. -/
theorem plan_selection_iff (stripe : CheckoutStripe) (runtime : StripeRuntime) (now : Date)
    (tables : SetupTables) (actions : List PlanAction) :
    let context : SetupContext := { billingEnabled := true, stripe }
    let start : PlanSystem := { now, tables }
    (∀ taken ∈ trace (advancePlan context runtime) start actions,
        Protects context runtime taken.1 taken.2) ↔
      ∀ taken ∈ trace (advancePlan context runtime) start actions,
        StartsTrial taken.1 taken.2 := by
  intro context start
  have initial : FreshTrial start := fun _ _ last => by cases last
  have free : Guarded (advancePlan context runtime) (fun _ _ => True) start actions :=
    fun _ _ => trivial
  refine forall_congr' fun taken => forall_congr' fun member => ?_
  obtain ⟨fresh, _⟩ := trace_guarded_invariant FreshTrial (fun _ _ _ _ => freshTrial_advance)
    initial free taken member
  exact protects_iff_startsTrial fresh

def noCheckout : CheckoutStripe where
  createCustomer _ _ := none
  createSession _ _ _ := none
  prices := {}

def noEvents : StripeRuntime where
  retrieve _ _ := none

def onTerms (plan : Plan) (trialEndsAt : Option Date) : PlanSystem where
  now := 0
  tables := {
    billing := { organizations := [{ id := 1, plan, trialEndsAt }] }
    wizards := [{ organizationId := 1 }] }

def trialSelected (system : PlanSystem) : PlanSystem :=
  advancePlan { billingEnabled := true, stripe := noCheckout } noEvents system
    (.wizard 1000 1 (.plan .freeTrial))

/-- A trial of five seconds becomes one of two weeks, and a paid plan a trial. -/
theorem selection_extends_and_replaces :
    (findOrganization (trialSelected (onTerms .freeTrial (some 5000))).tables.billing 1).map
        termsOf = some (1, .freeTrial, some 1209601000) ∧
      (findOrganization (trialSelected (onTerms .starter none)).tables.billing 1).map termsOf =
        some (1, .freeTrial, some 1209601000) ∧
      ¬∀ taken ∈ trace (advancePlan { billingEnabled := true, stripe := noCheckout } noEvents)
        (onTerms .starter none) [.wizard 1000 1 (.plan .freeTrial)],
          Protects { billingEnabled := true, stripe := noCheckout } noEvents taken.1 taken.2 := by
  refine ⟨by decide, by decide, fun protects => ?_⟩
  obtain ⟨next, found, kept⟩ := protects (onTerms .starter none, .wizard 1000 1 (.plan .freeTrial))
    List.mem_cons_self 1 _ rfl
  obtain rfl := Option.some.inj found
  exact kept.plan (by decide) rfl

end StoryEngine.Setup
