import StoryEngine.Data.Run
import StoryEngine.Setup.Wizard

namespace StoryEngine.Setup

open Data Schema Statements Billing

/-! # Progress of the wizard -/

structure WizardCall where
  now : Date
  organizationId : RowId
  request : WizardRequest

def answerWizard (context : SetupContext) (tables : SetupTables) (call : WizardCall) :
    SetupTables :=
  Statements.after (wizardRoute context call.now call.organizationId call.request tables)

def customerFor (stripe : CheckoutStripe) (now : Date) (org : Organization) : Option Text :=
  (org.stripeCustomerId.filter fun customer => !customer.isEmpty).or
    (stripe.createCustomer org.id now)

def offersCheckout (stripe : CheckoutStripe) (now : Date) (org : Organization) (plan : Plan) :
    Bool :=
  (customerFor stripe now org).any fun customerId =>
    (getStripePriceId stripe plan).any fun priceId =>
      (stripe.createSession customerId priceId now).any fun url =>
        url.any fun address => !address.isEmpty

def stepAfter (context : SetupContext) (tables : SetupTables) (call : WizardCall) :
    Option SetupWizardStep :=
  match call.request with
  | .status => none
  | .recordingProvider _ _ => some .crm
  | .crm _ _ => some .accountSync
  | .accountSync => some .plan
  | .plan plan =>
    (findOrganization tables.billing call.organizationId).bind fun org =>
      if !context.billingEnabled ∨ plan = .freeTrial then some .permissions
      else if offersCheckout context.stripe call.now org plan then some .plan
      else none
  | .permissions _ => some .completed
  | .skip step => nextStep step

def InSequence (context : SetupContext) (tables : SetupTables) (call : WizardCall) : Prop :=
  ∀ wizard, findWizard tables call.organizationId = some wizard →
    ∀ step, stepAfter context tables call = some step → wizard.currentStep ≤ step

def Advances (context : SetupContext) (tables : SetupTables) (call : WizardCall) : Prop :=
  ∀ organizationId wizard, findWizard tables organizationId = some wizard →
    ∃ next, findWizard (answerWizard context tables call) organizationId = some next ∧
      wizard.currentStep ≤ next.currentStep

def Consistent (tables : SetupTables) : Prop :=
  ∀ organizationId wizard, findWizard tables organizationId = some wizard →
    (wizard.completedAt.isSome = true ↔ wizard.currentStep = .completed)

def Written (step : Option SetupWizardStep) (now : Date) (wizard next : SetupWizard) : Prop :=
  match step with
  | none => next = wizard
  | some step => next.currentStep = step ∧
      next.completedAt = if step = .completed then some now else wizard.completedAt

def WizardsKept (before later : SetupTables) : Prop := later.wizards = before.wizards

section

variable {tables written : SetupTables} {organizationId : RowId} {now : Date}
  {change : SetupWizard → SetupWizard} {context : SetupContext} {call : WizardCall}

theorem wizardsKept_refl (tables : SetupTables) : WizardsKept tables tables := rfl

theorem wizardsKept_onBilling {α : Type} {work : BillingWork α} :
    Keeps WizardsKept (onBilling work) := by
  intro tables
  unfold onBilling
  cases work tables.billing <;> rfl

theorem wizardsKept_then_pure {α β : Type} {work : SetupWork α} {value : β} :
    WizardsKept (Statements.after (work tables))
      (Statements.after ((work >>= fun _ => pure value) tables)) :=
  Keeps.after_bind wizardsKept_refl (fun _ => Keeps.pure wizardsKept_refl value) tables

theorem upsertSettings_ok (settings : SetupSettings) (tables : SetupTables) :
    ∃ written, upsertSettings settings tables = .ok ⟨⟩ written ∧ WizardsKept tables written := by
  unfold upsertSettings
  split
  · exact ⟨_, rfl, rfl⟩
  · exact ⟨_, rfl, rfl⟩

/-- The organization's wizard has this step written into it, all others are as before. -/
structure WizardMoved (before later : SetupTables) (organizationId : RowId)
    (step : Option SetupWizardStep) (now : Date) : Prop where
  moved : ∃ change : SetupWizard → SetupWizard,
    (∀ wizard, (change wizard).organizationId = wizard.organizationId ∧
      Written step now wizard (change wizard)) ∧
    later.wizards = updateWhere before.wizards (·.organizationId == organizationId) change

theorem WizardMoved.kept (kept : WizardsKept tables written) :
    WizardMoved tables written organizationId none now :=
  ⟨id, fun _ => ⟨rfl, rfl⟩, Eq.trans kept (updateWhere_self fun _ _ _ => rfl).symm⟩

variable {step : SetupWizardStep} {wizard : SetupWizard}
  {checkout : RowId → Plan → SetupWork (Option Text)} {other : RowId}

theorem updateWizard_moved
    (same : ∀ wizard, (change wizard).organizationId = wizard.organizationId)
    (writes : ∀ wizard, Written (some step) now wizard (change wizard)) :
    WizardMoved tables (Statements.after (updateWizard organizationId change tables))
      organizationId (some step) now := by
  refine ⟨change, fun wizard => ⟨same wizard, writes wizard⟩, ?_⟩
  unfold updateWizard
  split
  · rfl
  · next missing =>
      refine (updateWhere_none fun wizard member => ?_).symm
      simpa using fun own => missing (List.any_eq_true.mpr ⟨wizard, member, own⟩)

theorem WizardMoved.between {first second third fourth : SetupTables}
    {step : Option SetupWizardStep} (moved : WizardMoved second third organizationId step now)
    (before : WizardsKept first second) (later : WizardsKept third fourth) :
    WizardMoved first fourth organizationId step now := by
  obtain ⟨change, writes, written⟩ := moved
  exact ⟨change, writes, (Eq.trans later written).trans (by rw [before])⟩

theorem findWizard_organization
    (found : findWizard tables organizationId = some wizard) :
    wizard.organizationId = organizationId := by
  have first : tables.wizards.find? (·.organizationId == organizationId) = some wizard := found
  simpa using List.find?_some first

theorem onBilling_eq_ok {α : Type} {work : BillingWork α} {value : α} :
    onBilling work tables = .ok value written ↔
      ∃ billing, work tables.billing = .ok value billing ∧
        { tables with billing } = written := by
  unfold onBilling
  cases work tables.billing <;> simp

variable {stripe : CheckoutStripe} {org : Organization} {plan : Plan}

theorem customerOf_cases (stripe : CheckoutStripe) (now : Date)
    (known : (findOrganization tables.billing org.id).isSome) :
    (∃ customerId written, customerFor stripe now org = some customerId ∧
      customerOf stripe now org tables = .ok customerId written ∧ WizardsKept tables written) ∨
    customerFor stripe now org = none ∧
      ∃ failure, customerOf stripe now org tables = .error failure tables := by
  unfold customerFor customerOf
  cases given : org.stripeCustomerId.filter fun customer => !customer.isEmpty with
  | some customerId => exact .inl ⟨customerId, tables, rfl, rfl, rfl⟩
  | none =>
    cases made : stripe.createCustomer org.id now with
    | none =>
      refine .inr ⟨rfl, .billing .stripe, ?_⟩
      simp only [bind_apply, createCustomer, made]
    | some customerId =>
      let billing := setOrganization tables.billing org.id fun row =>
        { row with stripeCustomerId := some customerId }
      refine .inl ⟨customerId, { tables with billing }, rfl, ?_, rfl⟩
      refine bind_eq_ok.mpr ⟨customerId, tables, by simp only [createCustomer, made], ?_⟩
      refine bind_eq_ok.mpr ⟨⟨⟩, _, onBilling_eq_ok.mpr ⟨_, ?_, rfl⟩, rfl⟩
      exact updateOrganization_eq_ok.mpr ⟨known, rfl⟩

theorem createCheckoutSession_cases (stripe : CheckoutStripe) (now : Date)
    (found : findOrganization tables.billing organizationId = some org)
    (paid : plan ≠ .freeTrial) :
    WizardsKept tables
        (Statements.after (createCheckoutSession stripe now organizationId plan tables)) ∧
      (offersCheckout stripe now org plan = true ↔
        ∃ url written, createCheckoutSession stripe now organizationId plan tables =
          .ok (some url) written) := by
  have own : org.id = organizationId := findOrganization_id found
  have known : (findOrganization tables.billing org.id).isSome := by simp [own, found]
  have start : createCheckoutSession stripe now organizationId plan tables =
      (customerOf stripe now org >>= fun customerId =>
        (getStripePriceId stripe plan).elim (pure none)
          (createSession stripe now customerId)) tables := by
    have got : (get : SetupWork SetupTables) tables = .ok tables tables := rfl
    rw [createCheckoutSession, bind_apply, got]
    dsimp only
    rw [found]
    exact congrArg (fun next => (customerOf stripe now org >>= next) tables)
      (funext fun _ => (if_neg paid).trans (by cases getStripePriceId stripe plan <;> rfl))
  rw [start, offersCheckout, bind_apply]
  rcases customerOf_cases stripe now known with
    ⟨customerId, written, made, ran, kept⟩ | ⟨missing, failure, ran⟩
  · rw [ran, made]
    cases getStripePriceId stripe plan with
    | none => exact ⟨kept, by simp [pure, EStateM.pure]⟩
    | some priceId =>
      simp only [Option.elim_some, createSession]
      cases session : stripe.createSession customerId priceId now with
      | none => exact ⟨kept, by simp [session]⟩
      | some url =>
        refine ⟨kept, ?_⟩
        cases url with
        | none => simp [session]
        | some address => simp [session]
  · rw [ran, missing]
    exact ⟨rfl, by simp⟩

def trialStarted (tables : SetupTables) (now : Date) (organizationId : RowId) : SetupTables :=
  { tables with billing := setOrganization tables.billing organizationId (startTrial now) }

theorem findOrganization_trialStarted (now : Date)
    (found : findOrganization tables.billing organizationId = some org) :
    findOrganization (trialStarted tables now organizationId).billing organizationId =
      some (startTrial now org) := by
  rw [trialStarted, findOrganization_set (startTrial now) fun _ => rfl, found, Option.map_some,
    if_pos (by simp [findOrganization_id found])]

theorem startTrial_eq_ok (found : findOrganization tables.billing organizationId = some org) :
    onBilling (updateOrganization organizationId (startTrial now)) tables =
      .ok ⟨⟩ (trialStarted tables now organizationId) :=
  onBilling_eq_ok.mpr ⟨_, updateOrganization_eq_ok.mpr ⟨by rw [found]; rfl, rfl⟩, rfl⟩

theorem completePlanSelection_moved
    (found : findOrganization tables.billing organizationId = some org)
    (free : plan = .freeTrial) :
    WizardMoved tables
      (Statements.after (completePlanSelection now organizationId plan checkout tables))
      organizationId (some .permissions) now := by
  rw [completePlanSelection, bind_apply, startTrial_eq_ok found]
  dsimp only
  rw [if_pos free]
  have moved : WizardMoved (trialStarted tables now organizationId)
      (Statements.after (updateWizard organizationId
        (fun wizard => { wizard with selectedPlan := some plan, currentStep := .permissions })
        (trialStarted tables now organizationId))) organizationId (some .permissions) now :=
    updateWizard_moved (fun _ => rfl) fun _ => ⟨rfl, rfl⟩
  exact moved.between rfl wizardsKept_then_pure

theorem completePlanSelection_paid
    (found : findOrganization tables.billing organizationId = some org)
    (paid : plan ≠ .freeTrial) :
    WizardMoved tables
      (Statements.after (completePlanSelection now organizationId plan
        (createCheckoutSession stripe now) tables))
      organizationId (if offersCheckout stripe now org plan then some .plan else none) now := by
  rw [completePlanSelection, bind_apply, startTrial_eq_ok found]
  dsimp only
  rw [if_neg paid, bind_apply]
  obtain ⟨kept, offers⟩ := createCheckoutSession_cases stripe now
    (findOrganization_trialStarted now found) paid
  have same : offersCheckout stripe now (startTrial now org) plan =
    offersCheckout stripe now org plan := rfl
  rw [same] at offers
  cases ran : createCheckoutSession stripe now organizationId plan
      (trialStarted tables now organizationId) with
  | error failure written =>
    rw [ran] at kept
    rw [if_neg fun offered => by simpa [ran] using offers.mp offered]
    exact WizardMoved.kept kept
  | ok url written =>
    rw [ran] at kept
    cases url with
    | none =>
      rw [if_neg fun offered => by simpa [ran] using offers.mp offered]
      exact WizardMoved.kept kept
    | some checkoutUrl =>
      rw [if_pos (offers.mpr ⟨checkoutUrl, written, ran⟩)]
      have moved : WizardMoved written (Statements.after (updateWizard organizationId
          (fun wizard => { wizard with selectedPlan := some plan, currentStep := .plan })
            written)) organizationId (some .plan) now :=
        updateWizard_moved (fun _ => rfl) fun _ => ⟨rfl, rfl⟩
      exact moved.between kept wizardsKept_then_pure

theorem startTrial_unknown (missing : findOrganization tables.billing organizationId = none) :
    onBilling (updateOrganization organizationId (startTrial now)) tables =
      .error (.billing .recordNotFound) tables := by
  have unknown : tables.billing.organizations.any (·.id == organizationId) = false := by
    have none : tables.billing.organizations.find? (·.id == organizationId) = none := missing
    simpa using none
  rw [onBilling, updateOrganization, if_neg (by simp [unknown])]

theorem completePlanSelection_unknown
    (missing : findOrganization tables.billing organizationId = none) :
    completePlanSelection now organizationId plan checkout tables =
      .error (.billing .recordNotFound) tables := by
  rw [completePlanSelection, bind_apply, startTrial_unknown missing]

theorem selectPlan_moved {request : WizardRequest} (isPlan : request = .plan plan) :
    WizardMoved tables (Statements.after (selectPlan context now organizationId plan tables))
      organizationId (stepAfter context tables { now, organizationId, request }) now := by
  subst isPlan
  unfold stepAfter selectPlan
  dsimp only
  cases found : findOrganization tables.billing organizationId with
  | none =>
    rw [Option.bind_none]
    split
    · rw [bind_apply, completePlanSelection_unknown found]
      exact WizardMoved.kept rfl
    · rw [bind_apply, completePlanSelection_unknown found]
      exact WizardMoved.kept rfl
  | some org =>
    rw [Option.bind_some]
    cases enabled : context.billingEnabled with
    | true =>
      by_cases free : plan = .freeTrial
      · rw [if_pos rfl, if_pos (.inr free)]
        exact (completePlanSelection_moved found free).between rfl wizardsKept_then_pure
      · rw [if_pos rfl, if_neg (by simp [free])]
        exact (completePlanSelection_paid found free).between rfl wizardsKept_then_pure
    | false =>
      rw [if_neg (by simp), if_pos (by simp)]
      exact (completePlanSelection_moved found rfl).between rfl
        (Keeps.after_bind wizardsKept_refl (fun _ => wizardsKept_onBilling) _)

theorem operation_moved (context : SetupContext) (tables : SetupTables) (call : WizardCall) :
    WizardMoved tables
      (Statements.after (wizardOperation context call.now call.organizationId call.request tables))
      call.organizationId (stepAfter context tables call) call.now := by
  obtain ⟨now, organizationId, request⟩ := call
  cases request with
  | status => exact WizardMoved.kept rfl
  | recordingProvider provider mergeLinkedAccountId =>
    exact updateWizard_moved (fun _ => rfl) fun _ => ⟨rfl, rfl⟩
  | crm provider mergeLinkedAccountId =>
    exact updateWizard_moved (fun _ => rfl) fun _ => ⟨rfl, rfl⟩
  | accountSync => exact updateWizard_moved (fun _ => rfl) fun _ => ⟨rfl, rfl⟩
  | plan plan => exact selectPlan_moved rfl
  | permissions config =>
    obtain ⟨written, ran, kept⟩ := upsertSettings_ok
      (permissionsSettings organizationId config) tables
    dsimp only [wizardOperation]
    rw [completePermissionsSetup, bind_apply, ran]
    suffices moved : WizardMoved written (Statements.after (updateWizard organizationId
        (permissionsConfigured now) written)) organizationId (some .completed) now from
      moved.between kept rfl
    exact updateWizard_moved (fun _ => rfl) fun _ => ⟨rfl, rfl⟩
  | skip step =>
    dsimp only [wizardOperation, stepAfter]
    unfold skipStep
    cases nextStep step with
    | none => exact WizardMoved.kept rfl
    | some next => exact updateWizard_moved (fun _ => rfl) fun _ => ⟨rfl, rfl⟩

theorem findWizard_getOrCreate :
    findWizard (Statements.after (getOrCreateWizard organizationId tables)) other =
      (findWizard tables other).or
        (if other = organizationId then some { organizationId } else none) := by
  unfold getOrCreateWizard
  split
  · next known =>
      cases found : findWizard tables other with
      | some wizard => rw [Option.some_or]; exact found
      | none =>
        have away : other ≠ organizationId := by
          intro own
          obtain ⟨wizard, member, same⟩ := List.any_eq_true.mp known
          exact List.find?_eq_none.mp found wizard member (own ▸ same)
        rw [if_neg away, Option.none_or]
        exact found
  · unfold findWizard
    rw [Statements.after, List.find?_append]
    congr 1
    by_cases own : other = organizationId
    · simp [own]
    · simp [own, Ne.symm own]

theorem findWizard_answer :
    (∀ wizard, findWizard tables other = some wizard →
      ∃ next, findWizard (answerWizard context tables call) other = some next ∧
        Written (if other = call.organizationId then stepAfter context tables call else none)
          call.now wizard next) ∧
    (findWizard tables other = none →
      ∀ wizard, findWizard (answerWizard context tables call) other = some wizard →
        wizard = { organizationId := other }) := by
  obtain ⟨change, writes, written⟩ := operation_moved context tables call
  have looked : findWizard (Statements.after (wizardOperation context call.now call.organizationId
      call.request tables)) other = (findWizard tables other).map fun wizard =>
        if wizard.organizationId == call.organizationId then change wizard else wizard := by
    unfold findWizard
    rw [written]
    exact find?_updateWhere fun wizard => by rw [(writes wizard).1]
  have route : answerWizard context tables call = Statements.after (wizardOperation context call.now
        call.organizationId call.request tables) ∨
      answerWizard context tables call = Statements.after (getOrCreateWizard call.organizationId
        (Statements.after (wizardOperation context call.now call.organizationId call.request
          tables))) := by
    unfold answerWizard wizardRoute
    rw [bind_apply]
    cases wizardOperation context call.now call.organizationId call.request tables with
    | ok value after => exact .inr rfl
    | error failure after => exact .inl rfl
  have answered : ∃ fresh, findWizard (answerWizard context tables call) other =
      ((findWizard tables other).map fun wizard =>
        if wizard.organizationId == call.organizationId then change wizard else wizard).or fresh ∧
      ∀ wizard, fresh = some wizard → wizard = { organizationId := other } := by
    rcases route with same | created
    · exact ⟨none, by rw [same, looked, Option.or_none], by simp⟩
    · refine ⟨_, by rw [created, findWizard_getOrCreate, looked], fun wizard isNew => ?_⟩
      split at isNew
      · next own => exact own ▸ (Option.some.inj isNew).symm
      · cases isNew
  obtain ⟨fresh, final, isFresh⟩ := answered
  constructor
  · intro wizard found
    have own : wizard.organizationId = other := findWizard_organization found
    rw [final, found, Option.map_some, Option.some_or, own]
    refine ⟨_, rfl, ?_⟩
    by_cases called : other = call.organizationId
    · simpa [called] using (writes wizard).2
    · simp [called, Written]
  · intro missing wizard found
    rw [final, missing] at found
    exact isFresh wizard found

theorem step_le_refl (step : SetupWizardStep) : step ≤ step := Nat.le_refl step.index

theorem eq_completed_of_le (beyond : SetupWizardStep.completed ≤ step) :
    step = .completed := by
  revert beyond
  cases step <;> decide

theorem advances_iff_inSequence :
    Advances context tables call ↔ InSequence context tables call := by
  constructor
  · intro advances wizard found step writes
    obtain ⟨next, foundNext, further⟩ := advances call.organizationId wizard found
    obtain ⟨same, foundSame, written⟩ := findWizard_answer.1 wizard found
    obtain rfl := Option.some.inj (foundNext.symm.trans foundSame)
    rw [if_pos rfl, writes] at written
    exact written.1 ▸ further
  · intro ordered other wizard found
    obtain ⟨next, foundNext, written⟩ := findWizard_answer.1 wizard found
    refine ⟨next, foundNext, ?_⟩
    by_cases own : other = call.organizationId
    · rw [if_pos own] at written
      cases writes : stepAfter context tables call with
      | none =>
        rw [writes] at written
        obtain rfl : next = wizard := written
        exact step_le_refl next.currentStep
      | some step =>
        rw [writes] at written
        rw [written.1]
        exact ordered wizard (own ▸ found) step writes
    · rw [if_neg own] at written
      obtain rfl : next = wizard := written
      exact step_le_refl next.currentStep

theorem Written.consistent {step : Option SetupWizardStep} {next : SetupWizard}
    (written : Written step now wizard next)
    (before : wizard.completedAt.isSome = true ↔ wizard.currentStep = .completed)
    (ordered : ∀ target, step = some target → wizard.currentStep ≤ target) :
    next.completedAt.isSome = true ↔ next.currentStep = .completed := by
  cases step with
  | none =>
    obtain rfl : next = wizard := written
    exact before
  | some target =>
    obtain ⟨here, completedAt⟩ := written
    rw [here, completedAt]
    by_cases last : target = .completed
    · simp [last]
    · have unfinished : wizard.currentStep ≠ .completed := fun finished =>
        last (eq_completed_of_le (finished ▸ ordered target rfl))
      rw [if_neg last]
      exact ⟨fun set => absurd (before.mp set) unfinished, fun isLast => absurd isLast last⟩

theorem consistent_answer (consistent : Consistent tables)
    (ordered : InSequence context tables call) : Consistent (answerWizard context tables call) := by
  intro other next foundNext
  cases found : findWizard tables other with
  | none =>
    rw [findWizard_answer.2 found next foundNext]
    exact ⟨fun set => (by cases set), fun isLast => (by cases isLast)⟩
  | some wizard =>
    obtain ⟨same, foundSame, written⟩ := findWizard_answer.1 wizard found
    obtain rfl := Option.some.inj (foundNext.symm.trans foundSame)
    refine written.consistent (consistent other wizard found) fun target writes => ?_
    by_cases own : other = call.organizationId
    · rw [if_pos own] at writes
      exact ordered wizard (own ▸ found) target writes
    · rw [if_neg own] at writes
      cases writes

end

/-- Over every sequence of calls the wizards only go on, and are completed exactly when
they say so, if and only if no call comes for a wizard that is beyond its step. -/
theorem wizard_progress_iff (context : SetupContext) (start : SetupTables)
    (calls : List WizardCall) :
    (∀ taken ∈ trace (answerWizard context) { start with wizards := [] } calls,
        Advances context taken.1 taken.2 ∧
          Consistent (answerWizard context taken.1 taken.2)) ↔
      ∀ taken ∈ trace (answerWizard context) { start with wizards := [] } calls,
        InSequence context taken.1 taken.2 := by
  constructor
  · intro progress taken member
    exact advances_iff_inSequence.mp (progress taken member).1
  · intro ordered taken member
    have initial : Consistent { start with wizards := [] } := fun _ _ found => by cases found
    obtain ⟨consistent, inSequence⟩ := trace_guarded_invariant Consistent
      (fun _ _ consistent allowed => consistent_answer consistent allowed) initial ordered taken
      member
    exact ⟨advances_iff_inSequence.mpr inSequence, consistent_answer consistent inSequence⟩

def plainSetup : SetupContext where
  billingEnabled := true
  stripe := {
    createCustomer := fun _ _ => none
    createSession := fun _ _ _ => none
    prices := {} }

def sharedPages : PermissionsConfig where
  defaultPageVisibility := .sharedWithLink
  allowedPublishers := [.owner]
  requireApprovalToPublish := true

def lateConnection : List WizardCall :=
  [{ now := 1000, organizationId := 1, request := .status },
    { now := 2000, organizationId := 1, request := .permissions sharedPages },
    { now := 3000, organizationId := 1, request := .recordingProvider .gong "la_1" }]

/-- The wizard goes back to its second step, and stays completed. -/
theorem completed_wizard_goes_back :
    (findWizard (run (answerWizard plainSetup) {} lateConnection) 1).map
        (fun wizard => (wizard.currentStep, wizard.completedAt)) = some (.crm, some 2000) ∧
      ¬∀ taken ∈ trace (answerWizard plainSetup) {} lateConnection,
        Advances plainSetup taken.1 taken.2 ∧
          Consistent (answerWizard plainSetup taken.1 taken.2) := by
  refine ⟨by decide, fun progress => ?_⟩
  have last := (progress (run (answerWizard plainSetup) {} (lateConnection.take 2),
    { now := 3000, organizationId := 1, request := .recordingProvider .gong "la_1" })
      (List.mem_of_getElem? (i := 2) rfl)).2
  have same := (last 1 _ rfl).mp rfl
  revert same
  decide

end StoryEngine.Setup
