import StoryEngine.Approval.Enforcement

namespace StoryEngine.Approval

open Data Schema Access Pages Routes

/-! # One decision at two endpoints

The lifecycle queue publishes what the landing-page route publishes, and more:
the route asks for rules of its own.
-/

def ReviewInput.sentTo (input : ReviewInput) (endpoint : ReviewEndpoint) : ReviewInput :=
  { input with endpoint }

def Publishes (platform : Platform) (db : Database) (input : ReviewInput) : Prop :=
  ∃ receipt next, review platform db input = .ok (.published receipt, next)

instance (platform : Platform) (db : Database) (input : ReviewInput) :
    Decidable (Publishes platform db input) :=
  match reviewed : review platform db input with
  | .ok (.published receipt, next) => isTrue ⟨receipt, next, reviewed⟩
  | .ok (.rejected, _) | .ok (.pending _, _) | .ok (.approved, _) | .error _ =>
    isFalse fun ⟨_, _, published⟩ => by rw [reviewed] at published; cases published

section

variable {platform : Platform} {db : Database} {input : ReviewInput} {request : ApprovalRequest}
  {payload : PublishApprovalPayload}

structure Approvable (db : Database) (input : ReviewInput)
    (requestTypes : List ApprovalRequestType) (request : ApprovalRequest) : Prop where
  notes : input.notes.all (lengthWithin 0 1000) = true
  allowed : canReviewPublishApprovals db input.caller = true
  found : findPublishApprovalRequest db input.requestId input.caller.organizationId
    requestTypes = some request
  pending : request.status = .pending
  decision : input.decision = .approve

/-- What the landing-page route asks of an approval of the current step. -/
structure StepRules (db : Database) (input : ReviewInput) (request : ApprovalRequest) : Prop where
  eligible : ∀ step, currentStep request.requestPayload = some step →
    canUserApproveStep db input.caller step request.requestedByUserId = true
  first : ∀ approval ∈ request.requestPayload.approvals,
    approval.stepOrder = currentStepOrder request.requestPayload →
      approval.reviewerUserId ≠ input.caller.userId

/-- The step has its approvals with the one at hand, and no step follows. -/
structure ChainEnds (payload : PublishApprovalPayload) : Prop where
  enough : ((currentStep payload).map (·.minApprovals)).getD 1 ≤
    ((payload.approvals.filter (·.stepOrder == currentStepOrder payload)).length : Int) + 1
  last : ∀ step ∈ payload.steps, step.stepOrder ≤ currentStepOrder payload

theorem stepCompleted_eq_true : stepCompleted input payload = true ↔
    ((currentStep payload).map (·.minApprovals)).getD 1 ≤
      ((payload.approvals.filter (·.stepOrder == currentStepOrder payload)).length : Int) + 1 := by
  simp [stepCompleted, withApproval, List.filter_append]

theorem laterStep_eq_none :
    laterStep payload = none ↔ ∀ step ∈ payload.steps, step.stepOrder ≤ currentStepOrder payload := by
  simp [laterStep, List.find?_eq_none]

theorem planApproval_publishes (payload : PublishApprovalPayload) :
    planApproval input request = .publish request payload ↔
      ChainEnds request.requestPayload ∧
        payload = { request.requestPayload with
          approvals := withApproval input request.requestPayload
          currentStepOrder := some (currentStepOrder request.requestPayload) } := by
  have ends : (stepCompleted input request.requestPayload &&
      (laterStep request.requestPayload).isNone) = true ↔ ChainEnds request.requestPayload := by
    rw [Bool.and_eq_true, stepCompleted_eq_true, Option.isNone_iff_eq_none, laterStep_eq_none]
    exact ⟨fun ⟨enough, last⟩ => ⟨enough, last⟩, fun ⟨enough, last⟩ => ⟨enough, last⟩⟩
  simp only [planApproval]
  split
  · rename_i ready
    simp [ends.mp ready, eq_comm]
  · rename_i unready
    simp [mt ends.mpr unready]

theorem planReview_cases {plan : ReviewPlan} (planned : planReview db input = .ok plan) :
    ∃ request, findPublishApprovalRequest db input.requestId input.caller.organizationId
        [.landingPagePublish] = some request ∧ request.status = .pending ∧
      (input.decision = .reject ∧ plan = .reject request ∨
        Approvable db input [.landingPagePublish] request ∧ StepRules db input request ∧
          plan = planApproval input request) := by
  simp only [planReview, bind_eq_ok, required_eq_ok, ensure_eq_ok, exists_const, beq_iff_eq]
    at planned
  obtain ⟨notes, allowed, request, found, pending, eligible, decided⟩ := planned
  refine ⟨request, found, pending, ?_⟩
  cases decision : input.decision with
  | reject =>
    simp only [decision, pure_eq_ok] at decided
    exact .inl ⟨rfl, decided.symm⟩
  | approve =>
    simp only [decision, bind_eq_ok, ensure_eq_ok, pure_eq_ok, exists_const] at decided
    obtain ⟨first, rfl⟩ := decided
    exact .inr ⟨⟨notes, allowed, found, pending, decision⟩,
      ⟨by simpa [Option.all_eq_true] using eligible, by simpa using first⟩, rfl⟩

theorem planReview_publishes :
    planReview db input = .ok (.publish request payload) ↔
      Approvable db input [.landingPagePublish] request ∧ StepRules db input request ∧
        planApproval input request = .publish request payload := by
  constructor
  · intro planned
    obtain ⟨read, _, _, ⟨_, rejects⟩ | ⟨approvable, rules, approves⟩⟩ :=
      planReview_cases planned
    · cases rejects
    · obtain rfl : request = read := by
        rw [← planApproval_request input read, ← approves]
        rfl
      exact ⟨approvable, rules, approves.symm⟩
  · rintro ⟨approvable, rules, planned⟩
    simp only [planReview, bind_eq_ok, required_eq_ok, ensure_eq_ok, exists_const, beq_iff_eq]
    refine ⟨approvable.notes, approvable.allowed, request, approvable.found, approvable.pending,
      by simpa [Option.all_eq_true] using rules.eligible, ?_⟩
    simp only [approvable.decision, bind_eq_ok, ensure_eq_ok, pure_eq_ok, exists_const]
    exact ⟨by simpa using rules.first, planned⟩

theorem planQueueReview_publishes :
    planQueueReview db input = .ok (.publish request payload) ↔
      Approvable db input [.landingPagePublish, .storyPublish] request ∧
        request.requestType = .landingPagePublish ∧ request.targetType = .landingPage ∧
        payload = request.requestPayload := by
  simp only [planQueueReview, bind_eq_ok, required_eq_ok, ensure_eq_ok, exists_const, beq_iff_eq]
  constructor
  · rintro ⟨notes, allowed, read, found, pending, decided⟩
    cases decision : input.decision with
    | reject =>
      simp only [decision, pure_eq_ok] at decided
      cases decided
    | approve =>
      simp only [decision] at decided
      split at decided
      · rename_i landingPage
        simp only [Bool.and_eq_true, beq_iff_eq] at landingPage
        cases decided
        exact ⟨⟨notes, allowed, found, pending, decision⟩, landingPage.1, landingPage.2, rfl⟩
      · cases decided
  · rintro ⟨approvable, requestType, targetType, rfl⟩
    refine ⟨approvable.notes, approvable.allowed, request, approvable.found, approvable.pending, ?_⟩
    simp [approvable.decision, requestType, targetType]

theorem publishes_iff :
    Publishes platform db input ↔ ∃ request payload,
      input.plan db = .ok (.publish request payload) ∧
      requirePublishable db input request payload = .ok ⟨⟩ ∧
      ∃ result, publish platform db request.targetId (reviewOptions input request payload)
        input.now = .ok result := by
  simp only [Publishes, review, bind_eq_ok]
  constructor
  · rintro ⟨receipt, next, plan, planned, carried⟩
    cases plan with
    | reject request | recordApproval request payload | approveOnly request => cases carried
    | publish request payload =>
      simp only [bind_eq_ok, mapError_eq_ok] at carried
      obtain ⟨_, publishable, result, published, _⟩ := carried
      exact ⟨request, payload, planned, publishable, result, published⟩
  · rintro ⟨request, payload, planned, publishable, ⟨published, receipt⟩, publishes⟩
    refine ⟨receipt, finalize (afterPublish published input request) input .approved
      (.publish request payload), .publish request payload, planned, ?_⟩
    simp only [bind_eq_ok, mapError_eq_ok]
    exact ⟨_, publishable, _, publishes, rfl⟩

end

/-- What the landing-page route asks and the queue does not. -/
structure RouteRules (db : Database) (input : ReviewInput) (request : ApprovalRequest)
    (page : LandingPage) : Prop where
  enabled : requireLandingPagesEnabled db input.caller = .ok ⟨⟩
  step : StepRules db input request
  ends : ChainEnds request.requestPayload
  expiry : expiresTooLate (getArtifactPublishGovernance db input.caller.organizationId)
    (requestedOptions request.requestPayload).expiresAt input.now = false
  named : page.includeCompanyName = true → canGenerateNamedStories db input.caller = true

section

variable {platform : Platform} {db : Database} {input : ReviewInput} {request : ApprovalRequest}
  {payload : PublishApprovalPayload}

theorem requirePublishable_landingPages :
    requirePublishable db (input.sentTo .landingPages) request payload = .ok ⟨⟩ ↔
      ∃ page, findLandingPage db request.targetId = .ok page ∧
        expiresTooLate (getArtifactPublishGovernance db input.caller.organizationId)
          (requestedOptions payload).expiresAt input.now = false ∧
        (page.includeCompanyName = true → canGenerateNamedStories db input.caller = true) := by
  simp only [requirePublishable, ReviewInput.sentTo, getForEditing, requireExpiryWithin,
    bind_eq_ok, mapError_eq_ok, ensure_eq_ok, exists_const, Bool.or_eq_true, Bool.not_eq_eq_eq_not,
    Bool.not_true]
  constructor
  · rintro ⟨page, found, expiry, allowed⟩
    exact ⟨page, found, expiry, fun named => by simpa [named] using allowed⟩
  · rintro ⟨page, found, expiry, allowed⟩
    refine ⟨page, found, expiry, ?_⟩
    cases named : page.includeCompanyName with
    | false => exact .inl rfl
    | true => exact .inr (allowed named)

theorem Approvable.narrow
    (approvable : Approvable db input [.landingPagePublish, .storyPublish] request)
    (requestType : request.requestType = .landingPagePublish) :
    Approvable db input [.landingPagePublish] request := by
  refine { approvable with found := ?_ }
  have found := approvable.found
  simp only [findPublishApprovalRequest, List.find?_eq_some_iff_append] at found ⊢
  obtain ⟨criteria, before, after, table, earlier⟩ := found
  refine ⟨by simpa [requestType] using criteria, before, after, table, fun row member => ?_⟩
  have other := earlier row member
  simp only [Bool.not_eq_true', Bool.and_eq_false_iff] at other ⊢
  rcases other with differs | wrongType
  · exact .inl differs
  · refine .inr ?_
    rw [← Bool.not_eq_true] at wrongType ⊢
    exact fun landing => wrongType (by simp_all)

theorem publishes_lifecycleQueue :
    Publishes platform db (input.sentTo .lifecycleQueue) ↔ ∃ request,
      Approvable db input [.landingPagePublish, .storyPublish] request ∧
      request.requestType = .landingPagePublish ∧ request.targetType = .landingPage ∧
      ∃ result, publish platform db request.targetId
        (reviewOptions input request request.requestPayload) input.now = .ok result := by
  have planned (request : ApprovalRequest) (payload : PublishApprovalPayload) :
      (input.sentTo .lifecycleQueue).plan db = .ok (.publish request payload) ↔
        planQueueReview db (input.sentTo .lifecycleQueue) = .ok (.publish request payload) := Iff.rfl
  simp only [publishes_iff, planned, planQueueReview_publishes]
  constructor
  · rintro ⟨request, _, ⟨approvable, requestType, targetType, rfl⟩, _, published⟩
    exact ⟨request, { approvable with }, requestType, targetType, published⟩
  · rintro ⟨request, approvable, requestType, targetType, published⟩
    exact ⟨request, _, ⟨{ approvable with }, requestType, targetType, rfl⟩, rfl, published⟩

theorem publishes_landingPages :
    Publishes platform db (input.sentTo .landingPages) ↔ ∃ request page,
      Approvable db input [.landingPagePublish] request ∧
      findLandingPage db request.targetId = .ok page ∧ RouteRules db input request page ∧
      ∃ result, publish platform db request.targetId
        (reviewOptions input request request.requestPayload) input.now = .ok result := by
  have planned (request : ApprovalRequest) (payload : PublishApprovalPayload) :
      (input.sentTo .landingPages).plan db = .ok (.publish request payload) ↔
        requireLandingPagesEnabled db input.caller = .ok ⟨⟩ ∧
          planReview db (input.sentTo .landingPages) = .ok (.publish request payload) := by
    simp only [ReviewInput.plan, ReviewInput.sentTo, bind_eq_ok]
    constructor
    · rintro ⟨_, enabled, plans⟩
      exact ⟨enabled, plans⟩
    · rintro ⟨enabled, plans⟩
      exact ⟨_, enabled, plans⟩
  simp only [publishes_iff, planned, planReview_publishes, planApproval_publishes,
    requirePublishable_landingPages]
  constructor
  · rintro ⟨request, _, ⟨enabled, approvable, rules, ends, rfl⟩, ⟨page, found, expiry, named⟩,
      published⟩
    exact ⟨request, page, { approvable with }, found, ⟨enabled, { rules with }, ends, expiry,
      named⟩, published⟩
  · rintro ⟨request, page, approvable, found, rules, published⟩
    exact ⟨request, _, ⟨rules.enabled, { approvable with }, { rules.step with }, rules.ends, rfl⟩,
      ⟨page, found, rules.expiry, rules.named⟩, published⟩

end

/-- Where the queue publishes, the landing-page route publishes exactly when the
rules that only it knows are met. -/
theorem endpoints_agree_iff {platform : Platform} {db : Database} {input : ReviewInput}
    (queue : Publishes platform db (input.sentTo .lifecycleQueue)) :
    Publishes platform db (input.sentTo .landingPages) ↔ ∃ request page,
      findPublishApprovalRequest db input.requestId input.caller.organizationId
        [.landingPagePublish] = some request ∧
      findLandingPage db request.targetId = .ok page ∧ RouteRules db input request page := by
  obtain ⟨request, approvable, requestType, _, published⟩ := publishes_lifecycleQueue.mp queue
  have narrow := approvable.narrow requestType
  rw [publishes_landingPages]
  constructor
  · rintro ⟨read, page, approvable, found, rules, _⟩
    exact ⟨read, page, approvable.found, found, rules⟩
  · rintro ⟨read, page, read_, found, rules⟩
    obtain rfl : request = read := Option.some.inj (narrow.found.symm.trans read_)
    exact ⟨request, page, narrow, found, rules, published⟩

def stepFor (stepOrder : Int) (userId : RowId) : PublishApprovalStep where
  stepOrder
  minApprovals := 1
  approverScopeType := .user
  approverScopeValue := some (RowId.text userId)

def chainedRequest (requestPayload : PublishApprovalPayload) : ApprovalRequest where
  id := 12
  organizationId := 7
  targetId := 10
  requestedByUserId := 3
  requestPayload

def chainedDatabase (requestPayload : PublishApprovalPayload) : Database :=
  { draftDatabase with
    nextId := 13
    approvalRequests := [chainedRequest requestPayload] }

theorem endpoints_agree_without_steps :
    Publishes .ascii (chainedDatabase {}) (approvePublish.sentTo .landingPages) ↔
      ∃ request page,
        findPublishApprovalRequest (chainedDatabase {}) 12 7 [.landingPagePublish] = some request ∧
        findLandingPage (chainedDatabase {}) request.targetId = .ok page ∧
        RouteRules (chainedDatabase {}) approvePublish request page :=
  endpoints_agree_iff (by decide +kernel)

/-- The queue publishes with the approval of a user whom the step does not name. -/
theorem queue_ignores_steps :
    Publishes .ascii (chainedDatabase { steps := [stepFor 1 5] })
        (approvePublish.sentTo .lifecycleQueue) ∧
      ¬Publishes .ascii (chainedDatabase { steps := [stepFor 1 5] })
        (approvePublish.sentTo .landingPages) := by
  decide +kernel

end StoryEngine.Approval
