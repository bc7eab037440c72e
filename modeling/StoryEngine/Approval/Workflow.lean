import StoryEngine.Routes.Pages

namespace StoryEngine.Approval

open Data Schema Access Pages Routes Text

/-! # The approval workflow

The two review endpoints, the worker that publishes scheduled pages, and the
ways to change the approval policy.
-/

def findPublishApprovalRequest (db : Database) (requestId organizationId : RowId)
    (requestTypes : List ApprovalRequestType) : Option ApprovalRequest :=
  db.approvalRequests.find? fun request =>
    request.id == requestId && request.organizationId == organizationId &&
      requestTypes.contains request.requestType

/-- `approvalRequest.update({ where: { id } })`, whatever the row's status. -/
def updateApprovalRequest (db : Database) (requestId : RowId)
    (change : ApprovalRequest → ApprovalRequest) : Database :=
  { db with approvalRequests := updateWhere db.approvalRequests (·.id == requestId) change }

inductive ReviewDecision where
  | approve
  | reject

/-- The routes under `/approvals/publish` and under `/publish-approvals`. -/
inductive ReviewEndpoint where
  | landingPages
  | lifecycleQueue

structure ReviewInput where
  endpoint : ReviewEndpoint
  caller : Caller
  requestId : RowId
  decision : ReviewDecision
  notes : Option Text := none
  now : Date

inductive ReviewPlan where
  | reject (request : ApprovalRequest)
  | recordApproval (request : ApprovalRequest) (payload : PublishApprovalPayload)
  | publish (request : ApprovalRequest) (payload : PublishApprovalPayload)
  | approveOnly (request : ApprovalRequest)
deriving DecidableEq

def ReviewPlan.request : ReviewPlan → ApprovalRequest
  | .reject request | .recordApproval request _ | .publish request _ | .approveOnly request =>
    request

inductive ReviewResponse where
  | rejected
  | pending (currentStepOrder : Option Int)
  | published (receipt : PublishReceipt)
  | approved
deriving DecidableEq

def reviewPermissionDenied : HttpFailure := forbidden "permission_denied"

def requestNotFound : HttpFailure := notFound "Publish approval request not found"

def alreadyFinalized : HttpFailure := conflict "Approval request is already finalized"

def currentStepOrder (payload : PublishApprovalPayload) : Int :=
  payload.currentStepOrder.getD ((payload.steps.head?.map (·.stepOrder)).getD 1)

def currentStep (payload : PublishApprovalPayload) : Option PublishApprovalStep :=
  payload.steps.find? (·.stepOrder == currentStepOrder payload)

def laterStep (payload : PublishApprovalPayload) : Option PublishApprovalStep :=
  payload.steps.find? fun step => decide (currentStepOrder payload < step.stepOrder)

def withApproval (input : ReviewInput) (payload : PublishApprovalPayload) : List StepApproval :=
  payload.approvals ++ [{
    stepOrder := currentStepOrder payload
    reviewerUserId := input.caller.userId
    decidedAt := input.now
    notes := input.notes }]

def stepCompleted (input : ReviewInput) (payload : PublishApprovalPayload) : Bool :=
  let approvalsForStep := (withApproval input payload).filter
    (·.stepOrder == currentStepOrder payload)
  decide (((currentStep payload).map (·.minApprovals)).getD 1 ≤ (approvalsForStep.length : Int))

def nextStepOrder (input : ReviewInput) (payload : PublishApprovalPayload) : Int :=
  if stepCompleted input payload then
    ((laterStep payload).map (·.stepOrder)).getD (currentStepOrder payload)
  else currentStepOrder payload

def planApproval (input : ReviewInput) (request : ApprovalRequest) : ReviewPlan :=
  let payload := request.requestPayload
  let approvals := withApproval input payload
  if stepCompleted input payload && (laterStep payload).isNone then
    .publish request { payload with approvals, currentStepOrder := some (currentStepOrder payload) }
  else
    .recordApproval request
      { payload with approvals, currentStepOrder := some (nextStepOrder input payload) }

def planReview (db : Database) (input : ReviewInput) : Except HttpFailure ReviewPlan := do
  let _ ← ensure (input.notes.all (lengthWithin 0 1000)) validationError
  let _ ← ensure (canReviewPublishApprovals db input.caller) reviewPermissionDenied
  let request ← required (findPublishApprovalRequest db input.requestId
    input.caller.organizationId [.landingPagePublish]) requestNotFound
  let _ ← ensure (request.status == .pending) alreadyFinalized
  let payload := request.requestPayload
  let _ ← ensure ((currentStep payload).all fun step =>
    canUserApproveStep db input.caller step request.requestedByUserId)
    (forbidden "You are not eligible to approve this workflow step.")
  match input.decision with
  | .reject => return .reject request
  | .approve => do
      let _ ← ensure (!payload.approvals.any fun approval =>
        approval.stepOrder == currentStepOrder payload &&
          approval.reviewerUserId == input.caller.userId)
        (conflict "You already approved this workflow step.")
      return planApproval input request

def planQueueReview (db : Database) (input : ReviewInput) : Except HttpFailure ReviewPlan := do
  let _ ← ensure (input.notes.all (lengthWithin 0 1000)) validationError
  let _ ← ensure (canReviewPublishApprovals db input.caller) reviewPermissionDenied
  let request ← required (findPublishApprovalRequest db input.requestId
    input.caller.organizationId [.landingPagePublish, .storyPublish]) requestNotFound
  let _ ← ensure (request.status == .pending) alreadyFinalized
  match input.decision with
  | .reject => return .reject request
  | .approve =>
    if request.requestType == .landingPagePublish && request.targetType == .landingPage then
      return .publish request request.requestPayload
    else return .approveOnly request

def ReviewInput.plan (db : Database) (input : ReviewInput) : Except HttpFailure ReviewPlan :=
  match input.endpoint with
  | .landingPages => do
      let _ ← requireLandingPagesEnabled db input.caller
      planReview db input
  | .lifecycleQueue => planQueueReview db input

def finalizeData (input : ReviewInput) (status : ApprovalStatus)
    (payload : PublishApprovalPayload) (request : ApprovalRequest) : ApprovalRequest :=
  { request with
    status
    reviewerUserId := some input.caller.userId
    reviewNotes := input.notes
    reviewedAt := some input.now
    requestPayload := payload }

/-- The update of a finalizing route; only a publish from the landing-page route
writes the payload. -/
def finalize (db : Database) (input : ReviewInput) (status : ApprovalStatus)
    (plan : ReviewPlan) : Database :=
  updateApprovalRequest db plan.request.id fun row =>
    match input.endpoint, plan with
    | .landingPages, .publish _ payload => finalizeData input status payload row
    | _, _ => finalizeData input status row.requestPayload row

def recordPayload (db : Database) (request : ApprovalRequest) (payload : PublishApprovalPayload) :
    Database :=
  updateApprovalRequest db request.id fun row => { row with requestPayload := payload }

def requestedOptions (payload : PublishApprovalPayload) : PublishRequestOptions :=
  payload.options.getD { visibility := .privateAccess }

def reviewOptions (input : ReviewInput) (request : ApprovalRequest)
    (payload : PublishApprovalPayload) : PublishOptions :=
  publishOptions (requestedOptions payload) input.caller.userId (some request.id)

def reviewFailure (input : ReviewInput) (cause : EditorError) : HttpFailure :=
  match input.endpoint with
  | .landingPages => publishFailure "Failed to review publish approval" cause
  | .lifecycleQueue => unhandled cause

def requirePublishable (db : Database) (input : ReviewInput) (request : ApprovalRequest)
    (payload : PublishApprovalPayload) : Except HttpFailure Unit :=
  match input.endpoint with
  | .landingPages => do
      let page ← (getForEditing db request.targetId).mapError (reviewFailure input)
      let _ ← requireExpiryWithin db input.caller input.now (requestedOptions payload).expiresAt
      ensure (!page.includeCompanyName || canGenerateNamedStories db input.caller)
        (forbidden "Your role cannot generate named stories.")
  | .lifecycleQueue => .ok ⟨⟩

def afterPublish (db : Database) (input : ReviewInput) (request : ApprovalRequest) : Database :=
  match input.endpoint with
  | .landingPages => clearScheduledPublish db request.targetId
  | .lifecycleQueue => db

def review (platform : Platform) (db : Database) (input : ReviewInput) :
    Except HttpFailure (ReviewResponse × Database) := do
  let plan ← input.plan db
  match plan with
  | .reject _ => return (.rejected, finalize db input .rejected plan)
  | .recordApproval request payload =>
    return (.pending payload.currentStepOrder, recordPayload db request payload)
  | .publish request payload => do
      let _ ← requirePublishable db input request payload
      let (published, receipt) ← (publish platform db request.targetId
        (reviewOptions input request payload) input.now).mapError (reviewFailure input)
      return (.published receipt,
        finalize (afterPublish published input request) input .approved plan)
  | .approveOnly _ => return (.approved, finalize db input .approved plan)

def scheduledOptions (job : ScheduledPagePublishJobData) : PublishOptions where
  visibility := job.visibility
  password := job.password
  expiresAt := job.expiresAt
  publishedByUserId := some job.userId
  releaseNotes := job.releaseNotes

inductive ScheduledOutcome where
  | targetNotFound
  | alreadyPublished
  | published (receipt : PublishReceipt)

/-- `ScheduledPagePublishService.run`: the policy is not asked again. -/
def runScheduledPublish (platform : Platform) (db : Database) (job : ScheduledPagePublishJobData)
    (now : Date) : Except EditorError (ScheduledOutcome × Database) :=
  match db.landingPages.find? (·.id == job.pageId) with
  | none => return (.targetNotFound, db)
  | some page =>
    if page.organizationId != job.organizationId then return (.targetNotFound, db)
    else if page.status = .published then return (.alreadyPublished, db)
    else do
      let (published, receipt) ← publish platform db job.pageId (scheduledOptions job) now
      return (.published receipt, published)

structure OrgSettingsUpdates where
  landingPagesEnabled : Option Bool := none
  approvalPolicy : Option ApprovalPolicy := none
  requireApprovalToPublish : Option Bool := none
  allowedPublishers : Option (List UserRole) := none
  companyNameReplacements : Option (List (Text × Text)) := none

def upsertOrgSettings (db : Database) (organizationId : RowId)
    (change : OrgSettings → OrgSettings) : Database :=
  if db.orgSettings.any (·.organizationId == organizationId) then
    { db with orgSettings := updateWhere db.orgSettings (·.organizationId == organizationId) change }
  else { db with orgSettings := db.orgSettings ++ [change { organizationId }] }

def updateOrgSettings (db : Database) (organizationId : RowId) (updates : OrgSettingsUpdates) :
    Database :=
  upsertOrgSettings db organizationId fun settings =>
    { settings with
      landingPagesEnabled := updates.landingPagesEnabled.getD settings.landingPagesEnabled
      approvalPolicy := updates.approvalPolicy.getD settings.approvalPolicy
      requireApprovalToPublish :=
        updates.requireApprovalToPublish.getD settings.requireApprovalToPublish
      allowedPublishers := updates.allowedPublishers.getD settings.allowedPublishers
      companyNameReplacements :=
        updates.companyNameReplacements.or settings.companyNameReplacements }

def updateSettingsRoute (db : Database) (caller : Caller) (updates : OrgSettingsUpdates) :
    Except HttpFailure Database := do
  let _ ← requirePermission db .managePermissions caller
  return updateOrgSettings db caller.organizationId updates

def completePermissionsSetup (db : Database) (organizationId : RowId)
    (allowedPublishers : List UserRole) (requireApprovalToPublish : Bool) : Database :=
  upsertOrgSettings db organizationId fun settings =>
    { settings with
      approvalPolicy := if requireApprovalToPublish then .allRequired else .allNoApproval
      allowedPublishers
      requireApprovalToPublish }

end StoryEngine.Approval
