import StoryEngine.Access.Guards
import StoryEngine.Approval.Policy

namespace StoryEngine.Routes

open Data Schema Access Approval Pages Text

/-! # Landing-page routes -/

structure CreatePageBody where
  storyId : RowId
  title : Text
  subtitle : Option Text := none
  heroImageUrl : Option Text := none
  calloutBoxes : Option (List CalloutBox) := none
  includeCompanyName : Bool := false

inductive PageRequest where
  | create (body : CreatePageBody) (random : SlugSuffixes)
  | editData (pageId : RowId)
  | update (pageId : RowId) (body : UpdateLandingPageInput)
  | publish (pageId : RowId) (body : PublishRequestOptions)
  | rollback (pageId versionId : RowId)
  | unpublish (pageId : RowId)
  | archive (pageId : RowId)
  | schedulePublish (pageId : RowId) (body : PublishRequestOptions) (publishAt : Date)

structure EditData where
  pageId : RowId
  title : Text
  subtitle : Text
  editableBody : Text
  status : PageStatus
  visibility : PageVisibility
  includeCompanyName : Bool
  canPublishNamed : Bool
  updatedAt : Date

inductive PageResponse where
  | created (page : LandingPage)
  | editData (data : EditData)
  | updated (updatedAt : Date)
  | published (receipt : PublishReceipt)
  | queuedForApproval (requestId : RowId) (currentStepOrder : Int)
      (approvalPolicy : ApprovalPolicy)
  | rolledBack
  | unpublished
  | archived
  | scheduled (publishAt : Date)

def lengthWithin (low high : Nat) (text : Text) : Bool :=
  decide (low ≤ length16 text) && decide (length16 text ≤ high)

def validUrl (platform : Platform) (url : Text) : Bool := (platform.urlHostname url).isSome

def createBodyValid (platform : Platform) (body : CreatePageBody) : Bool :=
  lengthWithin 1 200 body.title && body.subtitle.all (lengthWithin 0 500) &&
    body.heroImageUrl.all (validUrl platform)

def updateBodyValid (platform : Platform) (body : UpdateLandingPageInput) : Bool :=
  body.title.all (lengthWithin 1 200) && body.subtitle.all (lengthWithin 0 500) &&
    body.heroImageUrl.all (validUrl platform) && body.customCss.all (lengthWithin 0 10000) &&
    body.editSummary.all (lengthWithin 0 500)

def publishBodyValid (body : PublishRequestOptions) : Bool :=
  body.password.all (lengthWithin 4 100) && body.releaseNotes.all (lengthWithin 0 1000)

def unhandled (cause : EditorError) : HttpFailure where
  status := 500
  error := ("internal_server_error" : String)
  cause := some cause

def internalError (message : String) (cause : EditorError) : HttpFailure where
  status := 500
  error := ("internal_error" : String)
  message := some message.toList
  cause := some cause

def publishFailure (message : String) (cause : EditorError) : HttpFailure :=
  match cause with
  | .publishValidation _ =>
    { status := 400
      error := ("publish_validation_failed" : String)
      message := some
        ("Publishing blocked because required content is incomplete. " ++
          "Fix the highlighted fields and retry." : String)
      cause := some cause }
  | .scrubValidation _ =>
    { status := 400
      error := ("scrub_validation_failed" : String)
      message := some
        ("Publishing blocked because anonymization is incomplete. " ++
          "Remove or redact leaked identifiers and retry." : String)
      cause := some cause }
  | _ => internalError message cause

def updateFailure (cause : EditorError) : HttpFailure :=
  match cause with
  | .concurrencyConflict _ _ _ =>
    { status := 409
      error := ("concurrency_conflict" : String)
      message := some
        ("This page has newer changes from another editor. " ++
          "Refresh or resolve the conflict before saving." : String)
      cause := some cause }
  | _ => internalError "Failed to update landing page" cause

def landingPageNotFound (_ : EditorError) : HttpFailure := notFound "Landing page not found"

section

variable (platform : Platform) (db : Database) (caller : Caller) (now : Date)

def clearScheduledPublish (pageId : RowId) : Database :=
  { db with scheduledPublishJobs := deleteWhere db.scheduledPublishJobs (·.pageId == pageId) }

def requireNamedAccess (page : LandingPage) : Except HttpFailure Unit :=
  ensure (!page.includeCompanyName || canAccessNamedStories db caller)
    (forbidden "Your role cannot access named stories.")

def findStoryForOrg (storyId organizationId : RowId) : Option Story :=
  db.stories.find? fun story => story.id == storyId && story.organizationId == organizationId

def createRoute (body : CreatePageBody) (random : SlugSuffixes) :
    Except HttpFailure (PageResponse × Database) := do
  let _ ← requirePermission db .create caller
  let _ ← ensure (createBodyValid platform body) validationError
  let story ← required (findStoryForOrg db body.storyId caller.organizationId)
    (notFound "Story not found")
  let _ ← ensure (canAccessAccount db caller.userId caller.organizationId story.accountId
    caller.userRole) (forbidden "You do not have access to this account.")
  let (next, pageId) ← (create platform db {
    storyId := body.storyId
    organizationId := caller.organizationId
    createdById := caller.userId
    title := body.title
    subtitle := body.subtitle
    heroImageUrl := body.heroImageUrl
    calloutBoxes := body.calloutBoxes
    includeCompanyName := body.includeCompanyName && canGenerateNamedStories db caller }
    random now).mapError unhandled
  let page ← (getForEditing next pageId).mapError unhandled
  return (.created page, next)

def editDataRoute (pageId : RowId) : Except HttpFailure PageResponse := do
  let _ ← requirePageOwnerOrPermission db caller pageId
  let page ← (getForEditing db pageId).mapError landingPageNotFound
  let _ ← requireNamedAccess db caller page
  return .editData {
    pageId := page.id
    title := page.title
    subtitle := page.subtitle.getD []
    editableBody := page.editableBody
    status := page.status
    visibility := page.visibility
    includeCompanyName := page.includeCompanyName
    canPublishNamed := canGenerateNamedStories db caller
    updatedAt := page.updatedAt }

def updateRoute (pageId : RowId) (body : UpdateLandingPageInput) :
    Except HttpFailure (PageResponse × Database) := do
  let _ ← requirePageOwnerOrPermission db caller pageId
  let _ ← ensure (updateBodyValid platform body) validationError
  let page ← (getForEditing db pageId).mapError updateFailure
  let _ ← requireNamedAccess db caller page
  let (next, updatedAt) ← (update db pageId caller.userId body now).mapError updateFailure
  return (.updated updatedAt, next)

def findPendingPublishApproval (organizationId pageId : RowId) : Option ApprovalRequest :=
  db.approvalRequests.find? fun request =>
    request.organizationId == organizationId && request.requestType == .landingPagePublish &&
      request.targetType == .landingPage && request.targetId == pageId &&
      request.status == .pending

def createPublishApprovalRequest (pageId : RowId) (body : PublishRequestOptions) :
    PageResponse × Database :=
  let decision := getOrgApprovalPolicy db caller.organizationId
  let request : ApprovalRequest := {
    id := db.nextId
    organizationId := caller.organizationId
    targetId := pageId
    requestedByUserId := caller.userId
    requestPayload := { options := some body, currentStepOrder := some 1 } }
  (.queuedForApproval request.id 1 decision,
    { db with nextId := db.nextId + 1, approvalRequests := db.approvalRequests ++ [request] })

/-- The options that a request body hands to `publish`. -/
def publishOptions (body : PublishRequestOptions) (publishedByUserId : RowId)
    (approvalRequestId : Option RowId) : PublishOptions where
  visibility := body.visibility
  password := body.password
  expiresAt := body.expiresAt
  publishedByUserId := some publishedByUserId
  approvalRequestId
  releaseNotes := body.releaseNotes

def requireGenerationForMode (page : LandingPage) : Except HttpFailure Unit :=
  if page.includeCompanyName then
    ensure (caller.policy db).canGenerateNamedStories
      (forbidden "Your role cannot generate named stories.")
  else
    ensure (caller.policy db).canGenerateAnonymousStories
      (forbidden "Your role cannot generate anonymous stories.")

def requireExpiryWithin (expiresAt : Option Date) : Except HttpFailure Unit :=
  let governance := getArtifactPublishGovernance db caller.organizationId
  ensure (!expiresTooLate governance expiresAt now)
    (badRequest (maxExpirationMessage governance))

def approvalAlreadyPending (pending : ApprovalRequest) : HttpFailure where
  status := 409
  error := ("approval_already_pending" : String)
  requestId := some pending.id

def publishRoute (pageId : RowId) (body : PublishRequestOptions) :
    Except HttpFailure (PageResponse × Database) := do
  let _ ← requirePermission db .publish caller
  let _ ← ensure (publishBodyValid body) validationError
  let page ← (getForEditing db pageId).mapError (publishFailure "Failed to publish landing page")
  let _ ← requireGenerationForMode db caller page
  let _ ← requireExpiryWithin db caller now body.expiresAt
  if (requiresApproval db caller.organizationId page.includeCompanyName).required then
    match findPendingPublishApproval db caller.organizationId page.id with
    | some pending => .error (approvalAlreadyPending pending)
    | none => return createPublishApprovalRequest db caller page.id body
  else do
    let (published, receipt) ← (publish platform db pageId
      (publishOptions body caller.userId none) now).mapError
        (publishFailure "Failed to publish landing page")
    return (.published receipt, clearScheduledPublish published pageId)

def rollbackRoute (pageId versionId : RowId) : Except HttpFailure (PageResponse × Database) := do
  let _ ← requirePermission db .publish caller
  let next ← (rollbackLandingPageToVersion db pageId versionId caller.userId now).mapError
    unhandled
  return (.rolledBack, next)

def unpublishRoute (pageId : RowId) : Except HttpFailure (PageResponse × Database) := do
  let _ ← requirePageOwnerOrPermission db caller pageId
  let page ← (getForEditing db pageId).mapError unhandled
  let _ ← requireNamedAccess db caller page
  let next ← (unpublish db pageId now).mapError unhandled
  return (.unpublished, clearScheduledPublish next pageId)

def archiveRoute (pageId : RowId) : Except HttpFailure (PageResponse × Database) := do
  let _ ← requirePageOwnerOrPermission db caller pageId
  let page ← (getForEditing db pageId).mapError unhandled
  let _ ← requireNamedAccess db caller page
  let next ← (archive db pageId now).mapError unhandled
  return (.archived, clearScheduledPublish next pageId)

def schedulePublishRoute (pageId : RowId) (body : PublishRequestOptions) (publishAt : Date) :
    Except HttpFailure (PageResponse × Database) := do
  let _ ← requirePermission db .publish caller
  let _ ← requirePageOwnerOrPermission db caller pageId
  let _ ← ensure (publishBodyValid body) validationError
  let page ← (getForEditing db pageId).mapError unhandled
  let _ ← ensure (!page.includeCompanyName || canGenerateNamedStories db caller)
    (forbidden "Your role cannot generate named stories.")
  let _ ← ensure (!(requiresApproval db caller.organizationId page.includeCompanyName).required)
    (conflict
      "Scheduled publish is unavailable when the current approval policy requires approval.")
  let _ ← ensure (decide (now + 15000 ≤ publishAt))
    (badRequest ("Choose a publish time at least 15 seconds in the future." : String))
  let cleared := clearScheduledPublish db page.id
  return (.scheduled publishAt, { cleared with
    scheduledPublishJobs := cleared.scheduledPublishJobs ++ [{
      pageId := page.id
      organizationId := caller.organizationId
      userId := caller.userId
      publishAt
      visibility := body.visibility
      password := body.password
      expiresAt := body.expiresAt
      releaseNotes := body.releaseNotes }] })

def handle (request : PageRequest) : Except HttpFailure (PageResponse × Database) := do
  let _ ← requireLandingPagesEnabled db caller
  match request with
  | .create body random => createRoute platform db caller now body random
  | .editData pageId => return (← editDataRoute db caller pageId, db)
  | .update pageId body => updateRoute platform db caller now pageId body
  | .publish pageId body => publishRoute platform db caller now pageId body
  | .rollback pageId versionId => rollbackRoute db caller now pageId versionId
  | .unpublish pageId => unpublishRoute db caller now pageId
  | .archive pageId => archiveRoute db caller now pageId
  | .schedulePublish pageId body publishAt =>
    schedulePublishRoute db caller now pageId body publishAt

end

end StoryEngine.Routes
