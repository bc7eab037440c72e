import StoryEngine.Schema.Rows

namespace StoryEngine.Schema

/-! # Rows of the publish-approval workflow -/

def RowId.text (id : RowId) : Text := Nat.toDigits 10 id

inductive ApproverScopeType where
  | roleProfile
  | team
  | user
  | group
  | self
deriving DecidableEq

structure PublishApprovalStep where
  stepOrder : Int
  minApprovals : Int
  requiredRoleProfileKey : Option Text := none
  requiredUserRole : Option UserRole := none
  approverScopeType : ApproverScopeType := .roleProfile
  approverScopeValue : Option Text := none
  allowSelfApproval : Bool := false
deriving DecidableEq

structure StepApproval where
  stepOrder : Int
  reviewerUserId : RowId
  decidedAt : Date
  notes : Option Text := none
deriving DecidableEq

structure PublishRequestOptions where
  visibility : PageVisibility
  password : Option Text := none
  expiresAt : Option Date := none
  releaseNotes : Option Text := none
deriving DecidableEq

/-- A request payload; every field may be absent from the stored JSON. -/
structure PublishApprovalPayload where
  options : Option PublishRequestOptions := none
  steps : List PublishApprovalStep := []
  approvals : List StepApproval := []
  currentStepOrder : Option Int := none
deriving DecidableEq

inductive ApprovalRequestType where
  | landingPagePublish
  | storyPublish
  | accountMerge
deriving DecidableEq

inductive ApprovalTargetType where
  | landingPage
  | story
  | account
deriving DecidableEq

inductive ApprovalStatus where
  | pending
  | approved
  | rejected
deriving DecidableEq

structure ApprovalRequest where
  id : RowId
  organizationId : RowId
  requestType : ApprovalRequestType := .landingPagePublish
  targetType : ApprovalTargetType := .landingPage
  targetId : RowId
  requestedByUserId : RowId
  reviewerUserId : Option RowId := none
  status : ApprovalStatus := .pending
  requestPayload : PublishApprovalPayload := {}
  reviewNotes : Option Text := none
  reviewedAt : Option Date := none
deriving DecidableEq

inductive MergeConflictType where
  | accountExternalIdCollision
  | contactEmailCollision
deriving DecidableEq

structure MergeConflictPayload where
  conflictType : MergeConflictType
  existingId : RowId
  /-- The account of the existing contact. -/
  existingAccountId : Option RowId := none
  existingSalesforceId : Option Text := none
  incomingAccountId : Option RowId := none
  incomingExternalId : Text
  incomingName : Option Text := none
  incomingDomain : Option Text := none
  email : Option Text := none
deriving DecidableEq

inductive MergeConflictTarget where
  | account
  | contact
deriving DecidableEq

/-- An approval request of the type `DATA_MERGE_CONFLICT`. -/
structure MergeConflictRequest where
  id : RowId
  organizationId : RowId
  targetType : MergeConflictTarget
  targetId : RowId
  requestedByUserId : RowId
  status : ApprovalStatus := .pending
  requestPayload : MergeConflictPayload
deriving DecidableEq

structure ArtifactApprovalStep where
  organizationId : RowId
  stepOrder : Int
  minApprovals : Int := 1
  requiredRoleProfileKey : Option Text := none
  requiredUserRole : Option UserRole := none
  approverScopeType : ApproverScopeType := .roleProfile
  approverScopeValue : Option Text := none
  allowSelfApproval : Bool := false
  enabled : Bool := true
deriving DecidableEq

structure ArtifactGovernancePolicy where
  organizationId : RowId
  approvalChainEnabled : Bool := false
  maxExpirationDays : Option Nat := none
  requireProvenance : Bool := true
deriving DecidableEq

structure ApprovalGroupMember where
  organizationId : RowId
  groupId : RowId
  userId : RowId
deriving DecidableEq

structure TeamApprovalAdminScope where
  organizationId : RowId
  userId : RowId
  teamKey : Text
deriving DecidableEq

/-- The payload of a `process-call` job. -/
structure ProcessCallJob where
  callId : RowId
  organizationId : RowId
  accountId : Option RowId := none
  hasTranscript : Bool
deriving DecidableEq

/-- The payload of a delayed `scheduled-page-publish` job. -/
structure ScheduledPagePublishJobData where
  pageId : RowId
  organizationId : RowId
  userId : RowId
  publishAt : Date
  visibility : PageVisibility
  password : Option Text := none
  expiresAt : Option Date := none
  releaseNotes : Option Text := none
deriving DecidableEq

/-- The tables, the id supply, and the jobs of the queues. -/
structure Database where
  nextId : RowId := 1
  orgSettings : List OrgSettings := []
  roleProfiles : List RoleProfile := []
  userRoleAssignments : List UserRoleAssignment := []
  userPermissions : List UserPermission := []
  aiUsageLimits : List AiUsageLimit := []
  accounts : List Account := []
  accountDomains : List AccountDomain := []
  contacts : List Contact := []
  calls : List Call := []
  callParticipants : List CallParticipant := []
  salesforceEvents : List SalesforceEvent := []
  stories : List Story := []
  highValueQuotes : List HighValueQuote := []
  quotes : List Quote := []
  storyRegenLogs : List StoryRegenLog := []
  userAccountAccess : List UserAccountAccess := []
  accountMergeRuns : List AccountMergeRun := []
  landingPages : List LandingPage := []
  landingPageEdits : List LandingPageEdit := []
  publishedArtifactVersions : List PublishedArtifactVersion := []
  approvalRequests : List ApprovalRequest := []
  artifactGovernancePolicies : List ArtifactGovernancePolicy := []
  artifactApprovalSteps : List ArtifactApprovalStep := []
  approvalGroupMembers : List ApprovalGroupMember := []
  teamApprovalAdminScopes : List TeamApprovalAdminScope := []
  scheduledPublishJobs : List ScheduledPagePublishJobData := []
  users : List User := []
  transcripts : List Transcript := []
  mergeConflictRequests : List MergeConflictRequest := []
  processCallJobs : List ProcessCallJob := []
deriving DecidableEq

end StoryEngine.Schema
