import StoryEngine.Schema.Json

namespace StoryEngine.Schema

/-! # Rows of the Prisma schema

One structure for each model, with the columns that the services read or
write.  Identifiers are opaque `cuid()`s, dates are milliseconds, and enum-like
string columns are enumerations. -/

abbrev RowId := Nat

abbrev Date := Nat

inductive UserRole where
  | owner
  | admin
  | member
  | viewer
deriving DecidableEq

inductive PermissionType where
  | createLandingPage
  | publishLandingPage
  | publishNamedLandingPage
  | approvePublishRequests
  | viewRawTranscripts
  | editAnyLandingPage
  | deleteAnyLandingPage
  | managePermissions
  | viewAnalytics
  | manageEntityResolution
  | manageAiSettings
deriving DecidableEq

inductive ApprovalPolicy where
  | allRequired
  | anonNoApproval
  | namedNoApproval
  | allNoApproval
deriving DecidableEq

structure PublishedBrandingSettings where
  brandName : Option Text := none
  logoUrl : Option Text := none
  primaryColor : Option Text := none
  accentColor : Option Text := none
  surfaceColor : Option Text := none
deriving DecidableEq

inductive TruncationMode where
  | oldestFirst
  | newestFirst
deriving DecidableEq

inductive StoryLength where
  | short
  | medium
  | long
  | executive
deriving DecidableEq

inductive StoryOutline where
  | chronologicalJourney
  | problemSolutionImpact
  | byTheNumbers
  | executiveBrief
  | implementationPlaybook
  | dealAnatomy
deriving DecidableEq

inductive StoryFormat where
  | beforeAfterTransformation
  | dayInTheLife
  | byTheNumbersSnapshot
  | videoTestimonialSoundbite
  | jointWebinarPresentation
  | peerReferenceCallGuide
  | analystValidatedStudy
deriving DecidableEq

inductive StoryType where
  | fullAccountJourney
  | topic (topic : Text)
deriving DecidableEq

/-- The instructions of an organization; a list that is absent is empty. -/
structure StoryContextSettings where
  companyOverview : Option Text := none
  products : List Text := []
  targetPersonas : List Text := []
  targetIndustries : List Text := []
  differentiators : List Text := []
  proofPoints : List Text := []
  bannedClaims : List Text := []
  writingStyleGuide : Option Text := none
  approvedTerminology : List Text := []
deriving DecidableEq

structure StoryPromptDefaults where
  storyLength : Option StoryLength := none
  storyOutline : Option StoryOutline := none
  storyFormat : Option StoryFormat := none
  storyType : Option StoryType := none
deriving DecidableEq

structure OrgSettings where
  organizationId : RowId
  landingPagesEnabled : Bool := true
  approvalPolicy : ApprovalPolicy := .allNoApproval
  requireApprovalToPublish : Bool := false
  allowedPublishers : List UserRole := [.owner, .admin]
  /-- `Object.entries` of the stored mapping; `none` is a null column. -/
  companyNameReplacements : Option (List (Text × Text)) := none
  anonymizationEnabled : Bool := true
  /-- `storyContext.publishedBranding`. -/
  publishedBranding : Option PublishedBrandingSettings := none
  dataGovernancePolicy : Json := .null
  transcriptMergeMaxWords : Int := 600000
  transcriptTruncationMode : TruncationMode := .oldestFirst
  storyContext : StoryContextSettings := {}
  storyPromptDefaults : StoryPromptDefaults := {}
deriving DecidableEq

inductive AccountScopeType where
  | allAccounts
  | singleAccount
  | accountList
  | crmReport
deriving DecidableEq

/-- The limits that a role profile sets for the use of AI; null is none. -/
structure UsageLimits where
  maxTokensPerDay : Option Nat := none
  maxTokensPerMonth : Option Nat := none
  maxRequestsPerDay : Option Nat := none
  maxRequestsPerMonth : Option Nat := none
  maxStoriesPerMonth : Option Nat := none
deriving DecidableEq

structure RoleProfile where
  id : RowId
  organizationId : RowId
  key : Text
  permissions : List PermissionType := []
  canAccessAnonymousStories : Bool := true
  canGenerateAnonymousStories : Bool := true
  canAccessNamedStories : Bool := false
  canGenerateNamedStories : Bool := false
  defaultAccountScopeType : AccountScopeType := .accountList
  defaultAccountIds : List RowId := []
  limits : UsageLimits := {}
deriving DecidableEq

/-- The default of the organization when there is no user. -/
structure AiUsageLimit where
  organizationId : RowId
  userId : Option RowId := none
  limits : UsageLimits := {}
  maxTokensPerWeek : Option Nat := none
  maxRequestsPerWeek : Option Nat := none
  maxStoriesPerWeek : Option Nat := none
  warningThresholdPct : Nat := 80
deriving DecidableEq

structure User where
  id : RowId
  organizationId : RowId
  role : UserRole
  email : Text := []
  name : Option Text := none
deriving DecidableEq

structure UserRoleAssignment where
  userId : RowId
  roleProfileId : RowId
  assignedById : Option RowId := none
deriving DecidableEq

structure UserPermission where
  userId : RowId
  permission : PermissionType
  grantedById : Option RowId := none
deriving DecidableEq

structure Account where
  id : RowId
  organizationId : RowId
  name : Text
  normalizedName : Text
  domain : Option Text := none
  salesforceId : Option Text := none
  hubspotId : Option Text := none
  mergeAccountId : Option Text := none
  industry : Option Text := none
  employeeCount : Option Int := none
  annualRevenue : Option Int := none
deriving DecidableEq

structure AccountDomain where
  id : RowId
  accountId : RowId
  domain : Text
deriving DecidableEq

structure Contact where
  id : RowId
  accountId : RowId
  email : Text
  emailDomain : Text := []
  name : Option Text := none
  title : Option Text := none
  phone : Option Text := none
  salesforceId : Option Text := none
deriving DecidableEq

inductive CallProvider where
  | gong
  | grain
  | chorus
  | zoom
  | googleMeet
  | teams
  | fireflies
  | dialpad
  | aircall
  | ringcentral
  | salesloft
  | outreach
  | other
deriving DecidableEq

inductive MatchMethod where
  | none
  | emailDomain
  | fuzzyName
  | manual
deriving DecidableEq

structure Call where
  id : RowId
  organizationId : RowId
  accountId : Option RowId := none
  title : Option Text := none
  provider : CallProvider := .other
  mergeRecordingId : Option Text := none
  externalId : Option Text := none
  recordingUrl : Option Text := none
  duration : Option Nat := none
  occurredAt : Date := 0
  matchMethod : MatchMethod := .none
  /-- Hundredths. -/
  matchConfidence : Nat := 0
  dismissedAt : Option Date := none
  createdAt : Date := 0
deriving DecidableEq

structure CallParticipant where
  id : RowId
  callId : RowId
  contactId : Option RowId := none
  email : Option Text := none
  name : Option Text := none
  isHost : Bool := false
deriving DecidableEq

structure Transcript where
  callId : RowId
  fullText : Text
  wordCount : Nat
deriving DecidableEq

structure SalesforceEvent where
  id : RowId
  accountId : RowId
  stageName : Option Text := none
  opportunityId : Option Text := none
deriving DecidableEq

/-- The column of a story, which is coarser than the type its prompt asks for. -/
inductive StoredStoryType where
  | fullJourney
  | onboarding
  | roiAnalysis
  | competitiveWin
  | expansion
  | custom
deriving DecidableEq

structure Story where
  id : RowId
  organizationId : RowId
  accountId : RowId
  markdownBody : Text := []
  storyType : StoredStoryType := .fullJourney
  publishedAt : Option Date := none
  generatedAt : Date := 0
deriving DecidableEq

structure HighValueQuote where
  id : RowId
  storyId : RowId
  quoteText : Text
  metricType : Option Text := none
  metricValue : Option Text := none
deriving DecidableEq

structure Quote where
  id : RowId
  organizationId : RowId
  accountId : RowId
  storyId : Option RowId := none
  callId : RowId
deriving DecidableEq

structure StoryRegenLog where
  id : RowId
  organizationId : RowId
  accountId : RowId
  previousStoryId : Option RowId := none
  newStoryId : RowId := 0
  callsProcessed : Nat := 0
deriving DecidableEq

inductive CrmProvider where
  | salesforce
  | hubspot
deriving DecidableEq

structure UserAccountAccess where
  id : RowId
  userId : RowId
  organizationId : RowId
  scopeType : AccountScopeType
  accountId : Option RowId := none
  crmReportId : Option Text := none
  crmProvider : Option CrmProvider := none
  crmReportName : Option Text := none
  cachedAccountIds : List RowId := []
  lastSyncedAt : Option Date := none
  grantedById : Option RowId := none
deriving DecidableEq

inductive MergeRunStatus where
  | completed
  | undone
deriving DecidableEq

/-- What `undoMerge` reads back from `mergePreview.secondary`. -/
structure AccountSnapshot where
  id : RowId
  name : Text
  domain : Option Text
  industry : Option Text
  employeeCount : Option Int
  annualRevenue : Option Int
deriving DecidableEq

structure AccountMergeRun where
  id : RowId
  organizationId : RowId
  primaryAccountId : RowId
  secondaryAccountId : RowId
  status : MergeRunStatus := .completed
  secondarySnapshot : AccountSnapshot
  movedContactIds : List RowId := []
  movedCallIds : List RowId := []
  movedStoryIds : List RowId := []
  movedLandingPageIds : List RowId := []
  initiatedByUserId : Option RowId := none
  undoneByUserId : Option RowId := none
  undoneAt : Option Date := none
  notes : Option Text := none
deriving DecidableEq

inductive PageVisibility where
  | privateAccess
  | sharedWithLink
deriving DecidableEq

inductive PageStatus where
  | draft
  | published
  | archived
deriving DecidableEq

inductive CalloutIcon where
  | metric
  | quote
  | insight
  | timeline
  | warning
  | success
deriving DecidableEq

structure CalloutBox where
  title : Text
  body : Text
  icon : Option CalloutIcon := none
deriving DecidableEq

structure LandingPage where
  id : RowId
  organizationId : RowId
  storyId : RowId
  createdById : RowId
  slug : Text
  title : Text
  subtitle : Option Text := none
  editableBody : Text
  scrubbedBody : Text := []
  scrubbedTitle : Option Text := none
  scrubbedSubtitle : Option Text := none
  heroImageUrl : Option Text := none
  /-- A JSON column: null or the array that `encodeJsonValue` stored. -/
  calloutBoxes : Option (List CalloutBox) := none
  scrubbedCalloutBoxes : Option (List CalloutBox) := none
  /-- Tenths of an hour. -/
  totalCallHours : Nat := 0
  visibility : PageVisibility := .privateAccess
  status : PageStatus := .draft
  password : Option Text := none
  includeCompanyName : Bool := false
  noIndex : Bool := true
  customCss : Option Text := none
  viewCount : Nat := 0
  publishedAt : Option Date := none
  expiresAt : Option Date := none
  createdAt : Date := 0
  updatedAt : Date := 0
deriving DecidableEq

structure LandingPageEdit where
  id : RowId
  landingPageId : RowId
  editedById : RowId
  previousBody : Text
  newBody : Text
  editSummary : Option Text := none
deriving DecidableEq

inductive VersionStatus where
  | active
  | superseded
  | rolledBack
deriving DecidableEq

structure PublishedArtifactVersion where
  id : RowId
  organizationId : RowId
  landingPageId : RowId
  versionNumber : Nat
  status : VersionStatus := .active
  releaseNotes : Option Text := none
  titleSnapshot : Text
  subtitleSnapshot : Option Text := none
  bodySnapshot : Text
  calloutBoxesSnapshot : Option (List CalloutBox) := none
  visibilitySnapshot : PageVisibility
  expiresAtSnapshot : Option Date := none
  publishedAtSnapshot : Option Date := none
  sourceEditId : Option RowId := none
  publishedByUserId : Option RowId := none
  approvalRequestId : Option RowId := none
  rolledBackFromVersionId : Option RowId := none
deriving DecidableEq

inductive NotificationType where
  | storyCompleted
  | callProcessed
  | callProcessingFailed
  | trialExpiring
  | trialExpired
  | pagePublished
  | pageNeedsApproval
  | exportReady
  | systemAlert

structure Notification where
  id : RowId
  organizationId : RowId
  userId : Option RowId := none
  type : NotificationType
  title : Text
  body : Text
  metadata : Option Json := none
  read : Bool := false
  createdAt : Date := 0

end StoryEngine.Schema
