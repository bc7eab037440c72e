import StoryEngine.Data.Interleaving
import StoryEngine.Governance.Policy
import StoryEngine.Pages.StoryDates

namespace StoryEngine.Governance

open Access Approval Data Pages Routes Schema

/-! # Deletions

The paths that delete calls, stories and landing pages.  Each is a process that does one
database statement, or one transaction, at a turn.  The guards of the routes are left out, as
they read no policy, and so is the vector index, which is pruned before the rows go.
-/

def deleteCalls (db : Database) (selects : Call → Bool) : Database :=
  let gone := fun callId => db.calls.any fun call => call.id == callId && selects call
  { db with
    calls := deleteWhere db.calls selects
    callParticipants := deleteWhere db.callParticipants fun row => gone row.callId
    transcripts := deleteWhere db.transcripts fun row => gone row.callId
    quotes := deleteWhere db.quotes fun row => gone row.callId }

def deleteStories (db : Database) (selects : Story → Bool) : Database :=
  let gone := fun storyId => db.stories.any fun story => story.id == storyId && selects story
  { db with
    stories := deleteWhere db.stories selects
    highValueQuotes := deleteWhere db.highValueQuotes fun row => gone row.storyId
    quotes := updateWhere db.quotes (·.storyId.any gone) fun row => { row with storyId := none } }

def deleteLandingPages (db : Database) (selects : LandingPage → Bool) : Database :=
  let gone := fun pageId => db.landingPages.any fun page => page.id == pageId && selects page
  { db with
    landingPages := deleteWhere db.landingPages selects
    landingPageEdits := deleteWhere db.landingPageEdits fun row => gone row.landingPageId
    publishedArtifactVersions :=
      deleteWhere db.publishedArtifactVersions fun row => gone row.landingPageId }

def pageCount (db : Database) (storyId : RowId) : Nat :=
  (db.landingPages.filter (·.storyId == storyId)).length

inductive DeletionTargetType where
  | call
  | story
  | landingPage

inductive DeletionStatus where
  | pending
  | rejected
  | completed
deriving DecidableEq

/-- An approval request of the type `DATA_DELETION`. -/
structure DeletionRequest where
  id : RowId
  organizationId : RowId
  targetType : DeletionTargetType
  targetId : RowId
  requestedByUserId : RowId
  status : DeletionStatus := .pending
  reason : Option Text := none
  reviewerUserId : Option RowId := none
  reviewNotes : Option Text := none
  reviewedAt : Option Date := none

structure GovernanceState where
  db : Database := {}
  deletionRequests : List DeletionRequest := []
  clock : Date := 0

def deleteGovernedTarget (db : Database) (organizationId : RowId) (targetType : DeletionTargetType)
    (targetId : RowId) : Database :=
  match targetType with
  | .call =>
    deleteCalls db fun call => call.id == targetId && call.organizationId == organizationId
  | .story =>
    deleteStories db fun story =>
      story.id == targetId && story.organizationId == organizationId &&
        pageCount db story.id == 0
  | .landingPage =>
    deleteLandingPages db fun page =>
      page.id == targetId && page.organizationId == organizationId

structure DeletionInput where
  organizationId : RowId
  userId : RowId
  targetType : DeletionTargetType
  targetId : RowId
  reason : Option Text := none

inductive ReviewDecision where
  | approve
  | reject
deriving DecidableEq

structure ReviewInput where
  organizationId : RowId
  userId : RowId
  requestId : RowId
  decision : ReviewDecision
  reviewNotes : Option Text := none

def createDeletionRequest (state : GovernanceState) (input : DeletionInput) : GovernanceState :=
  { state with
    db := { state.db with nextId := state.db.nextId + 1 }
    deletionRequests := state.deletionRequests ++ [{
      id := state.db.nextId
      organizationId := input.organizationId
      targetType := input.targetType
      targetId := input.targetId
      requestedByUserId := input.userId
      reason := input.reason }] }

def findDeletionRequest (state : GovernanceState) (requestId organizationId : RowId) :
    Option DeletionRequest :=
  state.deletionRequests.find? fun request =>
    request.id == requestId && request.organizationId == organizationId

def reviewed (state : GovernanceState) (input : ReviewInput) (status : DeletionStatus) :
    GovernanceState :=
  { state with
    deletionRequests := updateWhere state.deletionRequests (·.id == input.requestId) fun request =>
      { request with
        status
        reviewerUserId := some input.userId
        reviewNotes := input.reviewNotes
        reviewedAt := some state.clock } }

def normalizeRetentionDays : Option Int → Int
  | none => 365
  | some days => max 30 (min 3650 days)

def retentionCutoff (policy : DataGovernancePolicy) (now : Date) : Date :=
  now - (normalizeRetentionDays (policy.retentionDays.map (·.1))).toNat * 86400000

def deleteExpired (db : Database) (organizationId : RowId) (cutoff : Date) : Database :=
  let pages := deleteLandingPages db fun page =>
    page.organizationId == organizationId && decide (page.createdAt < cutoff) &&
      (page.status == .draft || page.status == .archived)
  let stories := deleteStories pages fun story =>
    story.organizationId == organizationId && decide (story.generatedAt < cutoff) &&
      pageCount pages story.id == 0
  deleteCalls stories fun call =>
    call.organizationId == organizationId && decide (call.occurredAt < cutoff)

inductive DeletionAnswer where
  | legalHoldActive
  | validationError
  | queuedForApproval
  | deleted
  | rejected
  | completed
  | notFound
  | noLongerPending
  | forbidden
  | hasLandingPages
  | failed
  | swept

/-- Where a request, a sweep or a change of the policy stands: what it does next. -/
inductive GovernanceProcess where
  | passTime (span : Nat)
  /-- An upsert of the policy column, by the route of the policy or of another feature. -/
  | setPolicy (organizationId : RowId) (value : Json)
  | requestDeletion (input : DeletionInput)
  | queueDeletion (input : DeletionInput)
  | deleteTarget (organizationId : RowId) (targetType : DeletionTargetType) (targetId : RowId)
      (review : Option ReviewInput)
  | reviewDeletion (input : ReviewInput)
  | rejectDeletion (input : ReviewInput)
  | completeDeletion (input : ReviewInput)
  | deleteStory (caller : Caller) (storyId : RowId)
  | authorizeStory (caller : Caller) (story : Story) (landingPages : Nat)
  | removeStory (organizationId storyId : RowId)
  | deletePage (organizationId pageId : RowId)
  | checkPageHold (organizationId pageId : RowId)
  | removePage (organizationId pageId : RowId)
  | startSweep
  | sweepOrganizations (organizationIds : List RowId)
  | sweepExpired (organizationId : RowId) (cutoff : Date) (organizationIds : List RowId)
  | answered (answer : DeletionAnswer)

open GovernanceProcess

/-- The body's `reason` is optional, of 3 to 1000 characters. -/
def requestDeletionStep (state : GovernanceState) (input : DeletionInput) : GovernanceProcess :=
  let policy := getDataGovernancePolicy state.db input.organizationId
  if !input.reason.all (lengthWithin 3 1000) then answered .validationError
  else if policy.legalHoldEnabled == some true then answered .legalHoldActive
  else if policy.deletionRequiresApproval != some false then queueDeletion input
  else deleteTarget input.organizationId input.targetType input.targetId none

def reviewDeletionStep (state : GovernanceState) (input : ReviewInput) : GovernanceProcess :=
  if !input.reviewNotes.all (lengthWithin 0 1000) then answered .validationError
  else
    match findDeletionRequest state input.requestId input.organizationId with
    | none => answered .notFound
    | some request =>
      if request.status ≠ .pending then answered .noLongerPending
      else
        match input.decision with
        | .reject => rejectDeletion input
        | .approve =>
          deleteTarget input.organizationId request.targetType request.targetId (some input)

def deleteStoryStep (db : Database) (caller : Caller) (storyId : RowId) : GovernanceProcess :=
  if !(caller.policy db).canGenerateAnonymousStories then answered .forbidden
  else
    match db.stories.find? fun story =>
        story.id == storyId && story.organizationId == caller.organizationId with
    | none => answered .notFound
    | some story => authorizeStory caller story (pageCount db story.id)

def authorizeStoryStep (db : Database) (caller : Caller) (story : Story) (landingPages : Nat) :
    GovernanceProcess :=
  if !canAccessAccount db caller.userId caller.organizationId story.accountId caller.userRole then
    answered .forbidden
  else if landingPages > 0 then answered .hasLandingPages
  else removeStory caller.organizationId story.id

def removeStoryStep (db : Database) (storyId : RowId) : Database × GovernanceProcess :=
  if db.stories.any (·.id == storyId) && pageCount db storyId == 0 then
    (deleteStories db (·.id == storyId), answered .deleted)
  else (db, answered .failed)

def removePageStep (db : Database) (pageId : RowId) : Database × GovernanceProcess :=
  match deleteLandingPage db pageId with
  | .ok next => (next, answered .deleted)
  | .error _ => (db, answered .failed)

def sweepStep (state : GovernanceState) : List RowId → GovernanceProcess
  | [] => answered .swept
  | organizationId :: rest =>
    let policy := getDataGovernancePolicy state.db organizationId
    if policy.legalHoldEnabled == some true then sweepOrganizations rest
    else sweepExpired organizationId (retentionCutoff policy state.clock) rest

def advance (state : GovernanceState) : GovernanceProcess → GovernanceState × GovernanceProcess
  | passTime span => ({ state with clock := state.clock + span }, answered .completed)
  | setPolicy organizationId value =>
    ({ state with db := setPolicyColumn state.db organizationId value }, answered .completed)
  | requestDeletion input => (state, requestDeletionStep state input)
  | queueDeletion input => (createDeletionRequest state input, answered .queuedForApproval)
  | deleteTarget organizationId targetType targetId review =>
    ({ state with db := deleteGovernedTarget state.db organizationId targetType targetId },
      match review with
      | none => answered .deleted
      | some input => completeDeletion input)
  | reviewDeletion input => (state, reviewDeletionStep state input)
  | rejectDeletion input => (reviewed state input .rejected, answered .rejected)
  | completeDeletion input => (reviewed state input .completed, answered .completed)
  | deleteStory caller storyId => (state, deleteStoryStep state.db caller storyId)
  | authorizeStory caller story landingPages =>
    (state, authorizeStoryStep state.db caller story landingPages)
  | removeStory _ storyId =>
    ({ state with db := (removeStoryStep state.db storyId).1 },
      (removeStoryStep state.db storyId).2)
  | deletePage organizationId pageId =>
    (state, if (findPageForOrg state.db pageId organizationId).isSome then
        checkPageHold organizationId pageId
      else answered .notFound)
  | checkPageHold organizationId pageId =>
    (state, if isLegalHoldEnabled state.db organizationId then answered .legalHoldActive
      else removePage organizationId pageId)
  | removePage _ pageId =>
    ({ state with db := (removePageStep state.db pageId).1 }, (removePageStep state.db pageId).2)
  | startSweep => (state, sweepOrganizations (state.db.orgSettings.map (·.organizationId)))
  | sweepOrganizations organizationIds => (state, sweepStep state organizationIds)
  | sweepExpired organizationId cutoff rest =>
    ({ state with db := deleteExpired state.db organizationId cutoff }, sweepOrganizations rest)
  | answered answer => (state, answered answer)

abbrev GovernanceSystem := Interleaved GovernanceState GovernanceProcess

end StoryEngine.Governance
