import StoryEngine.Access.Roles

namespace StoryEngine.Approval

open Schema

/-! # Publish-approval policy -/

def resolveApprovalPolicyFromSettings (approvalPolicy : Option ApprovalPolicy)
    (requireApprovalToPublish : Option Bool) : ApprovalPolicy :=
  match approvalPolicy with
  | some policy => policy
  | none => if requireApprovalToPublish = some true then .allRequired else .allNoApproval

def requiresPublishApproval (approvalPolicy : ApprovalPolicy) (isNamedStory : Bool) : Bool :=
  match approvalPolicy with
  | .allRequired => true
  | .allNoApproval => false
  | .anonNoApproval => isNamedStory
  | .namedNoApproval => !isNamedStory

def getOrgApprovalPolicy (db : Database) (organizationId : RowId) : ApprovalPolicy :=
  let settings := db.orgSettings.find? (·.organizationId == organizationId)
  resolveApprovalPolicyFromSettings (settings.map (·.approvalPolicy))
    (settings.map (·.requireApprovalToPublish))

structure ApprovalDecision where
  approvalPolicy : ApprovalPolicy
  required : Bool

def requiresApproval (db : Database) (organizationId : RowId) (isNamedStory : Bool) :
    ApprovalDecision :=
  let approvalPolicy := getOrgApprovalPolicy db organizationId
  { approvalPolicy, required := requiresPublishApproval approvalPolicy isNamedStory }

/-- The part of the governance policy that the publish routes read. -/
structure ArtifactPublishGovernance where
  approvalChainEnabled : Bool
  maxExpirationDays : Option Nat
  requireProvenance : Bool
  steps : List PublishApprovalStep

def approvalStep (step : ArtifactApprovalStep) : PublishApprovalStep where
  stepOrder := step.stepOrder
  minApprovals := step.minApprovals
  requiredRoleProfileKey := step.requiredRoleProfileKey
  requiredUserRole := step.requiredUserRole
  approverScopeType := step.approverScopeType
  approverScopeValue := step.approverScopeValue
  allowSelfApproval := step.allowSelfApproval

def getArtifactPublishGovernance (db : Database) (organizationId : RowId) :
    ArtifactPublishGovernance :=
  match db.artifactGovernancePolicies.find? (·.organizationId == organizationId) with
  | none =>
    { approvalChainEnabled := false, maxExpirationDays := none, requireProvenance := true,
      steps := [] }
  | some policy =>
    let enabled := db.artifactApprovalSteps.filter fun step =>
      step.organizationId == organizationId && step.enabled
    { approvalChainEnabled := policy.approvalChainEnabled
      maxExpirationDays := policy.maxExpirationDays
      requireProvenance := policy.requireProvenance
      steps := (enabled.mergeSort fun first second =>
        decide (first.stepOrder ≤ second.stepOrder)).map approvalStep }

def millisecondsPerDay : Nat := 24 * 60 * 60 * 1000

/-- Whether an expiry lies beyond the governed number of days; zero days and no
limit are the same. -/
def expiresTooLate (governance : ArtifactPublishGovernance) (expiresAt : Option Date)
    (now : Date) : Bool :=
  expiresAt.any fun expiry => governance.maxExpirationDays.any fun days =>
    days != 0 && decide (now + days * millisecondsPerDay < expiry)

def maxExpirationMessage (governance : ArtifactPublishGovernance) : Text :=
  ("Max expiration is " : String).toList ++
    Nat.toDigits 10 (governance.maxExpirationDays.getD 0) ++
    (" days from publish date." : String).toList

def roleProfileKey (db : Database) (caller : Access.Caller) : Option Text :=
  (Access.assignedProfile db caller.userId).bind fun profile =>
    if profile.organizationId = caller.organizationId then some profile.key else none

def nonempty (value : Option Text) : Option Text := value.filter fun text => !text.isEmpty

def inApprovalGroup (db : Database) (caller : Access.Caller) (group : Text) : Bool :=
  db.approvalGroupMembers.any fun member =>
    member.organizationId == caller.organizationId && RowId.text member.groupId == group &&
      member.userId == caller.userId

def inTeamScope (db : Database) (caller : Access.Caller) (team : Text) : Bool :=
  db.teamApprovalAdminScopes.any fun scope =>
    scope.organizationId == caller.organizationId && scope.userId == caller.userId &&
      scope.teamKey == team

def scopeAllows (db : Database) (caller : Access.Caller) (step : PublishApprovalStep)
    (requestedByUserId : RowId) : Bool :=
  let key := roleProfileKey db caller
  match step.approverScopeType, nonempty step.approverScopeValue with
  | .self, _ => requestedByUserId == caller.userId
  | .user, some value => RowId.text caller.userId == value
  | .group, some value => inApprovalGroup db caller value
  | .team, some value =>
    if key = some ("TEAM_APPROVAL_ADMIN" : String).toList then inTeamScope db caller value
    else key == some value
  | .user, none | .group, none | .team, none => false
  | .roleProfile, none => key.isSome
  | .roleProfile, some value => key == some value

def canUserApproveStep (db : Database) (caller : Access.Caller) (step : PublishApprovalStep)
    (requestedByUserId : RowId) : Bool :=
  let key := roleProfileKey db caller
  -- The routes hand over `MEMBER` for a session without a role.
  let userRole := caller.userRole.getD .member
  if step.requiredUserRole.any (· != userRole) then false
  else if key = some ("BILLING_ADMIN" : String).toList ∨
      key = some ("APPROVAL_ADMIN" : String).toList then true
  else if (nonempty step.requiredRoleProfileKey).any fun required => key != some required then false
  else if !step.allowSelfApproval && requestedByUserId == caller.userId then false
  else scopeAllows db caller step requestedByUserId

end StoryEngine.Approval
