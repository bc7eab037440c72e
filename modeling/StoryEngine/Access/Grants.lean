import StoryEngine.Access.Guards

namespace StoryEngine.Access

open Data Schema

/-! # Granting access

The routes by which a user who may manage permissions assigns roles and grants permissions and
accounts.
-/

structure GrantAccessBody where
  userId : RowId
  scopeType : AccountScopeType
  accountId : Option RowId := none
  accountIds : Option (List RowId) := none
  crmReportId : Option Text := none
  crmProvider : Option CrmProvider := none
  crmReportName : Option Text := none

inductive AccessRequest where
  | assignRole (userId roleProfileId : RowId)
  | grantPermission (userId : RowId) (permission : PermissionType)
  | revokePermission (userId : RowId) (permission : PermissionType)
  | grantAccess (body : GrantAccessBody)
  | revokeAccess (grantId : RowId)
  | syncGrant (grantId : RowId)

inductive AccessAnswer where
  | assigned
  | granted
  | revoked
  | accessGranted (grantId : RowId) (syncedAccounts : Option Nat)
  | synced (accountCount : Nat)

def internalServerError : HttpFailure where
  status := 500
  error := ("internal_server_error" : String)

def foreignKeyViolated : HttpFailure where
  status := 400
  error := ("bad_request" : String)

def usageLimitOf (organizationId userId : RowId) (row : AiUsageLimit) : Bool :=
  row.organizationId == organizationId && row.userId == some userId

def upsertUsageLimit (rows : List AiUsageLimit) (organizationId userId : RowId)
    (limits : UsageLimits) : List AiUsageLimit :=
  if rows.any (usageLimitOf organizationId userId) then
    updateWhere rows (usageLimitOf organizationId userId) fun row => { row with limits }
  else rows ++ [{ organizationId, userId := some userId, limits }]

def upsertRoleAssignment (rows : List UserRoleAssignment) (userId roleProfileId : RowId)
    (assignedById : Option RowId) : List UserRoleAssignment :=
  if rows.any (·.userId == userId) then
    updateWhere rows (·.userId == userId) fun row => { row with roleProfileId, assignedById }
  else rows ++ [{ userId := userId, roleProfileId, assignedById }]

def profileGrant (id organizationId userId : RowId) (profile : RoleProfile)
    (assignedById : Option RowId) : UserAccountAccess where
  id
  userId
  organizationId
  scopeType := profile.defaultAccountScopeType
  cachedAccountIds :=
    if profile.defaultAccountScopeType = .accountList then profile.defaultAccountIds else []
  accountId :=
    if profile.defaultAccountScopeType = .singleAccount then profile.defaultAccountIds.head?
    else none
  grantedById := assignedById

def assignRoleToUser (db : Database) (organizationId userId roleProfileId : RowId)
    (assignedById : Option RowId) : Except HttpFailure Database :=
  let profile := db.roleProfiles.find? fun row =>
    row.id == roleProfileId && row.organizationId == organizationId
  let user := db.users.find? fun row => row.id == userId && row.organizationId == organizationId
  match profile, user with
  | some profile, some _ =>
    let grant := profileGrant db.nextId organizationId userId profile assignedById
    if grant.accountId.all fun accountId => db.accounts.any (·.id == accountId) then
      .ok { db with
        nextId := db.nextId + 1
        userRoleAssignments :=
          upsertRoleAssignment db.userRoleAssignments userId roleProfileId assignedById
        aiUsageLimits := upsertUsageLimit db.aiUsageLimits organizationId userId profile.limits
        userAccountAccess :=
          deleteWhere db.userAccountAccess (fun row =>
            row.userId == userId && row.organizationId == organizationId) ++ [grant] }
    else .error foreignKeyViolated
  | _, _ =>
    .error (badRequest ("User or role profile not found in this organization" : String).toList)

def grantablePermissions : List PermissionType :=
  [.createLandingPage, .publishLandingPage, .publishNamedLandingPage, .approvePublishRequests,
    .viewRawTranscripts, .editAnyLandingPage, .deleteAnyLandingPage, .managePermissions,
    .viewAnalytics]

def permissionOf (userId : RowId) (permission : PermissionType) (row : UserPermission) : Bool :=
  row.userId == userId && row.permission == permission

def grantPermission (db : Database) (userId : RowId) (permission : PermissionType)
    (grantedById : RowId) : Except HttpFailure Database :=
  if db.userPermissions.any (permissionOf userId permission) then
    .ok { db with
      userPermissions := updateWhere db.userPermissions (permissionOf userId permission)
        fun row => { row with grantedById := some grantedById } }
  else if db.users.any (·.id == userId) then
    .ok { db with
      userPermissions :=
        db.userPermissions ++ [{ userId, permission, grantedById := some grantedById }] }
  else .error internalServerError

def revokePermission (db : Database) (userId : RowId) (permission : PermissionType) : Database :=
  { db with userPermissions := deleteWhere db.userPermissions (permissionOf userId permission) }

def newGrant (id organizationId grantedById : RowId) (body : GrantAccessBody) :
    UserAccountAccess where
  id
  userId := body.userId
  organizationId
  scopeType := body.scopeType
  accountId := if body.scopeType = .singleAccount then body.accountId else none
  cachedAccountIds :=
    if body.scopeType = .accountList then body.accountIds.getD [] else []
  crmReportId := if body.scopeType = .crmReport then body.crmReportId else none
  crmProvider := if body.scopeType = .crmReport then body.crmProvider else none
  crmReportName := if body.scopeType = .crmReport then body.crmReportName else none
  grantedById := some grantedById

def grantAccess (db : Database) (organizationId grantedById : RowId) (body : GrantAccessBody) :
    Option Database :=
  let grant := newGrant db.nextId organizationId grantedById body
  if db.users.any (·.id == body.userId) &&
      grant.accountId.all fun accountId => db.accounts.any (·.id == accountId) then
    some { db with
      nextId := db.nextId + 1
      userAccountAccess := db.userAccountAccess ++ [grant] }
  else none

def fetchCrmReportAccountIds (_organizationId : RowId) (_provider : Option CrmProvider)
    (_reportId : Text) : List Text := []

def crmIdOf (provider : Option CrmProvider) (account : Account) : Option Text :=
  if provider = some .salesforce then account.salesforceId else account.hubspotId

def matchCrmIdsToAccounts (db : Database) (organizationId : RowId)
    (provider : Option CrmProvider) (crmAccountIds : List Text) : List RowId :=
  (db.accounts.filter fun account =>
    account.organizationId == organizationId &&
      (crmIdOf provider account).any (crmAccountIds.contains ·)).map (·.id)

/-- The accounts of the report of a grant, or `none` for a grant that has no report. -/
def reportAccounts (db : Database) (grant : UserAccountAccess) : Option (List RowId) :=
  if grant.scopeType = .crmReport then
    (grant.crmReportId.filter (!·.isEmpty)).map fun reportId =>
      matchCrmIdsToAccounts db grant.organizationId grant.crmProvider
        (fetchCrmReportAccountIds grant.organizationId grant.crmProvider reportId)
  else none

def storeSync (now : Date) (accountIds : List RowId) (grant : UserAccountAccess) :
    UserAccountAccess :=
  { grant with cachedAccountIds := accountIds, lastSyncedAt := some now }

def syncCrmReportGrant (db : Database) (now : Date) (grantId : RowId) :
    Option (Nat × Database) :=
  (db.userAccountAccess.find? (·.id == grantId)).bind fun grant =>
    (reportAccounts db grant).map fun accountIds =>
      (accountIds.length, { db with
        userAccountAccess :=
          updateWhere db.userAccountAccess (·.id == grantId) (storeSync now accountIds) })

def findGrantById (db : Database) (grantId organizationId : RowId) : Option UserAccountAccess :=
  db.userAccountAccess.find? fun row => row.id == grantId && row.organizationId == organizationId

def revokeAccess (db : Database) (grantId : RowId) : Database :=
  { db with userAccountAccess := deleteWhere db.userAccountAccess (·.id == grantId) }

def grantAccessRoute (db : Database) (now : Date) (caller : Caller) (body : GrantAccessBody) :
    Except HttpFailure (AccessAnswer × Database) :=
  match grantAccess db caller.organizationId caller.userId body with
  | none => .error {
      status := 500
      error := ("internal_error" : String)
      message := some ("Failed to grant account access" : String).toList }
  | some granted =>
    match (if body.scopeType = .crmReport then syncCrmReportGrant granted now db.nextId
      else none) with
    | some (count, synced) => .ok (.accessGranted db.nextId (some count), synced)
    | none => .ok (.accessGranted db.nextId none, granted)

def answerRequest (db : Database) (now : Date) (caller : Caller) :
    AccessRequest → Except HttpFailure (AccessAnswer × Database)
  | .assignRole userId roleProfileId =>
    (assignRoleToUser db caller.organizationId userId roleProfileId (some caller.userId)).map
      fun next => (.assigned, next)
  | .grantPermission userId permission =>
    if permission ∉ grantablePermissions then .error validationError
    else (grantPermission db userId permission caller.userId).map fun next => (.granted, next)
  | .revokePermission userId permission =>
    if permission ∉ grantablePermissions then .error validationError
    else .ok (.revoked, revokePermission db userId permission)
  | .grantAccess body => grantAccessRoute db now caller body
  | .revokeAccess grantId =>
    if (findGrantById db grantId caller.organizationId).isNone then
      .error (notFound "Access grant not found")
    else .ok (.revoked, revokeAccess db grantId)
  | .syncGrant grantId =>
    match syncCrmReportGrant db now grantId with
    | none => .error internalServerError
    | some (count, synced) => .ok (.synced count, synced)

def accessRoute (db : Database) (now : Date) (caller : Caller) (request : AccessRequest) :
    Except HttpFailure (AccessAnswer × Database) := do
  requirePermission db .managePermissions caller
  answerRequest db now caller request

structure AccessCall where
  caller : Caller
  request : AccessRequest
  now : Date

def accessStep (db : Database) (call : AccessCall) : Database :=
  match accessRoute db call.now call.caller call.request with
  | .ok (_, next) => next
  | .error _ => db

end StoryEngine.Access
