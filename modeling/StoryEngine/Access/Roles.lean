import StoryEngine.Schema.Database

namespace StoryEngine.Access

open Schema

/-! # Roles, permissions and account grants -/

/-- An authenticated user as the session middleware puts it on the request. -/
structure Caller where
  userId : RowId
  organizationId : RowId
  userRole : Option UserRole
deriving DecidableEq

def isAdminRole (userRole : Option UserRole) : Bool :=
  userRole = some .owner || userRole = some .admin

inductive RolePolicySource where
  | adminOverride
  | assignedProfile
  | fallback

structure EffectiveRolePolicy where
  permissions : List PermissionType
  canAccessAnonymousStories : Bool
  canGenerateAnonymousStories : Bool
  canAccessNamedStories : Bool
  canGenerateNamedStories : Bool
  source : RolePolicySource

def fallbackPolicy : Option UserRole → EffectiveRolePolicy
  | some .owner | some .admin =>
    { permissions := [.createLandingPage, .publishLandingPage, .publishNamedLandingPage,
        .approvePublishRequests, .viewRawTranscripts, .editAnyLandingPage,
        .deleteAnyLandingPage, .managePermissions, .viewAnalytics, .manageEntityResolution,
        .manageAiSettings]
      canAccessAnonymousStories := true
      canGenerateAnonymousStories := true
      canAccessNamedStories := true
      canGenerateNamedStories := true
      source := .adminOverride }
  | some .viewer =>
    { permissions := [.viewAnalytics]
      canAccessAnonymousStories := true
      canGenerateAnonymousStories := false
      canAccessNamedStories := false
      canGenerateNamedStories := false
      source := .fallback }
  | some .member | none =>
    { permissions := []
      canAccessAnonymousStories := true
      canGenerateAnonymousStories := true
      canAccessNamedStories := false
      canGenerateNamedStories := false
      source := .fallback }

def assignedProfile (db : Database) (userId : RowId) : Option RoleProfile :=
  (db.userRoleAssignments.find? (·.userId == userId)).bind fun assignment =>
    db.roleProfiles.find? (·.id == assignment.roleProfileId)

def getEffectivePolicy (db : Database) (organizationId userId : RowId)
    (userRole : Option UserRole) : EffectiveRolePolicy :=
  if isAdminRole userRole then fallbackPolicy userRole
  else
    match assignedProfile db userId with
    | none => fallbackPolicy userRole
    | some profile =>
      if profile.organizationId = organizationId then
        { permissions := profile.permissions
          canAccessAnonymousStories := profile.canAccessAnonymousStories
          canGenerateAnonymousStories := profile.canGenerateAnonymousStories
          canAccessNamedStories := profile.canAccessNamedStories
          canGenerateNamedStories := profile.canGenerateNamedStories
          source := .assignedProfile }
      else fallbackPolicy userRole

def Caller.policy (db : Database) (caller : Caller) : EffectiveRolePolicy :=
  getEffectivePolicy db caller.organizationId caller.userId caller.userRole

def hasUserPermission (db : Database) (userId : RowId) (permission : PermissionType) : Bool :=
  db.userPermissions.any fun granted =>
    granted.userId == userId && granted.permission == permission

def canAccessNamedStories (db : Database) (caller : Caller) : Bool :=
  isAdminRole caller.userRole || (caller.policy db).canAccessNamedStories ||
    (caller.policy db).permissions.contains .publishNamedLandingPage ||
    hasUserPermission db caller.userId .publishNamedLandingPage

def canGenerateNamedStories (db : Database) (caller : Caller) : Bool :=
  isAdminRole caller.userRole || (caller.policy db).canGenerateNamedStories ||
    (caller.policy db).permissions.contains .publishNamedLandingPage ||
    hasUserPermission db caller.userId .publishNamedLandingPage

def canReviewPublishApprovals (db : Database) (caller : Caller) : Bool :=
  isAdminRole caller.userRole ||
    (caller.policy db).permissions.contains .approvePublishRequests ||
    hasUserPermission db caller.userId .approvePublishRequests

def grantCovers (accountId : RowId) (grant : UserAccountAccess) : Bool :=
  match grant.scopeType with
  | .allAccounts => true
  | .singleAccount => grant.accountId == some accountId
  | .accountList | .crmReport => grant.cachedAccountIds.contains accountId

def canAccessAccount (db : Database) (userId organizationId accountId : RowId)
    (userRole : Option UserRole) : Bool :=
  isAdminRole userRole ||
    (db.userAccountAccess.filter fun grant =>
      grant.userId == userId && grant.organizationId == organizationId).any (grantCovers accountId)

inductive PolicyAction where
  | createLandingPage
  | publishLandingPage
  | editAnyLandingPage
  | deleteAnyLandingPage
  | managePermissions
  | viewAnalytics

def PolicyAction.requiredPermission : PolicyAction → PermissionType
  | .createLandingPage => .createLandingPage
  | .publishLandingPage => .publishLandingPage
  | .editAnyLandingPage => .editAnyLandingPage
  | .deleteAnyLandingPage => .deleteAnyLandingPage
  | .managePermissions => .managePermissions
  | .viewAnalytics => .viewAnalytics

inductive PolicyReason where
  | adminBypass
  | roleProfileAllow
  | userPermissionAllow
  | permissionDenied
deriving DecidableEq

structure PolicyDecision where
  allowed : Bool
  reason : PolicyReason
  requiredPermission : Option PermissionType := none

/-- `PolicyService.evaluate` for these actions, without an account in question. -/
def evaluate (db : Database) (action : PolicyAction) (caller : Caller) : PolicyDecision :=
  let required := action.requiredPermission
  if isAdminRole caller.userRole then { allowed := true, reason := .adminBypass }
  else if (caller.policy db).permissions.contains required then
    { allowed := true, reason := .roleProfileAllow, requiredPermission := some required }
  else if hasUserPermission db caller.userId required then
    { allowed := true, reason := .userPermissionAllow, requiredPermission := some required }
  else { allowed := false, reason := .permissionDenied, requiredPermission := some required }

/-! ## The accounts of a user

Routes ask for one account by `canAccessAccount`, and filter lists by the ids that
`getAccessibleAccountIds` gives.
-/

/-- `Set.add` -/
def addAccountId (accountIds : List RowId) (id : RowId) : List RowId :=
  if accountIds.contains id then accountIds else accountIds ++ [id]

/-- The ids that the grants list, in order; `none` is all accounts. -/
def collectAccountIds (accountIds : List RowId) : List UserAccountAccess → Option (List RowId)
  | [] => some accountIds
  | grant :: rest =>
    match grant.scopeType with
    | .allAccounts => none
    | .singleAccount =>
      match grant.accountId with
      | some id => collectAccountIds (addAccountId accountIds id) rest
      | none => collectAccountIds accountIds rest
    | .accountList | .crmReport =>
      collectAccountIds (grant.cachedAccountIds.foldl addAccountId accountIds) rest

/-- The accounts that a user may see, or `none` for all. -/
def getAccessibleAccountIds (db : Database) (userId organizationId : RowId)
    (userRole : Option UserRole) : Option (List RowId) :=
  if isAdminRole userRole then none
  else
    collectAccountIds [] (db.userAccountAccess.filter fun grant =>
      grant.userId == userId && grant.organizationId == organizationId)

/-- An account is among accessible ids, of which `none` is all. -/
def Admits (accountIds : Option (List RowId)) (accountId : RowId) : Prop :=
  ∀ ids, accountIds = some ids → accountId ∈ ids

@[simp] theorem admits_none (accountId : RowId) : Admits none accountId := nofun

variable {ids accountIds : List RowId} {accountId : RowId}

@[simp] theorem admits_some :
    Admits (some ids) accountId ↔ accountId ∈ ids := by
  simp [Admits]

theorem mem_addAccountId {id : RowId} :
    accountId ∈ addAccountId accountIds id ↔ accountId ∈ accountIds ∨ accountId = id := by
  rw [addAccountId]
  split
  · next contained =>
      have present : id ∈ accountIds := by simpa using contained
      refine ⟨.inl, fun either => ?_⟩
      rcases either with before | rfl
      · exact before
      · exact present
  · simp

theorem mem_addAccountIds :
    accountId ∈ ids.foldl addAccountId accountIds ↔ accountId ∈ accountIds ∨ accountId ∈ ids := by
  induction ids generalizing accountIds with
  | nil => simp
  | cons id rest ih => rw [List.foldl_cons, ih, mem_addAccountId, List.mem_cons, or_assoc]

theorem collectAccountIds_admits {grants : List UserAccountAccess} :
    Admits (collectAccountIds accountIds grants) accountId ↔
      accountId ∈ accountIds ∨ grants.any (grantCovers accountId) = true := by
  induction grants generalizing accountIds with
  | nil => simp [collectAccountIds]
  | cons grant rest ih =>
    rw [List.any_cons, Bool.or_eq_true]
    cases scope : grant.scopeType with
    | allAccounts => simp [collectAccountIds, grantCovers, scope]
    | singleAccount =>
      cases single : grant.accountId with
      | none =>
        simp only [collectAccountIds, grantCovers, scope, single, ih]
        simp
      | some id =>
        simp only [collectAccountIds, grantCovers, scope, single, ih, mem_addAccountId,
          or_assoc, beq_iff_eq, Option.some.injEq]
        rw [eq_comm (a := accountId)]
    | accountList =>
      simp only [collectAccountIds, grantCovers, scope, ih, mem_addAccountIds, or_assoc,
        List.contains_iff_mem]
    | crmReport =>
      simp only [collectAccountIds, grantCovers, scope, ih, mem_addAccountIds, or_assoc,
        List.contains_iff_mem]

/-- The check of one account and the list of accounts agree. -/
theorem canAccessAccount_iff_accessible (db : Database) (userId organizationId accountId : RowId)
    (userRole : Option UserRole) :
    canAccessAccount db userId organizationId accountId userRole = true ↔
      getAccessibleAccountIds db userId organizationId userRole = none ∨
        ∃ ids, getAccessibleAccountIds db userId organizationId userRole = some ids ∧
          accountId ∈ ids := by
  have admitted : canAccessAccount db userId organizationId accountId userRole = true ↔
      Admits (getAccessibleAccountIds db userId organizationId userRole) accountId := by
    rw [canAccessAccount, getAccessibleAccountIds, Bool.or_eq_true]
    split
    · next admin => simp [admin]
    · next other => simp [other, collectAccountIds_admits]
  rw [admitted]
  cases getAccessibleAccountIds db userId organizationId userRole with
  | none => simp
  | some ids => simp

end StoryEngine.Access
