import StoryEngine.Access.Grants
import StoryEngine.Data.Keys
import StoryEngine.Data.Run

namespace StoryEngine.Access

open Data Schema

/-! # Tenant isolation of access rights

Only the assignment of a role looks for its user in the organization of the caller.  The other
routes write rows by the ids of the request, or by the id of a grant that is the caller's by its
organization and not by its user.
-/

def Foreign (db : Database) (organizationId userId : RowId) : Prop :=
  ∃ user ∈ db.users, user.id = userId ∧ user.organizationId ≠ organizationId

instance (db : Database) (organizationId userId : RowId) :
    Decidable (Foreign db organizationId userId) :=
  inferInstanceAs (Decidable (∃ user ∈ db.users, _))

/-- The permissions, the account grants and the role policy of a user are the same. -/
structure SameRights (before after : Database) (userId : RowId) : Prop where
  permissions : after.userPermissions.filter (·.userId == userId) =
    before.userPermissions.filter (·.userId == userId)
  grants : after.userAccountAccess.filter (·.userId == userId) =
    before.userAccountAccess.filter (·.userId == userId)
  policy : ∀ organizationId userRole, getEffectivePolicy after organizationId userId userRole =
    getEffectivePolicy before organizationId userId userRole

def Isolated (before after : Database) (organizationId : RowId) : Prop :=
  ∀ userId, Foreign before organizationId userId → SameRights before after userId

def changedUser (db : Database) (call : AccessCall) : Option RowId :=
  match call.request with
  | .assignRole _ _ => none
  | .grantPermission userId permission =>
    if permission ∈ grantablePermissions ∧
        ¬(db.userPermissions.any (permissionOf userId permission) ∧
          ∀ row ∈ db.userPermissions, permissionOf userId permission row = true →
            row.grantedById = some call.caller.userId) then
      some userId
    else none
  | .revokePermission userId permission =>
    if permission ∈ grantablePermissions ∧
        db.userPermissions.any (permissionOf userId permission) then
      some userId
    else none
  | .grantAccess body =>
    (grantAccess db call.caller.organizationId call.caller.userId body).map fun _ => body.userId
  | .revokeAccess grantId =>
    (findGrantById db grantId call.caller.organizationId).map (·.userId)
  | .syncGrant grantId =>
    (db.userAccountAccess.find? (·.id == grantId)).bind fun grant =>
      ((reportAccounts db grant).filter fun accountIds =>
        storeSync call.now accountIds grant ≠ grant).map fun _ => grant.userId

def permitted (db : Database) (call : AccessCall) : Bool :=
  (evaluate db .managePermissions call.caller).allowed

/-- A caller who may manage permissions changes no rights of a user of another organization. -/
def ChangesOwn (db : Database) (call : AccessCall) : Prop :=
  permitted db call = true → ∀ userId ∈ changedUser db call,
    ¬Foreign db call.caller.organizationId userId

instance (db : Database) (call : AccessCall) : Decidable (ChangesOwn db call) :=
  inferInstanceAs (Decidable (_ → ∀ userId ∈ changedUser db call, _))

structure AccessTables (db : Database) : Prop where
  users : (db.users.map (·.id)).Nodup
  grants : (db.userAccountAccess.map (·.id)).Nodup
  fresh : ∀ grant ∈ db.userAccountAccess, grant.id < db.nextId

section

variable {db next : Database} {call : AccessCall} {userId other organizationId grantId : RowId}
  {permission : PermissionType} {now : Date}

theorem SameRights.refl (db : Database) (userId : RowId) : SameRights db db userId :=
  ⟨rfl, rfl, fun _ _ => rfl⟩

theorem filter_append_other {ρ : Type} {rows : List ρ} {row : ρ} {criterion : ρ → Bool}
    (outside : criterion row = false) : (rows ++ [row]).filter criterion = rows.filter criterion := by
  simp [outside]

variable {roleProfileId grantedById : RowId} {assignedById : Option RowId} {row : UserPermission}
  {grant : UserAccountAccess} {count : Nat} {body : GrantAccessBody} {caller : Caller}
  {answer : AccessAnswer}

theorem upsertRoleAssignment_other {rows : List UserRoleAssignment}
    (apart : userId ≠ other) :
    (upsertRoleAssignment rows other roleProfileId assignedById).find? (·.userId == userId) =
      rows.find? (·.userId == userId) := by
  simp only [upsertRoleAssignment]
  split
  · rw [find?_updateWhere]
    · cases found : rows.find? (·.userId == userId) with
      | none => rfl
      | some row =>
        have own : row.userId = userId := by simpa using List.find?_some found
        simp [own, apart]
    · intro row
      rfl
  · have differs : (other == userId) = false := beq_false_of_ne apart.symm
    simp [differs]

theorem assignRoleToUser_keeps
    (assigned : assignRoleToUser db organizationId other roleProfileId assignedById = .ok next)
    (apart : userId ≠ other) : SameRights db next userId := by
  have differs : (other == userId) = false := beq_false_of_ne apart.symm
  simp only [assignRoleToUser] at assigned
  split at assigned
  · split at assigned
    · obtain rfl := Except.ok.inj assigned
      constructor
      · rfl
      · refine (filter_append_other ?_).trans (filter_deleteWhere ?_)
        · exact differs
        · intro row _ selected
          have own : row.userId = other := (by simpa using selected : _ ∧ _).1
          rw [own, differs]
      · intro organizationId userRole
        simp only [getEffectivePolicy, assignedProfile, upsertRoleAssignment_other apart]
    · cases assigned
  · cases assigned

theorem assignRoleToUser_own
    (tables : AccessTables db)
    (assigned : assignRoleToUser db organizationId other roleProfileId assignedById = .ok next) :
    ¬Foreign db organizationId other := by
  intro foreign
  obtain ⟨user, member, isUser, elsewhere⟩ := foreign
  simp only [assignRoleToUser] at assigned
  split at assigned
  · next profile found _ isFound =>
      have own : found.id = other ∧ found.organizationId = organizationId := by
        simpa using List.find?_some isFound
      have same := eq_of_key tables.users member (List.mem_of_find?_eq_some isFound)
        (isUser.trans own.1.symm)
      exact elsewhere (same ▸ own.2)
  · cases assigned

theorem sameRights_permissions {userPermissions : List UserPermission}
    (same : userPermissions.filter (·.userId == userId) =
      db.userPermissions.filter (·.userId == userId)) :
    SameRights db { db with userPermissions } userId :=
  ⟨same, rfl, fun _ _ => rfl⟩

theorem sameRights_grants {userAccountAccess : List UserAccountAccess} {nextId : RowId}
    (same : userAccountAccess.filter (·.userId == userId) =
      db.userAccountAccess.filter (·.userId == userId)) :
    SameRights db { db with userAccountAccess, nextId } userId :=
  ⟨rfl, same, fun _ _ => rfl⟩

theorem permissionOf_user
    (selected : permissionOf other permission row = true) : row.userId = other :=
  (by simpa [permissionOf] using selected : _ ∧ _).1

theorem grantPermission_keeps
    (granted : grantPermission db other permission grantedById = .ok next)
    (apart : userId = other → db.userPermissions.any (permissionOf other permission) ∧
      ∀ row ∈ db.userPermissions, permissionOf other permission row = true →
        row.grantedById = some grantedById) :
    SameRights db next userId := by
  simp only [grantPermission] at granted
  split at granted
  · obtain rfl := Except.ok.inj granted
    apply sameRights_permissions
    by_cases own : userId = other
    · rw [updateWhere_self]
      intro row member selected
      rw [← (apart own).2 row member selected]
    · apply filter_updateWhere
      intro row _ selected
      have outside : (row.userId == userId) = false := by
        rw [permissionOf_user selected]
        exact beq_false_of_ne (Ne.symm own)
      exact ⟨outside, outside⟩
  · next absent =>
      split at granted
      · obtain rfl := Except.ok.inj granted
        apply sameRights_permissions
        apply filter_append_other
        apply beq_false_of_ne
        intro own
        exact absent (apart own.symm).1
      · cases granted

theorem revokePermission_keeps
    (apart : userId = other → db.userPermissions.any (permissionOf other permission) = false) :
    SameRights db (revokePermission db other permission) userId := by
  apply sameRights_permissions
  apply filter_deleteWhere
  intro row member selected
  apply beq_false_of_ne
  intro own
  have isUser := permissionOf_user selected
  have none := List.any_eq_false.mp (apart (own.symm.trans isUser)) row member
  exact none selected

theorem revokeAccess_keeps (tables : AccessTables db)
    (found : findGrantById db grantId organizationId = some grant)
    (apart : userId ≠ grant.userId) : SameRights db (revokeAccess db grantId) userId := by
  apply sameRights_grants
  apply filter_deleteWhere
  intro row member selected
  have own : grant.id = grantId ∧ grant.organizationId = organizationId := by
    simpa using List.find?_some found
  have isGrant : row.id = grantId := by simpa using selected
  have same := eq_of_key tables.grants member (List.mem_of_find?_eq_some found)
    (isGrant.trans own.1.symm)
  rw [same]
  exact beq_false_of_ne apart.symm

theorem syncCrmReportGrant_keeps (tables : AccessTables db)
    (synced : syncCrmReportGrant db now grantId = some (count, next))
    (apart : ∀ grant ∈ db.userAccountAccess.find? (·.id == grantId),
      ∀ accountIds ∈ reportAccounts db grant,
        userId = grant.userId → storeSync now accountIds grant = grant) :
    SameRights db next userId := by
  simp only [syncCrmReportGrant, Option.bind_eq_some_iff, Option.map_eq_some_iff,
    Prod.mk.injEq] at synced
  obtain ⟨grant, found, accountIds, reported, _, rfl⟩ := synced
  obtain ⟨inGrants, isGrant⟩ := (find?_key_eq_some tables.grants).mp found
  have only {row : UserAccountAccess} (member : row ∈ db.userAccountAccess)
      (selected : (row.id == grantId) = true) : row = grant :=
    eq_of_key tables.grants member inGrants ((by simpa using selected : _ = _).trans isGrant.symm)
  apply sameRights_grants
  by_cases own : userId = grant.userId
  · rw [updateWhere_self]
    intro row member selected
    rw [only member selected]
    exact apart grant found accountIds reported own
  · apply filter_updateWhere
    intro row member selected
    have outside : (row.userId == userId) = false := by
      rw [only member selected]
      exact beq_false_of_ne (Ne.symm own)
    exact ⟨outside, outside⟩

theorem grantAccess_some
    (granted : grantAccess db organizationId grantedById body = some next) :
    next = { db with
      nextId := db.nextId + 1
      userAccountAccess :=
        db.userAccountAccess ++ [newGrant db.nextId organizationId grantedById body] } := by
  simp only [grantAccess] at granted
  split at granted
  · exact (Option.some.inj granted).symm
  · cases granted

theorem appendGrant_tables (tables : AccessTables db)
    (isNew : grant.id = db.nextId) :
    AccessTables { db with
      nextId := db.nextId + 1
      userAccountAccess := db.userAccountAccess ++ [grant] } := by
  refine ⟨tables.users, ?_, ?_⟩
  · apply nodup_map_append_fresh tables.grants
    intro old member
    rw [isNew]
    exact Nat.ne_of_lt (tables.fresh old member)
  · intro row member
    rcases List.mem_append.mp member with old | added
    · exact Nat.lt_succ_of_lt (tables.fresh row old)
    · obtain rfl := List.mem_singleton.mp added
      rw [isNew]
      exact Nat.lt_succ_self db.nextId

theorem SameRights.trans {last : Database} (first : SameRights db next userId)
    (second : SameRights next last userId) : SameRights db last userId :=
  ⟨second.permissions.trans first.permissions, second.grants.trans first.grants,
    fun organizationId userRole =>
      (second.policy organizationId userRole).trans (first.policy organizationId userRole)⟩

theorem grantAccessRoute_ok
    (answered : grantAccessRoute db now caller body = .ok (answer, next)) :
    ∃ granted, grantAccess db caller.organizationId caller.userId body = some granted ∧
      (next = granted ∨
        ∃ count, syncCrmReportGrant granted now db.nextId = some (count, next)) := by
  simp only [grantAccessRoute] at answered
  split at answered
  · cases answered
  · next granted isGranted =>
      refine ⟨granted, isGranted, ?_⟩
      split at answered
      · next count synced isSynced =>
          obtain ⟨_, rfl⟩ := Prod.mk.inj (Except.ok.inj answered)
          split at isSynced
          · exact Or.inr ⟨count, isSynced⟩
          · cases isSynced
      · exact Or.inl (Prod.mk.inj (Except.ok.inj answered)).2.symm

theorem find?_appended (tables : AccessTables db)
    (isNew : grant.id = db.nextId) :
    (db.userAccountAccess ++ [grant]).find? (·.id == db.nextId) = some grant :=
  (find?_key_eq_some (appendGrant_tables tables isNew).grants).mpr
    ⟨List.mem_append_right _ List.mem_cons_self, isNew⟩

theorem grantAccessRoute_keeps (tables : AccessTables db)
    (answered : grantAccessRoute db now caller body = .ok (answer, next))
    (apart : userId ≠ body.userId) : SameRights db next userId := by
  obtain ⟨granted, isGranted, source⟩ := grantAccessRoute_ok answered
  obtain rfl := grantAccess_some isGranted
  have first : SameRights db { db with
      nextId := db.nextId + 1
      userAccountAccess := db.userAccountAccess ++
        [newGrant db.nextId caller.organizationId caller.userId body] } userId :=
    sameRights_grants (filter_append_other (beq_false_of_ne apart.symm))
  rcases source with rfl | ⟨count, synced⟩
  · exact first
  · apply first.trans
    apply syncCrmReportGrant_keeps (appendGrant_tables tables rfl) synced
    intro grant found accountIds _ own
    obtain rfl := Option.some.inj ((find?_appended tables rfl).symm.trans found)
    exact absurd own apart

theorem requirePermission_ok :
    requirePermission db .managePermissions caller = .ok ⟨⟩ ↔
      (evaluate db .managePermissions caller).allowed = true := by
  simp [requirePermission, allowedPublisher, PermissionAction.policyAction]

theorem accessStep_cases (db : Database) (call : AccessCall) :
    accessStep db call = db ∨ ∃ answer, permitted db call = true ∧
      answerRequest db call.now call.caller call.request = .ok (answer, accessStep db call) := by
  simp only [accessStep]
  split
  · next answer next answered =>
      simp only [accessRoute, bind_eq_ok] at answered
      obtain ⟨_, passes, answers⟩ := answered
      exact Or.inr ⟨answer, requirePermission_ok.mp passes, answers⟩
  · exact Or.inl rfl

theorem accessStep_ok (permits : permitted db call = true)
    (answers : answerRequest db call.now call.caller call.request = .ok (answer, next)) :
    accessStep db call = next := by
  have answered : accessRoute db call.now call.caller call.request = .ok (answer, next) := by
    simp only [accessRoute, bind_eq_ok]
    exact ⟨⟨⟩, requirePermission_ok.mpr permits, answers⟩
  simp only [accessStep, answered]

theorem answerRequest_keeps (tables : AccessTables db)
    (answered : answerRequest db call.now call.caller call.request = .ok (answer, next))
    (foreign : Foreign db call.caller.organizationId userId)
    (apart : changedUser db call ≠ some userId) : SameRights db next userId := by
  cases isRequest : call.request with
  | assignRole target roleProfileId =>
    simp only [isRequest, answerRequest, map_eq_ok, Prod.mk.injEq] at answered
    obtain ⟨_, assigned, _, rfl⟩ := answered
    apply assignRoleToUser_keeps assigned
    intro own
    exact assignRoleToUser_own tables assigned (own ▸ foreign)
  | grantPermission target permission =>
    simp only [isRequest, answerRequest] at answered
    split at answered
    · cases answered
    · next grantable =>
        obtain ⟨_, granted, isNext⟩ := map_eq_ok.mp answered
        obtain ⟨_, rfl⟩ := Prod.mk.inj isNext
        apply grantPermission_keeps granted
        intro own
        subst own
        by_contra changes
        apply apart
        simp only [changedUser, isRequest]
        rw [if_pos ⟨by simpa using grantable, changes⟩]
  | revokePermission target permission =>
    simp only [isRequest, answerRequest] at answered
    split at answered
    · cases answered
    · next grantable =>
        obtain ⟨_, rfl⟩ := Prod.mk.inj (Except.ok.inj answered)
        apply revokePermission_keeps
        intro own
        subst own
        by_contra has
        apply apart
        simp only [changedUser, isRequest]
        rw [if_pos ⟨by simpa using grantable, by simpa using has⟩]
  | grantAccess body =>
    simp only [isRequest, answerRequest] at answered
    obtain ⟨granted, isGranted, _⟩ := grantAccessRoute_ok answered
    apply grantAccessRoute_keeps tables answered
    intro own
    apply apart
    simp [changedUser, isRequest, isGranted, own]
  | revokeAccess grantId =>
    simp only [isRequest, answerRequest] at answered
    split at answered
    · cases answered
    · next present =>
        obtain ⟨_, rfl⟩ := Prod.mk.inj (Except.ok.inj answered)
        cases found : findGrantById db grantId call.caller.organizationId with
        | none => simp [found] at present
        | some grant =>
          apply revokeAccess_keeps tables found
          intro own
          apply apart
          simp [changedUser, isRequest, found, own]
  | syncGrant grantId =>
    simp only [isRequest, answerRequest] at answered
    split at answered
    · cases answered
    · next count synced isSynced =>
        obtain ⟨_, rfl⟩ := Prod.mk.inj (Except.ok.inj answered)
        apply syncCrmReportGrant_keeps tables isSynced
        intro grant found accountIds reported own
        by_contra changes
        apply apart
        have isFound : db.userAccountAccess.find? (·.id == grantId) = some grant := found
        have isReported : reportAccounts db grant = some accountIds := reported
        simp [changedUser, isRequest, isFound, isReported, changes, own]

theorem SameRights.permission_stays (same : SameRights db next userId)
    (own : row.userId = userId) : row ∈ next.userPermissions ↔ row ∈ db.userPermissions := by
  have filtered := congrArg (row ∈ ·) same.permissions
  simpa [List.mem_filter, own] using filtered

theorem SameRights.grant_stays (same : SameRights db next userId) {row : UserAccountAccess}
    (own : row.userId = userId) : row ∈ next.userAccountAccess ↔ row ∈ db.userAccountAccess := by
  have filtered := congrArg (row ∈ ·) same.grants
  simpa [List.mem_filter, own] using filtered

theorem grantPermission_changes
    (granted : grantPermission db userId permission grantedById = .ok next)
    (changes : ¬(db.userPermissions.any (permissionOf userId permission) ∧
      ∀ row ∈ db.userPermissions, permissionOf userId permission row = true →
        row.grantedById = some grantedById)) : ¬SameRights db next userId := by
  intro same
  apply changes
  simp only [grantPermission] at granted
  split at granted
  · next present =>
      obtain rfl := Except.ok.inj granted
      refine ⟨present, fun row member selected => ?_⟩
      obtain ⟨old, _, written | kept⟩ := mem_updateWhere.mp
        ((same.permission_stays (permissionOf_user selected)).mpr member)
      · rw [written.2]
      · rw [kept.2, kept.1] at selected
        cases selected
  · next absent =>
      split at granted
      · obtain rfl := Except.ok.inj granted
        have own : ({ userId, permission, grantedById := some grantedById } :
            UserPermission).userId = userId := rfl
        have inOld := (same.permission_stays own).mp
          (List.mem_append_right _ List.mem_cons_self)
        exact absurd (List.any_eq_true.mpr ⟨_, inOld, by simp [permissionOf]⟩) absent
      · cases granted

theorem revokePermission_changes
    (present : db.userPermissions.any (permissionOf userId permission) = true) :
    ¬SameRights db (revokePermission db userId permission) userId := by
  intro same
  obtain ⟨row, member, selected⟩ := List.any_eq_true.mp present
  have stays := (same.permission_stays (permissionOf_user selected)).mpr member
  rw [(mem_deleteWhere.mp stays).2] at selected
  cases selected

theorem grantAccessRoute_changes (tables : AccessTables db)
    (answered : grantAccessRoute db now caller body = .ok (answer, next)) :
    ¬SameRights db next body.userId := by
  intro same
  obtain ⟨granted, isGranted, source⟩ := grantAccessRoute_ok answered
  obtain rfl := grantAccess_some isGranted
  have added : ∃ row ∈ next.userAccountAccess, row.id = db.nextId ∧ row.userId = body.userId := by
    rcases source with rfl | ⟨count, synced⟩
    · exact ⟨_, List.mem_append_right _ List.mem_cons_self, rfl, rfl⟩
    · simp only [syncCrmReportGrant, Option.bind_eq_some_iff, Option.map_eq_some_iff,
        Prod.mk.injEq] at synced
      obtain ⟨grant, found, accountIds, _, _, rfl⟩ := synced
      obtain rfl := Option.some.inj ((find?_appended tables rfl).symm.trans found)
      refine ⟨storeSync now accountIds
        (newGrant db.nextId caller.organizationId caller.userId body), ?_, rfl, rfl⟩
      exact mem_updateWhere.mpr ⟨_, List.mem_append_right _ List.mem_cons_self,
        Or.inl ⟨beq_self_eq_true db.nextId, rfl⟩⟩
  obtain ⟨row, member, isNew, own⟩ := added
  have below := tables.fresh row ((same.grant_stays own).mp member)
  rw [isNew] at below
  exact Nat.lt_irrefl _ below

theorem revokeAccess_changes
    (found : findGrantById db grantId organizationId = some grant) :
    ¬SameRights db (revokeAccess db grantId) grant.userId := by
  intro same
  have own : grant.id = grantId ∧ grant.organizationId = organizationId := by
    simpa using List.find?_some found
  have stays := (same.grant_stays rfl).mpr (List.mem_of_find?_eq_some found)
  have outside := (mem_deleteWhere.mp stays).2
  simp [own.1] at outside

theorem syncCrmReportGrant_changes (tables : AccessTables db)
    {accountIds : List RowId}
    (found : db.userAccountAccess.find? (·.id == grantId) = some grant)
    (reported : reportAccounts db grant = some accountIds)
    (changes : storeSync now accountIds grant ≠ grant)
    (synced : syncCrmReportGrant db now grantId = some (count, next)) :
    ¬SameRights db next grant.userId := by
  intro same
  simp only [syncCrmReportGrant, found, reported, Option.bind_some, Option.map_some,
    Option.some.injEq, Prod.mk.injEq] at synced
  obtain ⟨_, rfl⟩ := synced
  obtain ⟨inGrants, isGrant⟩ := (find?_key_eq_some tables.grants).mp found
  obtain ⟨old, inOld, written | kept⟩ :=
    mem_updateWhere.mp ((same.grant_stays rfl).mpr inGrants)
  · have isOld : old.id = grant.id := by
      rw [isGrant]
      simpa using written.1
    rw [eq_of_key tables.grants inOld inGrants isOld] at written
    exact changes written.2.symm
  · rw [← kept.2] at kept
    simp [isGrant] at kept

theorem accessStep_changes (tables : AccessTables db) (permits : permitted db call = true)
    (foreign : Foreign db call.caller.organizationId userId)
    (changed : changedUser db call = some userId) :
    ¬SameRights db (accessStep db call) userId := by
  cases isRequest : call.request with
  | assignRole target roleProfileId => simp [changedUser, isRequest] at changed
  | grantPermission target permission =>
    simp only [changedUser, isRequest] at changed
    split at changed
    · next changes =>
        obtain rfl := Option.some.inj changed
        obtain ⟨user, inUsers, isUser, _⟩ := foreign
        have exists_ : db.users.any (·.id == target) = true :=
          List.any_eq_true.mpr ⟨user, inUsers, by simp [isUser]⟩
        obtain ⟨next, granted⟩ : ∃ next,
            grantPermission db target permission call.caller.userId = .ok next := by
          simp only [grantPermission, exists_]
          split
          · exact ⟨_, rfl⟩
          · exact ⟨_, rfl⟩
        have answers : answerRequest db call.now call.caller call.request =
            .ok (.granted, next) := by
          simp [isRequest, answerRequest, changes.1, granted, Except.map]
        rw [accessStep_ok permits answers]
        exact grantPermission_changes granted changes.2
    · cases changed
  | revokePermission target permission =>
    simp only [changedUser, isRequest] at changed
    split at changed
    · next changes =>
        obtain rfl := Option.some.inj changed
        have answers : answerRequest db call.now call.caller call.request =
            .ok (.revoked, revokePermission db target permission) := by
          simp [isRequest, answerRequest, changes.1]
        rw [accessStep_ok permits answers]
        exact revokePermission_changes changes.2
    · cases changed
  | grantAccess body =>
    simp only [changedUser, isRequest] at changed
    obtain ⟨granted, isGranted, rfl⟩ := Option.map_eq_some_iff.mp changed
    obtain ⟨answer, next, answered⟩ : ∃ answer next,
        grantAccessRoute db call.now call.caller body = .ok (answer, next) := by
      simp only [grantAccessRoute, isGranted]
      split
      · exact ⟨_, _, rfl⟩
      · exact ⟨_, _, rfl⟩
    have answers : answerRequest db call.now call.caller call.request =
        .ok (answer, next) := by
      rw [isRequest]
      exact answered
    rw [accessStep_ok permits answers]
    exact grantAccessRoute_changes tables answered
  | revokeAccess grantId =>
    simp only [changedUser, isRequest] at changed
    obtain ⟨grant, found, rfl⟩ := Option.map_eq_some_iff.mp changed
    have answers : answerRequest db call.now call.caller call.request =
        .ok (.revoked, revokeAccess db grantId) := by
      simp [isRequest, answerRequest, found]
    rw [accessStep_ok permits answers]
    exact revokeAccess_changes found
  | syncGrant grantId =>
    simp only [changedUser, isRequest] at changed
    obtain ⟨grant, found, filtered⟩ := Option.bind_eq_some_iff.mp changed
    obtain ⟨accountIds, kept, rfl⟩ := Option.map_eq_some_iff.mp filtered
    obtain ⟨reported, changes⟩ := Option.filter_eq_some_iff.mp kept
    obtain ⟨synced, isSynced⟩ : ∃ synced,
        syncCrmReportGrant db call.now grantId = some synced := by
      simp only [syncCrmReportGrant, found, reported, Option.bind_some, Option.map_some]
      exact ⟨_, rfl⟩
    have answers : answerRequest db call.now call.caller call.request =
        .ok (.synced synced.1, synced.2) := by
      simp [isRequest, answerRequest, isSynced]
    rw [accessStep_ok permits answers]
    exact syncCrmReportGrant_changes tables found reported (by simpa using changes) isSynced

theorem accessStep_isolated_iff (tables : AccessTables db) (call : AccessCall) :
    Isolated db (accessStep db call) call.caller.organizationId ↔ ChangesOwn db call := by
  constructor
  · intro isolated permits userId changed foreign
    exact accessStep_changes tables permits foreign changed (isolated userId foreign)
  · intro own userId foreign
    rcases accessStep_cases db call with unchanged | ⟨answer, permits, answered⟩
    · rw [unchanged]
      exact SameRights.refl db userId
    · apply answerRequest_keeps tables answered foreign
      intro changed
      exact own permits userId changed foreign

theorem syncCrmReportGrant_tables (tables : AccessTables db)
    (synced : syncCrmReportGrant db now grantId = some (count, next)) : AccessTables next := by
  simp only [syncCrmReportGrant, Option.bind_eq_some_iff, Option.map_eq_some_iff,
    Prod.mk.injEq] at synced
  obtain ⟨grant, _, accountIds, _, _, rfl⟩ := synced
  refine ⟨tables.users, nodup_updateWhere (fun _ => rfl) tables.grants, ?_⟩
  intro row member
  obtain ⟨old, inOld, written | kept⟩ := mem_updateWhere.mp member
  · rw [written.2]
    exact tables.fresh old inOld
  · rw [kept.2]
    exact tables.fresh old inOld

theorem deleteGrants_tables (tables : AccessTables db) (selects : UserAccountAccess → Bool) :
    AccessTables { db with userAccountAccess := deleteWhere db.userAccountAccess selects } :=
  ⟨tables.users, nodup_deleteWhere tables.grants,
    fun row member => tables.fresh row (mem_deleteWhere.mp member).1⟩

theorem assignRoleToUser_tables (tables : AccessTables db)
    (assigned : assignRoleToUser db organizationId other roleProfileId assignedById = .ok next) :
    AccessTables next := by
  simp only [assignRoleToUser] at assigned
  split at assigned
  · next profile _ _ _ =>
      split at assigned
      · obtain rfl := Except.ok.inj assigned
        have remaining := deleteGrants_tables tables fun row =>
          row.userId == other && row.organizationId == organizationId
        have fresh : (profileGrant db.nextId organizationId other profile assignedById).id =
            db.nextId := rfl
        have added := appendGrant_tables remaining fresh
        exact ⟨added.users, added.grants, added.fresh⟩
      · cases assigned
  · cases assigned

theorem grantPermission_tables (tables : AccessTables db)
    (granted : grantPermission db other permission grantedById = .ok next) :
    AccessTables next := by
  simp only [grantPermission] at granted
  split at granted
  · obtain rfl := Except.ok.inj granted
    exact ⟨tables.users, tables.grants, tables.fresh⟩
  · split at granted
    · obtain rfl := Except.ok.inj granted
      exact ⟨tables.users, tables.grants, tables.fresh⟩
    · cases granted

theorem accessStep_tables (tables : AccessTables db) (call : AccessCall) :
    AccessTables (accessStep db call) := by
  rcases accessStep_cases db call with unchanged | ⟨answer, _, answered⟩
  · rwa [unchanged]
  generalize accessStep db call = next at answered
  cases isRequest : call.request with
  | assignRole target roleProfileId =>
    simp only [isRequest, answerRequest, map_eq_ok, Prod.mk.injEq] at answered
    obtain ⟨_, assigned, _, rfl⟩ := answered
    exact assignRoleToUser_tables tables assigned
  | grantPermission target permission =>
    simp only [isRequest, answerRequest] at answered
    split at answered
    · cases answered
    · obtain ⟨_, granted, isNext⟩ := map_eq_ok.mp answered
      obtain ⟨_, rfl⟩ := Prod.mk.inj isNext
      exact grantPermission_tables tables granted
  | revokePermission target permission =>
    simp only [isRequest, answerRequest] at answered
    split at answered
    · cases answered
    · obtain ⟨_, rfl⟩ := Prod.mk.inj (Except.ok.inj answered)
      exact ⟨tables.users, tables.grants, tables.fresh⟩
  | grantAccess body =>
    simp only [isRequest, answerRequest] at answered
    obtain ⟨granted, isGranted, source⟩ := grantAccessRoute_ok answered
    obtain rfl := grantAccess_some isGranted
    rcases source with rfl | ⟨count, synced⟩
    · exact appendGrant_tables tables rfl
    · exact syncCrmReportGrant_tables (appendGrant_tables tables rfl) synced
  | revokeAccess grantId =>
    simp only [isRequest, answerRequest] at answered
    split at answered
    · cases answered
    · obtain ⟨_, rfl⟩ := Prod.mk.inj (Except.ok.inj answered)
      exact deleteGrants_tables tables _
  | syncGrant grantId =>
    simp only [isRequest, answerRequest] at answered
    split at answered
    · cases answered
    · next count synced isSynced =>
        obtain ⟨_, rfl⟩ := Prod.mk.inj (Except.ok.inj answered)
        exact syncCrmReportGrant_tables tables isSynced

end

/-- No request of the run changes rights of a user of another organization. -/
def TenantsIsolated (db : Database) (calls : List AccessCall) : Prop :=
  ∀ taken ∈ trace accessStep db calls,
    Isolated taken.1 (accessStep taken.1 taken.2) taken.2.caller.organizationId

/-- Tenants are isolated over a run exactly when every request in it that is let through is
about a user of the caller's organization, or changes nothing. -/
theorem tenants_isolated_iff {db : Database} (tables : AccessTables db)
    (calls : List AccessCall) :
    TenantsIsolated db calls ↔ Guarded accessStep ChangesOwn db calls := by
  have keyed : ∀ taken ∈ trace accessStep db calls, AccessTables taken.1 := by
    intro taken member
    have free : Guarded accessStep (fun _ _ => True) db calls := fun _ _ => trivial
    exact (trace_guarded_invariant AccessTables (fun _ call kept _ => accessStep_tables kept call)
      tables free taken member).1
  constructor
  · intro isolated taken member
    exact (accessStep_isolated_iff (keyed taken member) taken.2).mp (isolated taken member)
  · intro own taken member
    exact (accessStep_isolated_iff (keyed taken member) taken.2).mpr (own taken member)

/-- The organizations 1 and 2 with an owner each, and a user 4 of the second who may see the
accounts of a report. -/
def twoTenants : Database where
  nextId := 20
  users := [
    { id := 3, organizationId := 1, role := .owner },
    { id := 4, organizationId := 2, role := .member }]
  userAccountAccess := [{
    id := 10, userId := 4, organizationId := 2, scopeType := .crmReport
    crmReportId := some ['r'], crmProvider := some .salesforce, cachedAccountIds := [7, 8] }]

theorem twoTenants_tables : AccessTables twoTenants :=
  ⟨by decide, by decide, by decide⟩

def ownerCall (request : AccessRequest) : AccessCall where
  caller := { userId := 3, organizationId := 1, userRole := some .owner }
  request
  now := 100

theorem own_permissions_are_isolated :
    TenantsIsolated twoTenants
      [ownerCall (.grantPermission 3 .viewAnalytics), ownerCall (.revokeAccess 10)] :=
  (tenants_isolated_iff twoTenants_tables _).mpr (by decide)

/-- The owner of the first organization gives a permission and a grant to the user of the
second, and empties the accounts of the user's report. -/
theorem tenants_are_not_isolated :
    ¬TenantsIsolated twoTenants [ownerCall (.grantPermission 4 .managePermissions)] ∧
    ¬TenantsIsolated twoTenants
      [ownerCall (.grantAccess { userId := 4, scopeType := .allAccounts })] ∧
    ¬TenantsIsolated twoTenants [ownerCall (.syncGrant 10)] ∧
    (accessStep twoTenants (ownerCall (.syncGrant 10))).userAccountAccess.map
      (·.cachedAccountIds) = [[]] := by
  have foreign : Foreign twoTenants 1 4 := by decide
  refine ⟨?_, ?_, ?_, by decide⟩
  · intro isolated
    exact absurd (isolated _ List.mem_cons_self 4 foreign).permissions (by decide)
  · intro isolated
    exact absurd (isolated _ List.mem_cons_self 4 foreign).grants (by decide)
  · intro isolated
    exact absurd (isolated _ List.mem_cons_self 4 foreign).grants (by decide)

end StoryEngine.Access
