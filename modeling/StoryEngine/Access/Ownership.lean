import StoryEngine.Access.Guards
import StoryEngine.Data.Interleaving
import StoryEngine.Data.Keys

namespace StoryEngine.Access

open Data Schema

/-! # Owners of an organization

The routes that change the role of a member and remove a member check the role and count the
owners before they write.  A request is a process whose steps are its accesses to the database; one
whose statement fails takes no more turns.  An organization keeps an owner, and only owners end
ownership, as long as an owner asks for the removal of an owner and no write undoes what another
request has checked.
-/

inductive MemberChange where
  | updateRole (memberId : RowId) (newRole : UserRole)
  | remove (memberId : RowId)

def MemberChange.memberId : MemberChange → RowId
  | .updateRole memberId _ => memberId
  | .remove memberId => memberId

inductive MemberAnswer where
  | updated (role : UserRole)
  | removed
deriving DecidableEq

inductive MemberStage where
  | arriving
  | authenticated (caller : Caller)
  | permitted (caller : Caller)
  | countingOwners (caller : Caller)
  | writing (caller : Caller)
  | done (answer : Except HttpFailure MemberAnswer)
deriving DecidableEq

structure MemberRequest where
  userId : RowId
  change : MemberChange
  stage : MemberStage := .arriving

def unauthorized : HttpFailure where
  status := 401
  error := ("unauthorized" : String)
  message := some ("Authentication required" : String)

def authenticateMember (db : Database) (userId : RowId) : Option Caller :=
  (db.users.find? (·.id == userId)).map fun user => {
    userId := user.id
    organizationId := user.organizationId
    userRole := some user.role }

def findMember (db : Database) (memberId organizationId : RowId) : Option User :=
  db.users.find? fun user => user.id == memberId && user.organizationId == organizationId

def isOwnerOf (organizationId : RowId) (user : User) : Bool :=
  user.organizationId == organizationId && user.role == .owner

def countOwners (db : Database) (organizationId : RowId) : Nat :=
  (db.users.filter (isOwnerOf organizationId)).length

def updateMemberRole (db : Database) (memberId : RowId) (role : UserRole) : Database :=
  { db with users := updateWhere db.users (·.id == memberId) fun user => { user with role } }

def removeMember (db : Database) (memberId : RowId) : Database :=
  { db with
    users := deleteWhere db.users (·.id == memberId)
    userPermissions := deleteWhere db.userPermissions (·.userId == memberId)
    userRoleAssignments := deleteWhere db.userRoleAssignments (·.userId == memberId) }

def memberNotFound : HttpFailure := notFound "Member not found"

def lastOwner : MemberChange → HttpFailure
  | .updateRole _ _ =>
    badRequest ("Cannot remove the last owner. Transfer ownership first." : String)
  | .remove _ => badRequest ("Cannot remove the last owner." : String)

def checkMember (caller : Caller) (change : MemberChange) (target : User) : MemberStage :=
  match change with
  | .updateRole _ newRole =>
    if (newRole = .owner ∨ target.role = .owner) ∧ caller.userRole ≠ some .owner then
      .done (.error (forbidden "Only owners can assign or revoke the OWNER role."))
    else if target.role = .owner ∧ newRole ≠ .owner then .countingOwners caller
    else .writing caller
  | .remove memberId =>
    if memberId = caller.userId then
      .done (.error (badRequest ("You cannot remove yourself from the organization." : String)))
    else if target.role = .owner then .countingOwners caller
    else .writing caller

def writeMember (db : Database) : MemberChange → Database × MemberAnswer
  | .updateRole memberId newRole => (updateMemberRole db memberId newRole, .updated newRole)
  | .remove memberId => (removeMember db memberId, .removed)

def memberStep (db : Database) (change : MemberChange) (userId : RowId) :
    MemberStage → Database × MemberStage
  | .arriving =>
    match authenticateMember db userId with
    | none => (db, .done (.error unauthorized))
    | some caller => (db, .authenticated caller)
  | .authenticated caller =>
    match requirePermission db .managePermissions caller with
    | .error failure => (db, .done (.error failure))
    | .ok _ => (db, .permitted caller)
  | .permitted caller =>
    match findMember db change.memberId caller.organizationId with
    | none => (db, .done (.error memberNotFound))
    | some target => (db, checkMember caller change target)
  | .countingOwners caller =>
    if countOwners db caller.organizationId ≤ 1 then (db, .done (.error (lastOwner change)))
    else (db, .writing caller)
  | .writing caller =>
    if db.users.any (·.id == change.memberId) then
      let (next, answer) := writeMember db change
      (next, .done (.ok answer))
    else (db, .writing caller)
  | .done answer => (db, .done answer)

def memberTurn (db : Database) (request : MemberRequest) : Database × MemberRequest :=
  let (next, stage) := memberStep db request.change request.userId request.stage
  (next, { request with stage })

abbrev MemberSystem := Interleaved Database MemberRequest

def OwnerIn (db : Database) (organizationId userId : RowId) : Prop :=
  ∃ user ∈ db.users, user.id = userId ∧ isOwnerOf organizationId user = true

def HasOwner (db : Database) (organizationId : RowId) : Prop :=
  ∃ user ∈ db.users, isOwnerOf organizationId user = true

def HasOtherOwner (db : Database) (organizationId userId : RowId) : Prop :=
  ∃ user ∈ db.users, user.id ≠ userId ∧ isOwnerOf organizationId user = true

instance (db : Database) (organizationId userId : RowId) :
    Decidable (OwnerIn db organizationId userId) :=
  inferInstanceAs (Decidable (∃ user ∈ db.users, _))

instance (db : Database) (organizationId : RowId) : Decidable (HasOwner db organizationId) :=
  inferInstanceAs (Decidable (∃ user ∈ db.users, _))

instance (db : Database) (organizationId userId : RowId) :
    Decidable (HasOtherOwner db organizationId userId) :=
  inferInstanceAs (Decidable (∃ user ∈ db.users, _))

def HasThirdOwner (db : Database) (organizationId first second : RowId) : Prop :=
  ∃ user ∈ db.users, user.id ≠ first ∧ user.id ≠ second ∧ isOwnerOf organizationId user = true

instance (db : Database) (organizationId first second : RowId) :
    Decidable (HasThirdOwner db organizationId first second) :=
  inferInstanceAs (Decidable (∃ user ∈ db.users, _))

def MadeByOwner (organizationId : RowId) : MemberStage → Prop
  | .writing caller =>
    caller.organizationId = organizationId ∧ caller.userRole = some .owner
  | _ => False

/-- After the turn there is an owner, and ownership was ended only for an owner. -/
def KeepsOwners (organizationId : RowId) (system : MemberSystem) (index : Nat) : Prop :=
  HasOwner (turn memberTurn system index).shared organizationId ∧
    ∀ userId, OwnerIn system.shared organizationId userId →
      ¬OwnerIn (turn memberTurn system index).shared organizationId userId →
        ∃ request, system.processes[index]? = some request ∧
          MadeByOwner organizationId request.stage

def MemberChange.endsOwnership : MemberChange → Bool
  | .updateRole _ newRole => newRole != .owner
  | .remove _ => true

def MemberChange.removes : MemberChange → Bool
  | .updateRole _ _ => false
  | .remove _ => true

/-- The caller of a request that has passed the checks of its route. -/
def MemberRequest.checked (request : MemberRequest) : Option Caller :=
  match request.stage with
  | .writing caller => some caller
  | _ => none

/-- What a write leaves of the checks of another request that is about to end an ownership.  If it ends
the ownership of another member, a third owner is left; if it makes the member of the other request an
owner, that request is an owner's. -/
def LeavesChecks (organizationId : RowId) (db : Database) (change other : MemberChange)
    (otherCaller : Caller) : Prop :=
  (change.endsOwnership = true → OwnerIn db organizationId change.memberId →
    OwnerIn db organizationId other.memberId → other.memberId ≠ change.memberId →
      HasThirdOwner db organizationId change.memberId other.memberId) ∧
  (change.endsOwnership = false → other.memberId = change.memberId →
    ¬OwnerIn db organizationId change.memberId → otherCaller.userRole = some .owner)

instance (organizationId : RowId) (db : Database) (change other : MemberChange)
    (otherCaller : Caller) : Decidable (LeavesChecks organizationId db change other otherCaller) :=
  inferInstanceAs (Decidable (_ ∧ _))

/-- An owner asks for the removal of an owner, and a write leaves the checks of the other requests. -/
def InTurn (organizationId : RowId) (db : Database) (others : Nat → Option MemberRequest)
    (places : Nat) (change : MemberChange) : MemberStage → Prop
  | .permitted caller =>
    caller.organizationId = organizationId → change.removes = true →
      OwnerIn db organizationId change.memberId → caller.userRole = some .owner
  | .writing caller =>
    caller.organizationId = organizationId →
      ∀ place < places, ∀ other ∈ others place, ∀ otherCaller ∈ other.checked,
        other.change.endsOwnership = true →
          LeavesChecks organizationId db change other.change otherCaller
  | _ => True

def InTurnAt (organizationId : RowId) (system : MemberSystem) (index : Nat) : Prop :=
  ∀ request ∈ system.processes[index]?,
    InTurn organizationId system.shared
      (fun place => if place = index then none else system.processes[place]?)
      system.processes.length request.change request.stage

instance (organizationId : RowId) (db : Database) (others : Nat → Option MemberRequest)
    (places : Nat) (change : MemberChange) :
    (stage : MemberStage) → Decidable (InTurn organizationId db others places change stage)
  | .permitted _ => inferInstanceAs (Decidable (_ → _ → _ → _))
  | .writing _ => inferInstanceAs (Decidable (_ → ∀ place < places, ∀ other ∈ others place,
      ∀ otherCaller ∈ other.checked, _ → _))
  | .arriving | .authenticated _ | .countingOwners _ | .done _ => isTrue trivial

instance (organizationId : RowId) (system : MemberSystem) (index : Nat) :
    Decidable (InTurnAt organizationId system index) :=
  inferInstanceAs (Decidable (∀ request ∈ system.processes[index]?, _))

/-- A write that ends the ownership of its member was asked for by an owner, and finds another
owner. -/
def LeavesOwner (organizationId : RowId) (db : Database) (change : MemberChange) :
    MemberStage → Prop
  | .writing caller =>
    change.endsOwnership = true → OwnerIn db organizationId change.memberId →
      caller.userRole = some .owner ∧ HasOtherOwner db organizationId change.memberId
  | _ => True

def LeavesOwnerAt (organizationId : RowId) (system : MemberSystem) (index : Nat) : Prop :=
  ∀ request ∈ system.processes[index]?,
    LeavesOwner organizationId system.shared request.change request.stage

section

variable {db : Database} {organizationId memberId userId : RowId} {change : MemberChange}
  {request : MemberRequest} {system : MemberSystem} {index : Nat} {caller : Caller}

theorem hasOwner_iff :
    HasOwner db organizationId ↔ ∃ userId, OwnerIn db organizationId userId := by
  constructor
  · intro ⟨user, member, owner⟩
    exact ⟨user.id, user, member, rfl, owner⟩
  · intro ⟨_, user, member, _, owner⟩
    exact ⟨user, member, owner⟩

theorem hasOtherOwner_iff :
    HasOtherOwner db organizationId memberId ↔
      ∃ userId, userId ≠ memberId ∧ OwnerIn db organizationId userId := by
  constructor
  · intro ⟨user, member, other, owner⟩
    exact ⟨user.id, other, user, member, rfl, owner⟩
  · intro ⟨_, other, user, member, same, owner⟩
    exact ⟨user, member, same ▸ other, owner⟩

theorem ownerIn_write_other (other : userId ≠ change.memberId) :
    OwnerIn (writeMember db change).1 organizationId userId ↔
      OwnerIn db organizationId userId := by
  cases change with
  | updateRole memberId newRole =>
    constructor
    · intro ⟨user, member, same, owner⟩
      obtain ⟨old, inOld, ⟨isMember, rfl⟩ | ⟨_, rfl⟩⟩ := mem_updateWhere.mp member
      · exact absurd (same.symm.trans (beq_iff_eq.mp isMember)) other
      · exact ⟨user, inOld, same, owner⟩
    · intro ⟨user, member, same, owner⟩
      have stays : (user.id == memberId) = false := beq_false_of_ne (same ▸ other)
      have inAfter : user ∈ (updateMemberRole db memberId newRole).users :=
        mem_updateWhere.mpr ⟨user, member, Or.inr ⟨stays, rfl⟩⟩
      exact ⟨user, inAfter, same, owner⟩
  | remove memberId =>
    constructor
    · intro ⟨user, member, same, owner⟩
      exact ⟨user, (mem_deleteWhere.mp member).1, same, owner⟩
    · intro ⟨user, member, same, owner⟩
      have stays : (user.id == memberId) = false := beq_false_of_ne (same ▸ other)
      exact ⟨user, mem_deleteWhere.mpr ⟨member, stays⟩, same, owner⟩

theorem not_ownerIn_write_member (ends : change.endsOwnership = true) :
    ¬OwnerIn (writeMember db change).1 organizationId change.memberId := by
  intro ⟨user, member, same, owner⟩
  cases change with
  | updateRole memberId newRole =>
    obtain ⟨old, inOld, ⟨_, rfl⟩ | ⟨notMember, rfl⟩⟩ := mem_updateWhere.mp member
    · simp [MemberChange.endsOwnership] at ends
      simp [isOwnerOf, ends] at owner
    · exact ne_of_beq_false notMember same
  | remove memberId =>
    exact ne_of_beq_false (mem_deleteWhere.mp member).2 same

theorem ownerIn_write_kept (kept : change.endsOwnership = false)
    (owner : OwnerIn db organizationId userId) :
    OwnerIn (writeMember db change).1 organizationId userId := by
  by_cases other : userId = change.memberId
  · obtain ⟨user, member, same, isOwner⟩ := owner
    cases change with
    | updateRole memberId newRole =>
      have isMember : (user.id == memberId) = true := beq_iff_eq.mpr (same.trans other)
      have inAfter : { user with role := newRole } ∈ (updateMemberRole db memberId newRole).users :=
        mem_updateWhere.mpr ⟨user, member, Or.inl ⟨isMember, rfl⟩⟩
      simp only [MemberChange.endsOwnership, bne_eq_false_iff_eq] at kept
      simp only [isOwnerOf, Bool.and_eq_true] at isOwner
      exact ⟨_, inAfter, same, by simp [isOwnerOf, isOwner.1, kept]⟩
    | remove memberId => cases kept
  · exact (ownerIn_write_other other).mpr owner

def OwnMember (db : Database) (change : MemberChange) (caller : Caller) : Prop :=
  ∀ user ∈ db.users, user.id = change.memberId → user.organizationId = caller.organizationId

/-- The member of a request that has passed its check belongs to the caller's organization. -/
def TargetsOwn (db : Database) (change : MemberChange) : MemberStage → Prop
  | .countingOwners caller => OwnMember db change caller
  | .writing caller => OwnMember db change caller
  | _ => True

def UsersFrom (before after : Database) : Prop :=
  ∀ user ∈ after.users, ∃ old ∈ before.users,
    old.id = user.id ∧ old.organizationId = user.organizationId

theorem UsersFrom.refl (db : Database) : UsersFrom db db := by
  intro user member
  exact ⟨user, member, rfl, rfl⟩

theorem writeMember_usersFrom (db : Database) (change : MemberChange) :
    UsersFrom db (writeMember db change).1 := by
  intro user member
  cases change with
  | updateRole memberId newRole =>
    obtain ⟨old, inOld, ⟨_, rfl⟩ | ⟨_, rfl⟩⟩ := mem_updateWhere.mp member
    · exact ⟨old, inOld, rfl, rfl⟩
    · exact ⟨user, inOld, rfl, rfl⟩
  | remove memberId => exact ⟨user, (mem_deleteWhere.mp member).1, rfl, rfl⟩

theorem OwnMember.later {after : Database} (own : OwnMember db change caller)
    (same : UsersFrom db after) : OwnMember after change caller := by
  intro user member isTarget
  obtain ⟨old, inOld, sameId, sameOrganization⟩ := same user member
  rw [← sameOrganization]
  exact own old inOld (sameId.trans isTarget)

theorem TargetsOwn.later {after : Database} {stage : MemberStage}
    (targets : TargetsOwn db change stage) (same : UsersFrom db after) :
    TargetsOwn after change stage := by
  cases stage with
  | countingOwners caller => exact OwnMember.later targets same
  | writing caller => exact OwnMember.later targets same
  | arriving | authenticated _ | permitted _ | done _ => trivial

theorem checkMember_targetsOwn {target : User} (own : OwnMember db change caller) :
    TargetsOwn db change (checkMember caller change target) := by
  cases change with
  | updateRole memberId newRole =>
    simp only [checkMember]
    split
    · trivial
    · split <;> exact own
  | remove memberId =>
    simp only [checkMember]
    split
    · trivial
    · split <;> exact own

theorem memberStep_cases (db : Database) (change : MemberChange) (userId : RowId)
    (stage : MemberStage) :
    ((memberStep db change userId stage).1 = db ∧
        ∀ caller, stage = .writing caller → ∀ user ∈ db.users, user.id ≠ change.memberId) ∨
      ∃ caller, stage = .writing caller ∧
        memberStep db change userId stage =
          ((writeMember db change).1, .done (.ok (writeMember db change).2)) := by
  cases stage with
  | arriving =>
    simp only [memberStep]
    split <;> exact Or.inl ⟨rfl, nofun⟩
  | authenticated caller =>
    simp only [memberStep]
    split <;> exact Or.inl ⟨rfl, nofun⟩
  | permitted caller =>
    simp only [memberStep]
    split <;> exact Or.inl ⟨rfl, nofun⟩
  | countingOwners caller =>
    simp only [memberStep]
    split <;> exact Or.inl ⟨rfl, nofun⟩
  | writing caller =>
    simp only [memberStep]
    split
    · exact Or.inr ⟨caller, rfl, rfl⟩
    · next gone =>
        apply Or.inl
        constructor
        · rfl
        · intro _ _ user member same
          exact gone (List.any_eq_true.mpr ⟨user, member, beq_iff_eq.mpr same⟩)
  | done answer => exact Or.inl ⟨rfl, nofun⟩

theorem memberStep_usersFrom (db : Database) (change : MemberChange) (userId : RowId)
    (stage : MemberStage) : UsersFrom db (memberStep db change userId stage).1 := by
  rcases memberStep_cases db change userId stage with ⟨same, _⟩ | ⟨caller, _, written⟩
  · rw [same]
    exact UsersFrom.refl db
  · rw [written]
    exact writeMember_usersFrom db change

theorem memberStep_targetsOwn {stage : MemberStage} (ids : (db.users.map (·.id)).Nodup)
    (targets : TargetsOwn db change stage) :
    TargetsOwn (memberStep db change userId stage).1 change
      (memberStep db change userId stage).2 := by
  have carried := targets.later (memberStep_usersFrom db change userId stage)
  cases stage with
  | arriving =>
    simp only [memberStep]
    split <;> trivial
  | authenticated caller =>
    simp only [memberStep]
    split <;> trivial
  | permitted caller =>
    simp only [memberStep]
    split
    · trivial
    · next target found =>
        apply checkMember_targetsOwn
        intro user member isTarget
        have isFound := List.find?_some found
        simp only [Bool.and_eq_true, beq_iff_eq] at isFound
        have same := List.inj_on_of_nodup_map ids member (List.mem_of_find?_eq_some found)
          (isTarget.trans isFound.1.symm)
        rw [same, isFound.2]
  | countingOwners caller =>
    simp only [memberStep] at carried ⊢
    split
    · trivial
    · exact targets
  | writing caller =>
    simp only [memberStep] at carried ⊢
    split
    · trivial
    · exact targets
  | done answer => trivial

structure MembersFit (system : MemberSystem) : Prop where
  ids : (system.shared.users.map (·.id)).Nodup
  targets : ∀ request ∈ system.processes,
    TargetsOwn system.shared request.change request.stage

theorem MembersFit.turn (fit : MembersFit system) (index : Nat) :
    MembersFit (turn memberTurn system index) := by
  cases there : system.processes[index]? with
  | none => rwa [turn_none there]
  | some request =>
    have inProcesses := List.mem_of_getElem? there
    have moved : (Data.turn memberTurn system index).shared =
        (memberStep system.shared request.change request.userId request.stage).1 := by
      rw [turn_some there]
      rfl
    constructor
    · rw [moved]
      rcases memberStep_cases system.shared request.change request.userId request.stage with
        ⟨same, _⟩ | ⟨caller, _, written⟩
      · rw [same]
        exact fit.ids
      · rw [written]
        cases request.change with
        | updateRole memberId newRole => exact nodup_updateWhere (fun _ => rfl) fit.ids
        | remove memberId => exact nodup_deleteWhere fit.ids
    · intro other member
      rw [moved]
      rcases mem_turn there member with before | rfl
      · exact (fit.targets other before).later (memberStep_usersFrom _ _ _ _)
      · exact memberStep_targetsOwn fit.ids (fit.targets request inProcesses)

theorem writeMember_keeps_iff (own : OwnMember db change caller)
    (hasOwner : HasOwner db organizationId) :
    (HasOwner (writeMember db change).1 organizationId ∧
        ∀ userId, OwnerIn db organizationId userId →
          ¬OwnerIn (writeMember db change).1 organizationId userId →
            caller.organizationId = organizationId ∧ caller.userRole = some .owner) ↔
      (change.endsOwnership = true → OwnerIn db organizationId change.memberId →
        caller.userRole = some .owner ∧ HasOtherOwner db organizationId change.memberId) := by
  obtain ⟨first, isFirst⟩ := hasOwner_iff.mp hasOwner
  have isMember {userId : RowId} (owner : OwnerIn db organizationId userId)
      (ended : ¬OwnerIn (writeMember db change).1 organizationId userId) :
      userId = change.memberId := by
    by_contra other
    exact ended ((ownerIn_write_other other).mpr owner)
  constructor
  · intro ⟨kept, forOwner⟩ ends owner
    have ended := @not_ownerIn_write_member db organizationId change ends
    constructor
    · exact (forOwner change.memberId owner ended).2
    · obtain ⟨userId, isOwner⟩ := hasOwner_iff.mp kept
      have other : userId ≠ change.memberId := by
        intro same
        exact ended (same ▸ isOwner)
      exact hasOtherOwner_iff.mpr ⟨userId, other, (ownerIn_write_other other).mp isOwner⟩
  · intro leaves
    constructor
    · by_cases ended : OwnerIn (writeMember db change).1 organizationId first
      · exact hasOwner_iff.mpr ⟨first, ended⟩
      · have same := isMember isFirst ended
        subst same
        cases ends : change.endsOwnership with
        | false => exact absurd (ownerIn_write_kept ends isFirst) ended
        | true =>
          obtain ⟨userId, other, isOwner⟩ := hasOtherOwner_iff.mp (leaves ends isFirst).2
          exact hasOwner_iff.mpr ⟨userId, (ownerIn_write_other other).mpr isOwner⟩
    · intro userId owner ended
      obtain rfl := isMember owner ended
      cases ends : change.endsOwnership with
      | false => exact absurd (ownerIn_write_kept ends owner) ended
      | true =>
        have forOwner := (leaves ends owner).1
        obtain ⟨user, member, same, isOwner⟩ := owner
        simp only [isOwnerOf, Bool.and_eq_true, beq_iff_eq] at isOwner
        exact ⟨(own user member same).symm.trans isOwner.1, forOwner⟩

theorem keepsOwners_iff (fit : MembersFit system)
    (hasOwner : HasOwner system.shared organizationId) :
    KeepsOwners organizationId system index ↔ LeavesOwnerAt organizationId system index := by
  have unchanged (same : (turn memberTurn system index).shared = system.shared) :
      KeepsOwners organizationId system index := by
    constructor
    · rwa [same]
    · intro userId owner ended
      rw [same] at ended
      exact absurd owner ended
  cases there : system.processes[index]? with
  | none =>
    have same : (turn memberTurn system index).shared = system.shared := by rw [turn_none there]
    simp [unchanged same, LeavesOwnerAt, there]
  | some request =>
    have moved : (turn memberTurn system index).shared =
        (memberStep system.shared request.change request.userId request.stage).1 := by
      rw [turn_some there]
      rfl
    have atIndex : LeavesOwnerAt organizationId system index ↔
        LeavesOwner organizationId system.shared request.change request.stage := by
      simp [LeavesOwnerAt, there]
    rw [atIndex]
    rcases memberStep_cases system.shared request.change request.userId request.stage with
      ⟨same, gone⟩ | ⟨caller, isWriting, written⟩
    · have leaves : LeavesOwner organizationId system.shared request.change request.stage := by
        cases isStage : request.stage with
        | writing caller =>
          intro _ ⟨user, member, isMember, _⟩
          exact absurd isMember (gone caller isStage user member)
        | arriving | authenticated _ | permitted _ | countingOwners _ | done _ => trivial
      exact iff_of_true (unchanged (moved.trans same)) leaves
    · rw [written] at moved
      have own := fit.targets request (List.mem_of_getElem? there)
      rw [isWriting] at own
      have leaves : LeavesOwner organizationId system.shared request.change request.stage ↔
          (request.change.endsOwnership = true →
            OwnerIn system.shared organizationId request.change.memberId →
              caller.userRole = some .owner ∧
                HasOtherOwner system.shared organizationId request.change.memberId) := by
        rw [isWriting]
        rfl
      rw [leaves, ← writeMember_keeps_iff own hasOwner, KeepsOwners, moved]
      simp [there, isWriting, MadeByOwner]

/-- What the checks of a request have found still holds. -/
def Cleared (organizationId : RowId) (db : Database) (change : MemberChange) : MemberStage → Prop
  | .countingOwners caller =>
    change.endsOwnership = true → caller.organizationId = organizationId →
      caller.userRole = some .owner
  | stage => LeavesOwner organizationId db change stage

theorem ownerIn_own (own : OwnMember db change caller)
    (owner : OwnerIn db organizationId change.memberId) :
    caller.organizationId = organizationId := by
  obtain ⟨user, member, same, isOwner⟩ := owner
  simp only [isOwnerOf, Bool.and_eq_true, beq_iff_eq] at isOwner
  exact (own user member same).symm.trans isOwner.1

theorem ownerIn_write_foreign (own : OwnMember db change caller)
    (foreign : caller.organizationId ≠ organizationId) :
    OwnerIn (writeMember db change).1 organizationId userId ↔ OwnerIn db organizationId userId := by
  by_cases other : userId = change.memberId
  · subst other
    have later := own.later (writeMember_usersFrom db change)
    exact iff_of_false (fun owner => foreign (ownerIn_own later owner))
      fun owner => foreign (ownerIn_own own owner)
  · exact ownerIn_write_other other

theorem hasOtherOwner_of_count (ids : (db.users.map (·.id)).Nodup)
    (several : ¬countOwners db organizationId ≤ 1) : HasOtherOwner db organizationId memberId := by
  by_contra none
  have alone : ∀ user ∈ db.users.filter (isOwnerOf organizationId), user.id = memberId := by
    intro user member
    obtain ⟨inUsers, owner⟩ := List.mem_filter.mp member
    by_contra other
    exact none ⟨user, inUsers, other, owner⟩
  have distinct : ((db.users.filter (isOwnerOf organizationId)).map (·.id)).Nodup :=
    ids.sublist (List.filter_sublist.map _)
  have single : (db.users.filter (isOwnerOf organizationId)).map (·.id) ⊆ [memberId] := by
    intro userId member
    obtain ⟨user, isUser, rfl⟩ := List.mem_map.mp member
    exact List.mem_singleton.mpr (alone user isUser)
  have bound := (List.subperm_of_subset distinct single).length_le
  rw [List.length_map, List.length_singleton] at bound
  exact several bound

theorem checkMember_cleared {target : User} (ids : (db.users.map (·.id)).Nodup)
    (found : findMember db change.memberId caller.organizationId = some target)
    (asked : caller.organizationId = organizationId → change.removes = true →
      OwnerIn db organizationId change.memberId → caller.userRole = some .owner) :
    Cleared organizationId db change (checkMember caller change target) := by
  have inUsers := List.mem_of_find?_eq_some found
  have isFound := List.find?_some found
  simp only [Bool.and_eq_true, beq_iff_eq] at isFound
  have seen (owner : OwnerIn db organizationId change.memberId) : target.role = .owner := by
    obtain ⟨user, member, same, isOwner⟩ := owner
    rw [List.inj_on_of_nodup_map ids inUsers member (isFound.1.trans same.symm)]
    simp only [isOwnerOf, Bool.and_eq_true, beq_iff_eq] at isOwner
    exact isOwner.2
  cases change with
  | updateRole memberId newRole =>
    simp only [checkMember]
    split
    · trivial
    · next permitted =>
        split
        · next counts =>
            intro _ _
            by_contra notOwner
            exact permitted ⟨.inr counts.1, notOwner⟩
        · next kept =>
            intro ends owner
            simp only [MemberChange.endsOwnership, bne_iff_ne] at ends
            exact absurd ⟨seen owner, ends⟩ kept
  | remove memberId =>
    simp only [checkMember]
    split
    · trivial
    · split
      · next isOwner =>
          intro _ own
          refine asked own rfl ⟨target, inUsers, isFound.1, ?_⟩
          simp [isOwnerOf, isFound.2, own, isOwner]
      · next notOwner =>
          intro _ owner
          exact absurd (seen owner) notOwner

theorem memberStep_cleared {stage : MemberStage} {others : Nat → Option MemberRequest}
    {places : Nat} (ids : (db.users.map (·.id)).Nodup) (targets : TargetsOwn db change stage)
    (cleared : Cleared organizationId db change stage)
    (inTurn : InTurn organizationId db others places change stage) :
    Cleared organizationId (memberStep db change userId stage).1 change
      (memberStep db change userId stage).2 := by
  cases stage with
  | arriving =>
    simp only [memberStep]
    split <;> trivial
  | authenticated caller =>
    simp only [memberStep]
    split <;> trivial
  | permitted caller =>
    simp only [memberStep]
    split
    · trivial
    · next target found => exact checkMember_cleared ids found inTurn
  | countingOwners caller =>
    simp only [memberStep]
    split
    · trivial
    · next several =>
        intro ends owner
        have own := ownerIn_own targets owner
        exact ⟨cleared ends own, hasOtherOwner_of_count ids (own ▸ several)⟩
  | writing caller =>
    simp only [memberStep]
    split
    · trivial
    · exact cleared
  | done answer => trivial

theorem endingWrite_leaves {other : MemberChange} {otherCaller : Caller}
    (ends : change.endsOwnership = true)
    (cleared : LeavesOwner organizationId db other (.writing otherCaller))
    (third : OwnerIn db organizationId change.memberId → OwnerIn db organizationId other.memberId →
      other.memberId ≠ change.memberId →
        HasThirdOwner db organizationId change.memberId other.memberId) :
    LeavesOwner organizationId (writeMember db change).1 other (.writing otherCaller) := by
  intro otherEnds owner
  have apart : other.memberId ≠ change.memberId := by
    intro same
    exact not_ownerIn_write_member ends (same ▸ owner)
  have before := (ownerIn_write_other apart).mp owner
  obtain ⟨byOwner, remaining⟩ := cleared otherEnds before
  refine ⟨byOwner, hasOtherOwner_iff.mpr ?_⟩
  by_cases ended : OwnerIn db organizationId change.memberId
  · obtain ⟨user, member, notFirst, notSecond, isOwner⟩ := third ended before apart
    exact ⟨user.id, notSecond, (ownerIn_write_other notFirst).mpr ⟨user, member, rfl, isOwner⟩⟩
  · obtain ⟨userId, different, isOwner⟩ := hasOtherOwner_iff.mp remaining
    have notMember : userId ≠ change.memberId := by
      rintro rfl
      exact ended isOwner
    exact ⟨userId, different, (ownerIn_write_other notMember).mpr isOwner⟩

theorem keepingWrite_leaves {other : MemberChange} {otherCaller : Caller}
    (keeps : change.endsOwnership = false) (hasOwner : HasOwner db organizationId)
    (cleared : LeavesOwner organizationId db other (.writing otherCaller))
    (asked : other.memberId = change.memberId → ¬OwnerIn db organizationId change.memberId →
      otherCaller.userRole = some .owner) :
    LeavesOwner organizationId (writeMember db change).1 other (.writing otherCaller) := by
  intro otherEnds owner
  by_cases made : other.memberId = change.memberId ∧ ¬OwnerIn db organizationId change.memberId
  · refine ⟨asked made.1 made.2, hasOtherOwner_iff.mpr ?_⟩
    obtain ⟨userId, isOwner⟩ := hasOwner_iff.mp hasOwner
    refine ⟨userId, ?_, ownerIn_write_kept keeps isOwner⟩
    rintro rfl
    exact made.2 (made.1 ▸ isOwner)
  · have before : OwnerIn db organizationId other.memberId := by
      by_cases same : other.memberId = change.memberId
      · by_contra none
        exact made ⟨same, same ▸ none⟩
      · exact (ownerIn_write_other same).mp owner
    obtain ⟨byOwner, remaining⟩ := cleared otherEnds before
    obtain ⟨userId, different, isOwner⟩ := hasOtherOwner_iff.mp remaining
    exact ⟨byOwner, hasOtherOwner_iff.mpr ⟨userId, different, ownerIn_write_kept keeps isOwner⟩⟩

/-- A write keeps the checks of a request that stands before its own write. -/
theorem writeMember_leaves {other : MemberChange} {otherCaller : Caller}
    (own : OwnMember db change caller) (hasOwner : HasOwner db organizationId)
    (cleared : LeavesOwner organizationId db other (.writing otherCaller))
    (leaves : caller.organizationId = organizationId → other.endsOwnership = true →
      LeavesChecks organizationId db change other otherCaller) :
    LeavesOwner organizationId (writeMember db change).1 other (.writing otherCaller) := by
  intro otherEnds owner
  by_cases foreign : caller.organizationId = organizationId
  · obtain ⟨third, asked⟩ := leaves foreign otherEnds
    cases ends : change.endsOwnership with
    | true => exact endingWrite_leaves ends cleared (third ends) otherEnds owner
    | false => exact keepingWrite_leaves ends hasOwner cleared (asked ends) otherEnds owner
  · obtain ⟨byOwner, remaining⟩ := cleared otherEnds ((ownerIn_write_foreign own foreign).mp owner)
    obtain ⟨userId, different, isOwner⟩ := hasOtherOwner_iff.mp remaining
    exact ⟨byOwner, hasOtherOwner_iff.mpr
      ⟨userId, different, (ownerIn_write_foreign own foreign).mpr isOwner⟩⟩

structure OwnersFit (organizationId : RowId) (system : MemberSystem) : Prop where
  members : MembersFit system
  hasOwner : HasOwner system.shared organizationId
  cleared : ∀ request ∈ system.processes,
    Cleared organizationId system.shared request.change request.stage

theorem OwnersFit.keeps (fit : OwnersFit organizationId system) (index : Nat) :
    KeepsOwners organizationId system index := by
  refine (keepsOwners_iff fit.members fit.hasOwner).mpr fun request there => ?_
  have cleared := fit.cleared request (List.mem_of_getElem? there)
  cases isStage : request.stage with
  | writing caller =>
    rw [isStage] at cleared
    exact cleared
  | arriving | authenticated _ | permitted _ | countingOwners _ | done _ => trivial

theorem OwnersFit.turn (fit : OwnersFit organizationId system)
    (inTurn : InTurnAt organizationId system index) :
    OwnersFit organizationId (turn memberTurn system index) := by
  refine ⟨fit.members.turn index, (fit.keeps index).1, fun other member => ?_⟩
  cases there : system.processes[index]? with
  | none =>
    rw [turn_none there] at member ⊢
    exact fit.cleared other member
  | some request =>
    have inProcesses := List.mem_of_getElem? there
    have atTurn := inTurn request there
    have moved : (Data.turn memberTurn system index).shared =
        (memberStep system.shared request.change request.userId request.stage).1 := by
      rw [turn_some there]
      rfl
    obtain ⟨place, isOther⟩ := List.mem_iff_getElem?.mp member
    rw [getElem?_turn there] at isOther
    rw [moved]
    split at isOther
    · obtain rfl := Option.some.inj isOther
      exact memberStep_cleared fit.members.ids (fit.members.targets request inProcesses)
        (fit.cleared request inProcesses) atTurn
    · next apart =>
        have before := fit.cleared other (List.mem_of_getElem? isOther)
        rcases memberStep_cases system.shared request.change request.userId request.stage with
          ⟨same, _⟩ | ⟨caller, isWriting, written⟩
        · rwa [same]
        · rw [written]
          have own := fit.members.targets request inProcesses
          rw [isWriting] at atTurn own
          cases isStage : other.stage with
          | writing otherCaller =>
            rw [isStage] at before
            refine writeMember_leaves own fit.hasOwner before fun organization ends => ?_
            refine atTurn organization place (List.getElem?_eq_some_iff.mp isOther).1 other ?_ _ ?_
              ends
            · exact (if_neg apart).trans isOther
            · rw [MemberRequest.checked, isStage]
              rfl
          | countingOwners otherCaller =>
            rw [isStage] at before
            exact before
          | arriving | authenticated _ | permitted _ | done _ => trivial

/-- However the requests take turns, the organization keeps an owner and only owners end ownership,
as long as an owner asks for the removal of an owner and no write undoes what another request has
checked. -/
theorem ownership_kept (ids : (system.shared.users.map (·.id)).Nodup)
    (arriving : ∀ request ∈ system.processes, request.stage = .arriving)
    (hasOwner : HasOwner system.shared organizationId) (schedule : List Nat)
    (guarded : Guarded (turn memberTurn) (InTurnAt organizationId) system schedule) :
    Guarded (turn memberTurn) (KeepsOwners organizationId) system schedule := by
  have initial : OwnersFit organizationId system := by
    refine ⟨⟨ids, ?_⟩, hasOwner, ?_⟩
    · intro request member
      rw [arriving request member]
      trivial
    · intro request member
      rw [arriving request member]
      trivial
  have fits := trace_guarded_invariant (OwnersFit organizationId)
    (fun _ _ fit inTurn => fit.turn inTurn) initial guarded
  exact fun taken member => (fits taken member).1.keeps taken.2

end

def staffed : Database where
  users := [
    { id := 1, organizationId := 1, role := .owner },
    { id := 2, organizationId := 1, role := .owner },
    { id := 3, organizationId := 1, role := .admin }]

def steppingDown : MemberSystem where
  shared := staffed
  processes := [
    { userId := 1, change := .updateRole 2 .member },
    { userId := 2, change := .updateRole 1 .member }]

/-- A third owner stays while two demote each other at once. -/
theorem third_owner_stays :
    Guarded (turn memberTurn) (KeepsOwners 1)
      { steppingDown with
        shared := { staffed with users := { id := 4, organizationId := 1, role := .owner } ::
          staffed.users } }
      [0, 1, 0, 1, 0, 1, 0, 1, 0, 1] :=
  ownership_kept (by decide) (by decide) (by decide) _ (by decide +kernel)

/-- Two owners demote each other, and an admin removes an owner. -/
theorem ownership_is_lost :
    HasOwner staffed 1 ∧
      ¬HasOwner (run (turn memberTurn) steppingDown [0, 1, 0, 1, 0, 1, 0, 1, 0, 1]).shared 1 ∧
      OwnerIn staffed 1 1 ∧
      ¬OwnerIn (run (turn memberTurn)
        { shared := staffed, processes := [{ userId := 3, change := .remove 1 }] }
        [0, 0, 0, 0, 0]).shared 1 1 := by
  decide +kernel

end StoryEngine.Access
