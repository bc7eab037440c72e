import Mathlib.Logic.Relation
import StoryEngine.Security.Scim

namespace StoryEngine.Security

open Data Schema

/-! # Ended sessions

When the identity of a user becomes inactive, the sessions of the user are to end for good.  A
patch and a deactivation revoke them; a create-or-update only sets the identity inactive, and
its sessions are accepted again once the identity is active.
-/

/-- The store, and the sessions that existed when the identity of their user became
inactive. -/
structure Watched where
  store : SessionStore
  ended : List RowId := []
deriving DecidableEq

def endedBy (before after : SessionStore) : List RowId :=
  (before.sessions.filter fun session =>
    hasInactiveIdentity after session.userId &&
      !hasInactiveIdentity before session.userId).map (·.id)

def watchedStep (cases : CaseMapping) (hash : Text → Text) (watched : Watched)
    (action : SessionAction) : Watched :=
  let next := sessionStep cases hash watched.store action
  { store := next, ended := watched.ended ++ endedBy watched.store next }

/-- The middleware accepts none of the ended sessions, whether or not it can look up the
identity. -/
def EndedRefused (hash : Text → Text) (watched : Watched) : Prop :=
  ∀ session ∈ watched.store.sessions, session.id ∈ watched.ended →
    ∀ token, hash token = session.sessionToken → ∀ lookupFails,
      (createSessionAuth hash watched.store token lookupFails).1 = none

/-- No session that existed when the identity of its user became inactive is accepted later in
the run. -/
def EndedForGood (cases : CaseMapping) (hash : Text → Text) (store : SessionStore)
    (actions : List SessionAction) : Prop :=
  ∀ taken ∈ trace (watchedStep cases hash) { store } actions,
    EndedRefused hash (watchedStep cases hash taken.1 taken.2)

def live (now : Date) (session : UserSession) : Bool :=
  session.revokedAt.isNone && decide (now < session.expiresAt)

/-- The user whose identity an operation sets inactive without revoking sessions: a
create-or-update, and a patch or a deactivation that is interrupted. -/
def deactivates (cases : CaseMapping) (store : SessionStore) : SessionAction → Option RowId
  | .createOrUpdateUser organizationId params interrupted =>
    (store.users.find? (·.email == cases.toLowerCase params.email)).bind fun user =>
      if user.organizationId = organizationId ∧ params.active = false ∧ interrupted = false ∧
          externalIdTaken store organizationId user.id params.externalId = false then
        some user.id
      else none
  | .patchUser organizationId scopedUserId patch interrupted =>
    if interrupted = true ∧ patch.active = some false then
      (findIdentity store organizationId scopedUserId).map (·.userId)
    else none
  | .deactivateUser organizationId scopedUserId interrupted =>
    if interrupted = true then
      (findIdentity store organizationId scopedUserId).map (·.userId)
    else none
  | _ => none

/-- Such an operation turns an identity inactive only when its user has no live session. -/
def EndsNoLiveSession (cases : CaseMapping) (watched : Watched) (action : SessionAction) : Prop :=
  ∀ userId ∈ deactivates cases watched.store action,
    hasInactiveIdentity watched.store userId = false →
      ∀ session ∈ watched.store.sessions, session.userId = userId →
        live watched.store.clock session = false

instance (cases : CaseMapping) (watched : Watched) (action : SessionAction) :
    Decidable (EndsNoLiveSession cases watched action) :=
  inferInstanceAs (Decidable (∀ userId ∈ deactivates cases watched.store action, _ → ∀ session ∈ _,
    _))

structure SessionTables (hash : Text → Text) (store : SessionStore) : Prop where
  sessionIds : (store.sessions.map (·.id)).Nodup
  tokens : (store.sessions.map (·.sessionToken)).Nodup
  identityIds : (store.identities.map (·.id)).Nodup
  identityUsers : (store.identities.map (·.userId)).Nodup
  secrets : ∀ session ∈ store.sessions, ∃ secret, hash secret = session.sessionToken
  owners : ∀ session ∈ store.sessions, ∃ user ∈ store.users, user.id = session.userId
  freshSessions : ∀ session ∈ store.sessions, session.id < store.nextId
  freshIdentities : ∀ identity ∈ store.identities, identity.id < store.nextId
  freshUsers : ∀ user ∈ store.users, user.id < store.nextId

section

variable {cases : CaseMapping} {hash : Text → Text} {store after : SessionStore}
  {session : UserSession} {token : Text} {userId organizationId : RowId}

theorem refused_iff (tables : SessionTables hash store) (member : session ∈ store.sessions)
    (known : hash token = session.sessionToken) :
    (∀ lookupFails, (createSessionAuth hash store token lookupFails).1 = none) ↔
      live store.clock session = false := by
  have only {row : UserSession} (inSessions : row ∈ store.sessions)
      (same : row.sessionToken = hash token) : row = session :=
    eq_of_key tables.tokens inSessions member (same.trans known)
  cases found : store.sessions.find? fun row =>
      row.sessionToken == hash token && row.revokedAt.isNone with
  | none =>
    have revoked : session.revokedAt.isNone = false := by
      have missed := List.find?_eq_none.mp found session member
      cases isRevoked : session.revokedAt with
      | none => simp [known, isRevoked] at missed
      | some moment => rfl
    simp [createSessionAuth, found, live, revoked]
  | some row =>
    have isRow : row.sessionToken = hash token ∧ row.revokedAt.isNone = true := by
      simpa using List.find?_some found
    obtain rfl := only (List.mem_of_find?_eq_some found) isRow.1
    obtain ⟨user, isUser⟩ : ∃ user, store.users.find? (·.id == row.userId) = some user := by
      obtain ⟨user, inUsers, own⟩ := tables.owners row member
      exact Option.isSome_iff_exists.mp (List.find?_isSome.mpr ⟨user, inUsers, by simp [own]⟩)
    by_cases expired : row.expiresAt ≤ store.clock
    · have past : ¬store.clock < row.expiresAt := Nat.not_lt.mpr expired
      simp [createSessionAuth, found, expired, live, past]
    · have current : store.clock < row.expiresAt := Nat.lt_of_not_le expired
      simp only [createSessionAuth, found, expired, if_false, isUser, live, isRow.2, current]
      constructor
      · intro refused
        have failing := refused true
        simp at failing
      · intro dead
        simp at dead

theorem endedRefused_iff {watched : Watched} (tables : SessionTables hash watched.store) :
    EndedRefused hash watched ↔
      ∀ session ∈ watched.store.sessions, session.id ∈ watched.ended →
        live watched.store.clock session = false := by
  constructor
  · intro refused session member isEnded
    obtain ⟨secret, known⟩ := tables.secrets session member
    exact (refused_iff tables member known).mp (refused session member isEnded secret known)
  · intro dead session member isEnded token known
    exact (refused_iff tables member known).mpr (dead session member isEnded)

inductive StoreWrite (hash : Text → Text) : SessionStore → SessionStore → Prop where
  | passTime (store : SessionStore) (span : Nat) :
      StoreWrite hash store { store with clock := store.clock + span }
  | revoke (store : SessionStore) (selects : UserSession → Bool) :
      StoreWrite hash store { store with
        sessions := updateWhere store.sessions selects fun session =>
          { session with revokedAt := some store.clock } }
  | changeIdentity (store : SessionStore) (selects : ScimIdentity → Bool)
      (change : ScimIdentity → ScimIdentity)
      (keeps : ∀ row, (change row).id = row.id ∧ (change row).userId = row.userId) :
      StoreWrite hash store (updateIdentity store selects change)
  | renameUser (store : SessionStore) (selects : User → Bool) (name : Option Text) :
      StoreWrite hash store { store with
        users := updateWhere store.users selects fun user => { user with name } }
  | newUser (store : SessionStore) (user : User) (isNew : user.id = store.nextId) :
      StoreWrite hash store { store with
        nextId := store.nextId + 1
        users := store.users ++ [user] }
  | newIdentity (store : SessionStore) (identity : ScimIdentity)
      (isNew : identity.id = store.nextId)
      (only : ∀ row ∈ store.identities, row.userId ≠ identity.userId) :
      StoreWrite hash store { store with
        nextId := store.nextId + 1
        identities := store.identities ++ [identity] }
  | newSession (store : SessionStore) (session : UserSession) (secret : Text)
      (isNew : session.id = store.nextId) (known : hash secret = session.sessionToken)
      (only : ∀ row ∈ store.sessions, row.sessionToken ≠ session.sessionToken)
      (owner : ∃ user ∈ store.users, user.id = session.userId) :
      StoreWrite hash store { store with
        nextId := store.nextId + 1
        sessions := store.sessions ++ [session] }

abbrev StoreWrites (hash : Text → Text) : SessionStore → SessionStore → Prop :=
  Relation.ReflTransGen (StoreWrite hash)

theorem writeUser_writes (hash : Text → Text) (store : SessionStore) (organizationId : RowId)
    (email : Text) (fullName : Option Text) :
    StoreWrites hash store (writeUser store organizationId email fullName).2 := by
  simp only [writeUser]
  split
  · split
    · exact .refl
    · exact .single (.renameUser store _ fullName)
  · exact .single (.newUser store _ rfl)

theorem upsertIdentity_writes (hash : Text → Text) (store : SessionStore)
    (organizationId userId : RowId) (params : CreateUserParams) :
    StoreWrites hash store (upsertIdentity store organizationId userId params) := by
  simp only [upsertIdentity]
  split
  · exact .single (.changeIdentity store _ _ fun _ => ⟨rfl, rfl⟩)
  · next absent =>
      refine .single (.newIdentity store _ rfl ?_)
      intro row member own
      exact absent (List.any_eq_true.mpr ⟨row, member, beq_iff_eq.mpr own⟩)

theorem setActive_writes (hash : Text → Text) (store : SessionStore) (identity : ScimIdentity)
    (active : Bool) : StoreWrites hash store (setActive store identity active) :=
  .single (.changeIdentity store _ _ fun _ => ⟨rfl, rfl⟩)

theorem renameUser_writes (hash : Text → Text) (store : SessionStore) (userId : RowId)
    (name : Option Text) : StoreWrites hash store (renameUser store userId name) := by
  simp only [renameUser]
  split
  · exact .refl
  · exact .single (.renameUser store _ _)

theorem createOrUpdateUser_writes (hash : Text → Text) (store : SessionStore)
    (organizationId : RowId) (params : CreateUserParams) (interrupted : Bool) :
    StoreWrites hash store (createOrUpdateUser cases store organizationId params interrupted).2 := by
  have written := writeUser_writes hash store organizationId (cases.toLowerCase params.email)
    params.fullName
  simp only [createOrUpdateUser]
  split
  · exact .refl
  · next userId next isNext =>
      rw [isNext] at written
      split
      · exact written
      · exact written.trans (upsertIdentity_writes hash next organizationId userId params)

theorem patchUser_writes (hash : Text → Text) (store : SessionStore) (organizationId : RowId)
    (scopedUserId : Text) (patch : UserPatch) (interrupted : Bool) :
    StoreWrites hash store (patchUser store organizationId scopedUserId patch interrupted).2 := by
  simp only [patchUser]
  split
  · exact .refl
  · next identity _ =>
      have patched := (setActive_writes hash store identity
        (patch.active.getD identity.active)).trans
          (renameUser_writes hash _ identity.userId patch.name)
      split
      · exact patched
      · dsimp only
        split
        · exact patched.tail (.revoke _ _)
        · exact patched

theorem deactivateUser_writes (hash : Text → Text) (store : SessionStore) (organizationId : RowId)
    (scopedUserId : Text) (interrupted : Bool) :
    StoreWrites hash store (deactivateUser store organizationId scopedUserId interrupted).2 := by
  simp only [deactivateUser]
  split
  · exact .refl
  · next identity _ =>
      have deactivated := setActive_writes hash store identity false
      split
      · exact deactivated
      · exact deactivated.tail (.revoke _ _)

theorem createSessionForUser_writes (hash : Text → Text) (store : SessionStore) (userId : RowId)
    (maxSessionAgeHours : Nat) (secret : Text) :
    StoreWrites hash store (createSessionForUser hash store userId maxSessionAgeHours secret) := by
  simp only [createSessionForUser]
  split
  · exact .refl
  · next user isUser =>
      split
      · exact .refl
      · next free =>
          refine .single (.newSession store _ secret rfl rfl ?_ ?_)
          · intro row member same
            exact free (List.any_eq_true.mpr ⟨row, member, beq_iff_eq.mpr same⟩)
          · have own : user.id = userId := by simpa using List.find?_some isUser
            exact ⟨user, List.mem_of_find?_eq_some isUser, own⟩

theorem createSessionAuth_writes (hash : Text → Text) (store : SessionStore) (token : Text)
    (lookupFails : Bool) :
    StoreWrites hash store (createSessionAuth hash store token lookupFails).2 := by
  simp only [createSessionAuth]
  split
  · exact .refl
  · split
    · exact .single (.revoke store _)
    · split
      · exact .refl
      · split
        · exact .single (.revoke store _)
        · exact .refl

theorem sessionStep_writes (hash : Text → Text) (store : SessionStore) (action : SessionAction) :
    StoreWrites hash store (sessionStep cases hash store action) := by
  cases action with
  | passTime span => exact .single (.passTime store span)
  | createOrUpdateUser organizationId params interrupted =>
    exact createOrUpdateUser_writes hash store organizationId params interrupted
  | patchUser organizationId scopedUserId patch interrupted =>
    exact patchUser_writes hash store organizationId scopedUserId patch interrupted
  | deactivateUser organizationId scopedUserId interrupted =>
    exact deactivateUser_writes hash store organizationId scopedUserId interrupted
  | login userId maxSessionAgeHours secret =>
    exact createSessionForUser_writes hash store userId maxSessionAgeHours secret
  | logout secret => exact .single (.revoke store _)
  | authenticate token lookupFails =>
    exact createSessionAuth_writes hash store token lookupFails

/-- Sessions are only revoked and added, and time goes on. -/
structure SessionMoves (before after : SessionStore) : Prop where
  clock : before.clock ≤ after.clock
  nextId : before.nextId ≤ after.nextId
  sessions : ∀ session ∈ after.sessions, before.nextId ≤ session.id ∨
    ∃ old ∈ before.sessions, old.id = session.id ∧ old.userId = session.userId ∧
      old.expiresAt = session.expiresAt ∧
      (old.revokedAt.isSome = true → session.revokedAt.isSome = true)

theorem moves_of_same (clock : store.clock ≤ after.clock) (nextId : store.nextId ≤ after.nextId)
    (sessions : after.sessions = store.sessions) : SessionMoves store after := by
  apply SessionMoves.mk clock nextId
  intro session member
  exact Or.inr ⟨session, sessions ▸ member, rfl, rfl, rfl, id⟩

theorem SessionMoves.trans {last : SessionStore} (first : SessionMoves store after)
    (second : SessionMoves after last) : SessionMoves store last := by
  apply SessionMoves.mk (Nat.le_trans first.clock second.clock)
    (Nat.le_trans first.nextId second.nextId)
  intro session member
  rcases second.sessions session member with isNew | ⟨middle, inAfter, id, user, expiry, revoked⟩
  · exact Or.inl (Nat.le_trans first.nextId isNew)
  · rcases first.sessions middle inAfter with isNew | ⟨old, inStore, oldId, oldUser, oldExpiry,
      oldRevoked⟩
    · exact Or.inl (id ▸ isNew)
    · exact Or.inr ⟨old, inStore, oldId.trans id, oldUser.trans user, oldExpiry.trans expiry,
        fun before => revoked (oldRevoked before)⟩

theorem StoreWrite.moves (write : StoreWrite hash store after) : SessionMoves store after := by
  cases write with
  | passTime span => exact moves_of_same (Nat.le_add_right _ _) (Nat.le_refl _) rfl
  | changeIdentity => exact moves_of_same (Nat.le_refl _) (Nat.le_refl _) rfl
  | renameUser => exact moves_of_same (Nat.le_refl _) (Nat.le_refl _) rfl
  | newUser => exact moves_of_same (Nat.le_refl _) (Nat.le_succ _) rfl
  | newIdentity => exact moves_of_same (Nat.le_refl _) (Nat.le_succ _) rfl
  | revoke selects =>
    refine SessionMoves.mk (Nat.le_refl _) (Nat.le_refl _) ?_
    intro session member
    obtain ⟨old, inStore, ⟨_, rfl⟩ | ⟨_, rfl⟩⟩ := mem_updateWhere.mp member
    · exact Or.inr ⟨old, inStore, rfl, rfl, rfl, fun _ => rfl⟩
    · exact Or.inr ⟨session, inStore, rfl, rfl, rfl, id⟩
  | newSession added secret isNew =>
    refine SessionMoves.mk (Nat.le_refl _) (Nat.le_succ _) ?_
    intro session member
    rcases List.mem_append.mp member with old | isAdded
    · exact Or.inr ⟨session, old, rfl, rfl, rfl, id⟩
    · obtain rfl := List.mem_singleton.mp isAdded
      exact Or.inl (Nat.le_of_eq isNew.symm)

theorem StoreWrites.moves (writes : StoreWrites hash store after) : SessionMoves store after := by
  induction writes with
  | refl => exact moves_of_same (Nat.le_refl _) (Nat.le_refl _) rfl
  | tail _ write before => exact before.trans write.moves

theorem forall_append {ρ : Type} {rows : List ρ} {row : ρ} {property : ρ → Prop}
    (old : ∀ other ∈ rows, property other) (new : property row) :
    ∀ other ∈ rows ++ [row], property other := by
  intro other member
  rcases List.mem_append.mp member with inRows | isNew
  · exact old other inRows
  · exact List.mem_singleton.mp isNew ▸ new

theorem StoreWrite.tables (write : StoreWrite hash store after)
    (tables : SessionTables hash store) : SessionTables hash after := by
  have later {below : RowId} (fresh : below < store.nextId) : below < store.nextId + 1 :=
    Nat.lt_succ_of_lt fresh
  cases write with
  | passTime span => exact { tables with }
  | revoke selects =>
    exact { tables with
      sessionIds := nodup_updateWhere (fun _ => rfl) tables.sessionIds
      tokens := nodup_updateWhere (fun _ => rfl) tables.tokens
      secrets := forall_mem_updateWhere tables.secrets fun _ _ _ => id
      owners := forall_mem_updateWhere tables.owners fun _ _ _ => id
      freshSessions := forall_mem_updateWhere tables.freshSessions fun _ _ _ => id }
  | changeIdentity selects change keeps =>
    exact { tables with
      identityIds := nodup_updateWhere (fun row => (keeps row).1) tables.identityIds
      identityUsers := nodup_updateWhere (fun row => (keeps row).2) tables.identityUsers
      freshIdentities := forall_mem_updateWhere tables.freshIdentities fun row _ _ below => by
        rw [(keeps row).1]
        exact below }
  | renameUser selects name =>
    exact { tables with
      owners := by
        intro session member
        obtain ⟨user, inUsers, own⟩ := tables.owners session member
        have kept : session.userId ∈ (updateWhere store.users selects fun user =>
            { user with name }).map (·.id) := by
          rw [map_updateWhere]
          · exact List.mem_map.mpr ⟨user, inUsers, own⟩
          · intro row
            rfl
        exact List.mem_map.mp kept
      freshUsers := forall_mem_updateWhere tables.freshUsers fun _ _ _ => id }
  | newUser user isNew =>
    exact { tables with
      owners := by
        intro session member
        obtain ⟨owner, inUsers, own⟩ := tables.owners session member
        exact ⟨owner, List.mem_append_left _ inUsers, own⟩
      freshSessions := fun row member => later (tables.freshSessions row member)
      freshIdentities := fun row member => later (tables.freshIdentities row member)
      freshUsers := forall_append (fun row member => later (tables.freshUsers row member))
        (Nat.lt_succ_of_le (Nat.le_of_eq isNew)) }
  | newIdentity identity isNew only =>
    exact { tables with
      identityIds := nodup_map_append_fresh tables.identityIds fun row member => by
        rw [isNew]
        exact Nat.ne_of_lt (tables.freshIdentities row member)
      identityUsers := nodup_map_append_fresh tables.identityUsers only
      freshSessions := fun row member => later (tables.freshSessions row member)
      freshIdentities := forall_append
        (fun row member => later (tables.freshIdentities row member))
        (Nat.lt_succ_of_le (Nat.le_of_eq isNew))
      freshUsers := fun row member => later (tables.freshUsers row member) }
  | newSession session secret isNew known only owner =>
    exact { tables with
      sessionIds := nodup_map_append_fresh tables.sessionIds fun row member => by
        rw [isNew]
        exact Nat.ne_of_lt (tables.freshSessions row member)
      tokens := nodup_map_append_fresh tables.tokens only
      secrets := forall_append tables.secrets ⟨secret, known⟩
      owners := forall_append tables.owners owner
      freshSessions := forall_append (fun row member => later (tables.freshSessions row member))
        (Nat.lt_succ_of_le (Nat.le_of_eq isNew))
      freshIdentities := fun row member => later (tables.freshIdentities row member)
      freshUsers := fun row member => later (tables.freshUsers row member) }

theorem StoreWrites.tables (writes : StoreWrites hash store after)
    (tables : SessionTables hash store) : SessionTables hash after := by
  induction writes with
  | refl => exact tables
  | tail _ write kept => exact write.tables kept

theorem upsertIdentity_inactive (store : SessionStore) (organizationId userId other : RowId)
    (params : CreateUserParams) :
    hasInactiveIdentity (upsertIdentity store organizationId userId params) other =
      if other = userId then !params.active else hasInactiveIdentity store other := by
  simp only [hasInactiveIdentity, upsertIdentity]
  split
  · next present =>
      simp only [updateIdentity]
      rw [find?_updateWhere]
      · by_cases own : other = userId
        · subst own
          have isPresent : (store.identities.find? (·.userId == other)).isSome = true := by
            rw [List.find?_isSome]
            exact List.any_eq_true.mp present
          obtain ⟨identity, found⟩ := Option.isSome_iff_exists.mp isPresent
          have isOwn : identity.userId = other := by simpa using List.find?_some found
          simp [found, isOwn]
        · rw [if_neg own]
          cases found : store.identities.find? (·.userId == other) with
          | none => rfl
          | some identity =>
            have isOwn : identity.userId = other := by simpa using List.find?_some found
            simp [isOwn, own]
      · intro row
        rfl
  · next absent =>
      have missing : store.identities.find? (·.userId == userId) = none := by
        apply List.find?_eq_none.mpr
        intro row member isRow
        exact absent (List.any_eq_true.mpr ⟨row, member, isRow⟩)
      rw [List.find?_append]
      by_cases own : other = userId
      · subst own
        simp [missing]
      · have apart : (userId == other) = false := beq_false_of_ne (Ne.symm own)
        simp [own, apart]

theorem upsertIdentity_sessions (store : SessionStore) (organizationId userId : RowId)
    (params : CreateUserParams) :
    (upsertIdentity store organizationId userId params).sessions = store.sessions ∧
      (upsertIdentity store organizationId userId params).clock = store.clock := by
  simp only [upsertIdentity]
  split <;> exact ⟨rfl, rfl⟩

theorem setActive_inactive (tables : SessionTables hash store) {identity : ScimIdentity}
    (member : identity ∈ store.identities) (active : Bool) (other : RowId) :
    hasInactiveIdentity (setActive store identity active) other =
      if other = identity.userId then !active else hasInactiveIdentity store other := by
  have only {row : ScimIdentity} (inStore : row ∈ store.identities)
      (same : row.userId = identity.userId) : row = identity :=
    eq_of_key tables.identityUsers inStore member same
  simp only [hasInactiveIdentity, setActive, updateIdentity]
  rw [find?_updateWhere]
  · by_cases own : other = identity.userId
    · subst own
      have present : (store.identities.find? (·.userId == identity.userId)).isSome = true :=
        List.find?_isSome.mpr ⟨identity, member, beq_self_eq_true identity.userId⟩
      obtain ⟨row, found⟩ := Option.isSome_iff_exists.mp present
      have isRow : row.userId = identity.userId := by simpa using List.find?_some found
      obtain rfl := only (List.mem_of_find?_eq_some found) isRow
      simp [found]
    · rw [if_neg own]
      cases found : store.identities.find? (·.userId == other) with
      | none => rfl
      | some row =>
        have isRow : row.userId = other := by simpa using List.find?_some found
        have apart : row.id ≠ identity.id := by
          intro same
          have equal := eq_of_key tables.identityIds (List.mem_of_find?_eq_some found) member same
          exact own (isRow.symm.trans (congrArg ScimIdentity.userId equal))
        simp [apart]
  · intro row
    rfl

theorem writeUser_some {email : Text} {fullName : Option Text}
    (written : writeUser store organizationId email fullName = (some userId, after)) :
    after.identities = store.identities ∧ after.sessions = store.sessions ∧
      after.clock = store.clock ∧ store.nextId ≤ after.nextId ∧
      ((∃ user, store.users.find? (·.email == email) = some user ∧ user.id = userId ∧
          user.organizationId = organizationId) ∨
        store.users.find? (·.email == email) = none ∧ userId = store.nextId) := by
  simp only [writeUser] at written
  split at written
  · next existing found =>
      split at written
      · cases written
      · next own =>
          obtain ⟨isUser, rfl⟩ := Prod.mk.inj written
          exact ⟨rfl, rfl, rfl, Nat.le_refl _,
            Or.inl ⟨existing, found, Option.some.inj isUser, by simpa using own⟩⟩
  · next missing =>
      obtain ⟨isUser, rfl⟩ := Prod.mk.inj written
      exact ⟨rfl, rfl, rfl, Nat.le_succ _, Or.inr ⟨missing, (Option.some.inj isUser).symm⟩⟩

theorem inactive_congr (same : after.identities = store.identities) :
    hasInactiveIdentity after userId = hasInactiveIdentity store userId := by
  simp only [hasInactiveIdentity, same]

theorem renameUser_rows (store : SessionStore) (userId : RowId) (name : Option Text) :
    (renameUser store userId name).identities = store.identities ∧
      (renameUser store userId name).sessions = store.sessions ∧
      (renameUser store userId name).clock = store.clock := by
  simp only [renameUser]
  split <;> exact ⟨rfl, rfl, rfl⟩

theorem findIdentity_mem {scopedUserId : Text} {identity : ScimIdentity}
    (found : findIdentity store organizationId scopedUserId = some identity) :
    identity ∈ store.identities :=
  List.mem_of_find?_eq_some found

theorem revokeSessions_revoked :
    ∀ session ∈ (revokeSessions store userId).sessions, session.userId = userId →
      session.revokedAt.isSome = true := by
  intro session member own
  obtain ⟨old, _, ⟨_, rfl⟩ | ⟨outside, rfl⟩⟩ := mem_updateWhere.mp member
  · rfl
  · cases isRevoked : session.revokedAt with
    | none => simp [own, isRevoked] at outside
    | some moment => rfl

theorem deactivateUser_eq_patchUser (store : SessionStore) (organizationId : RowId)
    (scopedUserId : Text) (interrupted : Bool) :
    (deactivateUser store organizationId scopedUserId interrupted).2 =
      (patchUser store organizationId scopedUserId { active := some false } interrupted).2 := by
  simp only [deactivateUser, patchUser]
  cases findIdentity store organizationId scopedUserId with
  | none => rfl
  | some identity => cases interrupted <;> rfl

section

variable {scopedUserId : Text} {identity : ScimIdentity}

theorem patchUser_identities (patch : UserPatch) (interrupted : Bool)
    (found : findIdentity store organizationId scopedUserId = some identity) :
    (patchUser store organizationId scopedUserId patch interrupted).2.identities =
      (setActive store identity (patch.active.getD identity.active)).identities := by
  have renamed := (renameUser_rows (setActive store identity (patch.active.getD identity.active))
    identity.userId patch.name).1
  simp only [patchUser, found]
  split
  · exact renamed
  · dsimp only
    split
    · exact renamed
    · exact renamed

theorem patchUser_revokes {patch : UserPatch} (off : patch.active = some false)
    (found : findIdentity store organizationId scopedUserId = some identity) :
    ∀ session ∈ (patchUser store organizationId scopedUserId patch false).2.sessions,
      session.userId = identity.userId → session.revokedAt.isSome = true := by
  simp only [patchUser, found, off, Bool.false_eq_true, if_false, if_true]
  exact revokeSessions_revoked

theorem patchUser_interrupted (patch : UserPatch) :
    (patchUser store organizationId scopedUserId patch true).2.sessions = store.sessions ∧
      (patchUser store organizationId scopedUserId patch true).2.clock = store.clock := by
  simp only [patchUser]
  cases findIdentity store organizationId scopedUserId with
  | none => exact ⟨rfl, rfl⟩
  | some identity => exact (renameUser_rows _ identity.userId patch.name).2

theorem patchUser_inactive (tables : SessionTables hash store) {patch : UserPatch}
    {interrupted : Bool} (found : findIdentity store organizationId scopedUserId = some identity)
    (before : hasInactiveIdentity store userId = false)
    (inactive : hasInactiveIdentity
      (patchUser store organizationId scopedUserId patch interrupted).2 userId = true) :
    userId = identity.userId ∧ patch.active = some false := by
  have member := findIdentity_mem found
  rw [inactive_congr (patchUser_identities patch interrupted found),
    setActive_inactive tables member] at inactive
  split at inactive
  · next own =>
      have wasActive : identity.active = true := by
        have isFound := (find?_key_eq_some tables.identityUsers).mpr ⟨member, own.symm⟩
        simpa [hasInactiveIdentity, isFound] using before
      cases asked : patch.active with
      | none => simp [asked, wasActive] at inactive
      | some active =>
        have off : active = false := by simpa [asked] using inactive
        exact ⟨own, off ▸ rfl⟩
  · rw [before] at inactive
    cases inactive

end

/-- An identity turns inactive in a step that leaves the user no session unrevoked, or in one
that leaves the sessions as they are. -/
theorem sessionStep_inactive (tables : SessionTables hash store) (action : SessionAction)
    (before : hasInactiveIdentity store userId = false)
    (inactive : hasInactiveIdentity (sessionStep cases hash store action) userId = true) :
    deactivates cases store action = some userId ∨
      ∀ session ∈ (sessionStep cases hash store action).sessions, session.userId = userId →
        session.revokedAt.isSome = true := by
  have unchanged {next : SessionStore} (same : next.identities = store.identities)
      (turned : hasInactiveIdentity next userId = true) : False := by
    rw [inactive_congr same, before] at turned
    cases turned
  have patched {organizationId : RowId} {scopedUserId : Text} (patch : UserPatch)
      (interrupted : Bool) (turned : hasInactiveIdentity
        (patchUser store organizationId scopedUserId patch interrupted).2 userId = true) :
      (interrupted = true ∧ patch.active = some false ∧
          (findIdentity store organizationId scopedUserId).map (·.userId) = some userId) ∨
        ∀ session ∈ (patchUser store organizationId scopedUserId patch interrupted).2.sessions,
          session.userId = userId → session.revokedAt.isSome = true := by
    cases found : findIdentity store organizationId scopedUserId with
    | none =>
      simp only [patchUser, found] at turned
      exact (unchanged rfl turned).elim
    | some identity =>
      obtain ⟨rfl, off⟩ := patchUser_inactive tables found before turned
      cases interrupted with
      | true => exact Or.inl ⟨rfl, off, rfl⟩
      | false => exact Or.inr (patchUser_revokes off found)
  cases action with
  | passTime span => exact (unchanged rfl inactive).elim
  | createOrUpdateUser organizationId params interrupted =>
    simp only [sessionStep, createOrUpdateUser] at inactive ⊢
    split at inactive
    · exact (unchanged rfl inactive).elim
    · next target next written =>
        obtain ⟨identities, sessions, _, _, source⟩ := writeUser_some written
        split at inactive
        · exact (unchanged identities inactive).elim
        · next passes =>
            rw [upsertIdentity_inactive] at inactive
            split at inactive
            · next own =>
                subst own
                have off : params.active = false := by simpa using inactive
                have free : interrupted = false ∧
                    externalIdTaken store organizationId userId params.externalId = false := by
                  simpa [externalIdTaken, identities] using passes
                rcases source with ⟨user, found, isUser, own⟩ | ⟨_, isNew⟩
                · left
                  subst isUser
                  simp [deactivates, found, own, off, free.1, free.2]
                · right
                  intro session member ofUser
                  have inStore : session ∈ store.sessions := by
                    have moved : session ∈ next.sessions := by
                      rw [if_neg passes, (upsertIdentity_sessions _ _ _ _).1] at member
                      exact member
                    rwa [sessions] at moved
                  obtain ⟨user, inUsers, isOwner⟩ := tables.owners session inStore
                  have below := tables.freshUsers user inUsers
                  rw [isOwner, ofUser, isNew] at below
                  exact absurd below (Nat.lt_irrefl _)
            · rw [inactive_congr identities, before] at inactive
              cases inactive
  | patchUser organizationId scopedUserId patch interrupted =>
    rcases patched patch interrupted inactive with ⟨isInterrupted, off, own⟩ | revoked
    · left
      simpa only [deactivates, isInterrupted, off, and_self, if_true] using own
    · exact Or.inr revoked
  | deactivateUser organizationId scopedUserId interrupted =>
    simp only [sessionStep, deactivateUser_eq_patchUser] at inactive ⊢
    rcases patched { active := some false } interrupted inactive with
      ⟨isInterrupted, _, own⟩ | revoked
    · left
      simpa only [deactivates, isInterrupted, if_true] using own
    · exact Or.inr revoked
  | login userId maxSessionAgeHours secret =>
    simp only [sessionStep, createSessionForUser] at inactive
    split at inactive
    · exact (unchanged rfl inactive).elim
    · split at inactive <;> exact (unchanged rfl inactive).elim
  | logout secret => exact (unchanged rfl inactive).elim
  | authenticate token lookupFails =>
    simp only [sessionStep, createSessionAuth] at inactive
    split at inactive
    · exact (unchanged rfl inactive).elim
    · split at inactive
      · exact (unchanged rfl inactive).elim
      · split at inactive
        · exact (unchanged rfl inactive).elim
        · split at inactive <;> exact (unchanged rfl inactive).elim

theorem deactivates_inactive (tables : SessionTables hash store) {action : SessionAction}
    (asked : deactivates cases store action = some userId) :
    hasInactiveIdentity (sessionStep cases hash store action) userId = true ∧
      (sessionStep cases hash store action).sessions = store.sessions ∧
      (sessionStep cases hash store action).clock = store.clock := by
  have patched {organizationId : RowId} {scopedUserId : Text} {patch : UserPatch}
      (off : patch.active = some false)
      (own : (findIdentity store organizationId scopedUserId).map (·.userId) = some userId) :
      hasInactiveIdentity (patchUser store organizationId scopedUserId patch true).2 userId =
        true := by
    obtain ⟨identity, found, rfl⟩ := Option.map_eq_some_iff.mp own
    rw [inactive_congr (patchUser_identities patch true found),
      setActive_inactive tables (findIdentity_mem found), if_pos rfl, off]
    rfl
  cases action with
  | createOrUpdateUser organizationId params interrupted =>
    simp only [deactivates, Option.bind_eq_some_iff] at asked
    obtain ⟨user, found, isAsked⟩ := asked
    split at isAsked
    · next holds =>
        obtain ⟨own, off, rfl, free⟩ := holds
        obtain rfl := Option.some.inj isAsked
        have free' (users : List User) :
            externalIdTaken { store with users } organizationId user.id params.externalId =
              false := free
        have apart : ¬user.organizationId ≠ organizationId := not_not.mpr own
        simp only [sessionStep, createOrUpdateUser, writeUser, found, if_neg apart, free',
          Bool.false_or, Bool.false_eq_true, if_false]
        refine ⟨?_, upsertIdentity_sessions _ _ _ _⟩
        rw [upsertIdentity_inactive, if_pos rfl, off]
        rfl
    · cases isAsked
  | patchUser organizationId scopedUserId patch interrupted =>
    simp only [deactivates] at asked
    split at asked
    · next holds =>
        obtain ⟨rfl, off⟩ := holds
        exact ⟨patched off asked, patchUser_interrupted patch⟩
    · cases asked
  | deactivateUser organizationId scopedUserId interrupted =>
    simp only [deactivates] at asked
    split at asked
    · next holds =>
        subst holds
        simp only [sessionStep, deactivateUser_eq_patchUser]
        exact ⟨patched rfl asked, patchUser_interrupted { active := some false }⟩
    · cases asked
  | passTime span => cases asked
  | login userId maxSessionAgeHours secret => cases asked
  | logout secret => cases asked
  | authenticate token lookupFails => cases asked

/-- The tables are well formed, and ended sessions are rows of the past. -/
structure WatchedTables (hash : Text → Text) (watched : Watched) : Prop where
  tables : SessionTables hash watched.store
  past : ∀ id ∈ watched.ended, id < watched.store.nextId

theorem mem_endedBy {id : RowId} :
    id ∈ endedBy store after ↔ ∃ session ∈ store.sessions, session.id = id ∧
      hasInactiveIdentity after session.userId = true ∧
      hasInactiveIdentity store session.userId = false := by
  simp only [endedBy, List.mem_map, List.mem_filter, Bool.and_eq_true, Bool.not_eq_true']
  constructor
  · intro ⟨session, ⟨member, turned⟩, own⟩
    exact ⟨session, member, own, turned⟩
  · intro ⟨session, member, own, turned⟩
    exact ⟨session, ⟨member, turned⟩, own⟩

theorem SessionMoves.dead (moves : SessionMoves store after) (isAfter : session ∈ after.sessions)
    (below : session.id < store.nextId)
    (dead : ∀ old ∈ store.sessions, old.id = session.id → live store.clock old = false) :
    live after.clock session = false := by
  rcases moves.sessions session isAfter with isNew | ⟨old, member, own, _, expiry, revoked⟩
  · exact absurd below (Nat.not_lt_of_le isNew)
  · have wasDead := dead old member own
    cases isRevoked : old.revokedAt with
    | some moment =>
      cases still : session.revokedAt with
      | some _ => simp [live, still]
      | none => simp [isRevoked, still] at revoked
    | none =>
      have expired : ¬store.clock < old.expiresAt := by simpa [live, isRevoked] using wasDead
      have later : ¬after.clock < session.expiresAt :=
        Nat.not_lt.mpr (expiry ▸ Nat.le_trans (Nat.not_lt.mp expired) moves.clock)
      simp [live, later]

theorem watchedStep_tables {watched : Watched} (action : SessionAction)
    (kept : WatchedTables hash watched) :
    WatchedTables hash (watchedStep cases hash watched action) := by
  have writes := @sessionStep_writes cases hash watched.store action
  refine ⟨writes.tables kept.tables, ?_⟩
  intro id member
  rcases List.mem_append.mp member with before | isNew
  · exact Nat.lt_of_lt_of_le (kept.past id before) writes.moves.nextId
  · obtain ⟨session, inStore, rfl, _⟩ := mem_endedBy.mp isNew
    exact Nat.lt_of_lt_of_le (kept.tables.freshSessions session inStore) writes.moves.nextId

theorem watchedStep_endedRefused_iff {watched : Watched} (action : SessionAction)
    (kept : WatchedTables hash watched) (refused : EndedRefused hash watched) :
    EndedRefused hash (watchedStep cases hash watched action) ↔
      EndsNoLiveSession cases watched action := by
  have moves := (@sessionStep_writes cases hash watched.store action).moves
  have dead := (endedRefused_iff kept.tables).mp refused
  rw [endedRefused_iff (watchedStep_tables action kept).tables]
  constructor
  · intro deadAfter userId isAsked before session member own
    obtain ⟨turned, sessions, clock⟩ := @deactivates_inactive cases hash _ _ kept.tables _ isAsked
    have isEnded : session.id ∈ (watchedStep cases hash watched action).ended := by
      apply List.mem_append_right
      exact mem_endedBy.mpr ⟨session, member, rfl, own ▸ turned, own ▸ before⟩
    have isAfter : session ∈ (watchedStep cases hash watched action).store.sessions := by
      simp only [watchedStep, sessions]
      exact member
    have deadSession := deadAfter session isAfter isEnded
    simpa only [watchedStep, clock] using deadSession
  · intro holds session isAfter isEnded
    have below {id : RowId} (member : id ∈ watched.ended) := kept.past id member
    rcases List.mem_append.mp isEnded with before | isNew
    · apply moves.dead isAfter (below before)
      intro old member own
      exact dead old member (own ▸ before)
    · obtain ⟨old, member, own, turned, before⟩ := mem_endedBy.mp isNew
      have isBelow : session.id < watched.store.nextId :=
        own ▸ kept.tables.freshSessions old member
      have only {row : UserSession} (inStore : row ∈ watched.store.sessions)
          (same : row.id = session.id) : row = old :=
        eq_of_key kept.tables.sessionIds inStore member (same.trans own.symm)
      rcases sessionStep_inactive kept.tables action before turned with isAsked | revoked
      · apply moves.dead isAfter isBelow
        intro row inStore same
        rw [only inStore same]
        exact holds old.userId isAsked before old member rfl
      · have ofUser : session.userId = old.userId := by
          rcases moves.sessions session isAfter with isNew | ⟨row, inStore, same, user, _⟩
          · exact absurd isBelow (Nat.not_lt_of_le isNew)
          · rw [← user, only inStore same]
        have isRevoked := revoked session isAfter ofUser
        cases still : session.revokedAt with
        | none => simp [still] at isRevoked
        | some moment => simp [live, still]

/-- From well-formed tables, sessions end for good exactly when no operation of the run sets an
identity inactive and leaves its user a live session. -/
theorem sessions_ended_for_good_iff (actions : List SessionAction)
    (tables : SessionTables hash store) :
    EndedForGood cases hash store actions ↔
      Guarded (watchedStep cases hash) (EndsNoLiveSession cases) { store } actions := by
  have start : WatchedTables hash { store } := ⟨tables, fun _ member => by cases member⟩
  have refused : EndedRefused hash { store } := fun _ _ isEnded => by cases isEnded
  exact (guarded_iff_trace (WatchedTables hash) (EndedRefused hash)
    (fun _ action kept => watchedStep_tables action kept)
    (fun _ action kept holds => watchedStep_endedRefused_iff action kept holds)
    start refused).symm

/-- A revoked or expired session is never accepted again, whatever happens later. -/
theorem dead_sessions_stay_refused (actions : List SessionAction)
    (tables : SessionTables hash store) (member : session ∈ store.sessions)
    (dead : live store.clock session = false) :
    let later := run (sessionStep cases hash) store actions
    ∀ row ∈ later.sessions, row.id = session.id → hash token = row.sessionToken →
      ∀ lookupFails, (createSessionAuth hash later token lookupFails).1 = none := by
  intro later row inLater same known
  have writes : StoreWrites hash store later :=
    run_invariant (StoreWrites hash store)
      (fun next action reached => reached.trans (sessionStep_writes hash next action)) actions .refl
  refine (refused_iff (writes.tables tables) inLater known).mpr ?_
  apply writes.moves.dead inLater
  · rw [same]
    exact tables.freshSessions session member
  · intro old inStore own
    rw [eq_of_key tables.sessionIds inStore member (own.trans same)]
    exact dead

end

def provisioned : SessionStore where
  users := [{
    id := 1, organizationId := 5, role := .member, email := ("ada@b.c" : String).toList,
    name := none }]
  identities := [{
    id := 2, organizationId := 5, userId := 1, externalId := ("e1" : String).toList }]
  nextId := 3

theorem provisioned_tables : SessionTables (fun secret => secret) provisioned where
  sessionIds := by decide
  tokens := by decide
  identityIds := by decide
  identityUsers := by decide
  secrets := by
    intro session _
    exact ⟨session.sessionToken, rfl⟩
  owners := by decide
  freshSessions := by decide
  freshIdentities := by decide
  freshUsers := by decide

def asWritten : CaseMapping := ⟨id, id⟩

/-- A login, a deactivation, a reactivation, and the token of the login again. -/
theorem patched_sessions_end_for_good :
    EndedForGood asWritten (fun secret => secret) provisioned
      [.login 1 8 ("s" : String).toList,
        .patchUser 5 ("e1" : String).toList { active := some false } false,
        .patchUser 5 ("e1" : String).toList { active := some true } false,
        .authenticate ("s" : String).toList false] :=
  (sessions_ended_for_good_iff _ provisioned_tables).mpr (by decide +kernel)

def adaAs (active : Bool) : SessionAction :=
  .createOrUpdateUser 5 {
    externalId := ("e1" : String).toList, email := ("ada@b.c" : String).toList, active } false

def loggedOut : SessionStore :=
  run (sessionStep asWritten fun secret => secret) provisioned
    [.login 1 8 ("s" : String).toList, .logout ("s" : String).toList]

theorem loggedOut_stays_refused :
    (createSessionAuth (fun secret => secret)
      (run (sessionStep asWritten fun secret => secret) loggedOut [adaAs false, adaAs true])
      ("s" : String).toList false).1 = none := by
  have tables : SessionTables (fun secret => secret) loggedOut :=
    run_invariant (SessionTables fun secret => secret)
      (fun store action kept => (sessionStep_writes _ store action).tables kept) _
      provisioned_tables
  exact dead_sessions_stay_refused _ tables List.mem_cons_self rfl _ List.mem_cons_self rfl rfl
    false

/-- With the identity set inactive and active again by create-or-update, the old token is
accepted. -/
theorem recreated_sessions_are_accepted :
    (run (watchedStep asWritten fun secret => secret) { store := provisioned }
        [.login 1 8 ("s" : String).toList, adaAs false, adaAs true]).ended = [3] ∧
      (createSessionAuth (fun secret => secret)
        (run (watchedStep asWritten fun secret => secret) { store := provisioned }
          [.login 1 8 ("s" : String).toList, adaAs false, adaAs true]).store
        ("s" : String).toList false).1 =
          some { sessionId := 3, userId := 1, organizationId := 5, userRole := .member } ∧
      SessionTables (fun secret => secret) provisioned ∧
      ¬EndedForGood asWritten (fun secret => secret) provisioned
        [.login 1 8 ("s" : String).toList, adaAs false, adaAs true] := by
  refine ⟨by decide +kernel, by decide +kernel, provisioned_tables, ?_⟩
  intro ended
  have refused := ended (run (watchedStep asWritten fun secret => secret) { store := provisioned }
    [.login 1 8 ("s" : String).toList, adaAs false], adaAs true) (by decide +kernel)
  have accepted := refused _ List.mem_cons_self (by decide +kernel) ("s" : String).toList rfl false
  revert accepted
  decide +kernel

end StoryEngine.Security
