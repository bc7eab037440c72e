import StoryEngine.Data.Keys
import StoryEngine.Data.Run
import StoryEngine.Schema.Database
import StoryEngine.Text.Case

namespace StoryEngine.Security

open Data Schema

/-! # SCIM identities and sessions

An identity provider creates, changes and deactivates the users of an organization.  A session
is accepted while it is neither revoked nor expired and its user has no inactive identity.
-/

structure UserSession where
  id : RowId
  organizationId : RowId
  userId : RowId
  sessionToken : Text
  revokedAt : Option Date := none
  expiresAt : Date
deriving DecidableEq

structure ScimIdentity where
  id : RowId
  organizationId : RowId
  userId : RowId
  externalId : Text
  active : Bool := true
  lastSyncedAt : Option Date := none
deriving DecidableEq

structure SessionStore where
  users : List User := []
  identities : List ScimIdentity := []
  sessions : List UserSession := []
  nextId : RowId := 1
  clock : Date := 0
deriving DecidableEq

structure ScimUserResult where
  id : RowId
  externalId : Text
  userName : Text
  active : Bool

inductive ScimFailure where
  | differentOrganization
  | identityNotFound
  /-- An error of the database. -/
  | database

structure CreateUserParams where
  externalId : Text
  email : Text
  fullName : Option Text := none
  active : Bool := true
deriving DecidableEq

structure UserPatch where
  active : Option Bool := none
  name : Option Text := none
deriving DecidableEq

def updateIdentity (store : SessionStore) (selects : ScimIdentity → Bool)
    (change : ScimIdentity → ScimIdentity) : SessionStore :=
  { store with identities := updateWhere store.identities selects change }

def writeUser (store : SessionStore) (organizationId : RowId) (email : Text)
    (fullName : Option Text) : Option RowId × SessionStore :=
  match store.users.find? (·.email == email) with
  | some existing =>
    if existing.organizationId ≠ organizationId then (none, store)
    else (some existing.id, { store with
      users := updateWhere store.users (·.id == existing.id) fun user =>
        { user with name := fullName } })
  | none =>
    (some store.nextId, { store with
      nextId := store.nextId + 1
      users := store.users ++ [{
        id := store.nextId, organizationId, role := .member, email, name := fullName }] })

def externalIdTaken (store : SessionStore) (organizationId userId : RowId) (externalId : Text) :
    Bool :=
  store.identities.any fun identity =>
    identity.userId != userId && identity.organizationId == organizationId &&
      identity.externalId == externalId

def upsertIdentity (store : SessionStore) (organizationId userId : RowId)
    (params : CreateUserParams) : SessionStore :=
  if store.identities.any (·.userId == userId) then
    updateIdentity store (·.userId == userId) fun identity =>
      { identity with
        externalId := params.externalId
        active := params.active
        lastSyncedAt := some store.clock }
  else
    { store with
      nextId := store.nextId + 1
      identities := store.identities ++ [{
        id := store.nextId
        organizationId
        userId
        externalId := params.externalId
        active := params.active
        lastSyncedAt := some store.clock }] }

/-- The sessions of the user are left as they are.  `interrupted` is an error after the user
was written. -/
def createOrUpdateUser (cases : CaseMapping) (store : SessionStore) (organizationId : RowId)
    (params : CreateUserParams) (interrupted : Bool) :
    Except ScimFailure ScimUserResult × SessionStore :=
  let normalizedEmail := cases.toLowerCase params.email
  match writeUser store organizationId normalizedEmail params.fullName with
  | (none, _) => (.error .differentOrganization, store)
  | (some userId, written) =>
    if interrupted || externalIdTaken written organizationId userId params.externalId then
      (.error .database, written)
    else
      (.ok {
          id := userId
          externalId := params.externalId
          userName := normalizedEmail
          active := params.active },
        upsertIdentity written organizationId userId params)

def findIdentity (store : SessionStore) (organizationId : RowId) (scopedUserId : Text) :
    Option ScimIdentity :=
  store.identities.find? fun identity =>
    identity.organizationId == organizationId &&
      (identity.externalId == scopedUserId || identity.userId.text == scopedUserId)

def revokeSessions (store : SessionStore) (userId : RowId) : SessionStore :=
  { store with
    sessions := updateWhere store.sessions
      (fun session => session.userId == userId && session.revokedAt.isNone) fun session =>
        { session with revokedAt := some store.clock } }

def setActive (store : SessionStore) (identity : ScimIdentity) (active : Bool) : SessionStore :=
  updateIdentity store (·.id == identity.id) fun row =>
    { row with active, lastSyncedAt := some store.clock }

def renameUser (store : SessionStore) (userId : RowId) (name : Option Text) : SessionStore :=
  match name.filter (!·.isEmpty) with
  | none => store
  | some name =>
    { store with
      users := updateWhere store.users (·.id == userId) fun user =>
        { user with name := some name } }

/-- `interrupted` is an error between the two statements. -/
def patchUser (store : SessionStore) (organizationId : RowId) (scopedUserId : Text)
    (patch : UserPatch) (interrupted : Bool) : Except ScimFailure ScimUserResult × SessionStore :=
  match findIdentity store organizationId scopedUserId with
  | none => (.error .identityNotFound, store)
  | some identity =>
    let active := patch.active.getD identity.active
    let patched := renameUser (setActive store identity active) identity.userId patch.name
    if interrupted then (.error .database, patched)
    else
      (.ok { id := identity.userId, externalId := identity.externalId, active, userName := [] },
        if patch.active = some false then revokeSessions patched identity.userId else patched)

def deactivateUser (store : SessionStore) (organizationId : RowId) (scopedUserId : Text)
    (interrupted : Bool) : Except ScimFailure Bool × SessionStore :=
  match findIdentity store organizationId scopedUserId with
  | none => (.ok false, store)
  | some identity =>
    let deactivated := setActive store identity false
    if interrupted then (.error .database, deactivated)
    else (.ok true, revokeSessions deactivated identity.userId)

def createSessionForUser (hash : Text → Text) (store : SessionStore) (userId : RowId)
    (maxSessionAgeHours : Nat) (secret : Text) : SessionStore :=
  match store.users.find? (·.id == userId) with
  | none => store
  | some user =>
    if store.sessions.any (·.sessionToken == hash secret) then store
    else
      { store with
        nextId := store.nextId + 1
        sessions := store.sessions ++ [{
          id := store.nextId
          organizationId := user.organizationId
          userId
          sessionToken := hash secret
          expiresAt := store.clock + max 1 maxSessionAgeHours * 3600000 }] }

def revokeSession (store : SessionStore) (sessionId : RowId) : SessionStore :=
  { store with
    sessions := updateWhere store.sessions
      (fun session => session.id == sessionId && session.revokedAt.isNone) fun session =>
        { session with revokedAt := some store.clock } }

structure AuthContext where
  sessionId : RowId
  userId : RowId
  organizationId : RowId
  userRole : UserRole
deriving DecidableEq

def hasInactiveIdentity (store : SessionStore) (userId : RowId) : Bool :=
  (store.identities.find? (·.userId == userId)).any (!·.active)

/-- What the middleware makes of a token; when the look-up of the identity fails, the session
is accepted. -/
def createSessionAuth (hash : Text → Text) (store : SessionStore) (token : Text)
    (lookupFails : Bool) : Option AuthContext × SessionStore :=
  match store.sessions.find? fun session =>
      session.sessionToken == hash token && session.revokedAt.isNone with
  | none => (none, store)
  | some session =>
    if session.expiresAt ≤ store.clock then (none, revokeSession store session.id)
    else
      match store.users.find? (·.id == session.userId) with
      | none => (none, store)
      | some user =>
        if !lookupFails && hasInactiveIdentity store user.id then
          (none, revokeSession store session.id)
        else
          (some {
            sessionId := session.id
            userId := user.id
            organizationId := user.organizationId
            userRole := user.role }, store)

inductive SessionAction where
  | passTime (span : Nat)
  | createOrUpdateUser (organizationId : RowId) (params : CreateUserParams) (interrupted : Bool)
  | patchUser (organizationId : RowId) (scopedUserId : Text) (patch : UserPatch)
      (interrupted : Bool)
  | deactivateUser (organizationId : RowId) (scopedUserId : Text) (interrupted : Bool)
  | login (userId : RowId) (maxSessionAgeHours : Nat) (secret : Text)
  | logout (secret : Text)
  | authenticate (token : Text) (lookupFails : Bool)
deriving DecidableEq

def sessionStep (cases : CaseMapping) (hash : Text → Text) (store : SessionStore) :
    SessionAction → SessionStore
  | .passTime span => { store with clock := store.clock + span }
  | .createOrUpdateUser organizationId params interrupted =>
    (createOrUpdateUser cases store organizationId params interrupted).2
  | .patchUser organizationId scopedUserId patch interrupted =>
    (patchUser store organizationId scopedUserId patch interrupted).2
  | .deactivateUser organizationId scopedUserId interrupted =>
    (deactivateUser store organizationId scopedUserId interrupted).2
  | .login userId maxSessionAgeHours secret =>
    createSessionForUser hash store userId maxSessionAgeHours secret
  | .logout secret =>
    { store with
      sessions := updateWhere store.sessions
        (fun session => session.sessionToken == hash secret && session.revokedAt.isNone)
        fun session => { session with revokedAt := some store.clock } }
  | .authenticate token lookupFails => (createSessionAuth hash store token lookupFails).2

end StoryEngine.Security
