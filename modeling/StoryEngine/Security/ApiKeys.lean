import StoryEngine.Data.Interleaving
import StoryEngine.Data.Keys
import StoryEngine.Routes.Pages

namespace StoryEngine.Security

open Data Routes Schema

/-! # API keys

Keys are stored by the hash of their secret.  A rotation creates a new key and revokes the old
one with a grace period, a deletion revokes a key at once, and the middleware accepts a
revoked key while its grace period runs.  Each request does one database statement, or one
transaction, at a turn.
-/

structure ApiKey where
  id : RowId
  organizationId : RowId
  keyHash : Text
  keyPrefix : Text := []
  label : Text := []
  scopes : List Text := []
  expiresAt : Option Date := none
  revokedAt : Option Date := none
  replacedByKeyId : Option RowId := none
  gracePeriodEndsAt : Option Date := none
deriving DecidableEq

structure KeyStore where
  keys : List ApiKey := []
  nextId : RowId := 1
  clock : Date := 0
deriving DecidableEq

inductive KeyRefusal where
  | invalidApiKey
  | apiKeyRevoked
  | apiKeyExpired
deriving DecidableEq

def graceRuns (now : Date) (key : ApiKey) : Bool := key.gracePeriodEndsAt.any (now < ·)

def expired (now : Date) (key : ApiKey) : Bool := key.expiresAt.any (· < now)

def authenticate (hash : Text → Text) (store : KeyStore) (secret : Text) :
    Except KeyRefusal ApiKey :=
  match store.keys.find? (·.keyHash == hash secret) with
  | none => .error .invalidApiKey
  | some key =>
    if key.revokedAt.isSome && !graceRuns store.clock key then .error .apiKeyRevoked
    else if expired store.clock key then .error .apiKeyExpired
    else .ok key

structure CreateKeyInput where
  organizationId : RowId
  label : Text
  scopes : Option (List Text) := none
  expiresInDays : Option Nat := none
deriving DecidableEq

/-- A rotation that is about to run its transaction, with what it has read of the key. -/
structure Rotation where
  organizationId : RowId
  keyId : RowId
  secret : Text
  label : Text
  scopes : List Text
  expiresAt : Option Date
  gracePeriodEndsAt : Date
deriving DecidableEq

inductive KeyAnswer where
  | timePassed
  | created
  | rotated
  | validationError
  | notFound
  | keyAlreadyRevoked
  | failed
  | authenticated (keyId : RowId)
  | refused (refusal : KeyRefusal)
deriving DecidableEq

/-- Where a request stands: what it does next.  The secrets are the random ones that the
request generates. -/
inductive KeyRequest where
  | passTime (span : Nat)
  | create (input : CreateKeyInput) (secret : Text)
  | rotate (organizationId keyId : RowId) (gracePeriodHours : Nat) (secret : Text)
  | replace (rotation : Rotation)
  | link (organizationId keyId newKeyId : RowId)
  | delete (organizationId keyId : RowId)
  | revoke (organizationId keyId : RowId)
  | recordRevocation (keyId : RowId)
  /-- The answer to a deletion: revoked now, or already revoked. -/
  | deleted (keyId : RowId) (already : Bool)
  | authenticate (secret : Text)
  | answered (answer : KeyAnswer)
deriving DecidableEq

def findKey (store : KeyStore) (keyId organizationId : RowId) : Option ApiKey :=
  store.keys.find? fun key => key.id == keyId && key.organizationId == organizationId

def updateKey (store : KeyStore) (keyId organizationId : RowId) (change : ApiKey → ApiKey) :
    KeyStore :=
  { store with
    keys := updateWhere store.keys
      (fun key => key.id == keyId && key.organizationId == organizationId) change }

def createKey (hash : Text → Text) (store : KeyStore) (organizationId : RowId) (secret label : Text)
    (scopes : List Text) (expiresAt : Option Date) : Option KeyStore :=
  if store.keys.any (·.keyHash == hash secret) then none
  else some
    { store with
      nextId := store.nextId + 1
      keys := store.keys ++ [{
        id := store.nextId
        organizationId
        keyHash := hash secret
        keyPrefix := secret.take 12
        label
        scopes
        expiresAt }] }

def createBodyValid (input : CreateKeyInput) : Bool :=
  lengthWithin 1 100 input.label && input.scopes.all (!·.isEmpty) &&
    input.expiresInDays.all fun days => 1 ≤ days && days ≤ 365

def createStep (hash : Text → Text) (store : KeyStore) (input : CreateKeyInput) (secret : Text) :
    KeyStore × KeyRequest :=
  if !createBodyValid input then (store, .answered .validationError)
  else
    match createKey hash store input.organizationId secret input.label
        (input.scopes.getD [("rag:query" : String)])
        (input.expiresInDays.map fun days => store.clock + days * 86400000) with
    | none => (store, .answered .failed)
    | some next => (next, .answered .created)

def rotateStep (store : KeyStore) (organizationId keyId : RowId) (gracePeriodHours : Nat)
    (secret : Text) : KeyRequest :=
  if 168 < gracePeriodHours then .answered .validationError
  else
    match findKey store keyId organizationId with
    | none => .answered .notFound
    | some existingKey =>
      if existingKey.revokedAt.isSome then .answered .keyAlreadyRevoked
      else .replace {
        organizationId
        keyId
        secret
        label := existingKey.label
        scopes := existingKey.scopes
        expiresAt := existingKey.expiresAt
        gracePeriodEndsAt := store.clock + gracePeriodHours * 3600000 }

def replaceStep (hash : Text → Text) (store : KeyStore) (rotation : Rotation) :
    KeyStore × KeyRequest :=
  match createKey hash store rotation.organizationId rotation.secret rotation.label
      rotation.scopes rotation.expiresAt with
  | none => (store, .answered .failed)
  | some created =>
    (updateKey created rotation.keyId rotation.organizationId fun key =>
      { key with
        revokedAt := some store.clock
        gracePeriodEndsAt := some rotation.gracePeriodEndsAt },
      .link rotation.organizationId rotation.keyId store.nextId)

def deleteStep (store : KeyStore) (organizationId keyId : RowId) : KeyRequest :=
  match findKey store keyId organizationId with
  | none => .answered .notFound
  | some existingKey =>
    if existingKey.revokedAt.isSome then .deleted keyId true else .revoke organizationId keyId

def revokeKey (store : KeyStore) (organizationId keyId : RowId) : KeyStore :=
  updateKey store keyId organizationId fun key =>
    { key with revokedAt := some store.clock, gracePeriodEndsAt := none }

def keyTurn (hash : Text → Text) (store : KeyStore) : KeyRequest → KeyStore × KeyRequest
  | .passTime span => ({ store with clock := store.clock + span }, .answered .timePassed)
  | .create input secret => createStep hash store input secret
  | .rotate organizationId keyId gracePeriodHours secret =>
    (store, rotateStep store organizationId keyId gracePeriodHours secret)
  | .replace rotation => replaceStep hash store rotation
  | .link organizationId keyId newKeyId =>
    (updateKey store keyId organizationId fun key =>
      { key with replacedByKeyId := some newKeyId }, .answered .rotated)
  | .delete organizationId keyId => (store, deleteStep store organizationId keyId)
  | .revoke organizationId keyId =>
    (revokeKey store organizationId keyId, .recordRevocation keyId)
  | .recordRevocation keyId => (store, .deleted keyId false)
  | .authenticate secret =>
    (store, .answered (match Security.authenticate hash store secret with
      | .ok key => .authenticated key.id
      | .error refusal => .refused refusal))
  | .deleted keyId already => (store, .deleted keyId already)
  | .answered answer => (store, .answered answer)

abbrev KeySystem := Interleaved KeyStore KeyRequest

end StoryEngine.Security
