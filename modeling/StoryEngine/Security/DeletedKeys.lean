import StoryEngine.Security.ApiKeys

namespace StoryEngine.Security

open Data Schema

/-! # Deleted keys

A deletion that finds its key already revoked is answered without ending the grace period, and
the transaction of a rotation sets one whatever has become of the key since it was read.
-/

def Deleted (system : KeySystem) (keyId : RowId) : Prop :=
  ∃ already, KeyRequest.deleted keyId already ∈ system.processes

instance (system : KeySystem) (keyId : RowId) : Decidable (Deleted system keyId) :=
  decidable_of_iff (KeyRequest.deleted keyId false ∈ system.processes ∨
      KeyRequest.deleted keyId true ∈ system.processes) (by simp [Deleted])

/-- No request authenticates with the secret of a key that was answered for as deleted. -/
def DeletedRefused (hash : Text → Text) (system : KeySystem) : Prop :=
  ∀ key ∈ system.shared.keys, Deleted system key.id → ∀ secret, hash secret = key.keyHash →
    ∃ refusal, authenticate hash system.shared secret = .error refusal

def inGrace (store : KeyStore) (keyId : RowId) : Bool :=
  store.keys.any fun key =>
    key.id == keyId && (graceRuns store.clock key && !expired store.clock key)

def answersFor (store : KeyStore) : KeyRequest → Option RowId
  | .recordRevocation keyId => some keyId
  | .delete organizationId keyId =>
    if (findKey store keyId organizationId).any (·.revokedAt.isSome) then some keyId else none
  | _ => none

def revives (hash : Text → Text) (store : KeyStore) : KeyRequest → Option RowId
  | .replace rotation =>
    if store.keys.any (·.keyHash == hash rotation.secret) = false ∧
        store.clock < rotation.gracePeriodEndsAt ∧
        store.keys.any (fun key => key.id == rotation.keyId && !expired store.clock key) then
      some rotation.keyId
    else none
  | _ => none

/-- A deletion is answered once no grace period of the key runs, and a rotation does not give
one to a key whose deletion has been answered. -/
def DeletionsFinal (hash : Text → Text) (system : KeySystem) (index : Nat) : Prop :=
  ∀ request ∈ system.processes[index]?,
    (∀ keyId ∈ answersFor system.shared request, inGrace system.shared keyId = false) ∧
    ∀ keyId ∈ revives hash system.shared request, ¬Deleted system keyId

instance (hash : Text → Text) (system : KeySystem) (index : Nat) :
    Decidable (DeletionsFinal hash system index) :=
  inferInstanceAs (Decidable (∀ request ∈ system.processes[index]?, _ ∧ _))

structure KeyTable (hash : Text → Text) (store : KeyStore) : Prop where
  ids : (store.keys.map (·.id)).Nodup
  allotted : ∀ key ∈ store.keys, key.id < store.nextId
  hashes : (store.keys.map (·.keyHash)).Nodup
  secrets : ∀ key ∈ store.keys, ∃ secret, hash secret = key.keyHash

/-- What a request relies on: the key it has found, and that a deleted key is revoked. -/
def Reliable (store : KeyStore) : KeyRequest → Prop
  | .replace rotation => ∃ key ∈ store.keys,
      key.id = rotation.keyId ∧ key.organizationId = rotation.organizationId
  | .revoke organizationId keyId => ∃ key ∈ store.keys,
      key.id = keyId ∧ key.organizationId = organizationId
  | .recordRevocation keyId | .deleted keyId _ => ∃ key ∈ store.keys,
      key.id = keyId ∧ key.revokedAt.isSome = true
  | _ => True

/-- The keys of a table are still there later, and the revoked ones are still revoked. -/
def Stays (before after : KeyStore) : Prop :=
  ∀ key ∈ before.keys, ∃ later ∈ after.keys, later.id = key.id ∧
    later.organizationId = key.organizationId ∧
    (key.revokedAt.isSome = true → later.revokedAt.isSome = true)

def accepted (now : Date) (key : ApiKey) : Bool :=
  (key.revokedAt.isNone || graceRuns now key) && !expired now key

section

variable {hash : Text → Text} {store after : KeyStore} {key : ApiKey} {request : KeyRequest}
  {keyId organizationId : RowId} {secret label : Text}

theorem KeyTable.same_id (table : KeyTable hash store) {left right : ApiKey}
    (inLeft : left ∈ store.keys) (inRight : right ∈ store.keys) (same : left.id = right.id) :
    left = right :=
  List.inj_on_of_nodup_map table.ids inLeft inRight same

theorem authenticate_key (table : KeyTable hash store) (member : key ∈ store.keys)
    (known : hash secret = key.keyHash) :
    (∃ refusal, authenticate hash store secret = .error refusal) ↔
      accepted store.clock key = false := by
  have found : store.keys.find? (·.keyHash == hash secret) = some key :=
    (find?_key_eq_some table.hashes).mpr ⟨member, known.symm⟩
  simp only [authenticate, found, accepted]
  cases key.revokedAt with
  | none => cases expired store.clock key <;> simp
  | some moment =>
    cases graceRuns store.clock key <;> cases expired store.clock key <;> simp

theorem deletedRefused_iff {system : KeySystem} (table : KeyTable hash system.shared) :
    DeletedRefused hash system ↔
      ∀ key ∈ system.shared.keys, Deleted system key.id →
        accepted system.shared.clock key = false := by
  constructor
  · intro refused key member deleted
    obtain ⟨secret, known⟩ := table.secrets key member
    exact (authenticate_key table member known).mp (refused key member deleted secret known)
  · intro refused key member deleted secret known
    exact (authenticate_key table member known).mpr (refused key member deleted)

theorem findKey_some (found : findKey store keyId organizationId = some key) :
    key ∈ store.keys ∧ key.id = keyId ∧ key.organizationId = organizationId := by
  have own : key.id = keyId ∧ key.organizationId = organizationId := by
    simpa using List.find?_some found
  exact ⟨List.mem_of_find?_eq_some found, own⟩

variable {change : ApiKey → ApiKey} {scopes : List Text} {expiresAt : Option Date}
  {dead : RowId → Prop}

theorem updateKey_written (member : key ∈ store.keys)
    (id : key.id = keyId) (owner : key.organizationId = organizationId) :
    change key ∈ (updateKey store keyId organizationId change).keys :=
  mem_updateWhere.mpr ⟨key, member, Or.inl ⟨by simp [id, owner], rfl⟩⟩

theorem createKey_some
    (created : createKey hash store organizationId secret label scopes expiresAt = some after) :
    (∀ key ∈ store.keys, key.keyHash ≠ hash secret) ∧ after.clock = store.clock ∧
    after.nextId = store.nextId + 1 ∧ ∃ new : ApiKey,
      new.id = store.nextId ∧ new.keyHash = hash secret ∧ after.keys = store.keys ++ [new] := by
  simp only [createKey] at created
  split at created
  · cases created
  · next free =>
      obtain rfl := Option.some.inj created
      exact ⟨by simpa using free, rfl, rfl, _, rfl, rfl, rfl⟩

theorem createKey_eq_none :
    createKey hash store organizationId secret label scopes expiresAt = none ↔
      store.keys.any (·.keyHash == hash secret) = true := by
  simp only [createKey]
  split
  · next taken => simp [taken]
  · next free => simp [free]

theorem Stays.refl : Stays store store :=
  fun key member => ⟨key, member, rfl, rfl, id⟩

theorem Stays.trans {last : KeyStore} (first : Stays store after) (second : Stays after last) :
    Stays store last := by
  intro key member
  obtain ⟨middle, inAfter, id, owner, revoked⟩ := first key member
  obtain ⟨later, inLast, laterId, laterOwner, laterRevoked⟩ := second middle inAfter
  exact ⟨later, inLast, laterId.trans id, laterOwner.trans owner,
    fun before => laterRevoked (revoked before)⟩

theorem createKey_stays
    (created : createKey hash store organizationId secret label scopes expiresAt = some after) :
    Stays store after := by
  obtain ⟨_, _, _, new, _, _, keys⟩ := createKey_some created
  intro key member
  exact ⟨key, keys ▸ List.mem_append_left _ member, rfl, rfl, id⟩

theorem updateKey_stays (ids : ∀ key, (change key).id = key.id)
    (owners : ∀ key, (change key).organizationId = key.organizationId)
    (revoked : ∀ key, key.revokedAt.isSome = true → (change key).revokedAt.isSome = true) :
    Stays store (updateKey store keyId organizationId change) := by
  intro key member
  cases selected : key.id == keyId && key.organizationId == organizationId with
  | true =>
    have written : change key ∈ (updateKey store keyId organizationId change).keys :=
      mem_updateWhere.mpr ⟨key, member, Or.inl ⟨selected, rfl⟩⟩
    exact ⟨change key, written, ids key, owners key, revoked key⟩
  | false =>
    have kept : key ∈ (updateKey store keyId organizationId change).keys :=
      mem_updateWhere.mpr ⟨key, member, Or.inr ⟨selected, rfl⟩⟩
    exact ⟨key, kept, rfl, rfl, id⟩

theorem Reliable.stays (reliable : Reliable store request) (stays : Stays store after) :
    Reliable after request := by
  have owned {keyId organizationId : RowId} (found : ∃ key ∈ store.keys,
      key.id = keyId ∧ key.organizationId = organizationId) :
      ∃ key ∈ after.keys, key.id = keyId ∧ key.organizationId = organizationId := by
    obtain ⟨key, member, id, owner⟩ := found
    obtain ⟨later, inAfter, laterId, laterOwner, _⟩ := stays key member
    exact ⟨later, inAfter, laterId.trans id, laterOwner.trans owner⟩
  have revoked {keyId : RowId} (found : ∃ key ∈ store.keys,
      key.id = keyId ∧ key.revokedAt.isSome = true) :
      ∃ key ∈ after.keys, key.id = keyId ∧ key.revokedAt.isSome = true := by
    obtain ⟨key, member, id, before⟩ := found
    obtain ⟨later, inAfter, laterId, _, laterRevoked⟩ := stays key member
    exact ⟨later, inAfter, laterId.trans id, laterRevoked before⟩
  cases request with
  | replace rotation => exact owned reliable
  | revoke organizationId keyId => exact owned reliable
  | recordRevocation keyId => exact revoked reliable
  | deleted keyId already => exact revoked reliable
  | _ => trivial

theorem keyTurn_stays (store : KeyStore) (request : KeyRequest) :
    Stays store (keyTurn hash store request).1 := by
  cases request with
  | create input secret =>
    simp only [keyTurn, createStep]
    split
    · exact Stays.refl
    · split
      · exact Stays.refl
      · next created => exact createKey_stays created
  | replace rotation =>
    simp only [keyTurn, replaceStep]
    split
    · exact Stays.refl
    · next created =>
        apply (createKey_stays created).trans
        exact updateKey_stays (fun _ => rfl) (fun _ => rfl) (fun _ _ => rfl)
  | link organizationId keyId newKeyId =>
    exact updateKey_stays (fun _ => rfl) (fun _ => rfl) (fun _ revoked => revoked)
  | revoke organizationId keyId =>
    exact updateKey_stays (fun _ => rfl) (fun _ => rfl) (fun _ _ => rfl)
  | _ => exact Stays.refl

theorem createKey_table (table : KeyTable hash store)
    (created : createKey hash store organizationId secret label scopes expiresAt = some after) :
    KeyTable hash after := by
  obtain ⟨free, clock, nextId, new, newId, newHash, keys⟩ := createKey_some created
  have inKeys {key : ApiKey} (member : key ∈ after.keys) : key ∈ store.keys ∨ key = new := by
    simpa [keys] using member
  constructor
  · rw [keys]
    apply nodup_map_append_fresh table.ids
    intro old member
    rw [newId]
    exact Nat.ne_of_lt (table.allotted old member)
  · intro key member
    rw [nextId]
    rcases inKeys member with old | rfl
    · exact Nat.lt_succ_of_lt (table.allotted key old)
    · rw [newId]
      exact Nat.lt_succ_self store.nextId
  · rw [keys]
    apply nodup_map_append_fresh table.hashes
    intro old member
    rw [newHash]
    exact free old member
  · intro key member
    rcases inKeys member with old | rfl
    · exact table.secrets key old
    · exact ⟨secret, newHash.symm⟩

theorem updateKey_table (table : KeyTable hash store)
    (ids : ∀ key, (change key).id = key.id) (hashes : ∀ key, (change key).keyHash = key.keyHash) :
    KeyTable hash (updateKey store keyId organizationId change) := by
  constructor
  · exact nodup_updateWhere ids table.ids
  · apply forall_mem_updateWhere table.allotted
    intro key _ _ allotted
    rw [ids]
    exact allotted
  · exact nodup_updateWhere hashes table.hashes
  · apply forall_mem_updateWhere table.secrets
    intro key _ _ secret
    rw [hashes]
    exact secret

theorem keyTurn_table (table : KeyTable hash store) (request : KeyRequest) :
    KeyTable hash (keyTurn hash store request).1 := by
  cases request with
  | passTime span => exact ⟨table.ids, table.allotted, table.hashes, table.secrets⟩
  | create input secret =>
    simp only [keyTurn, createStep]
    split
    · exact table
    · split
      · exact table
      · next created => exact createKey_table table created
  | replace rotation =>
    simp only [keyTurn, replaceStep]
    split
    · exact table
    · next created =>
        exact updateKey_table (createKey_table table created) (fun _ => rfl) (fun _ => rfl)
  | link organizationId keyId newKeyId =>
    exact updateKey_table table (fun _ => rfl) (fun _ => rfl)
  | revoke organizationId keyId => exact updateKey_table table (fun _ => rfl) (fun _ => rfl)
  | _ => exact table

theorem keyTurn_reliable (reliable : Reliable store request) :
    Reliable (keyTurn hash store request).1 (keyTurn hash store request).2 := by
  cases request with
  | create input secret =>
    simp only [keyTurn, createStep]
    split
    · trivial
    · split <;> trivial
  | rotate organizationId keyId gracePeriodHours secret =>
    simp only [keyTurn, rotateStep]
    split
    · trivial
    · split
      · trivial
      · next existingKey found =>
          split
          · trivial
          · obtain ⟨member, id, owner⟩ := findKey_some found
            exact ⟨existingKey, member, id, owner⟩
  | replace rotation =>
    simp only [keyTurn, replaceStep]
    split <;> trivial
  | delete organizationId keyId =>
    simp only [keyTurn, deleteStep]
    split
    · trivial
    · next existingKey found =>
        obtain ⟨member, id, owner⟩ := findKey_some found
        split
        · next revoked => exact ⟨existingKey, member, id, revoked⟩
        · exact ⟨existingKey, member, id, owner⟩
  | revoke organizationId keyId =>
    obtain ⟨key, member, id, owner⟩ := reliable
    exact ⟨_, updateKey_written member id owner, id, rfl⟩
  | recordRevocation keyId => exact reliable
  | deleted keyId already => exact reliable
  | _ => trivial

def Refused (store : KeyStore) (dead : RowId → Prop) : Prop :=
  ∀ key ∈ store.keys, dead key.id → accepted store.clock key = false

theorem Refused.of_rows (refused : Refused store dead)
    (rows : ∀ key ∈ after.keys, dead key.id → accepted after.clock key = true →
      ∃ old ∈ store.keys, old.id = key.id ∧ accepted store.clock old = true) :
    Refused after dead := by
  intro key member isDead
  by_contra accepts
  obtain ⟨old, inStore, id, oldAccepts⟩ := rows key member isDead (by simpa using accepts)
  rw [refused old inStore (id ▸ isDead)] at oldAccepts
  cases oldAccepts

theorem accepted_earlier {now : Date} {span : Nat}
    (accepts : accepted (now + span) key = true) : accepted now key = true := by
  have grace : graceRuns (now + span) key = true → graceRuns now key = true := by
    simp only [graceRuns, Option.any_eq_true]
    intro ending
    obtain ⟨moment, known, runs⟩ := ending
    have later : now + span < moment := by simpa using runs
    exact ⟨moment, known, by simpa using Nat.lt_of_le_of_lt (Nat.le_add_right now span) later⟩
  have expiry : expired now key = true → expired (now + span) key = true := by
    simp only [expired, Option.any_eq_true]
    intro ending
    obtain ⟨moment, known, past⟩ := ending
    have before : moment < now := by simpa using past
    exact ⟨moment, known, by simpa using Nat.lt_of_lt_of_le before (Nat.le_add_right now span)⟩
  simp only [accepted, Bool.and_eq_true, Bool.or_eq_true, Bool.not_eq_true'] at accepts ⊢
  obtain ⟨unrevoked | runs, unexpired⟩ := accepts
  · exact ⟨Or.inl unrevoked, by_contra fun past => by simp_all⟩
  · exact ⟨Or.inr (grace runs), by_contra fun past => by simp_all⟩

theorem refused_createKey
    (table : KeyTable hash store) (known : ∀ keyId, dead keyId → ∃ key ∈ store.keys, key.id = keyId)
    (refused : Refused store dead)
    (created : createKey hash store organizationId secret label scopes expiresAt = some after) :
    Refused after dead := by
  obtain ⟨_, clock, _, new, newId, _, keys⟩ := createKey_some created
  apply refused.of_rows
  intro key member isDead accepts
  rw [keys] at member
  rcases List.mem_append.mp member with old | isNew
  · exact ⟨key, old, rfl, clock ▸ accepts⟩
  · obtain rfl := List.mem_singleton.mp isNew
    obtain ⟨old, inStore, id⟩ := known key.id isDead
    have below := table.allotted old inStore
    rw [id, newId] at below
    exact absurd below (Nat.lt_irrefl _)

theorem refused_updateKey
    (ids : ∀ key, (change key).id = key.id) (refused : Refused store dead)
    (accepts : ∀ key ∈ store.keys, dead key.id → key.id = keyId →
      accepted store.clock (change key) = true → accepted store.clock key = true) :
    Refused (updateKey store keyId organizationId change) dead := by
  apply refused.of_rows
  intro key member isDead after
  obtain ⟨old, inStore, ⟨selected, rfl⟩ | ⟨_, rfl⟩⟩ := mem_updateWhere.mp member
  · have isKey : old.id = keyId ∧ old.organizationId = organizationId := by
      simpa using selected
    exact ⟨old, inStore, (ids old).symm, accepts old inStore (ids old ▸ isDead) isKey.1 after⟩
  · exact ⟨key, inStore, rfl, after⟩

theorem refused_calm (table : KeyTable hash store)
    (known : ∀ keyId, dead keyId → ∃ key ∈ store.keys, key.id = keyId)
    (refused : Refused store dead) (noReplace : ∀ rotation, request ≠ .replace rotation) :
    Refused (keyTurn hash store request).1 dead := by
  cases request with
  | passTime span =>
    apply refused.of_rows
    intro key member isDead accepts
    exact ⟨key, member, rfl, accepted_earlier accepts⟩
  | create input secret =>
    simp only [keyTurn, createStep]
    split
    · exact refused
    · split
      · exact refused
      · next created => exact refused_createKey table known refused created
  | replace rotation => exact absurd rfl (noReplace rotation)
  | link organizationId keyId newKeyId =>
    exact refused_updateKey (fun _ => rfl) refused (fun _ _ _ _ accepts => accepts)
  | revoke organizationId keyId =>
    refine refused_updateKey (fun _ => rfl) refused ?_
    intro key _ _ _ accepts
    simp [accepted, graceRuns] at accepts
  | _ => exact refused

theorem refused_answer_iff (table : KeyTable hash store)
    (revoked : ∃ key ∈ store.keys, key.id = keyId ∧ key.revokedAt.isSome = true)
    (refused : Refused store dead) :
    Refused store (fun other => dead other ∨ keyId = other) ↔ inGrace store keyId = false := by
  obtain ⟨row, inStore, rowId, isRevoked⟩ := revoked
  have accepts : inGrace store keyId = accepted store.clock row := by
    have unset : row.revokedAt.isNone = false := by
      rw [← Option.not_isSome, isRevoked]
      rfl
    rw [accepted, unset, Bool.false_or, Bool.eq_iff_iff]
    simp only [inGrace, List.any_eq_true]
    constructor
    · intro found
      obtain ⟨key, member, holds⟩ := found
      obtain ⟨id, grace⟩ := Bool.and_eq_true_iff.mp holds
      have isKey : key.id = keyId := by simpa using id
      obtain rfl := table.same_id member inStore (isKey.trans rowId.symm)
      exact grace
    · intro grace
      exact ⟨row, inStore, by simp [rowId, grace]⟩
  rw [accepts]
  constructor
  · intro all
    exact all row inStore (Or.inr rowId.symm)
  · intro rejected key member isDead
    rcases isDead with before | isKey
    · exact refused key member before
    · obtain rfl := table.same_id member inStore (isKey.symm.trans rowId.symm)
      exact rejected

theorem refused_replace_iff {rotation : Rotation}
    (table : KeyTable hash store) (reliable : Reliable store (.replace rotation))
    (known : ∀ keyId, dead keyId → ∃ key ∈ store.keys, key.id = keyId)
    (refused : Refused store dead) :
    Refused (keyTurn hash store (.replace rotation)).1 dead ↔
      ∀ keyId ∈ revives hash store (.replace rotation), ¬dead keyId := by
  simp only [keyTurn, replaceStep, revives]
  split
  · next taken =>
      rw [createKey_eq_none] at taken
      simp [taken, refused]
  · next created made =>
      have free : store.keys.any (·.keyHash == hash rotation.secret) = false := by
        rw [← Bool.not_eq_true, ← createKey_eq_none, made]
        exact Option.some_ne_none _
      obtain ⟨_, clock, _, new, newId, _, keys⟩ := createKey_some made
      constructor
      · intro later keyId running isDead
        split at running
        · next runs =>
            obtain rfl := Option.some.inj running
            obtain ⟨row, inStore, isRow⟩ := List.any_eq_true.mp runs.2.2
            obtain ⟨rowId, unexpired⟩ := Bool.and_eq_true_iff.mp isRow
            obtain ⟨own, inOwn, ownId, owner⟩ := reliable
            have isKey : row.id = rotation.keyId := by simpa using rowId
            obtain rfl := table.same_id inStore inOwn (isKey.trans ownId.symm)
            have rejected := later _
              (updateKey_written (keys ▸ List.mem_append_left [new] inStore) isKey owner)
              (isKey ▸ isDead)
            simp only [accepted, graceRuns, expired, updateKey, clock] at rejected unexpired
            simp [runs.2.1, unexpired] at rejected
        · cases running
      · intro harmless
        refine refused_updateKey (fun _ => rfl) (refused_createKey table known refused made) ?_
        intro key inCreated isDead isKey accepts
        obtain ⟨row, inStore, rowId⟩ := known key.id isDead
        obtain rfl := (createKey_table table made).same_id inCreated
          (keys ▸ List.mem_append_left [new] inStore) rowId.symm
        have runs : store.clock < rotation.gracePeriodEndsAt ∧
            expired store.clock key = false := by
          simpa [accepted, graceRuns, expired, clock] using accepts
        have unexpired : store.keys.any
            (fun key => key.id == rotation.keyId && !expired store.clock key) = true :=
          List.any_eq_true.mpr ⟨key, inStore, by simp [isKey, runs.2]⟩
        refine absurd (isKey ▸ isDead) (harmless rotation.keyId ?_)
        rw [if_pos ⟨free, runs.1, unexpired⟩]
        rfl

theorem answersFor_some (reliable : Reliable store request)
    (answers : answersFor store request = some keyId) :
    (keyTurn hash store request).1 = store ∧ revives hash store request = none ∧
      ∃ key ∈ store.keys, key.id = keyId ∧ key.revokedAt.isSome = true := by
  cases request with
  | recordRevocation other =>
    obtain rfl := Option.some.inj answers
    exact ⟨rfl, rfl, reliable⟩
  | delete organizationId other =>
    simp only [answersFor] at answers
    split at answers
    · next revoked =>
        obtain rfl := Option.some.inj answers
        cases found : findKey store other organizationId with
        | none => simp [found] at revoked
        | some key =>
          obtain ⟨member, id, _⟩ := findKey_some found
          exact ⟨rfl, rfl, key, member, id, by simpa [found] using revoked⟩
    · cases answers
  | _ => cases answers

theorem keyTurn_deleted :
    (∃ already, (keyTurn hash store request).2 = .deleted keyId already) ↔
      (∃ already, request = .deleted keyId already) ∨
        answersFor store request = some keyId := by
  cases request with
  | create input secret =>
    simp only [keyTurn, createStep, answersFor]
    split
    · simp
    · split <;> simp
  | rotate organizationId other gracePeriodHours secret =>
    simp only [keyTurn, rotateStep, answersFor]
    split
    · simp
    · split
      · simp
      · split <;> simp
  | replace rotation =>
    simp only [keyTurn, replaceStep, answersFor]
    split <;> simp
  | delete organizationId other =>
    simp only [keyTurn, deleteStep, answersFor]
    split
    · next absent => simp [absent]
    · next existingKey found =>
        split
        · next revoked => simp [found, revoked]
        · next active => simp [found, active]
  | recordRevocation other => simp [keyTurn, answersFor]
  | deleted other already => simp [keyTurn, answersFor]
  | _ => simp [keyTurn, answersFor]

variable {system : KeySystem} {index : Nat}

theorem deleted_turn (there : system.processes[index]? = some request) :
    Deleted (turn (keyTurn hash) system index) keyId ↔
      Deleted system keyId ∨ answersFor system.shared request = some keyId := by
  have stays (already : Bool) (store : KeyStore) :
      (keyTurn hash store (.deleted keyId already)).2 = .deleted keyId already := rfl
  have each (already : Bool) := mem_turn_ended there (stays already)
  simp only [Deleted, each, exists_or, keyTurn_deleted]
  constructor
  · intro source
    rcases source with before | ⟨already, rfl⟩ | answered
    · exact Or.inl before
    · exact Or.inl ⟨already, List.mem_of_getElem? there⟩
    · exact Or.inr answered
  · intro source
    rcases source with before | answered
    · exact Or.inl before
    · exact Or.inr (Or.inr answered)

theorem deletionsFinal_iff (there : system.processes[index]? = some request) :
    DeletionsFinal hash system index ↔
      (∀ keyId, answersFor system.shared request = some keyId →
        inGrace system.shared keyId = false) ∧
      ∀ keyId, revives hash system.shared request = some keyId → ¬Deleted system keyId := by
  simp [DeletionsFinal, there]

theorem refused_turn_iff (table : KeyTable hash system.shared)
    (reliable : ∀ request ∈ system.processes, Reliable system.shared request)
    (refused : Refused system.shared (Deleted system)) :
    Refused (turn (keyTurn hash) system index).shared
        (Deleted (turn (keyTurn hash) system index)) ↔ DeletionsFinal hash system index := by
  have known (keyId : RowId) (dead : Deleted system keyId) :
      ∃ key ∈ system.shared.keys, key.id = keyId := by
    obtain ⟨already, member⟩ := dead
    obtain ⟨key, inKeys, id, _⟩ := reliable _ member
    exact ⟨key, inKeys, id⟩
  cases there : system.processes[index]? with
  | none => simp [turn_none there, DeletionsFinal, there, refused]
  | some request =>
    have relies := reliable request (List.mem_of_getElem? there)
    have dead : Deleted (turn (keyTurn hash) system index) =
        fun keyId => Deleted system keyId ∨ answersFor system.shared request = some keyId := by
      funext keyId
      exact propext (deleted_turn there)
    have shared : (turn (keyTurn hash) system index).shared =
        (keyTurn hash system.shared request).1 := by rw [turn_some there]
    rw [dead, shared, deletionsFinal_iff there]
    cases answers : answersFor system.shared request with
    | some answered =>
      obtain ⟨same, noGrace, revoked⟩ := @answersFor_some hash _ _ _ relies answers
      rw [same, noGrace]
      simpa using refused_answer_iff table revoked refused
    | none =>
      by_cases replaces : ∃ rotation, request = .replace rotation
      · obtain ⟨rotation, rfl⟩ := replaces
        simpa using refused_replace_iff table relies known refused
      · have calm := refused_calm table known refused
          (fun rotation same => replaces ⟨rotation, same⟩)
        have noGrace : revives hash system.shared request = none := by
          cases request with
          | replace rotation => exact absurd ⟨rotation, rfl⟩ replaces
          | _ => rfl
        simp [noGrace, calm]

end

def KeyRequest.atStart : KeyRequest → Bool
  | passTime _ | create _ _ | rotate _ _ _ _ | delete _ _ | authenticate _ => true
  | _ => false

structure Beginning (hash : Text → Text) (system : KeySystem) : Prop where
  table : KeyTable hash system.shared
  atStart : ∀ request ∈ system.processes, request.atStart = true

structure KeyRuns (hash : Text → Text) (system : KeySystem) : Prop where
  table : KeyTable hash system.shared
  reliable : ∀ request ∈ system.processes, Reliable system.shared request

def DeletedKeysDead (hash : Text → Text) (system : KeySystem) (schedule : List Nat) : Prop :=
  ∀ taken ∈ trace (turn (keyTurn hash)) system schedule,
    DeletedRefused hash (turn (keyTurn hash) taken.1 taken.2)

section

variable {hash : Text → Text} {system : KeySystem}

theorem Beginning.runs (beginning : Beginning hash system) : KeyRuns hash system := by
  apply KeyRuns.mk beginning.table
  intro request member
  have fresh := beginning.atStart request member
  cases request <;> trivial

theorem Beginning.refused (beginning : Beginning hash system) : DeletedRefused hash system := by
  intro key _ deleted
  obtain ⟨already, member⟩ := deleted
  cases beginning.atStart _ member

theorem turn_runs (index : Nat) (runs : KeyRuns hash system) :
    KeyRuns hash (turn (keyTurn hash) system index) := by
  apply KeyRuns.mk
  · exact turn_shared (KeyTable hash) runs.table (keyTurn_table runs.table)
  · intro request member
    cases there : system.processes[index]? with
    | none =>
      rw [turn_none there] at member ⊢
      exact runs.reliable request member
    | some moved =>
      have shared : (turn (keyTurn hash) system index).shared =
          (keyTurn hash system.shared moved).1 := by rw [turn_some there]
      rw [shared]
      rcases mem_turn there member with before | rfl
      · exact (runs.reliable request before).stays (keyTurn_stays system.shared moved)
      · exact keyTurn_reliable (runs.reliable moved (List.mem_of_getElem? there))

theorem turn_deletedRefused_iff {index : Nat} (runs : KeyRuns hash system)
    (refused : DeletedRefused hash system) :
    DeletedRefused hash (turn (keyTurn hash) system index) ↔
      DeletionsFinal hash system index := by
  rw [deletedRefused_iff (turn_runs index runs).table]
  exact refused_turn_iff runs.table runs.reliable ((deletedRefused_iff runs.table).mp refused)

/-- Deleted keys stay dead over a run exactly when every deletion in it is answered with no
grace period running and no rotation gives a deleted key a new one. -/
theorem deleted_keys_dead_iff {schedule : List Nat} (beginning : Beginning hash system) :
    DeletedKeysDead hash system schedule ↔
      Guarded (turn (keyTurn hash)) (DeletionsFinal hash) system schedule :=
  (guarded_iff_trace (KeyRuns hash) (DeletedRefused hash)
    (fun _ index => turn_runs index)
    (fun _ _ => turn_deletedRefused_iff) beginning.runs beginning.refused).symm

end

def oneKey : KeyStore where
  keys := [{ id := 1, organizationId := 5, keyHash := ("old" : String).toList }]
  nextId := 2
  clock := 1000

theorem oneKey_beginning (requests : List KeyRequest)
    (atStart : ∀ request ∈ requests, request.atStart = true) :
    Beginning (fun secret => secret) { shared := oneKey, processes := requests } := by
  refine Beginning.mk (KeyTable.mk ?_ ?_ ?_ ?_) atStart
  · exact (by decide : (oneKey.keys.map (·.id)).Nodup)
  · exact (by decide : ∀ key ∈ oneKey.keys, key.id < oneKey.nextId)
  · exact (by decide : (oneKey.keys.map (·.keyHash)).Nodup)
  · intro key _
    exact ⟨key.keyHash, rfl⟩

def deletion : KeySystem where
  shared := oneKey
  processes := [.delete 5 1, .authenticate ("old" : String).toList]

/-- A deletion of a key that was not rotated, then its use. -/
theorem deleted_key_is_refused :
    DeletedKeysDead (fun secret => secret) deletion [0, 0, 0, 1] :=
  (deleted_keys_dead_iff (oneKey_beginning _ (by decide))).mpr (by decide)

def rotatedThenDeleted : KeySystem where
  shared := oneKey
  processes := [.rotate 5 1 24 ("new" : String).toList, .delete 5 1,
    .authenticate ("old" : String).toList]

theorem deleted_key_authenticates :
    KeyRequest.deleted 1 true ∈
      (run (turn (keyTurn fun secret => secret)) rotatedThenDeleted [0, 0, 0, 1]).processes ∧
    KeyRequest.answered (.authenticated 1) ∈
      (run (turn (keyTurn fun secret => secret)) rotatedThenDeleted [0, 0, 0, 1, 2]).processes ∧
    Beginning (fun secret => secret) rotatedThenDeleted ∧
    ¬DeletedKeysDead (fun secret => secret) rotatedThenDeleted [0, 0, 0, 1] := by
  refine ⟨by decide, by decide, oneKey_beginning _ (by decide), ?_⟩
  intro dead
  have final := dead (run (turn (keyTurn fun secret => secret)) rotatedThenDeleted [0, 0, 0], 1)
    (by decide)
  obtain ⟨refusal, refused⟩ :=
    final _ List.mem_cons_self (by decide) ("old" : String).toList rfl
  cases refused

end StoryEngine.Security
