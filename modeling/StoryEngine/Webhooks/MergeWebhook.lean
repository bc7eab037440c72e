import StoryEngine.Data.Rows
import StoryEngine.Data.Run
import StoryEngine.Schema.Database

namespace StoryEngine.Webhooks

open Data Schema

/-! # Webhook idempotency

Keys are marked for a while, in Redis when it is there and otherwise in a map of
the process.
-/

structure Mark where
  key : Text
  expiresAt : Date

structure MarkStore where
  redis : List Mark := []
  fallbackMap : List Mark := []

/-- Where a call of `markWebhookEventIfNew` looks. -/
inductive MarkSource where
  | redis
  | fallbackMap
deriving DecidableEq

def MarkStore.marks (store : MarkStore) : MarkSource → List Mark
  | .redis => store.redis
  | .fallbackMap => store.fallbackMap

def isMarked (marks : List Mark) (key : Text) (now : Date) : Bool :=
  marks.any fun mark => mark.key == key && now < mark.expiresAt

/-- `SET key NX EX`: an expired key is no key. -/
def setNX (marks : List Mark) (key : Text) (now ttlSeconds : Nat) : Option (List Mark) :=
  if isMarked marks key now then none
  else some (marks.filter (·.key != key) ++ [{ key, expiresAt := now + ttlSeconds * 1000 }])

def pruneFallback (marks : List Mark) (now : Date) : List Mark :=
  marks.filter (now < ·.expiresAt)

def redisKey (normalizedKey : Text) : Text := ("webhook:idempotency:" : String) ++ normalizedKey

def defaultTtlMs : Nat := 5 * 60 * 1000

def markWebhookEventIfNew (store : MarkStore) (source : MarkSource) (key : Text) (now : Date)
    (ttlMs : Nat := defaultTtlMs) : Bool × MarkStore :=
  let normalizedKey := Text.trim key
  if normalizedKey.isEmpty then (true, store)
  else match source with
    | .redis =>
      let ttlSeconds := max 1 ((ttlMs + 999) / 1000)
      match setNX store.redis (redisKey normalizedKey) now ttlSeconds with
      | none => (false, store)
      | some marks => (true, { store with redis := marks })
    | .fallbackMap =>
      let pruned := pruneFallback store.fallbackMap now
      if isMarked pruned normalizedKey now then (false, { store with fallbackMap := pruned })
      else (true, { store with
        fallbackMap := pruned.filter (·.key != normalizedKey) ++
          [{ key := normalizedKey, expiresAt := now + max 1000 ttlMs }] })

def storedKey (source : MarkSource) (key : Text) : Text :=
  match source with
  | .redis => redisKey (Text.trim key)
  | .fallbackMap => Text.trim key

variable {marks : List Mark}

theorem isMarked_iff {key : Text} {now : Date} :
    isMarked marks key now = true ↔ ∃ mark ∈ marks, mark.key = key ∧ now < mark.expiresAt := by
  simp [isMarked]

theorem isMarked_append {first second : List Mark} {key : Text} {now : Date} :
    isMarked (first ++ second) key now = (isMarked first key now || isMarked second key now) :=
  List.any_append

theorem isMarked_filter {keeps : Mark → Bool} {key : Text} {now later : Date}
    (after : now ≤ later)
    (dropped : ∀ mark ∈ marks, keeps mark = false → mark.expiresAt ≤ now) :
    isMarked (marks.filter keeps) key later = isMarked marks key later := by
  refine Bool.eq_iff_iff.mpr ?_
  rw [isMarked_iff, isMarked_iff]
  constructor
  · rintro ⟨mark, member, named, live⟩
    exact ⟨mark, (List.mem_filter.mp member).1, named, live⟩
  · rintro ⟨mark, member, named, live⟩
    refine ⟨mark, List.mem_filter.mpr ⟨member, ?_⟩, named, live⟩
    cases kept : keeps mark with
    | true => rfl
    | false => exact absurd live (Nat.not_lt.mpr (Nat.le_trans (dropped mark member kept) after))

theorem isMarked_marked {key other : Text} {now later expiresAt : Date}
    (after : now ≤ later) (unmarked : isMarked marks key now = false) :
    isMarked (marks.filter (·.key != key) ++ [({ key, expiresAt } : Mark)]) other later =
      (isMarked marks other later || (key == other && later < expiresAt)) := by
  rw [isMarked_append, isMarked_filter after]
  · simp [isMarked]
  · intro mark member kept
    have same : mark.key = key := by simpa using kept
    refine Nat.not_lt.mp fun live => ?_
    rw [isMarked_iff.mpr ⟨mark, member, same, live⟩] at unmarked
    cases unmarked

section

variable {store : MarkStore} {source : MarkSource} {key : Text} {now : Date}

theorem markWebhookEventIfNew_new (named : Text.trim key ≠ []) :
    (markWebhookEventIfNew store source key now).1 =
      !isMarked (store.marks source) (storedKey source key) now := by
  have keyed : (Text.trim key).isEmpty = false := by simpa using named
  cases source with
  | redis =>
    simp only [markWebhookEventIfNew, keyed, setNX, storedKey, MarkStore.marks]
    cases isMarked store.redis (redisKey (Text.trim key)) now <;> rfl
  | fallbackMap =>
    have pruned : isMarked (pruneFallback store.fallbackMap now) (Text.trim key) now =
        isMarked store.fallbackMap (Text.trim key) now :=
      isMarked_filter (Nat.le_refl now) fun mark _ kept => by simpa using kept
    simp only [markWebhookEventIfNew, keyed, storedKey, MarkStore.marks, pruned]
    cases isMarked store.fallbackMap (Text.trim key) now <;> rfl

variable {other : MarkSource} {wanted : Text} {later : Date}

theorem markWebhookEventIfNew_marks_ttl (named : Text.trim key ≠ []) {seconds : Nat}
    (positive : 0 < seconds)
    (after : now ≤ later) :
    isMarked ((markWebhookEventIfNew store source key now (seconds * 1000)).2.marks other) wanted
        later =
      (isMarked (store.marks other) wanted later ||
        ((markWebhookEventIfNew store source key now (seconds * 1000)).1 && source == other &&
          (storedKey source key == wanted && later < now + seconds * 1000))) := by
  have keyed : (Text.trim key).isEmpty = false := by simpa using named
  have inSeconds : max 1 ((seconds * 1000 + 999) / 1000) = seconds := by omega
  have inFallback : max 1000 (seconds * 1000) = seconds * 1000 := by omega
  cases source with
  | redis =>
    cases marked : isMarked store.redis (redisKey (Text.trim key)) now with
    | true => simp [markWebhookEventIfNew, keyed, setNX, marked]
    | false =>
      simp only [markWebhookEventIfNew, keyed, setNX, marked, storedKey, inSeconds]
      cases other with
      | redis => exact isMarked_marked after marked
      | fallbackMap => simp [MarkStore.marks]
  | fallbackMap =>
    have pruned (key : Text) {time : Date} (after : now ≤ time) :
        isMarked (pruneFallback store.fallbackMap now) key time =
          isMarked store.fallbackMap key time :=
      isMarked_filter after fun mark _ kept => by simpa using kept
    cases marked : isMarked (pruneFallback store.fallbackMap now) (Text.trim key) now with
    | true =>
      simp only [markWebhookEventIfNew, keyed, marked]
      cases other with
      | redis => simp [MarkStore.marks]
      | fallbackMap => simp [MarkStore.marks, pruned wanted after]
    | false =>
      simp only [markWebhookEventIfNew, keyed, marked, storedKey, inFallback]
      cases other with
      | redis => simp [MarkStore.marks]
      | fallbackMap =>
        refine Eq.trans (isMarked_marked after marked) ?_
        rw [pruned wanted after]
        rfl

theorem markWebhookEventIfNew_marks (named : Text.trim key ≠ [])
    (after : now ≤ later) :
    isMarked ((markWebhookEventIfNew store source key now).2.marks other) wanted later =
      (isMarked (store.marks other) wanted later ||
        ((markWebhookEventIfNew store source key now).1 && source == other &&
          (storedKey source key == wanted && later < now + defaultTtlMs))) :=
  markWebhookEventIfNew_marks_ttl named (by decide : 0 < 5 * 60) after

theorem storedKey_inj {left right : Text} :
    storedKey source left = storedKey source right ↔ Text.trim left = Text.trim right := by
  cases source with
  | redis => exact List.append_right_inj _
  | fallbackMap => exact Iff.rfl

theorem markWebhookEventIfNew_live (named : Text.trim key ≠ [])
    (after : now ≤ later) :
    isMarked ((markWebhookEventIfNew store source key now).2.marks other)
        (storedKey other wanted) later = true ↔
      isMarked (store.marks other) (storedKey other wanted) later = true ∨
        ((markWebhookEventIfNew store source key now).1 = true ∧ source = other ∧
          Text.trim key = Text.trim wanted ∧ later < now + defaultTtlMs) := by
  rw [markWebhookEventIfNew_marks named after, Bool.or_eq_true]
  simp only [Bool.and_eq_true, beq_iff_eq, decide_eq_true_eq]
  refine or_congr_right ?_
  constructor
  · intro ⟨⟨isNew, same⟩, sameKey, live⟩
    subst same
    exact ⟨isNew, rfl, storedKey_inj.mp sameKey, live⟩
  · intro ⟨isNew, same, sameKey, live⟩
    subst same
    exact ⟨⟨isNew, rfl⟩, storedKey_inj.mpr sameKey, live⟩

end

/-! ## The webhook of Merge

A delivery is checked, its key is marked, and its event goes to one of three
handlers.
-/

inductive LinkedAccountStatus where
  | active
  | paused
  | error
  | revoked
deriving DecidableEq

structure LinkedAccount where
  organizationId : RowId
  mergeLinkedAccountId : Text
  status : LinkedAccountStatus := .active

/-- A `data` object: what it has under `id` and `remote_id`, where that is a
string, and the record as a whole. -/
structure MergeData (δ : Type) where
  id : Option Text := none
  remoteId : Option Text := none
  fields : δ
deriving DecidableEq

/-- The payload; a missing name or identifier is read as an empty one. -/
structure MergeWebhookPayload (δ : Type) where
  event : Text
  timestamp : Option Text := none
  linkedAccountId : Text
  integration : Text := []
  organization : Option Text := none
  data : Option (MergeData δ)
deriving DecidableEq

structure WebhookRequest where
  rawBody : Text
  signature : Text := []
  /-- The first of the timestamp headers that has a value. -/
  timestampHeader : Option Text := none

/-- What the handler takes from Node and from the environment. -/
structure WebhookRuntime (δ : Type) where
  hmacSha256 : Text → Text → Text
  parseJson : Text → Option (MergeWebhookPayload δ)
  parseWebhookTimestamp : Text → Option Date
  webhookSecrets : List Text
  replayWindowSeconds : Nat := 300

inductive WebhookAnswer where
  | notConfigured
  | missingSignature
  | invalidSignature
  | invalidJson
  | malformedPayload
  | staleWebhook
  | notActive
  | organizationMismatch
  | thrown
  | duplicateIgnored
  | processed
  | processingFailed
deriving DecidableEq

def resolveWebhookSecrets (rawValues : List (Option Text)) : List Text :=
  ((rawValues.flatMap fun value => Text.splitAt (· == ',') (value.getD [])).map Text.trim).filter
    fun secret => !secret.isEmpty

section

variable {δ : Type} (runtime : WebhookRuntime δ)

def verifyMergeSignature (payload signature secret : Text) : Bool :=
  runtime.hmacSha256 secret payload == signature

def validateWebhookTimestamp (timestamp : Option Text) (now : Date) : Bool :=
  match timestamp with
  | none => false
  | some value =>
    !(Text.trim value).isEmpty && (runtime.parseWebhookTimestamp value).any fun observedAt =>
      (now - observedAt) + (observedAt - now) ≤ runtime.replayWindowSeconds * 1000

def dataId (payload : MergeWebhookPayload δ) (data : MergeData δ) : Text :=
  (data.id.or data.remoteId).getD payload.linkedAccountId

def dedupeKey (organizationId : RowId) (eventType dataId : Text) : Text :=
  ("merge:" : String).toList ++ (organizationId.text ++ ':' :: (eventType ++ ':' :: dataId))

structure AuthenticDelivery (δ : Type) where
  organizationId : RowId
  payload : MergeWebhookPayload δ
  data : MergeData δ

def AuthenticDelivery.key (delivery : AuthenticDelivery δ) : Text :=
  dedupeKey delivery.organizationId delivery.payload.event (dataId delivery.payload delivery.data)

def authenticate (linkedAccounts : List LinkedAccount) (request : WebhookRequest) (now : Date) :
    Except WebhookAnswer (AuthenticDelivery δ) := do
  let _ ← ensure (!runtime.webhookSecrets.isEmpty) .notConfigured
  let _ ← ensure (!request.signature.isEmpty) .missingSignature
  let _ ← ensure (runtime.webhookSecrets.any
    (verifyMergeSignature runtime request.rawBody request.signature)) .invalidSignature
  let payload ← required (runtime.parseJson request.rawBody) .invalidJson
  let _ ← ensure (!payload.event.isEmpty && !payload.linkedAccountId.isEmpty) .malformedPayload
  let _ ← ensure (validateWebhookTimestamp runtime
    (payload.timestamp.or request.timestampHeader) now) .staleWebhook
  let linkedAccount ← required (linkedAccounts.find? fun account =>
    account.mergeLinkedAccountId == payload.linkedAccountId) .notActive
  let _ ← ensure (linkedAccount.status == .active) .notActive
  let _ ← ensure (payload.organization.all fun organization =>
    organization.isEmpty || organization == linkedAccount.organizationId.text) .organizationMismatch
  let data ← required payload.data .thrown
  return { organizationId := linkedAccount.organizationId, payload, data }

/-- The event handlers, on tables of any kind: the tables after the handler has
returned or thrown, and the message of an error. -/
structure EventHandlers (δ σ : Type) where
  handleRecordingEvent : RowId → MergeWebhookPayload δ → σ → σ × Option Text
  handleCRMContactEvent : RowId → MergeWebhookPayload δ → σ → σ × Option Text
  handleCRMOpportunityEvent : RowId → MergeWebhookPayload δ → σ → σ × Option Text

variable {σ : Type} (handlers : EventHandlers δ σ)

def routeEvent (organizationId : RowId) (payload : MergeWebhookPayload δ) (tables : σ) :
    σ × Option Text :=
  let named (name : String) : Bool := payload.event == name.toList
  if named "recording.created" || named "recording.updated" then
    handlers.handleRecordingEvent organizationId payload tables
  else if named "contact.created" || named "contact.updated" then
    handlers.handleCRMContactEvent organizationId payload tables
  else if named "opportunity.created" || named "opportunity.updated" then
    handlers.handleCRMOpportunityEvent organizationId payload tables
  else (tables, none)

structure WebhookState (σ : Type) where
  marks : MarkStore
  tables : σ

def processDelivery (state : WebhookState σ) (delivery : AuthenticDelivery δ) (source : MarkSource)
    (now : Date) : WebhookAnswer × WebhookState σ :=
  match markWebhookEventIfNew state.marks source delivery.key now with
  | (false, marks) => (.duplicateIgnored, { state with marks })
  | (true, marks) =>
    match routeEvent handlers delivery.organizationId delivery.payload state.tables with
    | (tables, none) => (.processed, { marks, tables })
    | (tables, some _) => (.processingFailed, { marks, tables })

def mergeWebhookHandler (state : WebhookState σ) (linkedAccounts : List LinkedAccount)
    (request : WebhookRequest) (source : MarkSource) (now : Date) :
    WebhookAnswer × WebhookState σ :=
  match authenticate runtime linkedAccounts request now with
  | .error answer => (answer, state)
  | .ok delivery => processDelivery handlers state delivery source now

end

end StoryEngine.Webhooks
