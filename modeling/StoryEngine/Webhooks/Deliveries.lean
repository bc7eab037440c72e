import StoryEngine.Webhooks.MergeWebhook

namespace StoryEngine.Webhooks

open Data Schema

/-! # Sequences of deliveries -/

section

variable {δ σ : Type}

/-- A delivery with what it meets: the time since the one before, the linked
accounts, and whether Redis is there. -/
structure Delivery where
  elapsed : Nat
  request : WebhookRequest
  linkedAccounts : List LinkedAccount
  source : MarkSource

structure Received (δ : Type) where
  payload : MergeWebhookPayload δ
  key : Text
  source : MarkSource
  receivedAt : Date
  /-- It has gone on to the handler of its event. -/
  applied : Bool

structure WebhookSystem (δ σ : Type) where
  now : Date := 0
  state : WebhookState σ
  received : List (Received δ) := []

def WebhookAnswer.applied : WebhookAnswer → Bool
  | .processed | .processingFailed => true
  | _ => false

variable (runtime : WebhookRuntime δ) (handlers : EventHandlers δ σ)

def authentic (system : WebhookSystem δ σ) (delivery : Delivery) :
    Option (AuthenticDelivery δ) :=
  (authenticate runtime delivery.linkedAccounts delivery.request
    (system.now + delivery.elapsed)).toOption

def answerTo (system : WebhookSystem δ σ) (delivery : Delivery) : WebhookAnswer × WebhookState σ :=
  mergeWebhookHandler runtime handlers system.state delivery.linkedAccounts delivery.request
    delivery.source (system.now + delivery.elapsed)

def deliver (system : WebhookSystem δ σ) (delivery : Delivery) : WebhookSystem δ σ where
  now := system.now + delivery.elapsed
  state := (answerTo runtime handlers system delivery).2
  received := system.received ++ (authentic runtime system delivery).toList.map fun accepted => {
    payload := accepted.payload
    key := Text.trim accepted.key
    source := delivery.source
    receivedAt := system.now + delivery.elapsed
    applied := (answerTo runtime handlers system delivery).1.applied }

/-- An authentic delivery is applied, unless its event was delivered before. -/
def AppliedOrRepeated (system : WebhookSystem δ σ) (delivery : Delivery) : Prop :=
  ∀ accepted, authentic runtime system delivery = some accepted →
    (answerTo runtime handlers system delivery).1.applied = true ∨
      ∃ earlier ∈ system.received, earlier.payload = accepted.payload

/-- No other event with the key of this one was applied in the last five minutes. -/
def KeyFree (system : WebhookSystem δ σ) (delivery : Delivery) : Prop :=
  ∀ accepted, authentic runtime system delivery = some accepted →
    (∃ earlier ∈ system.received, earlier.applied = true ∧ earlier.source = delivery.source ∧
      earlier.key = Text.trim accepted.key ∧
      system.now + delivery.elapsed < earlier.receivedAt + defaultTtlMs) →
    ∃ earlier ∈ system.received, earlier.payload = accepted.payload

def MarksApplied (system : WebhookSystem δ σ) : Prop :=
  ∀ (source : MarkSource) (key : Text) (later : Date), system.now ≤ later →
    (isMarked (system.state.marks.marks source) (storedKey source key) later = true ↔
      ∃ earlier ∈ system.received, earlier.applied = true ∧ earlier.source = source ∧
        earlier.key = Text.trim key ∧ later < earlier.receivedAt + defaultTtlMs)

end

theorem AuthenticDelivery.key_trim {δ : Type} (delivery : AuthenticDelivery δ) :
    Text.trim delivery.key ≠ [] := by
  have first : 'm' ∈ ("merge:" : String).toList := by decide
  have named : 'm' ∈ delivery.key := List.mem_append_left _ first
  exact Text.trim_ne_nil named (by decide)

section

variable {δ σ : Type} {runtime : WebhookRuntime δ} {handlers : EventHandlers δ σ}
  {system : WebhookSystem δ σ} {delivery : Delivery} {accepted : AuthenticDelivery δ}

theorem answerTo_refused (refused : authentic runtime system delivery = none) :
    (answerTo runtime handlers system delivery).2 = system.state := by
  unfold authentic at refused
  unfold answerTo mergeWebhookHandler
  cases outcome : authenticate runtime delivery.linkedAccounts delivery.request
      (system.now + delivery.elapsed) with
  | error answer => rfl
  | ok accepted =>
    rw [outcome] at refused
    cases refused

theorem answerTo_authentic (known : authentic runtime system delivery = some accepted) :
    answerTo runtime handlers system delivery =
      processDelivery handlers system.state accepted delivery.source
        (system.now + delivery.elapsed) := by
  have outcome := toOption_eq_some.mp known
  rw [answerTo, mergeWebhookHandler, outcome]

theorem processDelivery_marked {state : WebhookState σ} {source : MarkSource} {now : Date} :
    (processDelivery handlers state accepted source now).1.applied =
        (markWebhookEventIfNew state.marks source accepted.key now).1 ∧
      (processDelivery handlers state accepted source now).2.marks =
        (markWebhookEventIfNew state.marks source accepted.key now).2 := by
  unfold processDelivery
  rcases markWebhookEventIfNew state.marks source accepted.key now with ⟨new, marks⟩
  cases new with
  | false => exact ⟨rfl, rfl⟩
  | true =>
    dsimp only
    rcases routeEvent handlers accepted.organizationId accepted.payload state.tables with
      ⟨tables, failure⟩
    cases failure <;> exact ⟨rfl, rfl⟩

theorem answerTo_applied (known : authentic runtime system delivery = some accepted) :
    (answerTo runtime handlers system delivery).1.applied =
      !isMarked (system.state.marks.marks delivery.source)
        (storedKey delivery.source accepted.key) (system.now + delivery.elapsed) := by
  rw [answerTo_authentic known, processDelivery_marked.1,
    markWebhookEventIfNew_new accepted.key_trim]

theorem deliver_marks (marked : MarksApplied system) :
    MarksApplied (deliver runtime handlers system delivery) := by
  intro source key later after
  have reached : system.now + delivery.elapsed ≤ later := after
  have notBefore : system.now ≤ later := Nat.le_trans (Nat.le_add_right _ _) reached
  cases known : authentic runtime system delivery with
  | none =>
    simp only [deliver, known, answerTo_refused known, Option.toList_none, List.map_nil,
      List.append_nil]
    exact marked source key later notBefore
  | some accepted =>
    have applied : (answerTo runtime handlers system delivery).1.applied = _ :=
      answerTo_applied known
    have marks : (deliver runtime handlers system delivery).state.marks =
        (markWebhookEventIfNew system.state.marks delivery.source accepted.key
          (system.now + delivery.elapsed)).2 := by
      rw [deliver, answerTo_authentic known, processDelivery_marked.2]
    have received : (deliver runtime handlers system delivery).received =
        system.received ++ [{
          payload := accepted.payload
          key := Text.trim accepted.key
          source := delivery.source
          receivedAt := system.now + delivery.elapsed
          applied := (answerTo runtime handlers system delivery).1.applied }] := by
      simp [deliver, known]
    have new : (markWebhookEventIfNew system.state.marks delivery.source accepted.key
        (system.now + delivery.elapsed)).1 =
          (answerTo runtime handlers system delivery).1.applied := by
      rw [applied, markWebhookEventIfNew_new accepted.key_trim]
    rw [marks, received, markWebhookEventIfNew_live accepted.key_trim reached, new,
      marked source key later notBefore]
    simp only [List.mem_append, List.mem_singleton, or_and_right, exists_or, exists_eq_left]

theorem appliedOrRepeated_iff_keyFree (marked : MarksApplied system) :
    AppliedOrRepeated runtime handlers system delivery ↔ KeyFree runtime system delivery := by
  refine forall_congr' fun accepted => forall_congr' fun known => ?_
  have live := marked delivery.source accepted.key (system.now + delivery.elapsed)
    (Nat.le_add_right _ _)
  rw [answerTo_applied known, Bool.not_eq_true', ← live]
  cases isMarked (system.state.marks.marks delivery.source)
    (storedKey delivery.source accepted.key) (system.now + delivery.elapsed) <;> simp

theorem empty_marks (tables : σ) :
    MarksApplied (δ := δ) { state := { marks := {}, tables } } := by
  intro source key later _
  cases source <;> simp [isMarked, MarkStore.marks]

end

/-- In a sequence of deliveries each authentic one that is not a redelivery is
applied exactly when no delivery comes within five minutes after an applied one
of another event that has the same key. -/
theorem deliveries_applied_iff {δ σ : Type} {runtime : WebhookRuntime δ}
    {handlers : EventHandlers δ σ} (tables : σ) (deliveries : List Delivery) :
    let start : WebhookSystem δ σ := { state := { marks := {}, tables } }
    (∀ taken ∈ trace (deliver runtime handlers) start deliveries,
        AppliedOrRepeated runtime handlers taken.1 taken.2) ↔
      ∀ taken ∈ trace (deliver runtime handlers) start deliveries, KeyFree runtime taken.1 taken.2 := by
  intro start
  have initial : MarksApplied start := by
    intro source key later _
    cases source <;> simp [start, isMarked, MarkStore.marks]
  have free : Guarded (deliver runtime handlers) (fun _ _ => True) start deliveries :=
    fun _ _ => trivial
  refine forall_congr' fun taken => forall_congr' fun member => ?_
  obtain ⟨marked, _⟩ := trace_guarded_invariant MarksApplied (fun _ _ marked _ => deliver_marks marked)
    initial free taken member
  exact appliedOrRepeated_iff_keyFree marked

/-- It is not applied while the mark of an applied delivery with its key is there. -/
def NotAppliedTwice {δ σ : Type} (runtime : WebhookRuntime δ) (handlers : EventHandlers δ σ)
    (system : WebhookSystem δ σ) (delivery : Delivery) : Prop :=
  ∀ accepted, authentic runtime system delivery = some accepted →
    (answerTo runtime handlers system delivery).1.applied = true →
    ∀ earlier ∈ system.received, earlier.applied = true → earlier.source = delivery.source →
      earlier.key = Text.trim accepted.key →
      earlier.receivedAt + defaultTtlMs ≤ system.now + delivery.elapsed

theorem keys_applied_once {δ σ : Type} (runtime : WebhookRuntime δ) (handlers : EventHandlers δ σ)
    (tables : σ) (deliveries : List Delivery) :
    Guarded (deliver runtime handlers) (NotAppliedTwice runtime handlers)
      { state := { marks := {}, tables } } deliveries := by
  intro taken member accepted known applied earlier inReceived wasApplied sameSource sameKey
  have free : Guarded (deliver runtime handlers) (fun _ _ => True)
      { state := { marks := {}, tables } } deliveries :=
    fun _ _ => trivial
  obtain ⟨marked, _⟩ := trace_guarded_invariant MarksApplied
    (fun _ _ marked _ => deliver_marks marked) (empty_marks tables) free taken member
  rw [answerTo_applied known, Bool.not_eq_true'] at applied
  refine Nat.not_lt.mp fun live => ?_
  have stillMarked := (marked taken.2.source accepted.key _ (Nat.le_add_right _ _)).mpr
    ⟨earlier, inReceived, wasApplied, sameSource, sameKey, live⟩
  rw [applied] at stillMarked
  cases stillMarked

def titleRuntime : WebhookRuntime Text where
  hmacSha256 _ body := body
  parseJson body := some {
    event := ("recording.updated" : String)
    timestamp := some ("0" : String)
    linkedAccountId := ("la_1" : String)
    data := some { id := some ("rec_1" : String), fields := body } }
  parseWebhookTimestamp _ := some 0
  webhookSecrets := [("secret" : String)]

def titleHandlers : EventHandlers Text Text where
  handleRecordingEvent _ payload title := ((payload.data.map (·.fields)).getD title, none)
  handleCRMContactEvent _ _ title := (title, none)
  handleCRMOpportunityEvent _ _ title := (title, none)

def titleUpdate (title : String) : Delivery where
  elapsed := 1000
  request := { rawBody := title.toList, signature := title.toList }
  linkedAccounts := [{ organizationId := 1, mergeLinkedAccountId := ("la_1" : String) }]
  source := .redis

def titleStart : WebhookSystem Text Text := { state := { marks := {}, tables := [] } }

/-- The second of two updates within a second is taken for a redelivery. -/
theorem second_update_is_dropped :
    (trace (deliver titleRuntime titleHandlers) titleStart
      [titleUpdate "Kickoff", titleUpdate "Renewal"]).map (fun taken =>
        ((authentic titleRuntime taken.1 taken.2).isSome,
          (answerTo titleRuntime titleHandlers taken.1 taken.2).1)) =
      [(true, .processed), (true, .duplicateIgnored)] ∧
    ¬∀ taken ∈ trace (deliver titleRuntime titleHandlers) titleStart
      [titleUpdate "Kickoff", titleUpdate "Renewal"],
        AppliedOrRepeated titleRuntime titleHandlers taken.1 taken.2 := by
  refine ⟨by decide +kernel, fun all => ?_⟩
  have second := all (deliver titleRuntime titleHandlers titleStart (titleUpdate "Kickoff"),
    titleUpdate "Renewal") (by simp [trace])
  rcases second _ rfl with applied | ⟨earlier, member, same⟩
  · revert applied
    decide +kernel
  · obtain rfl := List.mem_singleton.mp member
    revert same
    decide +kernel

end StoryEngine.Webhooks
