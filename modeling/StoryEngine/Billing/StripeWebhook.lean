import StoryEngine.Billing.StripeEvents
import StoryEngine.Webhooks.MergeWebhook

namespace StoryEngine.Billing

open Data Schema Statements Webhooks

/-! # The webhook of Stripe

An event is marked before it is handled, whatever comes of it.
-/

structure StripeRequest where
  body : Text
  signature : Text

/-- The library of Stripe, which throws on a signature that does not match, and the
three variables with secrets. -/
structure StripeEndpoint where
  stripe : StripeRuntime
  constructEvent : Text → Text → Text → Option StripeEvent
  webhookSecrets : List (Option Text)

inductive StripeAnswer where
  | notConfigured
  | invalidSignature
  | missingEventId
  | deduplicated
  | received
  /-- The answer 500. -/
  | processingFailed
deriving DecidableEq

def StripeAnswer.processed : StripeAnswer → Bool
  | .received | .processingFailed => true
  | _ => false

structure StripeState where
  marks : MarkStore := {}
  tables : BillingTables := {}

variable (endpoint : StripeEndpoint)

def constructStripeEvent (request : StripeRequest) (secrets : List Text) : Option StripeEvent :=
  secrets.findSome? fun secret => endpoint.constructEvent request.body request.signature secret

def receiveEvent (request : StripeRequest) : Except StripeAnswer StripeEvent := do
  let secrets := resolveWebhookSecrets endpoint.webhookSecrets
  let _ ← ensure (!secrets.isEmpty) .notConfigured
  let event ← required (constructStripeEvent endpoint request secrets) .invalidSignature
  let _ ← ensure (!event.id.isEmpty) .missingEventId
  return event

def StripeEvent.key (event : StripeEvent) : Text := ("stripe:" : String) ++ event.id

def processEvent (state : StripeState) (event : StripeEvent) (source : MarkSource) (now : Date) :
    StripeAnswer × StripeState :=
  match markWebhookEventIfNew state.marks source event.key now with
  | (false, marks) => (.deduplicated, { state with marks })
  | (true, marks) =>
    match handleStripeEvent endpoint.stripe now event state.tables with
    | .ok _ tables => (.received, { marks, tables })
    | .error _ tables => (.processingFailed, { marks, tables })

def stripeWebhookHandler (state : StripeState) (request : StripeRequest) (source : MarkSource)
    (now : Date) : StripeAnswer × StripeState :=
  match receiveEvent endpoint request with
  | .error answer => (answer, state)
  | .ok event => processEvent endpoint state event source now

/-- A delivery, the time since the one before, and whether Redis is there. -/
structure StripeDelivery where
  elapsed : Nat
  request : StripeRequest
  source : MarkSource

structure Handled where
  event : StripeEvent
  source : MarkSource
  handledAt : Date
  answer : StripeAnswer

structure StripeSystem where
  now : Date := 0
  state : StripeState := {}
  handled : List Handled := []

def answerTo (system : StripeSystem) (delivery : StripeDelivery) : StripeAnswer × StripeState :=
  stripeWebhookHandler endpoint system.state delivery.request delivery.source
    (system.now + delivery.elapsed)

def delivered (delivery : StripeDelivery) : Option StripeEvent :=
  (receiveEvent endpoint delivery.request).toOption

def noted (system : StripeSystem) (delivery : StripeDelivery) : List Handled :=
  let answer := (answerTo endpoint system delivery).1
  if answer.processed then
    (delivered endpoint delivery).toList.map fun event => {
      event
      source := delivery.source
      handledAt := system.now + delivery.elapsed
      answer }
  else []

def deliver (system : StripeSystem) (delivery : StripeDelivery) : StripeSystem where
  now := system.now + delivery.elapsed
  state := (answerTo endpoint system delivery).2
  handled := system.handled ++ noted endpoint system delivery

def Unresolved (system : StripeSystem) (event : StripeEvent) : Prop :=
  (∃ earlier ∈ system.handled, earlier.event.id = event.id) ∧
    ∀ earlier ∈ system.handled, earlier.event.id = event.id → earlier.answer = .processingFailed

def SucceededLately (system : StripeSystem) (delivery : StripeDelivery) (event : StripeEvent) :
    Prop :=
  ∃ earlier ∈ system.handled, earlier.event.id = event.id ∧ earlier.answer = .received ∧
    system.now + delivery.elapsed < earlier.handledAt + defaultTtlMs

/-- A redelivery after failures is processed, and one after a success is not. -/
def RetriedUntilSuccess (system : StripeSystem) (delivery : StripeDelivery) : Prop :=
  ∀ event, delivered endpoint delivery = some event →
    (Unresolved system event → (answerTo endpoint system delivery).1.processed = true) ∧
      (SucceededLately system delivery event →
        (answerTo endpoint system delivery).1.processed = false)

/-- Where the delivery looks, an event with its key was handled in the last five
minutes. -/
def HandledLately (system : StripeSystem) (delivery : StripeDelivery) (event : StripeEvent) :
    Prop :=
  ∃ earlier ∈ system.handled, earlier.source = delivery.source ∧
    Text.trim earlier.event.key = Text.trim event.key ∧
      system.now + delivery.elapsed < earlier.handledAt + defaultTtlMs

/-- A redelivery after failures comes when their marks have expired, and one after a
success looks where there is a mark. -/
def WellTimed (system : StripeSystem) (delivery : StripeDelivery) : Prop :=
  ∀ event, delivered endpoint delivery = some event →
    (Unresolved system event → ¬HandledLately system delivery event) ∧
      (SucceededLately system delivery event → HandledLately system delivery event)

def MarksHandled (system : StripeSystem) : Prop :=
  ∀ (source : MarkSource) (key : Text) (later : Date), system.now ≤ later →
    (isMarked (system.state.marks.marks source) (storedKey source key) later = true ↔
      ∃ earlier ∈ system.handled, earlier.source = source ∧
        Text.trim earlier.event.key = Text.trim key ∧
          later < earlier.handledAt + defaultTtlMs)

theorem StripeEvent.key_trim (event : StripeEvent) : Text.trim event.key ≠ [] := by
  have first : 's' ∈ ("stripe:" : String).toList := by decide
  have named : 's' ∈ event.key := List.mem_append_left _ first
  exact Text.trim_ne_nil named (by decide)

section

variable {endpoint} {system : StripeSystem} {delivery : StripeDelivery} {event : StripeEvent}
  {state : StripeState} {source : MarkSource} {now : Date}

theorem processEvent_marked :
    (processEvent endpoint state event source now).1.processed =
        (markWebhookEventIfNew state.marks source event.key now).1 ∧
      (processEvent endpoint state event source now).2.marks =
        (markWebhookEventIfNew state.marks source event.key now).2 := by
  unfold processEvent
  rcases markWebhookEventIfNew state.marks source event.key now with ⟨new, marks⟩
  cases new with
  | false => exact ⟨rfl, rfl⟩
  | true =>
    dsimp only
    cases handleStripeEvent endpoint.stripe now event state.tables <;> exact ⟨rfl, rfl⟩

theorem answerTo_delivered (known : delivered endpoint delivery = some event) :
    answerTo endpoint system delivery =
      processEvent endpoint system.state event delivery.source (system.now + delivery.elapsed) := by
  have outcome := toOption_eq_some.mp known
  rw [answerTo, stripeWebhookHandler, outcome]

theorem answerTo_processed (known : delivered endpoint delivery = some event) :
    (answerTo endpoint system delivery).1.processed =
      !isMarked (system.state.marks.marks delivery.source) (storedKey delivery.source event.key)
        (system.now + delivery.elapsed) := by
  rw [answerTo_delivered known, processEvent_marked.1, markWebhookEventIfNew_new event.key_trim]

theorem answerTo_refused (refused : delivered endpoint delivery = none) :
    (answerTo endpoint system delivery).2 = system.state := by
  unfold delivered at refused
  unfold answerTo stripeWebhookHandler
  cases outcome : receiveEvent endpoint delivery.request with
  | error answer => rfl
  | ok event =>
    rw [outcome] at refused
    cases refused

theorem deliver_marks (marked : MarksHandled system) :
    MarksHandled (deliver endpoint system delivery) := by
  intro source key later after
  have reached : system.now + delivery.elapsed ≤ later := after
  have notBefore : system.now ≤ later := Nat.le_trans (Nat.le_add_right _ _) reached
  cases known : delivered endpoint delivery with
  | none =>
    have nothing : noted endpoint system delivery = [] := by
      rw [noted, known]
      split <;> rfl
    simp only [deliver, answerTo_refused known, nothing, List.append_nil]
    exact marked source key later notBefore
  | some event =>
    have processed : (answerTo endpoint system delivery).1.processed = _ :=
      answerTo_processed known
    have new : (markWebhookEventIfNew system.state.marks delivery.source event.key
        (system.now + delivery.elapsed)).1 =
          (answerTo endpoint system delivery).1.processed := by
      rw [processed, markWebhookEventIfNew_new event.key_trim]
    have marks : (deliver endpoint system delivery).state.marks =
        (markWebhookEventIfNew system.state.marks delivery.source event.key
          (system.now + delivery.elapsed)).2 := by
      rw [deliver, answerTo_delivered known, processEvent_marked.2]
    rw [marks, markWebhookEventIfNew_live event.key_trim reached, new,
      marked source key later notBefore]
    simp only [deliver, noted, known]
    cases (answerTo endpoint system delivery).1.processed with
    | false => simp
    | true =>
      simp only [if_true, Option.toList_some, List.map_singleton, List.mem_append,
        List.mem_singleton, or_and_right, exists_or, exists_eq_left, true_and]

theorem retriedUntilSuccess_iff (marked : MarksHandled system) :
    RetriedUntilSuccess endpoint system delivery ↔ WellTimed endpoint system delivery := by
  refine forall_congr' fun event => forall_congr' fun known => ?_
  have live := marked delivery.source event.key (system.now + delivery.elapsed)
    (Nat.le_add_right _ _)
  rw [answerTo_processed known, HandledLately, ← live]
  cases isMarked (system.state.marks.marks delivery.source)
    (storedKey delivery.source event.key) (system.now + delivery.elapsed) <;> simp

end

/-- In a sequence of deliveries every one is treated as it should be exactly when all
are well timed. -/
theorem events_retried_iff (tables : BillingTables) (deliveries : List StripeDelivery) :
    let start : StripeSystem := { state := { tables } }
    (∀ taken ∈ trace (deliver endpoint) start deliveries,
        RetriedUntilSuccess endpoint taken.1 taken.2) ↔
      ∀ taken ∈ trace (deliver endpoint) start deliveries, WellTimed endpoint taken.1 taken.2 := by
  intro start
  have initial : MarksHandled start := by
    intro source key later _
    cases source <;> simp [start, isMarked, MarkStore.marks]
  have free : Guarded (deliver endpoint) (fun _ _ => True) start deliveries := fun _ _ => trivial
  refine forall_congr' fun taken => forall_congr' fun member => ?_
  obtain ⟨marked, _⟩ := trace_guarded_invariant MarksHandled
    (fun _ _ marked _ => deliver_marks marked) initial free taken member
  exact retriedUntilSuccess_iff marked

def startingStripe : StripeRuntime where
  retrieve id now :=
    if now < 5000 then none
    else some {
      id
      customer := "cus_1"
      status := .active
      currentPeriodStart := 0
      currentPeriodEnd := 4000 }

def checkoutEvent : StripeEvent where
  id := "evt_1"
  created := 1
  data := .checkoutSessionCompleted { subscription := some "sub_1", organizationId := some 1 }

def checkoutEndpoint : StripeEndpoint where
  stripe := startingStripe
  constructEvent _ signature secret := if signature = secret then some checkoutEvent else none
  webhookSecrets := [none, some "secret", none]

def checkoutDelivery (elapsed : Nat) : StripeDelivery where
  elapsed
  request := { body := "checkout", signature := "secret" }
  source := .redis

def checkoutStart : StripeSystem where
  state := { tables := { organizations := [{ id := 1, stripeCustomerId := some "cus_1" }] } }

/-- The redelivery a minute after the failure is not handled. -/
theorem failed_event_is_dropped :
    (trace (deliver checkoutEndpoint) checkoutStart
      [checkoutDelivery 2000, checkoutDelivery 60000]).map
        (fun taken => (answerTo checkoutEndpoint taken.1 taken.2).1) =
      [.processingFailed, .deduplicated] ∧
    ¬∀ taken ∈ trace (deliver checkoutEndpoint) checkoutStart
      [checkoutDelivery 2000, checkoutDelivery 60000],
        RetriedUntilSuccess checkoutEndpoint taken.1 taken.2 := by
  refine ⟨by decide +kernel, fun all => ?_⟩
  have second := all (deliver checkoutEndpoint checkoutStart (checkoutDelivery 2000),
    checkoutDelivery 60000) (by simp [trace])
  have unresolved : Unresolved (deliver checkoutEndpoint checkoutStart (checkoutDelivery 2000))
      checkoutEvent := by
    unfold Unresolved
    decide +kernel
  have processed := (second checkoutEvent rfl).1 unresolved
  revert processed
  decide +kernel

end StoryEngine.Billing
