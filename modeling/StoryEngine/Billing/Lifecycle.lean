import StoryEngine.Billing.StripeEvents
import StoryEngine.Data.Run

namespace StoryEngine.Billing

open Data Schema Statements

/-! # The life of a subscription

The events of one subscription are handled one after the other, in any order and
after any delay.
-/

structure Handling where
  elapsed : Nat
  event : StripeEvent
deriving DecidableEq

structure BillingSystem where
  now : Date
  tables : BillingTables
  /-- A deletion has been handled. -/
  deleted : Bool := false

def StripeEventData.isDeletion : StripeEventData → Bool
  | .subscriptionDeleted _ => true
  | _ => false

def StripeEventData.setsPlan : StripeEventData → Bool
  | .checkoutSessionCompleted _ | .invoicePaid _ => true
  | _ => false

def handle (runtime : StripeRuntime) (system : BillingSystem) (handling : Handling) :
    BillingSystem where
  now := system.now + handling.elapsed
  tables := Statements.after
    (handleStripeEvent runtime (system.now + handling.elapsed) handling.event system.tables)
  deleted := system.deleted || handling.event.data.isDeletion

structure SubscriptionLife where
  id : Text
  organizationId : RowId
  deletedAt : Date

variable (life : SubscriptionLife)

/-- Stripe answers with the subscription, which is canceled from its deletion on. -/
structure SubscriptionLife.At (runtime : StripeRuntime) : Prop where
  named : ∀ now subscription, runtime.retrieve life.id now = some subscription →
    subscription.id = life.id
  ended : ∀ now subscription, runtime.retrieve life.id now = some subscription →
    life.deletedAt ≤ now → subscription.status = .canceled

def Sole (tables : BillingTables) : Prop :=
  ∀ row ∈ tables.subscriptions, row.organizationId = life.organizationId →
    row.stripeSubscriptionId = some life.id

def Concerns (tables : BillingTables) : StripeEventData → Prop
  | .checkoutSessionCompleted session => session.subscription = some life.id
  | .invoicePaid subscription | .invoicePaymentFailed subscription => subscription = some life.id
  | .subscriptionUpdated subscription => subscription.id = life.id
  | .subscriptionDeleted subscription =>
    subscription.id = life.id ∧
      organizationOf subscription tables = .ok (some life.organizationId) tables
  | .other => True

def Timely (system : BillingSystem) (handling : Handling) : Prop :=
  handling.event.data.isDeletion = true → life.deletedAt ≤ system.now + handling.elapsed

/-- The deletion finds the row of the subscription, not written well after the event,
and no event that sets the plan is handled after it. -/
def InOrder (system : BillingSystem) (handling : Handling) : Prop :=
  (handling.event.data.setsPlan = true → system.deleted = false) ∧
    (handling.event.data.isDeletion = true → system.deleted = false →
      ∃ row, findSubscription system.tables life.id = some row ∧
        isStaleStripeLifecycleEvent row.updatedAt handling.event.created = false)

/-- The plan is that of the trial where no other subscription pays for one. -/
structure Ended (alone : Prop) (tables : BillingTables) : Prop where
  canceled : ∃ row, findSubscription tables life.id = some row ∧ row.status = .canceled
  reverted : alone →
    ∃ row, findOrganization tables life.organizationId = some row ∧ row.plan = .freeTrial

def Organization.identity (row : Organization) : RowId × Option Text :=
  (row.id, row.stripeCustomerId)

/-- Organizations keep their customers, the subscription stays the only one, and
what has ended stays ended from then on. -/
structure Steady (fromThen : Prop) (before later : BillingTables) : Prop where
  identities : later.organizations.map Organization.identity =
    before.organizations.map Organization.identity
  sole : Sole life before → Sole life later
  ended : ∀ {alone}, fromThen → Ended life alone before → Ended life alone later

section

variable {life} {fromThen : Prop} {tables after : BillingTables} {organizationId : RowId}
  {stripeSubscriptionId : Text} {now : Date} {changeOrganization : Organization → Organization}
  {change : Subscription → Subscription}

theorem Steady.refl (tables : BillingTables) : Steady life fromThen tables tables :=
  ⟨rfl, id, fun _ => id⟩

theorem Steady.trans {first second third : BillingTables} (left : Steady life fromThen first second)
    (right : Steady life fromThen second third) : Steady life fromThen first third :=
  ⟨right.identities.trans left.identities, right.sole ∘ left.sole,
    fun reached => right.ended reached ∘ left.ended reached⟩

theorem Steady.weaken {other : Prop} {before later : BillingTables}
    (steady : Steady life fromThen before later) (weaker : other → fromThen) :
    Steady life other before later :=
  ⟨steady.identities, steady.sole, fun reached => steady.ended (weaker reached)⟩

theorem steady_updateOrganization
    (kept : ∀ row, (changeOrganization row).identity = row.identity)
    (reverts : fromThen → ∀ row, (changeOrganization row).plan = .freeTrial) :
    Keeps (Steady life fromThen) (updateOrganization organizationId changeOrganization) := by
  intro tables
  unfold updateOrganization
  split
  · refine ⟨map_updateWhere kept, id, fun reached finished => ⟨finished.canceled, fun alone => ?_⟩⟩
    obtain ⟨row, found, plan⟩ := finished.reverted alone
    refine ⟨_, (findOrganization_set _ fun row => congrArg Prod.fst (kept row)).trans
      (congrArg _ found), ?_⟩
    dsimp only
    split
    · exact reverts reached row
    · exact plan
  · exact Steady.refl tables

theorem steady_set (keptId : ∀ row, (change row).stripeSubscriptionId = row.stripeSubscriptionId)
    (keptOrganization : ∀ row, (change row).organizationId = row.organizationId)
    (cancels : fromThen → ∀ row, (change row).status = .canceled) :
    Steady life fromThen tables (setSubscription tables stripeSubscriptionId now change) := by
  refine ⟨rfl, fun sole row member => ?_, fun reached finished => ⟨?_, finished.reverted⟩⟩
  · obtain ⟨old, inTable, ⟨_, rfl⟩ | ⟨_, rfl⟩⟩ := mem_updateWhere.mp member
    · intro own
      exact (keptId old).trans (sole old inTable ((keptOrganization old).symm.trans own))
    · exact sole row inTable
  · obtain ⟨row, found, status⟩ := finished.canceled
    refine ⟨_, (findSubscription_set change keptId).trans (congrArg _ found), ?_⟩
    dsimp only
    split
    · exact cancels reached row
    · exact status

theorem steady_updateSubscription
    (keptId : ∀ row, (change row).stripeSubscriptionId = row.stripeSubscriptionId)
    (keptOrganization : ∀ row, (change row).organizationId = row.organizationId)
    (cancels : fromThen → ∀ row, (change row).status = .canceled) :
    Keeps (Steady life fromThen) (updateSubscription stripeSubscriptionId now change) := by
  intro tables
  unfold updateSubscription
  split
  · exact steady_set keptId keptOrganization cancels
  · exact Steady.refl tables

theorem steady_upsertSubscription
    (keptId : ∀ row, (change row).stripeSubscriptionId = row.stripeSubscriptionId)
    (keptOrganization : ∀ row, (change row).organizationId = row.organizationId)
    (cancels : fromThen → ∀ row, (change row).status = .canceled) :
    Keeps (Steady life fromThen) (upsertSubscription life.id now organizationId change) := by
  intro tables
  unfold upsertSubscription
  split
  · exact steady_set keptId keptOrganization cancels
  · next unknown =>
      refine ⟨rfl, fun sole row member own => ?_, fun _ finished => ?_⟩
      · rcases List.mem_append.mp member with inTable | isNew
        · exact sole row inTable own
        · rw [List.mem_singleton.mp isNew, keptId]
      · obtain ⟨row, found, _⟩ := finished.canceled
        have named : tables.subscriptions.find? (·.stripeSubscriptionId == some life.id) =
          some row := found
        exact absurd (List.any_eq_true.mpr ⟨row, List.mem_of_find?_eq_some named,
          List.find?_some named⟩) unknown

theorem steady_stored : Keeps (Steady life fromThen) (stored stripeSubscriptionId) :=
  fun tables => Steady.refl tables

variable {subscription : StripeSubscription} {start : BillingTables} {system : BillingSystem}

theorem steady_organizationOf :
    Keeps (Steady life fromThen) (organizationOf subscription) := by
  unfold organizationOf
  cases subscription.organizationId with
  | none => exact fun tables => Steady.refl tables
  | some organizationId => exact fun tables => Steady.refl tables

theorem steady_retrieve {α : Type} {runtime : StripeRuntime}
    {next : StripeSubscription → BillingWork α}
    (keeps : ∀ subscription, runtime.retrieve stripeSubscriptionId now = some subscription →
      Keeps (Steady life fromThen) (next subscription)) :
    Keeps (Steady life fromThen) (retrieve runtime now stripeSubscriptionId >>= next) := by
  intro tables
  rw [bind_apply]
  unfold retrieve
  cases found : runtime.retrieve stripeSubscriptionId now with
  | none => exact Steady.refl tables
  | some subscription => exact keeps subscription found tables

theorem mapStripeStatus_canceled {status : StripeStatus} (canceled : status = .canceled) :
    mapStripeStatus status = .canceled := by
  rw [canceled]
  rfl

variable {runtime : StripeRuntime} {created : Nat}

theorem steady_checkoutCompleted (stripe : life.At runtime) {session : CheckoutSession}
    (own : session.subscription = some life.id) :
    Keeps (Steady life False) (handleCheckoutCompleted runtime now session) := by
  refine Keeps.bind Steady.trans ?_ fun owner => ?_
  · unfold checkoutOrganization
    rw [own]
    cases session.organizationId with
    | some organizationId => exact Keeps.pure Steady.refl _
    | none =>
      refine steady_retrieve fun subscription _ => ?_
      exact steady_organizationOf
  · rw [own]
    cases owner with
    | none => exact Keeps.pure Steady.refl _
    | some organizationId =>
      refine steady_retrieve fun subscription found => ?_
      refine Keeps.bind Steady.trans ?_ fun _ => ?_
      · rw [stripe.named now subscription found]
        exact steady_upsertSubscription (fun _ => rfl) (fun _ => rfl) False.elim
      · exact steady_updateOrganization (fun _ => rfl) False.elim

theorem steady_invoicePaid :
    Keeps (Steady life False) (handleInvoicePaid runtime now stripeSubscriptionId) := by
  refine Keeps.bind Steady.trans steady_stored fun existing => ?_
  cases existing with
  | none => exact Keeps.pure Steady.refl _
  | some localSub =>
    refine steady_retrieve fun subscription _ => ?_
    refine Keeps.bind Steady.trans ?_ fun _ => ?_
    · exact steady_updateSubscription (fun _ => rfl) (fun _ => rfl) False.elim
    · exact steady_updateOrganization (fun _ => rfl) False.elim

theorem steady_invoicePaymentFailed (stripe : life.At runtime) :
    Keeps (Steady life (life.deletedAt ≤ now))
      (handleInvoicePaymentFailed runtime now created life.id) := by
  refine Keeps.bind Steady.trans steady_stored fun existing => ?_
  cases existing with
  | none => exact Keeps.pure Steady.refl _
  | some localSub =>
    dsimp only
    split
    · exact Keeps.pure Steady.refl _
    · refine steady_retrieve fun subscription found => ?_
      refine steady_updateSubscription (fun _ => rfl) (fun _ => rfl) fun reached _ => ?_
      exact mapStripeStatus_canceled (stripe.ended now subscription found reached)

theorem steady_subscriptionUpdated (stripe : life.At runtime) {incoming : StripeSubscription}
    (own : incoming.id = life.id) :
    Keeps (Steady life (life.deletedAt ≤ now))
      (handleSubscriptionUpdated runtime now created incoming) := by
  refine Keeps.bind Steady.trans steady_stored fun existing => ?_
  split
  · exact Keeps.pure Steady.refl _
  · rw [own]
    refine steady_retrieve fun subscription found => ?_
    refine Keeps.bind Steady.trans steady_organizationOf fun owner => ?_
    have status (reached : life.deletedAt ≤ now) : mapStripeStatus subscription.status = .canceled :=
      mapStripeStatus_canceled (stripe.ended now subscription found reached)
    cases owner with
    | none => exact Keeps.pure Steady.refl _
    | some organizationId =>
      refine Keeps.bind Steady.trans ?_ fun _ => ?_
      · rw [stripe.named now subscription found]
        exact steady_upsertSubscription (fun _ => rfl) (fun _ => rfl) fun reached _ =>
          status reached
      · split
        · next inUse =>
            refine steady_updateOrganization (fun _ => rfl) fun reached _ => ?_
            rw [status reached] at inUse
            cases inUse
        · exact Keeps.pure Steady.refl _

theorem steady_subscriptionDeleted :
    Keeps (Steady life fromThen) (handleSubscriptionDeleted now created subscription) := by
  refine Keeps.bind Steady.trans steady_stored fun existing => ?_
  split
  · exact Keeps.pure Steady.refl _
  · refine Keeps.bind Steady.trans steady_organizationOf fun owner => ?_
    cases owner with
    | none => exact Keeps.pure Steady.refl _
    | some organizationId =>
      refine Keeps.bind Steady.trans ?_ fun _ => ?_
      · exact steady_updateSubscription (fun _ => rfl) (fun _ => rfl) fun _ _ => rfl
      · refine Keeps.bind Steady.trans (Keeps.get Steady.refl) fun current => ?_
        split
        · exact steady_updateOrganization (fun _ => rfl) fun _ _ => rfl
        · exact Keeps.pure Steady.refl _

/-- What the handler does with a deletion that is not taken for stale. -/
theorem handleSubscriptionDeleted_eq_ok {row : Subscription}
    (own : subscription.id = life.id) (found : findSubscription tables life.id = some row)
    (fresh : isStaleStripeLifecycleEvent row.updatedAt created = false)
    (owner : organizationOf subscription tables = .ok (some life.organizationId) tables)
    (known : (findOrganization tables life.organizationId).isSome) :
    handleSubscriptionDeleted now created subscription tables =
      .ok ⟨⟩ (if otherActive tables life.organizationId life.id then
        setSubscription tables life.id now (canceled now)
      else
        setOrganization (setSubscription tables life.id now (canceled now))
          life.organizationId (reverted now)) := by
  refine bind_eq_ok.mpr ⟨_, _, rfl, ?_⟩
  rw [own, found, if_neg (by simp [staleFor, fresh])]
  refine bind_eq_ok.mpr ⟨_, _, owner, ?_⟩
  refine bind_eq_ok.mpr ⟨_, _, updateSubscription_eq_ok.mpr ⟨by simp [found], rfl⟩, ?_⟩
  refine bind_eq_ok.mpr ⟨_, _, rfl, ?_⟩
  have still : otherActive (setSubscription tables life.id now (canceled now))
      life.organizationId life.id = otherActive tables life.organizationId life.id :=
    otherActive_set (canceled now) fun _ => rfl
  rw [still]
  cases otherActive tables life.organizationId life.id with
  | true => rfl
  | false => exact updateOrganization_eq_ok.mpr ⟨known, rfl⟩

theorem deletion_ends {row : Subscription} {alone : Prop}
    (own : subscription.id = life.id) (found : findSubscription tables life.id = some row)
    (fresh : isStaleStripeLifecycleEvent row.updatedAt created = false)
    (owner : organizationOf subscription tables = .ok (some life.organizationId) tables)
    (known : (findOrganization tables life.organizationId).isSome)
    (sole : alone → Sole life tables) :
    Ended life alone
      (Statements.after (handleSubscriptionDeleted now created subscription tables)) := by
  have named : row.stripeSubscriptionId = some life.id := findSubscription_id found
  obtain ⟨org, isOrg⟩ := Option.isSome_iff_exists.mp known
  rw [handleSubscriptionDeleted_eq_ok own found fresh owner known]
  constructor
  · have ended : ∃ row, findSubscription (setSubscription tables life.id now (canceled now))
        life.id = some row ∧ row.status = .canceled := by
      refine ⟨_, (findSubscription_set (canceled now) fun _ => rfl).trans (congrArg _ found), ?_⟩
      dsimp only
      rw [if_pos (by simp [named])]
      rfl
    cases otherActive tables life.organizationId life.id with
    | true => exact ended
    | false => exact ended
  · intro isAlone
    have none : otherActive tables life.organizationId life.id = false := by
      refine List.any_eq_false.mpr fun other member active => ?_
      simp only [Bool.and_eq_true, beq_iff_eq] at active
      rw [sole isAlone other member active.1.1] at active
      simp at active
    rw [none]
    refine ⟨_, (findOrganization_set (reverted now) fun _ => rfl).trans (congrArg _ isOrg), ?_⟩
    dsimp only
    rw [if_pos (by simp [findOrganization_id isOrg])]
    rfl

/-- The subscription has ended once its deletion has been handled. -/
structure Living (life : SubscriptionLife) (start : BillingTables) (system : BillingSystem) :
    Prop where
  steady : Steady life False start system.tables
  ended : system.deleted = true →
    life.deletedAt ≤ system.now ∧ Ended life (Sole life start) system.tables

def Delivered (life : SubscriptionLife) (start : BillingTables) (system : BillingSystem)
    (handling : Handling) : Prop :=
  Concerns life start handling.event.data ∧ Timely life system handling

theorem organizationOf_steady {before later : BillingTables}
    (steady : Steady life fromThen before later)
    (owner : organizationOf subscription before = .ok (some organizationId) before) :
    organizationOf subscription later = .ok (some organizationId) later := by
  have lookup (tables : BillingTables) (customer : Text) :
      (tables.organizations.find? (·.stripeCustomerId == some customer)).map (·.id) =
        ((tables.organizations.map Organization.identity).find? (·.2 == some customer)).map
          (·.1) := by
    rw [List.find?_map, Option.map_map]
    rfl
  unfold organizationOf at owner ⊢
  cases given : subscription.organizationId with
  | some organizationId =>
    rw [given] at owner
    have same := (EStateM.Result.ok.inj owner).1
    exact congrArg (EStateM.Result.ok · later) same
  | none =>
    rw [given] at owner
    have found := (EStateM.Result.ok.inj owner).1
    rw [lookup, ← steady.identities, ← lookup] at found
    exact congrArg (EStateM.Result.ok · later) found

theorem known_steady {before later : BillingTables} (steady : Steady life fromThen before later)
    (known : (findOrganization before organizationId).isSome) :
    (findOrganization later organizationId).isSome := by
  have lookup (tables : BillingTables) :
      (findOrganization tables organizationId).isSome =
        ((tables.organizations.map Organization.identity).find? (·.1 == organizationId)).isSome := by
    rw [List.find?_map, Option.isSome_map]
    rfl
  rw [lookup, steady.identities, ← lookup]
  exact known

theorem steady_event (now : Date) (stripe : life.At runtime) {event : StripeEvent}
    (own : Concerns life start event.data) :
    Keeps (Steady life (life.deletedAt ≤ now ∧ event.data.setsPlan = false))
      (handleStripeEvent runtime now event) := by
  obtain ⟨id, created, data⟩ := event
  intro tables
  cases data with
  | checkoutSessionCompleted session =>
    exact (steady_checkoutCompleted stripe own tables).weaken fun late => by cases late.2
  | invoicePaid subscription =>
    rw [show subscription = some life.id from own]
    exact (steady_invoicePaid tables).weaken fun late => by cases late.2
  | invoicePaymentFailed subscription =>
    rw [show subscription = some life.id from own]
    exact (steady_invoicePaymentFailed stripe tables).weaken And.left
  | subscriptionUpdated subscription =>
    exact (steady_subscriptionUpdated stripe own tables).weaken And.left
  | subscriptionDeleted subscription => exact steady_subscriptionDeleted tables
  | other => exact Steady.refl tables

theorem living_handle (stripe : life.At runtime)
    (known : (findOrganization start life.organizationId).isSome) {handling : Handling}
    (living : Living life start system)
    (delivered : Delivered life start system handling) (ordered : InOrder life system handling) :
    Living life start (handle runtime system handling) := by
  obtain ⟨own, timely⟩ := delivered
  have stays := steady_event (system.now + handling.elapsed) stripe own system.tables
  refine ⟨living.steady.trans (stays.weaken False.elim), fun finished => ?_⟩
  cases before : system.deleted with
  | true =>
    obtain ⟨reached, ended⟩ := living.ended before
    have late : life.deletedAt ≤ system.now + handling.elapsed :=
      reached.trans (Nat.le_add_right _ _)
    have free : handling.event.data.setsPlan = false :=
      Bool.eq_false_iff.mpr fun sets => by simp [ordered.1 sets] at before
    exact ⟨late, stays.ended ⟨late, free⟩ ended⟩
  | false =>
    have isDeletion : handling.event.data.isDeletion = true := by
      simpa [handle, before] using finished
    obtain ⟨row, found, fresh⟩ := ordered.2 isDeletion before
    refine ⟨timely isDeletion, ?_⟩
    unfold handle handleStripeEvent
    cases data : handling.event.data with
    | subscriptionDeleted subscription =>
      rw [data] at own
      exact deletion_ends own.1 found fresh (organizationOf_steady living.steady own.2)
        (known_steady living.steady known) living.steady.sole
    | _ => simp [data, StripeEventData.isDeletion] at isDeletion

theorem deleted_run {handlings : List Handling} :
    (run (handle runtime) system handlings).deleted =
      (system.deleted || handlings.any (·.event.data.isDeletion)) := by
  induction handlings generalizing system with
  | nil => simp
  | cons handling rest ih =>
    rw [run_cons, ih, List.any_cons, ← Bool.or_assoc]
    rfl

/-- When all events of a subscription have been handled in order, its deletion among
them, the row is canceled, and the plan is that of the trial when the organization has no other
subscription. -/
theorem subscription_ends_canceled (stripe : life.At runtime) {start : BillingSystem}
    {handlings : List Handling} (fresh : start.deleted = false)
    (known : (findOrganization start.tables life.organizationId).isSome)
    (delivered : Guarded (handle runtime) (Delivered life start.tables) start handlings)
    (ordered : Guarded (handle runtime) (InOrder life) start handlings)
    (deleted : ∃ handling ∈ handlings, handling.event.data.isDeletion = true) :
    Ended life (Sole life start.tables) (run (handle runtime) start handlings).tables := by
  have both : Guarded (handle runtime) (fun system handling =>
      Delivered life start.tables system handling ∧ InOrder life system handling) start handlings :=
    fun taken member => ⟨delivered taken member, ordered taken member⟩
  have living : Living life start.tables (run (handle runtime) start handlings) :=
    run_guarded_invariant (Living life start.tables)
      (fun _ _ living allowed => living_handle stripe known living allowed.1 allowed.2)
      ⟨Steady.refl _, by simp [fresh]⟩ both
  have finished : (run (handle runtime) start handlings).deleted = true := by
    rw [deleted_run, List.any_eq_true.mpr deleted, Bool.or_true]
  exact (living.ended finished).2

end

def canceledLife : SubscriptionLife :=
  { id := "sub_1", organizationId := 1, deletedAt := 3000000 }

def lifeAt (now : Date) : StripeSubscription where
  id := "sub_1"
  customer := "cus_1"
  status := if now < 3000000 then .active else .canceled
  currentPeriodStart := 1000
  currentPeriodEnd := 4000

def lifeAtStripe : StripeRuntime where
  retrieve := fun _ now => some (lifeAt now)

def beforeCheckout : BillingSystem where
  now := 0
  tables := { organizations := [{ id := 1, stripeCustomerId := some "cus_1" }] }

def paidCheckout : CheckoutSession where
  subscription := some "sub_1"
  organizationId := some 1

def checkoutAt (elapsed : Nat) : Handling where
  elapsed
  event := { id := "evt_1", created := 1000, data := .checkoutSessionCompleted paidCheckout }

def updateAt (elapsed : Nat) : Handling where
  elapsed
  event := { id := "evt_2", created := 3000, data := .subscriptionUpdated (lifeAt 3000000) }

def deletionAt (elapsed : Nat) : Handling where
  elapsed
  event := { id := "evt_3", created := 3000, data := .subscriptionDeleted (lifeAt 3000000) }

def invoicePaidAt (elapsed : Nat) : Handling where
  elapsed
  event := { id := "evt_4", created := 2000, data := .invoicePaid (some "sub_1") }

def outcome (handlings : List Handling) : Option SubscriptionStatus × Option Plan :=
  let tables := (run (handle lifeAtStripe) beforeCheckout handlings).tables
  ((findSubscription tables "sub_1").map (·.status), (findOrganization tables 1).map (·.plan))

/-- A deletion with nothing but a late update after it. -/
theorem deletion_then_update_ends :
    Ended canceledLife (Sole canceledLife beforeCheckout.tables)
      (run (handle lifeAtStripe) beforeCheckout
        [checkoutAt 1000000, deletionAt 2001000, updateAt 1000]).tables := by
  have stripe : canceledLife.At lifeAtStripe := by
    constructor
    · intro now subscription found
      obtain rfl := Option.some.inj found
      rfl
    · intro now subscription found reached
      obtain rfl := Option.some.inj found
      exact if_neg (Nat.not_lt.mpr reached)
  have delivered : Guarded (handle lifeAtStripe) (Delivered canceledLife beforeCheckout.tables)
      beforeCheckout [checkoutAt 1000000, deletionAt 2001000, updateAt 1000] := by
    refine guarded_cons.mpr ⟨⟨rfl, fun isDeletion => by cases isDeletion⟩, ?_⟩
    refine guarded_cons.mpr ⟨⟨⟨rfl, rfl⟩, fun _ => by decide⟩, ?_⟩
    exact guarded_cons.mpr ⟨⟨rfl, fun isDeletion => by cases isDeletion⟩, guarded_nil _ _ _⟩
  have ordered : Guarded (handle lifeAtStripe) (InOrder canceledLife) beforeCheckout
      [checkoutAt 1000000, deletionAt 2001000, updateAt 1000] := by
    refine guarded_cons.mpr ⟨⟨fun _ => rfl, fun isDeletion => by cases isDeletion⟩, ?_⟩
    refine guarded_cons.mpr ⟨⟨fun sets => (by cases sets), fun _ _ => ⟨_, rfl, by decide⟩⟩, ?_⟩
    exact guarded_cons.mpr
      ⟨⟨fun sets => (by cases sets), fun isDeletion => by cases isDeletion⟩, guarded_nil _ _ _⟩
  exact subscription_ends_canceled stripe rfl rfl delivered
    ordered ⟨deletionAt 2001000, by decide, rfl⟩

/-- A payment that is handled after the deletion revives the subscription, and a late
update makes the deletion stale, so that the plan stays paid. -/
theorem late_events_keep_plan :
    outcome [checkoutAt 1000000, deletionAt 2001000, invoicePaidAt 1000] =
        (some .active, some .starter) ∧
      outcome [checkoutAt 1000000, updateAt 2010000, deletionAt 1000] =
        (some .canceled, some .starter) := by
  decide

end StoryEngine.Billing
