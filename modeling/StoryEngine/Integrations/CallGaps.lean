import StoryEngine.Data.Run
import StoryEngine.Schema.Rows

namespace StoryEngine.Integrations

open Data Schema

/-! # Sync of call recordings

`syncCallRecordingProvider`, one await at a time: runs begin, fetch and store
pages, save the page cursor, and end or fail at any point, while new calls become
visible at the provider.
-/

structure ProviderCall where
  externalId : Text
  startedAt : Date
deriving DecidableEq

/-- A list of calls that the provider has opened.  A page cursor stands for one,
with the calls that its next pages have. -/
structure CallListing where
  /-- The calls that were visible when the first page was fetched. -/
  visible : List ProviderCall
  since : Option Date
  rest : List ProviderCall

/-- A provider lists the calls of a window in an order of its own. -/
structure CallOrder where
  arrange : List ProviderCall → List ProviderCall
  mem_arrange : ∀ calls call, call ∈ arrange calls ↔ call ∈ calls

def inWindow (since : Option Date) (call : ProviderCall) : Bool := since.all (· ≤ call.startedAt)

structure CallPage where
  data : List ProviderCall
  nextCursor : Option CallListing

def openListing (order : CallOrder) (visible : List ProviderCall) (cursor : Option CallListing)
    (since : Option Date) : CallListing :=
  cursor.getD {
    visible
    since
    rest := order.arrange (visible.filter (inWindow since)) }

def pageOf (listing : CallListing) (pageSize : Nat) : CallPage where
  data := listing.rest.take pageSize
  nextCursor :=
    if (listing.rest.drop pageSize).isEmpty then none
    else some { listing with rest := listing.rest.drop pageSize }

/-- `fetchCalls(cursor, since)`, and the list that the page is of. -/
def fetchCalls (order : CallOrder) (visible : List ProviderCall) (cursor : Option CallListing)
    (since : Option Date) (pageSize : Nat) : CallListing × CallPage :=
  let listing := openListing order visible cursor since
  (listing, pageOf listing pageSize)

structure CallSyncConfig where
  lastSyncAt : Option Date := none
  syncCursor : Option CallListing := none

/-- Where a run stands: before a fetch, while it stores a page, or after the last
page. -/
inductive LoopStage where
  | fetching (cursor : Option CallListing)
  | persisting (listing : CallListing) (page : List ProviderCall) (nextCursor : Option CallListing)
  | completing (listing : CallListing)

structure CallSyncLoop where
  since : Option Date
  stage : LoopStage

structure CallSyncState where
  now : Date := 0
  visible : List ProviderCall := []
  config : CallSyncConfig := {}
  running : Option CallSyncLoop := none
  persisted : List ProviderCall := []
  /-- The calls that were visible when a list was last opened. -/
  opened : List ProviderCall := []
  /-- The calls that became visible while a run was in progress. -/
  awaited : List ProviderCall := []
  /-- The list that the last successful run completed. -/
  listed : Option CallListing := none

structure CallSyncOptions where
  sinceOverride : Option Date := none
  cursorOverride : Option CallListing := none

inductive CallSyncAction where
  | appear (call : ProviderCall)
  | begin (options : CallSyncOptions)
  | fetchPage (pageSize : Nat)
  | persistNext
  | saveCursor
  | complete
  | fail

section

variable (order : CallOrder) (state : CallSyncState)

/-- `options?.cursorOverride ?? config.syncCursor` and the like. -/
def beginRun (options : CallSyncOptions) : CallSyncLoop where
  since := options.sinceOverride.or state.config.lastSyncAt
  stage := .fetching (options.cursorOverride.or state.config.syncCursor)

def fetchedStage (loop : CallSyncLoop) (cursor : Option CallListing) (pageSize : Nat) :
    LoopStage :=
  let (listing, page) := fetchCalls order state.visible cursor loop.since pageSize
  .persisting listing page.data page.nextCursor

/-- `hasMore` is true as long as there is a cursor. -/
def afterPage (listing : CallListing) (nextCursor : Option CallListing) : LoopStage :=
  if nextCursor.isSome then .fetching nextCursor else .completing listing

def advanceRun (loop : CallSyncLoop) : CallSyncAction → CallSyncState
  | .fetchPage pageSize =>
    match loop.stage with
    | .fetching cursor =>
      { state with
        opened := if cursor.isSome then state.opened else state.visible
        running := some { loop with stage := fetchedStage order state loop cursor pageSize } }
    | _ => state
  | .persistNext =>
    match loop.stage with
    | .persisting listing (call :: page) nextCursor =>
      { state with
        persisted := state.persisted ++ [call]
        running := some { loop with stage := .persisting listing page nextCursor } }
    | _ => state
  | .saveCursor =>
    match loop.stage with
    | .persisting listing [] nextCursor =>
      { state with
        config := { state.config with syncCursor := nextCursor }
        running := some { loop with stage := afterPage listing nextCursor } }
    | _ => state
  | .complete =>
    match loop.stage with
    | .completing listing =>
      { state with
        config := { lastSyncAt := some state.now, syncCursor := none }
        running := none
        listed := some listing }
    | _ => state
  | .fail => { state with running := none }
  | .appear _ | .begin _ => state

def syncAction : CallSyncAction → CallSyncState
  | .appear call =>
    if call ∈ state.visible then state
    else { state with
      visible := state.visible ++ [call]
      awaited := if state.running.isSome then state.awaited ++ [call] else state.awaited }
  | .begin options =>
    if state.running.isSome then state else { state with running := some (beginRun state options) }
  | action =>
    match state.running with
    | none => state
    | some loop => advanceRun order state loop action

end

structure Timed where
  elapsed : Nat
  action : CallSyncAction

def callSyncStep (order : CallOrder) (state : CallSyncState) (timed : Timed) : CallSyncState :=
  syncAction order { state with now := state.now + timed.elapsed } timed.action

/-! # Calls that fall into no window -/

/-- A call that became visible during a run is stored once a run has completed a
list that was opened after that. -/
def NoGap (state : CallSyncState) : Prop :=
  ∀ call ∈ state.awaited, ∀ listing ∈ state.listed, call ∈ listing.visible →
    call ∈ state.persisted

instance (state : CallSyncState) : Decidable (NoGap state) :=
  inferInstanceAs (Decidable (∀ call ∈ state.awaited, ∀ listing ∈ state.listed, _))

def ListedBefore (state : CallSyncState) (call : ProviderCall) : Prop :=
  ∃ listing ∈ state.listed, call ∈ listing.visible

instance (state : CallSyncState) (call : ProviderCall) : Decidable (ListedBefore state call) :=
  inferInstanceAs (Decidable (∃ listing ∈ state.listed, _))

def CallSyncLoop.completing (loop : CallSyncLoop) : Option CallListing :=
  match loop.stage with
  | .completing listing => some listing
  | _ => none

/-- A run starts from the saved cursor, and completes a list only when the calls
that became visible during a run, since the list completed before, start within
its window. -/
def StartsInWindow (state : CallSyncState) (timed : Timed) : Prop :=
  match timed.action with
  | .begin options => options.cursorOverride = none
  | .complete => ∀ loop ∈ state.running, ∀ listing ∈ loop.completing,
      ∀ call ∈ state.awaited, call ∈ listing.visible →
        ListedBefore state call ∨ inWindow listing.since call = true
  | _ => True

instance (state : CallSyncState) : (timed : Timed) → Decidable (StartsInWindow state timed)
  | ⟨_, .begin options⟩ => inferInstanceAs (Decidable (options.cursorOverride = none))
  | ⟨_, .complete⟩ => inferInstanceAs (Decidable (∀ loop ∈ state.running,
      ∀ listing ∈ loop.completing, ∀ call ∈ state.awaited, _))
  | ⟨_, .appear _⟩ | ⟨_, .fetchPage _⟩ | ⟨_, .persistNext⟩ | ⟨_, .saveCursor⟩ | ⟨_, .fail⟩ =>
    .isTrue trivial

inductive SyncMoves (order : CallOrder) (state : CallSyncState) :
    CallSyncAction → CallSyncState → Prop where
  | appears (call : ProviderCall) (new : call ∉ state.visible) :
      SyncMoves order state (.appear call)
        { state with
          visible := state.visible ++ [call]
          awaited := if state.running.isSome then state.awaited ++ [call] else state.awaited }
  | begins (options : CallSyncOptions) (idle : state.running = none) :
      SyncMoves order state (.begin options)
        { state with running := some (beginRun state options) }
  | fetches (loop : CallSyncLoop) (cursor : Option CallListing) (pageSize : Nat)
      (running : state.running = some loop) (at_ : loop.stage = .fetching cursor) :
      SyncMoves order state (.fetchPage pageSize)
        { state with
          opened := if cursor.isSome then state.opened else state.visible
          running := some { loop with stage := fetchedStage order state loop cursor pageSize } }
  | persists (loop : CallSyncLoop) (listing : CallListing) (call : ProviderCall)
      (page : List ProviderCall) (nextCursor : Option CallListing)
      (running : state.running = some loop)
      (at_ : loop.stage = .persisting listing (call :: page) nextCursor) :
      SyncMoves order state .persistNext
        { state with
          persisted := state.persisted ++ [call]
          running := some { loop with stage := .persisting listing page nextCursor } }
  | saves (loop : CallSyncLoop) (listing : CallListing) (nextCursor : Option CallListing)
      (running : state.running = some loop) (at_ : loop.stage = .persisting listing [] nextCursor) :
      SyncMoves order state .saveCursor
        { state with
          config := { state.config with syncCursor := nextCursor }
          running := some { loop with stage := afterPage listing nextCursor } }
  | completes (loop : CallSyncLoop) (listing : CallListing)
      (running : state.running = some loop) (at_ : loop.stage = .completing listing) :
      SyncMoves order state .complete
        { state with
          config := { lastSyncAt := some state.now, syncCursor := none }
          running := none
          listed := some listing }
  | fails : SyncMoves order state .fail { state with running := none }
  | stays (action : CallSyncAction) : SyncMoves order state action state

theorem syncAction_moves (order : CallOrder) (state : CallSyncState) (action : CallSyncAction) :
    SyncMoves order state action (syncAction order state action) := by
  have appearing (call : ProviderCall) :
      SyncMoves order state (.appear call) (syncAction order state (.appear call)) := by
    by_cases known : call ∈ state.visible
    · simp only [syncAction, known, if_true]
      exact .stays _
    · simp only [syncAction, known, if_false]
      exact .appears call known
  cases running : state.running with
  | none =>
    cases action with
    | appear call => exact appearing call
    | begin options =>
      simp only [syncAction, running, Option.isSome_none, Bool.false_eq_true, if_false]
      exact .begins options running
    | fetchPage | persistNext | saveCursor | complete | fail =>
      simp only [syncAction, running]
      exact .stays _
  | some loop =>
    cases action with
    | appear call => exact appearing call
    | begin options =>
      simp only [syncAction, running, Option.isSome_some, if_true]
      exact .stays _
    | fail =>
      simp only [syncAction, running, advanceRun]
      exact .fails
    | fetchPage pageSize =>
      cases at_ : loop.stage with
      | fetching cursor =>
        simp only [syncAction, running, advanceRun, at_]
        exact .fetches loop cursor pageSize running at_
      | persisting | completing =>
        simp only [syncAction, running, advanceRun, at_]
        exact .stays _
    | persistNext =>
      cases at_ : loop.stage with
      | persisting listing page nextCursor =>
        cases page with
        | nil =>
          simp only [syncAction, running, advanceRun, at_]
          exact .stays _
        | cons call page =>
          simp only [syncAction, running, advanceRun, at_]
          exact .persists loop listing call page nextCursor running at_
      | fetching | completing =>
        simp only [syncAction, running, advanceRun, at_]
        exact .stays _
    | saveCursor =>
      cases at_ : loop.stage with
      | persisting listing page nextCursor =>
        cases page with
        | nil =>
          simp only [syncAction, running, advanceRun, at_]
          exact .saves loop listing nextCursor running at_
        | cons call page =>
          simp only [syncAction, running, advanceRun, at_]
          exact .stays _
      | fetching | completing =>
        simp only [syncAction, running, advanceRun, at_]
        exact .stays _
    | complete =>
      cases at_ : loop.stage with
      | completing listing =>
        simp only [syncAction, running, advanceRun, at_]
        exact .completes loop listing running at_
      | fetching | persisting =>
        simp only [syncAction, running, advanceRun, at_]
        exact .stays _

def restOf (nextCursor : Option CallListing) : List ProviderCall :=
  match nextCursor with
  | none => []
  | some cursor => cursor.rest

def SameList (listing : CallListing) (nextCursor : Option CallListing) : Prop :=
  ∀ cursor, nextCursor = some cursor →
    cursor.visible = listing.visible ∧ cursor.since = listing.since

/-- The calls of a list are stored or still to come.  In plain runs, without
overrides, the list is the one that was opened last, from the last sync on. -/
structure Tracks (plain : Prop) (state : CallSyncState) (listing : CallListing)
    (pending : List ProviderCall) : Prop where
  seen : ∀ call ∈ listing.visible, call ∈ state.visible
  holds : ∀ call ∈ listing.visible, inWindow listing.since call = true →
    call ∈ state.persisted ∨ call ∈ pending
  latest : plain → listing.visible = state.opened ∧ listing.since = state.config.lastSyncAt
  within : plain → ∀ call ∈ pending, call ∈ listing.visible ∧ inWindow listing.since call = true

def StageTracks (plain : Prop) (state : CallSyncState) : LoopStage → Prop
  | .fetching none => plain → state.config.syncCursor = none
  | .fetching (some cursor) => Tracks plain state cursor cursor.rest
  | .persisting listing page nextCursor =>
    Tracks plain state listing (page ++ restOf nextCursor) ∧ SameList listing nextCursor
  | .completing listing => Tracks plain state listing []

structure SyncTracks (plain : Prop) (state : CallSyncState) : Prop where
  saved : ∀ cursor, state.config.syncCursor = some cursor → Tracks plain state cursor cursor.rest
  stage : ∀ loop, state.running = some loop → StageTracks plain state loop.stage
  since : ∀ loop, state.running = some loop → plain → loop.since = state.config.lastSyncAt
  opened : ∀ call ∈ state.opened, call ∈ state.visible
  listed : ∀ call, ListedBefore state call → call ∈ state.visible
  stored : plain → ∀ call ∈ state.persisted, call ∈ state.opened
  window : plain → ∀ call ∈ state.persisted,
    ListedBefore state call ∨ inWindow state.config.lastSyncAt call = true

section

variable {plain : Prop} {order : CallOrder} {state next : CallSyncState} {listing : CallListing}
  {pending : List ProviderCall} {action : CallSyncAction}

theorem Tracks.later (tracks : Tracks plain state listing pending)
    (visible : ∀ call ∈ state.visible, call ∈ next.visible)
    (persisted : ∀ call ∈ state.persisted, call ∈ next.persisted)
    (same : plain → next.opened = state.opened ∧ next.config.lastSyncAt = state.config.lastSyncAt) :
    Tracks plain next listing pending where
  seen call member := visible call (tracks.seen call member)
  holds call seen within := (tracks.holds call seen within).imp_left (persisted call)
  latest isPlain := by
    obtain ⟨opened, lastSyncAt⟩ := same isPlain
    rw [opened, lastSyncAt]
    exact tracks.latest isPlain
  within := tracks.within

theorem Tracks.same (tracks : Tracks plain state listing pending)
    (visible : next.visible = state.visible) (persisted : next.persisted = state.persisted)
    (unchanged : plain →
      next.opened = state.opened ∧ next.config.lastSyncAt = state.config.lastSyncAt) :
    Tracks plain next listing pending :=
  tracks.later (fun _ member => visible ▸ member) (fun _ member => persisted ▸ member) unchanged

theorem StageTracks.later {stage : LoopStage} (tracks : StageTracks plain state stage)
    (visible : ∀ call ∈ state.visible, call ∈ next.visible)
    (persisted : ∀ call ∈ state.persisted, call ∈ next.persisted)
    (same : plain → next.opened = state.opened ∧ next.config = state.config) :
    StageTracks plain next stage := by
  have unchanged (isPlain : plain) :
      next.opened = state.opened ∧ next.config.lastSyncAt = state.config.lastSyncAt :=
    ⟨(same isPlain).1, congrArg CallSyncConfig.lastSyncAt (same isPlain).2⟩
  cases stage with
  | fetching cursor =>
    cases cursor with
    | none =>
      intro isPlain
      rw [(same isPlain).2]
      exact tracks isPlain
    | some cursor => exact Tracks.later tracks visible persisted unchanged
  | persisting listing page nextCursor =>
    exact ⟨tracks.1.later visible persisted unchanged, tracks.2⟩
  | completing listing => exact Tracks.later tracks visible persisted unchanged

theorem restOf_nextCursor (listing : CallListing) (pageSize : Nat) :
    restOf (pageOf listing pageSize).nextCursor = listing.rest.drop pageSize := by
  unfold pageOf
  cases none : (listing.rest.drop pageSize).isEmpty with
  | true => simpa [restOf] using (List.isEmpty_iff.mp none).symm
  | false => simp [restOf]

theorem sameList_nextCursor (listing : CallListing) (pageSize : Nat) :
    SameList listing (pageOf listing pageSize).nextCursor := by
  intro cursor known
  unfold pageOf at known
  split at known
  · cases known
  · obtain rfl := Option.some.inj known
    exact ⟨rfl, rfl⟩

theorem Tracks.fetched (pageSize : Nat) (tracks : Tracks plain state listing listing.rest) :
    StageTracks plain state (.persisting listing (pageOf listing pageSize).data
      (pageOf listing pageSize).nextCursor) := by
  refine ⟨?_, sameList_nextCursor listing pageSize⟩
  rw [restOf_nextCursor]
  show Tracks plain state listing (listing.rest.take pageSize ++ listing.rest.drop pageSize)
  rwa [List.take_append_drop]

theorem Tracks.cursor {cursor : CallListing} (tracks : Tracks plain state listing cursor.rest)
    (same : SameList listing (some cursor)) : Tracks plain state cursor cursor.rest := by
  obtain ⟨visible, since⟩ := same cursor rfl
  exact {
    seen := fun call member => tracks.seen call (visible ▸ member)
    holds := fun call member within => tracks.holds call (visible ▸ member) (since ▸ within)
    latest := fun isPlain => by
      rw [visible, since]
      exact tracks.latest isPlain
    within := fun isPlain call member => by
      rw [visible, since]
      exact tracks.within isPlain call member }

theorem Tracks.stored {call : ProviderCall} (tracks : Tracks plain state listing (call :: pending))
    (visible : next.visible = state.visible) (persisted : next.persisted = state.persisted ++ [call])
    (opened : next.opened = state.opened)
    (lastSyncAt : next.config.lastSyncAt = state.config.lastSyncAt) :
    Tracks plain next listing pending where
  seen := visible ▸ tracks.seen
  holds other seen within := by
    rw [persisted]
    rcases tracks.holds other seen within with stored | pending
    · exact .inl (List.mem_append_left _ stored)
    · rcases List.mem_cons.mp pending with rfl | later
      · exact .inl (by simp)
      · exact .inr later
  latest isPlain := by
    rw [opened, lastSyncAt]
    exact tracks.latest isPlain
  within isPlain other member := tracks.within isPlain other (List.mem_cons_of_mem _ member)

theorem SyncTracks.openList (tracks : SyncTracks plain state) {loop : CallSyncLoop}
    (running : state.running = some loop) (current : CallSyncState)
    (visible : current.visible = state.visible) (config : current.config = state.config) (opened : current.opened = state.visible) :
    Tracks plain current (openListing order state.visible none loop.since)
      (openListing order state.visible none loop.since).rest where
  seen := visible ▸ fun call member => member
  holds call seen within :=
    .inr ((order.mem_arrange _ _).mpr (List.mem_filter.mpr ⟨seen, within⟩))
  latest isPlain := by
    rw [opened, config]
    exact ⟨rfl, tracks.since loop running isPlain⟩
  within isPlain call member := List.mem_filter.mp ((order.mem_arrange _ _).mp member)

theorem syncAction_tracks (moves : SyncMoves order state action next)
    (saved : ∀ options, action = .begin options →
      options.cursorOverride = none ∧ (plain → options.sinceOverride = none))
    (tracks : SyncTracks plain state) : SyncTracks plain next := by
  cases moves with
  | appears call new =>
    have visible : ∀ other ∈ state.visible, other ∈ state.visible ++ [call] :=
      fun other member => List.mem_append_left _ member
    exact {
      saved := fun cursor known => (tracks.saved cursor known).later visible (fun _ => id)
        fun _ => ⟨rfl, rfl⟩
      stage := fun loop known => (tracks.stage loop known).later visible (fun _ => id)
        fun _ => ⟨rfl, rfl⟩
      since := tracks.since
      opened := fun other member => visible other (tracks.opened other member)
      listed := fun other before => visible other (tracks.listed other before)
      stored := tracks.stored
      window := tracks.window }
  | begins options idle =>
    obtain ⟨cursor, since⟩ := saved options rfl
    exact {
      saved := fun cursor known => (tracks.saved cursor known).same rfl rfl fun _ => ⟨rfl, rfl⟩
      stage := fun loop known => by
        obtain rfl := Option.some.inj known
        show StageTracks plain _ (.fetching (options.cursorOverride.or state.config.syncCursor))
        rw [cursor, Option.none_or]
        cases atCursor : state.config.syncCursor with
        | none => exact fun _ => atCursor
        | some listing =>
          exact (tracks.saved listing atCursor).same rfl rfl fun _ => ⟨rfl, rfl⟩
      since := fun loop known isPlain => by
        obtain rfl := Option.some.inj known
        show options.sinceOverride.or state.config.lastSyncAt = state.config.lastSyncAt
        rw [since isPlain, Option.none_or]
      opened := tracks.opened
      listed := tracks.listed
      stored := tracks.stored
      window := tracks.window }
  | fetches loop cursor pageSize running at_ =>
    have before := tracks.stage loop running
    rw [at_] at before
    cases cursor with
    | none =>
      exact {
        saved := fun listing known => (tracks.saved listing known).same rfl rfl
          fun isPlain => by cases (before isPlain).symm.trans known
        stage := fun other known => by
          obtain rfl := Option.some.inj known
          exact Tracks.fetched pageSize (tracks.openList running _ rfl rfl rfl)
        since := fun other known isPlain => by
          obtain rfl := Option.some.inj known
          exact tracks.since loop running isPlain
        opened := fun call member => member
        listed := tracks.listed
        stored := fun isPlain call member => tracks.opened call (tracks.stored isPlain call member)
        window := tracks.window }
    | some listing =>
      exact {
        saved := fun cursor known => (tracks.saved cursor known).same rfl rfl fun _ => ⟨rfl, rfl⟩
        stage := fun other known => by
          obtain rfl := Option.some.inj known
          exact Tracks.fetched pageSize (Tracks.same before rfl rfl fun _ => ⟨rfl, rfl⟩)
        since := fun other known isPlain => by
          obtain rfl := Option.some.inj known
          exact tracks.since loop running isPlain
        opened := tracks.opened
        listed := tracks.listed
        stored := tracks.stored
        window := tracks.window }
  | persists loop listing call page nextCursor running at_ =>
    have before := tracks.stage loop running
    rw [at_] at before
    obtain ⟨pending, same⟩ := before
    exact {
      saved := fun cursor known => (tracks.saved cursor known).later (fun _ => id)
        (fun _ member => List.mem_append_left _ member) fun _ => ⟨rfl, rfl⟩
      stage := fun other known => by
        obtain rfl := Option.some.inj known
        exact ⟨pending.stored rfl rfl rfl rfl, same⟩
      since := fun other known isPlain => by
        obtain rfl := Option.some.inj known
        exact tracks.since loop running isPlain
      opened := tracks.opened
      listed := tracks.listed
      stored := fun isPlain other member => by
        rcases List.mem_append.mp member with earlier | isNew
        · exact tracks.stored isPlain other earlier
        · obtain rfl := List.mem_singleton.mp isNew
          exact (pending.latest isPlain).1 ▸ (pending.within isPlain other (by simp)).1
      window := fun isPlain other member => by
        rcases List.mem_append.mp member with earlier | isNew
        · exact tracks.window isPlain other earlier
        · obtain rfl := List.mem_singleton.mp isNew
          exact .inr ((pending.latest isPlain).2 ▸ (pending.within isPlain other (by simp)).2) }
  | saves loop listing nextCursor running at_ =>
    have before := tracks.stage loop running
    rw [at_] at before
    obtain ⟨pending, same⟩ := before
    exact {
      saved := fun cursor known => by
        obtain rfl : nextCursor = some cursor := known
        exact (pending.cursor same).same rfl rfl fun _ => ⟨rfl, rfl⟩
      stage := fun other known => by
        obtain rfl := Option.some.inj known
        cases nextCursor with
        | none => exact Tracks.same pending rfl rfl fun _ => ⟨rfl, rfl⟩
        | some cursor =>
          exact (pending.cursor same).same rfl rfl fun _ => ⟨rfl, rfl⟩
      since := fun other known isPlain => by
        obtain rfl := Option.some.inj known
        exact tracks.since loop running isPlain
      opened := tracks.opened
      listed := tracks.listed
      stored := tracks.stored
      window := tracks.window }
  | completes loop listing running at_ =>
    have complete := tracks.stage loop running
    rw [at_] at complete
    have completed : Tracks plain state listing [] := complete
    exact {
      saved := by simp
      stage := by simp
      since := by simp
      opened := tracks.opened
      listed := fun call ⟨other, known, member⟩ => by
        obtain rfl := Option.some.inj known
        exact completed.seen call member
      stored := tracks.stored
      window := fun isPlain call member => .inl ⟨listing, rfl, by
        rw [(completed.latest isPlain).1]
        exact tracks.stored isPlain call member⟩ }
  | fails =>
    exact {
      saved := fun cursor known => (tracks.saved cursor known).same rfl rfl fun _ => ⟨rfl, rfl⟩
      stage := by simp
      since := by simp
      opened := tracks.opened
      listed := tracks.listed
      stored := tracks.stored
      window := tracks.window }
  | stays => exact tracks

theorem SyncTracks.tick (tracks : SyncTracks plain state) (now : Date) :
    SyncTracks plain { state with now } where
  saved cursor known := (tracks.saved cursor known).same rfl rfl fun _ => ⟨rfl, rfl⟩
  stage loop known := (tracks.stage loop known).later (fun _ => id) (fun _ => id) fun _ => ⟨rfl, rfl⟩
  since := tracks.since
  opened := tracks.opened
  listed := tracks.listed
  stored := tracks.stored
  window := tracks.window

theorem syncAction_noGap (elapsed : Nat) (moves : SyncMoves order state action next)
    (tracks : SyncTracks plain state) (within : StartsInWindow state ⟨elapsed, action⟩)
    (noGap : NoGap state) : NoGap next := by
  cases moves with
  | appears call new =>
    intro other awaited earlier known seen
    refine noGap other ?_ earlier known seen
    split at awaited
    · rcases List.mem_append.mp awaited with before | isNew
      · exact before
      · obtain rfl := List.mem_singleton.mp isNew
        exact absurd (tracks.listed other ⟨earlier, known, seen⟩) new
    · exact awaited
  | persists loop listing call page nextCursor running at_ =>
    intro other awaited earlier known seen
    exact List.mem_append_left _ (noGap other awaited earlier known seen)
  | completes loop listing running at_ =>
    intro call awaited other known seen
    obtain rfl := Option.some.inj known
    have complete := tracks.stage loop running
    rw [at_] at complete
    have completing : loop.completing = some listing := by rw [CallSyncLoop.completing, at_]
    rcases within loop running listing completing call awaited seen with
      ⟨earlier, listed, before⟩ | inWindow
    · exact noGap call awaited earlier listed before
    · simpa using Tracks.holds complete call seen inWindow
  | begins | fetches | saves | fails | stays => exact noGap

theorem startsInWindow_of_noGap {elapsed : Nat} (tracks : SyncTracks True state)
    (plain : ∀ options, action = .begin options → options = {})
    (noGap : NoGap (syncAction order state action)) : StartsInWindow state ⟨elapsed, action⟩ := by
  cases action with
  | begin options => exact congrArg CallSyncOptions.cursorOverride (plain options rfl)
  | complete =>
    intro loop running listing completing call awaited seen
    have at_ : loop.stage = .completing listing := by
      unfold CallSyncLoop.completing at completing
      split at completing
      · rename_i other at_
        rw [at_, Option.some.inj completing]
      · cases completing
    have running : state.running = some loop := running
    have complete := tracks.stage loop running
    rw [at_] at complete
    have stored : call ∈ state.persisted := by
      have step : syncAction order state .complete = { state with
          config := { lastSyncAt := some state.now, syncCursor := none }
          running := none
          listed := some listing } := by
        simp only [syncAction, running, advanceRun, at_]
      rw [step] at noGap
      exact noGap call awaited listing rfl seen
    rw [(Tracks.latest complete trivial).2]
    exact tracks.window trivial call stored
  | appear | fetchPage | persistNext | saveCursor | fail => trivial

end

def idleSync (now : Date) (visible : List ProviderCall) (lastSyncAt : Option Date) :
    CallSyncState where
  now
  visible
  config := { lastSyncAt }

/-- Calls that start within the window of the list after them are not lost; and
in runs without overrides, only these. -/
theorem calls_leave_no_gap_iff (order : CallOrder) (now : Date) (visible : List ProviderCall)
    (lastSyncAt : Option Date) (actions : List Timed) :
    let start := idleSync now visible lastSyncAt
    (Guarded (callSyncStep order) StartsInWindow start actions →
      ∀ taken ∈ trace (callSyncStep order) start actions,
        NoGap (callSyncStep order taken.1 taken.2)) ∧
    ((∀ timed ∈ actions, ∀ options, timed.action = .begin options → options = {}) →
      (∀ taken ∈ trace (callSyncStep order) start actions,
        NoGap (callSyncStep order taken.1 taken.2)) →
      Guarded (callSyncStep order) StartsInWindow start actions) := by
  intro start
  have initial (plain : Prop) : SyncTracks plain start := {
    saved := by simp [start, idleSync]
    stage := by simp [start, idleSync]
    since := by simp [start, idleSync]
    opened := by simp [start, idleSync]
    listed := by simp [start, idleSync, ListedBefore]
    stored := by simp [start, idleSync]
    window := by simp [start, idleSync] }
  have noGap : NoGap start := by
    intro call awaited
    cases awaited
  constructor
  · intro guarded taken member
    have keeps (state : CallSyncState) (timed : Timed)
        (held : SyncTracks False state ∧ NoGap state) (within : StartsInWindow state timed) :
        SyncTracks False (callSyncStep order state timed) ∧
          NoGap (callSyncStep order state timed) := by
      have ticked := held.1.tick (state.now + timed.elapsed)
      have moves := syncAction_moves order { state with now := state.now + timed.elapsed }
        timed.action
      refine ⟨syncAction_tracks moves (fun options begins => ⟨?_, False.elim⟩) ticked,
        syncAction_noGap timed.elapsed moves ticked within held.2⟩
      rw [StartsInWindow, begins] at within
      exact within
    obtain ⟨held, within⟩ := trace_guarded_invariant _ keeps ⟨initial False, noGap⟩ guarded taken
      member
    exact (keeps taken.1 taken.2 held within).2
  · intro plain none taken member
    have plainly : Guarded (callSyncStep order) (fun _ timed => ∀ options,
        timed.action = .begin options → options = {}) start actions :=
      fun taken member => plain taken.2 (trace_action _ _ _ taken member)
    have keeps (state : CallSyncState) (timed : Timed) (tracks : SyncTracks True state)
        (plain : ∀ options, timed.action = .begin options → options = {}) :
        SyncTracks True (callSyncStep order state timed) :=
      syncAction_tracks (syncAction_moves order _ timed.action)
        (fun options begins => by rw [plain options begins]; exact ⟨rfl, fun _ => rfl⟩)
        (tracks.tick (state.now + timed.elapsed))
    obtain ⟨tracks, still⟩ := trace_guarded_invariant _ keeps (initial True) plainly taken member
    exact @startsInWindow_of_noGap order { taken.1 with now := taken.1.now + taken.2.elapsed }
      taken.2.action taken.2.elapsed (tracks.tick (taken.1.now + taken.2.elapsed)) still
      (none taken member)

def standup : ProviderCall where
  externalId := ("gong-1" : String)
  startedAt := 5

def byArrival : CallOrder where
  arrange calls := calls
  mem_arrange _ _ := Iff.rfl

def promptCall : List Timed := [
  ⟨6, .begin {}⟩, ⟨1, .appear standup⟩, ⟨1, .fetchPage 100⟩, ⟨0, .persistNext⟩, ⟨0, .saveCursor⟩,
  ⟨1, .complete⟩]

theorem prompt_call_is_kept :
    NoGap (idleSync 0 [] none) ∧
      ∀ taken ∈ trace (callSyncStep byArrival) (idleSync 0 [] none) promptCall,
        NoGap (callSyncStep byArrival taken.1 taken.2) := by
  refine ⟨by decide, (calls_leave_no_gap_iff byArrival 0 [] none promptCall).1 ?_⟩
  show ∀ taken ∈ trace (callSyncStep byArrival) (idleSync 0 [] none) promptCall,
    StartsInWindow taken.1 taken.2
  decide +kernel

/-- A run at 7 lists nothing; the call that started at 5 becomes visible at 8,
the run completes at 9, and the next run, which completes too, asks for calls from 9 on. -/
def lateCall : List Timed := [
  ⟨6, .begin {}⟩, ⟨1, .fetchPage 100⟩, ⟨1, .appear standup⟩, ⟨0, .saveCursor⟩, ⟨1, .complete⟩,
  ⟨60, .begin {}⟩, ⟨1, .fetchPage 100⟩, ⟨0, .saveCursor⟩, ⟨1, .complete⟩]

theorem late_call_is_lost :
    ¬∀ taken ∈ trace (callSyncStep byArrival) (idleSync 0 [] none) lateCall,
      NoGap (callSyncStep byArrival taken.1 taken.2) := by
  decide +kernel

end StoryEngine.Integrations
