import StoryEngine.Pages.Lifecycle

namespace StoryEngine.Pages

open Data Schema Text

/-! # The statements of an update

Between the statements of one `update` other clients work on the same page.  The
store counts the updates of pages, and the `n`-th one writes the time `stamp n`.
-/

structure PageStore where
  db : Database
  writes : Nat

def PageStore.now (stamp : Nat → Date) (store : PageStore) : Date := stamp (store.writes + 1)

/-- `landingPage.updateMany`, which sets `updatedAt` on the rows that it finds. -/
def PageStore.updateMany (stamp : Nat → Date) (store : PageStore) (selects : LandingPage → Bool)
    (data : Date → LandingPage → LandingPage) : PageStore where
  db := { store.db with
    landingPages := updateWhere store.db.landingPages selects (data (store.now stamp)) }
  writes := store.writes + 1

def PageStore.view (platform : Platform) (stamp : Nat → Date) (store : PageStore) (slug : Text)
    (password : Option Text) : PageStore :=
  match getPublicBySlug platform store.db slug password (store.now stamp) with
  | none => store
  | some (_, counted) => { db := counted, writes := store.writes + 1 }

inductive UpdatePhase where
  | reading
  | writing (existing : LandingPage)
  | rereading (existing : LandingPage)
  | recording (existing : LandingPage) (updatedAt : Date)
  | resolving
  | returned (updatedAt : Date)
  | thrown (failure : EditorError)
deriving DecidableEq

structure UpdateCall where
  pageId : RowId
  userId : RowId
  input : UpdateLandingPageInput
  phase : UpdatePhase := .reading

/-- The rows that the write of a call finds: with an expected time, the page as it
was at that time. -/
def UpdateCall.selects (call : UpdateCall) (row : LandingPage) : Bool :=
  row.id == call.pageId && call.input.expectedUpdatedAt.all (· == row.updatedAt)

def conflictWith (input : UpdateLandingPageInput) (latest : LandingPage) : EditorError :=
  .concurrencyConflict (input.expectedUpdatedAt.getD 0) latest.updatedAt latest.editableBody

/-- The next statement of a call.  Without an expected time the write answers with
the time that it stored; with one, the time is read again. -/
def UpdateCall.advance (stamp : Nat → Date) (store : PageStore) (call : UpdateCall) :
    PageStore × UpdatePhase :=
  match call.phase with
  | .reading =>
    match findLandingPage store.db call.pageId with
    | .error failure => (store, .thrown failure)
    | .ok existing =>
      if call.input.expectedUpdatedAt.all (· == existing.updatedAt) then
        (store, .writing existing)
      else (store, .thrown (conflictWith call.input existing))
  | .writing existing =>
    if store.db.landingPages.any call.selects then
      (store.updateMany stamp call.selects (pageUpdateData call.input),
        if call.input.expectedUpdatedAt.isSome then .rereading existing
        else .recording existing (store.now stamp))
    else (store, if call.input.expectedUpdatedAt.isSome then .resolving else .thrown .notFound)
  | .rereading existing =>
    match findLandingPage store.db call.pageId with
    | .error failure => (store, .thrown failure)
    | .ok updated => (store, .recording existing updated.updatedAt)
  | .recording existing updatedAt =>
    ({ store with db := recordEdit store.db existing call.userId call.input },
      .returned updatedAt)
  | .resolving =>
    match findLandingPage store.db call.pageId with
    | .error failure => (store, .thrown failure)
    | .ok latest => (store, .thrown (conflictWith call.input latest))
  | .returned updatedAt => (store, .returned updatedAt)
  | .thrown failure => (store, .thrown failure)

/-- A statement leaves the pages, or it writes some of them at a new time. -/
inductive StoreEffect (stamp : Nat → Date) (store next : PageStore) : Prop where
  | kept (pages : next.db.landingPages = store.db.landingPages)
      (writes : next.writes = store.writes)
  | written (selects : LandingPage → Bool) (change : LandingPage → LandingPage)
      (pages : next.db.landingPages = updateWhere store.db.landingPages selects change)
      (ids : ∀ row, (change row).id = row.id)
      (times : ∀ row, (change row).updatedAt = stamp (store.writes + 1))
      (writes : next.writes = store.writes + 1)

section

variable {stamp : Nat → Date} {store next : PageStore} {call : UpdateCall} {page : LandingPage}
  {pageId : RowId}

theorem UpdateCall.advance_effect (call : UpdateCall) :
    StoreEffect stamp store (call.advance stamp store).1 := by
  unfold advance
  cases call.phase with
  | writing existing =>
    simp only
    split
    · exact .written call.selects (pageUpdateData call.input (store.now stamp)) rfl
        (fun _ => rfl) (fun _ => rfl) rfl
    · exact .kept rfl rfl
  | recording existing updatedAt => exact .kept (recordEdit_pages _ _ _ _) rfl
  | returned updatedAt => exact .kept rfl rfl
  | thrown failure => exact .kept rfl rfl
  | reading =>
    simp only
    split
    · exact .kept rfl rfl
    · split
      · exact .kept rfl rfl
      · exact .kept rfl rfl
  | rereading existing =>
    simp only
    split
    · exact .kept rfl rfl
    · exact .kept rfl rfl
  | resolving =>
    simp only
    split
    · exact .kept rfl rfl
    · exact .kept rfl rfl

theorem PageStore.view_effect (platform : Platform) (slug : Text) (password : Option Text) :
    StoreEffect stamp store (store.view platform stamp slug password) := by
  unfold view
  split
  · exact .kept rfl rfl
  · rename_i counted served
    simp only [getPublicBySlug_eq, Option.bind_eq_some_iff, Option.map_eq_some_iff] at served
    obtain ⟨row, -, -, -, -, rfl⟩ := served
    exact .written (·.id == row.id) (countView (store.now stamp)) rfl (fun _ => rfl)
      (fun _ => rfl) rfl

theorem StoreEffect.ids (effect : StoreEffect stamp store next) :
    next.db.landingPages.map (·.id) = store.db.landingPages.map (·.id) := by
  cases effect with
  | kept pages _ => rw [pages]
  | written selects change pages ids _ _ => rw [pages, map_updateWhere ids]

theorem StoreEffect.writes_le (effect : StoreEffect stamp store next) :
    store.writes ≤ next.writes := by
  cases effect with
  | kept _ writes => exact Nat.le_of_eq writes.symm
  | written _ _ _ _ _ writes => exact writes ▸ Nat.le_succ store.writes

theorem StoreEffect.row (effect : StoreEffect stamp store next)
    (found : findLandingPage store.db pageId = .ok page) :
    ∃ row, findLandingPage next.db pageId = .ok row ∧
      (row = page ∨ row.updatedAt = stamp next.writes ∧ next.writes = store.writes + 1) := by
  have lookup := findLandingPage_eq_ok.mp found
  simp only [findLandingPage_eq_ok]
  cases effect with
  | kept pages _ =>
    rw [pages]
    exact ⟨page, lookup, .inl rfl⟩
  | written selects change pages ids times writes =>
    rw [pages, find?_updateWhere fun row => by rw [ids row], lookup, Option.map_some]
    refine ⟨_, rfl, ?_⟩
    split
    · exact .inr ⟨(times page).trans (congrArg stamp writes.symm), writes⟩
    · exact .inl rfl

end

def UpdateCall.step (stamp : Nat → Date) (state : PageStore × UpdateCall) : PageStore × UpdateCall :=
  ((state.2.advance stamp state.1).1, { state.2 with phase := (state.2.advance stamp state.1).2 })

section

variable {stamp : Nat → Date} {store : PageStore} {call : UpdateCall} {existing : LandingPage}

@[simp] theorem UpdateCall.selects_phase (phase : UpdatePhase) :
    { call with phase }.selects = call.selects := rfl

theorem UpdateCall.selects_eq (distinct : (store.db.landingPages.map (·.id)).Nodup)
    (known : existing ∈ store.db.landingPages) (own : existing.id = call.pageId)
    (expected : call.input.expectedUpdatedAt.all (· == existing.updatedAt) = true) :
    ∀ row ∈ store.db.landingPages, call.selects row = (row.id == call.pageId) := by
  intro row member
  unfold selects
  cases same : row.id == call.pageId with
  | false => rfl
  | true =>
    have equal : row = existing :=
      List.inj_on_of_nodup_map distinct member known ((beq_iff_eq.mp same).trans own.symm)
    rw [equal, expected]
    rfl

theorem UpdateCall.updateMany_alone (distinct : (store.db.landingPages.map (·.id)).Nodup)
    (known : existing ∈ store.db.landingPages) (own : existing.id = call.pageId)
    (expected : call.input.expectedUpdatedAt.all (· == existing.updatedAt) = true) :
    store.db.landingPages.any call.selects = true ∧
      store.updateMany stamp call.selects (pageUpdateData call.input) =
        { db := updateLandingPage store.db call.pageId
            (pageUpdateData call.input (store.now stamp))
          writes := store.writes + 1 } := by
  have same := selects_eq distinct known own expected
  constructor
  · exact List.any_eq_true.mpr ⟨existing, known, by simp [same existing known, own]⟩
  · unfold PageStore.updateMany updateLandingPage
    rw [updateWhere_congr same]

theorem UpdateCall.alone_ok {next : Database} {updatedAt : Date}
    (distinct : (store.db.landingPages.map (·.id)).Nodup) (start : call.phase = .reading)
    (updated : update store.db call.pageId call.userId call.input (store.now stamp) =
      .ok (next, updatedAt)) :
    (step stamp)^[4] (store, call) =
      ({ db := next, writes := store.writes + 1 }, { call with phase := .returned updatedAt }) := by
  obtain ⟨existing, found, expected, same⟩ := update_eq_ok.mp updated
  obtain ⟨rfl, rfl⟩ := Prod.mk.inj same
  obtain ⟨known, own⟩ := findLandingPage_id found
  obtain ⟨finds, written⟩ := @updateMany_alone stamp _ _ _ distinct known own expected
  have reading : step stamp (store, call) = (store, { call with phase := .writing existing }) := by
    simp only [step, advance, start, found, expected, if_true]
  have writing : step stamp (store, { call with phase := .writing existing }) =
      ({ db := updateLandingPage store.db call.pageId
          (pageUpdateData call.input (store.now stamp)), writes := store.writes + 1 },
        { call with phase :=
          if call.input.expectedUpdatedAt.isSome then .rereading existing
          else .recording existing (store.now stamp) }) := by
    simp only [step, advance, selects_phase, finds, written, if_true]
  have reread : findLandingPage (updateLandingPage store.db call.pageId
      (pageUpdateData call.input (store.now stamp))) call.pageId =
        .ok (pageUpdateData call.input (store.now stamp) existing) := by
    rw [findLandingPage_eq_ok, updateLandingPage_pages, find?_updateWhere]
    · rw [findLandingPage_eq_ok.mp found]
      simp [own]
    · exact fun _ => rfl
  have time : (pageUpdateData call.input (store.now stamp) existing).updatedAt = store.now stamp :=
    rfl
  simp only [Function.iterate_succ, Function.iterate_zero, Function.comp_apply, id, reading, writing]
  cases token : call.input.expectedUpdatedAt with
  | none => simp [step, advance]
  | some updatedAt => simp [step, advance, reread, time]

theorem UpdateCall.alone_error {failure : EditorError}
    (start : call.phase = .reading)
    (failed : update store.db call.pageId call.userId call.input (store.now stamp) =
      .error failure) :
    (step stamp)^[4] (store, call) = (store, { call with phase := .thrown failure }) := by
  have reading : step stamp (store, call) = (store, { call with phase := .thrown failure }) := by
    unfold step advance
    rw [start]
    cases found : findLandingPage store.db call.pageId with
    | error missing =>
      simp only [update, found, bind, Except.bind] at failed
      simp [Except.error.inj failed]
    | ok existing =>
      simp only [update, found, bind, Except.bind] at failed
      cases fits : call.input.expectedUpdatedAt.all (· == existing.updatedAt) with
      | true => simp [fits, ensure, pure, Except.pure] at failed
      | false =>
        simp only [fits, ensure, Bool.false_eq_true, if_false] at failed
        simp [fits, conflictWith, Except.error.inj failed]
  have thrown : step stamp (store, { call with phase := .thrown failure }) =
      (store, { call with phase := .thrown failure }) := rfl
  simp only [Function.iterate_succ, Function.iterate_zero, Function.comp_apply, id, reading, thrown]

end

end StoryEngine.Pages
