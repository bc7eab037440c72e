import StoryEngine.Pages.Anonymity
import StoryEngine.Pages.EditReceipts

namespace StoryEngine.Pages

open Data Schema Text

/-! # One editor and the visitors of a page

The editor saves again and again, each time with the answer to the save before.  A
counted view writes the row of the page, too, and so its time.
-/

structure EditSession where
  store : PageStore
  receipt : Receipt
  call : Option ClientCall := none
  /-- A view was counted since the time of the receipt, or of the answer to come, was
  read. -/
  viewed : Bool := false

inductive SessionAction where
  | save (userId : RowId) (input : UpdateLandingPageInput)
  | advance
  | view (slug : Text) (password : Option Text)

def countsView (platform : Platform) (stamp : Nat → Date) (pageId : RowId) (store : PageStore)
    (slug : Text) (password : Option Text) : Bool :=
  (store.db.landingPages.find? (·.slug == slug)).any fun row =>
    row.id == pageId && (publicView platform store.db row password (store.now stamp)).isSome

def EditSession.after (session : EditSession) (client : ClientCall) (store : PageStore) :
    UpdatePhase → EditSession
  | .returned updatedAt =>
    { session with
      store
      receipt := ⟨updatedAt, client.receipt.seen.edited client.input⟩
      call := none }
  | .recording existing updatedAt =>
    { session with
      store
      call := some { client with phase := .recording existing updatedAt }
      viewed := false }
  | phase => { session with store, call := some { client with phase } }

def sessionStep (platform : Platform) (stamp : Nat → Date) (pageId : RowId)
    (session : EditSession) : SessionAction → EditSession
  | .save userId input =>
    match session.call with
    | none => { session with call := some { receipt := session.receipt, userId, input } }
    | some _ => session
  | .advance =>
    match session.call with
    | none => session
    | some client =>
      let advanced := (client.update pageId).advance stamp session.store
      session.after client advanced.1 advanced.2
  | .view slug password =>
    { session with
      store := session.store.view platform stamp slug password
      viewed := session.viewed || countsView platform stamp pageId session.store slug password }

def EditSession.phase (session : EditSession) : Option UpdatePhase :=
  session.call.map fun client => client.phase

def EditSession.conflicts (session : EditSession) : Bool :=
  match session.phase with
  | some .resolving | some (.thrown (.concurrencyConflict _ _ _)) => true
  | _ => false

def comparesUnviewed (session : EditSession) : SessionAction → Bool
  | .advance =>
    match session.phase with
    | some .reading | some (.writing _) => !session.viewed
    | _ => true
  | _ => true

def EditSession.time (session : EditSession) : Option Date :=
  match session.phase with
  | none | some .reading | some (.writing _) => some session.receipt.updatedAt
  | some (.recording _ updatedAt) => some updatedAt
  | _ => none

structure Tracks (stamp : Nat → Date) (pageId : RowId) (store : PageStore) (viewed : Bool)
    (updatedAt : Date) : Prop where
  stamped : Stamped stamp store updatedAt
  current : ∀ page, findLandingPage store.db pageId = .ok page →
    (page.updatedAt = updatedAt ↔ viewed = false)

/-- The call of a session passes its receipt, and throws nothing but conflicts. -/
structure CallSound (session : EditSession) (client : ClientCall) : Prop where
  receipt : client.receipt = session.receipt
  running : ∀ updatedAt, client.phase ≠ .returned updatedAt
  thrown : ∀ failure, client.phase = .thrown failure → session.conflicts = true

structure SessionSound (stamp : Nat → Date) (pageId : RowId) (session : EditSession) : Prop where
  distinct : (session.store.db.landingPages.map (·.id)).Nodup
  row : ∃ page, findLandingPage session.store.db pageId = .ok page ∧
    Stamped stamp session.store page.updatedAt
  time : ∀ updatedAt, session.time = some updatedAt →
    Tracks stamp pageId session.store session.viewed updatedAt
  call : ∀ client, session.call = some client → CallSound session client

section

variable {platform : Platform} {stamp : Nat → Date} {pageId : RowId} {session : EditSession}
  {store next : PageStore} {client : ClientCall} {page : LandingPage} {phase : UpdatePhase}
  {viewed : Bool} {updatedAt : Date}

theorem Stamped.row (stamped : Stamped stamp store page.updatedAt)
    (found : findLandingPage store.db pageId = .ok page) (effect : StoreEffect stamp store next) :
    ∃ row, findLandingPage next.db pageId = .ok row ∧ Stamped stamp next row.updatedAt := by
  obtain ⟨row, foundNext, rfl | ⟨time, _⟩⟩ := effect.row found
  · exact ⟨row, foundNext, stamped.later effect⟩
  · exact ⟨row, foundNext, next.writes, Nat.le_refl _, time⟩

theorem PageStore.view_row (slug : Text) (password : Option Text)
    (found : findLandingPage store.db pageId = .ok page) :
    ∃ row, findLandingPage (store.view platform stamp slug password).db pageId = .ok row ∧
      (countsView platform stamp pageId store slug password = true →
        row.updatedAt = stamp (store.writes + 1)) ∧
      (countsView platform stamp pageId store slug password = false → row = page) := by
  have lookup := findLandingPage_eq_ok.mp found
  have own : page.id = pageId := (findLandingPage_id found).2
  unfold PageStore.view countsView
  rw [getPublicBySlug_eq]
  cases store.db.landingPages.find? (·.slug == slug) with
  | none => exact ⟨page, found, fun counted => by simp at counted, fun _ => rfl⟩
  | some seen =>
    simp only [Option.bind_some, Option.any_some]
    cases publicView platform store.db seen password (store.now stamp) with
    | none => exact ⟨page, found, fun counted => by simp at counted, fun _ => rfl⟩
    | some content =>
      simp only [Option.map_some, Option.isSome_some, Bool.and_true]
      refine ⟨if page.id == seen.id then countView (store.now stamp) page else page, ?_, ?_, ?_⟩
      · rw [findLandingPage_eq_ok, updateLandingPage_pages, find?_updateWhere, lookup]
        · rfl
        · exact fun _ => rfl
      · intro counted
        rw [if_pos (by rw [own, beq_iff_eq.mp counted, beq_self_eq_true])]
        rfl
      · intro uncounted
        rw [if_neg]
        intro same
        rw [← beq_iff_eq.mp same, own, beq_self_eq_true] at uncounted
        cases uncounted

theorem Stamped.fresh (stamped : Stamped stamp store updatedAt) (fresh : Function.Injective stamp) :
    stamp (store.writes + 1) ≠ updatedAt := by
  obtain ⟨count, within, rfl⟩ := stamped
  intro same
  rw [← fresh same] at within
  exact absurd within (Nat.not_succ_le_self store.writes)

theorem Tracks.view (tracks : Tracks stamp pageId store viewed updatedAt)
    (fresh : Function.Injective stamp) (found : findLandingPage store.db pageId = .ok page)
    (slug : Text) (password : Option Text) :
    Tracks stamp pageId (store.view platform stamp slug password)
      (viewed || countsView platform stamp pageId store slug password) updatedAt := by
  obtain ⟨row, foundNext, counted, uncounted⟩ :=
    @PageStore.view_row platform stamp pageId store page slug password found
  refine {
    stamped := tracks.stamped.later (PageStore.view_effect platform slug password)
    current := fun other foundOther => ?_ }
  obtain rfl := Except.ok.inj (foundNext.symm.trans foundOther)
  cases counts : countsView platform stamp pageId store slug password with
  | true =>
    rw [counted counts, Bool.or_true]
    exact ⟨fun same => absurd same (tracks.stamped.fresh fresh), fun same => by cases same⟩
  | false =>
    rw [uncounted counts, Bool.or_false]
    exact tracks.current page found

theorem Tracks.kept (tracks : Tracks stamp pageId store viewed updatedAt)
    (pages : next.db.landingPages = store.db.landingPages) (writes : next.writes = store.writes) :
    Tracks stamp pageId next viewed updatedAt where
  stamped := tracks.stamped.later (.kept pages writes)
  current := by
    unfold findLandingPage
    rw [pages]
    exact tracks.current

theorem SessionSound.view (sound : SessionSound stamp pageId session)
    (fresh : Function.Injective stamp) (slug : Text) (password : Option Text) :
    SessionSound stamp pageId (sessionStep platform stamp pageId session (.view slug password)) := by
  obtain ⟨page, found, stamped⟩ := sound.row
  have effect : StoreEffect stamp session.store
      (session.store.view platform stamp slug password) :=
    PageStore.view_effect platform slug password
  exact {
    distinct := effect.ids ▸ sound.distinct
    row := stamped.row found effect
    time := fun updatedAt atTime => (sound.time updatedAt atTime).view fresh found slug password
    call := fun client there => {
      receipt := (sound.call client there).receipt
      running := (sound.call client there).running
      thrown := (sound.call client there).thrown } }

theorem SessionSound.save (sound : SessionSound stamp pageId session) (userId : RowId)
    (input : UpdateLandingPageInput) :
    SessionSound stamp pageId (sessionStep platform stamp pageId session (.save userId input)) := by
  unfold sessionStep
  cases there : session.call with
  | some client => simpa only [there] using sound
  | none =>
    have time : session.time = some session.receipt.updatedAt := by
      simp [EditSession.time, EditSession.phase, there]
    refine {
      distinct := sound.distinct
      row := sound.row
      time := fun updatedAt atTime => sound.time updatedAt (time.trans atTime)
      call := fun client isNew => ?_ }
    obtain rfl := Option.some.inj isNew
    exact {
      receipt := rfl
      running := fun _ atPhase => by cases atPhase
      thrown := fun _ atPhase => by cases atPhase }

theorem CallSound.moves {after : EditSession} (isSound : CallSound session client)
    (there : after.call = some { client with phase }) (receipt : after.receipt = session.receipt)
    (running : ∀ updatedAt, phase ≠ .returned updatedAt)
    (thrown : ∀ failure, phase = .thrown failure → after.conflicts = true) :
    ∀ other, after.call = some other → CallSound after other := by
  intro other isOther
  obtain rfl := Option.some.inj (there.symm.trans isOther)
  exact { receipt := isSound.receipt.trans receipt.symm, running, thrown }

theorem CallSound.answered (isSound : CallSound session client) (answered : client.answered = true) :
    ∃ failure, client.phase = .thrown failure := by
  unfold ClientCall.answered at answered
  split at answered
  · rename_i updatedAt known
    exact absurd known (isSound.running updatedAt)
  · rename_i failure known
    exact ⟨failure, known⟩
  · cases answered

theorem EditSession.after_thrown {failure : EditorError} (there : session.call = some client)
    (known : client.phase = .thrown failure) :
    session.after client session.store client.phase = session := by
  obtain ⟨store, receipt, call, viewed⟩ := session
  obtain ⟨received, userId, input, phase⟩ := client
  obtain rfl : call = some ⟨received, userId, input, phase⟩ := there
  obtain rfl : phase = .thrown failure := known
  rfl

theorem SessionSound.after (sound : SessionSound stamp pageId session)
    (there : session.call = some client) (found : findLandingPage session.store.db pageId = .ok page)
    (step : ClientStep stamp pageId session.store client page next phase)
    (effect : StoreEffect stamp session.store next) :
    SessionSound stamp pageId (session.after client next phase) := by
  obtain ⟨row, foundRow, stamped⟩ := sound.row
  obtain rfl := Except.ok.inj (found.symm.trans foundRow)
  have distinct : (next.db.landingPages.map (·.id)).Nodup := effect.ids ▸ sound.distinct
  have present := stamped.row found effect
  have isSound := sound.call client there
  have atPhase : session.phase = some client.phase := by rw [EditSession.phase, there]; rfl
  cases step with
  | read known same =>
    have time : session.time = some session.receipt.updatedAt := by
      rw [EditSession.time, atPhase, known]
    exact {
      distinct, row := present
      time := fun updatedAt atTime => sound.time updatedAt (time.trans atTime)
      call := isSound.moves rfl rfl (fun _ => nofun) (fun _ => nofun) }
  | outdated known other | resolved known =>
    exact {
      distinct, row := present
      time := fun updatedAt atTime => by cases atTime
      call := isSound.moves rfl rfl (fun _ => nofun) (fun _ _ => rfl) }
  | write existing known same | missed existing known other =>
    exact {
      distinct, row := present
      time := fun updatedAt atTime => by cases atTime
      call := isSound.moves rfl rfl (fun _ => nofun) (fun _ => nofun) }
  | reread existing known =>
    refine {
      distinct, row := present
      time := fun updatedAt atTime => ?_
      call := isSound.moves rfl rfl (fun _ => nofun) (fun _ => nofun) }
    -- The time is that of the page, as it is now.
    obtain rfl : page.updatedAt = updatedAt := Option.some.inj atTime
    refine { stamped, current := fun other foundOther => ?_ }
    rw [Except.ok.inj (found.symm.trans foundOther)]
    exact ⟨fun _ => rfl, fun _ => rfl⟩
  | record existing updatedAt known =>
    have time : session.time = some updatedAt := by rw [EditSession.time, atPhase, known]
    refine {
      distinct, row := present
      time := fun other atTime => ?_
      call := fun _ isNew => by cases isNew }
    obtain rfl : updatedAt = other := Option.some.inj atTime
    exact (sound.time updatedAt time).kept (recordEdit_pages _ _ _ _) rfl
  | stays answered =>
    obtain ⟨failure, known⟩ := isSound.answered answered
    rw [EditSession.after_thrown there known]
    exact sound

theorem SessionSound.after_conflicts (sound : SessionSound stamp pageId session)
    (there : session.call = some client) (found : findLandingPage session.store.db pageId = .ok page)
    (step : ClientStep stamp pageId session.store client page next phase)
    (calm : session.conflicts = false) :
    (session.after client next phase).conflicts = false ↔
      comparesUnviewed session .advance = true := by
  have isSound := sound.call client there
  have atPhase : session.phase = some client.phase := by rw [EditSession.phase, there]; rfl
  have compares (waits : session.time = some session.receipt.updatedAt) :
      page.updatedAt = client.receipt.updatedAt ↔ session.viewed = false := by
    rw [isSound.receipt]
    exact (sound.time session.receipt.updatedAt waits).current page found
  unfold comparesUnviewed
  rw [atPhase]
  cases step with
  | read known same =>
    have unviewed := (compares (by rw [EditSession.time, atPhase, known])).mp same
    rw [known, unviewed]
    exact ⟨fun _ => rfl, fun _ => rfl⟩
  | write existing known same =>
    have unviewed := (compares (by rw [EditSession.time, atPhase, known])).mp same
    rw [known, unviewed]
    exact ⟨fun _ => rfl, fun _ => rfl⟩
  | outdated known other =>
    have viewed := mt (compares (by rw [EditSession.time, atPhase, known])).mpr other
    rw [known, Bool.eq_true_of_not_eq_false viewed]
    exact ⟨fun calm => (by cases calm), fun guarded => (by cases guarded)⟩
  | missed existing known other =>
    have viewed := mt (compares (by rw [EditSession.time, atPhase, known])).mpr other
    rw [known, Bool.eq_true_of_not_eq_false viewed]
    exact ⟨fun calm => (by cases calm), fun guarded => (by cases guarded)⟩
  | reread existing known =>
    rw [known]
    exact ⟨fun _ => rfl, fun _ => rfl⟩
  | record existing updatedAt known =>
    rw [known]
    exact ⟨fun _ => rfl, fun _ => rfl⟩
  | resolved known =>
    rw [EditSession.conflicts, atPhase, known] at calm
    cases calm
  | stays answered =>
    obtain ⟨failure, known⟩ := isSound.answered answered
    cases calm.symm.trans (isSound.thrown failure known)

theorem sessionStep_sound (fresh : Function.Injective stamp) (action : SessionAction)
    (sound : SessionSound stamp pageId session) :
    SessionSound stamp pageId (sessionStep platform stamp pageId session action) := by
  cases action with
  | view slug password => exact sound.view fresh slug password
  | save userId input => exact sound.save userId input
  | advance =>
    cases there : session.call with
    | none => simpa only [sessionStep, there] using sound
    | some client =>
      obtain ⟨page, found, _⟩ := sound.row
      simp only [sessionStep, there]
      exact sound.after there found (client.step stamp sound.distinct found)
        (client.update pageId).advance_effect

theorem sessionStep_conflicts (action : SessionAction) (sound : SessionSound stamp pageId session)
    (calm : session.conflicts = false) :
    (sessionStep platform stamp pageId session action).conflicts = false ↔
      comparesUnviewed session action = true := by
  cases action with
  | view slug password => exact iff_of_true calm rfl
  | save userId input =>
    refine iff_of_true ?_ rfl
    cases there : session.call with
    | none =>
      simp only [sessionStep, there]
      rfl
    | some client => simpa only [sessionStep, there] using calm
  | advance =>
    cases there : session.call with
    | none =>
      simp only [sessionStep, there]
      refine iff_of_true calm ?_
      simp [comparesUnviewed, EditSession.phase, there]
    | some client =>
      obtain ⟨page, found, _⟩ := sound.row
      simp only [sessionStep, there]
      exact sound.after_conflicts there found (client.step stamp sound.distinct found) calm

end

/-- In a run of saves and views no save meets a conflict exactly when no view is
counted between the answer of a save and the two places where the next save
compares its time. -/
theorem saves_meet_no_conflict_iff {platform : Platform} {stamp : Nat → Date} {pageId : RowId}
    {db : Database} {page : LandingPage} (fresh : Function.Injective stamp)
    (distinct : (db.landingPages.map (·.id)).Nodup)
    (found : findLandingPage db pageId = .ok page) (time : page.updatedAt = stamp 0)
    (actions : List SessionAction) :
    let start : EditSession := {
      store := { db, writes := 0 }
      receipt := ⟨page.updatedAt, .page (editableContent page)⟩ }
    (∀ taken ∈ trace (sessionStep platform stamp pageId) start actions,
        (sessionStep platform stamp pageId taken.1 taken.2).conflicts = false) ↔
      Guarded (sessionStep platform stamp pageId) (comparesUnviewed · · = true) start actions := by
  intro start
  have stamped : Stamped stamp start.store page.updatedAt := ⟨0, Nat.le_refl 0, time⟩
  have sound : SessionSound stamp pageId start := {
    distinct
    row := ⟨page, found, stamped⟩
    time := fun updatedAt atTime => by
      obtain rfl : page.updatedAt = updatedAt := Option.some.inj atTime
      refine { stamped, current := fun other foundOther => ?_ }
      rw [Except.ok.inj (found.symm.trans foundOther)]
      exact ⟨fun _ => rfl, fun _ => rfl⟩
    call := fun _ there => by cases there }
  exact (guarded_iff_trace (SessionSound stamp pageId) (fun session => session.conflicts = false)
    (fun _ action => sessionStep_sound fresh action)
    (fun _ action => sessionStep_conflicts action) sound rfl).symm

def launchedSession : EditSession where
  store := { db := launchedDatabase, writes := 0 }
  receipt := ⟨launchedPage.updatedAt, .page (editableContent launchedPage)⟩

def savesInTurn : List SessionAction := [
  .save 3 { editableBody := some ("Tickets close sooner" : String) },
  .advance, .advance, .view launchSlug none, .advance, .advance,
  .save 3 { editableBody := some ("Tickets close much sooner" : String) },
  .advance, .advance, .advance, .advance]

theorem saves_in_turn_meet_no_conflict :
    launchedSession.conflicts = false ∧
      ∀ taken ∈ trace (sessionStep .ascii (· + 2) 10) launchedSession savesInTurn,
        (sessionStep .ascii (· + 2) 10 taken.1 taken.2).conflicts = false := by
  have fresh : Function.Injective (· + 2 : Nat → Date) := fun _ _ same => Nat.add_right_cancel same
  refine ⟨rfl, ?_⟩
  refine (@saves_meet_no_conflict_iff .ascii (· + 2) 10 launchedDatabase launchedPage fresh
    (by decide) rfl rfl savesInTurn).mpr ?_
  show ∀ taken ∈ trace (sessionStep .ascii (· + 2) 10) launchedSession savesInTurn,
    comparesUnviewed taken.1 taken.2 = true
  decide +kernel

/-- A visitor opens the page, and the next save of its only editor is a conflict. -/
theorem viewed_page_conflicts :
    Function.Injective (· + 2 : Nat → Date) ∧
    (launchedDatabase.landingPages.map (·.id)).Nodup ∧
    findLandingPage launchedDatabase 10 = .ok launchedPage ∧ launchedPage.updatedAt = 0 + 2 ∧
    ((run (sessionStep .ascii (· + 2) 10) launchedSession [.view launchSlug none,
      .save 3 { editableBody := some ("Tickets close sooner" : String) }, .advance]).phase =
        some (.thrown (.concurrencyConflict 2 3 launchedPage.editableBody))) := by
  refine ⟨fun _ _ same => Nat.add_right_cancel same, by decide, rfl, rfl, ?_⟩
  decide +kernel

end StoryEngine.Pages
