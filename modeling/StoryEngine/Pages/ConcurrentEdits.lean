import StoryEngine.Data.Interleaving
import StoryEngine.Pages.Anonymity
import StoryEngine.Pages.EditReceipts

namespace StoryEngine.Pages

open Data Schema Text

/-! # Editors that work on one page at a time

Any number of calls are under way, each with a receipt that some caller got before.
-/

structure Editing where
  store : PageStore
  receipts : List Receipt := []
  calls : List ClientCall := []

inductive EditingAction where
  | load
  | begin (receipt : Nat) (userId : RowId) (input : UpdateLandingPageInput)
  | advance (call : Nat)
  | view (slug : Text) (password : Option Text)

def editingStep (platform : Platform) (stamp : Nat → Date) (pageId : RowId) (state : Editing) :
    EditingAction → Editing
  | .load =>
    match getForEditing state.store.db pageId with
    | .error _ => state
    | .ok page =>
      { state with
        receipts := state.receipts ++ [⟨page.updatedAt, .page (editableContent page)⟩] }
  | .begin receipt userId input =>
    match state.receipts[receipt]? with
    | none => state
    | some receipt => { state with calls := state.calls ++ [{ receipt, userId, input }] }
  | .advance index =>
    match state.calls[index]? with
    | none => state
    | some client =>
      let next := client.next stamp pageId state.store
      { store := ((client.update pageId).advance stamp state.store).1
        receipts := state.receipts ++ if next.answered then next.answer.toList else []
        calls := state.calls.set index next }
  | .view slug password => { state with store := state.store.view platform stamp slug password }

structure RecordedEdit where
  landingPageId : RowId
  editedById : RowId
  previousBody : Text
  newBody : Text
  editSummary : Option Text
deriving DecidableEq

def RecordedEdit.of (edit : LandingPageEdit) : RecordedEdit where
  landingPageId := edit.landingPageId
  editedById := edit.editedById
  previousBody := edit.previousBody
  newBody := edit.newBody
  editSummary := edit.editSummary

/-- The history entry of a call that has read `existing`. -/
def ClientCall.edit (client : ClientCall) (existing : LandingPage) : Option RecordedEdit :=
  (client.input.editableBody.filter (· != existing.editableBody)).map fun newBody => {
    landingPageId := existing.id
    editedById := client.userId
    previousBody := existing.editableBody
    newBody
    editSummary := client.input.editSummary }

structure AppliedUpdate where
  seen : Seen
  row : LandingPage
  edit : Option RecordedEdit
  leftBody : Text

def ClientCall.notes (client : ClientCall) (phase : UpdatePhase) (row : LandingPage) :
    List AppliedUpdate :=
  match client.phase, phase with
  | .writing existing, .rereading _ => [{
      seen := client.receipt.seen
      row
      edit := client.edit existing
      leftBody := client.input.editableBody.getD row.editableBody }]
  | _, _ => []

def appliedUpdates (stamp : Nat → Date) (pageId : RowId) (state : Editing) :
    EditingAction → List AppliedUpdate
  | .advance index =>
    match state.calls[index]?, findLandingPage state.store.db pageId with
    | some client, .ok row => client.notes (client.next stamp pageId state.store).phase row
    | _, _ => []
  | _ => []

/-- Every edit goes from the body that the update before it has left to the one that
its own update leaves. -/
def BodiesChain : Text → List AppliedUpdate → Prop
  | _, [] => True
  | body, applied :: rest =>
    (∀ edit, applied.edit = some edit →
      edit.previousBody = body ∧ edit.newBody = applied.leftBody) ∧
      BodiesChain applied.leftBody rest

def lastBody (body : Text) (applied : List AppliedUpdate) : Text :=
  applied.foldl (fun _ update => update.leftBody) body

/-- When a call reads the time of its write again, the page is still what the call
takes it to be. -/
def rereadsOwnWrite (pageId : RowId) (state : Editing) : EditingAction → Bool
  | .advance index =>
    match state.calls[index]?, findLandingPage state.store.db pageId with
    | some client, .ok page =>
      match client.phase with
      | .rereading _ => decide ((client.receipt.seen.edited client.input).Fits page)
      | _ => true
    | _, _ => true
  | _ => true

theorem bodiesChain_append {body : Text} {applied : List AppliedUpdate} {last : AppliedUpdate} :
    BodiesChain body (applied ++ [last]) ↔ BodiesChain body applied ∧
      ∀ edit, last.edit = some edit →
        edit.previousBody = lastBody body applied ∧ edit.newBody = last.leftBody := by
  induction applied generalizing body with
  | nil => simp [BodiesChain, lastBody]
  | cons first rest ih =>
    simp only [List.cons_append, BodiesChain, ih, and_assoc]
    rfl

theorem lastBody_append {body : Text} {applied : List AppliedUpdate} {last : AppliedUpdate} :
    lastBody body (applied ++ [last]) = last.leftBody := by
  simp [lastBody]

theorem recordEdit_recorded {db : Database} {client : ClientCall} {existing : LandingPage}
    {pageId : RowId} :
    (recordEdit db existing client.userId (client.update pageId).input).landingPageEdits.map
        RecordedEdit.of =
      db.landingPageEdits.map RecordedEdit.of ++ (client.edit existing).toList := by
  unfold recordEdit ClientCall.edit ClientCall.update
  cases client.input.editableBody with
  | none => simp
  | some newBody =>
    by_cases same : newBody = existing.editableBody
    · simp [Option.filter, same]
    · simp [Option.filter, same, RecordedEdit.of]

structure Coherent (stamp : Nat → Date) (pageId : RowId) (state : Editing) : Prop where
  distinct : (state.store.db.landingPages.map (·.id)).Nodup
  row : ∃ page, findLandingPage state.store.db pageId = .ok page ∧
    Stamped stamp state.store page.updatedAt
  receipts : ∀ receipt ∈ state.receipts, Stamped stamp state.store receipt.updatedAt
  held : ∀ client ∈ state.calls, ∀ receipt ∈ client.held,
    Stamped stamp state.store receipt.updatedAt
  knows : ∀ client ∈ state.calls, client.Knows pageId state.store

structure Informed (pageId : RowId) (state : Editing) : Prop where
  receipts : ∀ receipt ∈ state.receipts, receipt.Holds pageId state.store
  held : ∀ client ∈ state.calls, ∀ receipt ∈ client.held, receipt.Holds pageId state.store

section

variable {platform : Platform} {stamp : Nat → Date} {pageId : RowId} {state : Editing}
  {next : PageStore}

theorem Coherent.later (coherent : Coherent stamp pageId state) (fresh : Function.Injective stamp)
    (effect : StoreEffect stamp state.store next) :
    Coherent stamp pageId { state with store := next } := by
  obtain ⟨page, found, stamped⟩ := coherent.row
  obtain ⟨row, foundNext, time⟩ := effect.row found
  refine {
    distinct := effect.ids ▸ coherent.distinct
    row := ⟨row, foundNext, ?_⟩
    receipts := fun receipt member => (coherent.receipts receipt member).later effect
    held := fun client member receipt held =>
      (coherent.held client member receipt held).later effect
    knows := fun client member existing atPhase => ?_ }
  · rcases time with rfl | ⟨time, _⟩
    · exact stamped.later effect
    · exact ⟨next.writes, Nat.le_refl _, time⟩
  · exact (coherent.knows client member existing atPhase).later fresh
      (coherent.held client member client.receipt List.mem_cons_self) ⟨page, found⟩ effect

theorem Informed.later (informed : Informed pageId state) (coherent : Coherent stamp pageId state)
    (fresh : Function.Injective stamp) (effect : StoreEffect stamp state.store next) :
    Informed pageId { state with store := next } := by
  obtain ⟨page, found, _⟩ := coherent.row
  exact {
    receipts := fun receipt member => (informed.receipts receipt member).later fresh
      (coherent.receipts receipt member) ⟨page, found⟩ effect
    held := fun client member receipt held => (informed.held client member receipt held).later fresh
      (coherent.held client member receipt held) ⟨page, found⟩ effect }

variable {client : ClientCall} {index : Nat}

theorem editingStep_advance (atIndex : state.calls[index]? = some client) :
    editingStep platform stamp pageId state (.advance index) = {
      store := ((client.update pageId).advance stamp state.store).1
      receipts := state.receipts ++
        if (client.next stamp pageId state.store).answered then
          (client.next stamp pageId state.store).answer.toList
        else []
      calls := state.calls.set index (client.next stamp pageId state.store) } := by
  simp only [editingStep, atIndex]

theorem mem_answers {receipt : Receipt}
    (member : receipt ∈ state.receipts ++ if client.answered then client.answer.toList else []) :
    receipt ∈ state.receipts ∨ receipt ∈ client.held := by
  rcases List.mem_append.mp member with old | new
  · exact .inl old
  · split at new
    · exact .inr (List.mem_cons_of_mem _ new)
    · cases new

theorem Coherent.advance (coherent : Coherent stamp pageId state) (fresh : Function.Injective stamp)
    (atIndex : state.calls[index]? = some client) :
    Coherent stamp pageId (editingStep platform stamp pageId state (.advance index)) := by
  obtain ⟨page, found, stamped⟩ := coherent.row
  have member : client ∈ state.calls := List.mem_of_getElem? atIndex
  have effect : StoreEffect stamp state.store ((client.update pageId).advance stamp state.store).1 :=
    (client.update pageId).advance_effect
  have step := client.step stamp coherent.distinct found
  have moved := coherent.later fresh effect
  have stampedHeld : ∀ receipt ∈ (client.next stamp pageId state.store).held,
      Stamped stamp ((client.update pageId).advance stamp state.store).1 receipt.updatedAt := by
    intro receipt held
    rcases step.held held with old | ⟨_, time, _⟩
    · exact moved.held client member receipt old
    · rw [time]
      exact stamped.later effect
  rw [editingStep_advance atIndex]
  refine { distinct := moved.distinct, row := moved.row, receipts := ?_, held := ?_, knows := ?_ }
  · intro receipt inReceipts
    rcases mem_answers inReceipts with old | new
    · exact moved.receipts receipt old
    · exact stampedHeld receipt new
  · intro other inCalls
    rcases List.mem_or_eq_of_mem_set inCalls with old | rfl
    · exact moved.held other old
    · exact stampedHeld
  · intro other inCalls
    rcases List.mem_or_eq_of_mem_set inCalls with old | rfl
    · exact moved.knows other old
    · exact step.knows found (coherent.knows client member)

theorem Informed.advance (informed : Informed pageId state) (coherent : Coherent stamp pageId state)
    (fresh : Function.Injective stamp) (atIndex : state.calls[index]? = some client)
    (own : rereadsOwnWrite pageId state (.advance index) = true) :
    Informed pageId (editingStep platform stamp pageId state (.advance index)) := by
  obtain ⟨page, found, _⟩ := coherent.row
  have member : client ∈ state.calls := List.mem_of_getElem? atIndex
  have effect : StoreEffect stamp state.store ((client.update pageId).advance stamp state.store).1 :=
    (client.update pageId).advance_effect
  have step := client.step stamp coherent.distinct found
  have moved := informed.later coherent fresh effect
  have informedHeld : ∀ receipt ∈ (client.next stamp pageId state.store).held,
      receipt.Holds pageId ((client.update pageId).advance stamp state.store).1 := by
    intro receipt held
    rcases step.held held with old | ⟨same, _, seen⟩
    · exact moved.held client member receipt old
    · rw [same]
      intro other foundOther _
      obtain rfl := Except.ok.inj (found.symm.trans foundOther)
      rcases seen with body | ⟨⟨existing, atPhase⟩, edited⟩
      · rw [body]
        rfl
      · rw [edited]
        simpa only [rereadsOwnWrite, atIndex, found, atPhase, decide_eq_true_eq] using own
  rw [editingStep_advance atIndex]
  refine { receipts := ?_, held := ?_ }
  · intro receipt inReceipts
    rcases mem_answers inReceipts with old | new
    · exact moved.receipts receipt old
    · exact informedHeld receipt new
  · intro other inCalls
    rcases List.mem_or_eq_of_mem_set inCalls with old | rfl
    · exact moved.held other old
    · exact informedHeld

theorem step_coherent (fresh : Function.Injective stamp) (action : EditingAction)
    (coherent : Coherent stamp pageId state) :
    Coherent stamp pageId (editingStep platform stamp pageId state action) := by
  cases action with
  | load =>
    obtain ⟨page, found, stamped⟩ := coherent.row
    have loaded : getForEditing state.store.db pageId = .ok page := found
    simp only [editingStep, loaded]
    refine { coherent with receipts := fun receipt member => ?_ }
    rcases List.mem_append.mp member with old | new
    · exact coherent.receipts receipt old
    · obtain rfl := List.mem_singleton.mp new
      exact stamped
  | begin receipt userId input =>
    simp only [editingStep]
    cases atReceipt : state.receipts[receipt]? with
    | none => exact coherent
    | some known =>
      have member : known ∈ state.receipts := List.mem_of_getElem? atReceipt
      refine { coherent with held := fun client inCalls => ?_, knows := fun client inCalls => ?_ }
      · rcases List.mem_append.mp inCalls with old | new
        · exact coherent.held client old
        · obtain rfl := List.mem_singleton.mp new
          intro receipt held
          obtain rfl := List.mem_singleton.mp held
          exact coherent.receipts receipt member
      · rcases List.mem_append.mp inCalls with old | new
        · exact coherent.knows client old
        · obtain rfl := List.mem_singleton.mp new
          intro existing atPhase
          cases atPhase
  | advance index =>
    cases atIndex : state.calls[index]? with
    | none => simpa only [editingStep, atIndex] using coherent
    | some client => exact coherent.advance fresh atIndex
  | view slug password => exact coherent.later fresh (PageStore.view_effect platform slug password)

theorem step_informed (fresh : Function.Injective stamp) (action : EditingAction)
    (coherent : Coherent stamp pageId state) (informed : Informed pageId state)
    (own : rereadsOwnWrite pageId state action = true) :
    Informed pageId (editingStep platform stamp pageId state action) := by
  cases action with
  | load =>
    obtain ⟨page, found, _⟩ := coherent.row
    have loaded : getForEditing state.store.db pageId = .ok page := found
    simp only [editingStep, loaded]
    refine { informed with receipts := fun receipt member => ?_ }
    rcases List.mem_append.mp member with old | new
    · exact informed.receipts receipt old
    · obtain rfl := List.mem_singleton.mp new
      intro other foundOther _
      obtain rfl := Except.ok.inj (found.symm.trans foundOther)
      rfl
  | begin receipt userId input =>
    simp only [editingStep]
    cases atReceipt : state.receipts[receipt]? with
    | none => exact informed
    | some known =>
      have member : known ∈ state.receipts := List.mem_of_getElem? atReceipt
      refine { informed with held := fun client inCalls => ?_ }
      rcases List.mem_append.mp inCalls with old | new
      · exact informed.held client old
      · obtain rfl := List.mem_singleton.mp new
        intro receipt held
        obtain rfl := List.mem_singleton.mp held
        exact informed.receipts receipt member
  | advance index =>
    cases atIndex : state.calls[index]? with
    | none => simpa only [editingStep, atIndex] using informed
    | some client => exact informed.advance coherent fresh atIndex own
  | view slug password =>
    exact informed.later coherent fresh (PageStore.view_effect platform slug password)

end

def ClientCall.pending (client : ClientCall) : Option RecordedEdit :=
  match client.phase with
  | .rereading existing | .recording existing _ => client.edit existing
  | _ => none

def editHistory (db : Database) : List RecordedEdit := db.landingPageEdits.map .of

/-- The page has the body that the last update left, and every update that changed
it is in the history or in the hand of its call. -/
structure Ledger (pageId : RowId) (first : Text) (edits : List RecordedEdit)
    (applied : List AppliedUpdate) (state : Editing) : Prop where
  body : ∀ page, findLandingPage state.store.db pageId = .ok page →
    page.editableBody = lastBody first applied
  chain : BodiesChain first applied
  edits : (edits ++ applied.filterMap (·.edit)).Perm
    (editHistory state.store.db ++ state.calls.filterMap (·.pending))

section

variable {platform : Platform} {stamp : Nat → Date} {pageId : RowId} {state : Editing}
  {store next : PageStore} {client : ClientCall} {page : LandingPage} {phase : UpdatePhase}
  {first : Text} {edits : List RecordedEdit} {applied : List AppliedUpdate} {index : Nat}

theorem ClientCall.pending_answered (answered : client.answered = true) : client.pending = none := by
  obtain ⟨receipt, userId, input, phase⟩ := client
  cases phase <;> first | rfl | cases answered

theorem appliedUpdates_advance (atIndex : state.calls[index]? = some client)
    (found : findLandingPage state.store.db pageId = .ok page) :
    appliedUpdates stamp pageId state (.advance index) =
      client.notes (client.next stamp pageId state.store).phase page := by
  simp only [appliedUpdates, atIndex, found]

theorem ClientCall.notes_eq_nil (other : ∀ existing, client.phase ≠ .writing existing) :
    client.notes phase page = [] := by
  unfold notes
  split
  · rename_i existing _ atPhase
    exact absurd atPhase (other existing)
  · rfl

theorem ClientStep.entries (step : ClientStep stamp pageId store client page next phase) :
    ∃ added, editHistory next.db = editHistory store.db ++ added ∧
      (client.notes phase page).filterMap (·.edit) ++ client.pending.toList =
        ({ client with phase } : ClientCall).pending.toList ++ added := by
  cases step with
  | read known same | outdated known other | resolved known =>
    refine ⟨[], (List.append_nil _).symm, ?_⟩
    rw [ClientCall.notes_eq_nil (by simp [known])]
    simp [ClientCall.pending, known]
  | missed existing known other =>
    refine ⟨[], (List.append_nil _).symm, ?_⟩
    simp [ClientCall.notes, ClientCall.pending, known]
  | reread existing known =>
    refine ⟨[], (List.append_nil _).symm, ?_⟩
    simp [ClientCall.notes, ClientCall.pending, ClientCall.edit, known]
  | write existing known same =>
    refine ⟨[], (List.append_nil _).symm, ?_⟩
    simp only [ClientCall.notes, ClientCall.pending, known]
    cases entry : client.edit existing with
    | none =>
      have kept : ({ client with phase := .rereading existing } : ClientCall).edit existing = none :=
        entry
      simp [kept]
    | some edit =>
      have kept : ({ client with phase := .rereading existing } : ClientCall).edit existing =
          some edit := entry
      simp [kept]
  | record existing updatedAt known =>
    refine ⟨_, recordEdit_recorded, ?_⟩
    simp [ClientCall.notes, ClientCall.pending, known]
  | stays answered =>
    refine ⟨[], (List.append_nil _).symm, ?_⟩
    rw [ClientCall.notes_eq_nil, ClientCall.pending_answered answered]
    · rfl
    · intro existing atPhase
      rw [ClientCall.answered, atPhase] at answered
      cases answered

theorem ClientCall.edit_bodies {existing : LandingPage} {edit : RecordedEdit}
    (known : client.edit existing = some edit) (text : Text) :
    edit.previousBody = existing.editableBody ∧
      edit.newBody = client.input.editableBody.getD text := by
  simp only [ClientCall.edit, Option.map_eq_some_iff, Option.filter_eq_some_iff] at known
  obtain ⟨newBody, ⟨written, _⟩, rfl⟩ := known
  rw [written]
  exact ⟨rfl, rfl⟩

theorem ClientCall.written_row {row : LandingPage}
    (found : findLandingPage store.db pageId = .ok page)
    (same : page.updatedAt = client.receipt.updatedAt)
    (foundNext : findLandingPage (store.updateMany stamp (client.update pageId).selects
      (pageUpdateData (client.update pageId).input)).db pageId = .ok row) :
    row = pageUpdateData (client.update pageId).input (store.now stamp) page := by
  have own : page.id = pageId := (findLandingPage_id found).2
  have selected : (client.update pageId).selects page = true := by
    simp [UpdateCall.selects, ClientCall.update, own, same]
  have lookup : (updateWhere store.db.landingPages (client.update pageId).selects
      (pageUpdateData (client.update pageId).input (store.now stamp))).find? (·.id == pageId) =
        some row := findLandingPage_eq_ok.mp foundNext
  rw [find?_updateWhere, findLandingPage_eq_ok.mp found, Option.map_some, if_pos selected] at lookup
  · exact (Option.some.inj lookup).symm
  · exact fun _ => rfl

/-- A write is noted with the page that it found, and its entry goes from the body of
this page to the one that the write leaves. -/
theorem ClientStep.noted (step : ClientStep stamp pageId store client page next phase)
    (found : findLandingPage store.db pageId = .ok page) (knows : client.Knows pageId store) :
    (client.notes phase page = [] ∧ ∀ row, findLandingPage next.db pageId = .ok row →
        row.editableBody = page.editableBody) ∨
      ∃ last, client.notes phase page = [last] ∧ last.seen = client.receipt.seen ∧
        last.row = page ∧ page.updatedAt = client.receipt.updatedAt ∧
        (∀ edit, last.edit = some edit →
          edit.previousBody = page.editableBody ∧ edit.newBody = last.leftBody) ∧
        ∀ row, findLandingPage next.db pageId = .ok row → row.editableBody = last.leftBody := by
  have unchanged {db : Database} (pages : db.landingPages = store.db.landingPages) :
      ∀ row, findLandingPage db pageId = .ok row → row.editableBody = page.editableBody := by
    intro row foundNext
    rw [findLandingPage_eq_ok, pages] at foundNext
    rw [Option.some.inj (foundNext.symm.trans (findLandingPage_eq_ok.mp found))]
  cases step with
  | read known same | outdated known other | resolved known =>
    exact .inl ⟨ClientCall.notes_eq_nil (by simp [known]), unchanged rfl⟩
  | missed existing known other => exact .inl ⟨by simp [ClientCall.notes, known], unchanged rfl⟩
  | reread existing known => exact .inl ⟨by simp [ClientCall.notes, known], unchanged rfl⟩
  | record existing updatedAt known =>
    exact .inl ⟨by simp [ClientCall.notes, known], unchanged (recordEdit_pages _ _ _ _)⟩
  | stays answered =>
    refine .inl ⟨ClientCall.notes_eq_nil fun existing atPhase => ?_, unchanged rfl⟩
    rw [ClientCall.answered, atPhase] at answered
    cases answered
  | write existing known same =>
    refine .inr ⟨{
      seen := client.receipt.seen
      row := page
      edit := client.edit existing
      leftBody := client.input.editableBody.getD page.editableBody },
      by simp only [ClientCall.notes, known], rfl, rfl, same, ?_, ?_⟩
    · intro edit entry
      obtain ⟨previous, new⟩ := ClientCall.edit_bodies entry page.editableBody
      have content : editableContent page = editableContent existing :=
        knows existing known page found same
      exact ⟨previous.trans (congrArg EditableContent.editableBody content).symm, new⟩
    · intro row foundNext
      rw [ClientCall.written_row found same foundNext]
      rfl

theorem PageStore.view_body (slug : Text) (password : Option Text)
    (found : findLandingPage store.db pageId = .ok page) :
    ∀ row, findLandingPage (store.view platform stamp slug password).db pageId = .ok row →
      row.editableBody = page.editableBody := by
  intro row foundNext
  unfold PageStore.view at foundNext
  split at foundNext
  · rw [Except.ok.inj (foundNext.symm.trans found)]
  · rename_i counted served
    simp only [getPublicBySlug_eq, Option.bind_eq_some_iff, Option.map_eq_some_iff] at served
    obtain ⟨seen, -, -, -, -, rfl⟩ := served
    rw [findLandingPage_eq_ok, updateLandingPage_pages, find?_updateWhere,
      findLandingPage_eq_ok.mp found, Option.map_some] at foundNext
    · obtain rfl := Option.some.inj foundNext
      split
      · rfl
      · rfl
    · exact fun _ => rfl

theorem PageStore.view_history (slug : Text) (password : Option Text) :
    editHistory (store.view platform stamp slug password).db = editHistory store.db := by
  unfold PageStore.view
  split
  · rfl
  · rename_i counted served
    simp only [getPublicBySlug_eq, Option.bind_eq_some_iff, Option.map_eq_some_iff] at served
    obtain ⟨seen, -, -, -, -, rfl⟩ := served
    rfl

theorem Ledger.advance (ledger : Ledger pageId first edits applied state)
    (coherent : Coherent stamp pageId state) (atIndex : state.calls[index]? = some client) :
    Ledger pageId first edits
      (applied ++ appliedUpdates stamp pageId state (.advance index))
      (editingStep platform stamp pageId state (.advance index)) := by
  obtain ⟨page, found, _⟩ := coherent.row
  have step := client.step stamp coherent.distinct found
  have knows := coherent.knows client (List.mem_of_getElem? atIndex)
  have body := ledger.body page found
  rw [editingStep_advance atIndex, appliedUpdates_advance atIndex found]
  have entries : (edits ++ (applied ++
      client.notes (client.next stamp pageId state.store).phase page).filterMap (·.edit)).Perm
      (editHistory ((client.update pageId).advance stamp state.store).1.db ++
        (state.calls.set index (client.next stamp pageId state.store)).filterMap (·.pending)) := by
    obtain ⟨added, history, passed⟩ := step.entries
    have moved : ((state.calls.set index (client.next stamp pageId state.store)).filterMap
        (·.pending) ++ client.pending.toList).Perm
        (state.calls.filterMap (·.pending) ++
          (client.next stamp pageId state.store).pending.toList) := filterMap_set_perm atIndex
    have kept := ledger.edits
    rw [history, List.filterMap_append]
    rw [List.perm_iff_count] at moved kept ⊢
    intro edit
    have counted := congrArg (List.count edit) passed
    have inHand := moved edit
    have before := kept edit
    simp only [List.count_append] at counted inHand before ⊢
    have sameHand : List.count edit ({ client with
        phase := (client.next stamp pageId state.store).phase } : ClientCall).pending.toList =
        List.count edit (client.next stamp pageId state.store).pending.toList := rfl
    omega
  rcases step.noted found knows with ⟨none, kept⟩ | ⟨last, one, _, _, _, bodies, left⟩
  · refine { body := ?_, chain := ?_, edits := entries }
    · intro row foundNext
      rw [none, List.append_nil, ← body]
      exact kept row foundNext
    · rw [none, List.append_nil]
      exact ledger.chain
  · refine { body := ?_, chain := ?_, edits := entries }
    · intro row foundNext
      rw [one, lastBody_append]
      exact left row foundNext
    · rw [one, bodiesChain_append, ← body]
      exact ⟨ledger.chain, bodies⟩

theorem step_ledger (action : EditingAction) (ledger : Ledger pageId first edits applied state)
    (coherent : Coherent stamp pageId state) :
    Ledger pageId first edits (applied ++ appliedUpdates stamp pageId state action)
      (editingStep platform stamp pageId state action) := by
  cases action with
  | advance index =>
    cases atIndex : state.calls[index]? with
    | none => simpa only [editingStep, appliedUpdates, atIndex, List.append_nil] using ledger
    | some client => exact ledger.advance coherent atIndex
  | load =>
    simp only [editingStep, appliedUpdates, List.append_nil]
    split
    · exact ledger
    · exact { ledger with }
  | begin receipt userId input =>
    simp only [editingStep, appliedUpdates, List.append_nil]
    split
    · exact ledger
    · refine { ledger with edits := ?_ }
      rw [List.filterMap_append]
      simpa [ClientCall.pending] using ledger.edits
  | view slug password =>
    obtain ⟨page, found, _⟩ := coherent.row
    simp only [editingStep, appliedUpdates, List.append_nil]
    refine { body := fun row foundNext => ?_, chain := ledger.chain, edits := ?_ }
    · rw [PageStore.view_body slug password found row foundNext]
      exact ledger.body page found
    · rw [PageStore.view_history]
      exact ledger.edits

theorem appliedUpdates_seen (action : EditingAction) (coherent : Coherent stamp pageId state)
    (informed : Informed pageId state) :
    ∀ update ∈ appliedUpdates stamp pageId state action, update.seen.Fits update.row := by
  intro update member
  cases action with
  | load => cases member
  | begin receipt userId input => cases member
  | view slug password => cases member
  | advance index =>
    obtain ⟨page, found, _⟩ := coherent.row
    cases atIndex : state.calls[index]? with
    | none => simp [appliedUpdates, atIndex] at member
    | some client =>
      have inCalls : client ∈ state.calls := List.mem_of_getElem? atIndex
      rw [appliedUpdates_advance atIndex found] at member
      have step := client.step stamp coherent.distinct found
      rcases step.noted found (coherent.knows client inCalls) with
        ⟨none, _⟩ | ⟨last, one, seen, row, same, _, _⟩
      · rw [none] at member
        cases member
      · rw [one] at member
        obtain rfl := List.mem_singleton.mp member
        rw [seen, row]
        exact informed.held client inCalls client.receipt List.mem_cons_self page found same

end

/-- Over every run of loads, updates and views the history of the bodies is a chain
without gaps, and every update that changed the body is in it once.  Updates apply
to what their callers have seen as long as no call reads the time of another
client's change in place of its own. -/
theorem updates_apply_to_seen {platform : Platform} {stamp : Nat → Date} {pageId : RowId}
    {db : Database} {page : LandingPage} (fresh : Function.Injective stamp)
    (distinct : (db.landingPages.map (·.id)).Nodup)
    (found : findLandingPage db pageId = .ok page) (time : page.updatedAt = stamp 0)
    (actions : List EditingAction) :
    let start : Editing := { store := { db, writes := 0 } }
    let applied := log (editingStep platform stamp pageId) (appliedUpdates stamp pageId) start actions
    let final := run (editingStep platform stamp pageId) start actions
    (Guarded (editingStep platform stamp pageId) (rereadsOwnWrite pageId · · = true) start actions →
      ∀ update ∈ applied, update.seen.Fits update.row) ∧
    BodiesChain page.editableBody applied ∧
    (editHistory db ++ applied.filterMap (·.edit)).Perm
      (editHistory final.store.db ++ final.calls.filterMap (·.pending)) := by
  intro start applied final
  have coherent : Coherent stamp pageId start := {
    distinct
    row := ⟨page, found, 0, Nat.le_refl 0, time⟩
    receipts := fun _ member => by cases member
    held := fun _ member => by cases member
    knows := fun _ member => by cases member }
  have informed : Informed pageId start := {
    receipts := fun _ member => by cases member
    held := fun _ member => by cases member }
  have ledger : Ledger pageId page.editableBody (editHistory db) [] start := {
    body := fun row foundRow => by rw [Except.ok.inj (foundRow.symm.trans found)]; rfl
    chain := trivial
    edits := by simp [start] }
  constructor
  · intro guarded
    have held := run_log_invariant
      (fun notes state => Coherent stamp pageId state ∧ Informed pageId state ∧
        ∀ update ∈ notes, update.seen.Fits update.row)
      (fun notes state action kept own => ⟨step_coherent fresh action kept.1,
        step_informed fresh action kept.1 kept.2.1 own,
        fun update member => (List.mem_append.mp member).elim (kept.2.2 update)
          (appliedUpdates_seen action kept.1 kept.2.1 update)⟩)
      ⟨coherent, informed, fun update (none : update ∈ ([] : List AppliedUpdate)) => by cases none⟩
      guarded
    exact held.2.2
  · have free : Guarded (editingStep platform stamp pageId) (fun _ _ => True) start actions :=
      fun _ _ => trivial
    have held := run_log_invariant
      (fun notes state => Coherent stamp pageId state ∧
        Ledger pageId page.editableBody (editHistory db) notes state)
      (fun notes state action kept _ => ⟨step_coherent fresh action kept.1,
        step_ledger action kept.2 kept.1⟩)
      ⟨coherent, ledger⟩ free
    exact ⟨held.2.chain, held.2.edits⟩

def launchedEditing : Editing := { store := { db := launchedDatabase, writes := 0 } }

def savesTwice : List EditingAction := [
  .load, .begin 0 3 { editableBody := some ("Tickets close sooner" : String) },
  .advance 0, .advance 0, .advance 0, .advance 0,
  .begin 1 3 { editableBody := some ("Tickets close much sooner" : String) },
  .advance 1, .advance 1, .advance 1, .advance 1]

theorem second_save_applies_to_first :
    (∀ update ∈ log (editingStep .ascii (· + 2) 10) (appliedUpdates (· + 2) 10) launchedEditing
      savesTwice, update.seen.Fits update.row) ∧
    BodiesChain launchedPage.editableBody
      (log (editingStep .ascii (· + 2) 10) (appliedUpdates (· + 2) 10) launchedEditing
        savesTwice) := by
  have fresh : Function.Injective (· + 2 : Nat → Date) := fun _ _ same => Nat.add_right_cancel same
  obtain ⟨seen, chain, _⟩ := @updates_apply_to_seen .ascii (· + 2) 10 launchedDatabase launchedPage
    fresh (by decide) rfl rfl savesTwice
  refine ⟨seen ?_, chain⟩
  show ∀ taken ∈ trace (editingStep .ascii (· + 2) 10) launchedEditing savesTwice,
    rereadsOwnWrite 10 taken.1 taken.2 = true
  decide +kernel

/-- Another editor loads and saves between the write of the first editor and its
second look at the time. -/
def savesOver : List EditingAction := [
  .load, .begin 0 3 { editableBody := some ("Tickets close sooner" : String) },
  .advance 0, .advance 0,
  .load, .begin 1 4 { editableBody := some ("Tickets close in a day" : String) },
  .advance 1, .advance 1, .advance 1, .advance 1,
  .advance 0, .advance 0,
  .begin 3 3 { editableBody := some ("Tickets close much sooner" : String) },
  .advance 2, .advance 2]

/-- The next save of the first editor drops the text of the other one unseen. -/
theorem other_edit_is_lost :
    Function.Injective (· + 2 : Nat → Date) ∧
    (launchedDatabase.landingPages.map (·.id)).Nodup ∧
    findLandingPage launchedDatabase 10 = .ok launchedPage ∧ launchedPage.updatedAt = 0 + 2 ∧
    ¬∀ update ∈ log (editingStep .ascii (· + 2) 10) (appliedUpdates (· + 2) 10) launchedEditing
      savesOver, update.seen.Fits update.row := by
  refine ⟨fun _ _ same => Nat.add_right_cancel same, by decide, rfl, rfl, ?_⟩
  decide +kernel

/-- A call whose steps no other call comes between does what `update` does at once. -/
theorem UpdateCall.alone_eq_update (stamp : Nat → Date) {store : PageStore} {call : UpdateCall}
    (distinct : (store.db.landingPages.map (·.id)).Nodup) (start : call.phase = .reading) :
    (step stamp)^[4] (store, call) =
      match update store.db call.pageId call.userId call.input (store.now stamp) with
      | .ok (next, updatedAt) =>
        ({ db := next, writes := store.writes + 1 }, { call with phase := .returned updatedAt })
      | .error failure => (store, { call with phase := .thrown failure }) := by
  cases updated : update store.db call.pageId call.userId call.input (store.now stamp) with
  | ok result =>
    obtain ⟨next, updatedAt⟩ := result
    exact alone_ok distinct start updated
  | error failure => exact alone_error start updated

def firstSave : UpdateCall where
  pageId := 10
  userId := 3
  input := { editableBody := some ("Tickets close sooner" : String) }

theorem first_save_alone :
    ((UpdateCall.step (· + 2))^[4] (launchedEditing.store, firstSave)).2.phase = .returned 3 := by
  rw [UpdateCall.alone_eq_update (· + 2) (by decide) rfl]
  rfl

end StoryEngine.Pages
