import StoryEngine.Pages.UpdateCalls

namespace StoryEngine.Pages

open Data Schema Text

/-! # What callers see of a page

Callers load the page, and update it with a time that an earlier answer gave them.
What an answer shows of the page goes with its time: a load shows everything, a
conflict shows the body, and an update shows nothing, so that its caller takes the
page to be what it was with the edit on it.
-/

structure EditableContent where
  title : Text
  subtitle : Option Text
  editableBody : Text
  heroImageUrl : Option Text
  calloutBoxes : Option (List CalloutBox)
  customCss : Option Text
deriving DecidableEq

def editableContent (page : LandingPage) : EditableContent where
  title := page.title
  subtitle := page.subtitle
  editableBody := page.editableBody
  heroImageUrl := page.heroImageUrl
  calloutBoxes := page.calloutBoxes
  customCss := page.customCss

def EditableContent.edited (input : UpdateLandingPageInput) (content : EditableContent) :
    EditableContent where
  title := input.title.getD content.title
  subtitle := input.subtitle.or content.subtitle
  editableBody := input.editableBody.getD content.editableBody
  heroImageUrl := input.heroImageUrl.or content.heroImageUrl
  calloutBoxes := input.calloutBoxes.or content.calloutBoxes
  customCss := input.customCss.or content.customCss

inductive Seen where
  | page (content : EditableContent)
  | body (text : Text)

def Seen.edited (input : UpdateLandingPageInput) : Seen → Seen
  | .page content => .page (content.edited input)
  | .body text => .body (input.editableBody.getD text)

def Seen.Fits (page : LandingPage) : Seen → Prop
  | .page content => editableContent page = content
  | .body text => page.editableBody = text

instance (page : LandingPage) (seen : Seen) : Decidable (seen.Fits page) :=
  match seen with
  | .page content => inferInstanceAs (Decidable (editableContent page = content))
  | .body text => inferInstanceAs (Decidable (page.editableBody = text))

/-- A time that was returned for the page, with what its receiver has seen. -/
structure Receipt where
  updatedAt : Date
  seen : Seen

structure ClientCall where
  receipt : Receipt
  userId : RowId
  input : UpdateLandingPageInput
  phase : UpdatePhase := .reading

def ClientCall.update (pageId : RowId) (client : ClientCall) : UpdateCall where
  pageId := pageId
  userId := client.userId
  input := { client.input with expectedUpdatedAt := some client.receipt.updatedAt }
  phase := client.phase

def ClientCall.answer (client : ClientCall) : Option Receipt :=
  match client.phase with
  | .recording _ updatedAt | .returned updatedAt =>
    some ⟨updatedAt, client.receipt.seen.edited client.input⟩
  | .thrown (.concurrencyConflict _ updatedAt body) => some ⟨updatedAt, .body body⟩
  | _ => none

def ClientCall.answered (client : ClientCall) : Bool :=
  match client.phase with
  | .returned _ | .thrown _ => true
  | _ => false

def ClientCall.next (stamp : Nat → Date) (pageId : RowId) (store : PageStore)
    (client : ClientCall) : ClientCall :=
  { client with phase := ((client.update pageId).advance stamp store).2 }

def Stamped (stamp : Nat → Date) (store : PageStore) (updatedAt : Date) : Prop :=
  ∃ count ≤ store.writes, updatedAt = stamp count

/-- If the page still has the time of the receipt, it is as its receiver has seen it. -/
def Receipt.Holds (pageId : RowId) (store : PageStore) (receipt : Receipt) : Prop :=
  ∀ page, findLandingPage store.db pageId = .ok page → page.updatedAt = receipt.updatedAt →
    receipt.seen.Fits page

section

variable {stamp : Nat → Date} {pageId : RowId} {store next : PageStore} {receipt : Receipt}
  {updatedAt : Date}

theorem Stamped.later (stamped : Stamped stamp store updatedAt)
    (effect : StoreEffect stamp store next) : Stamped stamp next updatedAt := by
  obtain ⟨count, within, same⟩ := stamped
  exact ⟨count, Nat.le_trans within effect.writes_le, same⟩

theorem Receipt.Holds.later (holds : receipt.Holds pageId store)
    (fresh : Function.Injective stamp) (stamped : Stamped stamp store receipt.updatedAt)
    (present : ∃ page, findLandingPage store.db pageId = .ok page)
    (effect : StoreEffect stamp store next) : receipt.Holds pageId next := by
  obtain ⟨page, found⟩ := present
  obtain ⟨row, foundNext, rfl | ⟨time, writes⟩⟩ := effect.row found
  · intro other foundOther same
    obtain rfl := Except.ok.inj (foundNext.symm.trans foundOther)
    exact holds row found same
  · intro other foundOther same
    obtain rfl := Except.ok.inj (foundNext.symm.trans foundOther)
    obtain ⟨count, within, known⟩ := stamped
    have equal : next.writes = count := fresh (time.symm.trans (same.trans known))
    rw [← equal, writes] at within
    exact absurd within (Nat.not_succ_le_self store.writes)

end

/-- The next statement of a call, for a page that is there. -/
inductive ClientStep (stamp : Nat → Date) (pageId : RowId) (store : PageStore)
    (client : ClientCall) (page : LandingPage) : PageStore → UpdatePhase → Prop where
  | read (phase : client.phase = .reading) (same : page.updatedAt = client.receipt.updatedAt) :
      ClientStep stamp pageId store client page store (.writing page)
  | outdated (phase : client.phase = .reading)
      (other : page.updatedAt ≠ client.receipt.updatedAt) :
      ClientStep stamp pageId store client page store
        (.thrown (conflictWith (client.update pageId).input page))
  | write (existing : LandingPage) (phase : client.phase = .writing existing)
      (same : page.updatedAt = client.receipt.updatedAt) :
      ClientStep stamp pageId store client page
        (store.updateMany stamp (client.update pageId).selects
          (pageUpdateData (client.update pageId).input)) (.rereading existing)
  | missed (existing : LandingPage) (phase : client.phase = .writing existing)
      (other : page.updatedAt ≠ client.receipt.updatedAt) :
      ClientStep stamp pageId store client page store .resolving
  | reread (existing : LandingPage) (phase : client.phase = .rereading existing) :
      ClientStep stamp pageId store client page store (.recording existing page.updatedAt)
  | record (existing : LandingPage) (updatedAt : Date)
      (phase : client.phase = .recording existing updatedAt) :
      ClientStep stamp pageId store client page
        { store with
          db := recordEdit store.db existing client.userId (client.update pageId).input }
        (.returned updatedAt)
  | resolved (phase : client.phase = .resolving) :
      ClientStep stamp pageId store client page store
        (.thrown (conflictWith (client.update pageId).input page))
  | stays (answered : client.answered = true) :
      ClientStep stamp pageId store client page store client.phase

def ClientCall.held (client : ClientCall) : List Receipt := client.receipt :: client.answer.toList

/-- Before its write a call knows the page at the time that it passes. -/
def ClientCall.Knows (pageId : RowId) (store : PageStore) (client : ClientCall) : Prop :=
  ∀ existing, client.phase = .writing existing →
    Receipt.Holds pageId store ⟨client.receipt.updatedAt, .page (editableContent existing)⟩

section

variable {stamp : Nat → Date} {pageId : RowId} {store next : PageStore} {client : ClientCall}
  {page : LandingPage} {phase : UpdatePhase}

theorem ClientCall.any_selects (distinct : (store.db.landingPages.map (·.id)).Nodup)
    (found : findLandingPage store.db pageId = .ok page) :
    store.db.landingPages.any (client.update pageId).selects = true ↔
      page.updatedAt = client.receipt.updatedAt := by
  obtain ⟨known, rfl⟩ := findLandingPage_id found
  simp only [List.any_eq_true, UpdateCall.selects, ClientCall.update, Option.all_some,
    Bool.and_eq_true, beq_iff_eq]
  constructor
  · rintro ⟨row, member, own, time⟩
    rw [← List.inj_on_of_nodup_map distinct member known own, time]
  · intro time
    exact ⟨page, known, rfl, time.symm⟩

theorem ClientCall.step (stamp : Nat → Date) (distinct : (store.db.landingPages.map (·.id)).Nodup)
    (found : findLandingPage store.db pageId = .ok page) (client : ClientCall) :
    ClientStep stamp pageId store client page ((client.update pageId).advance stamp store).1
      (client.next stamp pageId store).phase := by
  have selects : store.db.landingPages.any (client.update pageId).selects = true ↔
      page.updatedAt = client.receipt.updatedAt := any_selects distinct found
  have own : (client.update pageId).pageId = pageId := rfl
  have atPhase : (client.update pageId).phase = client.phase := rfl
  have expected : (client.update pageId).input.expectedUpdatedAt =
      some client.receipt.updatedAt := rfl
  cases phase : client.phase with
  | reading =>
    simp only [ClientCall.next, UpdateCall.advance, atPhase, phase, own, found, expected,
      Option.all_some, beq_iff_eq]
    by_cases same : page.updatedAt = client.receipt.updatedAt
    · rw [if_pos same.symm]
      exact .read phase same
    · rw [if_neg (Ne.symm same)]
      exact .outdated phase same
  | writing existing =>
    simp only [ClientCall.next, UpdateCall.advance, atPhase, phase, expected,
      Option.isSome_some, if_true]
    by_cases same : page.updatedAt = client.receipt.updatedAt
    · rw [if_pos (selects.mpr same)]
      exact .write existing phase same
    · rw [if_neg fun finds => same (selects.mp finds)]
      exact .missed existing phase same
  | rereading existing =>
    simp only [ClientCall.next, UpdateCall.advance, atPhase, phase, own, found]
    exact .reread existing phase
  | recording existing updatedAt =>
    simp only [ClientCall.next, UpdateCall.advance, atPhase, phase]
    exact .record existing updatedAt phase
  | resolving =>
    simp only [ClientCall.next, UpdateCall.advance, atPhase, phase, own, found]
    exact .resolved phase
  | returned updatedAt =>
    simp only [ClientCall.next, UpdateCall.advance, atPhase, phase]
    exact phase ▸ .stays (by rw [ClientCall.answered, phase])
  | thrown failure =>
    simp only [ClientCall.next, UpdateCall.advance, atPhase, phase]
    exact phase ▸ .stays (by rw [ClientCall.answered, phase])

theorem ClientStep.held {receipt : Receipt} (step : ClientStep stamp pageId store client page next phase)
    (held : receipt ∈ ({ client with phase } : ClientCall).held) :
    receipt ∈ client.held ∨ next = store ∧ receipt.updatedAt = page.updatedAt ∧
      (receipt.seen = .body page.editableBody ∨ (∃ existing, client.phase = .rereading existing) ∧
        receipt.seen = client.receipt.seen.edited client.input) := by
  rcases List.mem_cons.mp held with rfl | answered
  · exact .inl List.mem_cons_self
  · cases step with
    | read atPhase same => cases answered
    | write existing atPhase same => cases answered
    | missed existing atPhase other => cases answered
    | outdated atPhase other =>
      obtain rfl := List.mem_singleton.mp answered
      exact .inr ⟨rfl, rfl, .inl rfl⟩
    | resolved atPhase =>
      obtain rfl := List.mem_singleton.mp answered
      exact .inr ⟨rfl, rfl, .inl rfl⟩
    | reread existing atPhase =>
      obtain rfl := List.mem_singleton.mp answered
      exact .inr ⟨rfl, rfl, .inr ⟨⟨existing, atPhase⟩, rfl⟩⟩
    | record existing updatedAt atPhase =>
      obtain rfl := List.mem_singleton.mp answered
      exact .inl (List.mem_cons_of_mem _ (by simp [ClientCall.answer, atPhase]))
    | stays isAnswered => exact .inl held

theorem ClientStep.knows (step : ClientStep stamp pageId store client page next phase)
    (found : findLandingPage store.db pageId = .ok page)
    (knows : client.Knows pageId store) :
    ({ client with phase } : ClientCall).Knows pageId next := by
  intro existing atWriting
  cases step with
  | read atPhase same =>
    obtain rfl := UpdatePhase.writing.inj atWriting
    intro other foundOther _
    obtain rfl := Except.ok.inj (found.symm.trans foundOther)
    rfl
  | outdated atPhase other => cases atWriting
  | write existing atPhase same => cases atWriting
  | missed existing atPhase other => cases atWriting
  | reread existing atPhase => cases atWriting
  | record existing updatedAt atPhase => cases atWriting
  | resolved atPhase => cases atWriting
  | stays answered => exact knows existing atWriting

end

end StoryEngine.Pages
