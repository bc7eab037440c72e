import StoryEngine.Governance.Deletions

namespace StoryEngine.Governance

open Data Pages Schema GovernanceProcess

/-! # Deletions under legal hold

A request to delete and the sweep ask for the hold before they delete; a review and the
deletion of a story do not.  No path asks at the moment of the deletion.
-/

section

variable {ρ : Type} {key owner : ρ → RowId} {rows : List ρ} {organizationId : RowId}

def Missing (key owner : ρ → RowId) (before after : List ρ) (organizationId : RowId) : Prop :=
  ∃ row ∈ before, owner row = organizationId ∧ key row ∉ after.map key

theorem not_missing_of_keys {after : List ρ} (same : after.map key = rows.map key) :
    ¬Missing key owner rows after organizationId := by
  intro missing
  obtain ⟨row, member, _, gone⟩ := missing
  rw [same] at gone
  exact gone (List.mem_map_of_mem member)

theorem Missing.selected {selects : ρ → Bool}
    (missing : Missing key owner rows (deleteWhere rows selects) organizationId) :
    ∃ row ∈ rows, owner row = organizationId ∧ selects row = true := by
  obtain ⟨row, member, own, gone⟩ := missing
  cases selected : selects row with
  | true => exact ⟨row, member, own, selected⟩
  | false =>
    have kept := mem_deleteWhere.mpr ⟨member, selected⟩
    exact absurd (List.mem_map_of_mem kept) gone

end

def Loses (before after : Database) (organizationId : RowId) : Prop :=
  Missing Call.id Call.organizationId before.calls after.calls organizationId ∨
  Missing Story.id Story.organizationId before.stories after.stories organizationId ∨
  Missing LandingPage.id LandingPage.organizationId before.landingPages after.landingPages
    organizationId

/-- No turn of the run deletes rows of an organization that is under legal hold then. -/
def NothingDeletedUnderHold (system : GovernanceSystem) (schedule : List Nat) : Prop :=
  ∀ taken ∈ trace (turn advance) system schedule, ∀ organizationId,
    Loses taken.1.shared.db (turn advance taken.1 taken.2).shared.db organizationId →
    isLegalHoldEnabled taken.1.shared.db organizationId = false

def GovernanceProcess.deletesFor : GovernanceProcess → Option RowId
  | deleteTarget organizationId _ _ _ | removeStory organizationId _
  | removePage organizationId _ | sweepExpired organizationId _ _ => some organizationId
  | _ => none

/-- The organization of a deletion that is let through without a look at the hold: an
approved request, and a story that may be deleted. -/
def letsThrough (state : GovernanceState) : GovernanceProcess → Option RowId
  | reviewDeletion input =>
    if input.decision = .approve ∧
        (findDeletionRequest state input.requestId input.organizationId).any
          (·.status == .pending) then
      some input.organizationId
    else none
  | authorizeStory caller story landingPages =>
    if Access.canAccessAccount state.db caller.userId caller.organizationId story.accountId
        caller.userRole ∧ landingPages = 0 then
      some caller.organizationId
    else none
  | _ => none

def GovernanceProcess.switchesOn : GovernanceProcess → Option RowId
  | setPolicy organizationId value =>
    if (decodeDataGovernancePolicy value).legalHoldEnabled = some true then some organizationId
    else none
  | _ => none

/-- Reviews and story deletions are let through with the hold off only, and the hold is not
switched on between the look at it and the deletion. -/
def HoldRespected (system : GovernanceSystem) (index : Nat) : Prop :=
  ∀ process ∈ system.processes[index]?,
    (∀ organizationId ∈ letsThrough system.shared process,
      isLegalHoldEnabled system.shared.db organizationId = false) ∧
    ∀ organizationId ∈ process.switchesOn,
      ∀ other ∈ system.processes, other.deletesFor ≠ some organizationId

instance (system : GovernanceSystem) (index : Nat) : Decidable (HoldRespected system index) :=
  inferInstanceAs (Decidable (∀ process ∈ system.processes[index]?, _ ∧ _))

structure Fewer (before after : Database) : Prop where
  stories : ∀ story ∈ after.stories, ∃ old ∈ before.stories,
    old.id = story.id ∧ old.organizationId = story.organizationId
  landingPages : ∀ page ∈ after.landingPages, ∃ old ∈ before.landingPages,
    old.id = page.id ∧ old.organizationId = page.organizationId

section

variable {db before after next : Database} {state : GovernanceState} {organizationId : RowId}
  {process : GovernanceProcess}

theorem Fewer.refl : Fewer db db :=
  ⟨fun story member => ⟨story, member, rfl, rfl⟩, fun page member => ⟨page, member, rfl, rfl⟩⟩

theorem Fewer.trans (first : Fewer before after) (second : Fewer after next) :
    Fewer before next := by
  constructor
  · intro story member
    obtain ⟨middle, inAfter, id, owner⟩ := second.stories story member
    obtain ⟨old, inBefore, oldId, oldOwner⟩ := first.stories middle inAfter
    exact ⟨old, inBefore, oldId.trans id, oldOwner.trans owner⟩
  · intro page member
    obtain ⟨middle, inAfter, id, owner⟩ := second.landingPages page member
    obtain ⟨old, inBefore, oldId, oldOwner⟩ := first.landingPages middle inAfter
    exact ⟨old, inBefore, oldId.trans id, oldOwner.trans owner⟩

theorem fewer_of_same (stories : after.stories = before.stories)
    (landingPages : after.landingPages = before.landingPages) : Fewer before after := by
  constructor
  · intro story member
    exact ⟨story, stories ▸ member, rfl, rfl⟩
  · intro page member
    exact ⟨page, landingPages ▸ member, rfl, rfl⟩

theorem deleteStories_fewer (db : Database) (selects : Story → Bool) :
    Fewer db (deleteStories db selects) :=
  ⟨fun story member => ⟨story, (mem_deleteWhere.mp member).1, rfl, rfl⟩,
    fun page member => ⟨page, member, rfl, rfl⟩⟩

theorem deleteLandingPages_fewer (db : Database) (selects : LandingPage → Bool) :
    Fewer db (deleteLandingPages db selects) :=
  ⟨fun story member => ⟨story, member, rfl, rfl⟩,
    fun page member => ⟨page, (mem_deleteWhere.mp member).1, rfl, rfl⟩⟩

theorem syncStory_fewer (db : Database) (storyId : RowId) :
    Fewer db (syncStoryPublishedAtFromLandingPages db storyId) := by
  constructor
  · intro story member
    obtain ⟨old, inBefore, written | kept⟩ := mem_updateWhere.mp member
    · exact ⟨old, inBefore, by rw [written.2], by rw [written.2]⟩
    · exact ⟨old, inBefore, by rw [kept.2], by rw [kept.2]⟩
  · intro page member
    exact ⟨page, member, rfl, rfl⟩

theorem deleteLandingPage_fewer {pageId : RowId} (deleted : deleteLandingPage db pageId = .ok next) :
    Fewer db next := by
  simp only [deleteLandingPage, bind_eq_ok, pure_eq_ok] at deleted
  obtain ⟨page, _, rfl⟩ := deleted
  apply Fewer.trans _ (syncStory_fewer _ _)
  exact ⟨fun story member => ⟨story, member, rfl, rfl⟩,
    fun page member => ⟨page, (mem_deleteWhere.mp member).1, rfl, rfl⟩⟩

theorem deleteGovernedTarget_fewer (targetType : DeletionTargetType) (targetId : RowId) :
    Fewer db (deleteGovernedTarget db organizationId targetType targetId) := by
  cases targetType with
  | call => exact fewer_of_same rfl rfl
  | story => exact deleteStories_fewer db _
  | landingPage => exact deleteLandingPages_fewer db _

theorem deleteExpired_fewer (cutoff : Date) :
    Fewer db (deleteExpired db organizationId cutoff) := by
  apply Fewer.trans (deleteLandingPages_fewer db _)
  apply Fewer.trans (deleteStories_fewer _ _)
  exact fewer_of_same rfl rfl

theorem setPolicyColumn_rows (db : Database) (organizationId : RowId) (value : Json) :
    (setPolicyColumn db organizationId value).calls = db.calls ∧
    (setPolicyColumn db organizationId value).stories = db.stories ∧
    (setPolicyColumn db organizationId value).landingPages = db.landingPages := by
  simp only [setPolicyColumn, Approval.upsertOrgSettings]
  split <;> exact ⟨rfl, rfl, rfl⟩

theorem advance_fewer (state : GovernanceState) (process : GovernanceProcess) :
    Fewer state.db (advance state process).1.db := by
  cases process with
  | setPolicy organizationId value =>
    obtain ⟨_, stories, landingPages⟩ := setPolicyColumn_rows state.db organizationId value
    exact fewer_of_same stories landingPages
  | deleteTarget organizationId targetType targetId review =>
    exact deleteGovernedTarget_fewer targetType targetId
  | removeStory organizationId storyId =>
    simp only [advance, removeStoryStep]
    split
    · exact deleteStories_fewer _ _
    · exact Fewer.refl
  | removePage organizationId pageId =>
    simp only [advance, removePageStep]
    split
    · next deleted => exact deleteLandingPage_fewer deleted
    · exact Fewer.refl
  | sweepExpired organizationId cutoff rest => exact deleteExpired_fewer cutoff
  | _ => exact fewer_of_same rfl rfl

theorem hold_congr (same : after.orgSettings = before.orgSettings) :
    isLegalHoldEnabled after organizationId = isLegalHoldEnabled before organizationId := by
  simp only [isLegalHoldEnabled, getDataGovernancePolicy, storedPolicy, same]

theorem deleteLandingPage_orgSettings {pageId : RowId}
    (deleted : deleteLandingPage db pageId = .ok next) : next.orgSettings = db.orgSettings := by
  simp only [deleteLandingPage, bind_eq_ok, pure_eq_ok] at deleted
  obtain ⟨page, _, rfl⟩ := deleted
  rfl

theorem advance_hold (off : isLegalHoldEnabled state.db organizationId = false)
    (notOn : process.switchesOn ≠ some organizationId) :
    isLegalHoldEnabled (advance state process).1.db organizationId = false := by
  cases process with
  | setPolicy changed value =>
    simp only [advance, isLegalHoldEnabled, getDataGovernancePolicy,
      storedPolicy_setPolicyColumn]
    by_cases own : organizationId = changed
    · subst own
      rw [if_pos rfl]
      by_cases on : (decodeDataGovernancePolicy value).legalHoldEnabled = some true
      · simp [GovernanceProcess.switchesOn, on] at notOn
      · simpa using on
    · rw [if_neg own]
      exact off
  | deleteTarget organizationId targetType targetId review =>
    cases targetType <;> exact (hold_congr rfl).trans off
  | removeStory organizationId storyId =>
    simp only [advance, removeStoryStep]
    split
    · exact (hold_congr rfl).trans off
    · exact off
  | removePage organizationId pageId =>
    simp only [advance, removePageStep]
    split
    · next deleted => exact (hold_congr (deleteLandingPage_orgSettings deleted)).trans off
    · exact off
  | _ => exact (hold_congr rfl).trans off

/-- All rows of a deletion by id alone belong to the organization that asked for it. -/
def Owned (db : Database) : GovernanceProcess → Prop
  | authorizeStory caller story _ =>
    ∀ row ∈ db.stories, row.id = story.id → row.organizationId = caller.organizationId
  | removeStory organizationId storyId =>
    ∀ row ∈ db.stories, row.id = storyId → row.organizationId = organizationId
  | checkPageHold organizationId pageId | removePage organizationId pageId =>
    ∀ row ∈ db.landingPages, row.id = pageId → row.organizationId = organizationId
  | _ => True

theorem Owned.fewer (owned : Owned before process) (fewer : Fewer before after) :
    Owned after process := by
  cases process with
  | authorizeStory caller story landingPages =>
    intro row member id
    obtain ⟨old, inBefore, oldId, owner⟩ := fewer.stories row member
    exact owner ▸ owned old inBefore (oldId.trans id)
  | removeStory organizationId storyId =>
    intro row member id
    obtain ⟨old, inBefore, oldId, owner⟩ := fewer.stories row member
    exact owner ▸ owned old inBefore (oldId.trans id)
  | checkPageHold organizationId pageId =>
    intro row member id
    obtain ⟨old, inBefore, oldId, owner⟩ := fewer.landingPages row member
    exact owner ▸ owned old inBefore (oldId.trans id)
  | removePage organizationId pageId =>
    intro row member id
    obtain ⟨old, inBefore, oldId, owner⟩ := fewer.landingPages row member
    exact owner ▸ owned old inBefore (oldId.trans id)
  | _ => trivial

theorem Loses.call (loses : Loses before after organizationId)
    (stories : after.stories.map (·.id) = before.stories.map (·.id))
    (landingPages : after.landingPages.map (·.id) = before.landingPages.map (·.id)) :
    Missing Call.id Call.organizationId before.calls after.calls organizationId := by
  rcases loses with call | story | page
  · exact call
  · exact absurd story (not_missing_of_keys stories)
  · exact absurd page (not_missing_of_keys landingPages)

theorem Loses.story (loses : Loses before after organizationId)
    (calls : after.calls.map (·.id) = before.calls.map (·.id))
    (landingPages : after.landingPages.map (·.id) = before.landingPages.map (·.id)) :
    Missing Story.id Story.organizationId before.stories after.stories organizationId := by
  rcases loses with call | story | page
  · exact absurd call (not_missing_of_keys calls)
  · exact story
  · exact absurd page (not_missing_of_keys landingPages)

theorem Loses.page (loses : Loses before after organizationId)
    (calls : after.calls.map (·.id) = before.calls.map (·.id))
    (stories : after.stories.map (·.id) = before.stories.map (·.id)) :
    Missing LandingPage.id LandingPage.organizationId before.landingPages after.landingPages
      organizationId := by
  rcases loses with call | story | page
  · exact absurd call (not_missing_of_keys calls)
  · exact absurd story (not_missing_of_keys stories)
  · exact page

theorem not_loses_of_same (calls : after.calls = before.calls)
    (stories : after.stories = before.stories)
    (landingPages : after.landingPages = before.landingPages) :
    ¬Loses before after organizationId := by
  intro loses
  have call := loses.call (by rw [stories]) (by rw [landingPages])
  exact not_missing_of_keys (by rw [calls]) call

theorem loses_deleteGovernedTarget {owner targetId : RowId} {targetType : DeletionTargetType}
    (loses : Loses db (deleteGovernedTarget db owner targetType targetId) organizationId) :
    owner = organizationId := by
  cases targetType with
  | call =>
    obtain ⟨row, _, own, selected⟩ := (loses.call rfl rfl).selected
    simp_all
  | story =>
    obtain ⟨row, _, own, selected⟩ := (loses.story rfl rfl).selected
    simp_all
  | landingPage =>
    obtain ⟨row, _, own, selected⟩ := (loses.page rfl rfl).selected
    simp_all

theorem loses_deleteExpired {owner : RowId} {cutoff : Date}
    (loses : Loses db (deleteExpired db owner cutoff) organizationId) :
    owner = organizationId := by
  rcases loses with call | story | page
  · obtain ⟨row, _, own, selected⟩ := call.selected
    simp_all
  · obtain ⟨row, _, own, selected⟩ := story.selected
    simp_all
  · obtain ⟨row, _, own, selected⟩ := page.selected
    simp_all

theorem loses_deleteLandingPage {owner pageId : RowId}
    (deleted : deleteLandingPage db pageId = .ok next)
    (owned : ∀ row ∈ db.landingPages, row.id = pageId → row.organizationId = owner)
    (loses : Loses db next organizationId) : owner = organizationId := by
  simp only [deleteLandingPage, bind_eq_ok, pure_eq_ok] at deleted
  obtain ⟨page, _, rfl⟩ := deleted
  have missing := loses.page rfl (map_updateWhere fun _ => rfl)
  obtain ⟨row, member, own, selected⟩ := missing.selected
  exact (owned row member (by simpa using selected)).symm.trans own

theorem advance_loses (owned : Owned state.db process)
    (loses : Loses state.db (advance state process).1.db organizationId) :
    process.deletesFor = some organizationId := by
  cases process with
  | setPolicy changed value =>
    obtain ⟨calls, stories, landingPages⟩ := setPolicyColumn_rows state.db changed value
    exact absurd loses (not_loses_of_same calls stories landingPages)
  | deleteTarget owner targetType targetId review =>
    exact congrArg some (loses_deleteGovernedTarget loses)
  | removeStory owner storyId =>
    simp only [advance, removeStoryStep] at loses
    split at loses
    · obtain ⟨row, member, own, selected⟩ := (loses.story rfl rfl).selected
      exact congrArg some ((owned row member (by simpa using selected)).symm.trans own)
    · exact absurd loses (not_loses_of_same rfl rfl rfl)
  | removePage owner pageId =>
    simp only [advance, removePageStep] at loses
    split at loses
    · next deleted => exact congrArg some (loses_deleteLandingPage deleted owned loses)
    · exact absurd loses (not_loses_of_same rfl rfl rfl)
  | sweepExpired owner cutoff rest => exact congrArg some (loses_deleteExpired loses)
  | _ => exact absurd loses (not_loses_of_same rfl rfl rfl)

theorem advance_enters
    (enters : (advance state process).2.deletesFor = some organizationId) :
    letsThrough state process = some organizationId ∨
      isLegalHoldEnabled state.db organizationId = false := by
  cases process with
  | requestDeletion input =>
    simp only [advance, requestDeletionStep] at enters
    split at enters
    · cases enters
    · split at enters
      · cases enters
      · next notHeld =>
          split at enters
          · cases enters
          · obtain rfl : input.organizationId = organizationId := by
              simpa [GovernanceProcess.deletesFor] using enters
            exact Or.inr (by simpa [isLegalHoldEnabled] using notHeld)
  | deleteTarget owner targetType targetId review =>
    cases review <;> cases enters
  | reviewDeletion input =>
    simp only [advance, reviewDeletionStep] at enters
    split at enters
    · cases enters
    · split at enters
      · cases enters
      · next request found =>
          split at enters
          · cases enters
          · next pending =>
              split at enters
              · cases enters
              · next approved =>
                  left
                  have waits : request.status = .pending := by simpa using pending
                  simpa [letsThrough, approved, found, waits,
                    GovernanceProcess.deletesFor] using enters
  | deleteStory caller storyId =>
    simp only [advance, deleteStoryStep] at enters
    split at enters
    · cases enters
    · split at enters <;> cases enters
  | authorizeStory caller story landingPages =>
    simp only [advance, authorizeStoryStep] at enters
    split at enters
    · cases enters
    · next permitted =>
        split at enters
        · cases enters
        · next unpaged =>
            left
            have none : landingPages = 0 := by omega
            simpa [letsThrough, none, (by simpa using permitted :
              Access.canAccessAccount state.db caller.userId caller.organizationId
                story.accountId caller.userRole = true),
              GovernanceProcess.deletesFor] using enters
  | removeStory owner storyId =>
    simp only [advance, removeStoryStep] at enters
    split at enters <;> cases enters
  | deletePage owner pageId =>
    simp only [advance] at enters
    split at enters <;> cases enters
  | checkPageHold owner pageId =>
    simp only [advance] at enters
    split at enters
    · cases enters
    · next notHeld =>
        obtain rfl : owner = organizationId := by
          simpa [GovernanceProcess.deletesFor] using enters
        exact Or.inr (by simpa using notHeld)
  | removePage owner pageId =>
    simp only [advance, removePageStep] at enters
    split at enters <;> cases enters
  | sweepOrganizations organizationIds =>
    cases organizationIds with
    | nil => cases enters
    | cons first rest =>
      simp only [advance, sweepStep] at enters
      split at enters
      · cases enters
      · next notHeld =>
          obtain rfl : first = organizationId := by
            simpa [GovernanceProcess.deletesFor] using enters
          exact Or.inr (by simpa [isLegalHoldEnabled] using notHeld)
  | _ => cases enters

def Keyed (db : Database) : Prop :=
  (∀ left ∈ db.stories, ∀ right ∈ db.stories, left.id = right.id →
    left.organizationId = right.organizationId) ∧
  ∀ left ∈ db.landingPages, ∀ right ∈ db.landingPages, left.id = right.id →
    left.organizationId = right.organizationId

theorem Keyed.fewer (keyed : Keyed before) (fewer : Fewer before after) : Keyed after := by
  constructor
  · intro left inLeft right inRight same
    obtain ⟨first, inFirst, firstId, firstOwner⟩ := fewer.stories left inLeft
    obtain ⟨second, inSecond, secondId, secondOwner⟩ := fewer.stories right inRight
    rw [← firstOwner, ← secondOwner]
    exact keyed.1 first inFirst second inSecond (firstId.trans (same.trans secondId.symm))
  · intro left inLeft right inRight same
    obtain ⟨first, inFirst, firstId, firstOwner⟩ := fewer.landingPages left inLeft
    obtain ⟨second, inSecond, secondId, secondOwner⟩ := fewer.landingPages right inRight
    rw [← firstOwner, ← secondOwner]
    exact keyed.2 first inFirst second inSecond (firstId.trans (same.trans secondId.symm))

theorem advance_owned (keyed : Keyed state.db) (owned : Owned state.db process) :
    Owned state.db (advance state process).2 := by
  cases process with
  | requestDeletion input =>
    simp only [advance, requestDeletionStep]
    split
    · trivial
    · split
      · trivial
      · split <;> trivial
  | deleteTarget owner targetType targetId review => cases review <;> trivial
  | reviewDeletion input =>
    simp only [advance, reviewDeletionStep]
    split
    · trivial
    · split
      · trivial
      · split
        · trivial
        · split <;> trivial
  | deleteStory caller storyId =>
    simp only [advance, deleteStoryStep]
    split
    · trivial
    · split
      · trivial
      · next story found =>
          intro row member id
          have own : story.id = storyId ∧ story.organizationId = caller.organizationId := by
            simpa using List.find?_some found
          rw [← own.2]
          exact keyed.1 row member story (List.mem_of_find?_eq_some found) id
  | authorizeStory caller story landingPages =>
    simp only [advance, authorizeStoryStep]
    split
    · trivial
    · split
      · trivial
      · exact owned
  | removeStory owner storyId =>
    simp only [advance, removeStoryStep]
    split <;> trivial
  | deletePage owner pageId =>
    simp only [advance]
    split
    · next present =>
        intro row member id
        obtain ⟨page, found⟩ := Option.isSome_iff_exists.mp present
        have own : page.id = pageId ∧ page.organizationId = owner := by
          simpa using List.find?_some found
        rw [← own.2]
        exact keyed.2 row member page (List.mem_of_find?_eq_some found) (id.trans own.1.symm)
    · trivial
  | checkPageHold owner pageId =>
    simp only [advance]
    split
    · trivial
    · exact owned
  | removePage owner pageId =>
    simp only [advance, removePageStep]
    split <;> trivial
  | sweepOrganizations organizationIds =>
    cases organizationIds with
    | nil => trivial
    | cons first rest =>
      simp only [advance, sweepStep]
      split <;> trivial
  | _ => trivial

end

def GovernanceProcess.atStart : GovernanceProcess → Bool
  | passTime _ | setPolicy _ _ | requestDeletion _ | reviewDeletion _ | deleteStory _ _
  | deletePage _ _ | startSweep => true
  | _ => false

structure Beginning (system : GovernanceSystem) : Prop where
  storyIds : (system.shared.db.stories.map (·.id)).Nodup
  pageIds : (system.shared.db.landingPages.map (·.id)).Nodup
  atStart : ∀ process ∈ system.processes, process.atStart = true

/-- Every process that deletes next does so for an organization whose hold is off. -/
structure HoldKept (system : GovernanceSystem) : Prop where
  keyed : Keyed system.shared.db
  owned : ∀ process ∈ system.processes, Owned system.shared.db process
  off : ∀ process ∈ system.processes, ∀ organizationId,
    process.deletesFor = some organizationId →
    isLegalHoldEnabled system.shared.db organizationId = false

section

variable {system : GovernanceSystem} {schedule : List Nat} {index : Nat}

theorem Beginning.holdKept (beginning : Beginning system) : HoldKept system := by
  have fresh (process : GovernanceProcess) (start : process.atStart = true) :
      process.deletesFor = none ∧ Owned system.shared.db process := by
    cases process <;> first | exact ⟨rfl, trivial⟩ | cases start
  constructor
  · constructor
    · intro left inLeft right inRight same
      rw [eq_of_key beginning.storyIds inLeft inRight same]
    · intro left inLeft right inRight same
      rw [eq_of_key beginning.pageIds inLeft inRight same]
  · intro process member
    exact (fresh process (beginning.atStart process member)).2
  · intro process member organizationId deletes
    rw [(fresh process (beginning.atStart process member)).1] at deletes
    cases deletes

theorem HoldKept.turn (kept : HoldKept system) (respected : HoldRespected system index) :
    HoldKept (turn advance system index) := by
  cases there : system.processes[index]? with
  | none => rwa [turn_none there]
  | some process =>
    obtain ⟨checked, apart⟩ := respected process there
    have inSystem := List.mem_of_getElem? there
    have fewer := advance_fewer system.shared process
    have stays (organizationId : RowId) (other : GovernanceProcess)
        (member : other ∈ system.processes)
        (deletes : other.deletesFor = some organizationId) :
        isLegalHoldEnabled (advance system.shared process).1.db organizationId = false := by
      apply advance_hold (kept.off other member organizationId deletes)
      intro on
      exact apart organizationId on other member deletes
    rw [turn_some there]
    constructor
    · exact kept.keyed.fewer fewer
    · intro other member
      rcases List.mem_or_eq_of_mem_set member with old | rfl
      · exact (kept.owned other old).fewer fewer
      · exact (advance_owned kept.keyed (kept.owned process inSystem)).fewer fewer
    · intro other member organizationId deletes
      rcases List.mem_or_eq_of_mem_set member with old | rfl
      · exact stays organizationId other old deletes
      · have off : isLegalHoldEnabled system.shared.db organizationId = false := by
          rcases advance_enters deletes with through | off
          · exact checked organizationId through
          · exact off
        apply advance_hold off
        intro on
        cases process with
        | setPolicy changed value => cases deletes
        | _ => cases on

/-- Nothing is deleted under legal hold in a run in which reviews and story deletions are let
through with the hold off only, and no hold is switched on between the look at it and the
deletion. -/
theorem nothing_deleted_under_hold (beginning : Beginning system)
    (respected : Guarded (turn advance) HoldRespected system schedule) :
    NothingDeletedUnderHold system schedule := by
  intro taken member organizationId loses
  have kept : HoldKept taken.1 :=
    (trace_guarded_invariant HoldKept (fun _ _ kept respected => kept.turn respected)
      beginning.holdKept respected taken member).1
  cases there : taken.1.processes[taken.2]? with
  | none =>
    rw [turn_none there] at loses
    exact absurd loses (not_loses_of_same rfl rfl rfl)
  | some process =>
    have inSystem := List.mem_of_getElem? there
    rw [turn_some there] at loses
    exact kept.off process inSystem organizationId
      (advance_loses (kept.owned process inSystem) loses)

end

def holdOn : Json := .object [("legal_hold_enabled", .bool true)]

def holdOff : Json := .object [("legal_hold_enabled", .bool false)]

/-- A request to delete the only call, a hold that is switched on and off again, and the
review of the request. -/
def callDeletion : GovernanceSystem where
  shared := { db := { nextId := 8, calls := [{ id := 5, organizationId := 1 }] } }
  processes := [
    requestDeletion {
      organizationId := 1, userId := 2, targetType := .call, targetId := 5, reason := none },
    setPolicy 1 holdOn,
    setPolicy 1 holdOff,
    reviewDeletion { organizationId := 1, userId := 3, requestId := 8, decision := .approve }]

/-- The review waits until the hold is off again. -/
theorem call_is_deleted_after_hold :
    NothingDeletedUnderHold callDeletion [0, 0, 1, 2, 3, 3] ∧
    (run (turn advance) callDeletion [0, 0, 1, 2, 3, 3]).shared.db.calls = [] := by
  have beginning : Beginning callDeletion := ⟨by decide, by decide, by decide⟩
  exact ⟨nothing_deleted_under_hold beginning (by decide +kernel), by decide +kernel⟩

def pageDeletion : GovernanceSystem where
  shared := { db := { landingPages := [{
    id := 6, organizationId := 1, storyId := 4, createdById := 2, slug := [], title := [],
    editableBody := [] }] } }
  processes := [deletePage 1 6, setPolicy 1 holdOn]

/-- A review deletes under the hold, and so does a page deletion that has looked at it too
early. -/
theorem rows_are_deleted_under_hold :
    ¬NothingDeletedUnderHold callDeletion [0, 0, 1, 3, 3] ∧
    ¬NothingDeletedUnderHold pageDeletion [0, 0, 1, 0] := by
  constructor
  · intro nothing
    have held := nothing (run (turn advance) callDeletion [0, 0, 1, 3], 3)
      (.tail _ (.tail _ (.tail _ (.tail _ (.head _))))) 1
      (Or.inl ⟨{ id := 5, organizationId := 1 }, by decide +kernel⟩)
    revert held
    decide +kernel
  · intro nothing
    have held := nothing (run (turn advance) pageDeletion [0, 0, 1], 0)
      (.tail _ (.tail _ (.tail _ (.head _)))) 1
      (Or.inr (Or.inr ⟨{
        id := 6, organizationId := 1, storyId := 4, createdById := 2, slug := [], title := [],
        editableBody := [] }, by decide +kernel⟩))
    revert held
    decide +kernel

end StoryEngine.Governance
