import StoryEngine.Data.Keys
import StoryEngine.Pages.Rollback

namespace StoryEngine.Pages

open Data Schema

/-! # The publication date of a story

A story carries the date of its latest published page.  The column is computed
from the pages again by every method but the rollback.
-/

def deleteLandingPage (db : Database) (pageId : RowId) : Except EditorError Database := do
  let page ← findLandingPage db pageId
  return syncStoryPublishedAtFromLandingPages
    { db with
      landingPages := deleteWhere db.landingPages (·.id == pageId)
      landingPageEdits := deleteWhere db.landingPageEdits (·.landingPageId == pageId)
      publishedArtifactVersions :=
        deleteWhere db.publishedArtifactVersions (·.landingPageId == pageId) }
    page.storyId

inductive PageOperation where
  | method (action : PageAction)
  | delete (pageId : RowId)

def operate (platform : Platform) (db : Database) : PageOperation → Database
  | .method action => step platform db action
  | .delete pageId =>
    match deleteLandingPage db pageId with
    | .ok next => next
    | .error _ => db

def publishedPagesOf (db : Database) (storyId : RowId) : List LandingPage :=
  db.landingPages.filter fun page => page.storyId == storyId && page.status == .published

def latestPublishedAt (db : Database) (storyId : RowId) : Option Date :=
  ((publishedPagesOf db storyId).filterMap (·.publishedAt)).max?

def StoriesMirrorPages (db : Database) : Prop :=
  ∀ story ∈ db.stories, story.publishedAt = latestPublishedAt db story.id

instance (db : Database) : Decidable (StoriesMirrorPages db) :=
  inferInstanceAs (Decidable (∀ story ∈ db.stories, _))

def otherDates (db : Database) (page : LandingPage) : List Date :=
  ((publishedPagesOf db page.storyId).filter (·.id != page.id)).filterMap (·.publishedAt)

/-- The date of the rolled back page changes nothing for its story: it has this
date already, as the clock stands still or another page has a later one. -/
def KeepsStoryDate (db : Database) : PageOperation → Prop
  | .method (.rollbackToVersion pageId versionId _ now) =>
    ∀ page version, findLandingPage db pageId = .ok page →
      findVersion db page versionId = some version →
        ∀ story ∈ db.stories, story.id = page.storyId →
          story.publishedAt = (now :: otherDates db page).max?
  | _ => True

section

variable {platform : Platform} {db next : Database} {page : LandingPage} {storyId : RowId}
  {change : LandingPage → LandingPage}

theorem max?_congr {left right : List Date} (same : ∀ date, date ∈ left ↔ date ∈ right) :
    left.max? = right.max? := by
  cases latest : right.max? with
  | none =>
    obtain rfl := List.max?_eq_none_iff.mp latest
    have empty : left = [] := List.eq_nil_iff_forall_not_mem.mpr fun date member => by
      simpa using (same date).mp member
    rw [empty]
    rfl
  | some date =>
    obtain ⟨member, greatest⟩ := List.max?_eq_some_iff.mp latest
    refine List.max?_eq_some_iff.mpr ⟨(same date).mpr member, fun other inOther => ?_⟩
    exact greatest other ((same other).mp inOther)

theorem latestPublishedAt_congr (pages : next.landingPages = db.landingPages) :
    latestPublishedAt next storyId = latestPublishedAt db storyId := by
  rw [latestPublishedAt, publishedPagesOf, pages]
  rfl

theorem mirrors_congr (mirrors : StoriesMirrorPages db) (stories : next.stories = db.stories)
    (same : ∀ story ∈ db.stories, latestPublishedAt next story.id = latestPublishedAt db story.id) :
    StoriesMirrorPages next := by
  intro story member
  rw [stories] at member
  rw [same story member]
  exact mirrors story member

theorem sync_mirrors (others : ∀ story ∈ db.stories, story.id ≠ storyId →
      story.publishedAt = latestPublishedAt db story.id) :
    StoriesMirrorPages (syncStoryPublishedAtFromLandingPages db storyId) := by
  intro story member
  rw [latestPublishedAt_congr (syncStory_pages db storyId)]
  obtain ⟨old, inOld, ⟨selected, rfl⟩ | ⟨unselected, rfl⟩⟩ := mem_updateWhere.mp member
  · obtain rfl : old.id = storyId := by simpa using selected
    rfl
  · exact others story inOld (by simpa using unselected)

theorem latestPublishedAt_kept {selects : LandingPage → Bool}
    (pages : next.landingPages = updateWhere db.landingPages selects change)
    (story : ∀ row, (change row).storyId = row.storyId)
    (status : ∀ row, (change row).status = row.status)
    (date : ∀ row, (change row).publishedAt = row.publishedAt) :
    latestPublishedAt next storyId = latestPublishedAt db storyId := by
  rw [latestPublishedAt, publishedPagesOf, pages, filter_updateWhere_kept]
  · rw [filterMap_updateWhere date]
    rfl
  · intro row
    rw [story row, status row]

theorem latestPublishedAt_other (keyed : WellKeyed db) (known : page ∈ db.landingPages)
    (pages : next.landingPages = updateWhere db.landingPages (·.id == page.id) change)
    (story : ∀ row, (change row).storyId = row.storyId) (other : storyId ≠ page.storyId) :
    latestPublishedAt next storyId = latestPublishedAt db storyId := by
  rw [latestPublishedAt, publishedPagesOf, pages, filter_updateWhere]
  · rfl
  · intro row member selected
    obtain rfl := List.inj_on_of_nodup_map keyed.distinctIds member known (by simpa using selected)
    simp [story row, Ne.symm other]

theorem changed_mirrors (keyed : WellKeyed db) (mirrors : StoriesMirrorPages db)
    (known : page ∈ db.landingPages)
    (pages : next.landingPages = updateWhere db.landingPages (·.id == page.id) change)
    (story : ∀ row, (change row).storyId = row.storyId) (stories : next.stories = db.stories) :
    StoriesMirrorPages (syncStoryPublishedAtFromLandingPages next page.storyId) := by
  refine sync_mirrors fun row member other => ?_
  rw [latestPublishedAt_other keyed known pages story other]
  exact mirrors row (stories ▸ member)

variable {now : Date} {pageId : RowId}

theorem latestPublishedAt_dated (known : page ∈ db.landingPages)
    (pages : next.landingPages = updateWhere db.landingPages (·.id == page.id) change)
    (story : ∀ row, (change row).storyId = row.storyId)
    (status : ∀ row, (change row).status = .published)
    (dated : ∀ row, (change row).publishedAt = some now) :
    latestPublishedAt next page.storyId = (now :: otherDates db page).max? := by
  refine max?_congr fun date => ?_
  simp only [publishedPagesOf, pages, List.mem_filterMap, List.mem_filter, Bool.and_eq_true,
    beq_iff_eq, List.mem_cons, otherDates, bne_iff_ne]
  constructor
  · rintro ⟨row, ⟨member, ofStory, isPublished⟩, rowDate⟩
    obtain ⟨old, inOld, ⟨_, rfl⟩ | ⟨unselected, rfl⟩⟩ := mem_updateWhere.mp member
    · rw [dated old] at rowDate
      exact .inl (Option.some.inj rowDate).symm
    · exact .inr ⟨row, ⟨⟨inOld, ofStory, isPublished⟩, by simpa using unselected⟩, rowDate⟩
  · rintro (rfl | ⟨row, ⟨⟨member, ofStory, isPublished⟩, other⟩, rowDate⟩)
    · refine ⟨change page, ⟨mem_updateWhere.mpr ⟨page, known, .inl ⟨by simp, rfl⟩⟩, story page,
        status page⟩, dated page⟩
    · exact ⟨row, ⟨mem_updateWhere.mpr ⟨row, member, .inr ⟨by simpa using other, rfl⟩⟩, ofStory,
        isPublished⟩, rowDate⟩

theorem create_mirrors {input : CreateLandingPageInput} {random : SlugSuffixes}
    {result : Database × RowId} (mirrors : StoriesMirrorPages db)
    (created : create platform db input random now = .ok result) : StoriesMirrorPages result.1 := by
  obtain ⟨story, _, _, rfl⟩ := create_eq_ok.mp created
  refine mirrors_congr mirrors rfl fun row _ => ?_
  simp [latestPublishedAt, publishedPagesOf, newLandingPage]

theorem update_mirrors {userId : RowId} {input : UpdateLandingPageInput}
    {result : Database × Date} (mirrors : StoriesMirrorPages db)
    (updated : update db pageId userId input now = .ok result) : StoriesMirrorPages result.1 := by
  obtain ⟨existing, _, _, rfl⟩ := update_eq_ok.mp updated
  refine mirrors_congr mirrors (recordEdit_stories _ _ _ _) fun row _ => ?_
  exact latestPublishedAt_kept (recordEdit_pages _ _ _ _) (fun _ => rfl) (fun _ => rfl)
    fun _ => rfl

theorem publish_mirrors {options : PublishOptions}
    {result : Database × PublishReceipt} (keyed : WellKeyed db) (mirrors : StoriesMirrorPages db)
    (published : publish platform db pageId options now = .ok result) :
    StoriesMirrorPages result.1 := by
  obtain ⟨page, scrubbed, prepared, rfl⟩ := publish_eq_ok.mp published
  obtain ⟨known, _⟩ := findLandingPage_id (preparePublish_eq_ok.mp prepared).1
  have synced : StoriesMirrorPages (publishedTables platform db page scrubbed options now) :=
    changed_mirrors keyed mirrors known
      (updateLandingPage_pages db page.id (publishData platform scrubbed options now))
      (fun _ => rfl) rfl
  exact mirrors_congr synced rfl fun row _ => latestPublishedAt_congr rfl

theorem changeStatus_mirrors (keyed : WellKeyed db)
    (mirrors : StoriesMirrorPages db) (changed : changeStatus db pageId change = .ok next)
    (story : ∀ row, (change row).storyId = row.storyId) : StoriesMirrorPages next := by
  obtain ⟨page, found, rfl⟩ := changeStatus_eq_ok.mp changed
  obtain ⟨known, rfl⟩ := findLandingPage_id found
  exact changed_mirrors keyed mirrors known (updateLandingPage_pages db page.id change) story rfl

theorem delete_mirrors (keyed : WellKeyed db) (mirrors : StoriesMirrorPages db)
    (deleted : deleteLandingPage db pageId = .ok next) : StoriesMirrorPages next := by
  simp only [deleteLandingPage, bind_eq_ok, pure_eq_ok] at deleted
  obtain ⟨page, found, rfl⟩ := deleted
  obtain ⟨known, rfl⟩ := findLandingPage_id found
  refine sync_mirrors fun story member other => ?_
  have same : (deleteWhere db.landingPages (·.id == page.id)).filter (fun row =>
      row.storyId == story.id && row.status == .published) = publishedPagesOf db story.id := by
    refine filter_deleteWhere fun row inTable selected => ?_
    obtain rfl :=
      List.inj_on_of_nodup_map keyed.distinctIds inTable known (by simpa using selected)
    simp [Ne.symm other]
  rw [mirrors story member, latestPublishedAt, latestPublishedAt, ← same]
  rfl

theorem rollback_mirrors_iff {versionId actorUserId : RowId}
    (keyed : WellKeyed db) (mirrors : StoriesMirrorPages db) :
    StoriesMirrorPages (step platform db (.rollbackToVersion pageId versionId actorUserId now)) ↔
      KeepsStoryDate db (.method (.rollbackToVersion pageId versionId actorUserId now)) := by
  simp only [step, apply]
  split
  · rename_i next rolledBack
    obtain ⟨page, version, found, inVersions, rfl⟩ := rollback_eq_ok.mp rolledBack
    obtain ⟨known, rfl⟩ := findLandingPage_id found
    have pages := updateLandingPage_pages db page.id (rollbackData version now)
    have dated := latestPublishedAt_dated known pages (fun _ => rfl) (fun _ => rfl) fun _ => rfl
    constructor
    · intro mirrored other otherVersion otherFound _ story member ofPage
      obtain rfl := Except.ok.inj (found.symm.trans otherFound)
      rw [← dated, ← ofPage]
      exact mirrored story member
    · intro keeps story member
      by_cases ofPage : story.id = page.storyId
      · rw [keeps page version found inVersions story member ofPage, ofPage, ← dated]
        rfl
      · rw [mirrors story member]
        exact (latestPublishedAt_other keyed known pages (fun _ => rfl) ofPage).symm
  · rename_i failure refused
    refine iff_of_true mirrors fun page version found inVersions => ?_
    have rolledBack : rollbackLandingPageToVersion db pageId versionId actorUserId now = .ok _ :=
      rollback_eq_ok.mpr ⟨page, version, found, inVersions, rfl⟩
    rw [refused] at rolledBack
    cases rolledBack

theorem operate_mirrors_iff (platform : Platform) (operation : PageOperation)
    (keyed : WellKeyed db) (mirrors : StoriesMirrorPages db) :
    StoriesMirrorPages (operate platform db operation) ↔ KeepsStoryDate db operation := by
  have kept {action : PageAction}
      (writes : ∀ next, apply platform db action = .ok next → StoriesMirrorPages next) :
      StoriesMirrorPages (step platform db action) := by
    rcases step_cases platform db action with applied | same
    · exact writes _ applied
    · rwa [same]
  cases operation with
  | delete pageId =>
    refine iff_of_true ?_ trivial
    simp only [operate]
    split
    · rename_i next deleted
      exact delete_mirrors keyed mirrors deleted
    · exact mirrors
  | method action =>
    cases action with
    | create input random now =>
      refine iff_of_true (kept fun next applied => ?_) trivial
      obtain ⟨result, created, rfl⟩ := map_eq_ok.mp applied
      exact create_mirrors mirrors created
    | update pageId userId input now =>
      refine iff_of_true (kept fun next applied => ?_) trivial
      obtain ⟨result, updated, rfl⟩ := map_eq_ok.mp applied
      exact update_mirrors mirrors updated
    | publish pageId options now =>
      refine iff_of_true (kept fun next applied => ?_) trivial
      obtain ⟨result, published, rfl⟩ := map_eq_ok.mp applied
      exact publish_mirrors keyed mirrors published
    | unpublish pageId now =>
      exact iff_of_true (kept fun next applied =>
        changeStatus_mirrors keyed mirrors applied fun _ => rfl) trivial
    | archive pageId now =>
      exact iff_of_true (kept fun next applied =>
        changeStatus_mirrors keyed mirrors applied fun _ => rfl) trivial
    | rollbackToVersion pageId versionId actorUserId now =>
      exact rollback_mirrors_iff keyed mirrors

theorem operate_wellKeyed (db : Database) (operation : PageOperation) (keyed : WellKeyed db) :
    WellKeyed (operate platform db operation) := by
  cases operation with
  | method action => exact step_wellKeyed keyed
  | delete pageId =>
    simp only [operate]
    split
    · rename_i next deleted
      simp only [deleteLandingPage, bind_eq_ok, pure_eq_ok] at deleted
      obtain ⟨page, _, rfl⟩ := deleted
      exact {
        distinctIds := nodup_deleteWhere keyed.distinctIds
        distinctSlugs := nodup_deleteWhere keyed.distinctSlugs
        freshPages := fun row member => keyed.freshPages row (mem_deleteWhere.mp member).1
        freshVersions := fun row member => keyed.freshVersions row (mem_deleteWhere.mp member).1
        versionPages := fun row member => keyed.versionPages row (mem_deleteWhere.mp member).1 }
    · exact keyed

end

/-- In every run of page operations the stories mirror their pages after each of
them exactly when every rollback meets a story that has the new date already. -/
theorem stories_mirror_iff {platform : Platform} {initial : Database}
    {operations : List PageOperation} (keyed : WellKeyed initial)
    (mirrors : StoriesMirrorPages initial) :
    (∀ taken ∈ trace (operate platform) initial operations,
      StoriesMirrorPages (operate platform taken.1 taken.2)) ↔
      Guarded (operate platform) KeepsStoryDate initial operations :=
  (guarded_iff_trace WellKeyed StoriesMirrorPages operate_wellKeyed
    (fun _ operation keyed mirrors => operate_mirrors_iff platform operation keyed mirrors)
    keyed mirrors).symm

theorem launch_mirrors :
    StoriesMirrorPages launchDatabase ∧
      ∀ taken ∈ trace (operate .ascii) launchDatabase (launch.map .method),
        StoriesMirrorPages (operate .ascii taken.1 taken.2) :=
  ⟨by decide, (stories_mirror_iff (NoPages.wellKeyed ⟨rfl, rfl⟩) (by decide)).mpr
    (guarded_cons.mpr ⟨trivial, guarded_cons.mpr ⟨trivial, guarded_nil _ _ _⟩⟩)⟩

/-- A rollback dates its page, and leaves the story with the date of the publish. -/
theorem rollback_leaves_story_date :
    StoriesMirrorPages launchedDatabase ∧
      ¬StoriesMirrorPages (operate .ascii launchedDatabase
        (.method (.rollbackToVersion 10 11 3 5))) := by
  decide

end StoryEngine.Pages
