import StoryEngine.Pages.Rollback

namespace StoryEngine.Pages

open Data Schema

/-! # The version history of a page

Publishing and rolling back retire the active version of a page and append the
next one.
-/

def versionHistory (db : Database) (pageId : RowId) : List PublishedArtifactVersion :=
  db.publishedArtifactVersions.filter (·.landingPageId == pageId)

def recordVersion (versions : List PublishedArtifactVersion) (retired : VersionStatus)
    (version : PublishedArtifactVersion) : List PublishedArtifactVersion :=
  updateWhere versions (·.status == .active) (retireVersion retired) ++ [version]

structure VersionHistory (versions : List PublishedArtifactVersion) : Prop where
  numbers : versions.map (·.versionNumber) = List.range' 1 versions.length
  active : ∀ version ∈ versions,
    version.status = .active ↔ version.versionNumber = versions.length
  ids : (versions.map (·.id)).Nodup

theorem VersionHistory.empty : VersionHistory [] where
  numbers := rfl
  active _ member := by cases member
  ids := List.nodup_nil

section

variable {versions : List PublishedArtifactVersion} {retired : VersionStatus}
  {version old : PublishedArtifactVersion}

theorem mem_recordVersion :
    old ∈ recordVersion versions retired version ↔
      (∃ row ∈ versions, (row.status = .active ∧ old = retireVersion retired row) ∨
        (row.status ≠ .active ∧ old = row)) ∨ old = version := by
  simp [recordVersion, mem_updateWhere]

theorem VersionHistory.number_le (history : VersionHistory versions) (member : old ∈ versions) :
    old.versionNumber ≤ versions.length := by
  have numbered : old.versionNumber ∈ List.range' 1 versions.length :=
    history.numbers ▸ List.mem_map_of_mem member
  have bounds := List.mem_range'_1.mp numbered
  omega

theorem VersionHistory.record (history : VersionHistory versions)
    (closed : retired ≠ .active) (isActive : version.status = .active)
    (number : version.versionNumber = versions.length + 1)
    (fresh : ∀ old ∈ versions, old.id ≠ version.id) :
    VersionHistory (recordVersion versions retired version) := by
  have length : (recordVersion versions retired version).length = versions.length + 1 := by
    simp [recordVersion, updateWhere]
  refine ⟨?_, ?_, ?_⟩
  · have kept : (updateWhere versions (·.status == .active) (retireVersion retired)).map
        (·.versionNumber) = versions.map (·.versionNumber) := map_updateWhere fun _ => rfl
    rw [length, recordVersion, List.map_append, kept, history.numbers, List.map_singleton, number,
      List.range'_concat]
    simp [Nat.add_comm]
  · intro row member
    rw [length]
    rcases mem_recordVersion.mp member with ⟨earlier, inOld, ⟨_, rfl⟩ | ⟨inactive, rfl⟩⟩ | rfl
    · have below := history.number_le inOld
      simp only [retireVersion, closed, false_iff]
      omega
    · have below := history.number_le inOld
      simp only [inactive, false_iff]
      omega
    · simp [isActive, number]
  · have kept : (updateWhere versions (·.status == .active) (retireVersion retired)).map (·.id) =
        versions.map (·.id) := map_updateWhere fun _ => rfl
    rw [recordVersion]
    apply nodup_map_append_fresh (kept ▸ history.ids)
    exact forall_mem_updateWhere fresh fun _ _ _ other => other

theorem recordVersion_keeps (member : old ∈ versions) (inactive : old.status ≠ .active) :
    old ∈ recordVersion versions retired version :=
  mem_recordVersion.mpr (.inl ⟨old, member, .inr ⟨inactive, rfl⟩⟩)

theorem VersionHistory.active_version (history : VersionHistory versions)
    (nonempty : versions ≠ []) :
    ∃ version, versions.filter (·.status == .active) = [version] ∧
      version.versionNumber = versions.length := by
  have numbered : versions.length ∈ versions.map (·.versionNumber) := by
    rw [history.numbers]
    have positive := List.length_pos_of_ne_nil nonempty
    exact List.mem_range'_1.mpr ⟨positive, by omega⟩
  obtain ⟨last, inLast, isLast⟩ := List.mem_map.mp numbered
  refine ⟨last, ?_, isLast⟩
  have distinct : (versions.map (·.versionNumber)).Nodup := by
    rw [history.numbers]
    exact List.nodup_range'
  have activeLast : ∀ row ∈ versions, row.status = .active ↔ row = last := by
    intro row member
    rw [history.active row member]
    constructor
    · exact fun number => List.inj_on_of_nodup_map distinct member inLast (number.trans isLast.symm)
    · rintro rfl
      exact isLast
  have single : versions.filter (·.status == .active) = versions.filter (· == last) := by
    refine List.filter_congr fun row member => ?_
    rw [Bool.eq_iff_iff, beq_iff_eq, beq_iff_eq]
    exact activeLast row member
  rw [single, List.filter_beq, List.count_eq_one_of_mem (distinct.of_map _) inLast]
  rfl

end

/-- The page has a version history, and its versions belong to its organization. -/
structure PageHistory (pageId : RowId) (db : Database) : Prop where
  history : VersionHistory (versionHistory db pageId)
  own : ∀ version ∈ versionHistory db pageId, ∃ page, findLandingPage db pageId = .ok page ∧
    version.organizationId = page.organizationId

section

variable {platform : Platform} {db next : Database} {pageId : RowId} {page : LandingPage}
  {retired : VersionStatus} {version : PublishedArtifactVersion} {action : PageAction}

theorem nextVersionNumber_eq (history : VersionHistory (versionHistory db page.id))
    (own : ∀ version ∈ versionHistory db page.id, version.organizationId = page.organizationId) :
    nextVersionNumber db page = (versionHistory db page.id).length + 1 := by
  have sameVersions : versionsOf db page = versionHistory db page.id := by
    refine List.filter_congr fun row member => ?_
    cases about : row.landingPageId == page.id with
    | false => rfl
    | true => simp [own row (List.mem_filter.mpr ⟨member, about⟩)]
  rw [nextVersionNumber, sameVersions, history.numbers]
  cases versionHistory db page.id with
  | nil => rfl
  | cons first rest =>
    have greatest : (List.range' 1 (first :: rest).length).max? = some (first :: rest).length := by
      rw [List.max?_eq_some_iff]
      refine ⟨List.mem_range'_1.mpr ⟨by simp, by omega⟩, fun number member => ?_⟩
      have bounds := List.mem_range'_1.mp member
      omega
    rw [greatest]
    rfl

theorem versionHistory_appendVersion_other (other : page.id ≠ pageId)
    (about : version.landingPageId = page.id) :
    versionHistory (appendVersion db page retired version) pageId = versionHistory db pageId := by
  simp only [versionHistory, appendVersion, List.filter_append]
  rw [filter_updateWhere]
  · simp [about, other]
  · intro row _ selected
    simp only [Bool.and_eq_true, beq_iff_eq] at selected
    simp [retireVersion, selected.1.1, other]

theorem versionHistory_appendVersion_own
    (own : ∀ version ∈ versionHistory db page.id, version.organizationId = page.organizationId)
    (about : version.landingPageId = page.id) :
    versionHistory (appendVersion db page retired version) page.id =
      recordVersion (versionHistory db page.id) retired version := by
  simp only [versionHistory, appendVersion, recordVersion, List.filter_append]
  rw [filter_updateWhere_kept]
  · congr 1
    · refine updateWhere_congr fun row member => ?_
      have about : row.landingPageId = page.id := by simpa using (List.mem_filter.mp member).2
      simp [about, own row member]
    · simp [about]
  · exact fun _ => rfl

inductive HistoryEffect (db next : Database) (pageId : RowId) : Prop where
  | unchanged (same : versionHistory next pageId = versionHistory db pageId)
  | records (page : LandingPage) (retired : VersionStatus) (version : PublishedArtifactVersion)
      (found : findLandingPage db pageId = .ok page)
      (same : (∀ old ∈ versionHistory db pageId, old.organizationId = page.organizationId) →
        versionHistory next pageId = recordVersion (versionHistory db pageId) retired version)
      (closed : retired ≠ .active) (isActive : version.status = .active)
      (number : VersionHistory (versionHistory db pageId) →
        (∀ old ∈ versionHistory db pageId, old.organizationId = page.organizationId) →
        version.versionNumber = (versionHistory db pageId).length + 1)
      (fresh : version.id = db.nextId) (organization : version.organizationId = page.organizationId)

theorem apply_history (applied : apply platform db action = .ok next) :
    HistoryEffect db next pageId := by
  cases action with
  | create input random now =>
    obtain ⟨result, created, rfl⟩ := map_eq_ok.mp applied
    obtain ⟨story, _, _, rfl⟩ := create_eq_ok.mp created
    exact .unchanged rfl
  | update editedId userId input now =>
    obtain ⟨result, updated, rfl⟩ := map_eq_ok.mp applied
    obtain ⟨existing, _, _, rfl⟩ := update_eq_ok.mp updated
    exact .unchanged (by simp [versionHistory])
  | publish publishedId options now =>
    obtain ⟨result, published, rfl⟩ := map_eq_ok.mp applied
    obtain ⟨page, scrubbed, prepared, rfl⟩ := publish_eq_ok.mp published
    obtain ⟨found, _⟩ := preparePublish_eq_ok.mp prepared
    obtain ⟨_, rfl⟩ := findLandingPage_id found
    by_cases own : page.id = pageId
    · subst own
      exact .records page .superseded _ found
        (fun ours => versionHistory_appendVersion_own ours rfl) (by decide) rfl
        (fun history ours => nextVersionNumber_eq history ours) rfl rfl
    · exact .unchanged (versionHistory_appendVersion_other own rfl)
  | unpublish hiddenId now =>
    obtain ⟨page, _, rfl⟩ := changeStatus_eq_ok.mp applied
    exact .unchanged rfl
  | archive hiddenId now =>
    obtain ⟨page, _, rfl⟩ := changeStatus_eq_ok.mp applied
    exact .unchanged rfl
  | rollbackToVersion restoredId versionId actorUserId now =>
    obtain ⟨page, version, found, _, rfl⟩ := rollback_eq_ok.mp applied
    obtain ⟨_, rfl⟩ := findLandingPage_id found
    by_cases own : page.id = pageId
    · subst own
      exact .records page .rolledBack _ found
        (fun ours => versionHistory_appendVersion_own ours rfl) (by decide) rfl
        (fun history ours => nextVersionNumber_eq history ours) rfl rfl
    · exact .unchanged (versionHistory_appendVersion_other own rfl)

theorem step_history (action : PageAction) (keyed : WellKeyed db)
    (history : PageHistory pageId db) :
    PageHistory pageId (step platform db action) ∧
      ∀ version ∈ versionHistory db pageId, version.status ≠ .active →
        version ∈ versionHistory (step platform db action) pageId := by
  rcases step_cases platform db action with applied | same
  · have effect := apply_effect applied
    have located : ∀ page, findLandingPage db pageId = .ok page → ∃ row,
        findLandingPage (step platform db action) pageId = .ok row ∧
          page.organizationId = row.organizationId := by
      intro page found
      obtain ⟨row, rowFound, same⟩ := effect.findLandingPage found
      exact ⟨row, rowFound, (identity_organizationId same).symm⟩
    have changes : HistoryEffect db (step platform db action) pageId := apply_history applied
    rcases changes with same | ⟨page, retired, version, found, same, closed, isActive, number, fresh,
      organization⟩
    · refine ⟨⟨same ▸ history.history, fun version member => ?_⟩, fun version member _ => same ▸ member⟩
      obtain ⟨page, found, organization⟩ := history.own version (same ▸ member)
      obtain ⟨row, rowFound, kept⟩ := located page found
      exact ⟨row, rowFound, organization.trans kept⟩
    · have ours : ∀ old ∈ versionHistory db pageId, old.organizationId = page.organizationId := by
        intro old member
        obtain ⟨row, rowFound, ofRow⟩ := history.own old member
        obtain rfl := Except.ok.inj (found.symm.trans rowFound)
        exact ofRow
      have unused : ∀ old ∈ versionHistory db pageId, old.id ≠ version.id := fun old member =>
        fresh ▸ Nat.ne_of_lt (keyed.freshVersions old (List.mem_filter.mp member).1)
      obtain ⟨row, rowFound, kept⟩ := located page found
      refine ⟨⟨?_, ?_⟩, ?_⟩
      · rw [same ours]
        exact history.history.record closed isActive (number history.history ours) unused
      · intro later member
        rw [same ours] at member
        refine ⟨row, rowFound, Eq.trans ?_ kept⟩
        rcases mem_recordVersion.mp member with ⟨old, inOld, ⟨_, rfl⟩ | ⟨_, rfl⟩⟩ | rfl
        · exact ours old inOld
        · exact ours later inOld
        · exact organization
      · intro old member inactive
        rw [same ours]
        exact recordVersion_keeps member inactive
  · rw [same]
    exact ⟨history, fun _ member _ => member⟩

theorem run_history (platform : Platform) (actions : List PageAction) (keyed : WellKeyed db)
    (history : PageHistory pageId db) :
    PageHistory pageId (run (step platform) db actions) ∧
      ∀ version ∈ versionHistory db pageId, version.status ≠ .active →
        version ∈ versionHistory (run (step platform) db actions) pageId := by
  induction actions generalizing db with
  | nil => exact ⟨history, fun _ member _ => member⟩
  | cons action rest ih =>
    obtain ⟨next, kept⟩ := step_history action keyed history
    obtain ⟨later, keptLater⟩ := ih (step_wellKeyed keyed) next
    exact ⟨later, fun version member inactive =>
      keptLater version (kept version member inactive) inactive⟩

end

/-- From a page without versions on, its versions are numbered without gap, the
last is the one that is active, and a version that is not active any more stays
as it is in every continuation of the run. -/
theorem versions_form_history {platform : Platform} {initial : Database} {pageId : RowId}
    (keyed : WellKeyed initial) (unversioned : versionHistory initial pageId = [])
    (before after : List PageAction) :
    (versionHistory (run (step platform) initial before) pageId).map (·.versionNumber) =
      List.range' 1 (versionHistory (run (step platform) initial before) pageId).length ∧
    (versionHistory (run (step platform) initial before) pageId ≠ [] →
      ∃ version, (versionHistory (run (step platform) initial before) pageId).filter
          (·.status == .active) = [version] ∧
        version.versionNumber =
          (versionHistory (run (step platform) initial before) pageId).length) ∧
    ∀ version ∈ versionHistory (run (step platform) initial before) pageId,
      version.status ≠ .active →
        version ∈ versionHistory (run (step platform) initial (before ++ after)) pageId ∧
        ∀ row ∈ versionHistory (run (step platform) initial (before ++ after)) pageId,
          row.id = version.id → row = version := by
  have empty : PageHistory pageId initial :=
    ⟨unversioned ▸ .empty, fun version member => by rw [unversioned] at member; cases member⟩
  obtain ⟨past, _⟩ := run_history platform before keyed empty
  have keyedPast : WellKeyed (run (step platform) initial before) := run_wellKeyed before keyed
  refine ⟨past.history.numbers, past.history.active_version, ?_⟩
  intro version member inactive
  rw [run_append]
  obtain ⟨later, kept⟩ := run_history platform after keyedPast past
  have stays := kept version member inactive
  exact ⟨stays, fun row inLater same =>
    List.inj_on_of_nodup_map later.history.ids inLater stays same⟩

theorem launch_records_active_version :
    ∃ version, (versionHistory (run (step .ascii) launchDatabase launch) 10).filter
        (·.status == .active) = [version] ∧
      version.versionNumber = (versionHistory (run (step .ascii) launchDatabase launch) 10).length :=
  (versions_form_history (NoPages.wellKeyed ⟨rfl, rfl⟩) rfl launch []).2.1
    (by rw [run_launch]; decide)

end StoryEngine.Pages
