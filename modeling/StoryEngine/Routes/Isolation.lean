import StoryEngine.Routes.Effects

namespace StoryEngine.Routes

open Data Schema Access Approval Pages

/-! # Tenant isolation of the landing-page routes -/

/-- The pages, versions and stories of an organization are the same. -/
structure SameTenant (organizationId : RowId) (before after : Database) : Prop where
  pages : after.landingPages.filter (·.organizationId == organizationId) =
    before.landingPages.filter (·.organizationId == organizationId)
  versions : after.publishedArtifactVersions.filter (·.organizationId == organizationId) =
    before.publishedArtifactVersions.filter (·.organizationId == organizationId)
  stories : after.stories.filter (·.organizationId == organizationId) =
    before.stories.filter (·.organizationId == organizationId)

theorem SameTenant.refl (organizationId : RowId) (db : Database) :
    SameTenant organizationId db db := ⟨rfl, rfl, rfl⟩

structure TenantConsistent (db : Database) : Prop where
  keyed : WellKeyed db
  distinctStories : (db.stories.map (·.id)).Nodup
  storyOwners : ∀ page ∈ db.landingPages, ∀ story ∈ db.stories, story.id = page.storyId →
    story.organizationId = page.organizationId

def storyOwner (story : Story) : RowId × RowId := (story.id, story.organizationId)

section

variable {db next : Database} {page : LandingPage} {pageId other : RowId}

private theorem updateLandingPage_tenant {change : LandingPage → LandingPage}
    (kept : ∀ row, LandingPage.identity (change row) = LandingPage.identity row)
    (foreign : ∀ row ∈ db.landingPages, row.id = pageId → row.organizationId ≠ other) :
    (updateLandingPage db pageId change).landingPages.filter (·.organizationId == other) =
      db.landingPages.filter (·.organizationId == other) := by
  refine filter_updateWhere fun row member selected => ?_
  have outside := foreign row member (by simpa using selected)
  exact ⟨by simpa using outside, by rw [identity_organizationId (kept row)]; simpa using outside⟩

private theorem appendVersion_tenant {retired : VersionStatus} {version : PublishedArtifactVersion}
    (about : version.organizationId = page.organizationId)
    (foreign : page.organizationId ≠ other) :
    (appendVersion db page retired version).publishedArtifactVersions.filter
        (·.organizationId == other) =
      db.publishedArtifactVersions.filter (·.organizationId == other) := by
  have appended : (version.organizationId == other) = false := by
    rw [about]
    simpa using foreign
  simp only [appendVersion, List.filter_append, List.filter_cons, appended, Bool.false_eq_true,
    if_false, List.filter_nil, List.append_nil]
  refine filter_updateWhere fun old _ selected => ?_
  simp only [Bool.and_eq_true, beq_iff_eq] at selected
  have outside : (old.organizationId == other) = false := by
    rw [selected.1.2]
    simpa using foreign
  exact ⟨outside, outside⟩

private theorem syncStory_tenant {storyId : RowId}
    (foreign : ∀ story ∈ db.stories, story.id = storyId → story.organizationId ≠ other) :
    (syncStoryPublishedAtFromLandingPages db storyId).stories.filter (·.organizationId == other) =
      db.stories.filter (·.organizationId == other) := by
  refine filter_updateWhere fun story member selected => ?_
  have outside := foreign story member (by simpa using selected)
  exact ⟨by simpa using outside, by simpa using outside⟩

private theorem syncStory_owners (storyId : RowId) :
    (syncStoryPublishedAtFromLandingPages db storyId).stories.map storyOwner =
      db.stories.map storyOwner :=
  map_updateWhere fun _ => rfl

/-- The action works on a page of the organization, or creates one there. -/
def ActsFor (organizationId : RowId) (db : Database) : PageAction → Prop
  | .create input _ _ => input.organizationId = organizationId
  | .update pageId _ _ _ | .publish pageId _ _ | .unpublish pageId _ | .archive pageId _
  | .rollbackToVersion pageId _ _ _ =>
    ∀ page, findLandingPage db pageId = .ok page → page.organizationId = organizationId

variable {own : RowId} {action : PageAction}

private theorem own_rows (keyed : WellKeyed db) (different : other ≠ own)
    (found : findLandingPage db pageId = .ok page) (isOwn : page.organizationId = own) :
    ∀ row ∈ db.landingPages, row.id = pageId → row.organizationId ≠ other := by
  intro row member rowKey
  obtain ⟨inTable, pageKey⟩ := findLandingPage_id found
  obtain rfl : row = page :=
    List.inj_on_of_nodup_map keyed.distinctIds member inTable (rowKey.trans pageKey.symm)
  rw [isOwn]
  exact different.symm

private theorem own_story (consistent : TenantConsistent db) (different : other ≠ own)
    (found : findLandingPage db pageId = .ok page) (isOwn : page.organizationId = own) :
    ∀ story ∈ db.stories, story.id = page.storyId → story.organizationId ≠ other := by
  intro story member key
  rw [consistent.storyOwners page (findLandingPage_id found).1 story member key, isOwn]
  exact different.symm

theorem apply_sameTenant {platform : Platform}
    (consistent : TenantConsistent db) (acts : ActsFor own db action) (different : other ≠ own)
    (applied : apply platform db action = .ok next) : SameTenant other db next := by
  cases action with
  | create input random now =>
    obtain ⟨result, created, rfl⟩ := map_eq_ok.mp applied
    obtain ⟨story, _, _, rfl⟩ := create_eq_ok.mp created
    have appended : ((newLandingPage platform db input story random now).organizationId ==
        other) = false := by
      have outside : input.organizationId ≠ other := by
        rw [show input.organizationId = own from acts]
        exact different.symm
      simpa [newLandingPage] using outside
    exact ⟨by simp [List.filter_append, appended], rfl, rfl⟩
  | update pageId userId input now =>
    obtain ⟨result, updated, rfl⟩ := map_eq_ok.mp applied
    obtain ⟨existing, found, _, rfl⟩ := update_eq_ok.mp updated
    have rows := own_rows consistent.keyed different found (acts existing found)
    have pages := updateLandingPage_tenant (fun _ => rfl : ∀ row,
      LandingPage.identity (pageUpdateData input now row) = LandingPage.identity row) rows
    exact ⟨by simpa using pages, by simp, by simp [updateLandingPage]⟩
  | publish pageId options now =>
    obtain ⟨result, published, rfl⟩ := map_eq_ok.mp applied
    obtain ⟨page, scrubbed, prepared, rfl⟩ := publish_eq_ok.mp published
    obtain ⟨found, _⟩ := preparePublish_eq_ok.mp prepared
    obtain rfl := (findLandingPage_id found).2
    have isOwn := acts page found
    have rows := own_rows consistent.keyed different found isOwn
    have foreign : page.organizationId ≠ other := by
      rw [isOwn]
      exact different.symm
    have storyRows := own_story consistent different found isOwn
    exact ⟨updateLandingPage_tenant (fun _ => rfl) rows, appendVersion_tenant rfl foreign,
      syncStory_tenant storyRows⟩
  | unpublish pageId now =>
    obtain ⟨page, found, rfl⟩ := changeStatus_eq_ok.mp applied
    have rows := own_rows consistent.keyed different found (acts page found)
    have storyRows := own_story consistent different found (acts page found)
    exact ⟨updateLandingPage_tenant (fun _ => rfl) rows, rfl, syncStory_tenant storyRows⟩
  | archive pageId now =>
    obtain ⟨page, found, rfl⟩ := changeStatus_eq_ok.mp applied
    have rows := own_rows consistent.keyed different found (acts page found)
    have storyRows := own_story consistent different found (acts page found)
    exact ⟨updateLandingPage_tenant (fun _ => rfl) rows, rfl, syncStory_tenant storyRows⟩
  | rollbackToVersion pageId versionId actorUserId now =>
    obtain ⟨page, version, found, _, rfl⟩ := rollback_eq_ok.mp applied
    have isOwn := acts page found
    have foreign : page.organizationId ≠ other := by
      rw [isOwn]
      exact different.symm
    exact ⟨updateLandingPage_tenant (fun _ => rfl)
      (own_rows consistent.keyed different found isOwn), appendVersion_tenant rfl foreign, rfl⟩

theorem apply_storyOwners {platform : Platform}
    (applied : apply platform db action = .ok next) :
    next.stories.map storyOwner = db.stories.map storyOwner := by
  cases action with
  | create input random now =>
    obtain ⟨result, created, rfl⟩ := map_eq_ok.mp applied
    obtain ⟨story, _, _, rfl⟩ := create_eq_ok.mp created
    rfl
  | update pageId userId input now =>
    obtain ⟨result, updated, rfl⟩ := map_eq_ok.mp applied
    obtain ⟨existing, _, _, rfl⟩ := update_eq_ok.mp updated
    simp [updateLandingPage]
  | publish pageId options now =>
    obtain ⟨result, published, rfl⟩ := map_eq_ok.mp applied
    obtain ⟨page, scrubbed, _, rfl⟩ := publish_eq_ok.mp published
    exact syncStory_owners page.storyId
  | unpublish pageId now =>
    obtain ⟨page, _, rfl⟩ := changeStatus_eq_ok.mp applied
    exact syncStory_owners page.storyId
  | archive pageId now =>
    obtain ⟨page, _, rfl⟩ := changeStatus_eq_ok.mp applied
    exact syncStory_owners page.storyId
  | rollbackToVersion pageId versionId actorUserId now =>
    obtain ⟨page, version, _, _, rfl⟩ := rollback_eq_ok.mp applied
    rfl

/-- The story of a page that is created belongs to the page's organization. -/
def StoryOwned (db : Database) : PageAction → Prop
  | .create input _ _ => ∀ story ∈ db.stories, story.id = input.storyId →
      story.organizationId = input.organizationId
  | _ => True

theorem apply_tenantConsistent {platform : Platform}
    (consistent : TenantConsistent db) (owned : StoryOwned db action)
    (applied : apply platform db action = .ok next) : TenantConsistent next := by
  have owners := apply_storyOwners applied
  have effect := apply_effect applied
  have distinct : (next.stories.map (·.id)).Nodup := by
    have ids := congrArg (List.map Prod.fst) owners
    simp only [List.map_map] at ids
    exact (show next.stories.map (·.id) = db.stories.map (·.id) from ids) ▸
      consistent.distinctStories
  refine ⟨effect.wellKeyed consistent.keyed, distinct, fun page member story inStories key => ?_⟩
  obtain ⟨old, inOld, sameOwner⟩ : ∃ old ∈ db.stories, storyOwner old = storyOwner story :=
    List.mem_map.mp (owners ▸ List.mem_map_of_mem inStories)
  have oldKey : old.id = page.storyId := (congrArg Prod.fst sameOwner).trans key
  rw [← show old.organizationId = story.organizationId from congrArg Prod.snd sameOwner]
  have rewritten (otherId : RowId) (change : LandingPage → LandingPage)
      (kept : ∀ row, LandingPage.identity (change row) = LandingPage.identity row)
      (inRewritten : page ∈ updateWhere db.landingPages (·.id == otherId) change) :
      old.organizationId = page.organizationId := by
    obtain ⟨row, inTable, ⟨_, rfl⟩ | ⟨_, rfl⟩⟩ := mem_updateWhere.mp inRewritten
    · rw [identity_storyId (kept row)] at oldKey
      rw [identity_organizationId (kept row)]
      exact consistent.storyOwners row inTable old inOld oldKey
    · exact consistent.storyOwners page inTable old inOld oldKey
  cases action with
  | create input random now =>
    obtain ⟨result, created, rfl⟩ := map_eq_ok.mp applied
    obtain ⟨source, _, _, rfl⟩ := create_eq_ok.mp created
    rcases List.mem_append.mp member with inPages | isNew
    · exact consistent.storyOwners page inPages old inOld oldKey
    · obtain rfl := List.mem_singleton.mp isNew
      exact owned old inOld oldKey
  | update pageId userId input now =>
    obtain ⟨result, updated, rfl⟩ := map_eq_ok.mp applied
    obtain ⟨existing, _, _, rfl⟩ := update_eq_ok.mp updated
    rw [recordEdit_pages] at member
    exact rewritten pageId (pageUpdateData input now) (fun _ => rfl) member
  | publish pageId options now =>
    obtain ⟨result, published, rfl⟩ := map_eq_ok.mp applied
    obtain ⟨source, scrubbed, _, rfl⟩ := publish_eq_ok.mp published
    exact rewritten source.id (publishData platform scrubbed options now) (fun _ => rfl) member
  | unpublish pageId now =>
    obtain ⟨source, _, rfl⟩ := changeStatus_eq_ok.mp applied
    exact rewritten pageId (unpublishData now) (fun _ => rfl) member
  | archive pageId now =>
    obtain ⟨source, _, rfl⟩ := changeStatus_eq_ok.mp applied
    exact rewritten pageId (archiveData now) (fun _ => rfl) member
  | rollbackToVersion pageId versionId actorUserId now =>
    obtain ⟨source, version, _, _, rfl⟩ := rollback_eq_ok.mp applied
    exact rewritten pageId (rollbackData version now) (fun _ => rfl) member

end

theorem SameTables.sameTenant {before after : Database} (same : SameTables before after)
    (organizationId : RowId) : SameTenant organizationId before after :=
  ⟨by rw [same.pages], by rw [same.versions], by rw [same.stories]⟩

theorem SameTables.tenantConsistent {before after : Database} (same : SameTables before after)
    (consistent : TenantConsistent before) : TenantConsistent after := by
  refine ⟨same.wellKeyed consistent.keyed, ?_, ?_⟩
  · rw [same.stories]
    exact consistent.distinctStories
  · rw [same.pages, same.stories]
    exact consistent.storyOwners

def PageRequest.editedPage : PageRequest → Option RowId
  | .editData pageId | .update pageId _ | .publish pageId _ | .rollback pageId _
  | .unpublish pageId | .archive pageId => some pageId
  | .create _ _ | .schedulePublish _ _ _ => none

def guards (db : Database) (caller : Caller) : PageRequest → Except HttpFailure Unit
  | .create _ _ => requirePermission db .create caller
  | .publish _ _ | .rollback _ _ => requirePermission db .publish caller
  | .editData pageId | .update pageId _ | .unpublish pageId | .archive pageId =>
    requirePageOwnerOrPermission db caller pageId
  | .schedulePublish pageId _ _ => do
      let _ ← requirePermission db .publish caller
      requirePageOwnerOrPermission db caller pageId

/-- Where the middleware lets the caller through, the page that the request
names is absent or belongs to the caller's organization. -/
def TargetsOwnPage (db : Database) (http : HttpRequest) : Prop :=
  ∀ pageId page, http.request.editedPage = some pageId →
    guards db http.caller http.request = .ok ⟨⟩ → findLandingPage db pageId = .ok page →
    page.organizationId = http.caller.organizationId

section

variable {platform : Platform} {db : Database} {http : HttpRequest}

variable {action : PageAction}

private theorem realizes_actsFor (targets : TargetsOwnPage db http)
    (realizes : Realizes db http.caller http.now http.request action) :
    ActsFor http.caller.organizationId db action := by
  obtain ⟨caller, request, now⟩ := http
  cases realizes with
  | create found storyId organization => exact organization
  | update allowed => exact fun page found => targets _ page rfl allowed found
  | publish allowed free => exact fun page found => targets _ page rfl allowed found
  | rollback allowed => exact fun page found => targets _ page rfl allowed found
  | unpublish allowed => exact fun page found => targets _ page rfl allowed found
  | archive allowed => exact fun page found => targets _ page rfl allowed found

private theorem realizes_storyOwned (consistent : TenantConsistent db)
    (realizes : Realizes db http.caller http.now http.request action) : StoryOwned db action := by
  obtain ⟨caller, request, now⟩ := http
  cases realizes with
  | create found storyId organization =>
    intro story member key
    have criteria := List.find?_some found
    simp only [Bool.and_eq_true, beq_iff_eq] at criteria
    obtain rfl := List.inj_on_of_nodup_map consistent.distinctStories member
      (List.mem_of_find?_eq_some found) (key.trans (storyId.trans criteria.1.symm))
    exact criteria.2.trans organization.symm
  | update allowed => trivial
  | publish allowed free => trivial
  | rollback allowed => trivial
  | unpublish allowed => trivial
  | archive allowed => trivial

theorem serve_tenantConsistent (consistent : TenantConsistent db) :
    TenantConsistent (serve platform db http) := by
  unfold serve
  split
  · rename_i response next handled
    rcases handle_ok handled with same | ⟨action, written, realizes, applied, same⟩
    · exact same.tenantConsistent consistent
    · exact same.tenantConsistent
        (apply_tenantConsistent consistent (realizes_storyOwned consistent realizes) applied)
  · exact consistent

theorem serve_sameTenant {other : RowId} (consistent : TenantConsistent db)
    (targets : TargetsOwnPage db http) (different : other ≠ http.caller.organizationId) :
    SameTenant other db (serve platform db http) := by
  unfold serve
  split
  · rename_i response next handled
    rcases handle_ok handled with same | ⟨action, written, realizes, applied, same⟩
    · exact same.sameTenant other
    · have kept := apply_sameTenant consistent (realizes_actsFor targets realizes) different applied
      exact ⟨by rw [same.pages, kept.pages], by rw [same.versions, kept.versions],
        by rw [same.stories, kept.stories]⟩
  · exact .refl other db

end

/-- Two databases that differ in the pages of one organization only. -/
structure DiffersOnPagesOf (organizationId : RowId) (left right : Database) : Prop where
  tables : right = { left with landingPages := right.landingPages }
  pages : right.landingPages.filter (·.organizationId != organizationId) =
    left.landingPages.filter (·.organizationId != organizationId)

section

variable {platform : Platform} {left right : Database} {organizationId : RowId}

theorem DiffersOnPagesOf.symm (differs : DiffersOnPagesOf organizationId left right) :
    DiffersOnPagesOf organizationId right left := by
  refine ⟨?_, differs.pages.symm⟩
  rw [differs.tables]

private theorem findPageForOrg_differs {pageId own : RowId} (different : organizationId ≠ own)
    (differs : DiffersOnPagesOf organizationId left right) :
    findPageForOrg right pageId own = findPageForOrg left pageId own := by
  have narrowed (rows : List LandingPage) :
      rows.find? (fun page => page.id == pageId && page.organizationId == own) =
        (rows.filter (·.organizationId != organizationId)).find?
          (fun page => page.id == pageId && page.organizationId == own) := by
    rw [List.find?_filter]
    congr 1
    funext page
    by_cases same : page.organizationId = own
    · have kept : (page.organizationId != organizationId) = true := by
        rw [same]
        simpa using different.symm
      rw [kept]
      exact Bool.eq_iff_iff.mpr (by simp)
    · simp [same]
  unfold findPageForOrg
  rw [narrowed right.landingPages, differs.pages, ← narrowed left.landingPages]

private theorem findLandingPage_differs {pageId : RowId} {page : LandingPage}
    (keyed : WellKeyed right) (differs : DiffersOnPagesOf organizationId left right)
    (found : findLandingPage left pageId = .ok page)
    (outside : page.organizationId ≠ organizationId) :
    findLandingPage right pageId = .ok page := by
  obtain ⟨member, key⟩ := findLandingPage_id found
  have inRight : page ∈ right.landingPages := by
    have kept : page ∈ left.landingPages.filter (·.organizationId != organizationId) :=
      List.mem_filter.mpr ⟨member, by simpa using outside⟩
    exact (List.mem_filter.mp (differs.pages ▸ kept)).1
  exact findLandingPage_eq_ok.mpr ((find?_key_eq_some keyed.distinctIds).mpr ⟨inRight, key⟩)

theorem editData_independent {caller : Caller} {now : Date} {pageId : RowId}
    (keyedLeft : WellKeyed left) (keyedRight : WellKeyed right)
    (different : organizationId ≠ caller.organizationId)
    (differs : DiffersOnPagesOf organizationId left right)
    (targetsLeft : TargetsOwnPage left { caller, request := .editData pageId, now })
    (targetsRight : TargetsOwnPage right { caller, request := .editData pageId, now }) :
    respond platform right { caller, request := .editData pageId, now } =
      respond platform left { caller, request := .editData pageId, now } := by
  have guardSame : requirePageOwnerOrPermission right caller pageId =
      requirePageOwnerOrPermission left caller pageId := by
    unfold requirePageOwnerOrPermission
    rw [findPageForOrg_differs different differs, differs.tables]
    rfl
  have pageSame (allowed : requirePageOwnerOrPermission left caller pageId = .ok ⟨⟩) :
      findLandingPage right pageId = findLandingPage left pageId := by
    cases found : findLandingPage left pageId with
    | ok page =>
      have own := targetsLeft pageId page rfl allowed found
      exact findLandingPage_differs keyedRight differs found (own ▸ different.symm)
    | error failure =>
      cases foundRight : findLandingPage right pageId with
      | ok page =>
        have own := targetsRight pageId page rfl (guardSame.trans allowed) foundRight
        have inLeft := findLandingPage_differs keyedLeft differs.symm foundRight
          (own ▸ different.symm)
        rw [found] at inLeft
        cases inLeft
      | error other =>
        rw [findLandingPage_eq_error found, findLandingPage_eq_error foundRight]
  have handlerSame : editDataRoute right caller pageId = editDataRoute left caller pageId := by
    unfold editDataRoute
    rw [guardSame]
    cases allowed : requirePageOwnerOrPermission left caller pageId with
    | error refused => rfl
    | ok value =>
      simp only [getForEditing, pageSame allowed]
      rw [differs.tables]
      rfl
  have enabledSame : requireLandingPagesEnabled right caller =
      requireLandingPagesEnabled left caller := by
    rw [differs.tables]
    rfl
  simp only [respond, handle, enabledSame, handlerSame]
  cases requireLandingPagesEnabled left caller with
  | error refused => rfl
  | ok value =>
    cases editDataRoute left caller pageId with
    | error refused => rfl
    | ok response => rfl

end

/-- In a run whose requests name own pages, no request changes rows of another
organization, and edit data does not depend on another organization's pages. -/
theorem requests_respect_tenants {platform : Platform} {initial : Database}
    {requests : List HttpRequest} (consistent : TenantConsistent initial)
    (guarded : Guarded (serve platform) TargetsOwnPage initial requests) :
    ∀ taken ∈ trace (serve platform) initial requests,
      ∀ other, other ≠ taken.2.caller.organizationId →
        SameTenant other taken.1 (serve platform taken.1 taken.2) ∧
        ∀ pageId elsewhere, taken.2.request = .editData pageId → WellKeyed elsewhere →
          DiffersOnPagesOf other taken.1 elsewhere → TargetsOwnPage elsewhere taken.2 →
          respond platform elsewhere taken.2 = respond platform taken.1 taken.2 := by
  intro taken member other different
  obtain ⟨consistentThere, targets⟩ := trace_guarded_invariant TenantConsistent
    (fun _ _ kept _ => serve_tenantConsistent kept) consistent guarded taken member
  refine ⟨serve_sameTenant consistentThere targets different, ?_⟩
  intro pageId elsewhere isEditData keyed differs targetsElsewhere
  obtain ⟨state, caller, request, now⟩ := taken
  obtain rfl : request = .editData pageId := isEditData
  exact editData_independent consistentThere.keyed keyed different differs targets targetsElsewhere

def tenantDatabase : Database where
  nextId := 10
  accounts := [{
    id := 1
    organizationId := 8
    name := ("Globex" : String)
    normalizedName := ("globex" : String) }]
  stories := [{ id := 2, organizationId := 8, accountId := 1 }]

theorem tenantDatabase_consistent : TenantConsistent tenantDatabase where
  keyed := NoPages.wellKeyed ⟨rfl, rfl⟩
  distinctStories := by decide
  storyOwners := by
    intro page member
    cases member

def adminOf (organizationId : RowId) : Caller where
  userId := organizationId + 100
  organizationId
  userRole := some .admin

def createPage : HttpRequest where
  caller := adminOf 8
  request := .create { storyId := 2, title := ("Roadmap" : String) }
    { short := ("00000000" : String), long := ("000000000000" : String) }
  now := 1

def retitlePage (caller : Caller) : HttpRequest where
  caller
  request := .update 10 { title := some ("Renamed" : String) }
  now := 2

/-- Organization 8 renames its own page; organization 7 keeps its rows. -/
theorem own_requests_respect_tenants :
    SameTenant 7 (serve .ascii tenantDatabase createPage)
      (serve .ascii (serve .ascii tenantDatabase createPage) (retitlePage (adminOf 8))) := by
  have guarded : Guarded (serve .ascii) TargetsOwnPage tenantDatabase
      [createPage, retitlePage (adminOf 8)] := by
    refine guarded_cons.mpr ⟨?_, guarded_cons.mpr ⟨?_, guarded_nil _ _ _⟩⟩
    · intro pageId page named
      cases named
    · intro pageId page named _ found
      obtain rfl : 10 = pageId := Option.some.inj named
      have owner : (findLandingPage (serve .ascii tenantDatabase createPage) 10).map
          (·.organizationId) = .ok 8 := by decide +kernel
      rw [found] at owner
      exact Except.ok.inj owner
  exact (requests_respect_tenants tenantDatabase_consistent guarded
    (serve .ascii tenantDatabase createPage, retitlePage (adminOf 8)) (by simp [trace]) 7
    (by decide)).1

/-- An admin of organization 7 renames a page of organization 8. -/
theorem admin_edits_foreign_page :
    TenantConsistent tenantDatabase ∧
    ∃ taken ∈ trace (serve .ascii) tenantDatabase [createPage, retitlePage (adminOf 7)],
      ∃ other, other ≠ taken.2.caller.organizationId ∧
        ¬SameTenant other taken.1 (serve .ascii taken.1 taken.2) := by
  refine ⟨tenantDatabase_consistent, (serve .ascii tenantDatabase createPage, retitlePage (adminOf 7)),
    by simp [trace], 8, by decide, fun same => ?_⟩
  have changed : (serve .ascii (serve .ascii tenantDatabase createPage)
      (retitlePage (adminOf 7))).landingPages.filter (·.organizationId == 8) ≠
      (serve .ascii tenantDatabase createPage).landingPages.filter (·.organizationId == 8) := by
    decide +kernel
  exact changed same.pages

end StoryEngine.Routes
