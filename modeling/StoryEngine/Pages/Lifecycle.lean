import StoryEngine.Data.Run
import StoryEngine.Pages.Editor

namespace StoryEngine.Pages

open Data Schema Text

/-! # Public delivery of a page -/

structure PagePresentationSettings where
  anonymizationEnabled : Bool
  publishedBranding : Option PublishedBrandingSettings

def getPagePresentationSettings (db : Database) (organizationId : RowId) :
    PagePresentationSettings :=
  let settings := db.orgSettings.find? (·.organizationId == organizationId)
  { anonymizationEnabled := (settings.map (·.anonymizationEnabled)).getD true
    publishedBranding := settings.bind (·.publishedBranding) }

structure PageContent where
  title : Text
  subtitle : Option Text
  body : Text
  calloutBoxes : List CalloutBox

structure PublicPage where
  content : PageContent
  totalCallHours : Nat
  heroImageUrl : Option Text
  customCss : Option Text
  branding : Option PublishedBrandingSettings
  publishedAt : Option Date

def originalContent (page : LandingPage) : PageContent where
  title := page.title
  subtitle := page.subtitle
  body := page.editableBody
  calloutBoxes := decodeCalloutBoxes page.calloutBoxes

def anonymizedContent (page : LandingPage) : PageContent where
  title := page.scrubbedTitle.getD page.title
  subtitle := page.scrubbedSubtitle.or page.subtitle
  body := if page.scrubbedBody.isEmpty then page.editableBody else page.scrubbedBody
  calloutBoxes :=
    if (decodeCalloutBoxes page.scrubbedCalloutBoxes).isEmpty then
      decodeCalloutBoxes page.calloutBoxes
    else decodeCalloutBoxes page.scrubbedCalloutBoxes

def servesOriginal (db : Database) (page : LandingPage) : Bool :=
  !(getPagePresentationSettings db page.organizationId).anonymizationEnabled ||
    page.includeCompanyName

def servedContent (db : Database) (page : LandingPage) : PageContent :=
  if servesOriginal db page then originalContent page else anonymizedContent page

def isExpired (page : LandingPage) (now : Date) : Bool :=
  page.expiresAt.any fun expiresAt => decide (expiresAt < now)

def passwordAccepted (platform : Platform) (page : LandingPage) (password : Option Text) : Bool :=
  match page.password with
  | none => true
  | some stored =>
    stored.isEmpty ||
      password.any fun given => !given.isEmpty && platform.verifyPagePassword given stored

def getPublicBySlug (platform : Platform) (db : Database) (slug : Text) (password : Option Text)
    (now : Date) : Option (PublicPage × Database) :=
  match db.landingPages.find? (·.slug == slug) with
  | none => none
  | some page =>
    if page.status ≠ .published then none
    else if isExpired page now then none
    else if page.visibility = .privateAccess then none
    else if !passwordAccepted platform page password then none
    else
      let counted := updateLandingPage db page.id fun row =>
        { row with viewCount := row.viewCount + 1, updatedAt := now }
      some ({
        content := servedContent db page
        totalCallHours := page.totalCallHours
        heroImageUrl := page.heroImageUrl
        customCss := page.customCss
        branding := (getPagePresentationSettings db page.organizationId).publishedBranding
        publishedAt := page.publishedAt }, counted)

def publicView (platform : Platform) (db : Database) (page : LandingPage)
    (password : Option Text) (now : Date) : Option PublicPage :=
  if page.status = .published ∧ isExpired page now = false ∧ page.visibility = .sharedWithLink ∧
      passwordAccepted platform page password = true then
    some {
      content := servedContent db page
      totalCallHours := page.totalCallHours
      heroImageUrl := page.heroImageUrl
      customCss := page.customCss
      branding := (getPagePresentationSettings db page.organizationId).publishedBranding
      publishedAt := page.publishedAt }
  else none

def countView (now : Date) (page : LandingPage) : LandingPage :=
  { page with viewCount := page.viewCount + 1, updatedAt := now }

theorem getPublicBySlug_eq (platform : Platform) (db : Database) (slug : Text)
    (password : Option Text) (now : Date) :
    getPublicBySlug platform db slug password now =
      (db.landingPages.find? (·.slug == slug)).bind fun page =>
        (publicView platform db page password now).map fun view =>
          (view, updateLandingPage db page.id (countView now)) := by
  unfold getPublicBySlug
  cases db.landingPages.find? (·.slug == slug) with
  | none => rfl
  | some page =>
    simp only [Option.bind_some, publicView]
    cases status : page.status with
    | draft | archived => simp
    | published =>
      cases expired : isExpired page now with
      | true => simp
      | false =>
        cases visibility : page.visibility with
        | privateAccess => simp
        | sharedWithLink =>
          cases accepted : passwordAccepted platform page password with
          | false => simp
          | true =>
            simp only [ne_eq, not_true_eq_false, if_false, Bool.false_eq_true,
              reduceCtorEq, Bool.not_true, and_self, if_true, Option.map_some]
            rfl

theorem getPublicBySlug_view (platform : Platform) (db : Database) (slug : Text)
    (password : Option Text) (now : Date) :
    (getPublicBySlug platform db slug password now).map Prod.fst =
      (db.landingPages.find? (·.slug == slug)).bind fun page =>
        publicView platform db page password now := by
  rw [getPublicBySlug_eq, Option.map_bind]
  refine Option.bind_congr fun page _ => ?_
  rw [Function.comp_apply, Option.map_map]
  exact Option.map_id'

theorem getPublicBySlug_served {platform : Platform} {db counted : Database} {slug : Text}
    {password : Option Text} {now : Date} {view : PublicPage}
    (served : getPublicBySlug platform db slug password now = some (view, counted)) :
    ∃ page, db.landingPages.find? (·.slug == slug) = some page ∧ page.status = .published ∧
      page.visibility = .sharedWithLink ∧ view.content = servedContent db page := by
  unfold getPublicBySlug at served
  split at served
  · cases served
  · rename_i page found
    split at served
    · cases served
    · rename_i published
      split at served
      · cases served
      · split at served
        · cases served
        · rename_i visible
          split at served
          · cases served
          · have shared : page.visibility = .sharedWithLink := by
              cases known : page.visibility with
              | privateAccess => exact absurd known visible
              | sharedWithLink => rfl
            obtain ⟨rfl, -⟩ := Prod.mk.inj (Option.some.inj served)
            exact ⟨page, found, by simpa using published, shared, rfl⟩

/-! # Lifecycle of landing pages -/

inductive PageAction where
  | create (input : CreateLandingPageInput) (random : SlugSuffixes) (now : Date)
  | update (pageId userId : RowId) (input : UpdateLandingPageInput) (now : Date)
  | publish (pageId : RowId) (options : PublishOptions) (now : Date)
  | unpublish (pageId : RowId) (now : Date)
  | archive (pageId : RowId) (now : Date)
  | rollbackToVersion (pageId versionId actorUserId : RowId) (now : Date)

def apply (platform : Platform) (db : Database) : PageAction → Except EditorError Database
  | .create input random now => (create platform db input random now).map Prod.fst
  | .update pageId userId input now => (update db pageId userId input now).map Prod.fst
  | .publish pageId options now => (publish platform db pageId options now).map Prod.fst
  | .unpublish pageId now => unpublish db pageId now
  | .archive pageId now => archive db pageId now
  | .rollbackToVersion pageId versionId actorUserId now =>
    rollbackLandingPageToVersion db pageId versionId actorUserId now

def step (platform : Platform) (db : Database) (action : PageAction) : Database :=
  match apply platform db action with
  | .ok next => next
  | .error _ => db

section

variable (db : Database) (pageId storyId userId : RowId) (page : LandingPage)

@[simp] theorem updateLandingPage_pages (change : LandingPage → LandingPage) :
    (updateLandingPage db pageId change).landingPages =
      updateWhere db.landingPages (·.id == pageId) change := rfl

@[simp] theorem updateLandingPage_versions (change : LandingPage → LandingPage) :
    (updateLandingPage db pageId change).publishedArtifactVersions =
      db.publishedArtifactVersions := rfl

@[simp] theorem updateLandingPage_nextId (change : LandingPage → LandingPage) :
    (updateLandingPage db pageId change).nextId = db.nextId := rfl

@[simp] theorem syncStory_pages :
    (syncStoryPublishedAtFromLandingPages db storyId).landingPages = db.landingPages := rfl

@[simp] theorem syncStory_versions :
    (syncStoryPublishedAtFromLandingPages db storyId).publishedArtifactVersions =
      db.publishedArtifactVersions := rfl

@[simp] theorem syncStory_nextId :
    (syncStoryPublishedAtFromLandingPages db storyId).nextId = db.nextId := rfl

@[simp] theorem recordEdit_pages (input : UpdateLandingPageInput) :
    (recordEdit db page userId input).landingPages = db.landingPages := by
  unfold recordEdit
  split
  · rfl
  · split <;> rfl

@[simp] theorem recordEdit_versions (input : UpdateLandingPageInput) :
    (recordEdit db page userId input).publishedArtifactVersions =
      db.publishedArtifactVersions := by
  unfold recordEdit
  split
  · rfl
  · split <;> rfl

theorem recordEdit_nextId (input : UpdateLandingPageInput) :
    db.nextId ≤ (recordEdit db page userId input).nextId := by
  unfold recordEdit
  split
  · exact Nat.le_refl _
  · split
    · exact Nat.le_refl _
    · exact Nat.le_succ _

@[simp] theorem recordEdit_stories (input : UpdateLandingPageInput) :
    (recordEdit db page userId input).stories = db.stories := by
  unfold recordEdit
  split
  · rfl
  · split <;> rfl

@[simp] theorem recordEdit_orgSettings (input : UpdateLandingPageInput) :
    (recordEdit db page userId input).orgSettings = db.orgSettings := by
  unfold recordEdit
  split
  · rfl
  · split <;> rfl

end

theorem findLandingPage_eq_ok {db : Database} {pageId : RowId} {page : LandingPage} :
    findLandingPage db pageId = .ok page ↔
      db.landingPages.find? (·.id == pageId) = some page := required_eq_ok

theorem findLandingPage_eq_error {db : Database} {pageId : RowId} {failure : EditorError}
    (missing : findLandingPage db pageId = .error failure) : failure = .notFound := by
  unfold findLandingPage required at missing
  split at missing
  · cases missing
  · exact (Except.error.inj missing).symm

theorem findLandingPage_id {db : Database} {pageId : RowId} {page : LandingPage}
    (found : findLandingPage db pageId = .ok page) : page ∈ db.landingPages ∧ page.id = pageId := by
  have lookup := findLandingPage_eq_ok.mp found
  exact ⟨List.mem_of_find?_eq_some lookup, by simpa using List.find?_some lookup⟩

variable {now : Date} {change : LandingPage → LandingPage} {scrubbed : ScrubbedContent}
  {bound : RowId}

theorem create_eq_ok {platform : Platform} {db : Database} {input : CreateLandingPageInput}
    {random : SlugSuffixes} {result : Database × RowId} :
    create platform db input random now = .ok result ↔
      ∃ story, findStory db input.storyId = .ok story ∧
        (∀ page ∈ db.landingPages,
          page.slug ≠ (newLandingPage platform db input story random now).slug) ∧
        result = ({ db with
          nextId := db.nextId + 1
          landingPages :=
            db.landingPages ++ [newLandingPage platform db input story random now] },
          db.nextId) := by
  simp only [create, bind_eq_ok, ensure_eq_ok, pure_eq_ok, exists_const, Bool.not_eq_true',
    List.any_eq_false, beq_iff_eq]
  constructor
  · rintro ⟨story, found, free, rfl⟩
    exact ⟨story, found, free, rfl⟩
  · rintro ⟨story, found, free, rfl⟩
    exact ⟨story, found, free, rfl⟩

theorem update_eq_ok {db : Database} {pageId userId : RowId} {input : UpdateLandingPageInput}
    {result : Database × Date} :
    update db pageId userId input now = .ok result ↔
      ∃ existing, findLandingPage db pageId = .ok existing ∧
        input.expectedUpdatedAt.all (· == existing.updatedAt) = true ∧
        result = (recordEdit (updateLandingPage db pageId (pageUpdateData input now)) existing
          userId input, now) := by
  simp only [update, bind_eq_ok, ensure_eq_ok, pure_eq_ok, exists_const, eq_comm (a := result)]

theorem changeStatus_eq_ok {db next : Database} {pageId : RowId} :
    changeStatus db pageId change = .ok next ↔
      ∃ page, findLandingPage db pageId = .ok page ∧
        next = syncStoryPublishedAtFromLandingPages (updateLandingPage db pageId change)
          page.storyId := by
  simp only [changeStatus, bind_eq_ok, pure_eq_ok, eq_comm (a := next)]

theorem rollback_eq_ok {db next : Database} {pageId versionId actorUserId : RowId} :
    rollbackLandingPageToVersion db pageId versionId actorUserId now = .ok next ↔
      ∃ page version, findLandingPage db pageId = .ok page ∧
        findVersion db page versionId = some version ∧
        next = appendVersion (updateLandingPage db pageId (rollbackData version now)) page
          .rolledBack (rollbackVersion (updateLandingPage db pageId (rollbackData version now))
            page version actorUserId now) := by
  simp only [rollbackLandingPageToVersion, bind_eq_ok, required_eq_ok, pure_eq_ok,
    eq_comm (a := next), exists_and_left]

theorem preparePublish_eq_ok {platform : Platform} {db : Database} {pageId : RowId}
    {page : LandingPage} :
    preparePublish platform db pageId = .ok (page, scrubbed) ↔
      findLandingPage db pageId = .ok page ∧
        ∃ story, findStory db page.storyId = .ok story ∧
          Publish.validatePublishSnapshot platform (editableSnapshot page) = [] ∧
          scrubForPublish platform db page story = .ok scrubbed ∧
          Publish.validatePublishSnapshot platform scrubbed.snapshot = [] := by
  simp only [preparePublish, bind_eq_ok, ensure_eq_ok, pure_eq_ok, exists_const,
    List.isEmpty_iff, Prod.mk.injEq]
  constructor
  · rintro ⟨_, found, story, inStory, ready, _, scrubs, valid, rfl, rfl⟩
    exact ⟨found, story, inStory, ready, scrubs, valid⟩
  · rintro ⟨found, story, inStory, ready, scrubs, valid⟩
    exact ⟨page, found, story, inStory, ready, scrubbed, scrubs, valid, rfl, rfl⟩

theorem scrubForPublish_anonymous {platform : Platform} {db : Database} {page : LandingPage}
    {story : Story} (anonymous : page.includeCompanyName = false)
    (scrubs : scrubForPublish platform db page story = .ok scrubbed) :
    ∃ account, loadScrubAccount db story.accountId = .ok account ∧
      scrubbed = scrubPage platform.cases account page ∧
      Scrub.detectScrubLeakage platform.cases account scrubbed.fragments = [] := by
  simp only [scrubForPublish, anonymous, Bool.false_eq_true, if_false, bind_eq_ok, ensure_eq_ok,
    pure_eq_ok, exists_const, List.isEmpty_iff] at scrubs
  obtain ⟨account, loaded, clean, rfl⟩ := scrubs
  exact ⟨account, loaded, rfl, clean⟩

/-- The tables after `publish` has written the page and dated its story. -/
def publishedTables (platform : Platform) (db : Database) (page : LandingPage)
    (scrubbed : ScrubbedContent) (options : PublishOptions) (now : Date) : Database :=
  syncStoryPublishedAtFromLandingPages
    (updateLandingPage db page.id (publishData platform scrubbed options now)) page.storyId

theorem findLandingPage_updated {db : Database} {pageId : RowId} {page : LandingPage}
    (change : LandingPage → LandingPage) (kept : ∀ row, (change row).id = row.id)
    (found : findLandingPage db pageId = .ok page) :
    findLandingPage (updateLandingPage db pageId change) pageId = .ok (change page) := by
  have lookup := findLandingPage_eq_ok.mp found
  have same : page.id = pageId := (findLandingPage_id found).2
  rw [findLandingPage_eq_ok, updateLandingPage_pages,
    find?_updateWhere fun row => by rw [kept row], lookup]
  simp [same]

theorem publish_eq_ok {platform : Platform} {db : Database} {pageId : RowId}
    {options : PublishOptions} {result : Database × PublishReceipt} :
    publish platform db pageId options now = .ok result ↔
      ∃ page scrubbed, preparePublish platform db pageId = .ok (page, scrubbed) ∧
        result = (appendVersion (publishedTables platform db page scrubbed options now)
          (publishData platform scrubbed options now page) .superseded
          (publishedVersion (publishedTables platform db page scrubbed options now)
            (publishData platform scrubbed options now page) options now),
          publishReceipt platform page) := by
  have versioned (page : LandingPage) (scrubbed : ScrubbedContent)
      (prepared : preparePublish platform db pageId = .ok (page, scrubbed)) :
      createArtifactVersion (publishedTables platform db page scrubbed options now) page.id options
        now = .ok (appendVersion (publishedTables platform db page scrubbed options now)
          (publishData platform scrubbed options now page) .superseded
          (publishedVersion (publishedTables platform db page scrubbed options now)
            (publishData platform scrubbed options now page) options now)) := by
    obtain ⟨found, _⟩ := preparePublish_eq_ok.mp prepared
    have same := (findLandingPage_id found).2
    subst same
    have written : findLandingPage (publishedTables platform db page scrubbed options now) page.id =
        .ok (publishData platform scrubbed options now page) :=
      findLandingPage_updated (publishData platform scrubbed options now) (fun _ => rfl) found
    simp [createArtifactVersion, written]
  have sameId (page : LandingPage) (scrubbed : ScrubbedContent)
      (prepared : preparePublish platform db pageId = .ok (page, scrubbed)) : page.id = pageId :=
    (findLandingPage_id (preparePublish_eq_ok.mp prepared).1).2
  simp only [publish, bind_eq_ok, pure_eq_ok]
  constructor
  · rintro ⟨⟨page, scrubbed⟩, prepared, recorded, creates, rfl⟩
    have known := versioned page scrubbed prepared
    rw [publishedTables, sameId page scrubbed prepared] at known
    rw [sameId page scrubbed prepared] at creates
    obtain rfl := Except.ok.inj (known.symm.trans creates)
    refine ⟨page, scrubbed, prepared, ?_⟩
    rw [publishedTables, sameId page scrubbed prepared]
  · rintro ⟨page, scrubbed, prepared, rfl⟩
    refine ⟨(page, scrubbed), prepared, _, ?_, rfl⟩
    have known := versioned page scrubbed prepared
    rw [publishedTables, sameId page scrubbed prepared] at known
    rw [publishedTables, sameId page scrubbed prepared]
    exact known

theorem publish_eq_error {platform : Platform} {db : Database} {pageId : RowId}
    {options : PublishOptions} {now : Date} {cause : EditorError}
    (stopped : preparePublish platform db pageId = .error cause) :
    publish platform db pageId options now = .error cause := by
  rw [publish, stopped]
  rfl

theorem publish_eq_writes {platform : Platform} {db : Database} {pageId : RowId}
    (options : PublishOptions) (now : Date) {page : LandingPage} {scrubbed : ScrubbedContent}
    (prepared : preparePublish platform db pageId = .ok (page, scrubbed)) :
    ∃ recorded,
      createArtifactVersion (syncStoryPublishedAtFromLandingPages
        (updateLandingPage db pageId (publishData platform scrubbed options now)) page.storyId)
        page.id options now = .ok recorded ∧
      publish platform db pageId options now = .ok (recorded, publishReceipt platform page) := by
  obtain ⟨result, published⟩ : ∃ result, publish platform db pageId options now = .ok result :=
    ⟨_, publish_eq_ok.mpr ⟨page, scrubbed, prepared, rfl⟩⟩
  simp only [publish, prepared, bind_eq_ok, Except.ok.injEq, exists_eq_left'] at published
  obtain ⟨recorded, records, -⟩ := published
  refine ⟨recorded, records, ?_⟩
  simp only [publish, prepared, bind_eq_ok, Except.ok.injEq, exists_eq_left']
  exact ⟨recorded, records, rfl⟩

def LandingPage.identity (page : LandingPage) : RowId × RowId × RowId × Text × Bool :=
  (page.id, page.organizationId, page.storyId, page.slug, page.includeCompanyName)

variable {left right : LandingPage}

theorem identity_id (same : LandingPage.identity left = LandingPage.identity right) :
    left.id = right.id := congrArg Prod.fst same

theorem identity_organizationId (same : LandingPage.identity left = LandingPage.identity right) :
    left.organizationId = right.organizationId := congrArg (fun identity => identity.2.1) same

theorem identity_storyId (same : LandingPage.identity left = LandingPage.identity right) :
    left.storyId = right.storyId := congrArg (fun identity => identity.2.2.1) same

theorem identity_slug (same : LandingPage.identity left = LandingPage.identity right) :
    left.slug = right.slug := congrArg (fun identity => identity.2.2.2.1) same

theorem identity_includeCompanyName
    (same : LandingPage.identity left = LandingPage.identity right) :
    left.includeCompanyName = right.includeCompanyName :=
  congrArg (fun identity => identity.2.2.2.2) same

def PublishedArtifactVersion.snapshot (version : PublishedArtifactVersion) :
    PublishedArtifactVersion :=
  { version with status := .active }

/-- All a method can do: append a page, rewrite one page, or rewrite one page
and record a version of it. -/
inductive Effect (db next : Database) : Prop where
  | appends (page : LandingPage) (fresh : page.id = db.nextId)
      (free : ∀ old ∈ db.landingPages, old.slug ≠ page.slug)
      (pages : next.landingPages = db.landingPages ++ [page])
      (versions : next.publishedArtifactVersions = db.publishedArtifactVersions)
      (ids : next.nextId = db.nextId + 1)
  | rewrites (pageId : RowId) (change : LandingPage → LandingPage)
      (kept : ∀ row, LandingPage.identity (change row) = LandingPage.identity row)
      (pages : next.landingPages = updateWhere db.landingPages (·.id == pageId) change)
      (versions : next.publishedArtifactVersions = db.publishedArtifactVersions)
      (ids : db.nextId ≤ next.nextId)
  | records (page : LandingPage) (change : LandingPage → LandingPage)
      (selects : PublishedArtifactVersion → Bool) (retired : VersionStatus)
      (version : PublishedArtifactVersion) (known : page ∈ db.landingPages)
      (kept : ∀ row, LandingPage.identity (change row) = LandingPage.identity row)
      (pages : next.landingPages = updateWhere db.landingPages (·.id == page.id) change)
      (versions : next.publishedArtifactVersions =
        updateWhere db.publishedArtifactVersions selects (retireVersion retired) ++ [version])
      (fresh : version.id = db.nextId) (about : version.landingPageId = page.id)
      (ids : next.nextId = db.nextId + 1)

variable {platform : Platform} {db next : Database} {action : PageAction}

theorem apply_effect (applied : apply platform db action = .ok next) : Effect db next := by
  cases action with
  | create input random now =>
    obtain ⟨result, created, rfl⟩ := map_eq_ok.mp applied
    obtain ⟨story, _, free, rfl⟩ := create_eq_ok.mp created
    exact .appends _ rfl free rfl rfl rfl
  | update pageId userId input now =>
    obtain ⟨result, updated, rfl⟩ := map_eq_ok.mp applied
    obtain ⟨existing, _, _, rfl⟩ := update_eq_ok.mp updated
    have ids := recordEdit_nextId (updateLandingPage db pageId (pageUpdateData input now)) userId
      existing input
    exact .rewrites pageId (pageUpdateData input now) (fun _ => rfl) (by simp) (by simp) ids
  | publish pageId options now =>
    obtain ⟨result, published, rfl⟩ := map_eq_ok.mp applied
    obtain ⟨page, scrubbed, prepared, rfl⟩ := publish_eq_ok.mp published
    have found := findLandingPage_id (preparePublish_eq_ok.mp prepared).1
    exact .records page (publishData platform scrubbed options now) _ _ _ found.1
      (fun _ => rfl) rfl rfl rfl rfl rfl
  | unpublish pageId now =>
    obtain ⟨page, _, rfl⟩ := changeStatus_eq_ok.mp applied
    exact .rewrites pageId (unpublishData now) (fun _ => rfl) rfl rfl (Nat.le_refl _)
  | archive pageId now =>
    obtain ⟨page, _, rfl⟩ := changeStatus_eq_ok.mp applied
    exact .rewrites pageId (archiveData now) (fun _ => rfl) rfl rfl (Nat.le_refl _)
  | rollbackToVersion pageId versionId actorUserId now =>
    obtain ⟨page, version, found, _, rfl⟩ := rollback_eq_ok.mp applied
    obtain ⟨known, rfl⟩ := findLandingPage_id found
    exact .records page (rollbackData version now) _ _ _ known (fun _ => rfl) rfl rfl rfl rfl rfl

theorem apply_orgSettings (applied : apply platform db action = .ok next) :
    next.orgSettings = db.orgSettings := by
  cases action with
  | create input random now =>
    obtain ⟨result, created, rfl⟩ := map_eq_ok.mp applied
    obtain ⟨story, _, _, rfl⟩ := create_eq_ok.mp created
    rfl
  | update pageId userId input now =>
    obtain ⟨result, updated, rfl⟩ := map_eq_ok.mp applied
    obtain ⟨existing, _, _, rfl⟩ := update_eq_ok.mp updated
    simp [updateLandingPage]
  | publish pageId options now =>
    obtain ⟨result, published, rfl⟩ := map_eq_ok.mp applied
    obtain ⟨page, scrubbed, _, rfl⟩ := publish_eq_ok.mp published
    rfl
  | unpublish pageId now =>
    obtain ⟨page, _, rfl⟩ := changeStatus_eq_ok.mp applied
    rfl
  | archive pageId now =>
    obtain ⟨page, _, rfl⟩ := changeStatus_eq_ok.mp applied
    rfl
  | rollbackToVersion pageId versionId actorUserId now =>
    obtain ⟨page, version, _, _, rfl⟩ := rollback_eq_ok.mp applied
    rfl

theorem step_cases (platform : Platform) (db : Database) (action : PageAction) :
    (apply platform db action = .ok (step platform db action)) ∨ step platform db action = db := by
  unfold step
  cases applied : apply platform db action with
  | ok next => exact .inl rfl
  | error failure => exact .inr rfl

theorem step_orgSettings (platform : Platform) (db : Database) (action : PageAction) :
    (step platform db action).orgSettings = db.orgSettings := by
  rcases step_cases platform db action with applied | same
  · exact apply_orgSettings applied
  · rw [same]

structure WellKeyed (db : Database) : Prop where
  distinctIds : (db.landingPages.map (·.id)).Nodup
  distinctSlugs : (db.landingPages.map (·.slug)).Nodup
  freshPages : ∀ page ∈ db.landingPages, page.id < db.nextId
  freshVersions : ∀ version ∈ db.publishedArtifactVersions, version.id < db.nextId
  versionPages : ∀ version ∈ db.publishedArtifactVersions, version.landingPageId < db.nextId

private theorem rewritten_fresh {pageId : RowId}
    (kept : ∀ row, LandingPage.identity (change row) = LandingPage.identity row)
    (fresh : ∀ page ∈ db.landingPages, page.id < bound) :
    ∀ page ∈ updateWhere db.landingPages (·.id == pageId) change, page.id < bound := by
  apply forall_mem_updateWhere fresh
  intro old _ _ below
  rw [identity_id (kept old)]
  exact below

private theorem recorded_fresh {column : PublishedArtifactVersion → RowId}
    {selects : PublishedArtifactVersion → Bool} {retired : VersionStatus}
    {version : PublishedArtifactVersion}
    (kept : ∀ old, column (retireVersion retired old) = column old)
    (fresh : ∀ old ∈ db.publishedArtifactVersions, column old < bound)
    (new : column version < bound + 1) :
    ∀ row ∈ updateWhere db.publishedArtifactVersions selects (retireVersion retired) ++ [version],
      column row < bound + 1 := by
  intro row member
  rcases List.mem_append.mp member with inOld | isNew
  · obtain ⟨old, inTable, ⟨_, rfl⟩ | ⟨_, rfl⟩⟩ := mem_updateWhere.mp inOld
    · rw [kept old]
      exact Nat.lt_succ_of_lt (fresh old inTable)
    · exact Nat.lt_succ_of_lt (fresh row inTable)
  · rwa [List.mem_singleton.mp isNew]

theorem Effect.wellKeyed (effect : Effect db next) (keyed : WellKeyed db) : WellKeyed next := by
  cases effect with
  | appends page fresh free pages versions ids =>
    refine ⟨?_, ?_, ?_, ?_, ?_⟩
    · rw [pages]
      refine nodup_map_append_fresh keyed.distinctIds fun old member same => ?_
      exact absurd (keyed.freshPages old member) (by rw [same, fresh]; exact Nat.lt_irrefl _)
    · rw [pages]
      exact nodup_map_append_fresh keyed.distinctSlugs free
    · intro row member
      rw [pages] at member
      rw [ids]
      rcases List.mem_append.mp member with inOld | isNew
      · exact Nat.lt_succ_of_lt (keyed.freshPages row inOld)
      · rw [List.mem_singleton.mp isNew, fresh]
        exact Nat.lt_succ_self _
    · rw [versions, ids]
      exact fun version member => Nat.lt_succ_of_lt (keyed.freshVersions version member)
    · rw [versions, ids]
      exact fun version member => Nat.lt_succ_of_lt (keyed.versionPages version member)
  | rewrites pageId change kept pages versions ids =>
    refine ⟨?_, ?_, ?_, ?_, ?_⟩
    · rw [pages, map_updateWhere fun row => identity_id (kept row)]
      exact keyed.distinctIds
    · rw [pages, map_updateWhere fun row => identity_slug (kept row)]
      exact keyed.distinctSlugs
    · rw [pages]
      exact rewritten_fresh kept fun page member =>
        Nat.lt_of_lt_of_le (keyed.freshPages page member) ids
    · rw [versions]
      exact fun version member => Nat.lt_of_lt_of_le (keyed.freshVersions version member) ids
    · rw [versions]
      exact fun version member => Nat.lt_of_lt_of_le (keyed.versionPages version member) ids
  | records page change selects retired version known kept pages versions fresh about ids =>
    have newId : version.id < db.nextId + 1 := fresh ▸ Nat.lt_succ_self _
    have newPage : version.landingPageId < db.nextId + 1 :=
      about ▸ Nat.lt_succ_of_lt (keyed.freshPages page known)
    refine ⟨?_, ?_, ?_, ?_, ?_⟩
    · rw [pages, map_updateWhere fun row => identity_id (kept row)]
      exact keyed.distinctIds
    · rw [pages, map_updateWhere fun row => identity_slug (kept row)]
      exact keyed.distinctSlugs
    · rw [pages, ids]
      exact rewritten_fresh kept fun page member =>
        Nat.lt_succ_of_lt (keyed.freshPages page member)
    · rw [versions, ids]
      exact recorded_fresh (fun _ => rfl) keyed.freshVersions newId
    · rw [versions, ids]
      exact recorded_fresh (fun _ => rfl) keyed.versionPages newPage

theorem step_wellKeyed (keyed : WellKeyed db) : WellKeyed (step platform db action) := by
  rcases step_cases platform db action with applied | same
  · exact (apply_effect applied).wellKeyed keyed
  · rwa [same]

/-- Pages keep what no method rewrites, versions all but their status, and new ones come behind. -/
structure Grown (before after : Database) : Prop where
  pages : before.landingPages.map LandingPage.identity <+:
    after.landingPages.map LandingPage.identity
  versions : before.publishedArtifactVersions.map PublishedArtifactVersion.snapshot <+:
    after.publishedArtifactVersions.map PublishedArtifactVersion.snapshot

theorem Grown.refl (db : Database) : Grown db db := ⟨List.prefix_refl _, List.prefix_refl _⟩

theorem Grown.trans {before between after : Database} (first : Grown before between)
    (second : Grown between after) : Grown before after :=
  ⟨first.pages.trans second.pages, first.versions.trans second.versions⟩

theorem Effect.grown (effect : Effect db next) : Grown db next := by
  cases effect with
  | appends page fresh free pages versions ids =>
    refine ⟨?_, by rw [versions]⟩
    rw [pages, List.map_append]
    exact List.prefix_append _ _
  | rewrites pageId change kept pages versions ids =>
    exact ⟨by rw [pages, map_updateWhere kept], by rw [versions]⟩
  | records page change selects retired version known kept pages versions fresh about ids =>
    refine ⟨by rw [pages, map_updateWhere kept], ?_⟩
    have recorded : ∀ row, PublishedArtifactVersion.snapshot (retireVersion retired row) =
        PublishedArtifactVersion.snapshot row := fun _ => rfl
    rw [versions, List.map_append, map_updateWhere recorded]
    exact List.prefix_append _ _

theorem Grown.found (grown : Grown db next) (keyed : WellKeyed next) {page : LandingPage}
    (known : page ∈ db.landingPages) :
    (next.landingPages.find? (·.slug == page.slug)).map LandingPage.identity =
      some (LandingPage.identity page) := by
  obtain ⟨row, member, same⟩ := List.mem_map.mp (grown.pages.subset (List.mem_map_of_mem known))
  rw [(find?_key_eq_some keyed.distinctSlugs).mpr ⟨member, identity_slug same⟩, Option.map_some,
    same]

structure NoPages (db : Database) : Prop where
  pages : db.landingPages = []
  versions : db.publishedArtifactVersions = []

theorem NoPages.wellKeyed (empty : NoPages db) : WellKeyed db where
  distinctIds := by simp [empty.pages]
  distinctSlugs := by simp [empty.pages]
  freshPages := by simp [empty.pages]
  freshVersions := by simp [empty.versions]
  versionPages := by simp [empty.versions]

end StoryEngine.Pages
