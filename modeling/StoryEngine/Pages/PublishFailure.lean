import StoryEngine.Pages.Versions

namespace StoryEngine.Pages

open Data Schema Publish Scrub Text

/-! # Publishing with failing statements

`publish` writes the page before it records the version, and only the version is
recorded in a transaction.
-/

/-- The database statements of `publish`; the scrubber reads its account more
than once, and any of these reads may be the one that throws. -/
inductive PublishStatement where
  | findPage
  | findScrubAccount
  | findLeakageAccount
  | updatePage
  | findLatestPublished
  | updateStory
  | findVersionedPage
  | supersedeVersions
  | findMaxVersion
  | createVersion
  | commitVersion
deriving DecidableEq

def versionStatements : List PublishStatement :=
  [.findVersionedPage, .supersedeVersions, .findMaxVersion, .createVersion, .commitVersion]

inductive PublishError where
  | statement (failed : PublishStatement)
  | editor (cause : EditorError)
deriving DecidableEq

section

variable (platform : Platform) (db : Database) (throws : PublishStatement → Bool)

def attempt (statement : PublishStatement) : Except PublishError Unit :=
  ensure (!throws statement) (.statement statement)

def scrubAttempt (page : LandingPage) (story : Story) : Except PublishError ScrubbedContent :=
  if page.includeCompanyName then return keepNamed page
  else do
    let _ ← attempt throws .findScrubAccount
    let account ← (loadScrubAccount db story.accountId).mapError .editor
    let scrubbed := scrubPage platform.cases account page
    let _ ← attempt throws .findLeakageAccount
    let leakageTerms := detectScrubLeakage platform.cases account scrubbed.fragments
    let _ ← ensure leakageTerms.isEmpty (.editor (.scrubValidation leakageTerms))
    return scrubbed

def prepareAttempt (pageId : RowId) : Except PublishError (LandingPage × ScrubbedContent) := do
  let _ ← attempt throws .findPage
  let page ← (findLandingPage db pageId).mapError .editor
  let story ← (findStory db page.storyId).mapError .editor
  let preIssues := validatePublishSnapshot platform (editableSnapshot page)
  let _ ← ensure preIssues.isEmpty (.editor (.publishValidation preIssues))
  let scrubbed ← scrubAttempt platform db throws page story
  let postIssues := validatePublishSnapshot platform scrubbed.snapshot
  let _ ← ensure postIssues.isEmpty (.editor (.publishValidation postIssues))
  return (page, scrubbed)

def syncAttempt (storyId : RowId) : Database :=
  if throws .findLatestPublished || throws .updateStory then db
  else syncStoryPublishedAtFromLandingPages db storyId

def recordAttempt (pageId : RowId) (options : PublishOptions) (publishedAt : Date) :
    Except PublishError Database := do
  let _ ← versionStatements.forM (attempt throws)
  (createArtifactVersion db pageId options publishedAt).mapError .editor

def publishAttempt (pageId : RowId) (options : PublishOptions) (now : Date) :
    Except PublishError PublishReceipt × Database :=
  match prepareAttempt platform db throws pageId with
  | .error failure => (.error failure, db)
  | .ok (page, scrubbed) =>
    if throws .updatePage then (.error (.statement .updatePage), db)
    else
      let written := updateLandingPage db pageId (publishData platform scrubbed options now)
      let synced := syncAttempt written throws page.storyId
      match recordAttempt synced throws page.id options now with
      | .ok recorded => (.ok (publishReceipt platform page), recorded)
      | .error failure => (.error failure, synced)

end

section

variable {platform : Platform} {db : Database} {throws : PublishStatement → Bool}
  {pageId : RowId} {page : LandingPage} {scrubbed : ScrubbedContent}

end

def publishColumns (page : LandingPage) :
    PageStatus × PageVisibility × Option Text × Option Date × Text × Option Text × Option Text ×
      Option (List CalloutBox) :=
  (page.status, page.visibility, page.password, page.publishedAt, page.scrubbedBody,
    page.scrubbedTitle, page.scrubbedSubtitle, page.scrubbedCalloutBoxes)

/-- The page, its versions and all that the public sees are as before. -/
structure LeavesPage (platform : Platform) (before after : Database) (pageId : RowId) : Prop where
  columns : ∀ page, findLandingPage before pageId = .ok page →
    ∃ row, findLandingPage after pageId = .ok row ∧ publishColumns row = publishColumns page
  versions : versionHistory after pageId = versionHistory before pageId
  served : ∀ slug password clock,
    (getPublicBySlug platform after slug password clock).map Prod.fst =
      (getPublicBySlug platform before slug password clock).map Prod.fst

structure RepeatsPublish (platform : Platform) (page : LandingPage) (scrubbed : ScrubbedContent)
    (options : PublishOptions) (now : Date) : Prop where
  status : page.status = .published
  visibility : page.visibility = options.visibility
  password : page.password =
    (options.password.filter fun text => !text.isEmpty).map platform.hashPagePassword
  publishedAt : page.publishedAt = some now
  body : page.scrubbedBody = scrubbed.body
  title : page.scrubbedTitle = some scrubbed.title
  subtitle : page.scrubbedSubtitle = scrubbed.subtitle
  callouts : page.scrubbedCalloutBoxes = scrubbed.callouts.or page.scrubbedCalloutBoxes
  expiry : page.expiresAt = options.expiresAt ∨ options.visibility = .privateAccess ∨
    ∀ password, passwordAccepted platform page password = false

section

variable {platform : Platform} {db : Database} {throws : PublishStatement → Bool}
  {pageId : RowId} {page row : LandingPage} {scrubbed : ScrubbedContent}
  {options : PublishOptions} {now : Date}

theorem LeavesPage.refl (platform : Platform) (db : Database) (pageId : RowId) :
    LeavesPage platform db db pageId where
  columns page found := ⟨page, found, rfl⟩
  versions := rfl
  served _ _ _ := rfl

theorem publishColumns_publishData :
    publishColumns (publishData platform scrubbed options now page) = publishColumns page ↔
      page.status = .published ∧ page.visibility = options.visibility ∧
      page.password =
        (options.password.filter fun text => !text.isEmpty).map platform.hashPagePassword ∧
      page.publishedAt = some now ∧ page.scrubbedBody = scrubbed.body ∧
      page.scrubbedTitle = some scrubbed.title ∧ page.scrubbedSubtitle = scrubbed.subtitle ∧
      page.scrubbedCalloutBoxes = scrubbed.callouts.or page.scrubbedCalloutBoxes := by
  simp only [publishColumns, publishData, Prod.mk.injEq]
  constructor
  · rintro ⟨status, visibility, password, publishedAt, body, title, subtitle, callouts⟩
    exact ⟨status.symm, visibility.symm, password.symm, publishedAt.symm, body.symm, title.symm,
      subtitle.symm, callouts.symm⟩
  · rintro ⟨status, visibility, password, publishedAt, body, title, subtitle, callouts⟩
    exact ⟨status.symm, visibility.symm, password.symm, publishedAt.symm, body.symm, title.symm,
      subtitle.symm, callouts.symm⟩

theorem isExpired_eq_false : isExpired page now = false ↔
    ∀ expiresAt, page.expiresAt = some expiresAt → now ≤ expiresAt := by
  cases expires : page.expiresAt with
  | none => simp [isExpired, expires]
  | some expiresAt => simp [isExpired, expires]

theorem expiresAt_of_isExpired (same : ∀ clock, isExpired page clock = isExpired row clock) :
    page.expiresAt = row.expiresAt := by
  have sameOpen (clock : Date) : (∀ expiresAt, page.expiresAt = some expiresAt → clock ≤ expiresAt) ↔
      ∀ expiresAt, row.expiresAt = some expiresAt → clock ≤ expiresAt := by
    rw [← isExpired_eq_false, ← isExpired_eq_false, same clock]
  cases left : page.expiresAt with
  | none =>
    cases right : row.expiresAt with
    | none => rfl
    | some expiry =>
      have endless := (sameOpen (expiry + 1)).mp fun _ => by simp [left]
      exact absurd (endless expiry right) (Nat.not_succ_le_self expiry)
  | some expiry =>
    cases right : row.expiresAt with
    | none =>
      have endless := (sameOpen (expiry + 1)).mpr fun _ => by simp [right]
      exact absurd (endless expiry left) (Nat.not_succ_le_self expiry)
    | some other =>
      have upTo := (sameOpen expiry).mp fun date found => by
        rw [left] at found
        exact Nat.le_of_eq (Option.some.inj found)
      have downTo := (sameOpen other).mpr fun date found => by
        rw [right] at found
        exact Nat.le_of_eq (Option.some.inj found)
      exact congrArg some (Nat.le_antisymm (upTo other right) (downTo expiry left))

theorem publicView_publishData
    (columns : publishColumns (publishData platform scrubbed options now page) = publishColumns page)
    (password : Option Text) (clock : Date) :
    publicView platform db (publishData platform scrubbed options now page) password clock =
      publicView platform db { page with expiresAt := options.expiresAt } password clock := by
  obtain ⟨status, visibility, secret, publishedAt, body, title, subtitle, callouts⟩ :=
    publishColumns_publishData.mp columns
  have same : publishData platform scrubbed options now page =
      { page with expiresAt := options.expiresAt, noIndex := true, updatedAt := now } := by
    simp only [publishData, ← status, ← visibility, ← secret, ← publishedAt, ← body, ← title,
      ← subtitle, ← callouts]
  rw [same]
  rfl

def halfPublished (platform : Platform) (db : Database) (throws : PublishStatement → Bool)
    (page : LandingPage) (scrubbed : ScrubbedContent) (options : PublishOptions) (now : Date) :
    Database :=
  syncAttempt (updateLandingPage db page.id (publishData platform scrubbed options now)) throws
    page.storyId

@[simp] theorem syncAttempt_pages (storyId : RowId) :
    (syncAttempt db throws storyId).landingPages = db.landingPages := by
  unfold syncAttempt
  split <;> rfl

@[simp] theorem syncAttempt_versions (storyId : RowId) :
    (syncAttempt db throws storyId).publishedArtifactVersions = db.publishedArtifactVersions := by
  unfold syncAttempt
  split <;> rfl

@[simp] theorem syncAttempt_orgSettings (storyId : RowId) :
    (syncAttempt db throws storyId).orgSettings = db.orgSettings := by
  unfold syncAttempt
  split <;> rfl

theorem prepareAttempt_found
    (prepared : prepareAttempt platform db throws pageId = .ok (page, scrubbed)) :
    findLandingPage db pageId = .ok page := by
  simp only [prepareAttempt, bind_eq_ok, mapError_eq_ok, pure_eq_ok] at prepared
  obtain ⟨_, _, found, lookup, _, _, _, _, _, _, _, _, same⟩ := prepared
  obtain ⟨rfl, -⟩ := Prod.mk.inj same
  exact lookup

theorem publishAttempt_failed {failure : PublishError}
    (failed : (publishAttempt platform db throws pageId options now).1 = .error failure) :
    (publishAttempt platform db throws pageId options now).2 = db ∧
        (∀ page scrubbed, prepareAttempt platform db throws pageId = .ok (page, scrubbed) →
          throws .updatePage = true) ∨
      ∃ page scrubbed, prepareAttempt platform db throws pageId = .ok (page, scrubbed) ∧
        throws .updatePage = false ∧
        (publishAttempt platform db throws pageId options now).2 =
          halfPublished platform db throws page scrubbed options now := by
  simp only [publishAttempt] at failed ⊢
  cases prepared : prepareAttempt platform db throws pageId with
  | error cause => exact .inl ⟨rfl, fun _ _ other => by cases other⟩
  | ok found =>
    obtain ⟨page, scrubbed⟩ := found
    obtain ⟨_, rfl⟩ := findLandingPage_id (prepareAttempt_found prepared)
    simp only [prepared] at failed
    cases writes : throws .updatePage with
    | true => exact .inl ⟨by simp, fun _ _ _ => rfl⟩
    | false =>
      simp only [writes, Bool.false_eq_true, if_false] at failed ⊢
      refine .inr ⟨page, scrubbed, rfl, trivial, ?_⟩
      split
      · rename_i recorded records
        rw [records] at failed
        cases failed
      · rfl

theorem halfPublished_row (found : findLandingPage db page.id = .ok page) :
    findLandingPage (halfPublished platform db throws page scrubbed options now) page.id =
      .ok (publishData platform scrubbed options now page) := by
  rw [findLandingPage_eq_ok, halfPublished, syncAttempt_pages]
  exact findLandingPage_eq_ok.mp
    (findLandingPage_updated (publishData platform scrubbed options now) (fun _ => rfl) found)

theorem halfPublished_view (row : LandingPage) (password : Option Text) (clock : Date) :
    publicView platform (halfPublished platform db throws page scrubbed options now) row password
      clock = publicView platform db row password clock := by
  simp only [publicView, servedContent, servesOriginal, getPagePresentationSettings, halfPublished,
    syncAttempt_orgSettings]
  rfl

theorem halfPublished_served (slug : Text) (password : Option Text) (clock : Date) :
    (getPublicBySlug platform (halfPublished platform db throws page scrubbed options now) slug
        password clock).map Prod.fst =
      (db.landingPages.find? (·.slug == slug)).bind fun row =>
        publicView platform db
          (if row.id == page.id then publishData platform scrubbed options now row else row)
          password clock := by
  rw [getPublicBySlug_view, halfPublished, syncAttempt_pages, updateLandingPage_pages,
    find?_updateWhere]
  · simp only [Option.bind_map, Function.comp_def]
    congr 1
    funext row
    exact halfPublished_view _ password clock
  · exact fun _ => rfl

theorem halfPublished_leaves_iff (keyed : WellKeyed db)
    (found : findLandingPage db page.id = .ok page) :
    LeavesPage platform db (halfPublished platform db throws page scrubbed options now) page.id ↔
      RepeatsPublish platform page scrubbed options now := by
  obtain ⟨known, _⟩ := findLandingPage_id found
  have written : findLandingPage (halfPublished platform db throws page scrubbed options now)
      page.id = .ok (publishData platform scrubbed options now page) := halfPublished_row found
  constructor
  · intro leaves
    obtain ⟨row, rowFound, columns⟩ := leaves.columns page found
    obtain rfl := Except.ok.inj (written.symm.trans rowFound)
    obtain ⟨status, visibility, secret, publishedAt, body, title, subtitle, callouts⟩ :=
      publishColumns_publishData.mp columns
    refine ⟨status, visibility, secret, publishedAt, body, title, subtitle, callouts, ?_⟩
    -- Whoever gets in tells the two expiries apart.
    by_cases hidden : options.visibility = .privateAccess
    · exact .inr (.inl hidden)
    · by_cases locked : ∀ password, passwordAccepted platform page password = false
      · exact .inr (.inr locked)
      · obtain ⟨password, opens⟩ := not_forall.mp locked
        have accepted : passwordAccepted platform page password = true := by simpa using opens
        have shared : page.visibility = .sharedWithLink := by
          rw [visibility]
          cases known : options.visibility with
          | privateAccess => exact absurd known hidden
          | sharedWithLink => rfl
        refine .inl (show page.expiresAt =
          ({ page with expiresAt := options.expiresAt } : LandingPage).expiresAt from
            expiresAt_of_isExpired fun clock => ?_)
        have bySlug : db.landingPages.find? (·.slug == page.slug) = some page :=
          (find?_key_eq_some keyed.distinctSlugs).mpr ⟨known, rfl⟩
        have same := leaves.served page.slug password clock
        rw [halfPublished_served, getPublicBySlug_view, bySlug, Option.bind_some, Option.bind_some,
          if_pos (by simp), publicView_publishData columns] at same
        have visible (row : LandingPage) (rowStatus : row.status = .published)
            (rowShared : row.visibility = .sharedWithLink)
            (rowOpen : passwordAccepted platform row password = true) :
            isExpired row clock = !(publicView platform db row password clock).isSome := by
          cases expired : isExpired row clock with
          | true => simp [publicView, expired]
          | false => simp [publicView, expired, rowStatus, rowShared, rowOpen]
        rw [visible page status shared accepted, ← same]
        exact (visible { page with expiresAt := options.expiresAt } status shared accepted).symm
  · intro repeats
    have columns : publishColumns (publishData platform scrubbed options now page) =
        publishColumns page := publishColumns_publishData.mpr ⟨repeats.status, repeats.visibility,
      repeats.password, repeats.publishedAt, repeats.body, repeats.title, repeats.subtitle,
      repeats.callouts⟩
    refine ⟨?_, by simp [versionHistory, halfPublished], ?_⟩
    · intro other otherFound
      obtain rfl := Except.ok.inj (found.symm.trans otherFound)
      exact ⟨_, written, columns⟩
    · intro slug password clock
      rw [halfPublished_served, getPublicBySlug_view]
      cases bySlug : db.landingPages.find? (·.slug == slug) with
      | none => rfl
      | some row =>
        simp only [Option.bind_some]
        split
        · rename_i own
          obtain rfl := List.inj_on_of_nodup_map keyed.distinctIds
            (List.mem_of_find?_eq_some bySlug) known (by simpa using own)
          rw [publicView_publishData columns]
          rcases repeats.expiry with same | hidden | locked
          · rw [← same]
          · simp [publicView, repeats.visibility.trans hidden]
          · have lockedToo : passwordAccepted platform
                { row with expiresAt := options.expiresAt } password = false := locked password
            simp [publicView, locked password, lockedToo]
        · rfl

end

/-- A publish that throws leaves the page, its versions and the public view as
they were exactly when it throws before the page is written, or writes what the
page has already. -/
theorem failed_publish_leaves_page_iff {platform : Platform} {db : Database}
    {throws : PublishStatement → Bool} {pageId : RowId} {options : PublishOptions} {now : Date}
    {failure : PublishError} (keyed : WellKeyed db)
    (failed : (publishAttempt platform db throws pageId options now).1 = .error failure) :
    LeavesPage platform db (publishAttempt platform db throws pageId options now).2 pageId ↔
      ∀ page scrubbed, prepareAttempt platform db throws pageId = .ok (page, scrubbed) →
        throws .updatePage = true ∨ RepeatsPublish platform page scrubbed options now := by
  rcases publishAttempt_failed failed with ⟨same, unwritten⟩ | ⟨page, scrubbed, prepared, writes, same⟩
  · rw [same]
    exact iff_of_true (.refl platform db pageId) fun page scrubbed prepared =>
      .inl (unwritten page scrubbed prepared)
  · have found := prepareAttempt_found prepared
    obtain ⟨_, rfl⟩ := findLandingPage_id found
    rw [same, halfPublished_leaves_iff keyed found]
    constructor
    · intro repeats other otherScrubbed otherPrepared
      obtain ⟨rfl, rfl⟩ := Prod.mk.inj (Except.ok.inj (prepared.symm.trans otherPrepared))
      exact .inr repeats
    · intro condition
      refine (condition page scrubbed prepared).resolve_left fun throwsUpdate => ?_
      rw [writes] at throwsUpdate
      cases throwsUpdate

theorem failed_update_leaves_draft :
    LeavesPage .ascii draftDatabase
      (publishAttempt .ascii draftDatabase (· == .updatePage) 10 { visibility := .sharedWithLink } 4).2
      10 := by
  have failed : (publishAttempt .ascii draftDatabase (· == .updatePage) 10
      { visibility := .sharedWithLink } 4).1 = .error (.statement .updatePage) := by
    decide +kernel
  exact (failed_publish_leaves_page_iff draftDatabase_wellKeyed failed).mpr fun _ _ _ => .inl rfl

/-- The version cannot be created, and the draft is public all the same. -/
theorem failed_version_publishes_draft :
    (publishAttempt .ascii draftDatabase (· == .createVersion) 10
        { visibility := .sharedWithLink } 4).1 = .error (.statement .createVersion) ∧
      ¬LeavesPage .ascii draftDatabase
        (publishAttempt .ascii draftDatabase (· == .createVersion) 10
          { visibility := .sharedWithLink } 4).2 10 := by
  have shown : (publishAttempt .ascii draftDatabase (· == .createVersion) 10
      { visibility := .sharedWithLink } 4).1 = .error (.statement .createVersion) ∧
      ∀ row ∈ (publishAttempt .ascii draftDatabase (· == .createVersion) 10
        { visibility := .sharedWithLink } 4).2.landingPages, row.status = .published := by
    decide +kernel
  refine ⟨shown.1, fun leaves => ?_⟩
  obtain ⟨row, found, columns⟩ := leaves.columns namedDraft rfl
  have isPublished := shown.2 row (findLandingPage_id found).1
  have isDraft : row.status = .draft := congrArg Prod.fst columns
  rw [isPublished] at isDraft
  cases isDraft

end StoryEngine.Pages
