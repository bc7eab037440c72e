import StoryEngine.Pages.Anonymity

namespace StoryEngine.Pages

open Data Schema Text

/-! # Rollback and what was public -/

section

variable {platform : Platform} {db next : Database}

variable {pageId versionId : RowId} {page : LandingPage} {version : PublishedArtifactVersion}
  {now : Date}

theorem Effect.findLandingPage (effect : Effect db next)
    (found : findLandingPage db pageId = .ok page) :
    ∃ row, findLandingPage next pageId = .ok row ∧
      LandingPage.identity row = LandingPage.identity page := by
  have lookup := findLandingPage_eq_ok.mp found
  have rewritten {otherId : RowId} {change : LandingPage → LandingPage}
      (kept : ∀ row, LandingPage.identity (change row) = LandingPage.identity row)
      (pages : next.landingPages = updateWhere db.landingPages (·.id == otherId) change) :
      ∃ row, Pages.findLandingPage next pageId = .ok row ∧
        LandingPage.identity row = LandingPage.identity page := by
    refine ⟨if page.id == otherId then change page else page, ?_, ?_⟩
    · rw [findLandingPage_eq_ok, pages,
        find?_updateWhere fun row => by rw [identity_id (kept row)], lookup]
      rfl
    · split
      · exact kept page
      · rfl
  cases effect with
  | appends other fresh free pages versions ids =>
    exact ⟨page, by rw [findLandingPage_eq_ok, pages, List.find?_append, lookup]; rfl, rfl⟩
  | rewrites otherId change kept pages versions ids => exact rewritten kept pages
  | records other change selects retired version known kept pages versions fresh about ids =>
    exact rewritten kept pages

theorem Effect.findVersion {row : LandingPage}
    (effect : Effect db next)
    (same : LandingPage.identity row = LandingPage.identity page)
    (found : findVersion db page versionId = some version) :
    ∃ kept, findVersion next row versionId = some kept ∧
      PublishedArtifactVersion.snapshot kept = PublishedArtifactVersion.snapshot version := by
  unfold Pages.findVersion at found ⊢
  rw [identity_id same, identity_organizationId same]
  cases effect with
  | appends other fresh free pages versions ids => exact ⟨version, by rw [versions, found], rfl⟩
  | rewrites otherId change kept pages versions ids =>
    exact ⟨version, by rw [versions, found], rfl⟩
  | records other change selects retired added known kept pages versions fresh about ids =>
    refine ⟨if selects version then retireVersion retired version else version, ?_, ?_⟩
    · rw [versions, List.find?_append, find?_updateWhere, found]
      · rfl
      · exact fun _ => rfl
    · split <;> rfl

/-- The page and one of its versions are still there, up to what methods may
rewrite. -/
def Remembers (page : LandingPage) (version : PublishedArtifactVersion) (db : Database) : Prop :=
  ∃ row kept, findLandingPage db page.id = .ok row ∧
    LandingPage.identity row = LandingPage.identity page ∧
    findVersion db row version.id = some kept ∧
    PublishedArtifactVersion.snapshot kept = PublishedArtifactVersion.snapshot version

theorem step_remembers
    (db : Database) (action : PageAction) (remembers : Remembers page version db) :
    Remembers page version (step platform db action) := by
  rcases step_cases platform db action with applied | same
  · have effect := apply_effect applied
    obtain ⟨row, kept, found, sameRow, inVersions, sameVersion⟩ := remembers
    obtain ⟨later, laterFound, laterSame⟩ := effect.findLandingPage found
    obtain ⟨laterKept, laterIn, laterVersion⟩ := effect.findVersion laterSame inVersions
    exact ⟨later, laterKept, laterFound, laterSame.trans sameRow, laterIn,
      laterVersion.trans sameVersion⟩
  · rwa [same]

theorem run_remembers
    (actions : List PageAction) (remembers : Remembers page version db) :
    Remembers page version (run (step platform) db actions) :=
  run_invariant (Remembers page version) step_remembers actions remembers

theorem run_orgSettings (actions : List PageAction) :
    (run (step platform) db actions).orgSettings = db.orgSettings := by
  refine run_invariant (fun state : Database => state.orgSettings = db.orgSettings) ?_ actions rfl
  intro state action same
  rw [step_orgSettings, same]

theorem run_wellKeyed (actions : List PageAction) (keyed : WellKeyed db) :
    WellKeyed (run (step platform) db actions) :=
  run_invariant WellKeyed (fun _ _ => step_wellKeyed) actions keyed

/-- The version holds what its rollback writes back into the row. -/
structure Records (version : PublishedArtifactVersion) (page : LandingPage) : Prop where
  title : version.titleSnapshot = page.title
  subtitle : version.subtitleSnapshot = page.subtitle
  body : version.bodySnapshot = page.editableBody
  callouts : version.calloutBoxesSnapshot = page.calloutBoxes
  visibility : version.visibilitySnapshot = page.visibility
  expiry : version.expiresAtSnapshot = page.expiresAt

theorem Records.of_snapshot {kept : PublishedArtifactVersion} (records : Records version page)
    (same : PublishedArtifactVersion.snapshot kept = PublishedArtifactVersion.snapshot version) :
    Records kept page where
  title := (congrArg (·.titleSnapshot) same).trans records.title
  subtitle := (congrArg (·.subtitleSnapshot) same).trans records.subtitle
  body := (congrArg (·.bodySnapshot) same).trans records.body
  callouts := (congrArg (·.calloutBoxesSnapshot) same).trans records.callouts
  visibility := (congrArg (·.visibilitySnapshot) same).trans records.visibility
  expiry := (congrArg (·.expiresAtSnapshot) same).trans records.expiry

theorem publish_records {options : PublishOptions}
    {receipt : PublishReceipt} (keyed : WellKeyed db)
    (published : publish platform db pageId options now = .ok (next, receipt))
    (recorded : next.publishedArtifactVersions.getLast? = some version) :
    ∃ row, findLandingPage next pageId = .ok row ∧ receipt.slug = row.slug ∧
      Remembers row version next ∧ row.status = .published ∧ Records version row := by
  obtain ⟨page, scrubbed, prepared, result⟩ := publish_eq_ok.mp published
  obtain ⟨rfl, rfl⟩ := Prod.mk.inj result
  obtain ⟨found, _⟩ := preparePublish_eq_ok.mp prepared
  obtain ⟨inTable, rfl⟩ := findLandingPage_id found
  have rowFound : findLandingPage (publishedTables platform db page scrubbed options now) page.id =
      .ok (publishData platform scrubbed options now page) :=
    findLandingPage_updated (publishData platform scrubbed options now) (fun _ => rfl) found
  obtain rfl : publishedVersion (publishedTables platform db page scrubbed options now)
      (publishData platform scrubbed options now page) options now = version := by
    simpa [appendVersion] using recorded
  refine ⟨publishData platform scrubbed options now page, rowFound, rfl, ?_, rfl,
    ⟨rfl, rfl, rfl, rfl, rfl, rfl⟩⟩
  refine ⟨publishData platform scrubbed options now page, _, rowFound, rfl, ?_, rfl⟩
  have unused : (updateWhere db.publishedArtifactVersions
      (fun old => old.landingPageId == page.id && old.organizationId == page.organizationId &&
        old.status == .active) (retireVersion .superseded)).find?
      (fun old => old.id == db.nextId && old.landingPageId == page.id &&
        old.organizationId == page.organizationId) = none := by
    rw [find?_updateWhere, Option.map_eq_none_iff, List.find?_eq_none]
    · intro old member
      have below := keyed.freshVersions old member
      simp [Nat.ne_of_lt below]
    · exact fun _ => rfl
  unfold findVersion appendVersion
  simp only [List.find?_append]
  rw [show (publishedVersion (publishedTables platform db page scrubbed options now)
    (publishData platform scrubbed options now page) options now).id = db.nextId from rfl]
  refine (congrArg (Option.or · _) unused).trans ?_
  simp [publishedVersion, publishedTables, publishData]

/-- Two rows of a page whose scrubbed columns hold the same. -/
structure SameScrubbedColumns (left right : LandingPage) : Prop where
  title : left.scrubbedTitle = right.scrubbedTitle
  subtitle : left.scrubbedSubtitle = right.scrubbedSubtitle
  body : left.scrubbedBody = right.scrubbedBody
  callouts : left.scrubbedCalloutBoxes = right.scrubbedCalloutBoxes

/-- What a visitor notices of a row and a rollback leaves as it is: the password, and the
scrubbed columns of an anonymous page. -/
structure Restorable (db : Database) (last first : LandingPage) : Prop where
  password : last.password = first.password
  scrubbed : Anonymous db last → SameScrubbedColumns last first

theorem servedContent_rollback {row : LandingPage} (settings : next.orgSettings = db.orgSettings)
    (same : LandingPage.identity row = LandingPage.identity page) (records : Records version page)
    (scrubbed : Anonymous next row → SameScrubbedColumns row page) :
    servedContent next (rollbackData version now row) = servedContent db page := by
  have mode : servesOriginal next (rollbackData version now row) = servesOriginal db page :=
    servesOriginal_congr settings same
  unfold servedContent
  rw [mode]
  by_cases original : servesOriginal db page = true
  · rw [if_pos original, if_pos original]
    simp [originalContent, rollbackData, records.title, records.subtitle, records.body,
      records.callouts]
  · have anonymous : Anonymous db page := by simpa [Anonymous] using original
    have columns := scrubbed ((anonymous_congr settings same).mpr anonymous)
    rw [if_neg original, if_neg original]
    simp [anonymizedContent, rollbackData, records.title, records.subtitle, records.body,
      records.callouts, columns.title, columns.subtitle, columns.body, columns.callouts]

/-- The page is shown again, or hidden again, to a visitor with the same password. -/
theorem publicView_rollback {row : LandingPage} {password : Option Text} {firstNow lastNow : Date}
    (content : servedContent next (rollbackData version now row) = servedContent db page)
    (published : page.status = .published) (records : Records version page)
    (samePassword : row.password = page.password)
    (expiry : isExpired page lastNow = isExpired page firstNow) :
    (publicView platform next (rollbackData version now row) password lastNow).map (·.content) =
      (publicView platform db page password firstNow).map (·.content) := by
  have expired : isExpired (rollbackData version now row) lastNow = isExpired page firstNow := by
    rw [← expiry, isExpired, isExpired, rollbackData, records.expiry]
  have visible : (rollbackData version now row).visibility = page.visibility := records.visibility
  have accepted : passwordAccepted platform (rollbackData version now row) password =
      passwordAccepted platform page password := by
    rw [passwordAccepted, passwordAccepted, rollbackData, samePassword]
  have status : (rollbackData version now row).status = page.status := published.symm
  unfold publicView
  rw [expired, visible, accepted, status]
  split
  · exact congrArg some content
  · rfl

theorem rollback_row
    (actorUserId : RowId) (now : Date) (keyed : WellKeyed db)
    (found : findLandingPage db pageId = .ok page)
    (inVersions : findVersion db page versionId = some version) :
    ∃ restored, rollbackLandingPageToVersion db pageId versionId actorUserId now = .ok restored ∧
      restored.orgSettings = db.orgSettings ∧
      restored.landingPages.find? (·.slug == page.slug) = some (rollbackData version now page) := by
  have rolledBack : rollbackLandingPageToVersion db pageId versionId actorUserId now = .ok _ :=
    rollback_eq_ok.mpr ⟨page, version, found, inVersions, rfl⟩
  have lookup : db.landingPages.find? (·.slug == page.slug) = some page :=
    (find?_key_eq_some keyed.distinctSlugs).mpr ⟨(findLandingPage_id found).1, rfl⟩
  have rewritten : (updateWhere db.landingPages (·.id == pageId)
      (rollbackData version now)).find? (·.slug == page.slug) = some (rollbackData version now page) := by
    rw [find?_updateWhere, lookup]
    · simp [(findLandingPage_id found).2]
    · exact fun _ => rfl
  exact ⟨_, rolledBack, rfl, rewritten⟩

end

/-- A page is rolled back, after any run, to a version that one of its publishes recorded.  When
the run has left its password, and the scrubbed columns of an anonymous page, as that publish
did, the page serves again what it served right after the publish, to the same visitors. -/
theorem rollback_restores_public {platform : Platform} {initial afterPublish : Database}
    {before between : List PageAction} {pageId actorUserId : RowId} {options : PublishOptions}
    {publishedAt rolledBackAt : Date} {receipt : PublishReceipt}
    {version : PublishedArtifactVersion} (empty : NoPages initial)
    (published : publish platform (run (step platform) initial before) pageId options publishedAt =
      .ok (afterPublish, receipt))
    (recorded : afterPublish.publishedArtifactVersions.getLast? = some version)
    (unchanged : ∀ first last, findLandingPage afterPublish pageId = .ok first →
      findLandingPage (run (step platform) afterPublish between) pageId = .ok last →
      Restorable (run (step platform) afterPublish between) last first) :
    ∃ first restored, findLandingPage afterPublish pageId = .ok first ∧
      rollbackLandingPageToVersion (run (step platform) afterPublish between) pageId version.id
        actorUserId rolledBackAt = .ok restored ∧
      ∀ password firstNow lastNow, isExpired first lastNow = isExpired first firstNow →
        (getPublicBySlug platform restored receipt.slug password lastNow).map (·.1.content) =
          (getPublicBySlug platform afterPublish receipt.slug password firstNow).map
            (·.1.content) := by
  have keyed : WellKeyed (run (step platform) initial before) := run_wellKeyed before empty.wellKeyed
  obtain ⟨row, rowFound, slug, remembers, isPublished, records⟩ :=
    publish_records keyed published recorded
  have rowKey := findLandingPage_id rowFound
  have keyedAfter : WellKeyed afterPublish := by
    have applied : apply platform (run (step platform) initial before)
        (.publish pageId options publishedAt) = .ok afterPublish :=
      map_eq_ok.mpr ⟨_, published, rfl⟩
    exact (apply_effect applied).wellKeyed keyed
  have later : Remembers row version (run (step platform) afterPublish between) :=
    run_remembers between remembers
  obtain ⟨last, kept, lastFound, sameIdentity, inVersions, sameSnapshot⟩ := later
  rw [rowKey.2] at lastFound
  have keyedLater : WellKeyed (run (step platform) afterPublish between) :=
    run_wellKeyed between keyedAfter
  obtain ⟨restored, rolledBack, settings, lastRow⟩ :=
    rollback_row actorUserId rolledBackAt keyedLater lastFound inVersions
  refine ⟨row, restored, rowFound, rolledBack, ?_⟩
  intro password firstNow lastNow expiry
  have firstRow : afterPublish.landingPages.find? (·.slug == receipt.slug) = some row :=
    (find?_key_eq_some keyedAfter.distinctSlugs).mpr ⟨rowKey.1, slug.symm⟩
  rw [← identity_slug sameIdentity] at slug
  rw [← slug] at lastRow
  have sameSettings : (run (step platform) afterPublish between).orgSettings =
      afterPublish.orgSettings := run_orgSettings between
  have restorable := unchanged row last rowFound lastFound
  have again : Records kept row := records.of_snapshot sameSnapshot
  have content : servedContent restored (rollbackData kept rolledBackAt last) =
      servedContent afterPublish row := by
    apply servedContent_rollback (settings.trans sameSettings) sameIdentity again
    intro anonymous
    exact restorable.scrubbed ((anonymous_congr settings rfl).mp anonymous)
  have shown (db : Database) (row : LandingPage) (now : Date)
      (found : db.landingPages.find? (·.slug == receipt.slug) = some row) :
      (getPublicBySlug platform db receipt.slug password now).map (·.1.content) =
        (publicView platform db row password now).map (·.content) := by
    rw [getPublicBySlug_eq, found, Option.bind_some, Option.map_map]
    rfl
  rw [shown restored _ lastNow lastRow, shown afterPublish row firstNow firstRow]
  exact publicView_rollback content isPublished again restorable.password expiry

def retitle : PageAction := .update 10 3 { title := some ("Sales on one page" : String) } 3

theorem retitled_page_is_restored :
    ∃ first restored, findLandingPage launchedDatabase 10 = .ok first ∧
      rollbackLandingPageToVersion (run (step .ascii) launchedDatabase [retitle, .unpublish 10 4])
        10 launchedVersion.id 3 5 = .ok restored ∧
      ∀ password firstNow lastNow, isExpired first lastNow = isExpired first firstNow →
        (getPublicBySlug .ascii restored launchSlug password lastNow).map (·.1.content) =
          (getPublicBySlug .ascii launchedDatabase launchSlug password firstNow).map
            (·.1.content) := by
  refine rollback_restores_public ⟨rfl, rfl⟩ publish_launch rfl fun first last known later => ?_
  have changed : findLandingPage (run (step .ascii) launchedDatabase [retitle, .unpublish 10 4]) 10 =
      .ok { launchedPage with
        title := ("Sales on one page" : String), status := .draft, publishedAt := none
        updatedAt := 4 } := by
    decide +kernel
  obtain rfl : launchedPage = first := Except.ok.inj known
  obtain rfl := Except.ok.inj (changed.symm.trans later)
  exact ⟨rfl, fun _ => ⟨rfl, rfl, rfl, rfl⟩⟩

/-- After a second publish the rollback leaves the newer title in public. -/
theorem rollback_serves_newer_title :
    NoPages launchDatabase ∧
    publish .ascii (run (step .ascii) launchDatabase (launch.take 1)) 10
      { visibility := .sharedWithLink } 2 =
        .ok (launchedDatabase, publishReceipt .ascii launchedPage) ∧
    launchedDatabase.publishedArtifactVersions.getLast? = some launchedVersion ∧
    ∃ restored first firstCounted last lastCounted,
      rollbackLandingPageToVersion (run (step .ascii) launchedDatabase
        [retitle, .publish 10 { visibility := .sharedWithLink } 4]) 10 launchedVersion.id 3 5 =
          .ok restored ∧
      getPublicBySlug .ascii launchedDatabase launchSlug none 6 = some (first, firstCounted) ∧
      getPublicBySlug .ascii restored launchSlug none 6 = some (last, lastCounted) ∧
      last.content ≠ first.content := by
  refine ⟨⟨rfl, rfl⟩, publish_launch, rfl, ?_⟩
  have shown : ((rollbackLandingPageToVersion (run (step .ascii) launchedDatabase
      [retitle, .publish 10 { visibility := .sharedWithLink } 4]) 10 launchedVersion.id 3
        5).toOption.bind fun restored =>
          (getPublicBySlug .ascii restored launchSlug none 6).map fun result =>
            result.1.content.title) = some ("Sales on one page" : String).toList := by
    decide +kernel
  obtain ⟨restored, rolledBack, view⟩ := Option.bind_eq_some_iff.mp shown
  obtain ⟨⟨last, lastCounted⟩, lastServed, lastTitle⟩ := Option.map_eq_some_iff.mp view
  have original : ((getPublicBySlug .ascii launchedDatabase launchSlug none 6).map fun result =>
      result.1.content.title) = some ("Faster support" : String).toList := by
    decide +kernel
  obtain ⟨⟨first, firstCounted⟩, firstServed, firstTitle⟩ := Option.map_eq_some_iff.mp original
  refine ⟨restored, first, firstCounted, last, lastCounted, toOption_eq_some.mp rolledBack,
    firstServed, lastServed, ?_⟩
  intro same
  have titles := congrArg PageContent.title same
  rw [show last.content.title = _ from lastTitle, show first.content.title = _ from firstTitle]
    at titles
  revert titles
  decide

end StoryEngine.Pages
