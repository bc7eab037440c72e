import StoryEngine.Pages.Lifecycle

namespace StoryEngine.Pages

open Data Schema Publish Scrub Text

/-! # Anonymity of public pages

A run is logged as the texts its publishes get from the scrubber.  A page that
is served anonymously should show texts of that log only. -/

inductive PublicField where
  | title
  | subtitle
  | body
  | calloutTitle
  | calloutBody
deriving DecidableEq

structure ScrubOutput where
  pageId : RowId
  field : PublicField
  text : Text
deriving DecidableEq

/-- The texts that `publish` sends to the scrubber for each field. -/
def PublicField.inputs (page : LandingPage) : PublicField → List Text
  | .title => [page.title]
  | .subtitle => (page.subtitle.filter fun text => !text.isEmpty).toList
  | .body => [page.editableBody]
  | .calloutTitle => (decodeCalloutBoxes page.calloutBoxes).map (·.title)
  | .calloutBody => (decodeCalloutBoxes page.calloutBoxes).map (·.body)

def pageOutputs (cases : CaseMapping) (account : ScrubAccount) (page : LandingPage) :
    List ScrubOutput :=
  [PublicField.title, .subtitle, .body, .calloutTitle, .calloutBody].flatMap fun field =>
    (field.inputs page).map fun input =>
      { pageId := page.id, field, text := (scrubForAccount cases account input).scrubbedText }

/-- The anonymous page that `publish` scrubs and the account it scrubs for. -/
def publishSources (db : Database) (pageId : RowId) :
    Except EditorError (LandingPage × ScrubAccount) := do
  let page ← findLandingPage db pageId
  let story ← findStory db page.storyId
  let account ← loadScrubAccount db story.accountId
  return (page, account)

def scrubOutputs (platform : Platform) (db : Database) : PageAction → List ScrubOutput
  | .publish pageId options now =>
    match publish platform db pageId options now, publishSources db pageId with
    | .ok _, .ok (page, account) =>
      if page.includeCompanyName then [] else pageOutputs platform.cases account page
    | _, _ => []
  | _ => []

def ServesOnlyScrubbed (outputs : List ScrubOutput) (pageId : RowId) (content : PageContent) :
    Prop :=
  { pageId, field := .title, text := content.title } ∈ outputs ∧
    (∀ text ∈ content.subtitle, { pageId, field := .subtitle, text } ∈ outputs) ∧
    { pageId, field := .body, text := content.body } ∈ outputs ∧
    ∀ box ∈ content.calloutBoxes,
      { pageId, field := .calloutTitle, text := box.title } ∈ outputs ∧
        { pageId, field := .calloutBody, text := box.body } ∈ outputs

/-- A page of the claim: anonymous, in an organization that anonymizes. -/
def Anonymous (db : Database) (page : LandingPage) : Prop := servesOriginal db page = false

variable {page : LandingPage}

theorem Anonymous.notNamed {db : Database} (anonymous : Anonymous db page) :
    page.includeCompanyName = false := by
  simp only [Anonymous, servesOriginal, Bool.or_eq_false_iff] at anonymous
  exact anonymous.2

def Covered (subtitle : Option Text) (calloutBoxes : Option (List CalloutBox))
    (page : LandingPage) : Prop :=
  (subtitle ≠ none → page.scrubbedSubtitle ≠ none) ∧
    (decodeCalloutBoxes calloutBoxes ≠ [] → decodeCalloutBoxes page.scrubbedCalloutBoxes ≠ [])

/-- The scrubbed columns hold scrubber outputs; they are filled once the page
has been published; what is shared falls back to nothing. -/
structure PageScrubbed (outputs : List ScrubOutput) (hasVersion : Prop) (page : LandingPage) :
    Prop where
  title : ∀ text ∈ page.scrubbedTitle, { pageId := page.id, field := .title, text } ∈ outputs
  subtitle : ∀ text ∈ page.scrubbedSubtitle,
    { pageId := page.id, field := .subtitle, text } ∈ outputs
  body : page.scrubbedBody ≠ [] →
    { pageId := page.id, field := .body, text := page.scrubbedBody } ∈ outputs
  callouts : ∀ box ∈ decodeCalloutBoxes page.scrubbedCalloutBoxes,
    { pageId := page.id, field := .calloutTitle, text := box.title } ∈ outputs ∧
      { pageId := page.id, field := .calloutBody, text := box.body } ∈ outputs
  filled : page.status = .published ∨ hasVersion →
    page.scrubbedTitle ≠ none ∧ page.scrubbedBody ≠ []
  covered : page.status = .published → page.visibility = .sharedWithLink →
    Covered page.subtitle page.calloutBoxes page

def HasVersion (db : Database) (pageId : RowId) : Prop :=
  ∃ version ∈ db.publishedArtifactVersions, version.landingPageId = pageId

structure AllScrubbed (outputs : List ScrubOutput) (db : Database) : Prop where
  keyed : WellKeyed db
  scrubbed : ∀ page ∈ db.landingPages, Anonymous db page →
    PageScrubbed outputs (HasVersion db page.id) page

theorem PageScrubbed.mono {outputs more : List ScrubOutput} {before after : Prop}
    (safe : PageScrubbed outputs before page)
    (noVersion : after → before) : PageScrubbed (outputs ++ more) after page where
  title text member := List.mem_append_left _ (safe.title text member)
  subtitle text member := List.mem_append_left _ (safe.subtitle text member)
  body nonempty := List.mem_append_left _ (safe.body nonempty)
  callouts box member :=
    ⟨List.mem_append_left _ (safe.callouts box member).1,
      List.mem_append_left _ (safe.callouts box member).2⟩
  filled shown := safe.filled (shown.imp_right noVersion)
  covered := safe.covered

theorem PageScrubbed.serves {outputs : List ScrubOutput} {hasVersion : Prop}
    (safe : PageScrubbed outputs hasVersion page) (published : page.status = .published)
    (shared : page.visibility = .sharedWithLink) :
    ServesOnlyScrubbed outputs page.id (anonymizedContent page) := by
  obtain ⟨titleFilled, bodyFilled⟩ := safe.filled (.inl published)
  obtain ⟨subtitleCovered, calloutsCovered⟩ := safe.covered published shared
  obtain ⟨title, titleKnown⟩ := Option.ne_none_iff_exists'.mp titleFilled
  refine ⟨?_, ?_, ?_, ?_⟩
  · simp only [anonymizedContent, titleKnown, Option.getD_some]
    exact safe.title title titleKnown
  · intro text member
    cases subtitleKnown : page.scrubbedSubtitle with
    | none =>
      have absent : page.subtitle = none := by
        by_contra present
        exact subtitleCovered present subtitleKnown
      simp [anonymizedContent, subtitleKnown, absent] at member
    | some scrubbed =>
      have same : scrubbed = text := by
        simpa [anonymizedContent, subtitleKnown] using member
      exact safe.subtitle text (same ▸ subtitleKnown)
  · have notEmpty : page.scrubbedBody.isEmpty = false := by simpa using bodyFilled
    simp only [anonymizedContent, notEmpty, Bool.false_eq_true, if_false]
    exact safe.body bodyFilled
  · intro box member
    by_cases empty : decodeCalloutBoxes page.scrubbedCalloutBoxes = []
    · have none : decodeCalloutBoxes page.calloutBoxes = [] := by
        by_contra some
        exact calloutsCovered some empty
      simp [anonymizedContent, empty, none] at member
    · have notEmpty : (decodeCalloutBoxes page.scrubbedCalloutBoxes).isEmpty = false := by
        simpa using empty
      simp only [anonymizedContent, notEmpty, Bool.false_eq_true, if_false] at member
      exact safe.callouts box member

/-- Nothing raw is put where the delivery would fall back to it: no subtitle or
callouts on a shared page without scrubbed ones, neither by an edit nor by a
rollback, and no empty subtitle at a publish. -/
def KeepsCovered (db : Database) : PageAction → Prop
  | .update pageId _ input _ =>
    ∀ page, findLandingPage db pageId = .ok page → Anonymous db page →
      page.status = .published → page.visibility = .sharedWithLink →
      Covered input.subtitle input.calloutBoxes page
  | .publish pageId options _ =>
    ∀ page, findLandingPage db pageId = .ok page → Anonymous db page →
      options.visibility = .sharedWithLink → page.subtitle ≠ some []
  | .rollbackToVersion pageId versionId _ _ =>
    ∀ page version, findLandingPage db pageId = .ok page →
      findVersion db page versionId = some version → Anonymous db page →
      version.visibilitySnapshot = .sharedWithLink →
      Covered version.subtitleSnapshot version.calloutBoxesSnapshot page
  | .create .. | .unpublish .. | .archive .. => True

section

variable {platform : Platform} {db next : Database} {outputs : List ScrubOutput}

variable {page : LandingPage} {pageId : RowId} {hasVersion : Prop} {now : Date}
  {version : PublishedArtifactVersion} {account : ScrubAccount} {action : PageAction}

theorem servesOriginal_congr {row : LandingPage}
    (settings : next.orgSettings = db.orgSettings)
    (same : LandingPage.identity row = LandingPage.identity page) :
    servesOriginal next row = servesOriginal db page := by
  simp only [servesOriginal, getPagePresentationSettings, settings, identity_organizationId same,
    identity_includeCompanyName same]

theorem anonymous_congr {row : LandingPage} (settings : next.orgSettings = db.orgSettings)
    (same : LandingPage.identity row = LandingPage.identity page) :
    Anonymous next row ↔ Anonymous db page := by
  rw [Anonymous, Anonymous, servesOriginal_congr settings same]

theorem AllScrubbed.rewrite {more : List ScrubOutput}
    (all : AllScrubbed outputs db) (change : LandingPage → LandingPage)
    (keyed : WellKeyed next) (settings : next.orgSettings = db.orgSettings)
    (kept : ∀ row, LandingPage.identity (change row) = LandingPage.identity row)
    (pages : next.landingPages = updateWhere db.landingPages (·.id == pageId) change)
    (versions : ∀ otherId, otherId ≠ pageId → HasVersion next otherId → HasVersion db otherId)
    (found : findLandingPage db pageId = .ok page)
    (scrubbed : Anonymous db page → PageScrubbed outputs (HasVersion db pageId) page →
      PageScrubbed (outputs ++ more) (HasVersion next pageId) (change page)) :
    AllScrubbed (outputs ++ more) next := by
  refine ⟨keyed, fun row member anonymous => ?_⟩
  rw [pages] at member
  obtain ⟨old, inOld, ⟨selected, rfl⟩ | ⟨other, rfl⟩⟩ := mem_updateWhere.mp member
  · have sameId : old.id = pageId := by simpa using selected
    obtain ⟨inTable, pageKey⟩ := findLandingPage_id found
    obtain rfl : old = page :=
      List.inj_on_of_nodup_map all.keyed.distinctIds inOld inTable (sameId.trans pageKey.symm)
    have before := (anonymous_congr settings (kept old)).mp anonymous
    have changedId : (change old).id = old.id := congrArg Prod.fst (kept old)
    have safe := all.scrubbed old inOld before
    rw [changedId, sameId]
    rw [sameId] at safe
    exact scrubbed before safe
  · have different : row.id ≠ pageId := by simpa using other
    have before : Anonymous db row := (anonymous_congr settings rfl).mp anonymous
    exact (all.scrubbed row inOld before).mono (versions row.id different)

theorem update_keeps_scrubbed
    {input : UpdateLandingPageInput}
    (safe : PageScrubbed outputs hasVersion page)
    (guarded : page.status = .published → page.visibility = .sharedWithLink →
      Covered input.subtitle input.calloutBoxes page) :
    PageScrubbed outputs hasVersion (pageUpdateData input now page) := by
  refine ⟨safe.title, safe.subtitle, safe.body, safe.callouts, safe.filled, ?_⟩
  intro published shared
  obtain ⟨inputSubtitle, inputCallouts⟩ := guarded published shared
  obtain ⟨pageSubtitle, pageCallouts⟩ := safe.covered published shared
  constructor
  · intro present
    cases given : input.subtitle with
    | none => exact pageSubtitle (by simpa [pageUpdateData, given] using present)
    | some subtitle => exact inputSubtitle (by simp [given])
  · intro present
    cases given : input.calloutBoxes with
    | none => exact pageCallouts (by simpa [pageUpdateData, given] using present)
    | some boxes => exact inputCallouts (by simpa [pageUpdateData, given] using present)

theorem hide_keeps_scrubbed {hidden : LandingPage}
    (safe : PageScrubbed outputs hasVersion page) (notPublished : hidden.status ≠ .published)
    (same : hidden = { page with
      status := hidden.status
      publishedAt := hidden.publishedAt
      updatedAt := hidden.updatedAt }) :
    PageScrubbed outputs hasVersion hidden := by
  rw [same]
  refine ⟨safe.title, safe.subtitle, safe.body, safe.callouts, ?_, ?_⟩
  · intro shown
    exact safe.filled (.inr (shown.resolve_left notPublished))
  · intro published
    exact absurd published notPublished

theorem rollback_keeps_scrubbed {before after : Prop}
    (safe : PageScrubbed outputs before page) (recorded : before)
    (guarded : version.visibilitySnapshot = .sharedWithLink →
      Covered version.subtitleSnapshot version.calloutBoxesSnapshot page) :
    PageScrubbed outputs after (rollbackData version now page) :=
  ⟨safe.title, safe.subtitle, safe.body, safe.callouts, fun _ => safe.filled (.inr recorded),
    fun _ shared => guarded shared⟩

theorem mem_pageOutputs {cases : CaseMapping}
    {field : PublicField} {input : Text} (member : input ∈ field.inputs page) :
    { pageId := page.id, field, text := scrubText cases account input } ∈
      pageOutputs cases account page := by
  refine List.mem_flatMap.mpr ⟨field, ?_, List.mem_map_of_mem member⟩
  cases field <;> simp

theorem publish_scrubs {recorded : Prop}
    {options : PublishOptions}
    (safe : PageScrubbed outputs hasVersion page)
    (bodyFilled : (scrubPage platform.cases account page).body ≠ [])
    (guarded : options.visibility = .sharedWithLink → page.subtitle ≠ some []) :
    PageScrubbed (outputs ++ pageOutputs platform.cases account page) recorded
      (publishData platform (scrubPage platform.cases account page) options now page) := by
  have produced {field : PublicField} {input : Text} (member : input ∈ field.inputs page) :
      { pageId := page.id, field, text := scrubText platform.cases account input } ∈
        outputs ++ pageOutputs platform.cases account page :=
    List.mem_append_right _ (mem_pageOutputs member)
  refine ⟨?_, ?_, ?_, ?_, ?_, ?_⟩
  · intro text member
    obtain rfl : scrubText platform.cases account page.title = text := Option.some.inj member
    exact produced (by simp [PublicField.inputs])
  · intro text member
    obtain ⟨input, inPage, rfl⟩ := Option.map_eq_some_iff.mp member
    exact produced (by simpa [PublicField.inputs] using inPage)
  · exact fun _ => produced (by simp [PublicField.inputs])
  · intro box member
    cases known : page.calloutBoxes with
    | none =>
      have old : box ∈ decodeCalloutBoxes page.scrubbedCalloutBoxes := by
        simpa [publishData, scrubPage, known] using member
      obtain ⟨title, body⟩ := safe.callouts box old
      exact ⟨List.mem_append_left _ title, List.mem_append_left _ body⟩
    | some boxes =>
      obtain ⟨raw, inBoxes, rfl⟩ : ∃ raw ∈ boxes,
          scrubCallout platform.cases account raw = box := by
        simpa [publishData, scrubPage, known, decodeCalloutBoxes] using member
      constructor
      · exact produced (List.mem_map.mpr ⟨raw, by simpa [known, decodeCalloutBoxes], rfl⟩)
      · exact produced (List.mem_map.mpr ⟨raw, by simpa [known, decodeCalloutBoxes], rfl⟩)
  · exact fun _ => ⟨by simp [publishData], bodyFilled⟩
  · intro _ shared
    constructor
    · intro present
      obtain ⟨subtitle, known⟩ := Option.ne_none_iff_exists'.mp present
      have given : page.subtitle = some subtitle := known
      have notEmpty : subtitle ≠ [] := by
        rintro rfl
        exact guarded shared given
      simp [publishData, scrubPage, given, notEmpty]
    · intro present
      have given : decodeCalloutBoxes page.calloutBoxes ≠ [] := present
      cases known : page.calloutBoxes with
      | none => simp [known, decodeCalloutBoxes] at given
      | some boxes =>
        have nonempty : boxes ≠ [] := by simpa [known, decodeCalloutBoxes] using given
        simpa [publishData, scrubPage, known, decodeCalloutBoxes] using nonempty

private theorem hasVersion_same
    (versions : next.publishedArtifactVersions = db.publishedArtifactVersions)
    (recorded : HasVersion next pageId) : HasVersion db pageId := by
  obtain ⟨version, member, about⟩ := recorded
  exact ⟨version, versions ▸ member, about⟩

private theorem hasVersion_appended {retired : VersionStatus}
    {otherId : RowId}
    (about : version.landingPageId = page.id) (other : otherId ≠ page.id)
    (recorded : HasVersion (appendVersion db page retired version) otherId) :
    HasVersion db otherId := by
  obtain ⟨row, member, rowPage⟩ := recorded
  rcases List.mem_append.mp member with inOld | isNew
  · obtain ⟨old, inTable, ⟨_, rfl⟩ | ⟨_, rfl⟩⟩ := mem_updateWhere.mp inOld
    · exact ⟨old, inTable, rowPage⟩
    · exact ⟨row, inTable, rowPage⟩
  · rw [List.mem_singleton.mp isNew, about] at rowPage
    exact absurd rowPage.symm other

private theorem scrubOutputs_failed {failure : EditorError}
    (failed : apply platform db action = .error failure) : scrubOutputs platform db action = [] := by
  cases action with
  | publish pageId options now =>
    cases published : publish platform db pageId options now with
    | ok result => simp [apply, published, Except.map] at failed
    | error other => simp [scrubOutputs, published]
  | create input random now => rfl
  | update pageId userId input now => rfl
  | unpublish pageId now => rfl
  | archive pageId now => rfl
  | rollbackToVersion pageId versionId actorUserId now => rfl

private theorem create_keeps_scrubbed {input : CreateLandingPageInput} {random : SlugSuffixes}
    {story : Story} (all : AllScrubbed outputs db)
    (keyed : WellKeyed { db with
      nextId := db.nextId + 1
      landingPages := db.landingPages ++ [newLandingPage platform db input story random now] }) :
    AllScrubbed outputs { db with
      nextId := db.nextId + 1
      landingPages := db.landingPages ++ [newLandingPage platform db input story random now] } := by
  refine ⟨keyed, fun page member anonymous => ?_⟩
  rcases List.mem_append.mp member with inOld | isNew
  · exact all.scrubbed page inOld anonymous
  · rw [List.mem_singleton.mp isNew]
    refine ⟨by simp [newLandingPage], by simp [newLandingPage], by simp [newLandingPage],
      by simp [newLandingPage, decodeCalloutBoxes], ?_, by simp [newLandingPage]⟩
    rintro (published | ⟨version, recorded, about⟩)
    · cases published
    · have below := all.keyed.versionPages version recorded
      rw [about] at below
      exact absurd below (Nat.lt_irrefl _)

theorem step_keeps_scrubbed (all : AllScrubbed outputs db)
    (guarded : KeepsCovered db action) :
    AllScrubbed (outputs ++ scrubOutputs platform db action) (step platform db action) := by
  unfold step
  cases applied : apply platform db action with
  | error failure =>
    rw [scrubOutputs_failed applied, List.append_nil]
    exact all
  | ok next =>
    have keyed := (apply_effect applied).wellKeyed all.keyed
    have settings := apply_orgSettings applied
    cases action with
    | create input random now =>
      obtain ⟨result, created, rfl⟩ := map_eq_ok.mp applied
      obtain ⟨story, _, _, rfl⟩ := create_eq_ok.mp created
      simp only [scrubOutputs, List.append_nil]
      exact create_keeps_scrubbed all keyed
    | update pageId userId input now =>
      obtain ⟨result, updated, rfl⟩ := map_eq_ok.mp applied
      obtain ⟨existing, found, _, rfl⟩ := update_eq_ok.mp updated
      refine all.rewrite (pageUpdateData input now) keyed settings (fun _ => rfl)
        (by simp) (fun _ _ => hasVersion_same (by simp)) found fun anonymous safe => ?_
      exact (update_keeps_scrubbed safe (guarded existing found anonymous)).mono
        (hasVersion_same (by simp))
    | publish pageId options now =>
      obtain ⟨result, published, rfl⟩ := map_eq_ok.mp applied
      have succeeded := published
      obtain ⟨page, scrubbed, prepared, rfl⟩ := publish_eq_ok.mp published
      obtain ⟨found, story, inStory, _, scrubs, valid⟩ := preparePublish_eq_ok.mp prepared
      have pageKey := (findLandingPage_id found).2
      refine all.rewrite (publishData platform scrubbed options now) keyed settings
        (fun _ => rfl) (by rw [← pageKey]; rfl) (fun otherId other recorded => ?_) found
        fun anonymous safe => ?_
      · rw [← pageKey] at other
        exact hasVersion_same rfl (hasVersion_appended rfl other recorded)
      · obtain ⟨account, loaded, rfl, _⟩ :=
          scrubForPublish_anonymous anonymous.notNamed scrubs
        have sources : publishSources db pageId = .ok (page, account) := by
          simp [publishSources, found, inStory, loaded]
        rw [scrubOutputs, succeeded, sources]
        simp only [anonymous.notNamed, Bool.false_eq_true, if_false]
        exact publish_scrubs safe (validatePublishSnapshot_body valid)
          (guarded page found anonymous)
    | unpublish pageId now =>
      obtain ⟨page, found, rfl⟩ := changeStatus_eq_ok.mp applied
      refine all.rewrite (unpublishData now) keyed settings (fun _ => rfl) rfl
        (fun _ _ recorded => recorded) found fun _ safe => ?_
      exact (hide_keeps_scrubbed safe (by simp [unpublishData]) rfl).mono fun recorded => recorded
    | archive pageId now =>
      obtain ⟨page, found, rfl⟩ := changeStatus_eq_ok.mp applied
      refine all.rewrite (archiveData now) keyed settings (fun _ => rfl) rfl
        (fun _ _ recorded => recorded) found fun _ safe => ?_
      exact (hide_keeps_scrubbed safe (by simp [archiveData]) rfl).mono fun recorded => recorded
    | rollbackToVersion pageId versionId actorUserId now =>
      obtain ⟨page, version, found, inVersions, rfl⟩ := rollback_eq_ok.mp applied
      have pageKey := (findLandingPage_id found).2
      refine all.rewrite (rollbackData version now) keyed settings (fun _ => rfl) rfl
        (fun otherId other recorded => ?_) found fun anonymous safe => ?_
      · rw [← pageKey] at other
        exact hasVersion_same rfl (hasVersion_appended rfl other recorded)
      · have recorded : HasVersion db pageId := by
          have criteria := List.find?_some inVersions
          simp only [Bool.and_eq_true, beq_iff_eq] at criteria
          exact ⟨version, List.mem_of_find?_eq_some inVersions, criteria.1.2.trans pageKey⟩
        simp only [scrubOutputs, List.append_nil]
        exact rollback_keeps_scrubbed safe recorded
          (guarded page version found inVersions anonymous)

end

theorem NoPages.allScrubbed {db : Database} (empty : NoPages db) : AllScrubbed [] db where
  keyed := empty.wellKeyed
  scrubbed := by simp [empty.pages]

/-- After any run that puts nothing raw behind a missing scrubbed column, an
anonymous page is served with texts that the scrubber produced for the same
field of the same page. -/
theorem run_serves_only_scrubbed {platform : Platform} {initial : Database}
    {actions : List PageAction} {slug : Text} {password : Option Text} {now : Date}
    {view : PublicPage} {counted : Database} {page : LandingPage} (empty : NoPages initial)
    (guarded : Guarded (step platform) KeepsCovered initial actions)
    (served : getPublicBySlug platform (run (step platform) initial actions) slug password now =
      some (view, counted))
    (found : (run (step platform) initial actions).landingPages.find? (·.slug == slug) = some page)
    (anonymous : Anonymous (run (step platform) initial actions) page) :
    ServesOnlyScrubbed (log (step platform) (scrubOutputs platform) initial actions) page.id
      view.content := by
  have all := run_log_invariant AllScrubbed (fun _ _ _ => step_keeps_scrubbed) empty.allScrubbed
    guarded
  rw [List.nil_append] at all
  obtain ⟨row, rowFound, published, shared, content⟩ := getPublicBySlug_served served
  obtain rfl : row = page := Option.some.inj (rowFound.symm.trans found)
  have notOriginal : servesOriginal (run (step platform) initial actions) row = false := anonymous
  rw [content, servedContent, notOriginal]
  exact (all.scrubbed row (List.mem_of_find?_eq_some rowFound) anonymous).serves published shared

def launchDatabase : Database where
  nextId := 10
  accounts := [{
    id := 1
    organizationId := 7
    name := ("Acme" : String)
    normalizedName := ("acme" : String) }]
  stories := [{
    id := 2
    organizationId := 7
    accountId := 1
    markdownBody :=
      ("Acme moved all of its support teams to the new platform within a month." : String) }]

def launchSlug : Text := ("faster-support-00000000" : String)

def launch : List PageAction := [
  .create { storyId := 2, organizationId := 7, createdById := 3,
            title := ("Faster support" : String) }
    { short := ("00000000" : String), long := ("000000000000" : String) } 1,
  .publish 10 { visibility := .sharedWithLink } 2]

def launchedPage : LandingPage where
  id := 10
  organizationId := 7
  storyId := 2
  createdById := 3
  slug := launchSlug
  title := ("Faster support" : String)
  editableBody :=
    ("Acme moved all of its support teams to the new platform within a month." : String)
  scrubbedBody :=
    ("the client moved all of its support teams to the new platform within a month." : String)
  scrubbedTitle := some ("Faster support" : String)
  calloutBoxes := some []
  scrubbedCalloutBoxes := some []
  visibility := .sharedWithLink
  status := .published
  publishedAt := some 2
  createdAt := 1
  updatedAt := 2

def launchedVersion : PublishedArtifactVersion where
  id := 11
  organizationId := 7
  landingPageId := 10
  versionNumber := 1
  titleSnapshot := launchedPage.title
  bodySnapshot := launchedPage.editableBody
  calloutBoxesSnapshot := some []
  visibilitySnapshot := .sharedWithLink
  publishedAtSnapshot := some 2

def launchedDatabase : Database :=
  { launchDatabase with
    nextId := 12
    stories := launchDatabase.stories.map fun story => { story with publishedAt := some 2 }
    landingPages := [launchedPage]
    publishedArtifactVersions := [launchedVersion] }

def namedDraft : LandingPage :=
  { launchedPage with includeCompanyName := true, status := .draft, publishedAt := none }

def draftDatabase : Database := { launchedDatabase with landingPages := [namedDraft] }

def launchOutputs : List ScrubOutput := [
  { pageId := 10, field := .title, text := ("Faster support" : String) },
  { pageId := 10, field := .body, text := launchedPage.scrubbedBody }]

theorem publish_launch :
    publish .ascii (run (step .ascii) launchDatabase (launch.take 1)) 10
      { visibility := .sharedWithLink } 2 =
        .ok (launchedDatabase, publishReceipt .ascii launchedPage) := by
  decide +kernel

theorem run_launch : run (step .ascii) launchDatabase launch = launchedDatabase := by
  have inTwo : launch = launch.take 1 ++ [.publish 10 { visibility := .sharedWithLink } 2] := rfl
  rw [inTwo, run_append, run_cons, run_nil, step, apply, publish_launch]
  rfl

theorem launchedDatabase_wellKeyed : WellKeyed launchedDatabase := by
  have keyed : WellKeyed (run (step .ascii) launchDatabase launch) :=
    run_invariant WellKeyed (fun _ _ => step_wellKeyed) launch (NoPages.wellKeyed ⟨rfl, rfl⟩)
  rwa [run_launch] at keyed

theorem draftDatabase_wellKeyed : WellKeyed draftDatabase where
  distinctIds := by decide
  distinctSlugs := by decide
  freshPages := by decide
  freshVersions := by decide
  versionPages := by decide

theorem log_launch :
    log (step .ascii) (scrubOutputs .ascii) launchDatabase launch = launchOutputs := by
  obtain ⟨page, scrubbed, prepared, written⟩ := publish_eq_ok.mp publish_launch
  obtain ⟨found, story, inStory, _, scrubs, _⟩ := preparePublish_eq_ok.mp prepared
  have drafted : (findLandingPage (run (step .ascii) launchDatabase (launch.take 1)) 10).map
      (fun row => (row.id, row.includeCompanyName, row.subtitle, row.calloutBoxes)) =
        .ok (10, false, none, some []) :=
    rfl
  rw [found] at drafted
  obtain ⟨pageId, named, noSubtitle, noBoxes⟩ : page.id = 10 ∧ page.includeCompanyName = false ∧
      page.subtitle = none ∧ page.calloutBoxes = some [] := by
    simpa [Except.map] using drafted
  obtain ⟨account, loaded, rfl, _⟩ := scrubForPublish_anonymous named scrubs
  have sources : publishSources (run (step .ascii) launchDatabase (launch.take 1)) 10 =
      .ok (page, account) := by
    simp [publishSources, found, inStory, loaded]
  have stored : findLandingPage launchedDatabase 10 = .ok (publishData .ascii
      (scrubPage Platform.ascii.cases account page) { visibility := .sharedWithLink } 2 page) := by
    rw [(Prod.mk.inj written).1, publishedTables, pageId]
    exact findLandingPage_updated (publishData .ascii (scrubPage Platform.ascii.cases account page)
      { visibility := .sharedWithLink } 2) (fun _ => rfl) found
  have texts := Except.ok.inj stored
  have title : ("Faster support" : String).toList = scrubText Platform.ascii.cases account page.title :=
    Option.some.inj (congrArg (·.scrubbedTitle) texts)
  have body : launchedPage.scrubbedBody = scrubText Platform.ascii.cases account page.editableBody :=
    congrArg (·.scrubbedBody) texts
  have quiet : log (step .ascii) (scrubOutputs .ascii) launchDatabase (launch.take 1) = [] := rfl
  have inTwo : launch = launch.take 1 ++ [.publish 10 { visibility := .sharedWithLink } 2] := rfl
  rw [inTwo, log_append, quiet, log_cons, log_nil, scrubOutputs, publish_launch, sources,
    launchOutputs, title, body]
  simp [pageOutputs, PublicField.inputs, named, noSubtitle, noBoxes, decodeCalloutBoxes, pageId,
    scrubText]

theorem launch_keepsCovered : Guarded (step .ascii) KeepsCovered launchDatabase launch := by
  refine guarded_cons.mpr ⟨trivial, guarded_cons.mpr ⟨?_, guarded_nil _ _ _⟩⟩
  intro page known _ _
  have column : (findLandingPage (step .ascii launchDatabase launch[0]) 10).map (·.subtitle) =
      .ok none := rfl
  rw [show findLandingPage (step .ascii launchDatabase launch[0]) 10 = .ok page from known]
    at column
  have absent : page.subtitle = none := Except.ok.inj column
  simp [absent]

theorem launched_page_serves_only_scrubbed :
    ∃ view counted,
      getPublicBySlug .ascii (run (step .ascii) launchDatabase launch) launchSlug none 4 =
        some (view, counted) ∧
      ServesOnlyScrubbed (log (step .ascii) (scrubOutputs .ascii) launchDatabase launch) 10
        view.content := by
  have served : (getPublicBySlug .ascii (run (step .ascii) launchDatabase launch) launchSlug none
      4).isSome = true := by
    rw [run_launch]
    rfl
  obtain ⟨⟨view, counted⟩, known⟩ := Option.isSome_iff_exists.mp served
  have found : (run (step .ascii) launchDatabase launch).landingPages.find?
      (·.slug == launchSlug) = some launchedPage := by
    rw [run_launch]
    simp [launchedDatabase, launchedPage]
  have anonymous : Anonymous (run (step .ascii) launchDatabase launch) launchedPage := by
    rw [run_launch]
    rfl
  exact ⟨view, counted, known,
    run_serves_only_scrubbed ⟨rfl, rfl⟩ launch_keepsCovered known found anonymous⟩

def addSubtitle : PageAction := .update 10 3 { subtitle := some ("Acme in numbers" : String) } 3

/-- A subtitle added after the publish is served as it was typed. -/
theorem added_subtitle_is_served_raw :
    NoPages launchDatabase ∧ ∃ view counted, ∃ page : LandingPage,
      getPublicBySlug .ascii (run (step .ascii) launchDatabase (launch ++ [addSubtitle]))
        launchSlug none 4 = some (view, counted) ∧
      (run (step .ascii) launchDatabase (launch ++ [addSubtitle])).landingPages.find?
        (·.slug == launchSlug) = some page ∧
      Anonymous (run (step .ascii) launchDatabase (launch ++ [addSubtitle])) page ∧
      ¬ServesOnlyScrubbed
        (log (step .ascii) (scrubOutputs .ascii) launchDatabase (launch ++ [addSubtitle]))
        page.id view.content := by
  rw [log_append, run_append, run_launch, log_launch]
  refine ⟨⟨rfl, rfl⟩, ?_⟩
  have shown : ((getPublicBySlug .ascii (run (step .ascii) launchedDatabase [addSubtitle])
      launchSlug none 4).map fun result => result.1.content.subtitle) =
        some (some ("Acme in numbers" : String).toList) :=
    rfl
  obtain ⟨⟨view, counted⟩, served, subtitleShown⟩ := Option.map_eq_some_iff.mp shown
  obtain ⟨page, found, -⟩ := getPublicBySlug_served served
  have anonymous : ∀ row ∈ (run (step .ascii) launchedDatabase [addSubtitle]).landingPages,
      servesOriginal (run (step .ascii) launchedDatabase [addSubtitle]) row = false := by
    decide
  refine ⟨view, counted, page, served, found, anonymous page (List.mem_of_find?_eq_some found), ?_⟩
  rintro ⟨-, subtitle, -⟩
  have noSubtitle : ∀ output ∈ launchOutputs ++
      log (step .ascii) (scrubOutputs .ascii) launchedDatabase [addSubtitle],
      output.field ≠ .subtitle := by
    decide
  exact noSubtitle _ (subtitle _ subtitleShown) rfl

end StoryEngine.Pages
