import StoryEngine.Data.Rows
import StoryEngine.Publish.Validation
import StoryEngine.Schema.Database
import StoryEngine.Scrub.Leakage

namespace StoryEngine.Pages

open Data Schema Publish Scrub Text

/-! # Landing page editor

Every method is a function of the tables; `now` is the clock it reads.  Prisma
sets `updatedAt` on every update of a page. -/

inductive EditorError where
  | notFound
  | publishValidation (issues : List PublishValidationIssue)
  | scrubValidation (leakedTerms : List Text)
  | concurrencyConflict (expectedUpdatedAt currentUpdatedAt : Date) (currentEditableBody : Text)
  | versionNotFound
  | uniqueViolation
deriving DecidableEq

def findLandingPage (db : Database) (pageId : RowId) : Except EditorError LandingPage :=
  required (db.landingPages.find? (·.id == pageId)) .notFound

def findStory (db : Database) (storyId : RowId) : Except EditorError Story :=
  required (db.stories.find? (·.id == storyId)) .notFound

/-- `landingPage.update({ where: { id } })`. -/
def updateLandingPage (db : Database) (pageId : RowId) (update : LandingPage → LandingPage) :
    Database :=
  { db with landingPages := updateWhere db.landingPages (·.id == pageId) update }

def decodeCalloutBoxes (value : Option (List CalloutBox)) : List CalloutBox := value.getD []

structure CreateLandingPageInput where
  storyId : RowId
  organizationId : RowId
  createdById : RowId
  title : Text
  subtitle : Option Text := none
  heroImageUrl : Option Text := none
  calloutBoxes : Option (List CalloutBox) := none
  includeCompanyName : Bool := false

/-- The random hexadecimal suffixes of a slug, four and six bytes long. -/
structure SlugSuffixes where
  short : Text
  long : Text

def formatMetricTitle (metricType : Text) : Text :=
  let labels : List (String × String) := [("cost_savings", "Cost Savings"),
    ("revenue", "Revenue Impact"), ("time_saved", "Time Saved"),
    ("efficiency", "Efficiency Gain"), ("error_reduction", "Error Reduction"),
    ("adoption", "Adoption Rate"), ("scale", "Scale Achieved"), ("roi", "Return on Investment")]
  match labels.find? (·.1.toList == metricType) with
  | some label => label.2.toList
  | none => ("Key Metric" : String)

def isPresent : Option Text → Bool
  | some text => !text.isEmpty
  | none => false

def defaultCalloutBox (quote : HighValueQuote) : CalloutBox where
  title :=
    if isPresent quote.metricType then formatMetricTitle (quote.metricType.getD [])
    else ("Key Insight" : String)
  body :=
    if isPresent quote.metricValue then
      ['*', '*'] ++ quote.metricValue.getD [] ++ ("** — " : String).toList ++ quote.quoteText
    else quote.quoteText
  icon := some (if isPresent quote.metricValue then .metric else .quote)

def buildDefaultCalloutBoxes (quotes : List HighValueQuote)
    (calloutBoxes : Option (List CalloutBox)) : List CalloutBox :=
  calloutBoxes.getD ((quotes.take 3).map defaultCalloutBox)

def slugBase (cases : CaseMapping) (title : Text) : Text :=
  let isSlugChar (c : Char) : Bool := c.isLower || c.isDigit
  let dashed := (Pattern.plus (.accept fun c => !isSlugChar c)).replace ['-']
    (cases.toLowerCase title)
  let dash : Pattern := .accept (· == '-')
  ((Pattern.alt (.seq .atStart dash) (.seq dash .atEnd)).replace [] dashed).take 40

def generateUniqueSlug (cases : CaseMapping) (db : Database) (title : Text)
    (random : SlugSuffixes) : Text :=
  let slug := slugBase cases title ++ '-' :: random.short
  if db.landingPages.any (·.slug == slug) then slugBase cases title ++ '-' :: random.long
  else slug

def totalCallTenths (db : Database) (accountId : RowId) : Nat :=
  let calls := db.calls.filter (·.accountId == some accountId)
  ((calls.map fun call => call.duration.getD 0).sum + 180) / 360

def newLandingPage (platform : Platform) (db : Database) (input : CreateLandingPageInput)
    (story : Story) (random : SlugSuffixes) (now : Date) : LandingPage where
  id := db.nextId
  organizationId := input.organizationId
  storyId := input.storyId
  createdById := input.createdById
  slug := generateUniqueSlug platform.cases db input.title random
  title := input.title
  subtitle := input.subtitle
  editableBody := story.markdownBody
  heroImageUrl := input.heroImageUrl
  calloutBoxes := some (buildDefaultCalloutBoxes
    (db.highValueQuotes.filter (·.storyId == story.id)) input.calloutBoxes)
  totalCallHours := totalCallTenths db story.accountId
  includeCompanyName := input.includeCompanyName
  createdAt := now
  updatedAt := now

def create (platform : Platform) (db : Database) (input : CreateLandingPageInput)
    (random : SlugSuffixes) (now : Date) : Except EditorError (Database × RowId) := do
  let story ← findStory db input.storyId
  let page := newLandingPage platform db input story random now
  let _ ← ensure (!db.landingPages.any (·.slug == page.slug)) EditorError.uniqueViolation
  return ({ db with nextId := db.nextId + 1, landingPages := db.landingPages ++ [page] }, page.id)

structure UpdateLandingPageInput where
  title : Option Text := none
  subtitle : Option Text := none
  editableBody : Option Text := none
  heroImageUrl : Option Text := none
  calloutBoxes : Option (List CalloutBox) := none
  customCss : Option Text := none
  editSummary : Option Text := none
  expectedUpdatedAt : Option Date := none

/-- `pageUpdateData`: a field that is left out keeps its column. -/
def pageUpdateData (input : UpdateLandingPageInput) (now : Date) (page : LandingPage) :
    LandingPage :=
  { page with
    title := input.title.getD page.title
    subtitle := input.subtitle.or page.subtitle
    editableBody := input.editableBody.getD page.editableBody
    heroImageUrl := input.heroImageUrl.or page.heroImageUrl
    calloutBoxes := input.calloutBoxes.or page.calloutBoxes
    customCss := input.customCss.or page.customCss
    updatedAt := now }

def recordEdit (db : Database) (existing : LandingPage) (userId : RowId)
    (input : UpdateLandingPageInput) : Database :=
  match input.editableBody with
  | none => db
  | some newBody =>
    if newBody = existing.editableBody then db
    else
      { db with
        nextId := db.nextId + 1
        landingPageEdits := db.landingPageEdits ++ [{
          id := db.nextId
          landingPageId := existing.id
          editedById := userId
          previousBody := existing.editableBody
          newBody
          editSummary := input.editSummary }] }

/-- With an expected time the write is an `updateMany` on that time too; the
check before it has just seen the row, so the write finds it. -/
def update (db : Database) (pageId userId : RowId) (input : UpdateLandingPageInput) (now : Date) :
    Except EditorError (Database × Date) := do
  let existing ← findLandingPage db pageId
  let _ ← ensure (input.expectedUpdatedAt.all (· == existing.updatedAt))
    (EditorError.concurrencyConflict (input.expectedUpdatedAt.getD 0) existing.updatedAt
      existing.editableBody)
  let updated := updateLandingPage db pageId (pageUpdateData input now)
  return (recordEdit updated existing userId input, now)

structure PublishOptions where
  visibility : PageVisibility
  password : Option Text := none
  expiresAt : Option Date := none
  publishedByUserId : Option RowId := none
  approvalRequestId : Option RowId := none
  releaseNotes : Option Text := none

/-- What publishing stores in the scrubbed columns; without callouts the
callout column is left as it is. -/
structure ScrubbedContent where
  body : Text
  title : Text
  subtitle : Option Text
  callouts : Option (List CalloutBox)
deriving DecidableEq

structure PublishReceipt where
  slug : Text
  url : Text
deriving DecidableEq

def loadScrubAccount (db : Database) (accountId : RowId) : Except EditorError ScrubAccount := do
  let account ← required (db.accounts.find? (·.id == accountId)) .notFound
  let orgSettings := db.orgSettings.find? (·.organizationId == account.organizationId)
  return {
    name := account.name
    normalizedName := account.normalizedName
    domain := account.domain
    domainAliases := (db.accountDomains.filter (·.accountId == accountId)).map (·.domain)
    contacts := (db.contacts.filter (·.accountId == accountId)).map fun contact =>
      { name := contact.name, title := contact.title }
    companyNameReplacements := (orgSettings.bind (·.companyNameReplacements)).getD [] }

def scrubText (cases : CaseMapping) (account : ScrubAccount) (text : Text) : Text :=
  (scrubForAccount cases account text).scrubbedText

def scrubCallout (cases : CaseMapping) (account : ScrubAccount) (box : CalloutBox) : CalloutBox :=
  { box with title := scrubText cases account box.title, body := scrubText cases account box.body }

/-- The anonymous branch of `publish`. -/
def scrubPage (cases : CaseMapping) (account : ScrubAccount) (page : LandingPage) :
    ScrubbedContent where
  body := scrubText cases account page.editableBody
  title := scrubText cases account page.title
  subtitle := (page.subtitle.filter fun text => !text.isEmpty).map (scrubText cases account)
  callouts := page.calloutBoxes.map fun boxes => boxes.map (scrubCallout cases account)

def keepNamed (page : LandingPage) : ScrubbedContent where
  body := page.editableBody
  title := page.title
  subtitle := page.subtitle
  callouts := none

def ScrubbedContent.fragments (scrubbed : ScrubbedContent) : List Text :=
  [scrubbed.body, scrubbed.title, scrubbed.subtitle.getD []] ++
    (scrubbed.callouts.getD []).flatMap fun box => [box.title, box.body]

def editableSnapshot (page : LandingPage) : PublishSnapshot where
  title := page.title
  subtitle := page.subtitle
  body := page.editableBody
  calloutBoxes := decodeCalloutBoxes page.calloutBoxes
  fieldPrefix := .editable

def ScrubbedContent.snapshot (scrubbed : ScrubbedContent) : PublishSnapshot where
  title := scrubbed.title
  subtitle := scrubbed.subtitle
  body := scrubbed.body
  calloutBoxes := scrubbed.callouts.getD []
  fieldPrefix := .scrubbed

def scrubForPublish (platform : Platform) (db : Database) (page : LandingPage) (story : Story) :
    Except EditorError ScrubbedContent :=
  if page.includeCompanyName then return keepNamed page
  else do
    let account ← loadScrubAccount db story.accountId
    let scrubbed := scrubPage platform.cases account page
    let leakageTerms := detectScrubLeakage platform.cases account scrubbed.fragments
    let _ ← ensure leakageTerms.isEmpty (EditorError.scrubValidation leakageTerms)
    return scrubbed

/-- The part of `publish` that only reads. -/
def preparePublish (platform : Platform) (db : Database) (pageId : RowId) :
    Except EditorError (LandingPage × ScrubbedContent) := do
  let page ← findLandingPage db pageId
  let story ← findStory db page.storyId
  let preIssues := validatePublishSnapshot platform (editableSnapshot page)
  let _ ← ensure preIssues.isEmpty (EditorError.publishValidation preIssues)
  let scrubbed ← scrubForPublish platform db page story
  let postIssues := validatePublishSnapshot platform scrubbed.snapshot
  let _ ← ensure postIssues.isEmpty (EditorError.publishValidation postIssues)
  return (page, scrubbed)

def publishData (platform : Platform) (scrubbed : ScrubbedContent) (options : PublishOptions)
    (now : Date) (page : LandingPage) : LandingPage :=
  { page with
    scrubbedBody := scrubbed.body
    scrubbedTitle := some scrubbed.title
    scrubbedSubtitle := scrubbed.subtitle
    scrubbedCalloutBoxes := scrubbed.callouts.or page.scrubbedCalloutBoxes
    status := .published
    visibility := options.visibility
    password := (options.password.filter fun text => !text.isEmpty).map platform.hashPagePassword
    expiresAt := options.expiresAt
    publishedAt := some now
    noIndex := true
    updatedAt := now }

/-- The story is dated by its latest published page.  Its row exists, as the
page's foreign key points to it. -/
def syncStoryPublishedAtFromLandingPages (db : Database) (storyId : RowId) : Database :=
  let published := db.landingPages.filter fun page =>
    page.storyId == storyId && page.status == .published
  let latest := (published.filterMap (·.publishedAt)).max?
  { db with
    stories := updateWhere db.stories (·.id == storyId) fun story =>
      { story with publishedAt := latest } }

def versionsOf (db : Database) (page : LandingPage) : List PublishedArtifactVersion :=
  db.publishedArtifactVersions.filter fun version =>
    version.landingPageId == page.id && version.organizationId == page.organizationId

def nextVersionNumber (db : Database) (page : LandingPage) : Nat :=
  ((versionsOf db page).map (·.versionNumber)).max?.getD 0 + 1

def retireVersion (retired : VersionStatus) (version : PublishedArtifactVersion) :
    PublishedArtifactVersion :=
  { version with status := retired }

def appendVersion (db : Database) (page : LandingPage) (retired : VersionStatus)
    (version : PublishedArtifactVersion) : Database :=
  { db with
    nextId := db.nextId + 1
    publishedArtifactVersions :=
      updateWhere db.publishedArtifactVersions
        (fun old => old.landingPageId == page.id && old.organizationId == page.organizationId &&
          old.status == .active)
        (retireVersion retired) ++ [version] }

def publishedVersion (db : Database) (page : LandingPage) (options : PublishOptions)
    (publishedAt : Date) : PublishedArtifactVersion where
  id := db.nextId
  organizationId := page.organizationId
  landingPageId := page.id
  versionNumber := nextVersionNumber db page
  releaseNotes := options.releaseNotes
  titleSnapshot := page.title
  subtitleSnapshot := page.subtitle
  bodySnapshot := page.editableBody
  calloutBoxesSnapshot := page.calloutBoxes
  visibilitySnapshot := page.visibility
  expiresAtSnapshot := page.expiresAt
  publishedAtSnapshot := some publishedAt
  sourceEditId :=
    (db.landingPageEdits.filter (·.landingPageId == page.id)).getLast?.map (·.id)
  publishedByUserId := options.publishedByUserId
  approvalRequestId := options.approvalRequestId

def createArtifactVersion (db : Database) (pageId : RowId) (options : PublishOptions)
    (publishedAt : Date) : Except EditorError Database := do
  let page ← findLandingPage db pageId
  return appendVersion db page .superseded (publishedVersion db page options publishedAt)

def publishReceipt (platform : Platform) (page : LandingPage) : PublishReceipt where
  slug := page.slug
  url := platform.appUrl ++ ("/s/" : String).toList ++ page.slug

def publish (platform : Platform) (db : Database) (pageId : RowId) (options : PublishOptions)
    (now : Date) : Except EditorError (Database × PublishReceipt) := do
  let (page, scrubbed) ← preparePublish platform db pageId
  let written := updateLandingPage db pageId (publishData platform scrubbed options now)
  let synced := syncStoryPublishedAtFromLandingPages written page.storyId
  let recorded ← createArtifactVersion synced page.id options now
  return (recorded, publishReceipt platform page)

def changeStatus (db : Database) (pageId : RowId) (change : LandingPage → LandingPage) :
    Except EditorError Database := do
  let page ← findLandingPage db pageId
  return syncStoryPublishedAtFromLandingPages (updateLandingPage db pageId change) page.storyId

def archiveData (now : Date) (page : LandingPage) : LandingPage :=
  { page with status := .archived, updatedAt := now }

def unpublishData (now : Date) (page : LandingPage) : LandingPage :=
  { page with status := .draft, publishedAt := none, updatedAt := now }

def archive (db : Database) (pageId : RowId) (now : Date) : Except EditorError Database :=
  changeStatus db pageId (archiveData now)

def unpublish (db : Database) (pageId : RowId) (now : Date) : Except EditorError Database :=
  changeStatus db pageId (unpublishData now)

def rollbackData (version : PublishedArtifactVersion) (now : Date) (page : LandingPage) :
    LandingPage :=
  { page with
    title := version.titleSnapshot
    subtitle := version.subtitleSnapshot
    editableBody := version.bodySnapshot
    calloutBoxes := version.calloutBoxesSnapshot
    visibility := version.visibilitySnapshot
    expiresAt := version.expiresAtSnapshot
    status := .published
    publishedAt := some now
    updatedAt := now }

def findVersion (db : Database) (page : LandingPage) (versionId : RowId) :
    Option PublishedArtifactVersion :=
  db.publishedArtifactVersions.find? fun version =>
    version.id == versionId && version.landingPageId == page.id &&
      version.organizationId == page.organizationId

def rollbackVersion (db : Database) (page : LandingPage) (version : PublishedArtifactVersion)
    (actorUserId : RowId) (now : Date) : PublishedArtifactVersion where
  id := db.nextId
  organizationId := page.organizationId
  landingPageId := page.id
  versionNumber := nextVersionNumber db page
  releaseNotes := some (("Rollback to version " : String).toList ++
    Nat.toDigits 10 version.versionNumber)
  titleSnapshot := version.titleSnapshot
  subtitleSnapshot := version.subtitleSnapshot
  bodySnapshot := version.bodySnapshot
  calloutBoxesSnapshot := version.calloutBoxesSnapshot
  visibilitySnapshot := version.visibilitySnapshot
  expiresAtSnapshot := version.expiresAtSnapshot
  publishedAtSnapshot := some now
  sourceEditId := version.sourceEditId
  publishedByUserId := some actorUserId
  rolledBackFromVersionId := some version.id

def rollbackLandingPageToVersion (db : Database) (pageId versionId actorUserId : RowId)
    (now : Date) : Except EditorError Database := do
  let page ← findLandingPage db pageId
  let version ← required (findVersion db page versionId) EditorError.versionNotFound
  let written := updateLandingPage db pageId (rollbackData version now)
  return appendVersion written page .rolledBack
    (rollbackVersion written page version actorUserId now)

def getForEditing (db : Database) (pageId : RowId) : Except EditorError LandingPage :=
  findLandingPage db pageId

def findPageForOrg (db : Database) (pageId organizationId : RowId) : Option LandingPage :=
  db.landingPages.find? fun page => page.id == pageId && page.organizationId == organizationId

end StoryEngine.Pages
