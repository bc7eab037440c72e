import Mathlib.Data.PNat.Basic
import StoryEngine.Access.Roles
import StoryEngine.Data.Pages
import StoryEngine.Data.Upserts
import StoryEngine.Pipeline.ProcessCall

namespace StoryEngine.Stories

open Access Data Pipeline Processing Schema

/-! # The story library

The library lists the stories of an organization by pages, for the accounts that a user may see.
A semantic search ranks accounts by the sources of a chat answer first.
-/

structure LibraryStory extends Story where
  title : Text
  filterTags : List Text := []
  funnelStages : List FunnelStage := []

structure DatedApproval extends ApprovalRequest where
  createdAt : Date := 0

structure LibraryTables where
  stories : List LibraryStory := []
  accounts : List Account := []
  highValueQuotes : List HighValueQuote := []
  landingPages : List LandingPage := []
  approvalRequests : List DatedApproval := []
  calls : List Call := []

inductive LifecycleStage where
  | draft
  | inReview
  | approved
  | published
deriving DecidableEq

inductive LibrarySearchMode where
  | keyword
  | semantic
deriving DecidableEq

/-- What is undefined is `none`, and so is null; topics and stages that are undefined are none. -/
structure StoryLibraryFilters where
  organizationId : RowId
  accessibleAccountIds : Option (List RowId) := none
  storyType : Option StoredStoryType := none
  status : Option LifecycleStage := none
  topics : List Text := []
  funnelStages : List Text := []
  includeArchived : Bool := false
  search : Option Text := none
  searchMode : Option LibrarySearchMode := none
  semanticAccountIds : Option (List RowId) := none
  page : Option ℕ+ := none
  limit : Option ℕ+ := none

/-- A story of the answer; `landingPage` is the latest one. -/
structure LibraryEntry where
  story : LibraryStory
  account : Option Account
  quotes : List HighValueQuote
  landingPage : Option LandingPage
  lifecycleStage : LifecycleStage

structure StoryLibrary where
  stories : List LibraryEntry
  totalCount : Nat
  page : ℕ+
  limit : ℕ+

/-- The answers to queries for stories while no row changes: the rows that match, newest first.
Rows of one date come in any order, the same one for the same query. -/
structure StoryReads (stories : List LibraryStory) where
  findMany : (LibraryStory → Bool) → List LibraryStory
  perm : ∀ accepts, (findMany accepts).Perm (stories.filter accepts)
  newestFirst : ∀ accepts,
    (findMany accepts).Pairwise fun first second => second.generatedAt ≤ first.generatedAt

def StoryReads.inTableOrder (stories : List LibraryStory) : StoryReads stories where
  findMany accepts := (stories.filter accepts).insertionSort fun first second =>
    second.generatedAt ≤ first.generatedAt
  perm _ := List.perm_insertionSort _ _
  newestFirst _ :=
    haveI : Std.Total fun first second : LibraryStory => second.generatedAt ≤ first.generatedAt :=
      ⟨fun first second => Nat.le_total second.generatedAt first.generatedAt⟩
    haveI : IsTrans LibraryStory fun first second => second.generatedAt ≤ first.generatedAt :=
      ⟨fun _ _ _ before after => Nat.le_trans after before⟩
    List.pairwise_insertionSort _ _

/-- The accounts that `where.accountId` asks for, or `none` where it is not set. -/
def accountScope (filters : StoryLibraryFilters) : Option (List RowId) :=
  match filters.semanticAccountIds with
  | some (semantic :: others) =>
    match filters.accessibleAccountIds with
    | some (accessible :: rest) =>
      some ((semantic :: others).filter (accessible :: rest).contains)
    | some [] | none => some (semantic :: others)
  | some [] | none => filters.accessibleAccountIds

def needle (filters : StoryLibraryFilters) : Option Text :=
  if filters.searchMode.getD .keyword = .keyword then
    (filters.search.map Text.trim).filter (!·.isEmpty)
  else none

section

variable (containsInsensitive : Text → Text → Bool) (tables : LibraryTables)

def matchesNeedle (story : LibraryStory) (needle : Text) : Bool :=
  let contains (text : Text) : Bool := containsInsensitive text needle
  let account := tables.accounts.find? (·.id == story.accountId)
  let quotes := tables.highValueQuotes.filter (·.storyId == story.id)
  contains story.title || contains story.markdownBody ||
    account.any (fun account => contains account.name || account.domain.any contains) ||
    quotes.any fun quote =>
      contains quote.quoteText || quote.metricValue.any contains || quote.metricType.any contains

/-- The `where` of the query for stories; `stages` are the funnel stages. -/
def storyMatches (filters : StoryLibraryFilters) (stages : List FunnelStage)
    (story : LibraryStory) : Bool :=
  story.organizationId == filters.organizationId &&
    (accountScope filters).all (·.contains story.accountId) &&
    filters.storyType.all (story.storyType == ·) &&
    (filters.topics.isEmpty || story.filterTags.any filters.topics.contains) &&
    (stages.isEmpty || story.funnelStages.any stages.contains) &&
    (needle filters).all (matchesNeedle containsInsensitive tables story)

def storyPages (story : LibraryStory) : List LandingPage :=
  (tables.landingPages.filter (·.storyId == story.id)).insertionSort fun first second =>
    second.createdAt ≤ first.createdAt

def concernsStory (story : LibraryStory) (request : DatedApproval) : Bool :=
  match request.targetType with
  | .story => request.targetId == story.id
  | .landingPage => (storyPages tables story).any (·.id == request.targetId)
  | .account => false

def laterApproval (first second : DatedApproval) : Bool :=
  decide (second.createdAt < first.createdAt) ||
    (first.createdAt == second.createdAt && decide (second.id < first.id))

def latestApproval (organizationId : RowId) (story : LibraryStory) : Option DatedApproval :=
  let requests := tables.approvalRequests.filter fun request =>
    request.organizationId == organizationId && concernsStory tables story request
  requests.foldl (fun latest request =>
    if latest.all (laterApproval request) then some request else latest) none

def resolveLifecycleStage (publishedAt : Option Date) (latest : Option ApprovalStatus) :
    LifecycleStage :=
  if publishedAt.isSome then .published
  else
    match latest with
    | some .pending => .inReview
    | some .approved => .approved
    | some .rejected | none => .draft

def storyStage (organizationId : RowId) (story : LibraryStory) : LifecycleStage :=
  resolveLifecycleStage story.publishedAt
    ((latestApproval tables organizationId story).map (·.status))

def isArchived (story : LibraryStory) : Bool :=
  (storyPages tables story).head?.any (·.status == .archived)

def semanticRank (semanticAccountIds : List RowId) (story : LibraryStory) : Nat :=
  if semanticAccountIds.contains story.accountId then semanticAccountIds.idxOf story.accountId
  else 2 ^ 53 - 1

def rankStories (filters : StoryLibraryFilters) (stories : List LibraryStory) :
    List LibraryStory :=
  match filters.searchMode, filters.semanticAccountIds with
  | some .semantic, some (semantic :: others) =>
    stories.insertionSort fun first second =>
      semanticRank (semantic :: others) first ≤ semanticRank (semantic :: others) second
  | _, _ => stories

def libraryEntry (organizationId : RowId) (story : LibraryStory) : LibraryEntry where
  story
  account := tables.accounts.find? (·.id == story.accountId)
  quotes := tables.highValueQuotes.filter (·.storyId == story.id)
  landingPage := (storyPages tables story).head?
  lifecycleStage := storyStage tables organizationId story

variable (reads : StoryReads tables.stories)

/-- All stories of the library, `stages` being the funnel stages of the filter. -/
def filteredStories (filters : StoryLibraryFilters) (stages : List FunnelStage) :
    List LibraryEntry :=
  let stories := reads.findMany (storyMatches containsInsensitive tables filters stages)
  let shown := stories.filter fun story =>
    (filters.includeArchived || !isArchived tables story) &&
      filters.status.all (storyStage tables filters.organizationId story == ·)
  (rankStories filters shown).map (libraryEntry tables filters.organizationId)

def readStage (name : Text) : Option FunnelStage := allFunnelStages.find? (·.name == name)

def getLibrary (filters : StoryLibraryFilters) : Option StoryLibrary := do
  let stages ← filters.funnelStages.mapM readStage
  let stories := filteredStories containsInsensitive tables reads filters stages
  let page := filters.page.getD 1
  let limit := filters.limit.getD 25
  some { stories := pageAt limit page stories, totalCount := stories.length, page, limit }

end

def sourceAccount (calls : List Call) (organizationId : RowId) (source : RagSource) :
    Option RowId :=
  (calls.find? fun call =>
    call.organizationId == organizationId && call.id == source.callId).bind (·.accountId)

def addScore (calls : List Call) (organizationId : RowId) (scores : List (RowId × ℚ))
    (source : RagSource) : List (RowId × ℚ) :=
  match sourceAccount calls organizationId source with
  | none => scores
  | some accountId =>
    upsertEntry scores (accountId, (scores.lookup accountId).getD 0 + source.relevanceScore)

def rankSemanticSearchAccounts (calls : List Call) (organizationId : RowId)
    (accessibleAccountIds : Option (List RowId)) (sources : List RagSource) : List RowId :=
  let scores := sources.foldl (addScore calls organizationId) []
  let ranked := (scores.insertionSort fun first second => second.2 ≤ first.2).map (·.1)
  match accessibleAccountIds with
  | none => ranked
  | some ids => ranked.filter ids.contains

structure StoryLibraryQuery where
  search : Option Text := none
  searchMode : Option LibrarySearchMode := none
  storyType : Option StoredStoryType := none
  status : Option LifecycleStage := none
  funnelStage : List Text := []
  topic : List Text := []
  includeArchived : Bool := false
  page : Option ℕ+ := none
  limit : Option {limit : ℕ+ // limit ≤ 100} := none

def parseMultiValue (values : List Text) : List Text :=
  (((values.flatMap (Text.splitAt (· == ','))).map Text.trim).filter (!·.isEmpty)).foldl
    (fun kept value => if kept.contains value then kept else kept ++ [value]) []

inductive LibraryResponse where
  | forbidden
  | failed
  | empty
  | listed (library : StoryLibrary) (searchMode : LibrarySearchMode)

/-- The filters of a request, `ranked` being the accounts that the semantic search found, if it
was made. -/
def requestFilters (organizationId : RowId) (accessibleIds : Option (List RowId))
    (query : StoryLibraryQuery) (ranked : Option (List RowId)) : StoryLibraryFilters where
  organizationId
  accessibleAccountIds := accessibleIds
  storyType := query.storyType
  status := query.status
  topics := parseMultiValue query.topic
  funnelStages := parseMultiValue query.funnelStage
  includeArchived := query.includeArchived
  search := query.search.map Text.trim
  searchMode :=
    if ranked = some [] then some .keyword else some (query.searchMode.getD .keyword)
  semanticAccountIds := ranked
  page := query.page
  limit := query.limit.map (·.1)

/-- The accounts that the request is ranked by; the outer option is the failure of the chat, and
without an engine there is no search.  `chat` gives the sources of the answer. -/
def requestRanking (calls : List Call) (chat : Option (Text → List Text → Option (List RagSource)))
    (organizationId : RowId) (accessibleIds : Option (List RowId)) (query : StoryLibraryQuery) :
    Option (Option (List RowId)) :=
  match query.searchMode, (query.search.map Text.trim).filter (!·.isEmpty), chat with
  | some .semantic, some search, some chat =>
    (chat search (parseMultiValue query.funnelStage)).map fun sources =>
      some (rankSemanticSearchAccounts calls organizationId accessibleIds sources)
  | _, _, _ => some none

/-- `GET /library` -/
def libraryRoute (containsInsensitive : Text → Text → Bool) (db : Database)
    (tables : LibraryTables) (reads : StoryReads tables.stories)
    (chat : Option (Text → List Text → Option (List RagSource))) (caller : Caller)
    (query : StoryLibraryQuery) : LibraryResponse :=
  if !(caller.policy db).canAccessAnonymousStories then .forbidden
  else
    let accessibleIds :=
      getAccessibleAccountIds db caller.userId caller.organizationId caller.userRole
    if accessibleIds = some [] then .empty
    else
      match requestRanking tables.calls chat caller.organizationId accessibleIds query with
      | none => .failed
      | some ranked =>
        let filters := requestFilters caller.organizationId accessibleIds query ranked
        match getLibrary containsInsensitive tables reads filters with
        | none => .failed
        | some library => .listed library (filters.searchMode.getD .keyword)

end StoryEngine.Stories
