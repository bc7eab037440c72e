import StoryEngine.Processing.SearchIndex
import StoryEngine.Routes.Pages

namespace StoryEngine.Rag

open Access Data Processing Routes Schema

/-! # Questions and chats

The engine's `chat` searches an account or, without one, the whole organization; the routes
`POST /query` and `POST /chat` ask for the access of a user to the account that the request
names.  Answers are cached without the user.
-/

inductive ChatRole where
  | user
  | assistant
deriving DecidableEq

def ChatRole.name : ChatRole → Text
  | user => ("user" : String).toList
  | assistant => ("assistant" : String).toList

structure ChatMessage where
  role : ChatRole
  content : Text
deriving DecidableEq

structure RagChatQuery where
  query : Text
  accountId : Option RowId
  organizationId : RowId
  history : List ChatMessage := []
  topK : Option Nat := none
  funnelStages : List Text := []

/-- What the cache key is made of; no account stands for all. -/
structure RagChatKey where
  organizationId : RowId
  accountId : Option RowId
  topK : Nat
  query : Text
  funnelStages : Text
  history : Text
deriving DecidableEq

structure RagState where
  index : SearchState
  chatCache : List (RagChatKey × List RagSource) := []

def normalizeHistoryKey (cases : CaseMapping) (history : List ChatMessage) : Text :=
  Text.join [':', ':'] <| history.map fun item =>
    item.role.name ++ ':' :: normalizeQueryKey cases item.content

def buildRagChatCacheKey (cases : CaseMapping) (input : RagChatQuery) (topK : Nat) :
    RagChatKey where
  organizationId := input.organizationId
  accountId := input.accountId
  topK
  query := normalizeQueryKey cases input.query
  funnelStages := normalizeArrayKey input.funnelStages
  history := normalizeHistoryKey cases input.history

def chatMatchesFilter (input : RagChatQuery) (vector : ChunkVector) : Bool :=
  vector.organizationId == input.organizationId &&
    input.accountId.all (vector.accountId == ·) &&
    (input.funnelStages.isEmpty ||
      vector.funnelStages.any (input.funnelStages.contains ·.name))

/-- What the index answers under a filter, when it comes up with `found`. -/
def searchFiltered (filter : ChunkVector → Bool) (vectors : List ChunkVector) (topK : Nat)
    (found : List (RowId × ℚ)) : List (ChunkVector × ℚ) :=
  (found.filterMap fun (id, score) =>
    ((vectors.filter filter).find? (·.id == id)).map fun vector => (vector, score)).take topK

def retrieve (minRelevanceScore : ℚ) (state : SearchState) (filter : ChunkVector → Bool)
    (topK : Nat) (found : List (RowId × ℚ)) : List RagSource :=
  filterGroundedSources (hydrateSources state (searchFiltered filter state.vectors topK found))
    minRelevanceScore

def chat (cases : CaseMapping) (minRelevanceScore : ℚ) (state : RagState) (input : RagChatQuery)
    (found : List (RowId × ℚ)) : List RagSource × RagState :=
  let topK := input.topK.getD 8
  let key := buildRagChatCacheKey cases input topK
  match state.chatCache.find? (·.1 == key) with
  | some entry => (entry.2, state)
  | none =>
    let sources := retrieve minRelevanceScore state.index (chatMatchesFilter input) topK found
    (sources, { state with chatCache := (key, sources) :: state.chatCache })

structure RagCaller where
  userId : Option RowId
  organizationId : RowId
  userRole : Option UserRole := none

structure QueryBody where
  query : Text
  accountId : RowId
  organizationId : Option RowId := none
  topK : Option Nat := none
  funnelStages : List Text := []

structure ChatBody where
  query : Text
  accountId : Option RowId
  history : List ChatMessage := []
  topK : Option Nat := none
  funnelStages : List Text := []

inductive RagRequest where
  | query (body : QueryBody)
  | chat (body : ChatBody)

inductive RagAnswer where
  | validationError
  | organizationMismatch
  | permissionDenied
  | answered (sources : List RagSource)

def topKValid (topK : Option Nat) : Bool := topK.all fun count => 1 ≤ count && count ≤ 20

def queryBodyValid (body : QueryBody) : Bool :=
  lengthWithin 3 1000 body.query && topKValid body.topK

def chatBodyValid (body : ChatBody) : Bool :=
  lengthWithin 3 1000 body.query && body.history.length ≤ 50 &&
    body.history.all (!·.content.isEmpty) && topKValid body.topK

def mayAsk (db : Database) (caller : RagCaller) (accountId : RowId) : Bool :=
  caller.userId.all fun userId =>
    canAccessAccount db userId caller.organizationId accountId caller.userRole

def QueryBody.input (body : QueryBody) (organizationId : RowId) : RagQuery where
  query := body.query
  accountId := body.accountId
  organizationId
  topK := body.topK
  funnelStages := body.funnelStages

def ChatBody.input (body : ChatBody) (organizationId : RowId) : RagChatQuery where
  query := body.query
  accountId := body.accountId
  organizationId
  history := body.history
  topK := body.topK
  funnelStages := body.funnelStages

def queryRoute (cases : CaseMapping) (minRelevanceScore : ℚ) (state : RagState)
    (caller : RagCaller) (body : QueryBody) (found : List (RowId × ℚ)) : RagAnswer × RagState :=
  if !queryBodyValid body then (.validationError, state)
  else if body.organizationId.any (· != caller.organizationId) then (.organizationMismatch, state)
  else if !mayAsk state.index.db caller body.accountId then (.permissionDenied, state)
  else
    let (sources, index) :=
      ragQuery cases minRelevanceScore state.index (body.input caller.organizationId) found
    (.answered sources, { state with index })

def chatRoute (cases : CaseMapping) (minRelevanceScore : ℚ) (state : RagState)
    (caller : RagCaller) (body : ChatBody) (found : List (RowId × ℚ)) : RagAnswer × RagState :=
  if !chatBodyValid body then (.validationError, state)
  else if body.accountId.any (!mayAsk state.index.db caller ·) then (.permissionDenied, state)
  else
    let (sources, state) :=
      chat cases minRelevanceScore state (body.input caller.organizationId) found
    (.answered sources, state)

def ragRoute (cases : CaseMapping) (minRelevanceScore : ℚ) (state : RagState)
    (caller : RagCaller) (request : RagRequest) (found : List (RowId × ℚ)) :
    RagAnswer × RagState :=
  match request with
  | .query body => queryRoute cases minRelevanceScore state caller body found
  | .chat body => chatRoute cases minRelevanceScore state caller body found

end StoryEngine.Rag
