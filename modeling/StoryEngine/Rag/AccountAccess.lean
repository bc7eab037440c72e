import StoryEngine.Processing.CallChanges
import StoryEngine.Rag.Chat

namespace StoryEngine.Rag

open Access Data Processing Routes Schema

/-! # Answers and account access

The access of a user is checked for the account that a request names.  A chat that names none
is answered from all accounts of the organization, or with what another user was answered.
-/

def CallAccessible (db : Database) (userId : RowId) (caller : RagCaller) (callId : RowId) : Prop :=
  ∃ accountId ∈ accountOf db callId,
    canAccessAccount db userId caller.organizationId accountId caller.userRole = true

instance (db : Database) (userId : RowId) (caller : RagCaller) (callId : RowId) :
    Decidable (CallAccessible db userId caller callId) :=
  inferInstanceAs (Decidable (∃ accountId ∈ accountOf db callId, _))

/-- Whatever the index comes up with, all sources of the answer belong to accounts that the
user may access. -/
def AnswersAccessible (cases : CaseMapping) (minRelevanceScore : ℚ) (state : RagState)
    (userId : RowId) (caller : RagCaller) (request : RagRequest) : Prop :=
  ∀ found sources,
    (ragRoute cases minRelevanceScore state caller request found).1 = .answered sources →
      ∀ source ∈ sources, CallAccessible state.index.db userId caller source.callId

def admitted (state : RagState) (caller : RagCaller) : RagRequest → Bool
  | .query body =>
    queryBodyValid body && body.organizationId.all (· == caller.organizationId) &&
      mayAsk state.index.db caller body.accountId
  | .chat body => chatBodyValid body && body.accountId.all (mayAsk state.index.db caller ·)

def RagRequest.topK : RagRequest → Nat
  | query body => body.topK.getD 8
  | chat body => body.topK.getD 8

def scope (caller : RagCaller) : RagRequest → ChunkVector → Bool
  | .query body => matchesFilter (body.input caller.organizationId)
  | .chat body => chatMatchesFilter (body.input caller.organizationId)

def cachedAnswer (cases : CaseMapping) (state : RagState) (caller : RagCaller) :
    RagRequest → Option (List RagSource)
  | .query body =>
    (state.index.queryCache.find? (·.1 == buildRagQueryCacheKey cases
      (body.input caller.organizationId) (body.topK.getD 8))).map (·.2)
  | .chat body =>
    (state.chatCache.find? (·.1 == buildRagChatCacheKey cases
      (body.input caller.organizationId) (body.topK.getD 8))).map (·.2)

def indexedCall (state : SearchState) (vector : ChunkVector) : Option RowId := do
  let chunk ← state.chunks.find? (·.id == vector.chunkId)
  let call ← state.db.calls.find? (·.id == chunk.callId)
  return call.id

/-- The calls that an answer can name: those of the cached answer, or else all that are indexed
in the scope of the request. -/
def callsInReach (cases : CaseMapping) (state : RagState) (caller : RagCaller)
    (request : RagRequest) : List RowId :=
  match cachedAnswer cases state caller request with
  | some sources => sources.map (·.callId)
  | none => (state.index.vectors.filter (scope caller request)).filterMap (indexedCall state.index)

def ReachAccessible (cases : CaseMapping) (state : RagState) (userId : RowId) (caller : RagCaller)
    (request : RagRequest) : Prop :=
  admitted state caller request = true →
    ∀ callId ∈ callsInReach cases state caller request,
      CallAccessible state.index.db userId caller callId

instance (cases : CaseMapping) (state : RagState) (userId : RowId) (caller : RagCaller)
    (request : RagRequest) : Decidable (ReachAccessible cases state userId caller request) :=
  inferInstanceAs (Decidable (_ → ∀ callId ∈ _, _))

section

variable {state : SearchState} {filter : ChunkVector → Bool} {topK : Nat}
  {found : List (RowId × ℚ)} {minRelevanceScore : ℚ}

theorem hydrateSource_some {hit : ChunkVector × ℚ} {source : RagSource}
    (hydrates : hydrateSource state hit = some source) :
    indexedCall state hit.1 = some source.callId ∧ source.relevanceScore = hit.2 := by
  simp only [hydrateSource, Option.bind_eq_bind, Option.bind_eq_some_iff, Option.pure_def,
    Option.some.injEq] at hydrates
  obtain ⟨chunk, isChunk, call, isCall, rfl⟩ := hydrates
  simp [indexedCall, isChunk, isCall]

theorem hydrateSource_of_indexedCall {vector : ChunkVector} {callId : RowId}
    (indexed : indexedCall state vector = some callId) (score : ℚ) :
    ∃ source, hydrateSource state (vector, score) = some source ∧ source.callId = callId ∧
      source.relevanceScore = score := by
  simp only [indexedCall, Option.bind_eq_bind, Option.bind_eq_some_iff, Option.pure_def,
    Option.some.injEq] at indexed
  obtain ⟨chunk, isChunk, call, isCall, rfl⟩ := indexed
  simp [hydrateSource, isChunk, isCall]

theorem mem_searchFiltered {vectors : List ChunkVector} {hit : ChunkVector × ℚ}
    (member : hit ∈ searchFiltered filter vectors topK found) :
    hit.1 ∈ vectors ∧ filter hit.1 = true := by
  obtain ⟨⟨id, score⟩, _, isHit⟩ := List.mem_filterMap.mp (List.mem_of_mem_take member)
  obtain ⟨vector, isFound, rfl⟩ := Option.map_eq_some_iff.mp isHit
  exact List.mem_filter.mp (List.mem_of_find?_eq_some isFound)

theorem retrieve_source {source : RagSource}
    (member : source ∈ retrieve minRelevanceScore state filter topK found) :
    ∃ vector ∈ state.vectors, filter vector = true ∧
      indexedCall state vector = some source.callId := by
  obtain ⟨hydrated, _⟩ := List.mem_filter.mp member
  obtain ⟨hit, isHit, hydrates⟩ := List.mem_filterMap.mp hydrated
  obtain ⟨inVectors, matching⟩ := mem_searchFiltered isHit
  exact ⟨hit.1, inVectors, matching, (hydrateSource_some hydrates).1⟩

theorem retrieve_alone (keys : (state.vectors.map (·.id)).Nodup) (positive : 1 ≤ topK)
    {vector : ChunkVector} (member : vector ∈ state.vectors) (matching : filter vector = true)
    {callId : RowId} (indexed : indexedCall state vector = some callId) :
    ∃ source ∈ retrieve minRelevanceScore state filter topK [(vector.id, 1)],
      source.callId = callId := by
  have inScope : vector ∈ state.vectors.filter filter := List.mem_filter.mpr ⟨member, matching⟩
  have distinct : ((state.vectors.filter filter).map (·.id)).Nodup :=
    keys.sublist (List.filter_sublist.map _)
  have isFound : (state.vectors.filter filter).find? (·.id == vector.id) = some vector :=
    (find?_key_eq_some distinct).mpr ⟨inScope, rfl⟩
  obtain ⟨source, hydrates, ofCall, score⟩ := hydrateSource_of_indexedCall indexed 1
  have hit : searchFiltered filter state.vectors topK [(vector.id, 1)] = [(vector, 1)] := by
    simp only [searchFiltered, List.filterMap_cons, isFound, Option.map_some, List.filterMap_nil]
    exact List.take_of_length_le positive
  have relevant : min 1 (max 0 minRelevanceScore) ≤ source.relevanceScore := by
    rw [score]
    exact min_le_left 1 _
  have grounded : source ∈ filterGroundedSources [source] minRelevanceScore :=
    List.mem_filter.mpr ⟨List.mem_singleton_self source, decide_eq_true relevant⟩
  refine ⟨source, ?_, ofCall⟩
  simpa [retrieve, hit, hydrateSources, hydrates] using grounded

end

section

variable {cases : CaseMapping} {minRelevanceScore : ℚ} {state : RagState} {caller : RagCaller}
  {request : RagRequest} {found : List (RowId × ℚ)} {sources : List RagSource}

theorem ragQuery_answer (input : RagQuery) :
    (ragQuery cases minRelevanceScore state.index input found).1 =
      ((state.index.queryCache.find? (·.1 == buildRagQueryCacheKey cases input
        (input.topK.getD 8))).map (·.2)).getD
        (retrieve minRelevanceScore state.index (matchesFilter input) (input.topK.getD 8)
          found) := by
  simp only [ragQuery]
  split
  · next entry cached => simp [cached]
  · next missed =>
      simp only [missed, Option.map_none, Option.getD_none]
      rfl

theorem chat_answer (input : RagChatQuery) :
    (chat cases minRelevanceScore state input found).1 =
      ((state.chatCache.find? (·.1 == buildRagChatCacheKey cases input
        (input.topK.getD 8))).map (·.2)).getD
        (retrieve minRelevanceScore state.index (chatMatchesFilter input) (input.topK.getD 8)
          found) := by
  simp only [chat]
  split
  · next entry cached => simp [cached]
  · next missed => simp [missed]

theorem ragRoute_answered :
    (ragRoute cases minRelevanceScore state caller request found).1 = .answered sources ↔
      admitted state caller request = true ∧
      sources = (cachedAnswer cases state caller request).getD
        (retrieve minRelevanceScore state.index (scope caller request) request.topK found) := by
  cases request with
  | query body =>
    have answer : (cachedAnswer cases state caller (.query body)).getD (retrieve minRelevanceScore
        state.index (scope caller (.query body)) (RagRequest.topK (.query body)) found) =
        (ragQuery cases minRelevanceScore state.index (body.input caller.organizationId)
          found).1 := (ragQuery_answer _).symm
    rw [answer]
    simp only [ragRoute, queryRoute, admitted]
    generalize ragQuery cases minRelevanceScore state.index (body.input caller.organizationId)
      found = result
    cases queryBodyValid body with
    | false => simp
    | true =>
      cases mayAsk state.index.db caller body.accountId with
      | false =>
        simp only [Bool.and_false, Bool.false_eq_true, false_and, iff_false]
        split
        · intro answered
          cases answered
        · split <;> intro answered <;> cases answered
      | true =>
        cases body.organizationId with
        | none => simp [eq_comm]
        | some organizationId =>
          by_cases own : organizationId = caller.organizationId
          · simp [own, eq_comm]
          · simp [own]
  | chat body =>
    have answer : (cachedAnswer cases state caller (.chat body)).getD (retrieve minRelevanceScore
        state.index (scope caller (.chat body)) (RagRequest.topK (.chat body)) found) =
        (chat cases minRelevanceScore state (body.input caller.organizationId) found).1 :=
      (chat_answer _).symm
    rw [answer]
    simp only [ragRoute, chatRoute, admitted]
    generalize chat cases minRelevanceScore state (body.input caller.organizationId) found =
      result
    cases chatBodyValid body with
    | false => simp
    | true =>
      cases body.accountId with
      | none => simp [eq_comm]
      | some accountId =>
        cases allowed : mayAsk state.index.db caller accountId with
        | false => simp [allowed]
        | true => simp [allowed, eq_comm]

theorem admitted_topK (passes : admitted state caller request = true) : 1 ≤ request.topK := by
  have positive (topK : Option Nat) (valid : topKValid topK = true) : 1 ≤ topK.getD 8 := by
    cases topK with
    | none => decide
    | some count =>
      have bounds : 1 ≤ count ∧ count ≤ 20 := by simpa [topKValid] using valid
      exact bounds.1
  cases request with
  | query body =>
    have valid : queryBodyValid body = true := by simp_all [admitted]
    exact positive body.topK (Bool.and_eq_true_iff.mp valid).2
  | chat body =>
    have valid : chatBodyValid body = true := by simp_all [admitted]
    exact positive body.topK (Bool.and_eq_true_iff.mp valid).2

theorem answers_of_reach {userId : RowId}
    (reach : ReachAccessible cases state userId caller request) :
    AnswersAccessible cases minRelevanceScore state userId caller request := by
  intro found sources answered source member
  obtain ⟨passes, rfl⟩ := ragRoute_answered.mp answered
  apply reach passes
  cases cached : cachedAnswer cases state caller request with
  | some sources =>
    rw [cached, Option.getD_some] at member
    simp only [callsInReach, cached]
    exact List.mem_map_of_mem member
  | none =>
    rw [cached, Option.getD_none] at member
    obtain ⟨vector, inVectors, matching, indexed⟩ := retrieve_source member
    simp only [callsInReach, cached]
    exact List.mem_filterMap.mpr ⟨vector, List.mem_filter.mpr ⟨inVectors, matching⟩, indexed⟩

theorem reach_of_answers {userId : RowId} (keys : (state.index.vectors.map (·.id)).Nodup)
    (accessible : AnswersAccessible cases minRelevanceScore state userId caller request) :
    ReachAccessible cases state userId caller request := by
  intro passes callId inReach
  cases cached : cachedAnswer cases state caller request with
  | some sources =>
    simp only [callsInReach, cached, List.mem_map] at inReach
    obtain ⟨source, member, rfl⟩ := inReach
    have answered := (@ragRoute_answered cases minRelevanceScore state caller request []
      sources).mpr ⟨passes, by rw [cached, Option.getD_some]⟩
    exact accessible [] sources answered source member
  | none =>
    simp only [callsInReach, cached, List.mem_filterMap, List.mem_filter] at inReach
    obtain ⟨vector, ⟨member, matching⟩, indexed⟩ := inReach
    obtain ⟨source, isSource, rfl⟩ := @retrieve_alone state.index (scope caller request)
      request.topK minRelevanceScore keys (admitted_topK passes) vector member matching _
      indexed
    have answered := (@ragRoute_answered cases minRelevanceScore state caller request
      [(vector.id, 1)] _).mpr ⟨passes, by rw [cached, Option.getD_none]⟩
    exact accessible _ _ answered source isSource

end

/-- The sources of every answer to a request belong to accounts that the user may access if,
and only if, the request is refused or all calls in its reach belong to such accounts. -/
theorem answers_accessible_iff (cases : CaseMapping) (minRelevanceScore : ℚ) (state : RagState)
    (keys : (state.index.vectors.map (·.id)).Nodup) (userId : RowId) (caller : RagCaller)
    (request : RagRequest) :
    AnswersAccessible cases minRelevanceScore state userId caller request ↔
      ReachAccessible cases state userId caller request :=
  ⟨reach_of_answers keys, answers_of_reach⟩

def twoAccounts : RagState where
  index := {
    db := {
      calls := [
        { id := 11, organizationId := 1, accountId := some 1 },
        { id := 12, organizationId := 1, accountId := some 2 }]
      userAccountAccess := [{
        id := 3, userId := 5, organizationId := 1, scopeType := .singleAccount
        accountId := some 1 }] }
    chunks := [
      { id := 21, callId := 11, chunkIndex := 0, text := ['a'] },
      { id := 22, callId := 12, chunkIndex := 0, text := ['b'] }]
    vectors := [
      { id := 21, embedded := ['a'], chunkId := 21, accountId := 1, organizationId := 1
        callId := 11 },
      { id := 22, embedded := ['b'], chunkId := 22, accountId := 2, organizationId := 1
        callId := 12 }] }

def member : RagCaller where
  userId := some 5
  organizationId := 1
  userRole := some .member

def owner : RagCaller where
  userId := some 4
  organizationId := 1
  userRole := some .owner

def chatAbout (accountId : Option RowId) : RagRequest :=
  .chat { query := ("who?" : String).toList, accountId }

theorem chat_about_first_account_is_accessible :
    AnswersAccessible .ascii 0 twoAccounts 5 member (chatAbout (some 1)) :=
  (answers_accessible_iff .ascii 0 twoAccounts (by decide) 5 member (chatAbout (some 1))).mpr
    (by decide +kernel)

/-- Without an account the user is told about the call of the other account, by the index, and
by the cache once the owner has asked the same. -/
theorem chat_without_account_is_not_accessible :
    ¬AnswersAccessible .ascii 0 twoAccounts 5 member (chatAbout none) ∧
    ¬AnswersAccessible .ascii 0
      (ragRoute .ascii 0 twoAccounts owner (chatAbout none) [(22, 1)]).2 5 member
        (chatAbout none) := by
  constructor
  · intro accessible
    have reached := accessible [(22, 1)] _ rfl
      { chunkId := 22, callId := 12, callTitle := none, occurredAt := 0, text := ['b']
        relevanceScore := 1 }
      (by decide +kernel)
    revert reached
    decide +kernel
  · intro accessible
    have reached := accessible [] _ rfl
      { chunkId := 22, callId := 12, callTitle := none, occurredAt := 0, text := ['b']
        relevanceScore := 1 }
      (by decide +kernel)
    revert reached
    decide +kernel

/-- Vectors and cached answers are under the accounts of their calls. -/
structure IndexAgrees (state : RagState) : Prop where
  vectors : ∀ vector ∈ state.index.vectors, ∀ callId ∈ indexedCall state.index vector,
    accountOf state.index.db callId = some vector.accountId
  queries : ∀ entry ∈ state.index.queryCache, ∀ source ∈ entry.2,
    accountOf state.index.db source.callId = some entry.1.accountId
  chats : ∀ entry ∈ state.chatCache, ∀ accountId ∈ entry.1.accountId, ∀ source ∈ entry.2,
    accountOf state.index.db source.callId = some accountId

def RagRequest.account : RagRequest → Option RowId
  | query body => some body.accountId
  | chat body => body.accountId

/-- Requests, changes of the grants, and answers that leave the caches. -/
inductive RagAction where
  | ask (caller : RagCaller) (request : RagRequest) (found : List (RowId × ℚ))
  | setGrants (grants : List UserAccountAccess)
  | forgetQuery (key : RagQueryKey)
  | forgetChat (key : RagChatKey)

def ragStep (cases : CaseMapping) (minRelevanceScore : ℚ) (state : RagState) :
    RagAction → RagState
  | .ask caller request found => (ragRoute cases minRelevanceScore state caller request found).2
  | .setGrants grants =>
    { state with
      index := { state.index with db := { state.index.db with userAccountAccess := grants } } }
  | .forgetQuery key => { state with index := forgetAnswer state.index key }
  | .forgetChat key =>
    { state with chatCache := state.chatCache.filter (·.1 != key) }

section

variable {cases : CaseMapping} {minRelevanceScore : ℚ} {state : RagState} {caller : RagCaller}
  {request : RagRequest} {found : List (RowId × ℚ)} {accountId : RowId}

theorem IndexAgrees.reach (agrees : IndexAgrees state) (names : request.account = some accountId) :
    ∀ callId ∈ callsInReach cases state caller request,
      accountOf state.index.db callId = some accountId := by
  intro callId inReach
  cases cached : cachedAnswer cases state caller request with
  | some sources =>
    simp only [callsInReach, cached, List.mem_map] at inReach
    obtain ⟨source, member, rfl⟩ := inReach
    cases request with
    | query body =>
      obtain rfl := Option.some.inj names
      obtain ⟨entry, isEntry, rfl⟩ := Option.map_eq_some_iff.mp cached
      have account := agrees.queries entry (List.mem_of_find?_eq_some isEntry) source member
      have isKey := List.find?_some isEntry
      rw [beq_iff_eq] at isKey
      rwa [isKey] at account
    | chat body =>
      obtain ⟨entry, isEntry, rfl⟩ := Option.map_eq_some_iff.mp cached
      have isKey := List.find?_some isEntry
      rw [beq_iff_eq] at isKey
      apply agrees.chats entry (List.mem_of_find?_eq_some isEntry) accountId _ source member
      rw [isKey]
      exact names
  | none =>
    simp only [callsInReach, cached, List.mem_filterMap, List.mem_filter] at inReach
    obtain ⟨vector, ⟨member, matching⟩, indexed⟩ := inReach
    rw [agrees.vectors vector member callId indexed]
    cases request with
    | query body =>
      obtain rfl := Option.some.inj names
      simp only [scope, matchesFilter, Bool.and_eq_true, beq_iff_eq] at matching
      exact congrArg some matching.1.1
    | chat body =>
      have isAccount : body.accountId = some accountId := names
      simp only [scope, chatMatchesFilter, ChatBody.input, isAccount, Option.all_some,
        Bool.and_eq_true, beq_iff_eq] at matching
      exact congrArg some matching.1.2

theorem IndexAgrees.accessible (agrees : IndexAgrees state) {userId : RowId}
    (asks : caller.userId = some userId) (names : request.account = some accountId) :
    ReachAccessible cases state userId caller request := by
  intro passes callId inReach
  refine ⟨accountId, agrees.reach names callId inReach, ?_⟩
  cases request with
  | query body =>
    obtain rfl := Option.some.inj names
    have may : mayAsk state.index.db caller body.accountId = true :=
      (Bool.and_eq_true_iff.mp passes).2
    simpa [mayAsk, asks] using may
  | chat body =>
    have isAccount : body.accountId = some accountId := names
    have may := (Bool.and_eq_true_iff.mp passes).2
    simpa [isAccount, mayAsk, asks] using may

theorem IndexAgrees.retrieved (agrees : IndexAgrees state) {filter : ChunkVector → Bool}
    {topK : Nat} (under : ∀ vector, filter vector = true → vector.accountId = accountId) :
    ∀ source ∈ retrieve minRelevanceScore state.index filter topK found,
      accountOf state.index.db source.callId = some accountId := by
  intro source member
  obtain ⟨vector, inVectors, matching, indexed⟩ := retrieve_source member
  rw [agrees.vectors vector inVectors source.callId indexed, under vector matching]

theorem IndexAgrees.ragQuery (agrees : IndexAgrees state) (input : RagQuery) :
    IndexAgrees { state with
      index := (ragQuery cases minRelevanceScore state.index input found).2 } := by
  have under (vector : ChunkVector) (matching : matchesFilter input vector = true) :
      vector.accountId = input.accountId := by
    simp only [matchesFilter, Bool.and_eq_true, beq_iff_eq] at matching
    exact matching.1.1
  simp only [Processing.ragQuery]
  split
  · exact agrees
  · refine ⟨agrees.vectors, ?_, agrees.chats⟩
    intro entry member source inEntry
    rcases List.mem_cons.mp member with rfl | old
    · exact agrees.retrieved under source inEntry
    · exact agrees.queries entry old source inEntry

theorem IndexAgrees.chat (agrees : IndexAgrees state) (input : RagChatQuery) :
    IndexAgrees (chat cases minRelevanceScore state input found).2 := by
  simp only [Rag.chat]
  split
  · exact agrees
  · refine ⟨agrees.vectors, agrees.queries, ?_⟩
    intro entry member accountId named source inEntry
    rcases List.mem_cons.mp member with rfl | old
    · have isAccount : input.accountId = some accountId := named
      apply agrees.retrieved _ source inEntry
      intro vector matching
      simp only [chatMatchesFilter, isAccount, Option.all_some, Bool.and_eq_true,
        beq_iff_eq] at matching
      exact matching.1.2
    · exact agrees.chats entry old accountId named source inEntry

theorem IndexAgrees.step (agrees : IndexAgrees state) (action : RagAction) :
    IndexAgrees (ragStep cases minRelevanceScore state action) := by
  cases action with
  | ask caller request found =>
    cases request with
    | query body =>
      simp only [ragStep, ragRoute, queryRoute]
      split
      · exact agrees
      · split
        · exact agrees
        · split
          · exact agrees
          · exact agrees.ragQuery _
    | chat body =>
      simp only [ragStep, ragRoute, chatRoute]
      split
      · exact agrees
      · split
        · exact agrees
        · exact agrees.chat _
  | setGrants grants => exact ⟨agrees.vectors, agrees.queries, agrees.chats⟩
  | forgetQuery key =>
    refine ⟨agrees.vectors, ?_, agrees.chats⟩
    intro entry member
    exact agrees.queries entry (List.mem_of_mem_filter member)
  | forgetChat key =>
    refine ⟨agrees.vectors, agrees.queries, ?_⟩
    intro entry member
    exact agrees.chats entry (List.mem_of_mem_filter member)

/-- While the vectors are under the accounts of their calls, requests that name an account are
answered from accounts that the user may access then, whoever has asked before. -/
theorem named_requests_accessible {actions : List RagAction} (agrees : IndexAgrees state) :
    ∀ taken ∈ trace (ragStep cases minRelevanceScore) state actions,
      ∀ caller request found userId, taken.2 = .ask caller request found →
        caller.userId = some userId → request.account.isSome = true →
          AnswersAccessible cases minRelevanceScore taken.1 userId caller request := by
  intro taken member caller request found userId _ asks named
  obtain ⟨accountId, names⟩ := Option.isSome_iff_exists.mp named
  have free : Guarded (ragStep cases minRelevanceScore) (fun _ _ => True) state actions :=
    fun _ _ => trivial
  have kept := (trace_guarded_invariant IndexAgrees (fun _ action kept _ => kept.step action)
    agrees free taken member).1
  exact answers_of_reach (kept.accessible asks names)

end

theorem twoAccounts_agrees : IndexAgrees twoAccounts where
  vectors := by decide +kernel
  queries _ member := by cases member
  chats _ member := by cases member

/-- Whatever the owner has asked before, the member hears of the first account only. -/
theorem member_stays_in_account :
    AnswersAccessible .ascii 0
      (ragStep .ascii 0 twoAccounts (.ask owner (chatAbout none) [(22, 1)])) 5 member
      (chatAbout (some 1)) :=
  @named_requests_accessible .ascii 0 twoAccounts
    [.ask owner (chatAbout none) [(22, 1)], .ask member (chatAbout (some 1)) []] twoAccounts_agrees
    (ragStep .ascii 0 twoAccounts (.ask owner (chatAbout none) [(22, 1)]),
      .ask member (chatAbout (some 1)) []) (by simp [trace]) member (chatAbout (some 1)) [] 5 rfl rfl
    rfl

end StoryEngine.Rag
