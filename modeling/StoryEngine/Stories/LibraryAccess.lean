import StoryEngine.Stories.Library

namespace StoryEngine.Stories

open Access Data Pipeline Processing Schema

/-! # What the library shows

The account filter of a listing is overridden by a semantic ranking.  That is safe since the
ranking is already confined to the accessible accounts.
-/

variable {accountId : RowId}

theorem rankSemanticSearchAccounts_admitted {calls : List Call} {organizationId : RowId}
    {accessibleAccountIds : Option (List RowId)} {sources : List RagSource}
    (ranked : accountId ∈
      rankSemanticSearchAccounts calls organizationId accessibleAccountIds sources) :
    Admits accessibleAccountIds accountId := by
  cases accessibleAccountIds with
  | none => exact admits_none accountId
  | some ids =>
    have accepted := (List.mem_filter.mp ranked).2
    exact admits_some.mpr (by simpa using accepted)

theorem accountScope_admits {filters : StoryLibraryFilters}
    (confined : ∀ ids, filters.semanticAccountIds = some ids →
      ∀ id ∈ ids, Admits filters.accessibleAccountIds id)
    (inScope : (accountScope filters).all (·.contains accountId) = true) :
    Admits filters.accessibleAccountIds accountId := by
  have unranked (unset : accountScope filters = filters.accessibleAccountIds) :
      Admits filters.accessibleAccountIds accountId := by
    intro ids accessible
    rw [unset, accessible, Option.all_some] at inScope
    simpa using inScope
  cases ranking : filters.semanticAccountIds with
  | none => exact unranked (by simp only [accountScope, ranking])
  | some ranked =>
    cases ranked with
    | nil => exact unranked (by simp only [accountScope, ranking])
    | cons semantic others =>
      apply confined (semantic :: others) ranking
      simp only [accountScope, ranking] at inScope
      split at inScope
      · rw [Option.all_some, List.contains_iff_mem] at inScope
        exact List.mem_of_mem_filter inScope
      · rw [Option.all_some, List.contains_iff_mem] at inScope
        exact inScope
      · rw [Option.all_some, List.contains_iff_mem] at inScope
        exact inScope

section

variable (containsInsensitive : Text → Text → Bool) (tables : LibraryTables)
  (reads : StoryReads tables.stories)

def isListed (filters : StoryLibraryFilters) (stages : List FunnelStage) (story : LibraryStory) :
    Bool :=
  storyMatches containsInsensitive tables filters stages story &&
    ((filters.includeArchived || !isArchived tables story) &&
      filters.status.all (storyStage tables filters.organizationId story == ·))

theorem rankStories_perm (filters : StoryLibraryFilters) (stories : List LibraryStory) :
    (rankStories filters stories).Perm stories := by
  simp only [rankStories]
  split
  · exact List.perm_insertionSort _ stories
  · exact List.Perm.refl stories

theorem filteredStories_perm (filters : StoryLibraryFilters) (stages : List FunnelStage) :
    ((filteredStories containsInsensitive tables reads filters stages).map (·.story)).Perm
      (tables.stories.filter (isListed containsInsensitive tables filters stages)) := by
  have stories : (libraryEntry tables filters.organizationId · |>.story) = id := rfl
  simp only [filteredStories, List.map_map, Function.comp_def]
  refine ((rankStories_perm filters _).map _).trans ?_
  rw [stories, List.map_id]
  refine ((reads.perm _).filter _).trans (List.Perm.of_eq ?_)
  rw [List.filter_filter]
  apply List.filter_congr
  intro story _
  rw [isListed, Bool.and_comm]

variable {filters : StoryLibraryFilters} {stages : List FunnelStage} {library : StoryLibrary}
  {chat : Option (Text → List Text → Option (List RagSource))} {query : StoryLibraryQuery}

theorem filteredStories_admitted
    (confined : ∀ ids, filters.semanticAccountIds = some ids →
      ∀ id ∈ ids, Admits filters.accessibleAccountIds id)
    {entry : LibraryEntry}
    (member : entry ∈ filteredStories containsInsensitive tables reads filters stages) :
    Admits filters.accessibleAccountIds entry.story.accountId := by
  have listed := (filteredStories_perm containsInsensitive tables reads filters stages).mem_iff.mp
    (List.mem_map_of_mem member)
  have accepted := (List.mem_filter.mp listed).2
  simp only [isListed, storyMatches, Bool.and_eq_true] at accepted
  obtain ⟨⟨⟨⟨⟨⟨_, inScope⟩, _⟩, _⟩, _⟩, _⟩, _⟩ := accepted
  exact accountScope_admits confined inScope

theorem getLibrary_eq
    (answered : getLibrary containsInsensitive tables reads filters = some library) :
    ∃ stages, filters.funnelStages.mapM readStage = some stages ∧
      library.stories = pageAt (filters.limit.getD 25) (filters.page.getD 1)
        (filteredStories containsInsensitive tables reads filters stages) := by
  simp only [getLibrary, Option.bind_eq_bind, Option.bind_eq_some_iff] at answered
  obtain ⟨stages, read, same⟩ := answered
  cases same
  exact ⟨stages, read, rfl⟩

theorem getLibrary_admitted
    (confined : ∀ ids, filters.semanticAccountIds = some ids →
      ∀ id ∈ ids, Admits filters.accessibleAccountIds id)
    (answered : getLibrary containsInsensitive tables reads filters = some library) :
    ∀ entry ∈ library.stories, Admits filters.accessibleAccountIds entry.story.accountId := by
  intro entry member
  obtain ⟨stages, _, page⟩ := getLibrary_eq containsInsensitive tables reads answered
  rw [page] at member
  exact filteredStories_admitted containsInsensitive tables reads confined
    ((pageAt_sublist _).mem member)

def pageStories (filters : StoryLibraryFilters) (page : ℕ+) : List LibraryEntry :=
  ((getLibrary containsInsensitive tables reads { filters with page := some page }).map
    (·.stories)).getD []

theorem pageStories_eq
    (read : filters.funnelStages.mapM readStage = some stages) (page : ℕ+) :
    pageStories containsInsensitive tables reads filters page =
      pageAt (filters.limit.getD 25) page
        (filteredStories containsInsensitive tables reads filters stages) := by
  simp only [pageStories, getLibrary, read, Option.bind_eq_bind, Option.bind_some, Option.map_some,
    Option.getD_some]
  rfl

/-- Filters with the ranking of the accessible accounts by the sources of a search, if one was
made. -/
def withRanking (filters : StoryLibraryFilters) (organizationId : RowId)
    (searched : Option (List RagSource)) : StoryLibraryFilters :=
  { filters with
    semanticAccountIds := searched.map
      (rankSemanticSearchAccounts tables.calls organizationId filters.accessibleAccountIds) }

theorem withRanking_confined (filters : StoryLibraryFilters) (organizationId : RowId)
    (searched : Option (List RagSource)) :
    ∀ ids, (withRanking tables filters organizationId searched).semanticAccountIds = some ids →
      ∀ id ∈ ids, Admits filters.accessibleAccountIds id := by
  intro ids ranked id member
  obtain ⟨sources, _, rfl⟩ := Option.map_eq_some_iff.mp ranked
  exact rankSemanticSearchAccounts_admitted member

theorem library_respects_access_by_pages (filters : StoryLibraryFilters) (organizationId : RowId)
    (searched : Option (List RagSource)) :
    let ranked := withRanking tables filters organizationId searched
    (∀ library, getLibrary containsInsensitive tables reads ranked = some library →
      ∀ entry ∈ library.stories, Admits filters.accessibleAccountIds entry.story.accountId) ∧
    ∀ stages, filters.funnelStages.mapM readStage = some stages →
      let stories := filteredStories containsInsensitive tables reads ranked stages
      ((List.range (pageCount (filters.limit.getD 25) stories.length)).flatMap fun page =>
          pageStories containsInsensitive tables reads ranked page.succPNat) = stories ∧
        (stories.map (·.story)).Perm
          (tables.stories.filter (isListed containsInsensitive tables ranked stages)) := by
  intro ranked
  have confined : ∀ ids, ranked.semanticAccountIds = some ids →
      ∀ id ∈ ids, Admits ranked.accessibleAccountIds id :=
    withRanking_confined tables filters organizationId searched
  refine ⟨fun library answered =>
    @getLibrary_admitted containsInsensitive tables reads ranked library confined answered, ?_⟩
  intro stages read stories
  refine ⟨?_, filteredStories_perm containsInsensitive tables reads ranked stages⟩
  simp only [pageStories_eq containsInsensitive tables reads (show
    ranked.funnelStages.mapM readStage = some stages from read), Nat.succPNat_coe]
  exact pages_partition (filters.limit.getD 25).pos stories

def sharedTables : LibraryTables where
  stories := [
    { id := 1, organizationId := 1, accountId := 1, title := "Ours", generatedAt := 5 },
    { id := 2, organizationId := 1, accountId := 2, title := "Theirs", generatedAt := 7 }]
  calls := [
    { id := 3, organizationId := 1, accountId := some 1 },
    { id := 4, organizationId := 1, accountId := some 2 }]

theorem requestRanking_confined {calls : List Call}
    {organizationId : RowId}
    {accessibleIds : Option (List RowId)} {ranked : Option (List RowId)}
    (ranking : requestRanking calls chat organizationId accessibleIds query = some ranked) :
    ∀ ids, ranked = some ids → ∀ id ∈ ids, Admits accessibleIds id := by
  intro ids same id member
  simp only [requestRanking] at ranking
  split at ranking
  · obtain ⟨sources, _, rfl⟩ := Option.map_eq_some_iff.mp ranking
    cases same
    exact rankSemanticSearchAccounts_admitted member
  · cases ranking
    cases same

theorem libraryRoute_admitted {db : Database}
    {caller : Caller}
    {searchMode : LibrarySearchMode}
    (answered : libraryRoute containsInsensitive db tables reads chat caller query =
      .listed library searchMode) :
    ∀ entry ∈ library.stories,
      Admits (getAccessibleAccountIds db caller.userId caller.organizationId caller.userRole)
        entry.story.accountId := by
  simp only [libraryRoute] at answered
  split at answered
  · cases answered
  · split at answered
    · cases answered
    · split at answered
      · cases answered
      · next ranked ranking =>
          split at answered
          · cases answered
          · next found listed =>
              cases answered
              exact getLibrary_admitted containsInsensitive tables reads
                (requestRanking_confined ranking) listed

end

def grantedDatabase : Database where
  userAccountAccess := [
    { id := 9, userId := 5, organizationId := 1, scopeType := .singleAccount, accountId := some 1 }]

def memberCaller : Caller := { userId := 5, organizationId := 1, userRole := some .member }

theorem member_lists_own_story :
    ∃ library searchMode, libraryRoute (fun _ _ => false) grantedDatabase sharedTables
        (.inTableOrder sharedTables.stories) none memberCaller {} = .listed library searchMode ∧
      library.totalCount = 1 ∧
      ∀ entry ∈ library.stories,
        Admits (getAccessibleAccountIds grantedDatabase 5 1 (some .member))
          entry.story.accountId := by
  obtain ⟨library, searchMode, answered, one⟩ : ∃ library searchMode,
      libraryRoute (fun _ _ => false) grantedDatabase sharedTables
        (.inTableOrder sharedTables.stories) none memberCaller {} = .listed library searchMode ∧
      library.totalCount = 1 := ⟨_, _, rfl, rfl⟩
  exact ⟨library, searchMode, answered, one, libraryRoute_admitted _ _ _ answered⟩

end StoryEngine.Stories
