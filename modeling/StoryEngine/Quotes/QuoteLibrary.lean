import StoryEngine.Data.Pages
import StoryEngine.Quotes.AutoExtract

namespace StoryEngine.Quotes

open Data Schema

/-! # The quote library

The library lists the quotes of an organization by pages.  A query for one account takes the place
of the accounts that the user may see, and only what is on a page is looked up among the stars.
-/

def QuoteTier.rank : QuoteTier → Nat
  | .auto => 0
  | .curated => 1

structure CuratedQuote extends LibraryQuote where
  sourceStartMs : Option Nat := none
  sourceEndMs : Option Nat := none
  curatedByUserId : Option RowId := none
  curatedAt : Option Date := none
  curationNote : Option Text := none

structure QuoteStar where
  userId : RowId
  quoteId : RowId

structure QuoteTables where
  quotes : List CuratedQuote := []
  stars : List QuoteStar := []
  accounts : List Account := []
  calls : List Call := []
  users : List User := []
  distinct : (quotes.map (·.id)).Nodup

/-- What is undefined is `none`, and so are an empty account id and the tier `ALL`. -/
structure QuoteListFilters where
  organizationId : RowId
  userId : RowId
  accessibleAccountIds : Option (List RowId) := none
  search : Option Text := none
  accountId : Option RowId := none
  tier : Option QuoteTier := none
  dateFrom : Option Date := none
  dateTo : Option Date := none
  starredOnly : Bool := false
  limit : Option Nat := none
  offset : Option Nat := none

structure AccountOfQuote where
  id : RowId
  name : Text

structure CallOfQuote where
  id : RowId
  title : Option Text
  occurredAt : Date

structure Curator where
  id : RowId
  name : Option Text
  email : Text

structure QuoteListRow where
  id : RowId
  tier : QuoteTier
  quoteText : Text
  confidenceScore : ℚ
  createdAt : Date
  curatedAt : Option Date
  curationNote : Option Text
  callId : RowId
  sourceChunkId : RowId
  sourceStartMs : Option Nat
  sourceEndMs : Option Nat
  account : Option AccountOfQuote
  call : Option CallOfQuote
  isStarred : Bool
  curatedBy : Option Curator

inductive AccountCondition where
  | oneOf (accountIds : List RowId)
  | equals (accountId : RowId)

def AccountCondition.accepts : AccountCondition → RowId → Bool
  | .oneOf accountIds, accountId => accountIds.contains accountId
  | .equals wanted, accountId => accountId == wanted

structure QuoteWhereInput where
  organizationId : RowId
  accountId : Option AccountCondition := none
  tier : Option QuoteTier := none
  createdFrom : Option Date := none
  createdTo : Option Date := none
  contains : Option Text := none

def QuoteWhereInput.accepts (containsInsensitive : Text → Text → Bool) (input : QuoteWhereInput)
    (quote : CuratedQuote) : Bool :=
  quote.organizationId == input.organizationId &&
    input.accountId.all (·.accepts quote.accountId) &&
    input.tier.all (quote.tier == ·) &&
    input.createdFrom.all (decide <| · ≤ quote.createdAt) &&
    input.createdTo.all (decide <| quote.createdAt ≤ ·) &&
    input.contains.all (containsInsensitive quote.quoteText)

namespace QuoteListFilters

variable (filters : QuoteListFilters)

def needle : Option Text := (filters.search.map Text.trim).filter (!·.isEmpty)

/-- The later of two keys `accountId` is the one that is left. -/
def accountCondition : Option AccountCondition :=
  match filters.accountId with
  | some accountId => some (.equals accountId)
  | none => filters.accessibleAccountIds.map .oneOf

def whereInput : QuoteWhereInput where
  organizationId := filters.organizationId
  accountId := filters.accountCondition
  tier := filters.tier
  createdFrom := filters.dateFrom
  createdTo := filters.dateTo
  contains := filters.needle

def take : Nat := filters.limit.getD 200

def skip : Nat := filters.offset.getD 0

/-- The account that is asked for is not one of those that the user may see. -/
def OutsideAccount : Prop :=
  ∃ accountId accessible, filters.accountId = some accountId ∧
    filters.accessibleAccountIds = some accessible ∧ accountId ∉ accessible

/-- Every filter but that of the accounts which the user may see. -/
def asks (containsInsensitive : Text → Text → Bool) (quote : CuratedQuote) : Bool :=
  quote.organizationId == filters.organizationId &&
    filters.accountId.all (quote.accountId == ·) &&
    filters.tier.all (quote.tier == ·) &&
    filters.dateFrom.all (decide <| · ≤ quote.createdAt) &&
    filters.dateTo.all (decide <| quote.createdAt ≤ ·) &&
    filters.needle.all (containsInsensitive quote.quoteText)

def admits (containsInsensitive : Text → Text → Bool) (quote : CuratedQuote) : Bool :=
  filters.asks containsInsensitive quote &&
    filters.accessibleAccountIds.all (·.contains quote.accountId)

end QuoteListFilters

namespace QuoteTables

section

variable (tables : QuoteTables) (filters : QuoteListFilters)

/-- `orderBy: [{ tier: "asc" }, { createdAt: "desc" }]`; equal rows stay in the table's order. -/
def ordered : List CuratedQuote :=
  tables.quotes.insertionSort fun first second =>
    first.tier.rank < second.tier.rank ∨
      first.tier = second.tier ∧ second.createdAt ≤ first.createdAt

def isStarred (quote : CuratedQuote) : Bool :=
  tables.stars.any fun star => star.quoteId == quote.id && star.userId == filters.userId

def listRow (quote : CuratedQuote) : QuoteListRow where
  id := quote.id
  tier := quote.tier
  quoteText := quote.quoteText
  confidenceScore := quote.confidenceScore
  createdAt := quote.createdAt
  curatedAt := quote.curatedAt
  curationNote := quote.curationNote
  callId := quote.callId
  sourceChunkId := quote.sourceChunkId
  sourceStartMs := quote.sourceStartMs
  sourceEndMs := quote.sourceEndMs
  account := (tables.accounts.find? (·.id == quote.accountId)).map fun account =>
    { id := account.id, name := account.name }
  call := (tables.calls.find? (·.id == quote.callId)).map fun call =>
    { id := call.id, title := call.title, occurredAt := call.occurredAt }
  isStarred := tables.isStarred filters quote
  curatedBy := (quote.curatedByUserId.bind fun userId => tables.users.find? (·.id == userId)).map
    fun user => { id := user.id, name := user.name, email := user.email }

end

section

variable (containsInsensitive : Text → Text → Bool) (tables : QuoteTables)
  (filters : QuoteListFilters)

def found : List CuratedQuote :=
  tables.ordered.filter (filters.whereInput.accepts containsInsensitive)

def page : List CuratedQuote :=
  ((tables.found containsInsensitive filters).drop filters.skip).take filters.take

def listQuotes : List QuoteListRow :=
  let mapped := (tables.page containsInsensitive filters).map (tables.listRow filters)
  if filters.starredOnly then mapped.filter (·.isStarred) else mapped

def wantedRows : List QuoteListRow :=
  let wanted := tables.ordered.filter fun quote =>
    filters.admits containsInsensitive quote &&
      (!filters.starredOnly || tables.isStarred filters quote)
  ((wanted.drop filters.skip).take filters.take).map (tables.listRow filters)

/-- How many of the quotes that pass stand before one of them. -/
def place (passes : CuratedQuote → Bool) (quote : CuratedQuote) : Nat :=
  (tables.ordered.filter passes).findIdx (·.id == quote.id)

/-- The quote passes, at one of the places that the request asks for. -/
def InWindow (passes : CuratedQuote → Bool) (quote : CuratedQuote) : Bool :=
  passes quote && decide (filters.skip ≤ tables.place passes quote) &&
    decide (tables.place passes quote < filters.skip + filters.take)

/-- The starred quotes in the window of all quotes are as many as a page of starred ones has, and, if
there are any, every quote before the window is starred. -/
def StarsInPlace : Prop :=
  let passes := filters.admits containsInsensitive
  let starred (among : CuratedQuote → Bool) :=
    tables.quotes.countP fun quote => among quote && tables.isStarred filters quote
  let shown := starred (tables.InWindow filters passes)
  shown = min filters.take (starred passes - filters.skip) ∧
    (shown = 0 ∨ starred (fun quote => passes quote && decide (tables.place passes quote <
      filters.skip)) = filters.skip)

/-- When all filters are applied: of an account out of the user's sight no quote that is to be shown
stands in the window of the quotes asked for, and a page of starred quotes has its stars in place. -/
def FiltersApply : Prop :=
  (filters.OutsideAccount → ∀ quote ∈ tables.quotes,
      (filters.starredOnly = true → tables.isStarred filters quote = true) →
        tables.InWindow filters (filters.asks containsInsensitive) quote = false) ∧
    (¬filters.OutsideAccount → filters.starredOnly = true →
      tables.StarsInPlace containsInsensitive filters)

end

variable {containsInsensitive : Text → Text → Bool} {tables : QuoteTables}
  {filters : QuoteListFilters}

theorem nodup_ids (accepts : CuratedQuote → Bool) :
    ((tables.ordered.filter accepts).map (·.id)).Nodup := by
  have sorted : (tables.ordered.map (·.id)).Nodup :=
    ((List.perm_insertionSort _ tables.quotes).map _).nodup_iff.mpr tables.distinct
  exact sorted.sublist (List.filter_sublist.map _)

theorem nodup_rows (accepts : CuratedQuote → Bool) :
    ((tables.ordered.filter accepts).map (tables.listRow filters)).Nodup := by
  have ids := @nodup_ids tables accepts
  have through : (tables.ordered.filter accepts).map (·.id) =
      ((tables.ordered.filter accepts).map (tables.listRow filters)).map (·.id) := by
    rw [List.map_map]
    rfl
  rw [through] at ids
  exact ids.of_map _

theorem accepts_eq_admits (inside : ¬filters.OutsideAccount) (quote : CuratedQuote) :
    filters.whereInput.accepts containsInsensitive quote =
      filters.admits containsInsensitive quote := by
  have accounts : filters.accountCondition.all (·.accepts quote.accountId) =
      (filters.accessibleAccountIds.all (·.contains quote.accountId) &&
        filters.accountId.all (quote.accountId == ·)) := by
    unfold QuoteListFilters.accountCondition
    cases asked : filters.accountId with
    | none =>
      rw [Option.all_map, Option.all_none, Bool.and_true]
      rfl
    | some accountId =>
      cases sight : filters.accessibleAccountIds with
      | none => rfl
      | some accessible =>
        have listed : accountId ∈ accessible := by
          by_contra unlisted
          exact inside ⟨accountId, accessible, asked, sight, unlisted⟩
        by_cases same : quote.accountId = accountId
        · simp [AccountCondition.accepts, same, listed]
        · simp [AccountCondition.accepts, same]
  simp only [QuoteWhereInput.accepts, QuoteListFilters.whereInput, QuoteListFilters.admits,
    QuoteListFilters.asks, accounts]
  ac_rfl

theorem accepts_eq_asks (outside : filters.OutsideAccount) (quote : CuratedQuote) :
    filters.whereInput.accepts containsInsensitive quote =
      filters.asks containsInsensitive quote := by
  obtain ⟨accountId, _, asked, _, _⟩ := outside
  simp [QuoteWhereInput.accepts, QuoteListFilters.whereInput, QuoteListFilters.asks,
    QuoteListFilters.accountCondition, AccountCondition.accepts, asked]

theorem admits_outside (outside : filters.OutsideAccount) (quote : CuratedQuote) :
    filters.admits containsInsensitive quote = false := by
  obtain ⟨accountId, accessible, asked, sight, unlisted⟩ := outside
  by_cases same : quote.accountId = accountId
  · simp [QuoteListFilters.admits, sight, same, unlisted]
  · simp [QuoteListFilters.admits, QuoteListFilters.asks, asked, same]

section

variable {passes : CuratedQuote → Bool}
  (same : ∀ quote, filters.whereInput.accepts containsInsensitive quote = passes quote)

include same

theorem found_eq : tables.found containsInsensitive filters = tables.ordered.filter passes :=
  List.filter_congr fun quote _ => same quote

theorem page_eq : tables.page containsInsensitive filters =
    tables.ordered.filter (tables.InWindow filters passes) := by
  rw [page, found_eq same, page_eq_filter (nodup_ids passes), List.filter_filter]
  refine List.filter_congr fun quote _ => ?_
  rw [InWindow, place]
  ac_rfl

theorem take_found_eq : (tables.found containsInsensitive filters).take filters.skip =
    tables.ordered.filter fun quote =>
      passes quote && decide (tables.place passes quote < filters.skip) := by
  have first := page_eq_filter (@nodup_ids tables passes) 0 filters.skip
  rw [List.drop_zero] at first
  rw [found_eq same, first, List.filter_filter]
  refine List.filter_congr fun quote _ => ?_
  rw [place, Nat.zero_add, decide_eq_true (Nat.zero_le _), Bool.true_and, Bool.and_comm]

end

theorem countP_ordered (among : CuratedQuote → Bool) :
    (tables.ordered.filter among).countP (tables.isStarred filters) =
      tables.quotes.countP fun quote => among quote && tables.isStarred filters quote := by
  rw [List.countP_filter, ordered, (List.perm_insertionSort _ tables.quotes).countP_eq]
  exact List.countP_congr fun quote _ => by rw [Bool.and_comm]

theorem wantedRows_inside (inside : ¬filters.OutsideAccount) :
    tables.wantedRows containsInsensitive filters =
      (((tables.found containsInsensitive filters).filter fun quote =>
        !filters.starredOnly || tables.isStarred filters quote).drop filters.skip |>.take
          filters.take).map (tables.listRow filters) := by
  have same : tables.ordered.filter (fun quote => filters.admits containsInsensitive quote &&
      (!filters.starredOnly || tables.isStarred filters quote)) =
      (tables.found containsInsensitive filters).filter fun quote =>
        !filters.starredOnly || tables.isStarred filters quote := by
    rw [found, List.filter_filter]
    refine List.filter_congr fun quote _ => ?_
    rw [accepts_eq_admits inside, Bool.and_comm]
  rw [wantedRows, same]

theorem listQuotes_starred (only : filters.starredOnly = true) :
    tables.listQuotes containsInsensitive filters =
      ((tables.page containsInsensitive filters).filter (tables.isStarred filters)).map
        (tables.listRow filters) := by
  rw [listQuotes, if_pos only, List.filter_map]
  rfl

theorem listQuotes_starred_iff (inside : ¬filters.OutsideAccount)
    (only : filters.starredOnly = true) :
    tables.listQuotes containsInsensitive filters =
        tables.wantedRows containsInsensitive filters ↔
      tables.StarsInPlace containsInsensitive filters := by
  have distinct : (((tables.found containsInsensitive filters).filter
      (tables.isStarred filters)).map (tables.listRow filters)).Nodup := by
    rw [found, List.filter_filter]
    exact nodup_rows _
  have fits := countP_page_le filters.skip filters.take (tables.isStarred filters)
    (tables.found containsInsensitive filters)
  rw [listQuotes_starred only, wantedRows_inside inside, page, filter_page]
  simp only [only, Bool.not_true, Bool.false_or, List.map_take, List.map_drop]
  rw [page_eq_iff distinct, List.length_map, ← List.countP_eq_length_filter]
  · rw [← page, page_eq (accepts_eq_admits inside), take_found_eq (accepts_eq_admits inside),
      found_eq (accepts_eq_admits inside), countP_ordered, countP_ordered, countP_ordered]
    rfl
  · rwa [List.length_map, ← List.countP_eq_length_filter]

theorem listQuotes_unfiltered (inside : ¬filters.OutsideAccount)
    (all : filters.starredOnly = false) :
    tables.listQuotes containsInsensitive filters =
      tables.wantedRows containsInsensitive filters := by
  rw [wantedRows_inside inside]
  simp [listQuotes, page, all]

theorem listQuotes_outside_iff (outside : filters.OutsideAccount) :
    tables.listQuotes containsInsensitive filters =
        tables.wantedRows containsInsensitive filters ↔
      ∀ quote ∈ tables.quotes,
        (filters.starredOnly = true → tables.isStarred filters quote = true) →
          tables.InWindow filters (filters.asks containsInsensitive) quote = false := by
  have nothing : tables.wantedRows containsInsensitive filters = [] := by
    simp [wantedRows, admits_outside outside]
  have onPage (quote : CuratedQuote) : quote ∈ tables.page containsInsensitive filters ↔
      quote ∈ tables.quotes ∧
        tables.InWindow filters (filters.asks containsInsensitive) quote = true := by
    rw [page_eq (accepts_eq_asks outside), List.mem_filter, ordered, List.mem_insertionSort]
  rw [nothing]
  cases only : filters.starredOnly with
  | true =>
    rw [listQuotes_starred only, List.map_eq_nil_iff, List.filter_eq_nil_iff]
    constructor
    · intro none quote member starred
      rw [← Bool.not_eq_true]
      exact fun window => none quote ((onPage quote).mpr ⟨member, window⟩) (starred rfl)
    · intro hidden quote member starred
      obtain ⟨stored, window⟩ := (onPage quote).mp member
      rw [hidden quote stored fun _ => starred] at window
      cases window
  | false =>
    rw [listQuotes, if_neg (by simp [only]), List.map_eq_nil_iff, List.eq_nil_iff_forall_not_mem]
    constructor
    · intro none quote member _
      rw [← Bool.not_eq_true]
      exact fun window => none quote ((onPage quote).mpr ⟨member, window⟩)
    · intro hidden quote member
      obtain ⟨stored, window⟩ := (onPage quote).mp member
      rw [hidden quote stored nofun] at window
      cases window

/-- The list is the page of the quotes that pass every filter, exactly when the filters apply. -/
theorem listQuotes_eq_iff (containsInsensitive : Text → Text → Bool) (tables : QuoteTables)
    (filters : QuoteListFilters) :
    tables.listQuotes containsInsensitive filters =
        tables.wantedRows containsInsensitive filters ↔
      tables.FiltersApply containsInsensitive filters := by
  rw [FiltersApply]
  by_cases outside : filters.OutsideAccount
  · rw [listQuotes_outside_iff outside]
    exact ⟨fun hidden => ⟨fun _ => hidden, fun inside => absurd outside inside⟩,
      fun apply => apply.1 outside⟩
  · cases only : filters.starredOnly with
    | false =>
      refine iff_of_true (listQuotes_unfiltered outside only) ⟨?_, ?_⟩
      · exact fun inside => absurd inside outside
      · exact fun _ starred => Bool.noConfusion starred
    | true =>
      rw [listQuotes_starred_iff outside only]
      exact ⟨fun inPlace => ⟨fun inside => absurd inside outside, fun _ _ => inPlace⟩,
        fun apply => apply.2 outside rfl⟩

end QuoteTables

def twoQuotes : QuoteTables where
  quotes := [
    { id := 1, organizationId := 1, accountId := 7, callId := 1, quoteText := [],
      sourceChunkId := 1, createdAt := 5 },
    { id := 2, organizationId := 1, accountId := 7, callId := 1, quoteText := [],
      sourceChunkId := 1, createdAt := 4 }]
  stars := [{ userId := 1, quoteId := 2 }]
  distinct := by decide

/-- A user who sees account 8 only gets the quotes of account 7 by asking for it.  A user who sees
all gets an empty first page of the starred quote, which is on the second. -/
theorem twoQuotes_misfiltered :
    (∀ containsInsensitive, twoQuotes.listQuotes containsInsensitive
        { organizationId := 1, userId := 1, accessibleAccountIds := some [8],
          accountId := some 7 } ≠
      twoQuotes.wantedRows containsInsensitive
        { organizationId := 1, userId := 1, accessibleAccountIds := some [8],
          accountId := some 7 }) ∧
    ∀ containsInsensitive, twoQuotes.listQuotes containsInsensitive
        { organizationId := 1, userId := 1, starredOnly := true, limit := some 1 } ≠
      twoQuotes.wantedRows containsInsensitive
        { organizationId := 1, userId := 1, starredOnly := true, limit := some 1 } := by
  refine ⟨fun _ same => ?_, fun _ same => ?_⟩
  · have widths : 2 = 0 := congrArg List.length same
    cases widths
  · have widths : 0 = 1 := congrArg List.length same
    cases widths

end StoryEngine.Quotes
