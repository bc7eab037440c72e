import StoryEngine.Data.Calendar
import StoryEngine.Governance.Policy
import StoryEngine.Quotes.Candidates

namespace StoryEngine.Quotes

open Data Governance Processing Schema Text

/-! # Automatic quotes

When a transcript has been processed, the best candidates of its chunks become quotes of the
library.
-/

inductive QuoteTier where
  | auto
  | curated
deriving DecidableEq

inductive QuoteCreatedByType where
  | system
  | user
deriving DecidableEq

structure LibraryQuote extends Quote where
  quoteText : Text
  sourceChunkId : RowId
  tier : QuoteTier := .auto
  createdByType : QuoteCreatedByType := .system
  confidenceScore : ℚ := 3 / 5
  createdAt : Date

structure RecordedCall extends Call where
  transcript : Option (List QuoteChunk) := none

structure AutoQuotes where
  now : Date := 0
  calls : List RecordedCall := []
  quotes : List LibraryQuote := []
  nextQuoteId : RowId := 1

structure AutoExtractInput where
  organizationId : RowId
  callId : RowId
  accountId : Option RowId

/-- What the runs have in common; `policy` is the stored governance policy of an organization. -/
structure QuoteConfig where
  cases : CaseMapping
  maxPerCall : Option Int := none
  policy : RowId → Json

def QuoteConfig.perCall (config : QuoteConfig) : Nat :=
  (max 1 (min 10 (config.maxPerCall.getD 10))).toNat

def QuoteConfig.dailyCap (config : QuoteConfig) (organizationId : RowId) : Nat :=
  match property (decodeDataGovernancePolicy (config.policy organizationId)).others
      "quote_auto_daily_cap" with
  | some (.number raw) => (max 10 raw.floor).toNat
  | _ => 1000

def eligibleTitles : List Text := ["discovery", "demo", "qbr", "implementation", "review"]

def isEligibleCall (cases : CaseMapping) (call : RecordedCall) : Bool :=
  decide (8 * 60 ≤ call.duration.getD 0) &&
    match call.title with
    | none | some [] => true
    | some title => eligibleTitles.any fun token => decide (token <:+: cases.toLowerCase title)

def systemQuotes (quotes : List LibraryQuote) (organizationId callId : RowId) :
    List LibraryQuote :=
  quotes.filter fun quote =>
    quote.organizationId == organizationId && quote.callId == callId &&
      quote.createdByType == .system

def createdSince (quotes : List LibraryQuote) (organizationId : RowId) (moment : Date) :
    List LibraryQuote :=
  quotes.filter fun quote =>
    quote.organizationId == organizationId && quote.createdByType == .system &&
      decide (moment ≤ quote.createdAt)

/-- A quote for each candidate, as long as the database goes on: each creation takes some time,
and none follows the last of these. -/
def newQuotes (organizationId accountId callId : RowId) :
    (now : Date) → (id : RowId) → List QuoteCandidate → (waits : List Nat) → List LibraryQuote
  | now, id, candidate :: rest, wait :: waits =>
    { id, organizationId, accountId, callId
      quoteText := candidate.text
      sourceChunkId := candidate.chunkId
      confidenceScore := candidate.confidence
      createdAt := now + wait } ::
      newQuotes organizationId accountId callId (now + wait) (id + 1) rest waits
  | _, _, _, _ => []

section

variable (config : QuoteConfig) (state : AutoQuotes) (input : AutoExtractInput)

def quotableChunks : Option (List QuoteChunk) := do
  let accountId ← input.accountId
  let call ← state.calls.find? fun call =>
    call.id == input.callId && call.organizationId == input.organizationId &&
      call.accountId == some accountId
  let chunks ← call.transcript
  if isEligibleCall config.cases call then
    some (chunks.insertionSort fun first second => first.chunkIndex ≤ second.chunkIndex)
  else none

def seenTexts : List Text :=
  (systemQuotes state.quotes input.organizationId input.callId).map fun quote =>
    normalizeQuoteText config.cases quote.quoteText

def remainingDaily : Nat :=
  config.dailyCap input.organizationId -
    (createdSince state.quotes input.organizationId (startOfDay state.now)).length

def selectedCandidates (chunks : List QuoteChunk) : List QuoteCandidate :=
  let table := candidateTable config.cases (seenTexts config state input) chunks
  (rankCandidates (table.map (·.2))).take (min config.perCall (remainingDaily config state input))

def autoExtractForCall (waits : List Nat) : AutoQuotes :=
  match input.accountId, quotableChunks config state input with
  | some accountId, some chunks =>
    let selected := selectedCandidates config state input chunks
    let created := newQuotes input.organizationId accountId input.callId state.now
      state.nextQuoteId selected waits
    { state with
      now := state.now + (waits.take selected.length).sum
      quotes := state.quotes ++ created
      nextQuoteId := state.nextQuoteId + created.length }
  | _, _ => state

end

inductive QuoteAction where
  | passes (wait : Nat)
  /-- The calls, their transcripts and their tags are others from then on. -/
  | replaces (calls : List RecordedCall)
  | extracts (input : AutoExtractInput) (waits : List Nat)

def quoteStep (config : QuoteConfig) (state : AutoQuotes) : QuoteAction → AutoQuotes
  | .passes wait => { state with now := state.now + wait }
  | .replaces calls => { state with calls }
  | .extracts input waits => autoExtractForCall config state input waits

theorem perCall_le (config : QuoteConfig) : config.perCall ≤ 10 := by
  simp only [QuoteConfig.perCall]
  omega

theorem le_dailyCap (config : QuoteConfig) (organizationId : RowId) :
    10 ≤ config.dailyCap organizationId := by
  simp only [QuoteConfig.dailyCap]
  split
  · omega
  · decide

section

variable {organizationId accountId callId : RowId} {now : Date} {id : RowId}
  {candidates : List QuoteCandidate} {waits : List Nat}

theorem newQuotes_texts :
    (newQuotes organizationId accountId callId now id candidates waits).map (·.quoteText) =
      (candidates.map (·.text)).take waits.length := by
  induction candidates generalizing now id waits with
  | nil => cases waits <;> rfl
  | cons candidate rest ih =>
    cases waits with
    | nil => rfl
    | cons wait waits => simp [newQuotes, ih]

theorem newQuotes_own {quote : LibraryQuote}
    (created : quote ∈ newQuotes organizationId accountId callId now id candidates waits) :
    quote.organizationId = organizationId ∧ quote.callId = callId ∧
      quote.createdByType = .system := by
  induction candidates generalizing now id waits with
  | nil => cases waits <;> cases created
  | cons candidate rest ih =>
    cases waits with
    | nil => cases created
    | cons wait waits =>
      rcases List.mem_cons.mp created with rfl | later
      · exact ⟨rfl, rfl, rfl⟩
      · exact ih later

theorem newQuotes_dated {quote : LibraryQuote}
    (created : quote ∈ newQuotes organizationId accountId callId now id candidates waits) :
    now ≤ quote.createdAt ∧ quote.createdAt ≤ now + (waits.take candidates.length).sum := by
  induction candidates generalizing now id waits with
  | nil => cases waits <;> cases created
  | cons candidate rest ih =>
    cases waits with
    | nil => cases created
    | cons wait waits =>
      rw [List.length_cons, List.take_succ_cons, List.sum_cons, ← Nat.add_assoc]
      rcases List.mem_cons.mp created with rfl | later
      · exact ⟨Nat.le_add_right now wait, Nat.le_add_right (now + wait) _⟩
      · obtain ⟨after, before⟩ := ih later
        exact ⟨Nat.le_trans (Nat.le_add_right now wait) after, before⟩

end

section

variable (config : QuoteConfig) (state : AutoQuotes) (input : AutoExtractInput)

def callTexts : List Text :=
  match quotableChunks config state input with
  | none => []
  | some chunks => newTexts config.cases (seenTexts config state input) chunks

def allowance (waits : List Nat) : Nat :=
  min (callTexts config state input).length
    (min (min config.perCall (remainingDaily config state input)) waits.length)

structure Extracts (waits : List Nat) (created : List LibraryQuote) (later : Date) : Prop where
  count : created.length = allowance config state input waits
  own : ∀ quote ∈ created, quote.organizationId = input.organizationId ∧
    quote.callId = input.callId ∧ quote.createdByType = .system
  dated : ∀ quote ∈ created, state.now ≤ quote.createdAt ∧ quote.createdAt ≤ later
  passes : state.now ≤ later
  once : (created.map fun quote => normalizeQuoteText config.cases quote.quoteText).Nodup
  unseen : ∀ quote ∈ created,
    normalizeQuoteText config.cases quote.quoteText ∉ seenTexts config state input

theorem quotableChunks_none (absent : input.accountId = none) :
    quotableChunks config state input = none := by
  simp only [quotableChunks, absent]
  rfl

theorem selectedCandidates_spec (chunks : List QuoteChunk) :
    let selected := selectedCandidates config state input chunks
    selected.length = min (newTexts config.cases (seenTexts config state input) chunks).length
        (min config.perCall (remainingDaily config state input)) ∧
      (selected.map fun candidate => normalizeQuoteText config.cases candidate.text).Nodup ∧
      ∀ candidate ∈ selected,
        normalizeQuoteText config.cases candidate.text ∉ seenTexts config state input := by
  have has := @candidateTable_hasNewTexts config.cases (seenTexts config state input) chunks
  obtain ⟨once, unseen⟩ := has.ranked
  refine ⟨?_, ?_, fun candidate member => unseen candidate (List.mem_of_mem_take member)⟩
  · rw [← has.length_eq, selectedCandidates, List.length_take, rankCandidates,
      List.length_insertionSort, List.length_map, Nat.min_comm]
  · exact once.sublist ((List.take_sublist _ _).map _)

theorem autoExtractForCall_extracts (waits : List Nat) :
    ∃ created,
      (autoExtractForCall config state input waits).quotes = state.quotes ++ created ∧
        Extracts config state input waits created
          (autoExtractForCall config state input waits).now := by
  have nothing (idle : quotableChunks config state input = none) :
      Extracts config state input waits [] state.now :=
    ⟨by simp [allowance, callTexts, idle], nofun, nofun, Nat.le_refl _, List.nodup_nil, nofun⟩
  cases account : input.accountId with
  | none =>
    have idle := quotableChunks_none config state input account
    simp only [autoExtractForCall, account]
    exact ⟨[], (List.append_nil _).symm, nothing idle⟩
  | some accountId =>
    cases quotable : quotableChunks config state input with
    | none =>
      simp only [autoExtractForCall, account, quotable]
      exact ⟨[], (List.append_nil _).symm, nothing quotable⟩
    | some chunks =>
      obtain ⟨count, once, unseen⟩ := selectedCandidates_spec config state input chunks
      simp only [autoExtractForCall, account, quotable]
      refine ⟨_, rfl, ?_, fun quote => newQuotes_own, fun quote => newQuotes_dated,
        Nat.le_add_right _ _, ?_, ?_⟩
      · have texts := congrArg List.length (@newQuotes_texts input.organizationId accountId
          input.callId state.now state.nextQuoteId
          (selectedCandidates config state input chunks) waits)
        rw [List.length_map, List.length_take, List.length_map, count] at texts
        rw [texts, allowance, callTexts, quotable, Nat.min_comm, Nat.min_assoc]
      · rw [← Function.comp_def, ← List.map_map, newQuotes_texts, ← List.map_take,
          List.map_map]
        exact once.sublist ((List.take_sublist _ _).map _)
      · intro quote created
        have member : quote.quoteText ∈
            ((selectedCandidates config state input chunks).map (·.text)).take waits.length :=
          newQuotes_texts ▸ List.mem_map_of_mem created
        obtain ⟨candidate, selected, same⟩ := List.mem_map.mp (List.mem_of_mem_take member)
        rw [← same]
        exact unseen candidate selected

end

end StoryEngine.Quotes
