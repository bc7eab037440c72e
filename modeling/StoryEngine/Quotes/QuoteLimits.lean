import StoryEngine.Quotes.AutoExtract

namespace StoryEngine.Quotes

open Data Schema

/-! # Limits of automatic quotes

A run counts what its organization may still create in the day and leaves out the texts that its
call has.  It does not count the quotes of the call, so that a call gets more than its maximum as
soon as later transcripts bring new texts.
-/

def createdOn (quotes : List LibraryQuote) (organizationId : RowId) (day : Nat) :
    List LibraryQuote :=
  quotes.filter fun quote =>
    quote.organizationId == organizationId && quote.createdByType == .system &&
      quote.createdAt / dayLength == day

section

variable (config : QuoteConfig) (state : AutoQuotes)

structure WithinLimits : Prop where
  perCall : ∀ organizationId callId,
    (systemQuotes state.quotes organizationId callId).length ≤ config.perCall
  distinct : ∀ organizationId callId,
    ((systemQuotes state.quotes organizationId callId).map fun quote =>
      normalizeQuoteText config.cases quote.quoteText).Nodup
  daily : ∀ organizationId day,
    (createdOn state.quotes organizationId day).length ≤ config.dailyCap organizationId

/-- The quotes of the call and those that the run may add are within the maximum. -/
def Fits : QuoteAction → Prop
  | .extracts input waits =>
    (systemQuotes state.quotes input.organizationId input.callId).length +
      allowance config state input waits ≤ config.perCall
  | .passes _ | .replaces _ => True

instance : DecidablePred (Fits config state)
  | .extracts _ _ => inferInstanceAs (Decidable (_ ≤ _))
  | .passes _ | .replaces _ => isTrue trivial

structure Orderly : Prop where
  past : ∀ quote ∈ state.quotes, quote.createdAt ≤ state.now
  distinct : ∀ organizationId callId,
    ((systemQuotes state.quotes organizationId callId).map fun quote =>
      normalizeQuoteText config.cases quote.quoteText).Nodup
  daily : ∀ organizationId day,
    (createdOn state.quotes organizationId day).length ≤ config.dailyCap organizationId

end

section

variable {config : QuoteConfig} {state : AutoQuotes} {input : AutoExtractInput}
  {waits : List Nat} {created : List LibraryQuote} {later : Date}

theorem Extracts.systemQuotes_own (extracts : Extracts config state input waits created later) :
    systemQuotes (state.quotes ++ created) input.organizationId input.callId =
      systemQuotes state.quotes input.organizationId input.callId ++ created := by
  rw [systemQuotes, List.filter_append, systemQuotes]
  congr 1
  apply List.filter_eq_self.mpr
  intro quote member
  obtain ⟨organization, call, system⟩ := extracts.own quote member
  simp [organization, call, system]

theorem Extracts.systemQuotes_other (extracts : Extracts config state input waits created later)
    {organizationId callId : RowId}
    (other : ¬(organizationId = input.organizationId ∧ callId = input.callId)) :
    systemQuotes (state.quotes ++ created) organizationId callId =
      systemQuotes state.quotes organizationId callId := by
  have none : systemQuotes created organizationId callId = [] := by
    apply List.filter_eq_nil_iff.mpr
    intro quote member accepted
    obtain ⟨organization, call, _⟩ := extracts.own quote member
    simp only [Bool.and_eq_true, beq_iff_eq] at accepted
    exact other ⟨accepted.1.1.symm.trans organization, accepted.1.2.symm.trans call⟩
  rw [systemQuotes, List.filter_append, ← systemQuotes, ← systemQuotes, none, List.append_nil]

theorem Extracts.distinct (extracts : Extracts config state input waits created later)
    (orderly : Orderly config state) (organizationId callId : RowId) :
    ((systemQuotes (state.quotes ++ created) organizationId callId).map fun quote =>
      normalizeQuoteText config.cases quote.quoteText).Nodup := by
  by_cases own : organizationId = input.organizationId ∧ callId = input.callId
  · obtain ⟨rfl, rfl⟩ := own
    rw [extracts.systemQuotes_own, List.map_append]
    refine (orderly.distinct _ _).append extracts.once fun text seen isNew => ?_
    obtain ⟨quote, member, rfl⟩ := List.mem_map.mp isNew
    exact extracts.unseen quote member seen
  · rw [extracts.systemQuotes_other own]
    exact orderly.distinct organizationId callId

theorem createdOn_append (organizationId : RowId) (day : Nat) :
    (createdOn (state.quotes ++ created) organizationId day).length =
      (createdOn state.quotes organizationId day).length +
        (createdOn created organizationId day).length := by
  rw [createdOn, List.filter_append, List.length_append, ← createdOn, ← createdOn]

theorem createdSince_eq (past : ∀ quote ∈ state.quotes, quote.createdAt ≤ state.now)
    (organizationId : RowId) :
    createdSince state.quotes organizationId (startOfDay state.now) =
      createdOn state.quotes organizationId (state.now / dayLength) := by
  apply List.filter_congr
  intro quote member
  have notAfter : quote.createdAt / dayLength ≤ state.now / dayLength :=
    Nat.div_le_div_right (past quote member)
  have since : startOfDay state.now ≤ quote.createdAt ↔
      quote.createdAt / dayLength = state.now / dayLength := by
    rw [startOfDay, ← Nat.le_div_iff_mul_le (by decide)]
    exact ⟨fun notBefore => Nat.le_antisymm notAfter notBefore, fun same => same.ge⟩
  rw [decide_eq_decide.mpr since]
  rfl

theorem createdOn_eq_nil {quotes : List LibraryQuote} {organizationId : RowId} {day : Nat}
    (elsewhere : ∀ quote ∈ quotes, quote.organizationId = organizationId →
      quote.createdAt / dayLength ≠ day) :
    createdOn quotes organizationId day = [] := by
  apply List.filter_eq_nil_iff.mpr
  intro quote member accepted
  simp only [Bool.and_eq_true, beq_iff_eq] at accepted
  exact elsewhere quote member accepted.1.1 accepted.2

theorem Extracts.daily (extracts : Extracts config state input waits created later)
    (orderly : Orderly config state) (organizationId : RowId) (day : Nat) :
    (createdOn (state.quotes ++ created) organizationId day).length ≤
      config.dailyCap organizationId := by
  rw [createdOn_append]
  by_cases own : organizationId = input.organizationId
  · subst own
    have few : (createdOn created input.organizationId day).length ≤ created.length :=
      List.length_filter_le _ _
    have bounds := extracts.count
    have cap := le_dailyCap config input.organizationId
    have most := perCall_le config
    rcases Nat.lt_trichotomy day (state.now / dayLength) with before | rfl | after
    · have nothing : createdOn created input.organizationId day = [] := by
        apply createdOn_eq_nil
        rintro quote member - rfl
        have started : state.now / dayLength ≤ quote.createdAt / dayLength :=
          Nat.div_le_div_right (extracts.dated quote member).1
        exact Nat.not_le.mpr before started
      rw [nothing]
      exact orderly.daily input.organizationId day
    · -- What the run leaves of the day is what it has counted.
      have counted := congrArg List.length (createdSince_eq orderly.past input.organizationId)
      have within := orderly.daily input.organizationId (state.now / dayLength)
      simp only [allowance, remainingDaily] at bounds
      omega
    · -- On a day that has begun during the run there is nothing but what the run creates.
      have nothing : createdOn state.quotes input.organizationId day = [] := by
        apply createdOn_eq_nil
        rintro quote member - rfl
        have ended : quote.createdAt / dayLength ≤ state.now / dayLength :=
          Nat.div_le_div_right (orderly.past quote member)
        exact Nat.not_le.mpr after ended
      rw [nothing, List.length_nil]
      simp only [allowance] at bounds
      omega
  · have nothing : createdOn created organizationId day = [] := by
      apply createdOn_eq_nil
      intro quote member organization _
      exact own (organization.symm.trans (extracts.own quote member).1)
    rw [nothing]
    exact orderly.daily organizationId day

theorem Extracts.past (extracts : Extracts config state input waits created later)
    (orderly : Orderly config state) :
    ∀ quote ∈ state.quotes ++ created, quote.createdAt ≤ later := by
  intro quote member
  rcases List.mem_append.mp member with old | isNew
  · exact Nat.le_trans (orderly.past quote old) extracts.passes
  · exact (extracts.dated quote isNew).2

theorem quoteStep_orderly {action : QuoteAction} (orderly : Orderly config state) :
    Orderly config (quoteStep config state action) := by
  cases action with
  | passes wait =>
    exact ⟨fun quote member => Nat.le_trans (orderly.past quote member) (Nat.le_add_right _ _),
      orderly.distinct, orderly.daily⟩
  | replaces calls => exact ⟨orderly.past, orderly.distinct, orderly.daily⟩
  | extracts input waits =>
    obtain ⟨created, quotes, extracts⟩ := autoExtractForCall_extracts config state input waits
    constructor
    · simp only [quoteStep, quotes]
      exact extracts.past orderly
    · simp only [quoteStep, quotes]
      exact extracts.distinct orderly
    · simp only [quoteStep, quotes]
      exact extracts.daily orderly

theorem quoteStep_within_iff {action : QuoteAction} (orderly : Orderly config state)
    (within : WithinLimits config state) :
    WithinLimits config (quoteStep config state action) ↔ Fits config state action := by
  have kept : Orderly config (quoteStep config state action) := quoteStep_orderly orderly
  have perCall : WithinLimits config (quoteStep config state action) ↔
      ∀ organizationId callId,
        (systemQuotes (quoteStep config state action).quotes organizationId callId).length ≤
          config.perCall :=
    ⟨fun limits => limits.perCall, fun few => ⟨few, kept.distinct, kept.daily⟩⟩
  rw [perCall]
  cases action with
  | passes wait => exact iff_of_true within.perCall trivial
  | replaces calls => exact iff_of_true within.perCall trivial
  | extracts input waits =>
    obtain ⟨created, quotes, extracts⟩ := autoExtractForCall_extracts config state input waits
    simp only [quoteStep, quotes, Fits, ← extracts.count]
    constructor
    · intro few
      have ownCall := few input.organizationId input.callId
      rw [extracts.systemQuotes_own, List.length_append] at ownCall
      exact ownCall
    · intro fits organizationId callId
      by_cases own : organizationId = input.organizationId ∧ callId = input.callId
      · obtain ⟨rfl, rfl⟩ := own
        rw [extracts.systemQuotes_own, List.length_append]
        exact fits
      · rw [extracts.systemQuotes_other own]
        exact within.perCall organizationId callId

theorem run_orderly (actions : List QuoteAction) (orderly : Orderly config state) :
    Orderly config (run (quoteStep config) state actions) :=
  run_invariant (Orderly config) (fun _ _ kept => quoteStep_orderly kept) actions orderly

/-- From quotes within the limits, all limits hold after each run if, and only if, no run adds
quotes to a call beyond its maximum. -/
theorem quotes_within_limits_iff {actions : List QuoteAction}
    (past : ∀ quote ∈ state.quotes, quote.createdAt ≤ state.now)
    (before : WithinLimits config state) :
    Guarded (quoteStep config) (Fits config) state actions ↔
      ∀ taken ∈ trace (quoteStep config) state actions,
        WithinLimits config (quoteStep config taken.1 taken.2) :=
  guarded_iff_trace (Orderly config) (WithinLimits config)
    (fun _ _ orderly => quoteStep_orderly orderly)
    (fun _ _ orderly within => quoteStep_within_iff orderly within)
    ⟨past, before.distinct, before.daily⟩ before

end

def tenMarks : List Char := ['0', '1', '2', '3', '4', '5', '6', '7', '8', '9']

def markedText (mark : Char) : Text := mark :: List.replicate 75 's'

def markedChunks (marks : List Char) : List QuoteChunk :=
  marks.zipIdx.map fun (mark, index) =>
    { id := index, callId := 3, chunkIndex := index, text := markedText mark }

def reviewCall (marks : List Char) : RecordedCall where
  id := 3
  organizationId := 1
  accountId := some 2
  duration := some 1800
  transcript := some (markedChunks marks)

def plainConfig : QuoteConfig where
  cases := .ascii
  policy := fun _ => .null

def reviewRun : QuoteAction :=
  .extracts { organizationId := 1, callId := 3, accountId := some 2 } (List.replicate 20 1)

theorem ten_quotes_fit :
    WithinLimits plainConfig
      (quoteStep plainConfig { calls := [reviewCall tenMarks] } reviewRun) := by
  have before : WithinLimits plainConfig { calls := [reviewCall tenMarks] } :=
    ⟨fun _ _ => Nat.zero_le _, fun _ _ => List.nodup_nil, fun _ _ => Nat.zero_le _⟩
  have fits : Guarded (quoteStep plainConfig) (Fits plainConfig)
      { calls := [reviewCall tenMarks] } [reviewRun] := by
    decide +kernel
  exact (quotes_within_limits_iff (fun _ member => absurd member List.not_mem_nil) before).mp fits
    _ List.mem_cons_self

theorem second_transcript_exceeds :
    ¬WithinLimits plainConfig
      (run (quoteStep plainConfig) { calls := [reviewCall tenMarks] }
        [reviewRun, .replaces [reviewCall ['a']], reviewRun]) := by
  intro within
  exact absurd (within.perCall 1 3) (by decide +kernel)

end StoryEngine.Quotes
