import StoryEngine.Stories.WeeklyRegeneration

namespace StoryEngine.Stories

open Data Schema

/-! # Calls that a regeneration reads

A run compares the dates of the calls with the date of the latest journey.  What a journey has read
are the transcripts that were stored at its merge, which is another date and another row, so a run
misses a call exactly when no newer one makes it build the journey again.
-/

section

variable (organizationId accountId : RowId)

def OfAccount (db : Database) (transcript : Transcript) : Prop :=
  ∃ call ∈ accountCalls db organizationId accountId, call.id = transcript.callId

instance (db : Database) : DecidablePred (OfAccount organizationId accountId db) :=
  fun _ => inferInstanceAs (Decidable (∃ call ∈ accountCalls _ _ _, _))

/-- The calls whose transcripts were stored when the run started were read for a stored journey. -/
def AllRead (state : Regeneration) : Prop :=
  ∀ transcript ∈ state.db.transcripts.take state.started,
    OfAccount organizationId accountId state.db transcript →
      ∃ generation ∈ state.generations, transcript.callId ∈ generation.entries.map (·.callId)

def LosesNone (state : Regeneration) : Prop :=
  state.stage = .finished → AllRead organizationId accountId state

instance : DecidablePred (LosesNone organizationId accountId) :=
  fun state => inferInstanceAs (Decidable (state.stage = .finished →
    ∀ transcript ∈ state.db.transcripts.take state.started, _ →
      ∃ generation ∈ state.generations, _))

def lastMerge (state : Regeneration) : Nat :=
  (state.generations.getLast?.map (·.transcripts)).getD 0

/-- A transcript of the account was stored between that merge and the start of the run. -/
def StoredSinceMerge (state : Regeneration) : Prop :=
  ∃ transcript ∈ (state.db.transcripts.take state.started).drop (lastMerge state),
    OfAccount organizationId accountId state.db transcript

/-- A count of new calls that has such a transcript to find finds a call. -/
def CountsSinceMerge (state : Regeneration) : RegenStage → Prop
  | .countingCalls _ latestStory =>
    StoredSinceMerge organizationId accountId state →
      countNewCalls state.db organizationId accountId latestStory ≠ 0
  | _ => True

def FindsSinceMerge (state : Regeneration) : RegenEvent → Prop
  | .runs (some _) => CountsSinceMerge organizationId accountId state state.stage
  | _ => True

instance : DecidablePred (StoredSinceMerge organizationId accountId) :=
  fun state => inferInstanceAs (Decidable (∃ transcript ∈
    (state.db.transcripts.take state.started).drop (lastMerge state), _))

instance (state : Regeneration) (stage : RegenStage) :
    Decidable (CountsSinceMerge organizationId accountId state stage) :=
  match stage with
  | .countingCalls _ _ => inferInstanceAs (Decidable (_ → _ ≠ _))
  | .idle | .findingAccounts | .findingLatest _ | .merging _ | .narrating _ _
  | .extractingQuotes _ _ _ | .savingStory _ _ _ | .savingQuotes _ | .findingStory _
  | .logging _ _ | .finished | .failed => isTrue trivial

instance (state : Regeneration) : DecidablePred (FindsSinceMerge organizationId accountId state)
  | .runs (some _) => inferInstanceAs (Decidable (CountsSinceMerge _ _ _ _))
  | .runs none | .passes _ | .callArrives _ | .transcriptArrives _ | .starts => isTrue trivial

/-- The calls that a merge has read are those of the account with a transcript. -/
def Reads (db : Database) (generation : Generation) : Prop :=
  generation.transcripts ≤ db.transcripts.length ∧
    ∀ callId, callId ∈ generation.entries.map (·.callId) ↔
      ∃ transcript ∈ db.transcripts.take generation.transcripts,
        transcript.callId = callId ∧ OfAccount organizationId accountId db transcript

/-- Ids are given out in order, a call has one transcript, and the account is there. -/
structure Stored (db : Database) : Prop where
  callIds : ∀ call ∈ db.calls, call.id < db.nextId
  transcriptIds : ∀ transcript ∈ db.transcripts, transcript.callId < db.nextId
  distinct : (db.transcripts.map (·.callId)).Nodup
  account : ∃ account ∈ db.accounts,
    account.id = accountId ∧ account.organizationId = organizationId

def Recorded (state : Regeneration) : Prop :=
  ∀ generation ∈ state.generations, Reads organizationId accountId state.db generation ∧
    generation.transcripts ≤ lastMerge state

/-- No run has started, and what earlier ones have read is recorded. -/
structure Start (state : Regeneration) : Prop where
  stored : Stored organizationId accountId state.db
  recorded : Recorded organizationId accountId state
  idle : state.stage = .idle
  started : state.started = 0

def StageReads (state : Regeneration) : RegenStage → Prop
  | .narrating _ generation | .extractingQuotes _ generation _
  | .savingStory _ generation _ =>
    Reads organizationId accountId state.db generation ∧
      state.started ≤ generation.transcripts ∧ lastMerge state ≤ generation.transcripts
  | .savingQuotes _ | .findingStory _ | .logging _ _ => AllRead organizationId accountId state
  | _ => True

structure Sound (state : Regeneration) : Prop where
  stored : Stored organizationId accountId state.db
  recorded : Recorded organizationId accountId state
  started : state.started ≤ state.db.transcripts.length
  stage : StageReads organizationId accountId state state.stage

end

section

variable {organizationId accountId : RowId} {db : Database} {state : Regeneration}

theorem mem_accountCalls {call : Call} : call ∈ accountCalls db organizationId accountId ↔
    call ∈ db.calls ∧ call.accountId = some accountId ∧
      call.organizationId = organizationId := by
  simp [accountCalls]

theorem lastMerge_eq {earlier : List Generation} {generation : Generation}
    (last : state.generations = earlier ++ [generation]) :
    lastMerge state = generation.transcripts := by
  simp [lastMerge, last]

theorem transcriptEntry_callId {call : Call} {entry : CallTranscriptEntry}
    (isEntry : transcriptEntry db call = some entry) :
    entry.callId = call.id ∧ ∃ transcript ∈ db.transcripts, transcript.callId = call.id := by
  simp only [transcriptEntry, Option.map_eq_some_iff] at isEntry
  obtain ⟨transcript, found, rfl⟩ := isEntry
  have itsCall := List.find?_some found
  constructor
  · rfl
  · exact ⟨transcript, List.mem_of_find?_eq_some found, by simpa using itsCall⟩

theorem mem_transcriptEntries (callId : RowId) :
    callId ∈ (transcriptEntries db (regenerationMerge organizationId accountId)).map (·.callId) ↔
      ∃ transcript ∈ db.transcripts, transcript.callId = callId ∧
        OfAccount organizationId accountId db transcript := by
  have sorted (call : Call) : call ∈ (accountCalls db organizationId accountId).insertionSort
      (fun first second => first.occurredAt ≤ second.occurredAt) ↔
        call ∈ accountCalls db organizationId accountId :=
    (List.perm_insertionSort _ _).mem_iff
  have entries : transcriptEntries db (regenerationMerge organizationId accountId) =
      ((accountCalls db organizationId accountId).insertionSort
        fun first second => first.occurredAt ≤ second.occurredAt).filterMap
          (transcriptEntry db) := by
    simp [transcriptEntries, regenerationMerge, accountCalls]
  rw [entries]
  constructor
  · intro member
    obtain ⟨entry, inEntries, rfl⟩ := List.mem_map.mp member
    obtain ⟨call, inCalls, isEntry⟩ := List.mem_filterMap.mp inEntries
    obtain ⟨same, transcript, inTranscripts, itsCall⟩ := transcriptEntry_callId isEntry
    exact ⟨transcript, inTranscripts, itsCall.trans same.symm, call, (sorted call).mp inCalls,
      itsCall.symm⟩
  · intro stored
    obtain ⟨transcript, inTranscripts, rfl, call, inCalls, itsCall⟩ := stored
    have found : (db.transcripts.find? (·.callId == call.id)).isSome = true := by
      rw [List.find?_isSome]
      exact ⟨transcript, inTranscripts, beq_iff_eq.mpr itsCall.symm⟩
    obtain ⟨first, isFirst⟩ := Option.isSome_iff_exists.mp found
    apply List.mem_map.mpr
    exact ⟨_, List.mem_filterMap.mpr ⟨call, (sorted call).mpr inCalls, by
      simp only [transcriptEntry, isFirst, Option.map_some]
      rfl⟩, itsCall⟩

theorem dropFirst_ne_nil {maxWords totalWords : Int} {boundary : Option Date}
    {entries : List CallTranscriptEntry} (present : entries ≠ []) :
    (dropFirst maxWords totalWords boundary entries).1 ≠ [] := by
  fun_induction dropFirst maxWords totalWords boundary entries with
  | case1 totalWords boundary first second rest more ih => exact ih (List.cons_ne_nil _ _)
  | case2 totalWords boundary first second rest enough => exact present
  | case3 totalWords boundary entries short => exact present

theorem included_eq_zero {options : MergedTranscriptOptions}
    (none : (mergeTranscripts db options).includedCalls = 0) : transcriptEntries db options = [] := by
  by_contra present
  have remains (maxWords : Int) (mode : TruncationMode) :
      (applyTruncation (transcriptEntries db options) maxWords mode).included ≠ [] := by
    simp only [applyTruncation]
    split
    · exact present
    · cases mode with
      | oldestFirst => exact dropFirst_ne_nil present
      | newestFirst =>
        simp only [ne_eq, List.reverse_eq_nil_iff]
        exact dropFirst_ne_nil (by simpa using present)
  have some : (transcriptEntries db options).length ≠ 0 := by simpa using present
  simp only [mergeTranscripts, mergedEntries, if_neg some] at none
  exact remains _ _ (List.eq_nil_of_length_eq_zero none)

theorem reads_now (transcripts : Nat) (now : transcripts = db.transcripts.length) :
    Reads organizationId accountId db {
      entries := transcriptEntries db (regenerationMerge organizationId accountId), transcripts } := by
  constructor
  · exact Nat.le_of_eq now
  · intro callId
    rw [now, List.take_length]
    exact mem_transcriptEntries callId

theorem allRead_iff (distinct : (state.db.transcripts.map (·.callId)).Nodup)
    (recorded : Recorded organizationId accountId state) :
    AllRead organizationId accountId state ↔ ¬StoredSinceMerge organizationId accountId state := by
  constructor
  · intro all since
    obtain ⟨transcript, member, ofAccount⟩ := since
    obtain ⟨generation, inGenerations, read⟩ := all transcript (List.mem_of_mem_drop member)
      ofAccount
    obtain ⟨⟨_, reads⟩, before⟩ := recorded generation inGenerations
    obtain ⟨other, inOther, same, _⟩ := (reads transcript.callId).mp read
    rw [List.drop_take] at member
    have after : transcript ∈ state.db.transcripts.drop (lastMerge state) :=
      List.mem_of_mem_take member
    have earlier : other ∈ state.db.transcripts.take (lastMerge state) :=
      List.take_subset_take_left _ before inOther
    rw [← List.take_append_drop (lastMerge state) state.db.transcripts, List.map_append,
      List.nodup_append] at distinct
    exact distinct.2.2 other.callId (List.mem_map_of_mem earlier) transcript.callId
      (List.mem_map_of_mem after) same
  · intro since transcript member ofAccount
    rw [← List.take_append_drop (lastMerge state) (state.db.transcripts.take state.started)]
      at member
    cases List.mem_append.mp member with
    | inr later => exact absurd ⟨transcript, later, ofAccount⟩ since
    | inl earlier =>
      rw [List.take_take] at earlier
      cases last : state.generations.getLast? with
      | none =>
        have zero : lastMerge state = 0 := by simp [lastMerge, last]
        rw [zero, Nat.zero_min] at earlier
        cases earlier
      | some generation =>
        have merged : lastMerge state = generation.transcripts := by simp [lastMerge, last]
        have inGenerations := List.mem_of_getLast? last
        have within : transcript ∈ state.db.transcripts.take generation.transcripts :=
          List.take_subset_take_left _ (merged ▸ Nat.min_le_left _ _) earlier
        exact ⟨generation, inGenerations,
          ((recorded generation inGenerations).1.2 transcript.callId).mpr
            ⟨transcript, within, rfl, ofAccount⟩⟩

end

/-- Rows are only added, and what is added concerns no call that has a transcript. -/
structure Grows (organizationId accountId : RowId) (before after : Database) : Prop where
  transcripts : ∃ more, after.transcripts = before.transcripts ++ more
  calls : ∀ transcript ∈ before.transcripts,
    OfAccount organizationId accountId after transcript ↔
      OfAccount organizationId accountId before transcript

section

variable {organizationId accountId : RowId} {before after : Database} {state : Regeneration}

theorem Grows.refl (db : Database) : Grows organizationId accountId db db where
  transcripts := ⟨[], (List.append_nil _).symm⟩
  calls := fun _ _ => Iff.rfl

theorem Grows.take (grows : Grows organizationId accountId before after) {count : Nat}
    (within : count ≤ before.transcripts.length) :
    after.transcripts.take count = before.transcripts.take count := by
  obtain ⟨more, appended⟩ := grows.transcripts
  rw [appended, List.take_append_of_le_length within]

theorem Grows.length_le (grows : Grows organizationId accountId before after) :
    before.transcripts.length ≤ after.transcripts.length := by
  obtain ⟨more, appended⟩ := grows.transcripts
  rw [appended, List.length_append]
  exact Nat.le_add_right _ _

theorem Reads.grows {generation : Generation}
    (reads : Reads organizationId accountId before generation)
    (grows : Grows organizationId accountId before after) :
    Reads organizationId accountId after generation := by
  obtain ⟨within, read⟩ := reads
  constructor
  · exact Nat.le_trans within grows.length_le
  · intro callId
    rw [read callId, grows.take within]
    constructor
    · intro stored
      obtain ⟨transcript, member, same, ofAccount⟩ := stored
      exact ⟨transcript, member, same,
        (grows.calls transcript (List.mem_of_mem_take member)).mpr ofAccount⟩
    · intro stored
      obtain ⟨transcript, member, same, ofAccount⟩ := stored
      exact ⟨transcript, member, same,
        (grows.calls transcript (List.mem_of_mem_take member)).mp ofAccount⟩

theorem AllRead.grows (all : AllRead organizationId accountId state)
    (within : state.started ≤ state.db.transcripts.length)
    (grows : Grows organizationId accountId state.db after) :
    AllRead organizationId accountId { state with db := after } := by
  intro transcript member ofAccount
  simp only [grows.take within] at member
  exact all transcript member
    ((grows.calls transcript (List.mem_of_mem_take member)).mp ofAccount)

theorem Recorded.grows (recorded : Recorded organizationId accountId state)
    (grows : Grows organizationId accountId state.db after) :
    Recorded organizationId accountId { state with db := after } :=
  fun generation member =>
    ⟨(recorded generation member).1.grows grows, (recorded generation member).2⟩

theorem StageReads.grows {stage : RegenStage}
    (reads : StageReads organizationId accountId state stage)
    (within : state.started ≤ state.db.transcripts.length)
    (grows : Grows organizationId accountId state.db after) :
    StageReads organizationId accountId { state with db := after } stage := by
  cases stage with
  | narrating account generation => exact ⟨reads.1.grows grows, reads.2⟩
  | extractingQuotes account generation markdown => exact ⟨reads.1.grows grows, reads.2⟩
  | savingStory account generation markdown => exact ⟨reads.1.grows grows, reads.2⟩
  | savingQuotes account => exact AllRead.grows reads within grows
  | findingStory account => exact AllRead.grows reads within grows
  | logging account newStoryId => exact AllRead.grows reads within grows
  | idle => exact trivial
  | findingAccounts => exact trivial
  | findingLatest accountName => exact trivial
  | countingCalls accountName latestStory => exact trivial
  | merging account => exact trivial
  | finished => exact trivial
  | failed => exact trivial

theorem Sound.grows (sound : Sound organizationId accountId state)
    (stored : Stored organizationId accountId after)
    (grows : Grows organizationId accountId state.db after) :
    Sound organizationId accountId { state with db := after } where
  stored := stored
  recorded := sound.recorded.grows grows
  started := Nat.le_trans sound.started grows.length_le
  stage := sound.stage.grows sound.started grows

theorem Stored.keeps (stored : Stored organizationId accountId before)
    (calls : after.calls = before.calls) (transcripts : after.transcripts = before.transcripts)
    (accounts : after.accounts = before.accounts) (later : before.nextId ≤ after.nextId) :
    Stored organizationId accountId after ∧ Grows organizationId accountId before after := by
  constructor
  · exact {
      callIds := fun call member =>
        Nat.lt_of_lt_of_le (stored.callIds call (calls ▸ member)) later
      transcriptIds := fun transcript member =>
        Nat.lt_of_lt_of_le (stored.transcriptIds transcript (transcripts ▸ member)) later
      distinct := transcripts ▸ stored.distinct
      account := accounts ▸ stored.account }
  · exact {
      transcripts := ⟨[], by rw [transcripts, List.append_nil]⟩
      calls := fun transcript _ => by simp only [OfAccount, accountCalls, calls] }

theorem stored_callArrives (stored : Stored organizationId accountId state.db) (call : Call) :
    Stored organizationId accountId (callArrives state call).db ∧
      Grows organizationId accountId state.db (callArrives state call).db := by
  have later : state.db.nextId < state.db.nextId + 1 := Nat.lt_succ_self _
  constructor
  · exact {
      callIds := by
        intro other member
        cases List.mem_append.mp member with
        | inl old => exact Nat.lt_trans (stored.callIds other old) later
        | inr new =>
          rw [List.mem_singleton.mp new]
          exact later
      transcriptIds := fun transcript member =>
        Nat.lt_trans (stored.transcriptIds transcript member) later
      distinct := stored.distinct
      account := stored.account }
  · exact {
      transcripts := ⟨[], (List.append_nil _).symm⟩
      calls := by
        intro transcript member
        have old := stored.transcriptIds transcript member
        constructor
        · intro ofAccount
          obtain ⟨other, inCalls, same⟩ := ofAccount
          obtain ⟨present, isAccount⟩ := mem_accountCalls.mp inCalls
          cases List.mem_append.mp present with
          | inl before => exact ⟨other, mem_accountCalls.mpr ⟨before, isAccount⟩, same⟩
          | inr new =>
            rw [List.mem_singleton.mp new] at same
            exact absurd same (Nat.ne_of_gt old)
        · intro ofAccount
          obtain ⟨other, inCalls, same⟩ := ofAccount
          obtain ⟨present, isAccount⟩ := mem_accountCalls.mp inCalls
          exact ⟨other, mem_accountCalls.mpr ⟨List.mem_append_left _ present, isAccount⟩, same⟩ }

theorem transcriptArrives_db (state : Regeneration) (transcript : Transcript) :
    transcriptArrives state transcript =
      { state with db := (transcriptArrives state transcript).db } := by
  simp only [transcriptArrives]
  split <;> rfl

theorem stored_transcriptArrives (stored : Stored organizationId accountId state.db)
    (transcript : Transcript) :
    Stored organizationId accountId (transcriptArrives state transcript).db ∧
      Grows organizationId accountId state.db (transcriptArrives state transcript).db := by
  simp only [transcriptArrives]
  split
  · rename_i accepted
    simp only [Bool.and_eq_true, List.any_eq_true, beq_iff_eq, Bool.not_eq_true',
      List.any_eq_false] at accepted
    obtain ⟨⟨call, inCalls, itsCall⟩, fresh⟩ := accepted
    constructor
    · exact {
        callIds := stored.callIds
        transcriptIds := by
          intro other member
          cases List.mem_append.mp member with
          | inl old => exact stored.transcriptIds other old
          | inr new =>
            rw [List.mem_singleton.mp new, ← itsCall]
            exact stored.callIds call inCalls
        distinct := nodup_map_append_fresh stored.distinct fresh
        account := stored.account }
    · exact { transcripts := ⟨[transcript], rfl⟩, calls := fun _ _ => Iff.rfl }
  · exact ⟨stored, Grows.refl _⟩

theorem Sound.moves (sound : Sound organizationId accountId state) {stage : RegenStage}
    (reads : StageReads organizationId accountId state stage) :
    Sound organizationId accountId { state with stage } where
  stored := sound.stored
  recorded := sound.recorded
  started := sound.started
  stage := reads

theorem allRead_unlisted (stored : Stored organizationId accountId state.db)
    (unlisted : listedAccount state.db organizationId accountId = none) :
    AllRead organizationId accountId state := by
  intro transcript member ofAccount
  obtain ⟨account, inAccounts, isAccount, isOrganization⟩ := stored.account
  obtain ⟨call, inCalls, itsCall⟩ := ofAccount
  obtain ⟨present, ofIt, _⟩ := mem_accountCalls.mp inCalls
  have listed : (account.id == accountId && account.organizationId == organizationId &&
      state.db.calls.any fun call =>
        call.accountId == some account.id && hasTranscript state.db call) = true := by
    simp only [isAccount, isOrganization, BEq.rfl, Bool.true_and, List.any_eq_true,
      Bool.and_eq_true, beq_iff_eq, hasTranscript]
    exact ⟨call, present, ofIt, transcript, List.mem_of_mem_take member, itsCall.symm⟩
  simp only [listedAccount] at unlisted
  exact absurd listed (List.find?_eq_none.mp unlisted account inAccounts)

theorem allRead_unmerged
    (none : (mergeTranscripts state.db (regenerationMerge organizationId accountId)).includedCalls = 0) :
    AllRead organizationId accountId state := by
  intro transcript member ofAccount
  have read := (mem_transcriptEntries transcript.callId).mpr
    ⟨transcript, List.mem_of_mem_take member, rfl, ofAccount⟩
  rw [included_eq_zero none] at read
  cases read

theorem Sound.saves (sound : Sound organizationId accountId state) {account : EligibleAccount}
    {generation : Generation} {markdown : Text}
    (reads : Reads organizationId accountId state.db generation)
    (started : state.started ≤ generation.transcripts)
    (last : lastMerge state ≤ generation.transcripts) :
    Sound organizationId accountId { state with
      db := createStory state.db organizationId accountId state.clock markdown
      stage := .savingQuotes account
      generations := state.generations ++ [generation] } := by
  obtain ⟨stored, grows⟩ := @Stored.keeps organizationId accountId state.db
    (createStory state.db organizationId accountId state.clock markdown) sound.stored rfl rfl rfl
    (Nat.le_succ _)
  exact {
    stored
    recorded := by
      intro other member
      rw [lastMerge_eq rfl]
      cases List.mem_append.mp member with
      | inl earlier =>
        obtain ⟨read, before⟩ := sound.recorded other earlier
        exact ⟨read.grows grows, Nat.le_trans before last⟩
      | inr new =>
        rw [List.mem_singleton.mp new]
        exact ⟨reads.grows grows, Nat.le_refl _⟩
    started := sound.started
    stage := by
      intro transcript member ofAccount
      have within : transcript ∈ state.db.transcripts.take generation.transcripts :=
        List.take_subset_take_left _ started member
      exact ⟨generation, List.mem_append_right _ List.mem_cons_self,
        (reads.2 transcript.callId).mpr ⟨transcript, within, rfl, ofAccount⟩⟩ }

theorem Sound.advances (sound : Sound organizationId accountId state) (content : Text) :
    Sound organizationId accountId (advance organizationId accountId content state) := by
  have reads := sound.stage
  cases is : state.stage with
  | idle => simpa only [advance, is] using sound
  | finished => simpa only [advance, is] using sound
  | failed => simpa only [advance, is] using sound
  | findingAccounts =>
    simp only [advance, is]
    split
    · exact sound.moves trivial
    · exact sound.moves trivial
  | findingLatest accountName =>
    simp only [advance, is]
    exact sound.moves trivial
  | countingCalls accountName latestStory =>
    simp only [advance, is]
    split
    · exact sound.moves trivial
    · exact sound.moves trivial
  | merging account =>
    simp only [advance, is]
    split
    · rename_i none
      exact sound.moves (allRead_unmerged none)
    · apply sound.moves
      have last : lastMerge state ≤ state.db.transcripts.length := by
        cases ends : state.generations.getLast? with
        | none => simp [lastMerge, ends]
        | some generation =>
          have read := (sound.recorded generation (List.mem_of_getLast? ends)).1.1
          simpa [lastMerge, ends] using read
      exact ⟨reads_now _ rfl, sound.started, last⟩
  | narrating account generation =>
    rw [is] at reads
    simp only [advance, is]
    exact sound.moves reads
  | extractingQuotes account generation markdown =>
    rw [is] at reads
    simp only [advance, is]
    exact sound.moves reads
  | savingStory account generation markdown =>
    rw [is] at reads
    simp only [advance, is]
    exact sound.saves reads.1 reads.2.1 reads.2.2
  | savingQuotes account =>
    rw [is] at reads
    simp only [advance, is]
    exact sound.moves reads
  | findingStory account =>
    rw [is] at reads
    simp only [advance, is]
    split
    · exact sound.moves reads
    · exact sound.moves trivial
  | logging account newStoryId =>
    obtain ⟨stored, grows⟩ := @Stored.keeps organizationId accountId state.db
      (createRegenLog state.db account newStoryId) sound.stored rfl rfl rfl (Nat.le_succ _)
    simp only [advance, is]
    exact (sound.grows stored grows).moves trivial

theorem Sound.step (sound : Sound organizationId accountId state) (event : RegenEvent) :
    Sound organizationId accountId (regenStep organizationId accountId state event) := by
  cases event with
  | passes milliseconds =>
    exact {
      stored := sound.stored
      recorded := sound.recorded
      started := sound.started
      stage := sound.stage }
  | callArrives call =>
    obtain ⟨stored, grows⟩ := stored_callArrives sound.stored call
    exact sound.grows stored grows
  | transcriptArrives transcript =>
    obtain ⟨stored, grows⟩ := stored_transcriptArrives sound.stored transcript
    simp only [regenStep]
    rw [transcriptArrives_db]
    exact sound.grows stored grows
  | starts =>
    simp only [regenStep, startRun]
    split
    · exact {
        stored := sound.stored
        recorded := sound.recorded
        started := Nat.le_refl _
        stage := trivial }
    · exact sound
  | runs content =>
    cases content with
    | some content => exact sound.advances content
    | none =>
      simp only [regenStep, abort]
      split
      · exact sound
      · exact sound.moves trivial

theorem losesNone_grows (sound : Sound organizationId accountId state)
    (holds : LosesNone organizationId accountId state)
    (grows : Grows organizationId accountId state.db after) :
    LosesNone organizationId accountId { state with db := after } :=
  fun finished => (holds finished).grows sound.started grows

theorem losesNone_advance (sound : Sound organizationId accountId state)
    (holds : LosesNone organizationId accountId state) (content : Text) :
    LosesNone organizationId accountId (advance organizationId accountId content state) ↔
      CountsSinceMerge organizationId accountId state state.stage := by
  have reads := sound.stage
  cases is : state.stage with
  | idle => simpa only [advance, is, CountsSinceMerge, iff_true] using holds
  | finished => simpa only [advance, is, CountsSinceMerge, iff_true] using holds
  | failed => simpa only [advance, is, CountsSinceMerge, iff_true] using holds
  | findingAccounts =>
    simp only [advance, is, CountsSinceMerge, iff_true]
    split
    · exact nofun
    · rename_i unlisted
      exact fun _ => allRead_unlisted sound.stored unlisted
  | findingLatest accountName =>
    simp only [advance, is, CountsSinceMerge, iff_true]
    exact nofun
  | countingCalls accountName latestStory =>
    have exactly := allRead_iff sound.stored.distinct sound.recorded
    simp only [advance, is, CountsSinceMerge]
    split
    · rename_i zero
      simp only [zero, ne_eq, not_true, imp_false, ← exactly]
      exact ⟨fun none => none rfl, fun all _ => all⟩
    · rename_i some
      simp only [ne_eq, some, not_false_iff, implies_true, iff_true]
      exact nofun
  | merging account =>
    simp only [advance, is, CountsSinceMerge, iff_true]
    split <;> exact nofun
  | narrating account generation =>
    simp only [advance, is, CountsSinceMerge, iff_true]
    exact nofun
  | extractingQuotes account generation markdown =>
    simp only [advance, is, CountsSinceMerge, iff_true]
    exact nofun
  | savingStory account generation markdown =>
    simp only [advance, is, CountsSinceMerge, iff_true]
    exact nofun
  | savingQuotes account =>
    simp only [advance, is, CountsSinceMerge, iff_true]
    exact nofun
  | findingStory account =>
    simp only [advance, is, CountsSinceMerge, iff_true]
    split <;> exact nofun
  | logging account newStoryId =>
    rw [is] at reads
    simp only [advance, is, CountsSinceMerge, iff_true]
    exact fun _ => reads

theorem losesNone_iff (sound : Sound organizationId accountId state)
    (holds : LosesNone organizationId accountId state) (event : RegenEvent) :
    LosesNone organizationId accountId (regenStep organizationId accountId state event) ↔
      FindsSinceMerge organizationId accountId state event := by
  cases event with
  | passes milliseconds => exact iff_of_true holds trivial
  | callArrives call =>
    have grows := (stored_callArrives sound.stored call).2
    exact iff_of_true (losesNone_grows sound holds grows) trivial
  | transcriptArrives transcript =>
    have grows := (stored_transcriptArrives sound.stored transcript).2
    simp only [regenStep, FindsSinceMerge, iff_true]
    rw [transcriptArrives_db]
    exact losesNone_grows sound holds grows
  | starts =>
    simp only [regenStep, startRun, FindsSinceMerge, iff_true]
    split
    · exact nofun
    · exact holds
  | runs content =>
    cases content with
    | some content => exact losesNone_advance sound holds content
    | none =>
      simp only [regenStep, abort, FindsSinceMerge, iff_true]
      split
      · exact holds
      · exact nofun

end

section

variable {organizationId accountId : RowId} {state : Regeneration} {events : List RegenEvent}

theorem Start.sound (start : Start organizationId accountId state) :
    Sound organizationId accountId state where
  stored := start.stored
  recorded := start.recorded
  started := by simp [start.started]
  stage := by simp only [start.idle, StageReads]

/-- Every finished run leaves no call unread exactly when no count misses a transcript that was
stored between the latest merge and the start of its run. -/
theorem regenerations_lose_none_iff (start : Start organizationId accountId state) :
    (∀ taken ∈ trace (regenStep organizationId accountId) state events,
        LosesNone organizationId accountId
          (regenStep organizationId accountId taken.1 taken.2)) ↔
      Guarded (regenStep organizationId accountId) (FindsSinceMerge organizationId accountId)
        state events := by
  apply Iff.symm
  apply guarded_iff_trace (Sound organizationId accountId) (LosesNone organizationId accountId)
  · exact fun state event sound => sound.step event
  · exact fun state event sound holds => losesNone_iff sound holds event
  · exact start.sound
  · intro finished
    simp [start.idle] at finished

def emptyAccount : Regeneration where
  clock := 0
  db := {
    nextId := 10
    accounts := [{ id := 2, organizationId := 1, name := "Acme", normalizedName := "acme" }] }

theorem emptyAccount_start : Start 1 2 emptyAccount where
  stored := {
    callIds := fun _ member => absurd member List.not_mem_nil
    transcriptIds := fun _ member => absurd member List.not_mem_nil
    distinct := List.nodup_nil
    account := ⟨_, List.mem_cons_self, rfl, rfl⟩ }
  recorded := fun _ member => absurd member List.not_mem_nil
  idle := rfl
  started := rfl

def wholeRun : List RegenEvent := .starts :: List.replicate 10 (.runs (some "# Acme"))

/-- A journey of the first of two calls, a second after them, and the transcript of the other. -/
def lateTranscript : List RegenEvent :=
  [RegenEvent.callArrives { id := 0, organizationId := 1, accountId := some 2 },
    .transcriptArrives { callId := 10, fullText := "We began.", wordCount := 2 },
    .callArrives { id := 0, organizationId := 1, accountId := some 2 },
    .passes 1000] ++ wholeRun ++
  [RegenEvent.transcriptArrives { callId := 11, fullText := "We grew.", wordCount := 2 }]

/-- A newer call brings the older one with it. -/
theorem newer_call_reads_late_transcript :
    Start 1 2 emptyAccount ∧
      ∀ taken ∈ trace (regenStep 1 2) emptyAccount (lateTranscript ++ [
          .passes 1000,
          .callArrives { id := 0, organizationId := 1, accountId := some 2 },
          .transcriptArrives { callId := 14, fullText := "We renewed.", wordCount := 2 }] ++
          wholeRun),
        LosesNone 1 2 (regenStep 1 2 taken.1 taken.2) :=
  ⟨emptyAccount_start, (regenerations_lose_none_iff emptyAccount_start).mpr (by decide +kernel)⟩

/-- The late transcript is of a call that is older than the journey. -/
theorem late_transcript_lost :
    Start 1 2 emptyAccount ∧
      (run (regenStep 1 2) emptyAccount (lateTranscript ++ wholeRun)).stage = .finished ∧
      ¬LosesNone 1 2 (run (regenStep 1 2) emptyAccount (lateTranscript ++ wholeRun)) :=
  ⟨emptyAccount_start, by decide +kernel, by decide +kernel⟩

end

end StoryEngine.Stories
