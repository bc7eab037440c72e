import StoryEngine.Crm.Sync

namespace StoryEngine.Crm

open Data Schema Text

/-! # What a sync hands on

A run asks for the accounts that changed since the last one, and sets the time of the
last sync to its own end.  Its query is limited to one page, so that what comes after
the first page of a long window is in no window any more.
-/

def InWindow (since : Option Date) (startedAt : Date) (row : Modified SFAccount) : Prop :=
  (∀ last, since = some last → last < row.systemModstamp) ∧ row.systemModstamp < startedAt

instance (since : Option Date) (startedAt : Date) (row : Modified SFAccount) :
    Decidable (InWindow since startedAt row) :=
  inferInstanceAs (Decidable ((∀ last, since = some last → _) ∧ _))

/-- Every account of the window is handed to `persistAccountBatch`. -/
def HandsWindow {σ : Type} (platform : Platform) (config : IntegrationConfig) (run : SyncRun σ)
    (outcome : SyncOutcome σ) : Prop :=
  ∀ row ∈ run.accounts, InWindow config.lastSyncAt run.startedAt row →
    normalizeAccount platform row.record ∈ outcome.accountBatches.flatten

section

variable {σ : Type} {store : CrmStore σ} {platform : Platform} {config : IntegrationConfig}
  {run : SyncRun σ} {outcome : SyncOutcome σ}

theorem runSync_accounts (answers : Answers run.salesforce.accounts run.accounts)
    (synced : runSync store platform config run = .ok outcome) :
    ∃ rows, TopBy Modified.systemModstamp pageSize
        (matching (accountSoql config.lastSyncAt) run.accounts) rows ∧
      outcome.accountBatches.flatten = rows.map fun row => normalizeAccount platform row.record := by
  simp only [runSync, syncCRMProvider, bind_eq_ok, pure_eq_ok] at synced
  obtain ⟨accounts, accountsSynced, _, _, _, _, rfl⟩ := synced
  exact syncPages_result (by decide) answers accountsSynced

theorem mem_matching {row : Modified SFAccount} {since : Option Date}
    {table : List (Modified SFAccount)} :
    row ∈ matching (accountSoql since) table ↔
      row ∈ table ∧ ∀ last, since = some last → last < row.systemModstamp := by
  cases since with
  | none => simp [matching, accountSoql]
  | some last => simp [matching, accountSoql]

theorem mem_handed {rows table : List (Modified SFAccount)} {row : Modified SFAccount}
    (distinct : (table.map (·.record.id)).Nodup) (within : ∀ row ∈ rows, row ∈ table)
    (member : row ∈ table) :
    normalizeAccount platform row.record ∈
        rows.map (fun row => normalizeAccount platform row.record) ↔ row ∈ rows := by
  constructor
  · intro handed
    obtain ⟨other, inRows, same⟩ := List.mem_map.mp handed
    have ids : other.record.id = row.record.id := congrArg NormalizedAccount.externalId same
    rwa [← List.inj_on_of_nodup_map distinct (within other inRows) member ids]
  · exact fun inRows => List.mem_map.mpr ⟨row, inRows, rfl⟩

theorem handsWindow_iff (answers : Answers run.salesforce.accounts run.accounts)
    (distinct : (run.accounts.map (·.record.id)).Nodup)
    (synced : runSync store platform config run = .ok outcome) :
    HandsWindow platform config run outcome ↔
      (run.accounts.filter fun row => InWindow config.lastSyncAt run.startedAt row).length ≤
        pageSize := by
  obtain ⟨rows, top, handed⟩ := runSync_accounts answers synced
  have rowsDistinct : (matching (accountSoql config.lastSyncAt) run.accounts).Nodup :=
    (List.Nodup.of_map _ distinct).filter _
  have window : (matching (accountSoql config.lastSyncAt) run.accounts).filter
      (fun row => decide (row.systemModstamp < run.startedAt)) =
        run.accounts.filter fun row => InWindow config.lastSyncAt run.startedAt row := by
    rw [matching, List.filter_filter]
    refine List.filter_congr fun row _ => ?_
    rw [Bool.eq_iff_iff]
    cases config.lastSyncAt with
    | none => simp [InWindow, accountSoql]
    | some last => simp [InWindow, accountSoql, and_comm]
  rw [← window, ← top.covers_iff rowsDistinct, HandsWindow, handed]
  have within : ∀ row ∈ rows, row ∈ run.accounts := fun row inRows =>
    (mem_matching.mp (top.mem inRows)).1
  constructor
  · intro hands row member before
    obtain ⟨inTable, after⟩ := mem_matching.mp member
    exact (mem_handed distinct within inTable).mp (hands row inTable ⟨after, before⟩)
  · intro covers row member inWindow
    exact (mem_handed distinct within member).mpr
      (covers row (mem_matching.mpr ⟨member, inWindow.1⟩) inWindow.2)

/-- What changed before the end of the last run is not handed on any more. -/
theorem earlier_changes_are_skipped {last : Date} {row : Modified SFAccount}
    (answers : Answers run.salesforce.accounts run.accounts)
    (distinct : (run.accounts.map (·.record.id)).Nodup)
    (synced : runSync store platform config run = .ok outcome)
    (lastSync : config.lastSyncAt = some last) (member : row ∈ run.accounts)
    (earlier : row.systemModstamp ≤ last) :
    normalizeAccount platform row.record ∉ outcome.accountBatches.flatten := by
  obtain ⟨rows, top, handed⟩ := runSync_accounts answers synced
  have within : ∀ row ∈ rows, row ∈ run.accounts := fun row inRows =>
    (mem_matching.mp (top.mem inRows)).1
  rw [handed, mem_handed distinct within member]
  intro inRows
  exact absurd ((mem_matching.mp (top.mem inRows)).2 last lastSync) (Nat.not_lt.mpr earlier)

end

/-- In a sequence of runs every run that succeeds hands on its window exactly when the
window of each of them fits on a page. -/
theorem windows_are_handed_iff {σ : Type} {store : CrmStore σ} {platform : Platform}
    {config : IntegrationConfig} {runs : List (SyncRun σ)}
    (answers : ∀ run ∈ runs, Answers run.salesforce.accounts run.accounts)
    (distinct : ∀ run ∈ runs, (run.accounts.map (·.record.id)).Nodup) :
    (∀ taken ∈ trace (syncStep store platform) config runs, ∀ outcome,
        runSync store platform taken.1 taken.2 = .ok outcome →
          HandsWindow platform taken.1 taken.2 outcome) ↔
      ∀ taken ∈ trace (syncStep store platform) config runs,
        (∃ outcome, runSync store platform taken.1 taken.2 = .ok outcome) →
          (taken.2.accounts.filter fun row =>
            InWindow taken.1.lastSyncAt taken.2.startedAt row).length ≤ pageSize := by
  have exactly : ∀ taken ∈ trace (syncStep store platform) config runs, ∀ outcome,
      runSync store platform taken.1 taken.2 = .ok outcome →
        (HandsWindow platform taken.1 taken.2 outcome ↔
          (taken.2.accounts.filter fun row =>
            InWindow taken.1.lastSyncAt taken.2.startedAt row).length ≤ pageSize) := by
    intro taken member outcome synced
    have inRuns := trace_action (syncStep store platform) config runs taken member
    exact handsWindow_iff (answers taken.2 inRuns) (distinct taken.2 inRuns) synced
  constructor
  · rintro hands taken member ⟨outcome, synced⟩
    exact (exactly taken member outcome synced).mp (hands taken member outcome synced)
  · intro fits taken member outcome synced
    exact (exactly taken member outcome synced).mpr (fits taken member ⟨outcome, synced⟩)

def tableResource {ρ : Type} (table : List (Modified ρ)) : Resource ρ where
  query _ soql := .ok {
    done := true
    records := (((matching soql table).insertionSort fun left right =>
      left.systemModstamp ≤ right.systemModstamp).take soql.limit).map (·.record) }
  next _ _ := .failed 404 []

theorem tableResource_answers {ρ : Type} (table : List (Modified ρ)) :
    Answers (tableResource table) table := by
  intro accessToken soql body sent
  obtain rfl := HttpReply.ok.inj sent
  have : Std.Total fun left right : Modified ρ => left.systemModstamp ≤ right.systemModstamp :=
    ⟨fun left right => Nat.le_total left.systemModstamp right.systemModstamp⟩
  have : IsTrans (Modified ρ) fun left right => left.systemModstamp ≤ right.systemModstamp :=
    ⟨fun _ _ _ => Nat.le_trans⟩
  exact ⟨_, ⟨_, List.perm_insertionSort _ _, List.pairwise_insertionSort _ _, rfl⟩, .last _ _⟩

def idleStore : CrmStore Unit where
  persistAccountBatch _ _ := .ok ()
  persistContactBatch _ _ := .ok ()
  persistOpportunity _ _ := .ok ()

def sampleAccount (index : Nat) : Modified SFAccount where
  systemModstamp := index + 1
  record := { id := List.replicate (index + 1) 'x', name := ("Acme" : String) }

def sampleAccounts (count : Nat) : List (Modified SFAccount) :=
  (List.range count).map sampleAccount

/-- A run over accounts that changed at the times `1`, `2`, and so on. -/
def sampleRun (count : Nat) (startedAt : Date) : SyncRun Unit where
  startedAt
  completedAt := startedAt + 1
  state := ()
  creds := {
    instanceUrl := ("https://example.my.salesforce.com" : String)
    accessToken := ("token" : String)
    refreshToken := []
    clientId := []
    clientSecret := [] }
  salesforce := {
    accounts := tableResource (sampleAccounts count)
    contacts := tableResource []
    opportunities := tableResource []
    token _ := none }
  accounts := sampleAccounts count
  turns := 1

theorem sampleRun_answers (count : Nat) (startedAt : Date) :
    Answers (sampleRun count startedAt).salesforce.accounts (sampleRun count startedAt).accounts :=
  tableResource_answers (sampleAccounts count)

theorem sampleRun_distinct (count : Nat) (startedAt : Date) :
    ((sampleRun count startedAt).accounts.map (·.record.id)).Nodup := by
  have injective : Function.Injective fun index => (sampleAccount index).record.id := by
    intro left right same
    have lengths := congrArg List.length same
    simpa [sampleAccount] using lengths
  show ((sampleAccounts count).map (·.record.id)).Nodup
  rw [sampleAccounts, List.map_map]
  exact List.nodup_range.map injective

def twoRuns : List (SyncRun Unit) := [sampleRun 3 10, sampleRun 20 30]

theorem short_windows_are_handed :
    twoRuns.map (·.accounts.length) = [3, 20] ∧
      ∀ taken ∈ trace (syncStep idleStore .ascii) {} twoRuns, ∀ outcome,
        runSync idleStore .ascii taken.1 taken.2 = .ok outcome →
          HandsWindow .ascii taken.1 taken.2 outcome := by
  have answers : ∀ run ∈ twoRuns, Answers run.salesforce.accounts run.accounts := by
    intro run member
    rcases List.mem_cons.mp member with rfl | inRest
    · exact sampleRun_answers 3 10
    · obtain rfl := List.mem_singleton.mp inRest
      exact sampleRun_answers 20 30
  have distinct : ∀ run ∈ twoRuns, (run.accounts.map (·.record.id)).Nodup := by
    intro run member
    rcases List.mem_cons.mp member with rfl | inRest
    · exact sampleRun_distinct 3 10
    · obtain rfl := List.mem_singleton.mp inRest
      exact sampleRun_distinct 20 30
  have fits : ∀ taken ∈ trace (syncStep idleStore .ascii) {} twoRuns,
      (taken.2.accounts.filter fun row =>
        InWindow taken.1.lastSyncAt taken.2.startedAt row).length ≤ pageSize := by
    decide +kernel
  exact ⟨rfl, (windows_are_handed_iff answers distinct).mpr fun taken member _ => fits taken member⟩

/-- Of 201 new accounts the first sync hands on 200, and says that it is up to date. -/
theorem last_account_is_missed :
    Answers (sampleRun 201 300).salesforce.accounts (sampleRun 201 300).accounts ∧
    ((sampleRun 201 300).accounts.map (·.record.id)).Nodup ∧
    ∃ outcome, runSync idleStore .ascii {} (sampleRun 201 300) = .ok outcome ∧
      outcome.config.lastSyncAt = some 301 ∧
      ¬HandsWindow .ascii {} (sampleRun 201 300) outcome := by
  have answers := sampleRun_answers 201 300
  have distinct := sampleRun_distinct 201 300
  have synced : (runSync idleStore .ascii {} (sampleRun 201 300)).toOption.map
      (·.config.lastSyncAt) = some (some 301) := by
    decide +kernel
  obtain ⟨outcome, succeeded, lastSync⟩ := Option.map_eq_some_iff.mp synced
  have ran : runSync idleStore .ascii {} (sampleRun 201 300) = .ok outcome :=
    toOption_eq_some.mp succeeded
  refine ⟨answers, distinct, outcome, ran, lastSync, ?_⟩
  rw [handsWindow_iff answers distinct ran]
  decide +kernel

/-- A response of at most so many records, whose URL has a letter for each record that is left. -/
def pageOf {ρ : Type} (size : Nat) (records : List ρ) : SoqlResponse ρ where
  done := records.length ≤ size
  nextRecordsUrl :=
    if records.length ≤ size then none else some (List.replicate (records.length - size) '/')
  records := records.take size

/-- The records in pages of three, for a holder of the new token. -/
def pagedResource {ρ : Type} (records : List ρ) : Resource ρ where
  query accessToken soql :=
    if accessToken = ("new" : String).toList then .ok (pageOf 3 (records.take soql.limit))
    else .failed 401 []
  next _ url := .ok (pageOf 3 (records.drop (records.length - url.length)))

theorem pageOf_counts {ρ : Type} {size total : Nat} {records : List ρ} (positive : 0 < size)
    (within : records.length ≤ total) : (pageOf size records).PageOf List.length total where
  within := by
    rw [pageOf, List.length_take]
    omega
  holds isOpen := by
    have longer : ¬records.length ≤ size := of_decide_eq_false isOpen
    rw [pageOf, ← List.length_pos_iff, List.length_take]
    omega
  leads isOpen url isNext := by
    have longer : ¬records.length ≤ size := of_decide_eq_false isOpen
    rw [pageOf, if_neg longer, Option.mem_some_iff] at isNext
    rw [← isNext, pageOf, List.length_replicate, List.length_take]
    omega

theorem pagedResource_counts {ρ : Type} (records : List ρ) :
    (pagedResource records).CountsDown List.length where
  query accessToken soql body sent := by
    simp only [pagedResource] at sent
    split at sent
    · obtain rfl := HttpReply.ok.inj sent
      exact ⟨soql.limit, Nat.le_refl _, pageOf_counts (by decide) (List.length_take_le _ _)⟩
    · cases sent
  next accessToken url body sent := by
    obtain rfl := HttpReply.ok.inj sent
    refine pageOf_counts (by decide) ?_
    rw [List.length_drop]
    omega

def pagedSalesforce : Salesforce where
  accounts := pagedResource ((sampleAccounts 7).map (·.record))
  contacts := pagedResource []
  opportunities := pagedResource []
  token _ := some ("new" : String)

def expiredCreds : SalesforceCredentials where
  instanceUrl := ("https://example.my.salesforce.com" : String)
  accessToken := ("old" : String)
  refreshToken := ("again" : String)
  clientId := ("id" : String)
  clientSecret := ("secret" : String)

/-- Seven accounts are fetched in three pages, the first of them with a refreshed token. -/
theorem sampleAccounts_returned :
    (syncCRMProvider idleStore pagedSalesforce .ascii {} (pageSize + 1) expiredCreds () 0).toOption.map
        (fun outcome => (outcome.synced, outcome.accountBatches.map List.length)) =
          some (7, [3, 3, 1]) ∧
      syncCRMProvider idleStore pagedSalesforce .ascii {} (pageSize + 1) expiredCreds () 0 ≠
        .error .unfinished :=
  ⟨by decide +kernel, syncPages_returns idleStore .ascii {} expiredCreds () 0
    (pagedResource_counts _) (pagedResource_counts _) (pagedResource_counts _)⟩

end StoryEngine.Crm
