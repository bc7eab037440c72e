import StoryEngine.Crm.Salesforce
import StoryEngine.Data.Run

namespace StoryEngine.Crm

open Data Schema Text

/-! # CRM sync -/

inductive IntegrationStatus where
  | pendingSetup
  | active
  | error
  | disabled

structure IntegrationConfig where
  lastSyncAt : Option Date := none
  syncCursor : Option Text := none
  status : IntegrationStatus := .pendingSetup
  lastError : Option Text := none

/-- A sync throws, or its page loop goes on beyond the given number of turns. -/
inductive SyncFailure where
  | thrown (message : Text)
  | unfinished

/-- What the sync does with the records, on tables of any kind. -/
structure CrmStore (σ : Type) where
  persistAccountBatch : σ → List NormalizedAccount → Except Text σ
  persistContactBatch : σ → List NormalizedContact → Except Text σ
  persistOpportunity : σ → NormalizedOpportunity → Except Text σ

/-- The variables of a page loop, and the batches that it has handed on. -/
structure SyncLoop (σ ν : Type) where
  creds : SalesforceCredentials
  state : σ
  cursor : Option Text := none
  total : Nat := 0
  handed : List (List ν) := []

section

variable {σ ν : Type}

/-- `data.slice(i, i + size)` for every multiple `i` of the size. -/
def slices (size : Nat) : Nat → List ν → List (List ν)
  | 0, _ => []
  | _, [] => []
  | turns + 1, data => data.take size :: slices size turns (data.drop size)

def batches (size : Nat) (data : List ν) : List (List ν) := slices size data.length data

variable (fetch : SalesforceCredentials → Option Text →
    Except Text (SalesforceCredentials × SyncResult ν))
  (batchSize : Nat) (persist : σ → List ν → Except Text σ)

def syncPage (loop : SyncLoop σ ν) : Except Text (SyncLoop σ ν × Bool) := do
  let (creds, result) ← fetch loop.creds loop.cursor
  let state ← (batches batchSize result.data).foldlM persist loop.state
  return ({
    creds
    state
    cursor := result.nextCursor
    total := loop.total + result.data.length
    handed := loop.handed ++ batches batchSize result.data },
    result.hasMore && result.nextCursor.any fun url => !url.isEmpty)

def syncPages : Nat → SyncLoop σ ν → Except SyncFailure (SyncLoop σ ν)
  | 0, _ => .error .unfinished
  | turns + 1, loop => do
      let (next, hasMore) ← (syncPage fetch batchSize persist loop).mapError .thrown
      if hasMore then syncPages turns next else return next

end

section

variable {σ : Type} (store : CrmStore σ) (salesforce : Salesforce) (platform : Platform)
  (config : IntegrationConfig) (turns : Nat)

def syncAccounts (creds : SalesforceCredentials) (state : σ) :
    Except SyncFailure (SyncLoop σ NormalizedAccount) :=
  syncPages (fetchAccounts salesforce platform config.lastSyncAt) 50 store.persistAccountBatch turns
    { creds, state }

def syncContacts (creds : SalesforceCredentials) (state : σ) :
    Except SyncFailure (SyncLoop σ NormalizedContact) :=
  syncPages (fetchContacts salesforce config.lastSyncAt) 50 store.persistContactBatch turns
    { creds, state }

def syncOpportunities (creds : SalesforceCredentials) (state : σ) :
    Except SyncFailure (SyncLoop σ NormalizedOpportunity) :=
  syncPages (fetchOpportunities salesforce config.lastSyncAt) 10
    (fun state batch => batch.foldlM store.persistOpportunity state) turns { creds, state }

structure SyncOutcome (σ : Type) where
  config : IntegrationConfig
  state : σ
  synced : Nat
  /-- The batches that `persistAccountBatch` was called with. -/
  accountBatches : List (List NormalizedAccount)

def syncCRMProvider (creds : SalesforceCredentials) (state : σ) (now : Date) :
    Except SyncFailure (SyncOutcome σ) := do
  let accounts ← syncAccounts store salesforce platform config turns creds state
  let contacts ← syncContacts store salesforce config turns accounts.creds accounts.state
  let opportunities ← syncOpportunities store salesforce config turns contacts.creds contacts.state
  return {
    config := {
      lastSyncAt := some now
      syncCursor := none
      status := .active
      lastError := none }
    state := opportunities.state
    synced := accounts.total + contacts.total + opportunities.total
    accountBatches := accounts.handed }

end

/-- A run, with the tables that it starts from and the accounts of Salesforce as its
query sees them. -/
structure SyncRun (σ : Type) where
  startedAt : Date
  completedAt : Date
  state : σ
  creds : SalesforceCredentials
  salesforce : Salesforce
  accounts : List (Modified SFAccount)
  turns : Nat

section

variable {σ : Type} (store : CrmStore σ) (platform : Platform)

def runSync (config : IntegrationConfig) (run : SyncRun σ) : Except SyncFailure (SyncOutcome σ) :=
  syncCRMProvider store run.salesforce platform config run.turns run.creds run.state run.completedAt

def syncStep (config : IntegrationConfig) (run : SyncRun σ) : IntegrationConfig :=
  match runSync store platform config run with
  | .ok outcome => outcome.config
  | .error (.thrown message) => { config with status := .error, lastError := some message }
  | .error .unfinished => config

end

section

variable {σ ρ ν : Type}

theorem slices_flatten {size turns : Nat} {data : List ν} (positive : 0 < size)
    (enough : data.length ≤ turns) : (slices size turns data).flatten = data := by
  induction turns generalizing data with
  | zero =>
    obtain rfl := List.eq_nil_of_length_eq_zero (Nat.le_zero.mp enough)
    rfl
  | succ turns ih =>
    cases data with
    | nil => rfl
    | cons first rest =>
      have shorter : ((first :: rest).drop size).length ≤ turns := by
        rw [List.length_drop, List.length_cons]
        rw [List.length_cons] at enough
        omega
      rw [slices, List.flatten_cons, ih shorter, List.take_append_drop]
      exact nofun

theorem batches_flatten {size : Nat} {data : List ν} (positive : 0 < size) :
    (batches size data).flatten = data :=
  slices_flatten positive (Nat.le_refl _)

variable {resource : Resource ρ} {token : SalesforceCredentials → Option Text}
  {normalize : ρ → ν} {soql : Soql} {batchSize turns : Nat}
  {persist : σ → List ν → Except Text σ} {loop final : SyncLoop σ ν}

theorem syncPage_eq_ok {fetch : SalesforceCredentials → Option Text →
      Except Text (SalesforceCredentials × SyncResult ν)} {next : SyncLoop σ ν} {hasMore : Bool} :
    syncPage fetch batchSize persist loop = .ok (next, hasMore) ↔
      ∃ creds result state, fetch loop.creds loop.cursor = .ok (creds, result) ∧
        (batches batchSize result.data).foldlM persist loop.state = .ok state ∧
        { creds, state, cursor := result.nextCursor, total := loop.total + result.data.length
          handed := loop.handed ++ batches batchSize result.data } = next ∧
        (result.hasMore && result.nextCursor.any fun url => !url.isEmpty) = hasMore := by
  simp only [syncPage, bind_eq_ok, pure_eq_ok, Prod.exists, Prod.mk.injEq]
  constructor
  · rintro ⟨creds, result, fetched, state, persisted, same⟩
    exact ⟨creds, result, state, fetched, persisted, same⟩
  · rintro ⟨creds, result, state, fetched, persisted, same⟩
    exact ⟨creds, result, fetched, state, persisted, same⟩

theorem syncPages_succ {fetch : SalesforceCredentials → Option Text →
      Except Text (SalesforceCredentials × SyncResult ν)} :
    syncPages fetch batchSize persist (turns + 1) loop = .ok final ↔
      ∃ next hasMore, syncPage fetch batchSize persist loop = .ok (next, hasMore) ∧
        if hasMore then syncPages fetch batchSize persist turns next = .ok final
        else next = final := by
  simp only [syncPages, bind_eq_ok, mapError_eq_ok, Prod.exists]
  refine exists_congr fun next => exists_congr fun hasMore => and_congr_right fun _ => ?_
  cases hasMore with
  | false => simp
  | true => simp

theorem syncPages_handed {body : SoqlResponse ρ} {records : List ρ} (positive : 0 < batchSize)
    (paged : Paged resource body records) :
    ∀ (turns : Nat) (loop next final : SyncLoop σ ν) (hasMore : Bool),
      next.cursor = body.nextRecordsUrl →
      next.handed = loop.handed ++ batches batchSize (body.records.map normalize) →
      (!body.done && body.nextRecordsUrl.any fun url => !url.isEmpty) = hasMore →
      (if hasMore then
          syncPages (fetchRecords resource token normalize soql) batchSize persist turns next =
            .ok final
        else next = final) →
      final.handed.flatten = loop.handed.flatten ++ records.map normalize := by
  induction paged with
  | last url records =>
    rintro turns loop next final hasMore cursor handed rfl ended
    obtain rfl : next = final := ended
    rw [handed, List.flatten_append, batches_flatten positive]
  | more url records rest named remaining follows ih =>
    rintro turns loop next final hasMore cursor handed rfl goesOn
    have named : url.isEmpty = false := by simpa using named
    simp only [Bool.not_false, Option.any_some, named, Bool.and_self, if_true] at goesOn
    cases turns with
    | zero => cases goesOn
    | succ turns =>
      obtain ⟨after, hasMore, turned, later⟩ := syncPages_succ.mp goesOn
      obtain ⟨creds, result, state, fetched, _, rfl, rfl⟩ := syncPage_eq_ok.mp turned
      obtain ⟨body, rfl, sent⟩ := fetchRecords_eq_ok fetched
      have asked : resource.next creds.accessToken url = .ok body := by
        simpa [cursor, Option.filter, named] using sent
      have rested := ih creds.accessToken body asked turns next _ final _ rfl rfl rfl later
      rw [rested, handed, List.flatten_append, batches_flatten positive, List.map_append,
        List.append_assoc]

theorem syncPages_result {table : List (Modified ρ)} {creds : SalesforceCredentials} {state : σ}
    (positive : 0 < batchSize) (answers : Answers resource table)
    (synced : syncPages (fetchRecords resource token normalize soql) batchSize persist turns
      { creds, state } = .ok final) :
    ∃ rows, TopBy Modified.systemModstamp soql.limit (matching soql table) rows ∧
      final.handed.flatten = rows.map fun row => normalize row.record := by
  cases turns with
  | zero => cases synced
  | succ turns =>
    obtain ⟨next, hasMore, turned, later⟩ := syncPages_succ.mp synced
    obtain ⟨given, result, after, fetched, _, rfl, rfl⟩ := syncPage_eq_ok.mp turned
    obtain ⟨body, rfl, sent⟩ := fetchRecords_eq_ok fetched
    obtain ⟨rows, top, paged⟩ := answers given.accessToken soql body sent
    have handed := syncPages_handed positive paged turns { creds, state } _ final _ rfl rfl rfl later
    refine ⟨rows, top, handed.trans ?_⟩
    rw [List.flatten_nil, List.nil_append, List.map_map]
    rfl

theorem syncPages_unfinished {fetch : SalesforceCredentials → Option Text →
      Except Text (SalesforceCredentials × SyncResult ν)} :
    syncPages fetch batchSize persist (turns + 1) loop = .error .unfinished ↔
      ∃ next, syncPage fetch batchSize persist loop = .ok (next, true) ∧
        syncPages fetch batchSize persist turns next = .error .unfinished := by
  rw [syncPages]
  cases turned : syncPage fetch batchSize persist loop with
  | error message => simp [Except.mapError, bind, Except.bind]
  | ok result =>
    obtain ⟨next, hasMore⟩ := result
    cases hasMore with
    | false => simp [Except.mapError, bind, Except.bind, pure, Except.pure]
    | true => simp [Except.mapError, bind, Except.bind]

variable {left : Text → Nat}

/-- How many records are left where the loop asks next. -/
def remaining (left : Text → Nat) (soql : Soql) (cursor : Option Text) : Nat :=
  match cursor.filter fun url => !url.isEmpty with
  | some url => left url
  | none => soql.limit

theorem fetchRecords_page (counts : resource.CountsDown left) {creds next : SalesforceCredentials}
    {cursor : Option Text} {result : SyncResult ν}
    (fetched : fetchRecords resource token normalize soql creds cursor = .ok (next, result)) :
    ∃ body total, result = syncResult normalize body ∧ total ≤ remaining left soql cursor ∧
      body.PageOf left total := by
  obtain ⟨body, same, sent⟩ := fetchRecords_eq_ok fetched
  rw [remaining]
  cases asked : cursor.filter fun url => !url.isEmpty with
  | some url =>
    rw [asked] at sent
    exact ⟨body, left url, same, Nat.le_refl _, counts.next _ url body sent⟩
  | none =>
    rw [asked] at sent
    obtain ⟨total, within, page⟩ := counts.query _ soql body sent
    exact ⟨body, total, same, within, page⟩

theorem syncPage_remaining (counts : resource.CountsDown left) {next : SyncLoop σ ν}
    (turned : syncPage (fetchRecords resource token normalize soql) batchSize persist loop =
      .ok (next, true)) :
    remaining left soql next.cursor < remaining left soql loop.cursor := by
  obtain ⟨creds, result, state, fetched, _, rfl, goesOn⟩ := syncPage_eq_ok.mp turned
  obtain ⟨body, total, rfl, within, page⟩ := fetchRecords_page counts fetched
  obtain ⟨hasMore, named⟩ := Bool.and_eq_true_iff.mp goesOn
  obtain ⟨url, isNext, nonempty⟩ := (Option.any_eq_true _ _).mp named
  have isOpen : body.done = false := by simpa [syncResult] using hasMore
  have some := List.length_pos_iff.mpr (page.holds isOpen)
  have fewer := page.leads isOpen url isNext
  have there : remaining left soql (syncResult normalize body).nextCursor = left url := by
    simp [remaining, isNext, Option.filter, nonempty]
  dsimp only
  omega

theorem syncPages_ends (counts : resource.CountsDown left)
    (enough : remaining left soql loop.cursor ≤ turns) :
    syncPages (fetchRecords resource token normalize soql) batchSize persist (turns + 1) loop ≠
      .error .unfinished := by
  intro stuck
  induction turns generalizing loop with
  | zero =>
    obtain ⟨next, turned, _⟩ := syncPages_unfinished.mp stuck
    have fewer := syncPage_remaining counts turned
    omega
  | succ turns ih =>
    obtain ⟨next, turned, later⟩ := syncPages_unfinished.mp stuck
    have fewer := syncPage_remaining counts turned
    exact ih (by omega) later

end

section

variable {σ : Type} {salesforce : Salesforce} {left : Text → Nat}

/-- No loop of a sync fetches more pages than its query may return records, and one. -/
theorem syncPages_returns (store : CrmStore σ) (platform : Platform) (config : IntegrationConfig)
    (creds : SalesforceCredentials) (state : σ) (now : Date)
    (accounts : salesforce.accounts.CountsDown left)
    (contacts : salesforce.contacts.CountsDown left)
    (opportunities : salesforce.opportunities.CountsDown left) :
    syncCRMProvider store salesforce platform config (pageSize + 1) creds state now ≠
      .error .unfinished := by
  intro stuck
  rw [syncCRMProvider] at stuck
  cases synced : syncAccounts store salesforce platform config (pageSize + 1) creds state with
  | error failure =>
    rw [synced] at stuck
    cases stuck
    exact syncPages_ends accounts (Nat.le_refl pageSize) synced
  | ok first =>
    simp only [synced, Except.bind, bind] at stuck
    cases syncedContacts : syncContacts store salesforce config (pageSize + 1) first.creds
        first.state with
    | error failure =>
      rw [syncedContacts] at stuck
      cases stuck
      exact syncPages_ends contacts (Nat.le_refl pageSize) syncedContacts
    | ok second =>
      simp only [syncedContacts] at stuck
      cases syncedOpportunities : syncOpportunities store salesforce config (pageSize + 1)
          second.creds second.state with
      | error failure =>
        rw [syncedOpportunities] at stuck
        cases stuck
        exact syncPages_ends opportunities (Nat.le_refl pageSize) syncedOpportunities
      | ok third =>
        rw [syncedOpportunities] at stuck
        cases stuck

end

end StoryEngine.Crm
