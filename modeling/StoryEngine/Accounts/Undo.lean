import StoryEngine.Accounts.MergeOutcome
import StoryEngine.Data.TimeColumns

namespace StoryEngine.Accounts

open Data Schema

/-! # Undoing a merge -/

/-- The tables of accounts and of what refers to them have the same rows. -/
structure SameRows (left right : Database) : Prop where
  accounts : ∀ row, row ∈ left.accounts ↔ row ∈ right.accounts
  contacts : ∀ row, row ∈ left.contacts ↔ row ∈ right.contacts
  accountDomains : ∀ row, row ∈ left.accountDomains ↔ row ∈ right.accountDomains
  calls : ∀ row, row ∈ left.calls ↔ row ∈ right.calls
  callParticipants : ∀ row, row ∈ left.callParticipants ↔ row ∈ right.callParticipants
  stories : ∀ row, row ∈ left.stories ↔ row ∈ right.stories
  salesforceEvents : ∀ row, row ∈ left.salesforceEvents ↔ row ∈ right.salesforceEvents
  userAccountAccess : ∀ row, row ∈ left.userAccountAccess ↔ row ∈ right.userAccountAccess

/-- What the snapshot and the lists of the run are enough for. -/
structure Reversible (cases : CaseMapping) (db : Database) (primary secondary : Account) :
    Prop where
  /-- The snapshot has no CRM identifiers, and the normalized name is computed. -/
  salesforceId : secondary.salesforceId = none
  hubspotId : secondary.hubspotId = none
  mergeAccountId : secondary.mergeAccountId = none
  normalizedName : secondary.normalizedName = Scrub.normalizeCompanyName cases secondary.name
  /-- The primary account keeps what it takes over. -/
  industry : truthy primary.industry = none → truthy secondary.industry = none
  employeeCount : primary.employeeCount = none → secondary.employeeCount = none
  annualRevenue : primary.annualRevenue = none → secondary.annualRevenue = none
  domain : ∀ domain, truthy secondary.domain = some domain →
    hasAlias db primary.id domain = true
  aliases : ∀ row ∈ db.accountDomains, row.accountId ≠ secondary.id
  contacts : ∀ contact ∈ db.contacts, contact.accountId = secondary.id →
    (emailsOf db primary.id).contains contact.email = false
  salesforceEvents : ∀ event ∈ db.salesforceEvents, event.accountId ≠ secondary.id
  userAccountAccess : ∀ grant ∈ db.userAccountAccess, grant.accountId ≠ some secondary.id

section

variable {db : Database} {primary secondary : Account} {initiatedByUserId : Option RowId}
  {notes : Option Text}

def survives (db : Database) (primary secondary : Account) (contact : Contact) : Bool :=
  !(contact.accountId == secondary.id && (emailsOf db primary.id).contains contact.email)

theorem contacts_restored (primary secondary : Account) (held : Constraints db) :
    updateWhere (merged db primary secondary).contacts
        (fun row => (movedContactIds db primary.id secondary.id).contains row.id &&
          row.accountId == primary.id)
        (fun row => { row with accountId := secondary.id }) =
      db.contacts.filter (survives db primary secondary) := by
  have moved {contact : Contact} (member : contact ∈ db.contacts) :
      (movedContactIds db primary.id secondary.id).contains contact.id =
        (!(emailsOf db primary.id).contains contact.email && contact.accountId == secondary.id) := by
    rw [movedContactIds, contactsOf, List.filter_filter]
    exact contains_keys held.primary.contacts member
  rw [merged_contacts, contactsOf, passed_filter, updateWhere, List.map_filterMap,
    ← List.filterMap_eq_filter]
  refine List.filterMap_congr fun contact member => ?_
  rw [Option.guard]
  by_cases own : contact.accountId = secondary.id
  · cases known : (emailsOf db primary.id).contains contact.email with
    | true =>
      simp only [own, beq_self_eq_true, if_true, mergedContact, known, Option.map_none, survives,
        Bool.and_self, Bool.not_true, Bool.false_eq_true, if_false]
    | false =>
      simp only [own, beq_self_eq_true, if_true, mergedContact, known, Bool.false_eq_true,
        if_false, Option.map_some, moved member, Bool.and_self, survives, Bool.and_false,
        Bool.not_false]
      rw [← own]
  · simp only [beq_eq_false_iff_ne.mpr own, Bool.false_eq_true, if_false, Option.map_some,
      moved member, Bool.and_false, Bool.false_and, survives, Bool.not_false, if_true]

theorem calls_restored (held : Constraints db) (different : primary.id ≠ secondary.id) :
    updateWhere (merged db primary secondary).calls
        (fun row => ((db.calls.filter (·.accountId == some secondary.id)).map (·.id)).contains
          row.id && row.accountId == some primary.id)
        (fun row => { row with accountId := some secondary.id }) = db.calls := by
  rw [merged_calls different]
  refine updateWhere_restore (fun call member own => ?_) fun call member other => ?_
  · have account : call.accountId = some secondary.id := by simpa using own
    refine ⟨?_, by rw [← account]⟩
    simp only [contains_keys held.primary.calls member, own, beq_self_eq_true, Bool.and_self]
  · simp only [contains_keys held.primary.calls member, other, Bool.false_and]

theorem stories_restored (primary secondary : Account) (held : Constraints db) :
    updateWhere (merged db primary secondary).stories
        (fun row => (movedStoryIds db secondary).contains row.id && row.accountId == primary.id)
        (fun row => { row with accountId := secondary.id }) = db.stories := by
  rw [merged_stories]
  refine updateWhere_restore (fun story member own => ?_) fun story member other => ?_
  · have account : story.accountId = secondary.id := by simpa using own
    refine ⟨?_, by rw [← account]⟩
    simp only [movedStoryIds, contains_keys held.primary.stories member, own, beq_self_eq_true,
      Bool.and_self]
  · simp only [movedStoryIds, contains_keys held.primary.stories member, other, Bool.false_and]

end

theorem createAccount_constraints {db : Database} {account : Account} (held : Constraints db)
    (fresh : ∀ old ∈ db.accounts, old.id ≠ account.id)
    (domain : ∀ old ∈ db.accounts, ∀ value, domainKey old = some value →
      domainKey account ≠ some value)
    (salesforceId : account.salesforceId = none) :
    Constraints { db with accounts := db.accounts ++ [account] } := by
  have ids : ∀ accountId ∈ accountIds db,
      accountId ∈ (db.accounts ++ [account]).map (·.id) := by
    intro accountId known
    rw [List.map_append]
    exact List.mem_append_left _ known
  refine ⟨{ held.primary with accounts := nodup_map_append_fresh held.primary.accounts fresh },
    { held.unique with
      domains := held.unique.domains.append domain
      salesforceIds := held.unique.salesforceIds.append fun _ _ _ _ => ?_ }, ?_⟩
  · simp [salesforceKey, salesforceId]
  · exact {
      contacts := held.foreign.contacts.wider ids
      calls := held.foreign.calls.wider ids
      salesforceEvents := held.foreign.salesforceEvents.wider ids
      stories := held.foreign.stories.wider ids
      accountDomains := held.foreign.accountDomains.wider ids
      quotes := held.foreign.quotes.wider ids
      storyRegenLogs := held.foreign.storyRegenLogs.wider ids
      userAccountAccess := held.foreign.userAccountAccess.wider ids
      participants := held.foreign.participants }

def accountRestored (cases : CaseMapping) (after : Database) (secondary : Account) : Database :=
  { after with
    accounts := after.accounts ++
      [restoredAccount cases secondary.organizationId (accountSnapshot secondary)] }

def childrenRestored (db after : Database) (primary secondary : Account) : Database :=
  { after with
    contacts := db.contacts.filter (survives db primary secondary)
    calls := db.calls
    stories := db.stories }

section

variable {cases : CaseMapping} {db after : Database} {primary secondary : Account}

variable {run : AccountMergeRun} {organizationId : RowId}

theorem recordMergeRun_constraints (held : Constraints db) :
    Constraints (recordMergeRun db run) :=
  ⟨{ held.primary with }, { held.unique with }, { held.foreign with }⟩

theorem account_before {account : Account}
    (member : account ∈ (merged db primary secondary).accounts) :
    account.id ≠ secondary.id ∧ ∃ old ∈ db.accounts, old.id = account.id ∧
      domainKey old = domainKey account := by
  rw [merged_accounts, mem_deleteWhere] at member
  refine ⟨by simpa using member.2, ?_⟩
  obtain ⟨old, inOld, ⟨_, rfl⟩ | ⟨_, rfl⟩⟩ := mem_updateWhere.mp member.1
  · exact ⟨old, inOld, rfl, rfl⟩
  · exact ⟨account, inOld, rfl, rfl⟩

@[simp] theorem restoredAccount_id :
    (restoredAccount cases organizationId (accountSnapshot secondary)).id = secondary.id := by
  simp only [restoredAccount, accountSnapshot]

theorem domainKey_restored :
    domainKey (restoredAccount cases secondary.organizationId (accountSnapshot secondary)) =
      domainKey secondary := by
  simp only [domainKey, restoredAccount, accountSnapshot]

theorem accountRestored_constraints (held : Constraints db) (current : Constraints after)
    (accounts : after.accounts = (merged db primary secondary).accounts)
    (inSecondary : secondary ∈ db.accounts) :
    Constraints (accountRestored cases after secondary) := by
  refine createAccount_constraints current (fun old member => ?_) (fun old member value known same =>
    ?_) rfl
  · rw [accounts] at member
    rw [restoredAccount_id]
    exact (account_before member).1
  · rw [accounts] at member
    rw [domainKey_restored] at same
    obtain ⟨other, row, inTable, sameId, sameKey⟩ := account_before member
    -- The secondary account had the domain before.
    have clash := (uniqueBy_iff (nodup_of_keys held.primary.accounts)).mp held.unique.domains row
      inTable secondary inSecondary value (sameKey.trans known) same
    exact other (sameId.symm.trans (congrArg Account.id clash))

theorem accountIds_restored (accounts : after.accounts = (merged db primary secondary).accounts) :
    ∀ accountId ∈ accountIds db, accountId ∈ accountIds (accountRestored cases after secondary) := by
  intro accountId known
  obtain ⟨account, member, rfl⟩ := List.mem_map.mp known
  simp only [accountIds, accountRestored, List.map_append, List.mem_append]
  by_cases isGone : account.id = secondary.id
  · exact .inr (by simp [restoredAccount, accountSnapshot, isGone])
  · refine .inl (List.mem_map.mpr ?_)
    rw [accounts, merged_accounts]
    refine ⟨_, mem_deleteWhere.mpr ⟨List.mem_map_of_mem member, ?_⟩, ?_⟩
    · split <;> simpa using isGone
    · split <;> rfl

theorem restoreContacts_constraints (held : Constraints db)
    (current : Constraints after) (ids : ∀ accountId ∈ accountIds db, accountId ∈ accountIds after)
    (contacts : (restoreContacts after run).contacts =
      db.contacts.filter (survives db primary secondary)) :
    Constraints (restoreContacts after run) := by
  have part : (restoreContacts after run).contacts.Sublist db.contacts := by
    rw [contacts]
    exact List.filter_sublist
  have sameIds : contactIds (restoreContacts after run) = contactIds after :=
    map_updateWhere fun _ => rfl
  refine ⟨{ current.primary with contacts := held.primary.contacts.sublist (part.map _) },
    { current.unique with emails := held.unique.emails.sublist (part.filterMap _) },
    { current.foreign with contacts := ?_, participants := sameIds ▸ current.foreign.participants }⟩
  exact references_iff.mpr fun row member accountId owner =>
    ids accountId (references_iff.mp held.foreign.contacts row (part.subset member) accountId owner)

theorem restoreCalls_constraints (held : Constraints db)
    (current : Constraints after) (ids : ∀ accountId ∈ accountIds db, accountId ∈ accountIds after)
    (calls : (restoreCalls after run).calls = db.calls) :
    Constraints (restoreCalls after run) :=
  ⟨{ current.primary with calls := calls ▸ held.primary.calls }, { current.unique with },
    { current.foreign with calls := calls ▸ held.foreign.calls.wider ids }⟩

theorem restoreStories_constraints (held : Constraints db)
    (current : Constraints after) (ids : ∀ accountId ∈ accountIds db, accountId ∈ accountIds after)
    (stories : (restoreStories after run).stories = db.stories) :
    Constraints (restoreStories after run) :=
  ⟨{ current.primary with stories := stories ▸ held.primary.stories }, { current.unique with },
    { current.foreign with stories := stories ▸ held.foreign.stories.wider ids }⟩

theorem mergeRun_found (fresh : FreshIds db) (run : AccountMergeRun)
    (named : run.id = (merged db primary secondary).nextId) :
    (recordMergeRun (merged db primary secondary) run).accountMergeRuns.find? (fun found =>
      found.id == run.id && found.organizationId == run.organizationId) = some run := by
  have older : db.accountMergeRuns.find? (fun found =>
      found.id == run.id && found.organizationId == run.organizationId) = none := by
    refine List.find?_eq_none.mpr fun found member same => ?_
    have sameId : found.id = run.id := by
      simp only [Bool.and_eq_true, beq_iff_eq] at same
      exact same.1
    have ahead : found.id < (merged db primary secondary).nextId :=
      Nat.lt_of_lt_of_le (fresh.accountMergeRuns found member) merged_nextId
    exact absurd (sameId.trans named) (Nat.ne_of_lt ahead)
  dsimp only [recordMergeRun]
  rw [merged_accountMergeRuns, List.find?_append, older]
  simp

theorem restoreSecondary_absent
    (held : Constraints db) (current : Constraints after)
    (accounts : after.accounts = (merged db primary secondary).accounts)
    (inSecondary : secondary ∈ db.accounts) (own : secondary.organizationId = organizationId)
    (snapshot : run.secondarySnapshot = accountSnapshot secondary) :
    restoreSecondary cases after organizationId run.secondarySnapshot =
      .ok (accountRestored cases after secondary) := by
  have absent : findAccount after (accountSnapshot secondary).id organizationId = none := by
    refine List.find?_eq_none.mpr fun account member same => ?_
    rw [accounts] at member
    simp only [accountSnapshot, Bool.and_eq_true, beq_iff_eq] at same
    exact (account_before member).1 same.1
  subst own
  rw [snapshot, restoreSecondary, absent]
  exact statement_ok (accountRestored_constraints held current accounts inSecondary)

theorem undoMerge_merged (cases : CaseMapping) (held : Constraints db) (fresh : FreshIds db)
    (current : Constraints (merged db primary secondary)) (inSecondary : secondary ∈ db.accounts)
    (organization : primary.organizationId = secondary.organizationId)
    (different : primary.id ≠ secondary.id) (initiatedByUserId undoneByUserId : Option RowId)
    (notes : Option Text) (now : Date) :
    ∃ outcome, undoMerge cases
        (recordMergeRun (merged db primary secondary)
          (mergeRun db primary secondary initiatedByUserId notes))
        primary.organizationId (merged db primary secondary).nextId undoneByUserId now =
      .ok (markUndone (childrenRestored db
        (accountRestored cases (recordMergeRun (merged db primary secondary)
          (mergeRun db primary secondary initiatedByUserId notes)) secondary) primary secondary)
        (merged db primary secondary).nextId undoneByUserId now, outcome) := by
  generalize isRun : mergeRun db primary secondary initiatedByUserId notes = run
  have named : run.id = (merged db primary secondary).nextId := by rw [← isRun, mergeRun]
  have owned : run.organizationId = primary.organizationId := by rw [← isRun, mergeRun]
  have snapshot : run.secondarySnapshot = accountSnapshot secondary := by rw [← isRun, mergeRun]
  have completed : (run.status != .undone) = true := by rw [← isRun, mergeRun]; rfl
  have found := mergeRun_found fresh run named
  rw [named, owned] at found
  generalize isBase : recordMergeRun (merged db primary secondary) run = base
  rw [isBase] at found
  have recorded : Constraints base := isBase ▸ recordMergeRun_constraints current
  have accounts : base.accounts = (merged db primary secondary).accounts := by
    rw [← isBase, recordMergeRun]
  have secondaryRestored : restoreSecondary cases base primary.organizationId
      run.secondarySnapshot = .ok (accountRestored cases base secondary) :=
    restoreSecondary_absent held recorded accounts inSecondary organization.symm snapshot
  generalize isRestored : accountRestored cases base secondary = restored at secondaryRestored ⊢
  have restoredHeld : Constraints restored :=
    isRestored ▸ accountRestored_constraints held recorded accounts inSecondary
  have ids : ∀ accountId ∈ accountIds db, accountId ∈ accountIds restored :=
    isRestored ▸ accountIds_restored accounts
  -- The three tables that come back.
  have contacts : (restoreContacts restored run).contacts =
      db.contacts.filter (survives db primary secondary) := by
    rw [← contacts_restored primary secondary held, ← isRestored, ← isBase, ← isRun]
    dsimp only [restoreContacts, accountRestored, recordMergeRun, mergeRun]
  have calls : (restoreCalls (restoreContacts restored run) run).calls = db.calls := by
    refine Eq.trans ?_ (calls_restored held different)
    rw [← isRestored, ← isBase, ← isRun]
    dsimp only [restoreCalls, restoreContacts, accountRestored, recordMergeRun, mergeRun]
  have stories : (restoreStories (restoreCalls (restoreContacts restored run) run) run).stories =
      db.stories := by
    refine Eq.trans ?_ (stories_restored primary secondary held)
    rw [← isRestored, ← isBase, ← isRun]
    dsimp only [restoreStories, restoreCalls, restoreContacts, accountRestored, recordMergeRun,
      mergeRun]
  have contactsHeld := restoreContacts_constraints held restoredHeld ids contacts
  have callsHeld := restoreCalls_constraints held contactsHeld ids calls
  have storiesHeld := restoreStories_constraints held callsHeld ids stories
  have final : restoreStories (restoreCalls (restoreContacts restored run) run) run =
      childrenRestored db restored primary secondary := by
    dsimp only [restoreStories, restoreCalls, restoreContacts] at contacts calls stories ⊢
    rw [childrenRestored, contacts, calls, stories]
  rw [final] at storiesHeld
  simp only [undoMerge, found, required, ensure, completed, if_true, secondaryRestored,
    statement_ok contactsHeld, statement_ok callsHeld, final, statement_ok storiesHeld, named, bind,
    Except.bind, pure, Except.pure]
  exact ⟨_, rfl⟩

end

theorem or_countIfMissing {own other : Option Int} :
    (countIfMissing own other).or own = own ↔ (own = none → other = none) := by
  cases own <;> simp [countIfMissing]

section

variable {cases : CaseMapping} {db : Database} {primary secondary : Account}

theorem crmUpdates_apply_eq_self :
    (crmUpdates primary secondary).apply primary = primary ↔
      (truthy primary.salesforceId = none → truthy secondary.salesforceId = none) ∧
      (truthy primary.hubspotId = none → truthy secondary.hubspotId = none) ∧
      (truthy primary.mergeAccountId = none → truthy secondary.mergeAccountId = none) ∧
      (truthy primary.industry = none → truthy secondary.industry = none) ∧
      (primary.employeeCount = none → secondary.employeeCount = none) ∧
      (primary.annualRevenue = none → secondary.annualRevenue = none) := by
  simp only [← or_textIfMissing, ← or_countIfMissing]
  constructor
  · intro same
    exact ⟨congrArg Account.salesforceId same, congrArg Account.hubspotId same,
      congrArg Account.mergeAccountId same, congrArg Account.industry same,
      congrArg Account.employeeCount same, congrArg Account.annualRevenue same⟩
  · rintro ⟨salesforceId, hubspotId, mergeAccountId, industry, employeeCount, annualRevenue⟩
    simp only [CrmUpdates.apply, crmUpdates, salesforceId, hubspotId, mergeAccountId, industry,
      employeeCount, annualRevenue]

theorem restoredAccount_eq_iff :
    restoredAccount cases secondary.organizationId (accountSnapshot secondary) = secondary ↔
      secondary.salesforceId = none ∧ secondary.hubspotId = none ∧
      secondary.mergeAccountId = none ∧
      secondary.normalizedName = Scrub.normalizeCompanyName cases secondary.name := by
  obtain ⟨id, organizationId, name, normalizedName, domain, salesforceId, hubspotId, mergeAccountId,
    industry, employeeCount, annualRevenue⟩ := secondary
  simp only [restoredAccount, accountSnapshot, Account.mk.injEq, true_and, and_true]
  constructor
  · rintro ⟨computed, noSalesforce, noHubspot, noMerge⟩
    exact ⟨noSalesforce.symm, noHubspot.symm, noMerge.symm, computed.symm⟩
  · rintro ⟨noSalesforce, noHubspot, noMerge, computed⟩
    exact ⟨computed.symm, noSalesforce.symm, noHubspot.symm, noMerge.symm⟩

def undoneAccounts (cases : CaseMapping) (db : Database) (primary secondary : Account) :
    List Account :=
  (merged db primary secondary).accounts ++
    [restoredAccount cases secondary.organizationId (accountSnapshot secondary)]

theorem undoneAccounts_same (cases : CaseMapping) (held : Constraints db) (inPrimary : primary ∈ db.accounts)
    (inSecondary : secondary ∈ db.accounts) (different : primary.id ≠ secondary.id) :
    (∀ row, row ∈ undoneAccounts cases db primary secondary ↔ row ∈ db.accounts) ↔
      (crmUpdates primary secondary).apply primary = primary ∧
      restoredAccount cases secondary.organizationId (accountSnapshot secondary) = secondary := by
  simp only [undoneAccounts, List.mem_append, List.mem_singleton, merged_accounts, mem_deleteWhere,
    beq_eq_false_iff_ne]
  constructor
  · intro same
    have updated := (same ((crmUpdates primary secondary).apply primary)).mp
      (.inl ⟨mem_updateWhere.mpr ⟨primary, inPrimary, .inl ⟨by simp, rfl⟩⟩, different⟩)
    have restored := (same _).mp (.inr rfl)
    exact ⟨eq_of_key held.primary.accounts updated inPrimary rfl,
      eq_of_key held.primary.accounts restored inSecondary restoredAccount_id⟩
  · rintro ⟨unchanged, restored⟩ row
    have table : updateWhere db.accounts (·.id == primary.id)
        (crmUpdates primary secondary).apply = db.accounts := by
      refine (List.map_congr_left fun account member => ?_).trans (List.map_id _)
      split
      · rename_i named
        rw [eq_of_key held.primary.accounts member inPrimary (by simpa using named)]
        exact unchanged
      · rfl
    rw [table, restored]
    constructor
    · rintro (⟨member, _⟩ | rfl)
      · exact member
      · exact inSecondary
    · intro member
      by_cases named : row.id = secondary.id
      · exact .inr (eq_of_key held.primary.accounts member inSecondary named)
      · exact .inl ⟨member, named⟩

theorem merged_accountDomains_same (held : Constraints db) (inPrimary : primary ∈ db.accounts)
    (inSecondary : secondary ∈ db.accounts)
    (organization : primary.organizationId = secondary.organizationId)
    (different : primary.id ≠ secondary.id) :
    (∀ row, row ∈ (merged db primary secondary).accountDomains ↔ row ∈ db.accountDomains) ↔
      (∀ domain, truthy secondary.domain = some domain → hasAlias db primary.id domain = true) ∧
      ∀ row ∈ db.accountDomains, row.accountId ≠ secondary.id := by
  constructor
  · intro same
    refine ⟨fun domain named => ?_, fun row member own => ?_⟩
    · cases known : hasAlias db primary.id domain with
      | true => rfl
      | false =>
        have other : secondary.domain ≠ primary.domain := by
          intro shared
          have own := (truthy_eq_some.mp named).1
          have clash := (uniqueBy_iff (nodup_of_keys held.primary.accounts)).mp
            held.unique.domains primary inPrimary secondary inSecondary
            (primary.organizationId, domain) (by simp [domainKey, ← shared, own])
            (by simp [domainKey, own, organization])
          exact different (congrArg Account.id clash)
        have added := (same { id := db.nextId, accountId := primary.id, domain }).mp
          ((mem_merged_accountDomains different).mpr (.inl ⟨mem_domainAdded.mpr
            (.inr ⟨domain, newDomainAlias_eq_some.mpr ⟨named, other, known⟩, rfl⟩), different⟩))
        rw [hasAlias_iff.mpr ⟨_, added, rfl, rfl⟩] at known
        cases known
    · rcases (mem_merged_accountDomains different).mp ((same row).mpr member) with
        ⟨_, elsewhere⟩ | ⟨old, _, _, changed⟩
      · exact elsewhere own
      · rw [(mergedAlias_eq_some.mp changed).2.2] at own
        exact different own
  · rintro ⟨known, none⟩ row
    rw [mem_merged_accountDomains different]
    constructor
    · rintro (⟨member, _⟩ | ⟨old, member, own, _⟩)
      · rcases mem_domainAdded.mp member with inTable | ⟨domain, added, _⟩
        · exact inTable
        · obtain ⟨named, _, unknown⟩ := newDomainAlias_eq_some.mp added
          rw [known domain named] at unknown
          cases unknown
      · exact absurd own (none old member)
    · intro member
      exact .inl ⟨mem_domainAdded.mpr (.inl member), none row member⟩

theorem contacts_same :
    (∀ row, row ∈ db.contacts.filter (survives db primary secondary) ↔ row ∈ db.contacts) ↔
      ∀ contact ∈ db.contacts, contact.accountId = secondary.id →
        (emailsOf db primary.id).contains contact.email = false := by
  simp only [List.mem_filter, and_iff_left_iff_imp, survives, Bool.not_eq_true',
    Bool.and_eq_false_imp, beq_iff_eq]

theorem updateWhere_same {ρ κ : Type} [BEq κ] [LawfulBEq κ] {rows : List ρ} {update : ρ → ρ}
    {column : ρ → κ} {gone : κ} (away : ∀ row, column (update row) ≠ gone) :
    (∀ row, row ∈ updateWhere rows (column · == gone) update ↔ row ∈ rows) ↔
      ∀ row ∈ rows, column row ≠ gone := by
  constructor
  · intro same row member
    exact updateWhere_away away row ((same row).mpr member)
  · intro none row
    rw [updateWhere_none fun row member => beq_eq_false_iff_ne.mpr (none row member)]

/-- What an undo right after the merge leaves. -/
def undoneRows (cases : CaseMapping) (db : Database) (primary secondary : Account)
    (run : AccountMergeRun) (undoneByUserId : Option RowId) (now : Date) : Database :=
  markUndone (childrenRestored db (accountRestored cases
    (recordMergeRun (merged db primary secondary) run) secondary) primary secondary)
    (merged db primary secondary).nextId undoneByUserId now

theorem sameRows_iff_reversible {run : AccountMergeRun} {undoneByUserId : Option RowId} {now : Date}
    (held : Constraints db) (inPrimary : primary ∈ db.accounts) (inSecondary : secondary ∈ db.accounts)
    (organization : primary.organizationId = secondary.organizationId)
    (different : primary.id ≠ secondary.id) :
    SameRows (undoneRows cases db primary secondary run undoneByUserId now) db ↔
      Reversible cases db primary secondary := by
  have accounts := undoneAccounts_same cases held inPrimary inSecondary different
  have aliases := merged_accountDomains_same held inPrimary inSecondary organization different
  have events : (∀ row, row ∈ updateWhere db.salesforceEvents (·.accountId == secondary.id)
      (fun event => { event with accountId := primary.id }) ↔ row ∈ db.salesforceEvents) ↔
      ∀ event ∈ db.salesforceEvents, event.accountId ≠ secondary.id :=
    updateWhere_same fun _ => different
  have grants : (∀ row, row ∈ updateWhere db.userAccountAccess (·.accountId == some secondary.id)
      (fun grant => { grant with accountId := some primary.id }) ↔ row ∈ db.userAccountAccess) ↔
      ∀ grant ∈ db.userAccountAccess, grant.accountId ≠ some secondary.id :=
    updateWhere_same fun _ => by simpa using different
  rw [crmUpdates_apply_eq_self, restoredAccount_eq_iff] at accounts
  constructor
  · rintro ⟨accountsSame, contactsSame, aliasesSame, _, _, _, eventsSame, grantsSame⟩
    dsimp only [undoneRows, markUndone, childrenRestored, accountRestored, recordMergeRun]
      at accountsSame contactsSame aliasesSame eventsSame grantsSame
    rw [merged_salesforceEvents] at eventsSame
    rw [merged_userAccountAccess different] at grantsSame
    obtain ⟨⟨_, _, _, industry, employeeCount, annualRevenue⟩, salesforceId, hubspotId,
      mergeAccountId, normalizedName⟩ := accounts.mp accountsSame
    obtain ⟨domain, noAliases⟩ := aliases.mp aliasesSame
    exact {
      salesforceId, hubspotId, mergeAccountId, normalizedName, industry, employeeCount,
      annualRevenue, domain
      aliases := noAliases
      contacts := contacts_same.mp contactsSame
      salesforceEvents := events.mp eventsSame
      userAccountAccess := grants.mp grantsSame }
  · intro reversible
    have lacking {own : Option Text} : truthy own = none → truthy none = none := fun _ => rfl
    have noDuplicates : duplicates db primary.id secondary.id = [] := by
      refine List.eq_nil_iff_forall_not_mem.mpr fun contact duplicate => ?_
      obtain ⟨member, own, known⟩ := mem_duplicates.mp duplicate
      rw [reversible.contacts contact member own] at known
      cases known
    constructor <;>
      dsimp only [undoneRows, markUndone, childrenRestored, accountRestored, recordMergeRun]
    · refine accounts.mpr ⟨⟨?_, ?_, ?_, reversible.industry, reversible.employeeCount,
        reversible.annualRevenue⟩, reversible.salesforceId, reversible.hubspotId,
        reversible.mergeAccountId, reversible.normalizedName⟩
      · rw [reversible.salesforceId]; exact lacking
      · rw [reversible.hubspotId]; exact lacking
      · rw [reversible.mergeAccountId]; exact lacking
    · exact contacts_same.mpr reversible.contacts
    · exact aliases.mpr ⟨reversible.domain, reversible.aliases⟩
    · exact fun _ => Iff.rfl
    · rw [merged_callParticipants, noDuplicates, relinked_nil]
      exact fun _ => Iff.rfl
    · exact fun _ => Iff.rfl
    · rw [merged_salesforceEvents]
      exact events.mpr reversible.salesforceEvents
    · rw [merged_userAccountAccess different]
      exact grants.mpr reversible.userAccountAccess

end

section

variable {db after : Database} {organizationId : RowId} {initiatedByUserId : Option RowId}
  {notes : Option Text} {result : MergeResult} {primary secondary : Account}

/-- What a merge and an undo right after it leave. -/
theorem undo_of_merge (cases : CaseMapping) (held : Constraints db) (fresh : FreshIds db)
    (foundPrimary : findAccount db primary.id organizationId = some primary)
    (foundSecondary : findAccount db secondary.id organizationId = some secondary)
    (different : primary.id ≠ secondary.id)
    (ran : executeMerge db organizationId primary.id secondary.id initiatedByUserId notes =
      .ok (after, result)) (undoneByUserId : Option RowId) (now : Date) :
    ∃ run outcome, after = recordMergeRun (merged db primary secondary) run ∧
      Constraints (merged db primary secondary) ∧
      undoMerge cases after organizationId result.mergeRunId undoneByUserId now =
        .ok (undoneRows cases db primary secondary run undoneByUserId now, outcome) := by
  obtain ⟨inPrimary, _, own⟩ := (findAccount_eq_some held).mp foundPrimary
  obtain ⟨inSecondary, _, sameOrganization⟩ := (findAccount_eq_some held).mp foundSecondary
  have organization := own.trans sameOrganization.symm
  obtain ⟨fits, ended⟩ := (executeMerge_found held fresh foundPrimary foundSecondary different).mp ran
  obtain ⟨rfl, rfl⟩ := Prod.mk.inj ended
  have current := fits.constraints held fresh inPrimary inSecondary organization different
  obtain ⟨outcome, undone⟩ := undoMerge_merged cases held fresh current inSecondary organization
    different initiatedByUserId undoneByUserId notes now
  rw [own] at undone
  exact ⟨_, outcome, rfl, current, undone⟩

end

/-! ## With the time columns -/

/-- The time columns of the tables that have both, by the row's id.  `generatedAt` is that of a story's
creation. -/
structure TimeColumns where
  accounts : RowId → Stamp Date
  contacts : RowId → Stamp Date
  calls : RowId → Stamp Date
  stories : RowId → Stamp Date
  userAccountAccess : RowId → Stamp Date

structure TimedDatabase where
  rows : Database
  times : TimeColumns

/-- `@default(now())` and `@updatedAt`.  Every write of a merge and of an undo changes its row. -/
def TimedDatabase.commit (before : TimedDatabase) (after : Database) (now : Date) :
    TimedDatabase where
  rows := after
  times := {
    accounts := stamped (·.id) before.rows.accounts after.accounts now before.times.accounts
    contacts := stamped (·.id) before.rows.contacts after.contacts now before.times.contacts
    calls := stamped (·.id) before.rows.calls after.calls now before.times.calls
    stories := stamped (·.id) before.rows.stories after.stories now before.times.stories
    userAccountAccess := stamped (·.id) before.rows.userAccountAccess after.userAccountAccess now
      before.times.userAccountAccess }

def executeMergeAt (now : Date) (before : TimedDatabase)
    (organizationId primaryAccountId secondaryAccountId : RowId)
    (initiatedByUserId : Option RowId) (notes : Option Text) :
    Except MergeError (TimedDatabase × MergeResult) := do
  let (after, result) ← executeMerge before.rows organizationId primaryAccountId secondaryAccountId
    initiatedByUserId notes
  return (before.commit after now, result)

def undoMergeAt (cases : CaseMapping) (before : TimedDatabase) (organizationId mergeRunId : RowId)
    (undoneByUserId : Option RowId) (now : Date) :
    Except MergeError (TimedDatabase × UndoResult) := do
  let (after, outcome) ← undoMerge cases before.rows organizationId mergeRunId undoneByUserId now
  return (before.commit after now, outcome)

/-- The rows are the same, their time columns included. -/
structure SameTimedRows (left right : TimedDatabase) : Prop where
  rows : SameRows left.rows right.rows
  accounts : ∀ row ∈ right.rows.accounts, left.times.accounts row.id = right.times.accounts row.id
  contacts : ∀ row ∈ right.rows.contacts, left.times.contacts row.id = right.times.contacts row.id
  calls : ∀ row ∈ right.rows.calls, left.times.calls row.id = right.times.calls row.id
  stories : ∀ row ∈ right.rows.stories, left.times.stories row.id = right.times.stories row.id
  userAccountAccess : ∀ row ∈ right.rows.userAccountAccess,
    left.times.userAccountAccess row.id = right.times.userAccountAccess row.id

/-- The secondary account was created, and it and what it has were last written, at that time. -/
structure WrittenAt (db : TimedDatabase) (secondary : Account) (now : Date) : Prop where
  account : db.times.accounts secondary.id = { createdAt := now, updatedAt := now }
  contacts : ∀ contact ∈ db.rows.contacts, contact.accountId = secondary.id →
    (db.times.contacts contact.id).updatedAt = now
  calls : ∀ call ∈ db.rows.calls, call.accountId = some secondary.id →
    (db.times.calls call.id).updatedAt = now
  stories : ∀ story ∈ db.rows.stories, story.accountId = secondary.id →
    (db.times.stories story.id).updatedAt = now

section

variable {cases : CaseMapping} {db after undone : TimedDatabase} {primary secondary : Account}
  {run : AccountMergeRun} {undoneByUserId : Option RowId} {merging now : Date}

theorem accountTimes_back_iff (held : Constraints db.rows)
    (current : Constraints (merged db.rows primary secondary))
    (inSecondary : secondary ∈ db.rows.accounts)
    (same : ∀ row, row ∈ undoneAccounts cases db.rows primary secondary ↔ row ∈ db.rows.accounts) :
    (∀ row ∈ db.rows.accounts,
      stamped (·.id) (merged db.rows primary secondary).accounts
          (undoneAccounts cases db.rows primary secondary) now
        (stamped (·.id) db.rows.accounts (merged db.rows primary secondary).accounts merging
          db.times.accounts) row.id = db.times.accounts row.id) ↔
      db.times.accounts secondary.id = { createdAt := now, updatedAt := now } := by
  have found {row : Account} (member : row ∈ db.rows.accounts) :=
    find_same held.primary.accounts (fun row => (same row).mp) member ((same row).mpr member)
  have created {stamps : RowId → Stamp Date} :
      stamped (·.id) (merged db.rows primary secondary).accounts
        (undoneAccounts cases db.rows primary secondary) now stamps secondary.id =
          { createdAt := now, updatedAt := now } :=
    stamped_created (found inSecondary) fun old member => (account_before member).1
  constructor
  · intro restored
    rw [← restored secondary inSecondary]
    exact created
  · intro written row member
    by_cases named : row.id = secondary.id
    · rw [named, written]
      exact created
    · have inMiddle : row ∈ (merged db.rows primary secondary).accounts := by
        rcases List.mem_append.mp ((same row).mpr member) with inMerged | last
        · exact inMerged
        · rw [List.mem_singleton.mp last, restoredAccount_id] at named
          exact absurd rfl named
      rw [stamped_kept (found member) inMiddle,
        stamped_kept ((find?_key_eq_some current.primary.accounts).mpr ⟨inMiddle, rfl⟩) member]

theorem contactTimes_back_iff (held : Constraints db.rows)
    (current : Constraints (merged db.rows primary secondary)) (different : primary.id ≠ secondary.id)
    (reversible : Reversible cases db.rows primary secondary) {contacts : List Contact}
    (same : ∀ row, row ∈ contacts ↔ row ∈ db.rows.contacts) :
    (∀ row ∈ db.rows.contacts, stamped (·.id) (merged db.rows primary secondary).contacts contacts now
      (stamped (·.id) db.rows.contacts (merged db.rows primary secondary).contacts merging
        db.times.contacts) row.id = db.times.contacts row.id) ↔
      ∀ contact ∈ db.rows.contacts, contact.accountId = secondary.id →
        (db.times.contacts contact.id).updatedAt = now := by
  refine (stamps_back_iff (·.accountId == secondary.id) held.primary.contacts
    current.primary.contacts same (fun row member other => ?_) fun row member own =>
      ⟨fun inMiddle => ?_, ?_⟩).trans ?_
  · exact mem_merged_contacts.mpr (.inl ⟨member, by simpa using other⟩)
  · rcases mem_merged_contacts.mp inMiddle with ⟨_, other⟩ | ⟨old, _, _, changed⟩
    · exact other (by simpa using own)
    · obtain ⟨_, rfl⟩ := mergedContact_eq_some.mp changed
      exact different (by simpa using own)
  · have account : row.accountId = secondary.id := by simpa using own
    refine ⟨{ row with accountId := primary.id }, mem_merged_contacts.mpr (.inr ⟨row, member, account,
      ?_⟩), rfl⟩
    exact mergedContact_eq_some.mpr ⟨reversible.contacts row member account, rfl⟩
  · simp only [beq_iff_eq]

theorem callTimes_back_iff (held : Constraints db.rows) (different : primary.id ≠ secondary.id) :
    (∀ row ∈ db.rows.calls, stamped (·.id) (merged db.rows primary secondary).calls db.rows.calls now
      (stamped (·.id) db.rows.calls (merged db.rows primary secondary).calls merging db.times.calls)
        row.id = db.times.calls row.id) ↔
      ∀ call ∈ db.rows.calls, call.accountId = some secondary.id →
        (db.times.calls call.id).updatedAt = now := by
  rw [merged_calls different]
  refine (stamps_moved_iff (·.accountId == some secondary.id)
    (fun call => { call with accountId := some primary.id }) held.primary.calls (fun _ => rfl)
    (fun _ => by simpa using different) fun _ => Iff.rfl).trans ?_
  simp only [beq_iff_eq]

theorem storyTimes_back_iff (held : Constraints db.rows) (different : primary.id ≠ secondary.id) :
    (∀ row ∈ db.rows.stories, stamped (·.id) (merged db.rows primary secondary).stories
        db.rows.stories now
      (stamped (·.id) db.rows.stories (merged db.rows primary secondary).stories merging
        db.times.stories) row.id = db.times.stories row.id) ↔
      ∀ story ∈ db.rows.stories, story.accountId = secondary.id →
        (db.times.stories story.id).updatedAt = now := by
  rw [merged_stories]
  refine (stamps_moved_iff (·.accountId == secondary.id)
    (fun story => { story with accountId := primary.id }) held.primary.stories (fun _ => rfl)
    (fun _ => by simpa using different) fun _ => Iff.rfl).trans ?_
  simp only [beq_iff_eq]

theorem grantTimes_back (held : Constraints db.rows) (different : primary.id ≠ secondary.id)
    (none : ∀ grant ∈ db.rows.userAccountAccess, grant.accountId ≠ some secondary.id) :
    ∀ row ∈ db.rows.userAccountAccess, stamped (·.id)
        (merged db.rows primary secondary).userAccountAccess
        (merged db.rows primary secondary).userAccountAccess now
      (stamped (·.id) db.rows.userAccountAccess (merged db.rows primary secondary).userAccountAccess
        merging db.times.userAccountAccess) row.id = db.times.userAccountAccess row.id := by
  intro row member
  have same : (merged db.rows primary secondary).userAccountAccess = db.rows.userAccountAccess := by
    rw [merged_userAccountAccess different]
    exact updateWhere_none fun grant member => beq_eq_false_iff_ne.mpr (none grant member)
  have found := (find?_key_eq_some held.primary.userAccountAccess).mpr ⟨member, rfl⟩
  rw [same, stamped_kept found member, stamped_kept found member]

theorem sameTimedRows_iff (held : Constraints db.rows)
    (current : Constraints (merged db.rows primary secondary)) (inPrimary : primary ∈ db.rows.accounts)
    (inSecondary : secondary ∈ db.rows.accounts)
    (organization : primary.organizationId = secondary.organizationId)
    (different : primary.id ≠ secondary.id) :
    SameTimedRows ((db.commit (recordMergeRun (merged db.rows primary secondary) run) merging).commit
        (undoneRows cases db.rows primary secondary run undoneByUserId now) now) db ↔
      Reversible cases db.rows primary secondary ∧ WrittenAt db secondary now := by
  have rowsSame : SameRows (undoneRows cases db.rows primary secondary run undoneByUserId now) db.rows ↔
      Reversible cases db.rows primary secondary :=
    sameRows_iff_reversible held inPrimary inSecondary organization different
  constructor
  · intro same
    have reversible := rowsSame.mp same.rows
    exact ⟨reversible,
      (accountTimes_back_iff held current inSecondary same.rows.accounts).mp same.accounts,
      (contactTimes_back_iff held current different reversible same.rows.contacts).mp same.contacts,
      (callTimes_back_iff held different).mp same.calls,
      (storyTimes_back_iff held different).mp same.stories⟩
  · rintro ⟨reversible, written⟩
    have rows := rowsSame.mpr reversible
    exact {
      rows
      accounts := (accountTimes_back_iff held current inSecondary rows.accounts).mpr written.account
      contacts := (contactTimes_back_iff held current different reversible rows.contacts).mpr
        written.contacts
      calls := (callTimes_back_iff held different).mpr written.calls
      stories := (storyTimes_back_iff held different).mpr written.stories
      userAccountAccess := grantTimes_back held different reversible.userAccountAccess }

end

/-- A merge that succeeds can be undone at once.  The undo gives all rows back exactly when the
snapshot and the lists of the run say everything and the rows that it writes had its time before. -/
theorem undo_restores_iff_reversible {db after : TimedDatabase} {organizationId : RowId}
    {initiatedByUserId : Option RowId} {notes : Option Text} {result : MergeResult} {merging : Date}
    (cases : CaseMapping) (primary secondary : Account) (held : Constraints db.rows)
    (fresh : FreshIds db.rows)
    (foundPrimary : findAccount db.rows primary.id organizationId = some primary)
    (foundSecondary : findAccount db.rows secondary.id organizationId = some secondary)
    (different : primary.id ≠ secondary.id)
    (ran : executeMergeAt merging db organizationId primary.id secondary.id initiatedByUserId notes =
      .ok (after, result)) (undoneByUserId : Option RowId) (now : Date) :
    (∃ undone outcome, undoMergeAt cases after organizationId result.mergeRunId undoneByUserId now =
      .ok (undone, outcome) ∧ SameTimedRows undone db) ↔
      Reversible cases db.rows primary secondary ∧ WrittenAt db secondary now := by
  obtain ⟨inPrimary, _, own⟩ := (findAccount_eq_some held).mp foundPrimary
  obtain ⟨inSecondary, _, sameOrganization⟩ := (findAccount_eq_some held).mp foundSecondary
  obtain ⟨⟨rows, _⟩, merge, ended⟩ := bind_eq_ok.mp ran
  obtain ⟨rfl, rfl⟩ := Prod.mk.inj (Except.ok.inj ended)
  obtain ⟨run, outcome, rfl, current, undo⟩ := undo_of_merge cases held fresh foundPrimary
    foundSecondary different merge undoneByUserId now
  have restored := congrArg (· >>= fun (after, outcome) => pure
    ((db.commit (recordMergeRun (merged db.rows primary secondary) run) merging).commit after now,
      outcome)) undo
  rw [undoMergeAt]
  dsimp only [TimedDatabase.commit] at restored ⊢
  rw [restored, ← sameTimedRows_iff held current inPrimary inSecondary
    (own.trans sameOrganization.symm) different]
  constructor
  · rintro ⟨_, _, same, rows⟩
    obtain ⟨rfl, _⟩ := Prod.mk.inj (Except.ok.inj same)
    exact rows
  · intro rows
    exact ⟨_, outcome, rfl, rows⟩

def officeWithoutDomain : Account := { acmeEurope with domain := none }

def reversibleOffices : Database :=
  { twoOffices with accounts := [acme, officeWithoutDomain] }

/-- All rows were created at that time. -/
def createdAt (rows : Database) (now : Date) : TimedDatabase where
  rows
  times := {
    accounts := fun _ => ⟨now, now⟩
    contacts := fun _ => ⟨now, now⟩
    calls := fun _ => ⟨now, now⟩
    stories := fun _ => ⟨now, now⟩
    userAccountAccess := fun _ => ⟨now, now⟩ }

theorem merged_office_comes_back :
    ∃ after result, executeMergeAt 9 (createdAt reversibleOffices 9) 1 10 11 (some 5) none =
      .ok (after, result) ∧
      ∃ undone outcome, undoMergeAt .ascii after 1 result.mergeRunId (some 5) 9 =
        .ok (undone, outcome) ∧ SameTimedRows undone (createdAt reversibleOffices 9) := by
  have commits : (executeMerge reversibleOffices 1 10 11 (some 5) none).toOption.isSome = true := by
    decide +kernel
  obtain ⟨⟨after, result⟩, known⟩ := Option.isSome_iff_exists.mp commits
  have ran : executeMergeAt 9 (createdAt reversibleOffices 9) 1 10 11 (some 5) none =
      .ok ((createdAt reversibleOffices 9).commit after 9, result) :=
    bind_eq_ok.mpr ⟨_, toOption_eq_some.mp known, rfl⟩
  refine ⟨_, result, ran, ?_⟩
  refine (undo_restores_iff_reversible .ascii acme officeWithoutDomain (by decide +kernel)
    ⟨by decide, by decide⟩ rfl rfl (by decide) ran (some 5) 9).mpr ⟨?_, ?_⟩
  · exact {
      salesforceId := rfl
      hubspotId := rfl
      mergeAccountId := rfl
      normalizedName := by decide +kernel
      industry := by decide
      employeeCount := by decide
      annualRevenue := by decide
      domain := by intro domain named; cases named
      aliases := by decide
      contacts := by decide
      salesforceEvents := by decide
      userAccountAccess := by decide }
  · exact ⟨rfl, fun _ _ _ => rfl, fun _ _ _ => rfl, fun _ _ _ => rfl⟩

/-- The alias that the merge added for the second office stays after the undo. -/
theorem undo_leaves_added_alias :
    Constraints twoOffices ∧ FreshIds twoOffices ∧
    ∃ after result, executeMerge twoOffices 1 10 11 (some 5) none = .ok (after, result) ∧
      ∃ undone outcome, undoMerge .ascii after 1 result.mergeRunId (some 5) 9 =
        .ok (undone, outcome) ∧ ¬SameRows undone twoOffices := by
  refine ⟨by decide +kernel, ⟨by decide, by decide⟩, ?_⟩
  have left : ((executeMerge twoOffices 1 10 11 (some 5) none).toOption.bind fun merge =>
      (undoMerge .ascii merge.1 1 merge.2.mergeRunId (some 5) 9).toOption.map
        (·.1.accountDomains)) =
      some [{ id := 100, accountId := 10, domain := "acme.eu".toList }] := by
    decide +kernel
  obtain ⟨⟨after, result⟩, merged, undo⟩ := Option.bind_eq_some_iff.mp left
  obtain ⟨⟨undone, outcome⟩, ran, aliases⟩ := Option.map_eq_some_iff.mp undo
  refine ⟨after, result, toOption_eq_some.mp merged, undone, outcome, toOption_eq_some.mp ran,
    fun same => ?_⟩
  have before := (same.accountDomains { id := 100, accountId := 10, domain := "acme.eu".toList }).mp
    (by rw [aliases]; exact List.mem_singleton.mpr rfl)
  cases before

end StoryEngine.Accounts
