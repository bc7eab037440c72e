import StoryEngine.Accounts.MergeEffects

namespace StoryEngine.Accounts

open Data Schema

/-! # The merge as a whole

The statements of `executeMerge` leave the tables that one expression gives, and
only three of them can violate a constraint.
-/

theorem findAccount_eq_some {db : Database} {accountId organizationId : RowId} {account : Account}
    (held : Constraints db) :
    findAccount db accountId organizationId = some account ↔
      account ∈ db.accounts ∧ account.id = accountId ∧ account.organizationId = organizationId := by
  constructor
  · intro found
    have criterion := List.find?_some found
    simp only [Bool.and_eq_true, beq_iff_eq] at criterion
    exact ⟨List.mem_of_find?_eq_some found, criterion.1, criterion.2⟩
  · rintro ⟨member, rfl, rfl⟩
    unfold findAccount
    cases found : db.accounts.find? _ with
    | none =>
      have absent := List.find?_eq_none.mp found account member
      simp at absent
    | some other =>
      have criterion := List.find?_some found
      simp only [Bool.and_eq_true, beq_iff_eq] at criterion
      rw [eq_of_key held.primary.accounts (List.mem_of_find?_eq_some found) member criterion.1]

@[simp] theorem CrmUpdates.apply_empty (account : Account) :
    CrmUpdates.apply {} account = account := rfl

@[simp] theorem CrmUpdates.apply_id (updates : CrmUpdates) (account : Account) :
    (updates.apply account).id = account.id := rfl

@[simp] theorem updateAccount_empty (db : Database) (accountId : RowId) :
    updateAccount db accountId (CrmUpdates.apply {}) = db := by
  have same : updateWhere db.accounts (·.id == accountId) (CrmUpdates.apply {}) = db.accounts := by
    simp [updateWhere]
  simp only [updateAccount, same]

def identifiersMerged (db : Database) (primary secondary : Account) : Database :=
  updateAccount db primary.id (crmUpdates primary secondary).apply

theorem mergeCrmIdentifiers_eq_ok {db next : Database} {primary secondary : Account}
    (held : Constraints db) :
    mergeCrmIdentifiers db primary secondary = .ok next ↔
      Constraints (identifiersMerged db primary secondary) ∧
        next = identifiersMerged db primary secondary := by
  unfold mergeCrmIdentifiers identifiersMerged
  by_cases nothing : crmUpdates primary secondary = {}
  · simp only [nothing, if_true, updateAccount_empty, pure_eq_ok]
    exact ⟨fun same => ⟨held, same.symm⟩, fun both => both.2.symm⟩
  · simp only [nothing, if_false]
    exact statement_eq_ok

theorem textIfMissing_eq_some {own other : Option Text} {value : Text} :
    textIfMissing own other = some value ↔ truthy own = none ∧ truthy other = some value := by
  unfold textIfMissing
  cases truthy own <;> simp

theorem textIfMissing_eq_none {own other : Option Text} :
    textIfMissing own other = none ↔ (truthy own = none → truthy other = none) := by
  unfold textIfMissing
  cases truthy own <;> simp

theorem or_textIfMissing {own other : Option Text} :
    (textIfMissing own other).or own = own ↔ (truthy own = none → truthy other = none) := by
  rw [← textIfMissing_eq_none]
  cases copied : textIfMissing own other with
  | none => simp
  | some value =>
    obtain ⟨missing, present⟩ := textIfMissing_eq_some.mp copied
    have nonempty := (truthy_eq_some.mp present).2
    simp only [Option.some_or, reduceCtorEq, iff_false]
    intro same
    rw [← same, truthy_eq_some.mpr ⟨rfl, nonempty⟩] at missing
    cases missing

theorem identifiersMerged_constraints {db : Database} {primary secondary : Account}
    (held : Constraints db) (inPrimary : primary ∈ db.accounts) (inSecondary : secondary ∈ db.accounts)
    (organization : primary.organizationId = secondary.organizationId)
    (different : primary.id ≠ secondary.id) :
    Constraints (identifiersMerged db primary secondary) ↔
      (truthy primary.salesforceId = none → truthy secondary.salesforceId = none) := by
  rw [← textIfMissing_eq_none]
  have ids : accountIds (identifiersMerged db primary secondary) = accountIds db :=
    map_updateWhere fun _ => rfl
  constructor
  · intro after
    cases copied : textIfMissing primary.salesforceId secondary.salesforceId with
    | none => rfl
    | some value =>
      have owned := (truthy_eq_some.mp (textIfMissing_eq_some.mp copied).2).1
      have updated : (crmUpdates primary secondary).apply primary ∈
          (identifiersMerged db primary secondary).accounts :=
        mem_updateWhere.mpr ⟨primary, inPrimary, .inl ⟨by simp, rfl⟩⟩
      have stays : secondary ∈ (identifiersMerged db primary secondary).accounts :=
        mem_updateWhere.mpr ⟨secondary, inSecondary, .inr ⟨by simp [different.symm], rfl⟩⟩
      have clash := (uniqueBy_iff (nodup_of_keys after.primary.accounts)).mp
        after.unique.salesforceIds _ updated secondary stays (primary.organizationId, value)
        (by simp [salesforceKey, CrmUpdates.apply, crmUpdates, copied])
        (by simp [salesforceKey, owned, organization])
      exact absurd (congrArg Account.id clash) different
  · intro nothing
    have domains (account : Account) :
        domainKey ((crmUpdates primary secondary).apply account) = domainKey account := rfl
    have salesforceIds (account : Account) :
        salesforceKey ((crmUpdates primary secondary).apply account) = salesforceKey account := by
      simp [salesforceKey, CrmUpdates.apply, crmUpdates, nothing]
    refine ⟨{ held.primary with accounts := nodup_updateWhere (fun _ => rfl) held.primary.accounts },
      { held.unique with
        domains := held.unique.domains.updateWhere domains
        salesforceIds := held.unique.salesforceIds.updateWhere salesforceIds }, ?_⟩
    exact {
      contacts := ids ▸ held.foreign.contacts
      calls := ids ▸ held.foreign.calls
      salesforceEvents := ids ▸ held.foreign.salesforceEvents
      stories := ids ▸ held.foreign.stories
      accountDomains := ids ▸ held.foreign.accountDomains
      quotes := ids ▸ held.foreign.quotes
      storyRegenLogs := ids ▸ held.foreign.storyRegenLogs
      userAccountAccess := ids ▸ held.foreign.userAccountAccess
      participants := held.foreign.participants }

theorem deleteAccount_constraints {db : Database} {fromId : RowId} (held : Constraints db)
    (contacts : ∀ row ∈ db.contacts, row.accountId ≠ fromId)
    (events : ∀ row ∈ db.salesforceEvents, row.accountId ≠ fromId)
    (stories : ∀ row ∈ db.stories, row.accountId ≠ fromId) :
    Constraints (deleteAccount db fromId) ↔ ∀ row ∈ db.storyRegenLogs, row.accountId ≠ fromId := by
  have remaining (accountId : RowId) :
      accountId ∈ accountIds (deleteAccount db fromId) ↔
        accountId ∈ accountIds db ∧ accountId ≠ fromId := by
    simp only [accountIds, deleteAccount, List.mem_map, mem_deleteWhere, beq_eq_false_iff_ne]
    constructor
    · rintro ⟨account, ⟨member, other⟩, rfl⟩
      exact ⟨⟨account, member, rfl⟩, other⟩
    · rintro ⟨⟨account, member, rfl⟩, other⟩
      exact ⟨account, ⟨member, other⟩, rfl⟩
  have stays : ∀ accountId ∈ accountIds db, accountId ≠ fromId →
      accountId ∈ accountIds (deleteAccount db fromId) :=
    fun accountId known other => (remaining accountId).mpr ⟨known, other⟩
  constructor
  · intro after row member isGone
    exact ((remaining row.accountId).mp
      (references_iff.mp after.foreign.storyRegenLogs row member row.accountId rfl)).2 isGone
  · intro logs
    have apart {column : RowId} (other : column ≠ fromId) : some column ≠ some fromId :=
      fun same => other (Option.some.inj same)
    refine ⟨{ held.primary with
        accounts := nodup_deleteWhere held.primary.accounts
        calls := nodup_updateWhere (fun _ => rfl) held.primary.calls
        userAccountAccess := nodup_updateWhere (fun _ => rfl) held.primary.userAccountAccess
        accountDomains := nodup_deleteWhere held.primary.accountDomains
        quotes := nodup_deleteWhere held.primary.quotes },
      { held.unique with
        domains := held.unique.domains.deleteWhere
        salesforceIds := held.unique.salesforceIds.deleteWhere
        aliases := held.unique.aliases.deleteWhere }, ?_⟩
    exact {
      contacts := held.foreign.contacts.fewer (fun row member => apart (contacts row member)) stays
      calls := References.fewer
        (held.foreign.calls.updateWhere fun _ => .inr (by simp))
        (updateWhere_away fun _ => by simp) stays
      salesforceEvents := held.foreign.salesforceEvents.fewer
        (fun row member => apart (events row member)) stays
      stories := held.foreign.stories.fewer (fun row member => apart (stories row member)) stays
      accountDomains := held.foreign.accountDomains.deleteWhere.fewer
        (fun row member => apart (by simpa using (mem_deleteWhere.mp member).2)) stays
      quotes := held.foreign.quotes.deleteWhere.fewer
        (fun row member => apart (by simpa using (mem_deleteWhere.mp member).2)) stays
      storyRegenLogs := held.foreign.storyRegenLogs.fewer
        (fun row member => apart (logs row member)) stays
      userAccountAccess := References.fewer
        (held.foreign.userAccountAccess.updateWhere fun _ => .inr (by simp))
        (updateWhere_away fun _ => by simp) stays
      participants := held.foreign.participants }

def duplicates (db : Database) (toId fromId : RowId) : List Contact :=
  (contactsOf db fromId).filter fun contact => (emailsOf db toId).contains contact.email

section

variable (db : Database) (primary secondary : Account)

def childrenMoved : Database :=
  moveStories
    (moveCalls (contactsMerged db primary.id secondary.id fun _ => none) secondary.id primary.id)
    secondary.id primary.id

def rowsMoved : Database :=
  moveUserAccess
    (moveSalesforceEvents (childrenMoved db primary secondary) secondary.id primary.id)
    secondary.id primary.id

def domainsMerged : Database :=
  aliasesMerged (domainAdded (rowsMoved db primary secondary) primary secondary) primary
    secondary.id

def merged : Database :=
  deleteAccount (identifiersMerged (domainsMerged db primary secondary) primary secondary)
    secondary.id

structure MergeFits : Prop where
  events : EventsApart db primary.id secondary.id
  identifiers : truthy primary.salesforceId = none → truthy secondary.salesforceId = none
  logs : ∀ row ∈ db.storyRegenLogs, row.accountId ≠ secondary.id

def movedStoryIds : List RowId :=
  (db.stories.filter (·.accountId == secondary.id)).map (·.id)

/-- The run that `executeMerge` records. -/
def mergeRun (initiatedByUserId : Option RowId) (notes : Option Text) : AccountMergeRun where
  id := (merged db primary secondary).nextId
  organizationId := primary.organizationId
  primaryAccountId := primary.id
  secondaryAccountId := secondary.id
  secondarySnapshot := accountSnapshot secondary
  movedContactIds := movedContactIds db primary.id secondary.id
  movedCallIds := (db.calls.filter (·.accountId == some secondary.id)).map (·.id)
  movedStoryIds := movedStoryIds db secondary
  movedLandingPageIds := (db.landingPages.filter fun page =>
    page.organizationId == primary.organizationId &&
      (movedStoryIds db secondary).contains page.storyId).map (·.id)
  initiatedByUserId
  notes

def mergeResult : MergeResult where
  primaryAccountId := primary.id
  deletedAccountId := secondary.id
  mergeRunId := (merged db primary secondary).nextId
  contactsMoved := (movedContactIds db primary.id secondary.id).length
  callsMoved := ((db.calls.filter (·.accountId == some secondary.id)).map (·.id)).length
  storiesMoved := (movedStoryIds db secondary).length
  landingPagesMoved := ((db.landingPages.filter fun page =>
    page.organizationId == primary.organizationId &&
      (movedStoryIds db secondary).contains page.storyId).map (·.id)).length
  domainAliasesAdded := (newDomainAlias db primary secondary).toList ++
    movedAliases (domainAdded (rowsMoved db primary secondary) primary secondary) primary
      (aliasesOf (domainAdded (rowsMoved db primary secondary) primary secondary) secondary.id)

end

section

variable {db : Database} {primary secondary : Account}

theorem domainAdded_frame (db : Database) (primary secondary : Account) :
    ∃ nextId accountDomains,
      domainAdded db primary secondary = { db with nextId, accountDomains } := by
  unfold domainAdded
  split
  · exact ⟨db.nextId, db.accountDomains, rfl⟩
  · exact ⟨_, _, rfl⟩

theorem childrenMoved_constraints (held : Constraints db) (known : primary.id ∈ accountIds db) :
    Constraints (childrenMoved db primary secondary) := by
  have contacts : Constraints (contactsMerged db primary.id secondary.id fun _ => none) :=
    contactsState_constraints held known
      (fun _ member => by simpa using (List.mem_filter.mp member).2) fun _ member => member
  have calls : Constraints (moveCalls (contactsMerged db primary.id secondary.id fun _ => none)
      secondary.id primary.id) := moveCalls_constraints contacts known
  exact moveStories_constraints calls known

theorem rowsMoved_constraints (held : Constraints db) (known : primary.id ∈ accountIds db)
    (different : primary.id ≠ secondary.id) (apart : EventsApart db primary.id secondary.id) :
    Constraints (rowsMoved db primary secondary) := by
  have events : Constraints
      (moveSalesforceEvents (childrenMoved db primary secondary) secondary.id primary.id) :=
    (moveSalesforceEvents_constraints (childrenMoved_constraints held known) known different).mpr
      apart
  exact moveUserAccess_constraints events known

theorem rowsMoved_eq (db : Database) (primary secondary : Account) :
    rowsMoved db primary secondary =
      { db with
        contacts := passed (mergedContact primary.id (emailsOf db primary.id))
          (contactsOf db secondary.id) db.contacts
        callParticipants := relinked (fun _ => none) (duplicates db primary.id secondary.id)
          db.callParticipants
        calls := updateWhere db.calls (·.accountId == some secondary.id) fun call =>
          { call with accountId := some primary.id }
        stories := updateWhere db.stories (·.accountId == secondary.id) fun story =>
          { story with accountId := primary.id }
        salesforceEvents := updateWhere db.salesforceEvents (·.accountId == secondary.id)
          fun event => { event with accountId := primary.id }
        userAccountAccess := updateWhere db.userAccountAccess (·.accountId == some secondary.id)
          fun grant => { grant with accountId := some primary.id } } := by
  dsimp only [rowsMoved, childrenMoved, moveUserAccess, moveSalesforceEvents, moveStories, moveCalls,
    contactsMerged, contactsState, duplicates]

theorem rowsMoved_accountIds : accountIds (rowsMoved db primary secondary) = accountIds db := by
  rw [rowsMoved_eq, accountIds, accountIds]

theorem rowsMoved_fresh (fresh : FreshIds db) :
    ∀ row ∈ (rowsMoved db primary secondary).accountDomains,
      row.id < (rowsMoved db primary secondary).nextId := by
  rw [rowsMoved_eq]
  exact fresh.accountDomains

theorem domainAdded_accountIds : accountIds (domainAdded db primary secondary) = accountIds db := by
  obtain ⟨nextId, accountDomains, same⟩ := domainAdded_frame db primary secondary
  rw [same, accountIds, accountIds]

theorem domainsMerged_frame (db : Database) (primary secondary : Account) :
    ∃ nextId accountDomains,
      domainsMerged db primary secondary =
        { rowsMoved db primary secondary with nextId, accountDomains } := by
  obtain ⟨nextId, accountDomains, same⟩ :=
    domainAdded_frame (rowsMoved db primary secondary) primary secondary
  exact ⟨nextId, _, by rw [domainsMerged, aliasesMerged, aliasesState, same]⟩

theorem domainsMerged_constraints (held : Constraints (rowsMoved db primary secondary))
    (known : primary.id ∈ accountIds db) (fresh : FreshIds db) :
    Constraints (domainsMerged db primary secondary) := by
  rw [← rowsMoved_accountIds] at known
  refine aliasesMerged_constraints (domainAdded_constraints held known (rowsMoved_fresh fresh)) ?_
  rwa [domainAdded_accountIds]

theorem identifiersMerged_frame (db : Database) (primary secondary : Account) :
    ∃ nextId accountDomains,
      identifiersMerged (domainsMerged db primary secondary) primary secondary =
        { rowsMoved db primary secondary with
          nextId, accountDomains
          accounts := updateWhere db.accounts (·.id == primary.id)
            (crmUpdates primary secondary).apply } := by
  obtain ⟨nextId, accountDomains, same⟩ := domainsMerged_frame db primary secondary
  refine ⟨nextId, accountDomains, ?_⟩
  rw [same, rowsMoved_eq]
  dsimp only [identifiersMerged, updateAccount]

theorem merged_constraints (held : Constraints (identifiersMerged (domainsMerged db primary secondary)
      primary secondary)) (different : primary.id ≠ secondary.id) :
    Constraints (merged db primary secondary) ↔
      ∀ row ∈ db.storyRegenLogs, row.accountId ≠ secondary.id := by
  obtain ⟨nextId, accountDomains, same⟩ := identifiersMerged_frame db primary secondary
  unfold merged
  rw [deleteAccount_constraints held, same, rowsMoved_eq]
  · rw [same, rowsMoved_eq]
    intro row member
    obtain ⟨old, inOld, ⟨_, changed⟩ | ⟨notDone, rfl⟩⟩ := mem_passed.mp member
    · rw [(mergedContact_eq_some.mp changed).2]
      exact different
    · exact fun own => notDone (List.mem_filter.mpr ⟨inOld, by simpa using own⟩)
  · rw [same, rowsMoved_eq]
    exact updateWhere_away fun _ => different
  · rw [same, rowsMoved_eq]
    exact updateWhere_away fun _ => different

theorem domainsMerged_accounts : (domainsMerged db primary secondary).accounts = db.accounts := by
  obtain ⟨nextId, accountDomains, same⟩ := domainsMerged_frame db primary secondary
  rw [same, rowsMoved_eq]

theorem merged_accounts :
    (merged db primary secondary).accounts =
      deleteWhere (updateWhere db.accounts (·.id == primary.id) (crmUpdates primary secondary).apply)
        (·.id == secondary.id) := by
  obtain ⟨nextId, accountDomains, same⟩ := identifiersMerged_frame db primary secondary
  rw [merged, same, rowsMoved_eq, deleteAccount]

theorem merged_contacts :
    (merged db primary secondary).contacts =
      passed (mergedContact primary.id (emailsOf db primary.id)) (contactsOf db secondary.id)
        db.contacts := by
  obtain ⟨nextId, accountDomains, same⟩ := identifiersMerged_frame db primary secondary
  rw [merged, same, rowsMoved_eq, deleteAccount]

theorem mem_duplicates {contact : Contact} {toId fromId : RowId} :
    contact ∈ duplicates db toId fromId ↔
      contact ∈ db.contacts ∧ contact.accountId = fromId ∧
        (emailsOf db toId).contains contact.email = true := by
  simp only [duplicates, contactsOf, List.mem_filter, beq_iff_eq, and_assoc]

theorem duplicates_ids (held : Constraints db) (toId fromId : RowId) :
    ((duplicates db toId fromId).map (·.id)).Nodup := by
  have part : (duplicates db toId fromId).Sublist db.contacts :=
    List.filter_sublist.trans List.filter_sublist
  exact held.primary.contacts.sublist (part.map _)

theorem mem_merged_contacts {row : Contact} :
    row ∈ (merged db primary secondary).contacts ↔
      (row ∈ db.contacts ∧ row.accountId ≠ secondary.id) ∨
        ∃ old ∈ db.contacts, old.accountId = secondary.id ∧
          mergedContact primary.id (emailsOf db primary.id) old = some row := by
  rw [merged_contacts, contactsOf, mem_passed_filter]
  simp only [beq_eq_false_iff_ne, beq_iff_eq, ne_eq]

theorem merged_callParticipants :
    (merged db primary secondary).callParticipants =
      relinked (fun _ => none) (duplicates db primary.id secondary.id) db.callParticipants := by
  obtain ⟨nextId, accountDomains, same⟩ := identifiersMerged_frame db primary secondary
  rw [merged, same, rowsMoved_eq, deleteAccount]

theorem participant_merged (held : Constraints db) {participant : CallParticipant}
    {contact : Contact} (inContacts : contact ∈ db.contacts)
    (linked : participant.contactId = some contact.id) :
    relink (fun _ => none) (duplicates db primary.id secondary.id) participant =
      if contact ∈ duplicates db primary.id secondary.id then
        { participant with contactId := none }
      else participant := by
  split
  · rename_i duplicate
    exact relink_linked (duplicates_ids held _ _) duplicate linked
  · rename_i unique
    refine relink_other fun other duplicate same => unique ?_
    have sameId : contact.id = other.id := Option.some.inj (linked.symm.trans same)
    exact eq_of_key held.primary.contacts inContacts (mem_duplicates.mp duplicate).1 sameId ▸ duplicate

theorem merged_calls (different : primary.id ≠ secondary.id) :
    (merged db primary secondary).calls =
      updateWhere db.calls (·.accountId == some secondary.id) fun call =>
        { call with accountId := some primary.id } := by
  obtain ⟨nextId, accountDomains, same⟩ := identifiersMerged_frame db primary secondary
  rw [merged, same, rowsMoved_eq, deleteAccount]
  refine updateWhere_none fun call member => beq_eq_false_iff_ne.mpr ?_
  exact updateWhere_away (fun _ => by simpa using different) call member

theorem merged_stories :
    (merged db primary secondary).stories =
      updateWhere db.stories (·.accountId == secondary.id) fun story =>
        { story with accountId := primary.id } := by
  obtain ⟨nextId, accountDomains, same⟩ := identifiersMerged_frame db primary secondary
  rw [merged, same, rowsMoved_eq, deleteAccount]

theorem merged_salesforceEvents :
    (merged db primary secondary).salesforceEvents =
      updateWhere db.salesforceEvents (·.accountId == secondary.id) fun event =>
        { event with accountId := primary.id } := by
  obtain ⟨nextId, accountDomains, same⟩ := identifiersMerged_frame db primary secondary
  rw [merged, same, rowsMoved_eq, deleteAccount]

theorem merged_userAccountAccess (different : primary.id ≠ secondary.id) :
    (merged db primary secondary).userAccountAccess =
      updateWhere db.userAccountAccess (·.accountId == some secondary.id) fun grant =>
        { grant with accountId := some primary.id } := by
  obtain ⟨nextId, accountDomains, same⟩ := identifiersMerged_frame db primary secondary
  rw [merged, same, rowsMoved_eq, deleteAccount]
  refine updateWhere_none fun grant member => beq_eq_false_iff_ne.mpr ?_
  exact updateWhere_away (fun _ => by simpa using different) grant member

theorem merged_quotes :
    (merged db primary secondary).quotes =
      deleteWhere db.quotes (·.accountId == secondary.id) := by
  obtain ⟨nextId, accountDomains, same⟩ := identifiersMerged_frame db primary secondary
  rw [merged, same, rowsMoved_eq, deleteAccount]

theorem merged_nextId : db.nextId ≤ (merged db primary secondary).nextId := by
  have supply : (rowsMoved db primary secondary).nextId = db.nextId := by rw [rowsMoved_eq]
  dsimp only [merged, deleteAccount, identifiersMerged, updateAccount, domainsMerged, aliasesMerged,
    aliasesState]
  unfold domainAdded
  split
  · exact Nat.le_of_eq supply.symm
  · dsimp only [createAlias]
    rw [supply]
    exact Nat.le_succ db.nextId

theorem newDomainAlias_eq_some {domain : Text} :
    newDomainAlias db primary secondary = some domain ↔
      truthy secondary.domain = some domain ∧ secondary.domain ≠ primary.domain ∧
        hasAlias db primary.id domain = false := by
  simp [newDomainAlias, Option.filter_eq_some_iff]

theorem domainAdded_accountDomains :
    (domainAdded db primary secondary).accountDomains =
      db.accountDomains ++ (newDomainAlias db primary secondary).toList.map fun domain =>
        { id := db.nextId, accountId := primary.id, domain } := by
  unfold domainAdded
  cases newDomainAlias db primary secondary with
  | none => simp
  | some domain => rfl

theorem newDomainAlias_rowsMoved :
    newDomainAlias (rowsMoved db primary secondary) primary secondary =
      newDomainAlias db primary secondary := by
  rw [rowsMoved_eq]
  dsimp only [newDomainAlias, hasAlias]

theorem domainAdded_rowsMoved :
    (domainAdded (rowsMoved db primary secondary) primary secondary).accountDomains =
      (domainAdded db primary secondary).accountDomains := by
  rw [domainAdded_accountDomains, domainAdded_accountDomains, newDomainAlias_rowsMoved, rowsMoved_eq]

theorem mem_domainAdded {row : AccountDomain} :
    row ∈ (domainAdded db primary secondary).accountDomains ↔
      row ∈ db.accountDomains ∨ ∃ domain, newDomainAlias db primary secondary = some domain ∧
        row = { id := db.nextId, accountId := primary.id, domain } := by
  rw [domainAdded_accountDomains]
  cases newDomainAlias db primary secondary <;> simp

theorem mem_merged_accountDomains (different : primary.id ≠ secondary.id) {row : AccountDomain} :
    row ∈ (merged db primary secondary).accountDomains ↔
      (row ∈ (domainAdded db primary secondary).accountDomains ∧ row.accountId ≠ secondary.id) ∨
        ∃ old ∈ db.accountDomains, old.accountId = secondary.id ∧
          mergedAlias primary (hasAlias (domainAdded db primary secondary) primary.id) old =
            some row := by
  have table : (merged db primary secondary).accountDomains =
      deleteWhere (passed
        (mergedAlias primary (hasAlias (domainAdded db primary secondary) primary.id))
        ((domainAdded db primary secondary).accountDomains.filter (·.accountId == secondary.id))
        (domainAdded db primary secondary).accountDomains) (·.accountId == secondary.id) := by
    unfold hasAlias
    rw [← domainAdded_rowsMoved]
    rfl
  rw [table, mem_deleteWhere, mem_passed_filter]
  simp only [beq_eq_false_iff_ne, beq_iff_eq]
  constructor
  · rintro ⟨⟨member, other⟩ | ⟨old, member, own, changed⟩, _⟩
    · exact .inl ⟨member, other⟩
    · rcases mem_domainAdded.mp member with inTable | ⟨_, _, rfl⟩
      · exact .inr ⟨old, inTable, own, changed⟩
      · exact absurd own different
  · rintro (⟨member, other⟩ | ⟨old, member, own, changed⟩)
    · exact ⟨.inl ⟨member, other⟩, other⟩
    · refine ⟨.inr ⟨old, mem_domainAdded.mpr (.inl member), own, changed⟩, ?_⟩
      rw [(mergedAlias_eq_some.mp changed).2.2]
      exact different

theorem hasAlias_merged (different : primary.id ≠ secondary.id) {domain : Text} :
    hasAlias (merged db primary secondary) primary.id domain = true ↔
      hasAlias db primary.id domain = true ∨ newDomainAlias db primary secondary = some domain ∨
        (hasAlias db secondary.id domain = true ∧ some domain ≠ primary.domain) := by
  constructor
  · intro known
    obtain ⟨row, member, account, rfl⟩ := hasAlias_iff.mp known
    rcases (mem_merged_accountDomains different).mp member with ⟨inAdded, _⟩ | ⟨old, inOld, own, changed⟩
    · rcases mem_domainAdded.mp inAdded with inTable | ⟨domain, added, rfl⟩
      · exact .inl (hasAlias_iff.mpr ⟨row, inTable, account, rfl⟩)
      · exact .inr (.inl added)
    · obtain ⟨other, _, rfl⟩ := mergedAlias_eq_some.mp changed
      exact .inr (.inr ⟨hasAlias_iff.mpr ⟨old, inOld, own, rfl⟩, other⟩)
  · -- An alias of the primary account, also an added one, is not touched.
    have kept (known : hasAlias (domainAdded db primary secondary) primary.id domain = true) :
        hasAlias (merged db primary secondary) primary.id domain = true := by
      obtain ⟨row, member, account, same⟩ := hasAlias_iff.mp known
      exact hasAlias_iff.mpr ⟨row, (mem_merged_accountDomains different).mpr
        (.inl ⟨member, account ▸ different⟩), account, same⟩
    rintro (known | added | ⟨known, other⟩)
    · obtain ⟨row, member, account, same⟩ := hasAlias_iff.mp known
      exact kept (hasAlias_iff.mpr ⟨row, mem_domainAdded.mpr (.inl member), account, same⟩)
    · exact kept (hasAlias_iff.mpr ⟨_, mem_domainAdded.mpr (.inr ⟨domain, added, rfl⟩), rfl, rfl⟩)
    · cases present : hasAlias (domainAdded db primary secondary) primary.id domain with
      | true => exact kept present
      | false =>
        obtain ⟨row, member, account, rfl⟩ := hasAlias_iff.mp known
        exact hasAlias_iff.mpr ⟨{ row with accountId := primary.id },
          (mem_merged_accountDomains different).mpr (.inr ⟨row, member, account,
            mergedAlias_eq_some.mpr ⟨other, present, rfl⟩⟩), rfl, rfl⟩

theorem merged_landingPages : (merged db primary secondary).landingPages = db.landingPages := by
  obtain ⟨nextId, accountDomains, same⟩ := identifiersMerged_frame db primary secondary
  rw [merged, same, rowsMoved_eq, deleteAccount]

theorem merged_accountMergeRuns :
    (merged db primary secondary).accountMergeRuns = db.accountMergeRuns := by
  obtain ⟨nextId, accountDomains, same⟩ := identifiersMerged_frame db primary secondary
  rw [merged, same, rowsMoved_eq, deleteAccount]

end

section

variable {db : Database} {primary secondary : Account} {organizationId : RowId}
  {initiatedByUserId : Option RowId} {notes : Option Text} {outcome : Database × MergeResult}

theorem MergeFits.constraints (fits : MergeFits db primary secondary) (held : Constraints db)
    (fresh : FreshIds db) (inPrimary : primary ∈ db.accounts) (inSecondary : secondary ∈ db.accounts)
    (organization : primary.organizationId = secondary.organizationId)
    (different : primary.id ≠ secondary.id) : Constraints (merged db primary secondary) := by
  have known : primary.id ∈ accountIds db := List.mem_map_of_mem inPrimary
  have moved := rowsMoved_constraints held known different fits.events
  have domains := domainsMerged_constraints moved known fresh
  have accounts : (domainsMerged db primary secondary).accounts = db.accounts :=
    domainsMerged_accounts
  have after := (identifiersMerged_constraints domains (accounts ▸ inPrimary)
    (accounts ▸ inSecondary) organization different).mpr fits.identifiers
  exact (merged_constraints after different).mpr fits.logs

theorem executeMerge_found (held : Constraints db) (fresh : FreshIds db)
    (foundPrimary : findAccount db primary.id organizationId = some primary)
    (foundSecondary : findAccount db secondary.id organizationId = some secondary)
    (different : primary.id ≠ secondary.id) :
    executeMerge db organizationId primary.id secondary.id initiatedByUserId notes = .ok outcome ↔
      MergeFits db primary secondary ∧ outcome =
        (recordMergeRun (merged db primary secondary)
            (mergeRun db primary secondary initiatedByUserId notes),
          mergeResult db primary secondary) := by
  obtain ⟨inPrimary, _, ownOrganization⟩ := (findAccount_eq_some held).mp foundPrimary
  obtain ⟨inSecondary, _, sameOrganization⟩ := (findAccount_eq_some held).mp foundSecondary
  have known : primary.id ∈ accountIds db := List.mem_map_of_mem inPrimary
  have identifiers (after : Constraints (domainsMerged db primary secondary)) :=
    identifiersMerged_constraints after (by rwa [domainsMerged_accounts])
      (by rwa [domainsMerged_accounts]) (ownOrganization.trans sameOrganization.symm) different
  obtain rfl := ownOrganization
  have contacts : Constraints (contactsMerged db primary.id secondary.id fun _ => none) :=
    contactsState_constraints held known
      (fun _ member => by simpa using (List.mem_filter.mp member).2) fun _ member => member
  have aliasesMoved (moved : Constraints (rowsMoved db primary secondary)) :
      moveAliases primary secondary (domainAdded (rowsMoved db primary secondary) primary secondary,
          (newDomainAlias db primary secondary).toList) =
        .ok (domainsMerged db primary secondary,
          (mergeResult db primary secondary).domainAliasesAdded) := by
    have rowsKnown : primary.id ∈ accountIds (rowsMoved db primary secondary) := by
      rwa [rowsMoved_accountIds]
    refine moveAliases_eq_ok (domainAdded_constraints moved rowsKnown (rowsMoved_fresh fresh)) ?_
      different
    rwa [domainAdded_accountIds]
  have domainMoved (moved : Constraints (rowsMoved db primary secondary)) :
      addDomainAlias (rowsMoved db primary secondary) primary secondary =
        .ok (domainAdded (rowsMoved db primary secondary) primary secondary,
          (newDomainAlias db primary secondary).toList) := by
    have rowsKnown : primary.id ∈ accountIds (rowsMoved db primary secondary) := by
      rwa [rowsMoved_accountIds]
    rw [addDomainAlias_eq_ok moved rowsKnown (rowsMoved_fresh fresh), newDomainAlias_rowsMoved]
  -- The tables on the way, under their names.
  have children : moveStories (moveCalls (contactsMerged db primary.id secondary.id fun _ => none)
      secondary.id primary.id) secondary.id primary.id = childrenMoved db primary secondary := rfl
  have rows : moveUserAccess (moveSalesforceEvents (childrenMoved db primary secondary) secondary.id
      primary.id) secondary.id primary.id = rowsMoved db primary secondary := rfl
  have calls : (contactsMerged db primary.id secondary.id fun _ => none).calls = db.calls := rfl
  have stories : (moveCalls (contactsMerged db primary.id secondary.id fun _ => none) secondary.id
      primary.id).stories = db.stories := rfl
  have pages : (childrenMoved db primary secondary).landingPages = db.landingPages := rfl
  have callsHeld : Constraints (moveCalls (contactsMerged db primary.id secondary.id fun _ => none)
      secondary.id primary.id) := moveCalls_constraints contacts known
  have childrenHeld : Constraints (childrenMoved db primary secondary) :=
    childrenMoved_constraints held known
  simp only [executeMerge, loadAccountPreview, foundPrimary, foundSecondary, bind_eq_ok,
    required_eq_ok, ensure_eq_ok, Option.some.injEq, exists_eq_left', moveContacts_eq_ok held known,
    Except.ok.injEq, statement_eq_ok, pure_eq_ok, and_assoc, Prod.exists, bne_iff_ne, ne_eq,
    different, not_false_eq_true, true_and, exists_const, exists_and_left, exists_eq_left, children,
    rows, calls, stories, pages, callsHeld, childrenHeld]
  constructor
  · rintro ⟨events, moved, _, _, domainRan, _, _, aliasesRan, _, identifiersRan, deleted, rfl⟩
    have apart := (moveSalesforceEvents_constraints childrenHeld known different).mp events
    obtain ⟨rfl, rfl⟩ := Prod.mk.inj (Except.ok.inj
      (domainRan.symm.trans (domainMoved moved)))
    obtain ⟨rfl, rfl⟩ := Prod.mk.inj (Except.ok.inj (aliasesRan.symm.trans (aliasesMoved moved)))
    have domains := domainsMerged_constraints moved known fresh
    obtain ⟨after, rfl⟩ := (mergeCrmIdentifiers_eq_ok domains).mp identifiersRan
    exact ⟨⟨apart, (identifiers domains).mp after, (merged_constraints after different).mp deleted⟩,
      rfl⟩
  · rintro ⟨⟨apart, nothing, logs⟩, rfl⟩
    have events := (moveSalesforceEvents_constraints childrenHeld known different).mpr apart
    have moved := rowsMoved_constraints held known different apart
    have domains := domainsMerged_constraints moved known fresh
    have after := (identifiers domains).mpr nothing
    exact ⟨events, moved, _, _, domainMoved moved, _, _,
      aliasesMoved moved, _, (mergeCrmIdentifiers_eq_ok domains).mpr ⟨after, rfl⟩,
      (merged_constraints after different).mpr logs, rfl⟩

end

/-! ## When a merge commits -/

/-- Every statement of a merge satisfies the constraints, and so the transaction
commits, unless the accounts share the stage of an opportunity, the primary one
takes over a Salesforce id, or a regeneration log refers to the secondary one. -/
theorem merge_commits_iff_fits {db : Database} {organizationId : RowId}
    (primary secondary : Account) (held : Constraints db) (fresh : FreshIds db)
    (foundPrimary : findAccount db primary.id organizationId = some primary)
    (foundSecondary : findAccount db secondary.id organizationId = some secondary)
    (different : primary.id ≠ secondary.id) (initiatedByUserId : Option RowId)
    (notes : Option Text) :
    (∃ outcome, executeMerge db organizationId primary.id secondary.id initiatedByUserId notes =
      .ok outcome) ↔ MergeFits db primary secondary := by
  constructor
  · rintro ⟨outcome, ran⟩
    exact ((executeMerge_found held fresh foundPrimary foundSecondary different).mp ran).1
  · intro fits
    exact ⟨_, (executeMerge_found held fresh foundPrimary foundSecondary different).mpr ⟨fits, rfl⟩⟩

def acme : Account where
  id := 10
  organizationId := 1
  name := "Acme Inc.".toList
  normalizedName := "acme".toList
  domain := some "acme.com".toList
  salesforceId := some "0015000000A".toList

def acmeEurope : Account where
  id := 11
  organizationId := 1
  name := "Acme Europe".toList
  normalizedName := "acme europe".toList
  domain := some "acme.eu".toList

def twoOffices : Database where
  nextId := 100
  accounts := [acme, acmeEurope]
  contacts := [
    { id := 20, accountId := 10, email := "ann@acme.com".toList },
    { id := 21, accountId := 11, email := "bo@acme.eu".toList }]
  calls := [
    { id := 30, organizationId := 1, accountId := some 10 },
    { id := 31, organizationId := 1, accountId := some 11 }]
  callParticipants := [
    { id := 40, callId := 30, contactId := some 20 },
    { id := 41, callId := 31, contactId := some 21 }]
  stories := [{ id := 50, organizationId := 1, accountId := 11 }]
  landingPages := [{
    id := 60
    organizationId := 1
    storyId := 50
    createdById := 5
    slug := "acme-in-europe".toList
    title := "Acme in Europe".toList
    editableBody := [] }]
  userAccountAccess := [
    { id := 70, userId := 5, organizationId := 1, scopeType := .allAccounts },
    { id := 71, userId := 6, organizationId := 1, scopeType := .accountList,
      cachedAccountIds := [10, 11] }]

def sharedContact : Database :=
  { twoOffices with
    contacts := [
      { id := 20, accountId := 10, email := "ann@acme.com".toList },
      { id := 21, accountId := 11, email := "ann@acme.com".toList }] }

theorem twoOffices_constraints : Constraints twoOffices := by decide +kernel

theorem twoOffices_freshIds : FreshIds twoOffices := ⟨by decide, by decide⟩

theorem twoOffices_merge_commits : ∃ outcome,
    executeMerge twoOffices 1 10 11 (some 5) none = .ok outcome :=
  (merge_commits_iff_fits acme acmeEurope twoOffices_constraints twoOffices_freshIds rfl rfl
    (by decide) (some 5) none).mpr ⟨by simp [EventsApart, twoOffices], by decide, by decide⟩

def idOnSecondary : Database :=
  { twoOffices with
    accounts := [{ acme with salesforceId := none },
      { acmeEurope with salesforceId := some "0015000000B".toList }] }

theorem adopted_salesforceId_aborts_merge :
    Constraints idOnSecondary ∧ FreshIds idOnSecondary ∧
      executeMerge idOnSecondary 1 10 11 (some 5) none = .error .constraintViolation :=
  ⟨by decide +kernel, ⟨by decide, by decide⟩, by decide +kernel⟩

end StoryEngine.Accounts
