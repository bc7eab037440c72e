import StoryEngine.Accounts.MergeOutcome

namespace StoryEngine.Accounts

open Data Schema

/-! # The merge of the resolution queue

What `mergeAccounts` leaves when it succeeds, and when it leaves the same as
`executeMerge`.
-/

def existingContact (db : Database) (accountId : RowId) (contact : Contact) : Option RowId :=
  (db.contacts.find? fun row =>
    row.accountId == accountId && row.email == contact.email).map (·.id)

section

variable {db next : Database} {toId fromId : RowId} {done : List Contact} {item : Contact}

theorem findContact_eq_some (held : Constraints db) {contact row : Contact} :
    (db.contacts.find? fun found => found.accountId == toId && found.email == contact.email) =
        some row ↔
      row ∈ db.contacts ∧ row.accountId = toId ∧ row.email = contact.email := by
  constructor
  · intro found
    have criterion := List.find?_some found
    simp only [Bool.and_eq_true, beq_iff_eq] at criterion
    exact ⟨List.mem_of_find?_eq_some found, criterion⟩
  · rintro ⟨member, own, email⟩
    cases found : db.contacts.find? fun found =>
        found.accountId == toId && found.email == contact.email with
    | none =>
      have absent := List.find?_eq_none.mp found row member
      simp [own, email] at absent
    | some other =>
      have criterion := List.find?_some found
      simp only [Bool.and_eq_true, beq_iff_eq] at criterion
      rw [held.contact_eq (List.mem_of_find?_eq_some found) member (criterion.1.trans own.symm)
        (criterion.2.trans email.symm)]

theorem existingContact_outside (held : Constraints db) (different : toId ≠ fromId)
    (member : item ∈ db.contacts) (own : item.accountId = fromId) (contact : Contact) :
    existingContact db toId contact ≠ some item.id := by
  intro same
  obtain ⟨row, found, sameId⟩ := Option.map_eq_some_iff.mp same
  obtain ⟨inContacts, account, _⟩ := (findContact_eq_some held).mp found
  rw [eq_of_key held.primary.contacts inContacts member sameId] at account
  exact different (account.symm.trans own)

theorem findContact_contactsState (held : Constraints db) {target : Contact → Option RowId}
    (owned : ∀ row ∈ done, row ∈ db.contacts ∧ row.accountId = fromId)
    (member : item ∈ db.contacts) (own : item.accountId = fromId) (fresh : item ∉ done)
    (consistent : Constraints (contactsState db toId target done done)) (different : toId ≠ fromId) :
    ((contactsState db toId target done done).contacts.find? fun row =>
        row.accountId == toId && row.email == item.email) =
      db.contacts.find? fun row => row.accountId == toId && row.email == item.email := by
  refine Option.ext fun row => ?_
  rw [findContact_eq_some consistent, findContact_eq_some held]
  constructor
  · rintro ⟨inState, account, email⟩
    obtain ⟨old, inOld, ⟨inDone, changed⟩ | ⟨_, rfl⟩⟩ := mem_passed.mp inState
    · -- A moved contact has an address of its own.
      have sameEmail : old.email = item.email := by
        rw [← email, (mergedContact_eq_some.mp changed).2]
      obtain rfl := held.contact_eq inOld member ((owned old inDone).2.trans own.symm) sameEmail
      exact absurd inDone fresh
    · exact ⟨inOld, account, email⟩
  · rintro ⟨inTable, account, email⟩
    refine ⟨mem_passed.mpr ⟨row, inTable, .inr ⟨fun inDone => ?_, rfl⟩⟩, account, email⟩
    exact different (account.symm.trans (owned row inDone).2)

theorem emailsOf_known (held : Constraints db) {contact : Contact} :
    (emailsOf db toId).contains contact.email = true ↔
      ∃ row, (db.contacts.find? fun found =>
        found.accountId == toId && found.email == contact.email) = some row := by
  simp only [mem_emailsOf, findContact_eq_some held]

private theorem absorbContact_turn {rest : List Contact} (held : Constraints db)
    (different : toId ≠ fromId) (whole : contactsOf db fromId = done ++ item :: rest)
    (consistent : Constraints (contactsState db toId (existingContact db toId) done done))
    (ran : absorbContact toId (contactsState db toId (existingContact db toId) done done) item =
      .ok next) :
    next = contactsState db toId (existingContact db toId) (done ++ [item]) (done ++ [item]) ∧
      Constraints next := by
  obtain ⟨member, own, fresh, earlier⟩ := selection_turn (nodup_of_keys held.primary.contacts) whole
  have ownItem : item.accountId = fromId := by simpa using own
  have owned : ∀ row ∈ done, row ∈ db.contacts ∧ row.accountId = fromId :=
    fun row inDone => ⟨(earlier row inDone).1, by simpa using (earlier row inDone).2⟩
  have outside (other : Contact) : existingContact db toId other ≠ some item.id :=
    existingContact_outside held different member ownItem other
  have lookup := findContact_contactsState held owned member ownItem fresh consistent different
  unfold absorbContact at ran
  rw [lookup] at ran
  cases found : db.contacts.find? fun row => row.accountId == toId && row.email == item.email with
  | none =>
    have new : (emailsOf db toId).contains item.email = false := by
      refine Bool.eq_false_iff.mpr fun known => ?_
      obtain ⟨row, there⟩ := (emailsOf_known held).mp known
      rw [found] at there
      cases there
    rw [found] at ran
    obtain ⟨after, rfl⟩ := statement_eq_ok.mp ran
    exact ⟨reassign_contactsState held member fresh new, after⟩
  | some existing =>
    have known : (emailsOf db toId).contains item.email = true :=
      (emailsOf_known held).mpr ⟨existing, found⟩
    have target : existingContact db toId item = some existing.id := by
      rw [existingContact, found, Option.map_some]
    rw [found] at ran
    obtain ⟨relinkedDb, relinks, deletes⟩ := bind_eq_ok.mp ran
    obtain ⟨_, rfl⟩ := statement_eq_ok.mp relinks
    obtain ⟨after, rfl⟩ := statement_eq_ok.mp deletes
    refine ⟨?_, after⟩
    rw [← target, relink_contactsState (fun other _ => outside other) known]
    exact delete_contactsState held (fun other _ => outside other) member fresh (by simp) known

theorem absorbContacts_ok (held : Constraints db) (different : toId ≠ fromId)
    (ran : absorbContacts db fromId toId = .ok next) :
    next = contactsMerged db toId fromId (existingContact db toId) := by
  refine (foldlM_invariant (fun done state =>
    state = contactsState db toId (existingContact db toId) done done ∧ Constraints state)
    (fun done item rest state next whole invariant turn => ?_) ⟨?_, held⟩ ran).1
  · obtain ⟨rfl, consistent⟩ := invariant
    exact absorbContact_turn held different whole consistent turn
  · rw [contactsState_nil]

end

section

variable {db next : Database} {source target : Account}

theorem addDomainAlias_ok {added : List Text}
    (ran : addDomainAlias db target source = .ok (next, added)) :
    next = domainAdded db target source := by
  unfold addDomainAlias at ran
  unfold domainAdded
  cases wanted : newDomainAlias db target source with
  | none =>
    rw [wanted] at ran
    exact (Prod.mk.inj (pure_eq_ok.mp ran)).1.symm
  | some domain =>
    rw [wanted] at ran
    obtain ⟨created, statementRan, result⟩ := bind_eq_ok.mp ran
    obtain ⟨_, rfl⟩ := statement_eq_ok.mp statementRan
    exact (Prod.mk.inj (pure_eq_ok.mp result)).1.symm

theorem hasAlias_domainAdded {domain : Text} :
    hasAlias (domainAdded db target source) target.id domain = true ↔
      hasAlias db target.id domain = true ∨ newDomainAlias db target source = some domain := by
  simp only [hasAlias_iff, mem_domainAdded]
  constructor
  · rintro ⟨row, member | ⟨added, wanted, rfl⟩, account, rfl⟩
    · exact .inl ⟨row, member, account, rfl⟩
    · exact .inr wanted
  · rintro (⟨row, member, account, same⟩ | wanted)
    · exact ⟨row, .inl member, account, same⟩
    · exact ⟨_, .inr ⟨domain, wanted, rfl⟩, rfl, rfl⟩

theorem hasAlias_createAlias {accountId : RowId} {domain other : Text} :
    hasAlias (createAlias db accountId domain) accountId other = true ↔
      hasAlias db accountId other = true ∨ other = domain := by
  rw [hasAlias, createAlias, List.any_append, Bool.or_eq_true, ← hasAlias]
  simp only [List.any_cons, List.any_nil, Bool.or_false, beq_self_eq_true, Bool.true_and, beq_iff_eq]
  exact or_congr_right eq_comm

def OnlyAliases (db next : Database) : Prop :=
  next = { db with nextId := next.nextId, accountDomains := next.accountDomains }

theorem OnlyAliases.refl (db : Database) : OnlyAliases db db := rfl

private def Copied (db : Database) (target : Account) (done : List AccountDomain)
    (state : Database) : Prop :=
  OnlyAliases db state ∧ ∀ domain, hasAlias state target.id domain = true ↔
    hasAlias db target.id domain = true ∨
      ((∃ row ∈ done, row.domain = domain) ∧ some domain ≠ target.domain)

private theorem copyAlias_turn {done : List AccountDomain} {item : AccountDomain}
    {state : Database} (copied : Copied db target done state)
    (ran : copyAlias target state item = .ok next) : Copied db target (done ++ [item]) next := by
  obtain ⟨only, aliases⟩ := copied
  have widened (domain : Text) : (∃ row ∈ done ++ [item], row.domain = domain) ↔
      (∃ row ∈ done, row.domain = domain) ∨ item.domain = domain := by
    simp [or_and_right, exists_or]
  unfold copyAlias at ran
  split at ran
  · rename_i wanted
    simp only [Bool.and_eq_true, Bool.not_eq_true', bne_iff_ne, ne_eq] at wanted
    obtain ⟨_, rfl⟩ := statement_eq_ok.mp ran
    refine ⟨by rw [OnlyAliases, createAlias, only], fun domain => ?_⟩
    rw [hasAlias_createAlias, aliases domain, widened]
    constructor
    · rintro ((known | ⟨copied, other⟩) | rfl)
      · exact .inl known
      · exact .inr ⟨.inl copied, other⟩
      · exact .inr ⟨.inr rfl, wanted.2⟩
    · rintro (known | ⟨copied | rfl, other⟩)
      · exact .inl (.inl known)
      · exact .inl (.inr ⟨copied, other⟩)
      · exact .inr rfl
  · rename_i skipped
    obtain rfl := pure_eq_ok.mp ran
    refine ⟨only, fun domain => ?_⟩
    rw [aliases domain, widened]
    constructor
    · rintro (known | ⟨copied, other⟩)
      · exact .inl known
      · exact .inr ⟨.inl copied, other⟩
    · rintro (known | ⟨copied | rfl, other⟩)
      · exact .inl known
      · exact .inr ⟨copied, other⟩
      · -- The alias was skipped because the account answers to it.
        simp only [Bool.and_eq_true, Bool.not_eq_true', bne_iff_ne, ne_eq, not_and_or, not_not,
          Bool.not_eq_false] at skipped
        rcases skipped with known | own
        · exact (aliases item.domain).mp known
        · exact absurd own other

theorem copyAliases_ok (ran : copyAliases db source target = .ok next) :
    OnlyAliases db next ∧ ∀ domain, hasAlias next target.id domain = true ↔
      hasAlias db target.id domain = true ∨
        (hasAlias db source.id domain = true ∧ some domain ≠ target.domain) := by
  obtain ⟨only, aliases⟩ := foldlM_invariant (Copied db target)
    (fun _ _ _ _ _ _ copied turn => copyAlias_turn copied turn)
    ⟨OnlyAliases.refl db, by simp⟩ ran
  refine ⟨only, fun domain => ?_⟩
  rw [aliases domain]
  simp only [hasAlias_iff, List.mem_filter, beq_iff_eq, and_assoc]

theorem hasAlias_deleteWhere {fromId toId : RowId} {domain : Text} (different : toId ≠ fromId)
    (rows : next.accountDomains = deleteWhere db.accountDomains (·.accountId == fromId)) :
    hasAlias next toId domain = hasAlias db toId domain := by
  refine Bool.eq_iff_iff.mpr ?_
  simp only [hasAlias_iff, rows, mem_deleteWhere, beq_eq_false_iff_ne]
  constructor
  · rintro ⟨row, ⟨member, _⟩, account, same⟩
    exact ⟨row, member, account, same⟩
  · rintro ⟨row, member, account, same⟩
    exact ⟨row, ⟨member, account ▸ different⟩, account, same⟩

theorem hasAlias_domainAdded_source {domain : Text} (different : target.id ≠ source.id) :
    hasAlias (domainAdded db target source) source.id domain = hasAlias db source.id domain := by
  refine Bool.eq_iff_iff.mpr ?_
  simp only [hasAlias_iff, mem_domainAdded]
  constructor
  · rintro ⟨row, member | ⟨added, _, rfl⟩, account, same⟩
    · exact ⟨row, member, account, same⟩
    · exact absurd account different
  · rintro ⟨row, member, account, same⟩
    exact ⟨row, .inl member, account, same⟩

end

structure Absorbed (db second : Database) (source target : Account) : Prop where
  accounts : second.accounts = deleteWhere db.accounts (·.id == source.id)
  contacts : second.contacts = passed (mergedContact target.id (emailsOf db target.id))
    (contactsOf db source.id) db.contacts
  callParticipants : second.callParticipants = relinked (existingContact db target.id)
    (duplicates db target.id source.id) db.callParticipants
  calls : second.calls = updateWhere db.calls (·.accountId == some source.id) fun call =>
    { call with accountId := some target.id }
  stories : second.stories = updateWhere db.stories (·.accountId == source.id) fun story =>
    { story with accountId := target.id }
  aliases : ∀ domain, hasAlias second target.id domain = true ↔
    hasAlias db target.id domain = true ∨ newDomainAlias db target source = some domain ∨
      (hasAlias db source.id domain = true ∧ some domain ≠ target.domain)

section

variable {db second : Database} {source target : Account} {organizationId : RowId}

theorem mergeAccounts_ok (held : Constraints db)
    (foundSource : findAccount db source.id organizationId = some source)
    (foundTarget : findAccount db target.id organizationId = some target)
    (different : target.id ≠ source.id)
    (ran : mergeAccounts db source.id target.id organizationId = .ok second) :
    Absorbed db second source target := by
  obtain ⟨inTarget, _, _⟩ := (findAccount_eq_some held).mp foundTarget
  have known : target.id ∈ accountIds db := List.mem_map_of_mem inTarget
  simp only [mergeAccounts, bind_eq_ok, required_eq_ok, foundSource, foundTarget, Option.some.injEq,
    exists_eq_left', ensure_eq_ok, statement_eq_ok, Prod.exists] at ran
  obtain ⟨_, _, _, ⟨moved, rfl⟩, absorbed, absorbs, added, _, adds, copied, copies, _, ⟨_, rfl⟩, _,
    ⟨_, rfl⟩, _, ⟨_, rfl⟩, _, ⟨_, rfl⟩, _, rfl⟩ := ran
  obtain rfl := absorbContacts_ok moved different absorbs
  obtain rfl := addDomainAlias_ok adds
  obtain ⟨only, aliases⟩ := copyAliases_ok copies
  -- Every table but the aliases, before the rows of the source are deleted.
  obtain ⟨nextId, accountDomains, addedFrame⟩ := domainAdded_frame
    (contactsMerged (moveCalls db source.id target.id) target.id source.id
      (existingContact (moveCalls db source.id target.id) target.id)) target source
  have tables : copied = { db with
      nextId := copied.nextId
      accountDomains := copied.accountDomains
      contacts := passed (mergedContact target.id (emailsOf db target.id)) (contactsOf db source.id)
        db.contacts
      callParticipants := relinked (existingContact db target.id)
        (duplicates db target.id source.id) db.callParticipants
      calls := updateWhere db.calls (·.accountId == some source.id) fun call =>
        { call with accountId := some target.id } } := by
    rw [addedFrame] at only
    rw [only]
    dsimp only [contactsMerged, contactsState, moveCalls, emailsOf, contactsOf, duplicates]
    rfl
  constructor
  case aliases =>
    intro domain
    have deleted : hasAlias (deleteAliases copied source.id) target.id domain =
        hasAlias copied target.id domain := hasAlias_deleteWhere different rfl
    rw [hasAlias_deleteWhere different rfl]
    refine (Bool.eq_iff_iff.mp deleted).trans ?_
    rw [aliases domain, hasAlias_domainAdded, hasAlias_domainAdded_source different, or_assoc]
    dsimp only [newDomainAlias, hasAlias, contactsMerged, contactsState, moveCalls]
    exact Iff.rfl
  all_goals
    dsimp only [deleteAccount, moveUserAccess, moveSalesforceEvents, moveStories, deleteAliases]
    rw [tables]
  case calls =>
    refine updateWhere_none fun call member => beq_eq_false_iff_ne.mpr ?_
    exact updateWhere_away (fun _ => by simpa using different) call member

end

def crmIdentifiers (db : Database) (accountId : RowId) :
    Option (Option Text × Option Text × Option Text) :=
  (db.accounts.find? (·.id == accountId)).map fun account =>
    (account.salesforceId, account.hubspotId, account.mergeAccountId)

/-- Two merges leave the same on the account, and the same links of participants. -/
structure Agree (first second : Database) (accountId : RowId) : Prop where
  contacts : ∀ row, row.accountId = accountId → (row ∈ first.contacts ↔ row ∈ second.contacts)
  participants : ∀ row, row ∈ first.callParticipants ↔ row ∈ second.callParticipants
  calls : ∀ row, row.accountId = some accountId → (row ∈ first.calls ↔ row ∈ second.calls)
  stories : ∀ row, row.accountId = accountId → (row ∈ first.stories ↔ row ∈ second.stories)
  aliases : ∀ domain, hasAlias first accountId domain = hasAlias second accountId domain
  identifiers : crmIdentifiers first accountId = crmIdentifiers second accountId

/-- No participant is linked to a duplicate, and no CRM identifier is taken over. -/
structure MergesAlike (db : Database) (primary secondary : Account) : Prop where
  participants : ∀ participant ∈ db.callParticipants,
    ∀ contact ∈ duplicates db primary.id secondary.id, participant.contactId ≠ some contact.id
  hubspotId : truthy primary.hubspotId = none → truthy secondary.hubspotId = none
  mergeAccountId : truthy primary.mergeAccountId = none → truthy secondary.mergeAccountId = none

section

variable {db second : Database} {primary secondary : Account}

theorem existingContact_duplicate (held : Constraints db) {contact : Contact}
    (duplicate : contact ∈ duplicates db primary.id secondary.id) :
    existingContact db primary.id contact ≠ none := by
  obtain ⟨row, found⟩ := (emailsOf_known held).mp (mem_duplicates.mp duplicate).2.2
  rw [existingContact, found, Option.map_some]
  exact Option.some_ne_none _

theorem relinked_agree_iff (primary secondary : Account) (held : Constraints db) :
    (∀ row, row ∈ relinked (fun _ => none) (duplicates db primary.id secondary.id)
        db.callParticipants ↔
      row ∈ relinked (existingContact db primary.id) (duplicates db primary.id secondary.id)
        db.callParticipants) ↔
      ∀ participant ∈ db.callParticipants, ∀ contact ∈ duplicates db primary.id secondary.id,
        participant.contactId ≠ some contact.id := by
  have ids := duplicates_ids held primary.id secondary.id
  constructor
  · intro same participant member contact duplicate linked
    have unlinked := (same _).mp (mem_relinked.mpr ⟨participant, member,
      (relink_linked ids duplicate linked).symm⟩)
    obtain ⟨old, inOld, result⟩ := mem_relinked.mp unlinked
    have sameId : participant.id = old.id := by
      rw [← relink_id old, ← result]
    obtain rfl := eq_of_key held.primary.callParticipants member inOld sameId
    rw [relink_linked ids duplicate linked] at result
    exact existingContact_duplicate held duplicate (congrArg CallParticipant.contactId result).symm
  · intro free row
    simp only [mem_relinked]
    refine exists_congr fun old => and_congr_right fun member => ?_
    rw [relink_other (free old member), relink_other (free old member)]

theorem crmIdentifiers_merged (held : Constraints db) (inPrimary : primary ∈ db.accounts)
    (different : primary.id ≠ secondary.id) :
    crmIdentifiers (merged db primary secondary) primary.id =
      some ((textIfMissing primary.salesforceId secondary.salesforceId).or primary.salesforceId,
        (textIfMissing primary.hubspotId secondary.hubspotId).or primary.hubspotId,
        (textIfMissing primary.mergeAccountId secondary.mergeAccountId).or
          primary.mergeAccountId) := by
  have updated : (merged db primary secondary).accounts.find? (·.id == primary.id) =
      some ((crmUpdates primary secondary).apply primary) := by
    have ids : ((updateWhere db.accounts (·.id == primary.id)
        (crmUpdates primary secondary).apply).map (·.id)).Nodup :=
      nodup_updateWhere (CrmUpdates.apply_id _) held.primary.accounts
    rw [merged_accounts]
    refine (find?_key_eq_some (nodup_deleteWhere ids)).mpr ⟨?_, rfl⟩
    exact mem_deleteWhere.mpr ⟨mem_updateWhere.mpr ⟨primary, inPrimary, .inl ⟨by simp, rfl⟩⟩,
      by simpa using different⟩
  rw [crmIdentifiers, updated]
  rfl

theorem crmIdentifiers_absorbed (held : Constraints db) (inPrimary : primary ∈ db.accounts)
    (different : primary.id ≠ secondary.id) (absorbed : Absorbed db second secondary primary) :
    crmIdentifiers second primary.id =
      some (primary.salesforceId, primary.hubspotId, primary.mergeAccountId) := by
  have kept : second.accounts.find? (·.id == primary.id) = some primary := by
    rw [absorbed.accounts]
    refine (find?_key_eq_some (nodup_deleteWhere held.primary.accounts)).mpr ⟨?_, rfl⟩
    exact mem_deleteWhere.mpr ⟨inPrimary, by simpa using different⟩
  rw [crmIdentifiers, kept]
  rfl

theorem merged_agrees_iff (held : Constraints db) (inPrimary : primary ∈ db.accounts)
    (different : primary.id ≠ secondary.id) (fits : MergeFits db primary secondary)
    (absorbed : Absorbed db second secondary primary) :
    Agree (merged db primary secondary) second primary.id ↔ MergesAlike db primary secondary := by
  have links := relinked_agree_iff primary secondary held
  rw [← merged_callParticipants, ← absorbed.callParticipants] at links
  have identifiers : crmIdentifiers (merged db primary secondary) primary.id =
      crmIdentifiers second primary.id ↔
        (truthy primary.hubspotId = none → truthy secondary.hubspotId = none) ∧
        (truthy primary.mergeAccountId = none → truthy secondary.mergeAccountId = none) := by
    rw [crmIdentifiers_merged held inPrimary different,
      crmIdentifiers_absorbed held inPrimary different absorbed]
    simp only [Option.some.injEq, Prod.mk.injEq, or_textIfMissing]
    exact ⟨fun same => same.2, fun same => ⟨fits.identifiers, same⟩⟩
  constructor
  · intro agree
    obtain ⟨hubspotId, mergeAccountId⟩ := identifiers.mp agree.identifiers
    exact ⟨links.mp agree.participants, hubspotId, mergeAccountId⟩
  · intro alike
    refine ⟨fun row _ => ?_, links.mpr alike.participants, fun row _ => ?_, fun row _ => ?_,
      fun domain => ?_, identifiers.mpr ⟨alike.hubspotId, alike.mergeAccountId⟩⟩
    · rw [merged_contacts, absorbed.contacts]
    · rw [merged_calls different, absorbed.calls]
    · rw [merged_stories, absorbed.stories]
    · exact Bool.eq_iff_iff.mpr ((hasAlias_merged different).trans (absorbed.aliases domain).symm)

end

/-- Where both merges succeed, they agree exactly when no participant is linked to
a duplicate contact and no CRM identifier is taken over. -/
theorem merges_agree_iff_alike {db first second : Database} {organizationId : RowId}
    {initiatedByUserId : Option RowId} {notes : Option Text} {result : MergeResult}
    (primary secondary : Account) (held : Constraints db) (fresh : FreshIds db)
    (foundPrimary : findAccount db primary.id organizationId = some primary)
    (foundSecondary : findAccount db secondary.id organizationId = some secondary)
    (different : primary.id ≠ secondary.id)
    (ranMerge : executeMerge db organizationId primary.id secondary.id initiatedByUserId notes =
      .ok (first, result))
    (ranQueue : mergeAccounts db secondary.id primary.id organizationId = .ok second) :
    Agree first second primary.id ↔ MergesAlike db primary secondary := by
  obtain ⟨inPrimary, _, _⟩ := (findAccount_eq_some held).mp foundPrimary
  obtain ⟨fits, ended⟩ :=
    (executeMerge_found held fresh foundPrimary foundSecondary different).mp ranMerge
  obtain ⟨rfl, _⟩ := Prod.mk.inj ended
  have absorbed := mergeAccounts_ok held foundSecondary foundPrimary different ranQueue
  rw [← merged_agrees_iff held inPrimary different fits absorbed]
  constructor
  · rintro ⟨contacts, participants, calls, stories, aliases, identifiers⟩
    exact ⟨contacts, participants, calls, stories, aliases, identifiers⟩
  · rintro ⟨contacts, participants, calls, stories, aliases, identifiers⟩
    exact ⟨contacts, participants, calls, stories, aliases, identifiers⟩

theorem twoOffices_merges_agree :
    ∃ first result second, executeMerge twoOffices 1 10 11 (some 5) none = .ok (first, result) ∧
      mergeAccounts twoOffices 11 10 1 = .ok second ∧ Agree first second 10 := by
  have merge : (executeMerge twoOffices 1 10 11 (some 5) none).toOption.isSome = true := by
    decide +kernel
  have queue : (mergeAccounts twoOffices 11 10 1).toOption.isSome = true := by decide +kernel
  obtain ⟨⟨first, result⟩, ranMerge⟩ := Option.isSome_iff_exists.mp merge
  obtain ⟨second, ranQueue⟩ := Option.isSome_iff_exists.mp queue
  refine ⟨first, result, second, toOption_eq_some.mp ranMerge, toOption_eq_some.mp ranQueue, ?_⟩
  exact (merges_agree_iff_alike acme acmeEurope twoOffices_constraints twoOffices_freshIds rfl rfl
    (by decide) (toOption_eq_some.mp ranMerge) (toOption_eq_some.mp ranQueue)).mpr
      ⟨by decide, by decide, by decide⟩

/-- Only the queue's merge keeps the call with the second office linked to Ann. -/
theorem duplicate_contact_separates_merges :
    Constraints sharedContact ∧ FreshIds sharedContact ∧
    ∃ first result second, executeMerge sharedContact 1 10 11 (some 5) none = .ok (first, result) ∧
      mergeAccounts sharedContact 11 10 1 = .ok second ∧ ¬Agree first second 10 := by
  refine ⟨by decide +kernel, ⟨by decide, by decide⟩, ?_⟩
  have merge : (executeMerge sharedContact 1 10 11 (some 5) none).toOption.map
      (·.1.callParticipants) = some [
        { id := 40, callId := 30, contactId := some 20 }, { id := 41, callId := 31 }] := by
    decide +kernel
  have queue : (mergeAccounts sharedContact 11 10 1).toOption.map (·.callParticipants) = some [
      { id := 40, callId := 30, contactId := some 20 },
      { id := 41, callId := 31, contactId := some 20 }] := by
    decide +kernel
  obtain ⟨⟨first, result⟩, ranMerge, merged⟩ := Option.map_eq_some_iff.mp merge
  obtain ⟨second, ranQueue, absorbed⟩ := Option.map_eq_some_iff.mp queue
  refine ⟨first, result, second, toOption_eq_some.mp ranMerge, toOption_eq_some.mp ranQueue,
    fun agree => ?_⟩
  have linked := (agree.participants { id := 41, callId := 31, contactId := some 20 }).mpr
    (by rw [absorbed]; decide)
  rw [merged] at linked
  revert linked
  decide

end StoryEngine.Accounts
