import StoryEngine.Access.Roles
import StoryEngine.Accounts.MergeOutcome

namespace StoryEngine.Accounts

open Access Data Schema

/-! # What a merge loses -/

theorem canAccessAccount_iff {db : Database} {userId organizationId accountId : RowId}
    {userRole : Option UserRole} :
    canAccessAccount db userId organizationId accountId userRole = true ↔
      isAdminRole userRole = true ∨ ∃ grant ∈ db.userAccountAccess,
        (grant.userId = userId ∧ grant.organizationId = organizationId) ∧
          grantCovers accountId grant = true := by
  simp only [canAccessAccount, Bool.or_eq_true, List.any_eq_true, List.mem_filter,
    Bool.and_eq_true, beq_iff_eq, and_assoc]

def CoversAfter (primaryId secondaryId : RowId) (grant : UserAccountAccess) : Prop :=
  grantCovers primaryId grant = true ∨
    (grant.scopeType = .singleAccount ∧ grant.accountId = some secondaryId)

instance (primaryId secondaryId : RowId) (grant : UserAccountAccess) :
    Decidable (CoversAfter primaryId secondaryId grant) := inferInstanceAs (Decidable (_ ∨ _))

theorem grantCovers_moved {primaryId secondaryId : RowId} {grant : UserAccountAccess} :
    grantCovers primaryId (if grant.accountId == some secondaryId then
        { grant with accountId := some primaryId } else grant) = true ↔
      CoversAfter primaryId secondaryId grant := by
  unfold CoversAfter
  by_cases moves : grant.accountId = some secondaryId
  · cases scope : grant.scopeType <;> simp [grantCovers, moves, scope]
  · simp [moves]

section

variable {db : Database} {primary secondary : Account}

theorem canAccessAccount_merged (different : primary.id ≠ secondary.id)
    {userId organizationId : RowId} {userRole : Option UserRole} :
    canAccessAccount (merged db primary secondary) userId organizationId primary.id userRole =
        true ↔
      isAdminRole userRole = true ∨ ∃ grant ∈ db.userAccountAccess,
        (grant.userId = userId ∧ grant.organizationId = organizationId) ∧
          CoversAfter primary.id secondary.id grant := by
  rw [canAccessAccount_iff, merged_userAccountAccess different, updateWhere]
  refine or_congr_right ?_
  simp only [List.mem_map]
  constructor
  · rintro ⟨_, ⟨grant, member, rfl⟩, owner, covers⟩
    refine ⟨grant, member, ?_, grantCovers_moved.mp covers⟩
    split at owner <;> exact owner
  · rintro ⟨grant, member, owner, covers⟩
    refine ⟨_, ⟨grant, member, rfl⟩, ?_, grantCovers_moved.mpr covers⟩
    split <;> exact owner

end

def AnswersTo (db : Database) (accountId : RowId) (domain : Text) : Prop :=
  (∃ account ∈ db.accounts, account.id = accountId ∧ account.domain = some domain) ∨
    hasAlias db accountId domain = true

/-- Everything that referred to the secondary account refers to the primary one. -/
structure Preserves (before after : Database) (organizationId : RowId)
    (primary secondary : Account) : Prop where
  contacts : ∀ contact ∈ before.contacts, contact.accountId = secondary.id →
    { contact with accountId := primary.id } ∈ after.contacts ∨
      ∃ own ∈ before.contacts, own.accountId = primary.id ∧ own.email = contact.email ∧
        own ∈ after.contacts
  participants : ∀ participant ∈ before.callParticipants, ∀ contact ∈ before.contacts,
    contact.accountId = secondary.id → participant.contactId = some contact.id →
      ∃ kept ∈ after.contacts, kept.accountId = primary.id ∧ kept.email = contact.email ∧
        { participant with contactId := some kept.id } ∈ after.callParticipants
  calls : ∀ call ∈ before.calls, call.accountId = some secondary.id →
    { call with accountId := some primary.id } ∈ after.calls
  stories : ∀ story ∈ before.stories, story.accountId = secondary.id →
    { story with accountId := primary.id } ∈ after.stories
  landingPages : ∀ page ∈ before.landingPages, page ∈ after.landingPages
  quotes : ∀ quote ∈ before.quotes, quote.accountId = secondary.id →
    { quote with accountId := primary.id } ∈ after.quotes
  salesforceEvents : ∀ event ∈ before.salesforceEvents, event.accountId = secondary.id →
    { event with accountId := primary.id } ∈ after.salesforceEvents
  grants : ∀ grant ∈ before.userAccountAccess, grant.accountId = some secondary.id →
    { grant with accountId := some primary.id } ∈ after.userAccountAccess
  /-- An empty text is no domain. -/
  domain : ∀ domain, truthy secondary.domain = some domain → AnswersTo after primary.id domain
  aliases : ∀ row ∈ before.accountDomains, row.accountId = secondary.id →
    AnswersTo after primary.id row.domain
  access : ∀ userId userRole,
    canAccessAccount before userId organizationId secondary.id userRole = true →
      canAccessAccount after userId organizationId primary.id userRole = true

structure NothingToLose (db : Database) (organizationId : RowId)
    (primary secondary : Account) : Prop where
  quotes : ∀ quote ∈ db.quotes, quote.accountId ≠ secondary.id
  participants : ∀ participant ∈ db.callParticipants,
    ∀ contact ∈ duplicates db primary.id secondary.id, participant.contactId ≠ some contact.id
  /-- A user with a list or report that names the secondary account has the
  primary one from another grant. -/
  lists : ∀ grant ∈ db.userAccountAccess, grant.organizationId = organizationId →
    grant.scopeType = .accountList ∨ grant.scopeType = .crmReport →
      secondary.id ∈ grant.cachedAccountIds → ∃ other ∈ db.userAccountAccess,
        (other.userId = grant.userId ∧ other.organizationId = organizationId) ∧
          CoversAfter primary.id secondary.id other

section

variable {db : Database} {primary secondary : Account} {organizationId : RowId}

theorem contact_represented (different : primary.id ≠ secondary.id) {contact : Contact}
    (member : contact ∈ db.contacts) (own : contact.accountId = secondary.id) :
    { contact with accountId := primary.id } ∈ (merged db primary secondary).contacts ∨
      ∃ other ∈ db.contacts, other.accountId = primary.id ∧ other.email = contact.email ∧
        other ∈ (merged db primary secondary).contacts := by
  cases known : (emailsOf db primary.id).contains contact.email with
  | true =>
    obtain ⟨other, inContacts, account, email⟩ := mem_emailsOf.mp known
    exact .inr ⟨other, inContacts, account, email,
      mem_merged_contacts.mpr (.inl ⟨inContacts, account ▸ different⟩)⟩
  | false =>
    exact .inl (mem_merged_contacts.mpr
      (.inr ⟨contact, member, own, mergedContact_eq_some.mpr ⟨known, rfl⟩⟩))

theorem answersTo_own (inPrimary : primary ∈ db.accounts) (different : primary.id ≠ secondary.id)
    {domain : Text} (own : primary.domain = some domain) :
    AnswersTo (merged db primary secondary) primary.id domain := by
  refine .inl ⟨(crmUpdates primary secondary).apply primary, ?_, rfl, own⟩
  rw [merged_accounts, mem_deleteWhere]
  exact ⟨mem_updateWhere.mpr ⟨primary, inPrimary, .inl ⟨by simp, rfl⟩⟩, by simpa using different⟩

private theorem merged_preserves (held : Constraints db) (inPrimary : primary ∈ db.accounts)
    (different : primary.id ≠ secondary.id)
    (nothing : NothingToLose db organizationId primary secondary) :
    Preserves db (merged db primary secondary) organizationId primary secondary where
  contacts contact member own := contact_represented different member own
  participants participant member contact inContacts own linked := by
    have unique : contact ∉ duplicates db primary.id secondary.id :=
      fun duplicate => nothing.participants participant member contact duplicate linked
    have new : (emailsOf db primary.id).contains contact.email = false := by
      cases known : (emailsOf db primary.id).contains contact.email with
      | true => exact absurd (mem_duplicates.mpr ⟨inContacts, own, known⟩) unique
      | false => rfl
    refine ⟨{ contact with accountId := primary.id }, mem_merged_contacts.mpr
      (.inr ⟨contact, inContacts, own, mergedContact_eq_some.mpr ⟨new, rfl⟩⟩), rfl, rfl, ?_⟩
    rw [merged_callParticipants]
    refine mem_relinked.mpr ⟨participant, member, ?_⟩
    rw [participant_merged held inContacts linked, if_neg unique, ← linked]
  calls call member own := by
    rw [merged_calls different]
    exact mem_updateWhere.mpr ⟨call, member, .inl ⟨by simp [own], rfl⟩⟩
  stories story member own := by
    rw [merged_stories]
    exact mem_updateWhere.mpr ⟨story, member, .inl ⟨by simp [own], rfl⟩⟩
  landingPages page member := by rwa [merged_landingPages]
  quotes quote member own := absurd own (nothing.quotes quote member)
  salesforceEvents event member own := by
    rw [merged_salesforceEvents]
    exact mem_updateWhere.mpr ⟨event, member, .inl ⟨by simp [own], rfl⟩⟩
  grants grant member own := by
    rw [merged_userAccountAccess different]
    exact mem_updateWhere.mpr ⟨grant, member, .inl ⟨by simp [own], rfl⟩⟩
  domain domain named := by
    by_cases own : primary.domain = some domain
    · exact answersTo_own inPrimary different own
    · have other : secondary.domain ≠ primary.domain := by
        rw [(truthy_eq_some.mp named).1]
        exact fun same => own same.symm
      refine .inr ((hasAlias_merged different).mpr ?_)
      cases known : hasAlias db primary.id domain with
      | true => exact .inl rfl
      | false => exact .inr (.inl (newDomainAlias_eq_some.mpr ⟨named, other, known⟩))
  aliases row member own := by
    by_cases same : some row.domain = primary.domain
    · exact answersTo_own inPrimary different same.symm
    · exact .inr ((hasAlias_merged different).mpr
        (.inr (.inr ⟨hasAlias_iff.mpr ⟨row, member, own, rfl⟩, same⟩)))
  access userId userRole allowed := by
    rw [canAccessAccount_merged different]
    rcases canAccessAccount_iff.mp allowed with admin | ⟨grant, member, owner, covers⟩
    · exact .inl admin
    · right
      cases scope : grant.scopeType with
      | allAccounts => exact ⟨grant, member, owner, .inl (by simp [grantCovers, scope])⟩
      | singleAccount =>
        exact ⟨grant, member, owner, .inr ⟨scope, by simpa [grantCovers, scope] using covers⟩⟩
      | accountList =>
        obtain ⟨other, inGrants, otherOwner, after⟩ := nothing.lists grant member owner.2
          (.inl scope) (by simpa [grantCovers, scope] using covers)
        exact ⟨other, inGrants, ⟨otherOwner.1.trans owner.1, otherOwner.2⟩, after⟩
      | crmReport =>
        obtain ⟨other, inGrants, otherOwner, after⟩ := nothing.lists grant member owner.2
          (.inr scope) (by simpa [grantCovers, scope] using covers)
        exact ⟨other, inGrants, ⟨otherOwner.1.trans owner.1, otherOwner.2⟩, after⟩

private theorem nothing_lost (held : Constraints db) (different : primary.id ≠ secondary.id)
    (preserved : Preserves db (merged db primary secondary) organizationId primary secondary) :
    NothingToLose db organizationId primary secondary where
  quotes quote member own := by
    have moved := preserved.quotes quote member own
    rw [merged_quotes] at moved
    -- The moved quote would be a second row with the id of the quote.
    have same := eq_of_key held.primary.quotes (mem_deleteWhere.mp moved).1 member rfl
    exact different ((congrArg Quote.accountId same).trans own)
  participants participant member contact duplicate linked := by
    obtain ⟨inContacts, own, _⟩ := mem_duplicates.mp duplicate
    obtain ⟨kept, _, _, _, inAfter⟩ :=
      preserved.participants participant member contact inContacts own linked
    rw [merged_callParticipants] at inAfter
    obtain ⟨old, inOld, same⟩ := mem_relinked.mp inAfter
    have sameId : participant.id = old.id := (congrArg CallParticipant.id same).trans (relink_id old)
    obtain rfl := eq_of_key held.primary.callParticipants member inOld sameId
    rw [participant_merged held inContacts linked, if_pos duplicate] at same
    cases congrArg CallParticipant.contactId same
  lists grant member organization listed cached := by
    have covers : grantCovers secondary.id grant = true := by
      rcases listed with scope | scope <;> simpa [grantCovers, scope] using cached
    have before : canAccessAccount db grant.userId organizationId secondary.id none = true :=
      canAccessAccount_iff.mpr (.inr ⟨grant, member, ⟨rfl, organization⟩, covers⟩)
    rcases (canAccessAccount_merged different).mp (preserved.access grant.userId none before) with
      admin | granted
    · cases admin
    · exact granted

private theorem preserves_recorded {after : Database} {run : AccountMergeRun} :
    Preserves db (recordMergeRun after run) organizationId primary secondary ↔
      Preserves db after organizationId primary secondary :=
  ⟨fun ⟨contacts, participants, calls, stories, pages, quotes, events, grants, domain, aliases,
      access⟩ => ⟨contacts, participants, calls, stories, pages, quotes, events, grants, domain,
      aliases, access⟩,
    fun ⟨contacts, participants, calls, stories, pages, quotes, events, grants, domain, aliases,
      access⟩ => ⟨contacts, participants, calls, stories, pages, quotes, events, grants, domain,
      aliases, access⟩⟩

end

/-- A merge that succeeds preserves everything exactly when the secondary account
has no library quote, no participant of a duplicate contact, and no user who has
it from a list or report alone. -/
theorem merge_preserves_iff_nothing_to_lose {db after : Database} {organizationId : RowId}
    {initiatedByUserId : Option RowId} {notes : Option Text} {result : MergeResult}
    (primary secondary : Account) (held : Constraints db) (fresh : FreshIds db)
    (foundPrimary : findAccount db primary.id organizationId = some primary)
    (foundSecondary : findAccount db secondary.id organizationId = some secondary)
    (different : primary.id ≠ secondary.id)
    (ran : executeMerge db organizationId primary.id secondary.id initiatedByUserId notes =
      .ok (after, result)) :
    Preserves db after organizationId primary secondary ↔
      NothingToLose db organizationId primary secondary := by
  obtain ⟨inPrimary, _, _⟩ := (findAccount_eq_some held).mp foundPrimary
  obtain ⟨_, outcome⟩ :=
    (executeMerge_found held fresh foundPrimary foundSecondary different).mp ran
  obtain ⟨rfl, _⟩ := Prod.mk.inj outcome
  rw [preserves_recorded]
  exact ⟨nothing_lost held different, merged_preserves held inPrimary different⟩

theorem twoOffices_merge_preserves : ∃ after result,
    executeMerge twoOffices 1 10 11 (some 5) none = .ok (after, result) ∧
      Preserves twoOffices after 1 acme acmeEurope := by
  have commits : (executeMerge twoOffices 1 10 11 (some 5) none).isOk = true := by decide +kernel
  cases ran : executeMerge twoOffices 1 10 11 (some 5) none with
  | error failure =>
    rw [ran] at commits
    cases commits
  | ok outcome =>
    refine ⟨outcome.1, outcome.2, rfl, ?_⟩
    exact (merge_preserves_iff_nothing_to_lose acme acmeEurope twoOffices_constraints
      twoOffices_freshIds rfl rfl (by decide) ran).mpr
        ⟨by decide, by decide, by decide⟩

/-- Ann's call with the second office is no longer linked to her. -/
theorem duplicate_contact_unlinks_participant :
    Constraints sharedContact ∧ FreshIds sharedContact ∧ ∃ after result,
      executeMerge sharedContact 1 10 11 (some 5) none = .ok (after, result) ∧
        ¬Preserves sharedContact after 1 acme acmeEurope := by
  refine ⟨by decide +kernel, ⟨by decide, by decide⟩, ?_⟩
  have unlinked : (executeMerge sharedContact 1 10 11 (some 5) none).toOption.map
      (·.1.callParticipants) = some [
        { id := 40, callId := 30, contactId := some 20 }, { id := 41, callId := 31 }] := by
    decide +kernel
  obtain ⟨⟨after, result⟩, ran, participants⟩ := Option.map_eq_some_iff.mp unlinked
  refine ⟨after, result, toOption_eq_some.mp ran, fun preserved => ?_⟩
  obtain ⟨kept, _, _, _, linked⟩ := preserved.participants
    { id := 41, callId := 31, contactId := some 21 } (by decide)
    { id := 21, accountId := 11, email := "ann@acme.com".toList } (by decide) rfl rfl
  rw [participants] at linked
  simp at linked

end StoryEngine.Accounts
