import StoryEngine.Accounts.Agreement
import StoryEngine.Accounts.Undo

namespace StoryEngine.Accounts

open Data Schema

/-! # Owners of domains

An account claims a domain as its own or with an alias.
-/

def Claims (db : Database) (account : Account) (domain : Text) : Prop :=
  account.domain = some domain ∨ hasAlias db account.id domain

def DomainsOwned (organizationId : RowId) (db : Database) : Prop :=
  ∀ left ∈ db.accounts, ∀ right ∈ db.accounts,
    left.organizationId = organizationId → right.organizationId = organizationId →
      ∀ domain, Claims db left domain → Claims db right domain → left.id = right.id

/-- Keys and references of the two tables, and ids that were handed out. -/
structure DomainTables (db : Database) : Prop where
  ids : (db.accounts.map (·.id)).Nodup
  accounts : ∀ account ∈ db.accounts, account.id < db.nextId
  aliases : ∀ row ∈ db.accountDomains, row.accountId ∈ accountIds db
  snapshots : ∀ run ∈ db.accountMergeRuns, run.secondarySnapshot.id < db.nextId

instance (db : Database) : Decidable (DomainTables db) :=
  decidable_of_iff ((db.accounts.map (·.id)).Nodup ∧
      (∀ account ∈ db.accounts, account.id < db.nextId) ∧
      (∀ row ∈ db.accountDomains, row.accountId ∈ accountIds db) ∧
      ∀ run ∈ db.accountMergeRuns, run.secondarySnapshot.id < db.nextId)
    ⟨fun ⟨ids, accounts, aliases, snapshots⟩ => ⟨ids, accounts, aliases, snapshots⟩,
      fun ⟨ids, accounts, aliases, snapshots⟩ => ⟨ids, accounts, aliases, snapshots⟩⟩

/-- The tables are sound, and the domains of the organization have one owner each. -/
structure DomainsSound (organizationId : RowId) (db : Database) : Prop where
  tables : DomainTables db
  owned : DomainsOwned organizationId db

/-- An account with the id, the organization and the domain was there before. -/
def Former (before : Database) (account : Account) : Prop :=
  ∃ former ∈ before.accounts, former.id = account.id ∧
    former.organizationId = account.organizationId ∧ former.domain = account.domain

section

variable {organizationId : RowId} {db before after : Database} {account primary secondary : Account}
  {domain : Text}

/-- Neither accounts nor aliases nor merge runs are written. -/
structure SameDomains (before after : Database) : Prop where
  accounts : after.accounts = before.accounts
  accountDomains : after.accountDomains = before.accountDomains
  accountMergeRuns : after.accountMergeRuns = before.accountMergeRuns
  nextId : before.nextId ≤ after.nextId

theorem SameDomains.refl (db : Database) : SameDomains db db := ⟨rfl, rfl, rfl, Nat.le_refl _⟩

theorem SameDomains.trans {later : Database} (first : SameDomains before after)
    (second : SameDomains after later) : SameDomains before later :=
  ⟨second.accounts.trans first.accounts, second.accountDomains.trans first.accountDomains,
    second.accountMergeRuns.trans first.accountMergeRuns, Nat.le_trans first.nextId second.nextId⟩

theorem DomainsOwned.same (owned : DomainsOwned organizationId before)
    (same : SameDomains before after) : DomainsOwned organizationId after := by
  unfold DomainsOwned Claims hasAlias at owned ⊢
  rwa [same.accounts, same.accountDomains]

theorem DomainTables.same (tables : DomainTables before) (same : SameDomains before after) :
    DomainTables after where
  ids := same.accounts ▸ tables.ids
  accounts := fun account member =>
    Nat.lt_of_lt_of_le (tables.accounts account (same.accounts ▸ member)) same.nextId
  aliases := fun row member => by
    rw [accountIds, same.accounts]
    exact tables.aliases row (same.accountDomains ▸ member)
  snapshots := fun run member =>
    Nat.lt_of_lt_of_le (tables.snapshots run (same.accountMergeRuns ▸ member)) same.nextId

theorem DomainsSound.same (sound : DomainsSound organizationId before)
    (same : SameDomains before after) : DomainsSound organizationId after :=
  ⟨sound.tables.same same, sound.owned.same same⟩

theorem DomainsOwned.succeed (owned : DomainsOwned organizationId before) (successor : RowId → RowId)
    (claims : ∀ account ∈ after.accounts, account.organizationId = organizationId →
      ∀ domain, Claims after account domain →
        ∃ former ∈ before.accounts, former.organizationId = organizationId ∧
          Claims before former domain ∧ successor former.id = account.id) :
    DomainsOwned organizationId after := by
  intro left inLeft right inRight ownLeft ownRight domain claimsLeft claimsRight
  obtain ⟨formerLeft, thereLeft, orgLeft, hadLeft, isLeft⟩ :=
    claims left inLeft ownLeft domain claimsLeft
  obtain ⟨formerRight, thereRight, orgRight, hadRight, isRight⟩ :=
    claims right inRight ownRight domain claimsRight
  have same := owned formerLeft thereLeft formerRight thereRight orgLeft orgRight domain hadLeft
    hadRight
  rw [← isLeft, ← isRight, same]

structure ClaimsMore (before after : Database) (owner accountId : RowId) (domain : Text) : Prop where
  organization : ∀ account ∈ after.accounts, account.id = accountId → account.organizationId = owner
  claims : ∀ account ∈ after.accounts, ∀ claimed, Claims after account claimed →
    (∃ former ∈ before.accounts, former.id = account.id ∧
      former.organizationId = account.organizationId ∧ Claims before former claimed) ∨
        account.id = accountId ∧ claimed = domain

theorem DomainsOwned.claim {owner accountId : RowId} (owned : DomainsOwned organizationId before)
    (more : ClaimsMore before after owner accountId domain)
    (free : ∀ account ∈ before.accounts, account.organizationId = owner →
      Claims before account domain → account.id = accountId) :
    DomainsOwned organizationId after := by
  -- The account that claims more, or one of before; only the first can be new to the domain.
  have newcomer {left right : Account} (inRight : right ∈ after.accounts)
      (ownLeft : left.organizationId = organizationId)
      (ownRight : right.organizationId = organizationId) (isLeft : left.id = accountId)
      (inLeft : left ∈ after.accounts) (claimsRight : Claims after right domain) :
      left.id = right.id := by
    rcases more.claims right inRight domain claimsRight with ⟨former, there, same, org, had⟩ | ⟨isRight, _⟩
    · have isOwner : former.organizationId = owner := by
        rw [org, ownRight, ← ownLeft, more.organization left inLeft isLeft]
      rw [isLeft, ← same, free former there isOwner had]
    · exact isLeft.trans isRight.symm
  intro left inLeft right inRight ownLeft ownRight claimed claimsLeft claimsRight
  rcases more.claims left inLeft claimed claimsLeft with ⟨formerLeft, thereLeft, sameLeft, orgLeft, hadLeft⟩ |
    ⟨isLeft, rfl⟩
  · rcases more.claims right inRight claimed claimsRight with
      ⟨formerRight, thereRight, sameRight, orgRight, hadRight⟩ | ⟨isRight, rfl⟩
    · rw [← sameLeft, ← sameRight]
      exact owned formerLeft thereLeft formerRight thereRight (orgLeft.trans ownLeft)
        (orgRight.trans ownRight) claimed hadLeft hadRight
    · exact (newcomer inLeft ownRight ownLeft isRight inRight claimsLeft).symm
  · exact newcomer inRight ownLeft ownRight isLeft inLeft claimsRight

variable {claimed : Text}

theorem claims_createAlias {toId : RowId}
    (claims : Claims (createAlias db toId domain) account claimed) :
    Claims db account claimed ∨ account.id = toId ∧ claimed = domain := by
  rcases claims with own | known
  · exact .inl (.inl own)
  · obtain ⟨row, member, account, same⟩ := hasAlias_iff.mp known
    rcases List.mem_append.mp member with inTable | isNew
    · exact .inl (.inr (hasAlias_iff.mpr ⟨row, inTable, account, same⟩))
    · obtain rfl := List.mem_singleton.mp isNew
      exact .inr ⟨account.symm, same.symm⟩

theorem createAlias_claimsMore (tables : DomainTables db) (member : account ∈ db.accounts) :
    ClaimsMore db (createAlias db account.id domain) account.organizationId account.id domain where
  organization other inTable same := by rw [eq_of_key tables.ids inTable member same]
  claims other inTable claimed claims :=
    (claims_createAlias claims).imp_left fun had => ⟨other, inTable, rfl, rfl, had⟩

theorem createAlias_tables (tables : DomainTables db) (member : account ∈ db.accounts) :
    DomainTables (createAlias db account.id domain) where
  ids := tables.ids
  accounts := fun other inTable => Nat.lt_succ_of_lt (tables.accounts other inTable)
  aliases := fun row inTable => by
    rcases List.mem_append.mp inTable with inOld | isNew
    · exact tables.aliases row inOld
    · rw [List.mem_singleton.mp isNew]
      exact List.mem_map_of_mem member
  snapshots := fun run inTable => Nat.lt_succ_of_lt (tables.snapshots run inTable)

theorem claims_append {other : Account} (tables : DomainTables before)
    (accounts : after.accounts = before.accounts ++ [account])
    (accountDomains : after.accountDomains = before.accountDomains)
    (fresh : account.id ∉ accountIds before) (inTable : other ∈ after.accounts)
    (claims : Claims after other claimed) :
    (other ∈ before.accounts ∧ Claims before other claimed) ∨
      other = account ∧ account.domain = some claimed := by
  have aliases : hasAlias after other.id claimed = hasAlias before other.id claimed := by
    rw [hasAlias, accountDomains, hasAlias]
  rw [Claims, aliases] at claims
  rw [accounts] at inTable
  rcases List.mem_append.mp inTable with inOld | isNew
  · exact .inl ⟨inOld, claims⟩
  · obtain rfl := List.mem_singleton.mp isNew
    rcases claims with own | known
    · exact .inr ⟨rfl, own⟩
    · obtain ⟨row, member, refers, _⟩ := hasAlias_iff.mp known
      exact absurd (refers ▸ tables.aliases row member) fresh

theorem DomainsOwned.append (owned : DomainsOwned organizationId before)
    (tables : DomainTables before) (accounts : after.accounts = before.accounts ++ [account])
    (accountDomains : after.accountDomains = before.accountDomains)
    (fresh : account.id ∉ accountIds before)
    (free : ∀ domain ∈ account.domain, ∀ other ∈ before.accounts,
      other.organizationId = account.organizationId → ¬ Claims before other domain) :
    DomainsOwned organizationId after := by
  have came {other : Account} {claimed : Text} (inTable : other ∈ after.accounts)
      (claims : Claims after other claimed) :=
    claims_append tables accounts accountDomains fresh inTable claims
  cases own : account.domain with
  | none =>
    refine owned.succeed id fun other inTable org claimed claims => ?_
    rcases came inTable claims with ⟨inOld, had⟩ | ⟨_, isOwn⟩
    · exact ⟨other, inOld, org, had, rfl⟩
    · rw [own] at isOwn
      cases isOwn
  | some domain =>
    have more : ClaimsMore before after account.organizationId account.id domain := by
      refine ⟨fun other inTable same => ?_, fun other inTable claimed claims => ?_⟩
      · rw [accounts] at inTable
        rcases List.mem_append.mp inTable with inOld | isNew
        · exact absurd (same ▸ List.mem_map_of_mem inOld) fresh
        · rw [List.mem_singleton.mp isNew]
      · rcases came inTable claims with ⟨inOld, had⟩ | ⟨rfl, isOwn⟩
        · exact .inl ⟨other, inOld, rfl, rfl, had⟩
        · exact .inr ⟨rfl, Option.some.inj (isOwn.symm.trans own)⟩
    exact owned.claim more
      fun other inTable org claims => absurd claims (free domain own other inTable org)

theorem DomainTables.append (tables : DomainTables before)
    (accounts : after.accounts = before.accounts ++ [account])
    (accountDomains : after.accountDomains = before.accountDomains)
    (runs : after.accountMergeRuns = before.accountMergeRuns)
    (fresh : account.id ∉ accountIds before) (id : account.id < after.nextId)
    (nextId : before.nextId ≤ after.nextId) : DomainTables after where
  ids := by
    rw [accounts]
    exact nodup_map_append_fresh tables.ids fun old member same =>
      fresh (same ▸ List.mem_map_of_mem member)
  accounts := fun other member => by
    rw [accounts] at member
    rcases List.mem_append.mp member with inOld | isNew
    · exact Nat.lt_of_lt_of_le (tables.accounts other inOld) nextId
    · rwa [List.mem_singleton.mp isNew]
  aliases := fun row member => by
    rw [accountIds, accounts, List.map_append]
    exact List.mem_append_left _ (tables.aliases row (accountDomains ▸ member))
  snapshots := fun run member => Nat.lt_of_lt_of_le (tables.snapshots run (runs ▸ member)) nextId

theorem DomainTables.nextId_fresh (tables : DomainTables db) : db.nextId ∉ accountIds db := by
  intro known
  obtain ⟨account, member, same⟩ := List.mem_map.mp known
  exact absurd (tables.accounts account member) (by rw [same]; exact Nat.lt_irrefl _)

end

/-- The secondary account is gone, and an alias was one before, or belongs to the
primary account for a domain of the secondary one. -/
structure TakesOver (primary secondary : Account) (before after : Database) : Prop where
  accounts : ∀ account ∈ after.accounts, account.id ≠ secondary.id ∧ Former before account
  aliases : ∀ row ∈ after.accountDomains, hasAlias before row.accountId row.domain ∨
    row.accountId = primary.id ∧ Claims before secondary row.domain

theorem findAccount_found {db : Database} {accountId organizationId : RowId} {account : Account}
    (found : findAccount db accountId organizationId = some account) :
    account ∈ db.accounts ∧ account.id = accountId ∧ account.organizationId = organizationId := by
  have criterion := List.find?_some found
  simp only [Bool.and_eq_true, beq_iff_eq] at criterion
  exact ⟨List.mem_of_find?_eq_some found, criterion.1, criterion.2⟩

variable {primaryAccountId : RowId} {outcome : Database × List RowId} {row : AccountDomain}

theorem moveContact_same {db : Database} {emails : List Text}
    {moved : List RowId} {contact : Contact}
    (ran : moveContact primaryAccountId emails (db, moved) contact = .ok outcome) :
    SameDomains db outcome.1 := by
  unfold moveContact at ran
  dsimp only at ran
  split at ran
  · simp only [bind_eq_ok, statement_eq_ok, pure_eq_ok] at ran
    obtain ⟨_, ⟨_, rfl⟩, _, ⟨_, rfl⟩, rfl⟩ := ran
    exact ⟨rfl, rfl, rfl, Nat.le_refl _⟩
  · simp only [bind_eq_ok, statement_eq_ok, pure_eq_ok] at ran
    obtain ⟨_, ⟨_, rfl⟩, rfl⟩ := ran
    exact ⟨rfl, rfl, rfl, Nat.le_refl _⟩

theorem moveContacts_same {db : Database} {secondaryAccountId : RowId}
    (ran : moveContacts db primaryAccountId secondaryAccountId = .ok outcome) :
    SameDomains db outcome.1 :=
  foldlM_invariant (fun _ state => SameDomains db state.1)
    (fun _ _ _ _ _ _ same turn => same.trans (moveContact_same turn)) (.refl db) ran

theorem addDomainAlias_constraints {db next : Database} {primary secondary : Account}
    {added : List Text} (held : Constraints db)
    (ran : addDomainAlias db primary secondary = .ok (next, added)) : Constraints next := by
  unfold addDomainAlias at ran
  split at ran
  · obtain ⟨rfl, _⟩ := Prod.mk.inj (pure_eq_ok.mp ran)
    exact held
  · simp only [bind_eq_ok, statement_eq_ok, pure_eq_ok, Prod.mk.injEq] at ran
    obtain ⟨_, ⟨next, rfl⟩, rfl, _⟩ := ran
    exact next

theorem mem_domainAdded_origin {db : Database} {primary secondary : Account}
    (member : row ∈ (domainAdded db primary secondary).accountDomains) :
    hasAlias db row.accountId row.domain ∨
      row.accountId = primary.id ∧ secondary.domain = some row.domain := by
  rcases mem_domainAdded.mp member with inTable | ⟨domain, wanted, rfl⟩
  · exact .inl (hasAlias_iff.mpr ⟨row, inTable, rfl, rfl⟩)
  · exact .inr ⟨rfl, (truthy_eq_some.mp (newDomainAlias_eq_some.mp wanted).1).1⟩

theorem aliasesMerged_origin {db : Database} {primary secondary : Account}
    (member : row ∈ (aliasesMerged (domainAdded db primary secondary) primary
      secondary.id).accountDomains) :
    hasAlias db row.accountId row.domain ∨
      row.accountId = primary.id ∧ Claims db secondary row.domain := by
  obtain ⟨old, inAdded, ⟨inLoop, changed⟩ | ⟨_, rfl⟩⟩ := mem_passed.mp member
  · obtain ⟨_, unknown, rfl⟩ := mergedAlias_eq_some.mp changed
    have own : old.accountId = secondary.id := by simpa using (List.mem_filter.mp inLoop).2
    rcases mem_domainAdded_origin inAdded with had | ⟨isPrimary, had⟩
    · exact .inr ⟨rfl, .inr (own ▸ had)⟩
    · exact .inr ⟨rfl, .inl had⟩
  · exact (mem_domainAdded_origin inAdded).imp_right (And.imp_right .inl)

theorem identifiersMerged_former {db : Database} {primary secondary account : Account}
    (member : account ∈ (identifiersMerged db primary secondary).accounts) : Former db account := by
  obtain ⟨old, inTable, ⟨_, rfl⟩ | ⟨_, rfl⟩⟩ := mem_updateWhere.mp member
  · exact ⟨old, inTable, rfl, rfl, rfl⟩
  · exact ⟨account, inTable, rfl, rfl, rfl⟩

structure MergesDomains (owner primaryId secondaryId : RowId) (before after : Database)
    (primary secondary : Account) : Prop where
  foundPrimary : findAccount before primaryId owner = some primary
  foundSecondary : findAccount before secondaryId owner = some secondary
  takes : TakesOver primary secondary before after
  keys : Constraints after
  nextId : before.nextId ≤ after.nextId
  runs : ∀ run ∈ after.accountMergeRuns,
    run ∈ before.accountMergeRuns ∨ run.secondarySnapshot.id = secondary.id

section

variable {organizationId owner primaryId secondaryId : RowId} {before between after : Database}
  {primary secondary : Account}

theorem MergesDomains.owned
    (merges : MergesDomains owner primaryId secondaryId before after primary secondary)
    (tables : DomainTables before) (owned : DomainsOwned organizationId before) :
    DomainsOwned organizationId after := by
  obtain ⟨inPrimary, _, ownPrimary⟩ := findAccount_found merges.foundPrimary
  obtain ⟨inSecondary, _, ownSecondary⟩ := findAccount_found merges.foundSecondary
  refine owned.succeed (fun id => if id = secondary.id then primary.id else id)
    fun account member org claimed claims => ?_
  obtain ⟨other, former, there, same, sameOrg, sameDomain⟩ := merges.takes.accounts account member
  have kept : (if former.id = secondary.id then primary.id else former.id) = account.id := by
    rw [same, if_neg other]
  rcases claims with own | known
  · exact ⟨former, there, sameOrg.trans org, .inl (sameDomain.trans own), kept⟩
  · obtain ⟨row, inAliases, refers, rfl⟩ := hasAlias_iff.mp known
    rcases merges.takes.aliases row inAliases with had | ⟨isPrimary, had⟩
    · exact ⟨former, there, sameOrg.trans org, .inr (by rwa [same, ← refers]), kept⟩
    · have isAccount : former.id = primary.id := same.trans (refers.symm.trans isPrimary)
      obtain rfl := eq_of_key tables.ids there inPrimary isAccount
      have ownOrg := ownSecondary.trans (ownPrimary.symm.trans (sameOrg.trans org))
      exact ⟨secondary, inSecondary, ownOrg, had, (if_pos rfl).trans same⟩

theorem MergesDomains.tables
    (merges : MergesDomains owner primaryId secondaryId before after primary secondary)
    (tables : DomainTables before) : DomainTables after where
  ids := merges.keys.primary.accounts
  accounts := fun account member => by
    obtain ⟨_, former, there, same, _, _⟩ := merges.takes.accounts account member
    exact Nat.lt_of_lt_of_le (same ▸ tables.accounts former there) merges.nextId
  aliases := fun row member => references_iff.mp merges.keys.foreign.accountDomains row member _ rfl
  snapshots := fun run member => by
    refine Nat.lt_of_lt_of_le ?_ merges.nextId
    rcases merges.runs run member with there | isSecondary
    · exact tables.snapshots run there
    · rw [isSecondary]
      exact tables.accounts secondary (findAccount_found merges.foundSecondary).1

theorem MergesDomains.sound
    (merges : MergesDomains owner primaryId secondaryId before after primary secondary)
    (sound : DomainsSound organizationId before) : DomainsSound organizationId after :=
  ⟨merges.tables sound.tables, merges.owned sound.tables sound.owned⟩

theorem domainAdded_nextId : before.nextId ≤ (domainAdded before primary secondary).nextId := by
  unfold domainAdded
  split
  · exact Nat.le_refl _
  · exact Nat.le_succ _

/-- The accounts and aliases that `executeMerge` leaves. -/
def domainsLeft (db : Database) (primary secondary : Account) : Database :=
  deleteAccount (identifiersMerged
    (aliasesMerged (domainAdded db primary secondary) primary secondary.id) primary secondary)
    secondary.id

theorem domainsLeft_takesOver (same : SameDomains before between) :
    TakesOver primary secondary before (domainsLeft between primary secondary) where
  accounts account member := by
    obtain ⟨inTable, other⟩ := mem_deleteWhere.mp member
    obtain ⟨former, there, kept⟩ := identifiersMerged_former inTable
    obtain ⟨nextId, accountDomains, frame⟩ := domainAdded_frame between primary secondary
    have accounts : (aliasesMerged (domainAdded between primary secondary) primary
        secondary.id).accounts = before.accounts := by
      rw [aliasesMerged, aliasesState, frame]
      exact same.accounts
    exact ⟨by simpa using other, former, accounts ▸ there, kept⟩
  aliases row member := by
    have origin := aliasesMerged_origin (mem_deleteWhere.mp member).1
    unfold Claims hasAlias at origin ⊢
    rwa [same.accountDomains] at origin

theorem executeMerge_domains {initiatedByUserId : Option RowId} {notes : Option Text}
    {result : MergeResult}
    (ran : executeMerge before owner primaryId secondaryId initiatedByUserId notes =
      .ok (after, result)) :
    ∃ primary secondary, MergesDomains owner primaryId secondaryId before after primary secondary := by
  simp only [executeMerge, bind_eq_ok, required_eq_ok, ensure_eq_ok, statement_eq_ok, Prod.exists,
    pure_eq_ok, Prod.mk.injEq] at ran
  obtain ⟨primary, foundPrimary, secondary, foundSecondary, _, different, _, _, snapshot, preview,
    contactsMoved, movedContactIds, contacts, _, ⟨_, rfl⟩, _, ⟨_, rfl⟩, _, ⟨_, rfl⟩, accessMoved,
    ⟨held, isMoved⟩, _, _, adds, _, _, moves, identifiers, merges, deleted, ⟨final, rfl⟩, rfl, _⟩ := ran
  obtain ⟨inPrimary, rfl, _⟩ := findAccount_found foundPrimary
  obtain ⟨inSecondary, rfl, _⟩ := findAccount_found foundSecondary
  have apart : primary.id ≠ secondary.id := by simpa using different
  have same : SameDomains before accessMoved :=
    (moveContacts_same contacts).trans (isMoved ▸ ⟨rfl, rfl, rfl, Nat.le_refl _⟩)
  rw [← isMoved] at held
  have addedHeld := addDomainAlias_constraints held adds
  obtain rfl := addDomainAlias_ok adds
  have known : primary.id ∈ accountIds (domainAdded accessMoved primary secondary) := by
    rw [domainAdded_accountIds]
    exact List.mem_map_of_mem (same.accounts.symm ▸ inPrimary)
  rw [moveAliases_eq_ok addedHeld known apart] at moves
  obtain ⟨rfl, _⟩ := Prod.mk.inj (Except.ok.inj moves)
  obtain ⟨_, rfl⟩ := (mergeCrmIdentifiers_eq_ok (aliasesMerged_constraints addedHeld known)).mp merges
  obtain ⟨nextId, accountDomains, frame⟩ := domainAdded_frame accessMoved primary secondary
  have grows : before.nextId ≤ (domainsLeft accessMoved primary secondary).nextId :=
    Nat.le_trans same.nextId domainAdded_nextId
  have runs : (domainsLeft accessMoved primary secondary).accountMergeRuns =
      before.accountMergeRuns := by
    rw [← same.accountMergeRuns]
    dsimp only [domainsLeft, deleteAccount, identifiersMerged, updateAccount, aliasesMerged,
      aliasesState]
    rw [frame]
  have snapshotId : snapshot.id = secondary.id := by
    unfold loadAccountPreview at preview
    rw [foundSecondary] at preview
    obtain rfl := Except.ok.inj preview
    rfl
  refine ⟨primary, secondary, foundPrimary, foundSecondary, ⟨?_, ?_⟩,
    recordMergeRun_constraints final, Nat.le_succ_of_le grows, fun run member => ?_⟩
  · exact (domainsLeft_takesOver same).accounts
  · exact (domainsLeft_takesOver same).aliases
  · rcases List.mem_append.mp member with there | isNew
    · exact .inl (runs ▸ there)
    · rw [List.mem_singleton.mp isNew]
      exact .inr snapshotId

theorem copyAliases_origin {db next : Database} {source target : Account}
    (ran : copyAliases db source target = .ok next) :
    db.nextId ≤ next.nextId ∧ ∀ row ∈ next.accountDomains,
      row ∈ db.accountDomains ∨ row.accountId = target.id ∧ hasAlias db source.id row.domain := by
  refine foldlM_invariant (fun _ state => db.nextId ≤ state.nextId ∧
      ∀ row ∈ state.accountDomains,
        row ∈ db.accountDomains ∨ row.accountId = target.id ∧ hasAlias db source.id row.domain)
    (fun done item rest state next whole reached turn => ?_)
    ⟨Nat.le_refl _, fun row member => .inl member⟩ ran
  have inLoop : item ∈ db.accountDomains.filter (·.accountId == source.id) := by simp [whole]
  obtain ⟨inTable, own⟩ := List.mem_filter.mp inLoop
  unfold copyAlias at turn
  split at turn
  · obtain ⟨_, rfl⟩ := statement_eq_ok.mp turn
    refine ⟨Nat.le_succ_of_le reached.1, fun row member => ?_⟩
    rcases List.mem_append.mp member with inState | isNew
    · exact reached.2 row inState
    · obtain rfl := List.mem_singleton.mp isNew
      exact .inr ⟨rfl, hasAlias_iff.mpr ⟨item, inTable, by simpa using own, rfl⟩⟩
  · obtain rfl := pure_eq_ok.mp turn
    exact reached

theorem mergeAccounts_domains
    (ran : mergeAccounts before secondaryId primaryId owner = .ok after) :
    ∃ primary secondary, MergesDomains owner primaryId secondaryId before after primary secondary := by
  simp only [mergeAccounts, bind_eq_ok, required_eq_ok, ensure_eq_ok, statement_eq_ok,
    Prod.exists] at ran
  obtain ⟨secondary, foundSecondary, primary, foundPrimary, _, different, _, ⟨moved, rfl⟩, absorbed,
    absorbs, added, _, adds, copied, copies, _, ⟨_, rfl⟩, _, ⟨_, rfl⟩, _, ⟨_, rfl⟩, _, ⟨_, rfl⟩,
    final, rfl⟩ := ran
  obtain ⟨inPrimary, rfl, _⟩ := findAccount_found foundPrimary
  obtain ⟨inSecondary, rfl, _⟩ := findAccount_found foundSecondary
  have apart : primary.id ≠ secondary.id := (by simpa using different : secondary.id ≠ primary.id).symm
  have same : SameDomains before absorbed := by
    rw [absorbContacts_ok moved apart absorbs]
    exact ⟨rfl, rfl, rfl, Nat.le_refl _⟩
  obtain rfl := addDomainAlias_ok adds
  obtain ⟨only, _⟩ := copyAliases_ok copies
  obtain ⟨copiedNextId, origin⟩ := copyAliases_origin copies
  obtain ⟨nextId, accountDomains, frame⟩ := domainAdded_frame absorbed primary secondary
  have aliases (accountId : RowId) (domain : Text) :
      hasAlias absorbed accountId domain = hasAlias before accountId domain := by
    rw [hasAlias, same.accountDomains, hasAlias]
  refine ⟨primary, secondary, foundPrimary, foundSecondary, ⟨fun account member => ?_,
    fun row member => ?_⟩, final, ?_, fun run member => .inl ?_⟩
  · obtain ⟨inTable, other⟩ := mem_deleteWhere.mp member
    refine ⟨by simpa using other, account, ?_, rfl, rfl, rfl⟩
    rw [← same.accounts]
    dsimp only [moveUserAccess, moveSalesforceEvents, moveStories, deleteAliases] at inTable
    rwa [only, frame] at inTable
  · have inCopied := (mem_deleteWhere.mp (mem_deleteWhere.mp member).1).1
    rcases origin row inCopied with inAdded | ⟨isPrimary, had⟩
    · rw [← aliases]
      exact (mem_domainAdded_origin inAdded).imp_right (And.imp_right .inl)
    · rw [hasAlias_domainAdded_source apart, aliases] at had
      exact .inr ⟨isPrimary, .inr had⟩
  · exact Nat.le_trans same.nextId (Nat.le_trans domainAdded_nextId copiedNextId)
  · rw [← same.accountMergeRuns]
    dsimp only [deleteAccount, moveUserAccess, moveSalesforceEvents, moveStories,
      deleteAliases] at member
    rwa [only, frame] at member

/-- A domain that an account of the organization has as an alias is the own domain
of one. -/
def NoBareAlias (organizationId : RowId) (db : Database) (domain : Text) : Prop :=
  ∀ account ∈ db.accounts, account.organizationId = organizationId →
    hasAlias db account.id domain →
      ∃ other ∈ db.accounts, other.organizationId = organizationId ∧ other.domain = some domain

/-- An account that the undo of the run creates again has no domain that meanwhile is
an alias only. -/
def UndoFits (owner mergeRunId : RowId) (db : Database) : Prop :=
  ∀ run ∈ db.accountMergeRuns.find? (fun run => run.id == mergeRunId && run.organizationId == owner),
    findAccount db run.secondarySnapshot.id owner = none →
      ∀ domain ∈ run.secondarySnapshot.domain, NoBareAlias owner db domain

variable {cases : CaseMapping} {undoneByUserId : Option RowId} {now : Date}

theorem restoreSecondary_cases {snapshot : AccountSnapshot}
    (ran : restoreSecondary cases before owner snapshot = .ok between) :
    between = before ∨ findAccount before snapshot.id owner = none ∧ Constraints between ∧
      between = { before with
        accounts := before.accounts ++ [restoredAccount cases owner snapshot] } := by
  unfold restoreSecondary at ran
  split at ran
  · exact .inl (pure_eq_ok.mp ran).symm
  · next absent =>
      obtain ⟨held, rfl⟩ := statement_eq_ok.mp ran
      exact .inr ⟨by simpa using absent, held, rfl⟩

theorem Constraints.domain_apart {left right : Account} (held : Constraints before)
    (inLeft : left ∈ before.accounts) (inRight : right ∈ before.accounts) {domain : Text}
    (organization : left.organizationId = right.organizationId)
    (ownLeft : left.domain = some domain) (ownRight : right.domain = some domain) : left = right :=
  (uniqueBy_iff (nodup_of_keys held.primary.accounts)).mp held.unique.domains left inLeft
    right inRight (left.organizationId, domain) (by rw [domainKey, ownLeft]; rfl)
      (by rw [domainKey, ownRight, organization]; rfl)

theorem restored_domains {account : Account} (sound : DomainsSound organizationId before)
    (held : Constraints { before with accounts := before.accounts ++ [account] })
    (id : account.id < before.nextId)
    (free : ∀ domain ∈ account.domain, NoBareAlias account.organizationId before domain) :
    DomainsSound organizationId { before with accounts := before.accounts ++ [account] } := by
  have fresh : account.id ∉ accountIds before := by
    intro known
    obtain ⟨old, inOld, same⟩ := List.mem_map.mp known
    have ids := held.primary.accounts
    rw [List.map_append, List.nodup_append] at ids
    exact ids.2.2 _ (List.mem_map_of_mem inOld) account.id (by simp) same
  have ownFree (other : Account) (inOld : other ∈ before.accounts)
      (org : other.organizationId = account.organizationId) (domain : Text)
      (own : account.domain = some domain) : other.domain ≠ some domain := by
    intro taken
    obtain rfl := held.domain_apart (List.mem_append_left _ inOld)
      (List.mem_append_right _ (List.mem_singleton_self _)) org taken own
    exact fresh (List.mem_map_of_mem inOld)
  refine ⟨sound.tables.append rfl rfl rfl fresh id (Nat.le_refl _),
    sound.owned.append sound.tables rfl rfl fresh fun domain own other inOld org claims => ?_⟩
  rcases claims with taken | known
  · exact ownFree other inOld org domain own taken
  · obtain ⟨holder, inTable, holderOrg, taken⟩ := free domain own other inOld org known
    exact ownFree holder inTable holderOrg domain own taken

theorem markUndone_tables {runId : RowId}
    (tables : DomainTables before) : DomainTables (markUndone before runId undoneByUserId now) where
  ids := tables.ids
  accounts := tables.accounts
  aliases := tables.aliases
  snapshots := forall_mem_updateWhere tables.snapshots fun _ _ _ snapshot => snapshot

theorem undoMerge_domains {mergeRunId : RowId}
    {result : UndoResult}
    (sound : DomainsSound organizationId before) (fits : UndoFits owner mergeRunId before)
    (ran : undoMerge cases before owner mergeRunId undoneByUserId now = .ok (after, result)) :
    DomainsSound organizationId after := by
  simp only [undoMerge, bind_eq_ok, required_eq_ok, ensure_eq_ok, statement_eq_ok, pure_eq_ok,
    Prod.mk.injEq] at ran
  obtain ⟨run, found, _, _, restored, restores, _, ⟨_, rfl⟩, _, ⟨_, rfl⟩, _, ⟨_, rfl⟩, rfl, _⟩ := ran
  have back : DomainsSound organizationId restored := by
    rcases restoreSecondary_cases restores with rfl | ⟨absent, held, rfl⟩
    · exact sound
    · exact restored_domains sound held
        (sound.tables.snapshots run (List.mem_of_find?_eq_some found)) (fits run found absent)
  have same : SameDomains restored
      (restoreStories (restoreCalls (restoreContacts restored run) run) run) :=
    ⟨rfl, rfl, rfl, Nat.le_refl _⟩
  have owned := back.owned.same same
  exact ⟨markUndone_tables (back.tables.same same), owned⟩

end

end StoryEngine.Accounts
