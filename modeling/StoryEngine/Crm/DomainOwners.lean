import StoryEngine.Crm.AccountBatches
import StoryEngine.Data.Run
import StoryEngine.Ingestion.PersistCall
import StoryEngine.Resolution.Domains

namespace StoryEngine.Crm

open Accounts Data Ingestion Resolution Schema Statements Text

/-! # Every operation that writes a domain -/

inductive DomainOperation where
  | resolveCall (organizationId callId accountId : RowId)
  | createAccountFromCall (organizationId callId : RowId) (name : Text) (domain : Option Text)
  | executeMerge (organizationId primaryAccountId secondaryAccountId : RowId)
      (initiatedByUserId : Option RowId) (notes : Option Text)
  | undoMerge (organizationId mergeRunId : RowId) (undoneByUserId : Option RowId) (now : Date)
  | mergeAccounts (organizationId sourceAccountId targetAccountId : RowId)
  | persistAccountBatch (organizationId : RowId) (accounts : List NormalizedAccount)
  /-- Creates an account for the hints of a call that is resolved to none. -/
  | persistCall (organizationId : RowId) (provider : CallProvider) (call : NormalizedCall)
      (stop : Option PersistStep)

def Aliased (owner : RowId) (db : Database) (domain : Text) (accountId : RowId) : Prop :=
  ∃ account ∈ db.accounts, account.organizationId = owner ∧ account.id = accountId ∧
    hasAlias db accountId domain

/-- No other account has the domain of an update as an alias, and none that of a
creation. -/
structure BatchClaimsFit (cases : CaseMapping) (owner : RowId) (db : Database)
    (accounts : List NormalizedAccount) : Prop where
  updates : ∀ update ∈ toUpdate owner db accounts, ∀ domain ∈ update.1.domain,
    ∀ accountId, Aliased owner db domain accountId → accountId = update.2
  creations : ∀ account ∈ toCreate cases owner db accounts, ∀ domain ∈ account.domain,
    ∀ accountId, ¬ Aliased owner db domain accountId

section

variable (resolver : Resolver)

def domainStep (db : Database) : DomainOperation → Database
  | .resolveCall organizationId callId accountId =>
    match Resolution.resolveCall resolver.cases db callId accountId organizationId with
    | .ok later => later
    | .error _ => db
  | .createAccountFromCall organizationId callId name domain =>
    match Resolution.createAccountFromCall resolver.cases db callId organizationId name domain with
    | .ok (later, _) => later
    | .error _ => db
  | .executeMerge organizationId primaryAccountId secondaryAccountId initiatedByUserId notes =>
    match Accounts.executeMerge db organizationId primaryAccountId secondaryAccountId
        initiatedByUserId notes with
    | .ok (later, _) => later
    | .error _ => db
  | .undoMerge organizationId mergeRunId undoneByUserId now =>
    match Accounts.undoMerge resolver.cases db organizationId mergeRunId undoneByUserId now with
    | .ok (later, _) => later
    | .error _ => db
  | .mergeAccounts organizationId sourceAccountId targetAccountId =>
    match Accounts.mergeAccounts db sourceAccountId targetAccountId organizationId with
    | .ok later => later
    | .error _ => db
  | .persistAccountBatch organizationId accounts =>
    after (Crm.persistAccountBatch resolver.cases organizationId accounts db)
  | .persistCall organizationId provider call stop =>
    after (Ingestion.persistCall resolver organizationId provider call stop db)

def ClaimsFit (db : Database) : DomainOperation → Prop
  | .createAccountFromCall organizationId callId _ domain =>
    CreationFits resolver.cases db callId organizationId domain
  | .undoMerge organizationId mergeRunId _ _ => UndoFits organizationId mergeRunId db
  | .persistAccountBatch organizationId accounts =>
    BatchClaimsFit resolver.cases organizationId db accounts
  | .resolveCall .. | .executeMerge .. | .mergeAccounts .. | .persistCall .. => True

end

section

variable {organizationId owner : RowId} {db before next : Database} {domain : Text}

theorem queueMergeConflictReview_same (targetType : MergeConflictTarget) (targetId : RowId)
    (payload : MergeConflictPayload) :
    SameDomains db (queueMergeConflictReview db owner targetType targetId payload) := by
  unfold queueMergeConflictReview
  split
  · exact .refl db
  · split
    · exact .refl db
    · exact ⟨rfl, rfl, rfl, Nat.le_succ _⟩

variable {cases : CaseMapping} {accounts : List NormalizedAccount}
  {update : NormalizedAccount × RowId}

theorem checkConflicts_sameDomains
    (state : Database × List NormalizedAccount) :
    SameDomains state.1 (accounts.foldl (checkConflict cases owner) state).1 := by
  induction accounts generalizing state with
  | nil => exact .refl _
  | cons account rest ih =>
    refine SameDomains.trans ?_ (ih _)
    unfold checkConflict
    split
    · exact queueMergeConflictReview_same _ _ _
    · exact .refl _

/-- The accounts with their organizations, and the aliases, are the same. -/
structure SameHolders (before after : Database) : Prop where
  accounts : after.accounts.map (fun account => (account.id, account.organizationId)) =
    before.accounts.map fun account => (account.id, account.organizationId)
  accountDomains : after.accountDomains = before.accountDomains

theorem SameHolders.trans (first : SameHolders db before) (second : SameHolders before next) :
    SameHolders db next :=
  ⟨second.accounts.trans first.accounts, second.accountDomains.trans first.accountDomains⟩

theorem SameHolders.aliased {accountId : RowId} (same : SameHolders before next) :
    Aliased owner next domain accountId ↔ Aliased owner before domain accountId := by
  have holder (rows : List Account) (known : Prop) :
      (∃ account ∈ rows, account.organizationId = owner ∧ account.id = accountId ∧ known) ↔
        (accountId, owner) ∈ rows.map (fun account => (account.id, account.organizationId)) ∧
          known := by
    simp only [List.mem_map, Prod.mk.injEq]
    constructor
    · rintro ⟨account, member, own, isAccount, known⟩
      exact ⟨⟨account, member, isAccount, own⟩, known⟩
    · rintro ⟨⟨account, member, isAccount, own⟩, known⟩
      exact ⟨account, member, own, isAccount, known⟩
  unfold Aliased hasAlias
  rw [holder, holder, same.accounts, same.accountDomains]

theorem updated_sameHolders (update : NormalizedAccount × RowId) :
    SameHolders db { db with
      accounts := updateWhere db.accounts (·.id == update.2) (updatedAccount cases update.1) } :=
  ⟨map_updateWhere fun _ => rfl, rfl⟩

theorem updated_tables
    (tables : DomainTables db) :
    DomainTables { db with
      accounts := updateWhere db.accounts (·.id == update.2) (updatedAccount cases update.1) } where
  ids := nodup_updateWhere (fun _ => rfl) tables.ids
  accounts := forall_mem_updateWhere tables.accounts fun _ _ _ fresh => fresh
  aliases := fun row member => by
    have same : accountIds { db with
        accounts := updateWhere db.accounts (·.id == update.2) (updatedAccount cases update.1) } =
          accountIds db := map_updateWhere fun _ => rfl
    rw [same]
    exact tables.aliases row member
  snapshots := tables.snapshots

theorem updateAccount_sound
    (sound : DomainsSound organizationId db)
    (holder : ∀ account ∈ db.accounts, account.id = update.2 → account.organizationId = owner)
    (fits : ∀ domain ∈ update.1.domain, ∀ accountId, Aliased owner db domain accountId →
      accountId = update.2) :
    DomainsSound organizationId (after (updateAccount cases owner update db)) := by
  unfold updateAccount
  split
  · exact sound
  next free =>
  refine ⟨updated_tables sound.tables, ?_⟩
  cases given : update.1.domain with
  | none =>
    refine sound.owned.succeed id fun account member org claimed claims => ?_
    obtain ⟨old, inTable, ⟨_, rfl⟩ | ⟨_, rfl⟩⟩ := mem_updateWhere.mp member
    · refine ⟨old, inTable, org, ?_, rfl⟩
      rwa [Claims, updatedAccount, given, Option.none_or] at claims
    · exact ⟨account, inTable, org, claims, rfl⟩
  | some domain =>
    have more : ClaimsMore db { db with
        accounts := updateWhere db.accounts (·.id == update.2) (updatedAccount cases update.1) }
        owner update.2 domain := by
      refine ⟨fun account member same => ?_, fun account member claimed claims => ?_⟩
      · obtain ⟨old, inTable, ⟨_, rfl⟩ | ⟨_, rfl⟩⟩ := mem_updateWhere.mp member
        · exact holder old inTable same
        · exact holder account inTable same
      · obtain ⟨old, inTable, ⟨isUpdated, rfl⟩ | ⟨_, rfl⟩⟩ := mem_updateWhere.mp member
        · rcases claims with own | known
          · rw [updatedAccount, given] at own
            exact .inr ⟨beq_iff_eq.mp isUpdated, (Option.some.inj own).symm⟩
          · exact .inl ⟨old, inTable, rfl, rfl, .inr known⟩
        · exact .inl ⟨account, inTable, rfl, rfl, claims⟩
    refine sound.owned.claim more fun account member org claims => ?_
    rcases claims with own | known
    · by_contra other
      refine free ?_
      rw [given]
      exact List.any_eq_true.mpr ⟨account, member, by simp [other, holdsDomain, org, own]⟩
    · exact fits domain given account.id ⟨account, member, org, rfl, known⟩

theorem updateAccount_sameHolders (update : NormalizedAccount × RowId) :
    SameHolders db (after (updateAccount cases owner update db)) := by
  unfold updateAccount
  split
  · exact ⟨rfl, rfl⟩
  · exact updated_sameHolders update

theorem updateAccounts_sound {updates : List (NormalizedAccount × RowId)}
    (sound : DomainsSound organizationId db)
    (holder : ∀ update ∈ updates, ∀ account ∈ db.accounts, account.id = update.2 →
      account.organizationId = owner)
    (fits : ∀ update ∈ updates, ∀ domain ∈ update.1.domain, ∀ accountId,
      Aliased owner db domain accountId → accountId = update.2)
    (ran : each updates (updateAccount cases owner) db = .ok ⟨⟩ next) :
    DomainsSound organizationId next ∧ SameHolders db next := by
  have keeps : Keeps (fun one other =>
      DomainsSound organizationId one ∧ SameHolders db one →
        DomainsSound organizationId other ∧ SameHolders db other)
      (each updates (updateAccount cases owner)) := by
    refine .each (fun _ => id) (fun first second kept => second (first kept)) ?_
    rintro update member state ⟨soundHere, same⟩
    refine ⟨updateAccount_sound soundHere (fun account inTable isUpdated => ?_) ?_,
      same.trans (updateAccount_sameHolders update)⟩
    · have row : (account.id, account.organizationId) ∈
          db.accounts.map fun account => (account.id, account.organizationId) :=
        same.accounts ▸ List.mem_map_of_mem inTable
      obtain ⟨old, inOld, isSame⟩ := List.mem_map.mp row
      obtain ⟨sameId, sameOrg⟩ := Prod.mk.inj isSame
      rw [← sameOrg]
      exact holder update member old inOld (sameId.trans isUpdated)
    · intro domain given accountId aliased
      exact fits update member domain given accountId (same.aliased.mp aliased)
  exact keeps.ok ran ⟨sound, rfl, rfl⟩

theorem createAccount_domains (cases : CaseMapping) {account : NormalizedAccount}
    (sound : DomainsSound organizationId db)
    (fits : ∀ domain ∈ account.domain, ∀ accountId, ¬ Aliased owner db domain accountId) :
    DomainsSound organizationId (createAccount cases owner db account) ∧
      ∀ domain accountId, Aliased owner (createAccount cases owner db account) domain accountId →
        Aliased owner db domain accountId := by
  unfold createAccount
  dsimp only
  split
  · exact ⟨sound, fun _ _ aliased => aliased⟩
  next free =>
  have fresh : (newAccount cases owner account db.nextId).id ∉ accountIds db :=
    sound.tables.nextId_fresh
  refine ⟨⟨sound.tables.append rfl rfl rfl fresh (Nat.lt_succ_self _) (Nat.le_succ _),
    sound.owned.append sound.tables rfl rfl fresh ?_⟩, ?_⟩
  · intro domain given other member org claims
    rcases claims with own | known
    · refine free (List.any_eq_true.mpr ⟨other, member, ?_⟩)
      simp only [newAccount] at given org
      simp [domainKey, newAccount, Option.mem_def.mp given, own, org]
    · exact fits domain given other.id ⟨other, member, org, rfl, known⟩
  · rintro domain accountId ⟨other, member, org, isOther, known⟩
    rcases List.mem_append.mp member with inOld | isNew
    · exact ⟨other, inOld, org, isOther, known⟩
    · obtain rfl := List.mem_singleton.mp isNew
      obtain ⟨row, inAliases, refers, _⟩ := hasAlias_iff.mp known
      exact absurd (isOther.symm ▸ refers ▸ sound.tables.aliases row inAliases) fresh

theorem createAccounts_sound
    (sound : DomainsSound organizationId db)
    (fits : ∀ account ∈ accounts, ∀ domain ∈ account.domain, ∀ accountId,
      ¬ Aliased owner db domain accountId) :
    DomainsSound organizationId (createAccounts cases owner db accounts) := by
  induction accounts generalizing db with
  | nil => exact sound
  | cons account rest ih =>
    obtain ⟨soundNext, fewer⟩ :=
      createAccount_domains cases sound (fits account List.mem_cons_self)
    refine ih soundNext fun other member domain given accountId aliased => ?_
    exact fits other (List.mem_cons_of_mem _ member) domain given accountId
      (fewer domain accountId aliased)

theorem sameHolders_of_same (same : SameDomains before next) : SameHolders before next :=
  ⟨congrArg (List.map fun account : Account => (account.id, account.organizationId)) same.accounts,
    same.accountDomains⟩

theorem toUpdate_organization {account : Account}
    (tables : DomainTables db)
    (member : update ∈ toUpdate owner db accounts) (inTable : account ∈ db.accounts)
    (isUpdated : account.id = update.2) : account.organizationId = owner := by
  obtain ⟨incoming, _, mapped⟩ := List.mem_filterMap.mp member
  obtain ⟨existing, found, rfl⟩ := Option.map_eq_some_iff.mp mapped
  have criterion := List.find?_some found
  simp only [Bool.and_eq_true, beq_iff_eq] at criterion
  obtain rfl := eq_of_key tables.ids inTable (List.mem_of_find?_eq_some found) isUpdated
  exact criterion.1

theorem persistAccountBatch_sound
    (sound : DomainsSound organizationId db) (fits : BatchClaimsFit cases owner db accounts) :
    DomainsSound organizationId (after (persistAccountBatch cases owner accounts db)) := by
  have same : SameDomains db
      ((toConflictCheck owner db accounts).foldl (checkConflict cases owner) (db, [])).1 :=
    checkConflicts_sameDomains (db, [])
  have created : ((toConflictCheck owner db accounts).foldl (checkConflict cases owner) (db, [])).2 =
      toCreate cases owner db accounts := by
    have start : SameButReviews db ((db, []) : Database × List NormalizedAccount).1 := ⟨rfl, rfl⟩
    rw [checkConflicts_toCreate start]
    rfl
  unfold persistAccountBatch
  dsimp only
  rw [created]
  cases ran : transaction _ _ with
  | error failure written =>
    rw [transaction_eq_error ran]
    exact sound.same same
  | ok result written =>
    obtain ⟨⟨⟩, updated, updates, creates⟩ := bind_eq_ok.mp (transaction_eq_ok.mp ran)
    obtain ⟨_, rfl⟩ := EStateM.Result.ok.inj creates
    have holders := sameHolders_of_same same
    obtain ⟨soundUpdated, sameUpdated⟩ := updateAccounts_sound (sound.same same)
      (fun update member account inTable isUpdated =>
        toUpdate_organization sound.tables member (same.accounts ▸ inTable) isUpdated)
      (fun update member domain given accountId aliased =>
        fits.updates update member domain given accountId (holders.aliased.mp aliased)) updates
    refine createAccounts_sound soundUpdated fun account member domain given accountId aliased => ?_
    exact fits.creations account member domain given accountId
      ((holders.trans sameUpdated).aliased.mp aliased)

theorem storeCall_sameDomains {provider : CallProvider} {call : NormalizedCall} :
    Keeps SameDomains (storeCall owner provider call) := by
  have participants (rows : List CallParticipant) :
      Keeps SameDomains (each rows createParticipant) := by
    refine .each .refl .trans fun participant _ db => ?_
    unfold createParticipant
    split
    · exact .refl db
    · exact ⟨rfl, rfl, rfl, Nat.le_succ _⟩
  have transcript (callId : RowId) (fullText : Text) :
      Keeps SameDomains (createTranscript callId fullText) := by
    intro db
    unfold createTranscript
    split
    · exact .refl db
    · exact ⟨rfl, rfl, rfl, Nat.le_refl _⟩
  have creates : Keeps SameDomains (createCall (call.newCall owner provider)) := by
    intro db
    unfold createCall
    split
    · exact .refl db
    · exact ⟨rfl, rfl, rfl, Nat.le_succ _⟩
  refine .transaction .refl fun db => ?_
  split
  · exact updateCall_sameDomains _
  · refine Keeps.bind .trans creates (fun created => ?_) db
    refine .bind .trans (participants _) fun _ => ?_
    split
    · exact .pure .refl _
    · exact .bind .trans (transcript _ _) fun _ => .pure .refl _

section

variable {resolver : Resolver} {stop : Option PersistStep} {callId : RowId}

theorem linking_sameDomains (participants : List CallParticipantInput) (callTitle : Option Text) :
    Keeps SameDomains (linking resolver stop owner callId participants callTitle) := by
  unfold linking
  refine .bind .trans (reach_keeps .refl _) fun _ => .bind .trans (.get .refl) fun db => ?_
  split
  · exact .bind .trans (writing_keeps fun _ => updateCall_sameDomains _) fun _ => .pure .refl _
  · exact .bind .trans (linkingMatch_keeps .refl .trans WritesContacts.sameDomains
      (fun _ => updateCall_sameDomains _) _) fun _ => .pure .refl _

theorem linking_none {participants : List CallParticipantInput} {callTitle : Option Text}
    (ran : linking resolver stop owner callId participants callTitle db = .ok none next) :
    resolve resolver db owner participants callTitle = none := by
  obtain ⟨⟨⟩, reached, reaches, rest⟩ := Statements.bind_eq_ok.mp ran
  have same : reached = db := by
    unfold reach at reaches
    split at reaches
    · cases reaches
    · exact (EStateM.Result.ok.inj reaches).2.symm
  obtain ⟨known, state, gets, rest⟩ := Statements.bind_eq_ok.mp rest
  obtain ⟨rfl, rfl⟩ := EStateM.Result.ok.inj gets
  rw [same] at rest
  cases found : resolve resolver db owner participants callTitle with
  | none => rfl
  | some resolution =>
    rw [found] at rest
    obtain ⟨_, _, _, returned⟩ := Statements.bind_eq_ok.mp rest
    cases (EStateM.Result.ok.inj returned).1

def KeepsSound (organizationId : RowId) (before after : Database) : Prop :=
  DomainsSound organizationId before → DomainsSound organizationId after

theorem KeepsSound.trans {later : Database} (first : KeepsSound organizationId before next)
    (second : KeepsSound organizationId next later) : KeepsSound organizationId before later :=
  fun sound => second (first sound)

theorem keepsSound_of_same (same : SameDomains before next) : KeepsSound organizationId before next :=
  fun sound => sound.same same

theorem linkingHints_sound {participants : List NormalizedParticipant} {accountHints : List Text}
    (free : ∀ domain ∈ hintDomains resolver.cases participants, ∀ account ∈ db.accounts,
      account.organizationId = owner → ¬ Claims db account domain) :
    KeepsSound organizationId db
      (after (linkingHints resolver stop owner callId participants accountHints db)) := by
  unfold linkingHints
  cases normalizedHints resolver.cases accountHints with
  | nil => exact id
  | cons first rest =>
    dsimp only
    rw [bind_apply]
    by_cases early : stop = some .hintedAccount
    · rw [show reach stop .hintedAccount db = .error .interrupted db from if_pos early]
      exact id
    rw [show reach stop .hintedAccount db = .ok ⟨⟩ db from if_neg early]
    refine Keeps.bind_at .trans (fun sound => accountForHints_sound sound free) fun account => ?_
    exact .bind .trans (reach_keeps (fun _ => id) _) fun _ =>
      .bind .trans (writing_keeps fun _ => keepsSound_of_same (updateCall_sameDomains _)) fun _ =>
        .bind .trans (reach_keeps (fun _ => id) _) fun _ =>
          writing_keeps fun _ => keepsSound_of_same (linkContacts_writesContacts _ _).sameDomains

theorem linkCall_sound (call : NormalizedCall) :
    Keeps (KeepsSound organizationId) (linkCall resolver stop owner callId call) := by
  intro db sound
  unfold linkCall
  rw [bind_apply]
  have links : Keeps SameDomains (linking resolver stop owner callId
      (call.participants.map NormalizedParticipant.input) call.title) := linking_sameDomains _ _
  cases ran : linking resolver stop owner callId
      (call.participants.map NormalizedParticipant.input) call.title db with
  | error failure between => exact sound.same (links.error ran)
  | ok resolution between =>
    have same := links.ok ran
    cases resolution with
    | some resolution => exact sound.same same
    | none =>
      refine linkingHints_sound (fun domain member account inTable org claims => ?_)
        (sound.same same)
      unfold Claims hasAlias at claims
      rw [same.accountDomains] at claims
      exact resolve_none_unclaimed (linking_none ran) (hintDomains_participants member) account
        (same.accounts ▸ inTable) org claims

theorem persistCall_sound {provider : CallProvider} (call : NormalizedCall) :
    Keeps (KeepsSound organizationId) (persistCall resolver owner provider call stop) := by
  refine .bind .trans (reach_keeps (fun _ => id) _) fun _ => .bind .trans ?_ fun stored =>
    .bind .trans (linkCall_sound call) fun _ => ?_
  · exact fun db => keepsSound_of_same (storeCall_sameDomains db)
  · split
    · refine .bind .trans (reach_keeps (fun _ => id) _) fun _ => .bind .trans (.get fun _ => id)
        fun db => .bind .trans (reach_keeps (fun _ => id) _) fun _ => writing_keeps fun db => ?_
      exact keepsSound_of_same ⟨rfl, rfl, rfl, Nat.le_refl _⟩
    · exact .pure (fun _ => id) _

theorem domainStep_sound (sound : DomainsSound organizationId db) (operation : DomainOperation)
    (fits : ClaimsFit resolver db operation) :
    DomainsSound organizationId (domainStep resolver db operation) := by
  cases operation with
  | resolveCall owner callId accountId =>
    simp only [domainStep]
    split
    · next ran => exact resolveCall_sound sound ran
    · exact sound
  | createAccountFromCall owner callId name domain =>
    simp only [domainStep]
    split
    · next ran => exact createAccountFromCall_sound sound fits ran
    · exact sound
  | executeMerge owner primaryAccountId secondaryAccountId initiatedByUserId notes =>
    simp only [domainStep]
    split
    · next ran =>
        obtain ⟨primary, secondary, merges⟩ := executeMerge_domains ran
        exact merges.sound sound
    · exact sound
  | undoMerge owner mergeRunId undoneByUserId now =>
    simp only [domainStep]
    split
    · next ran => exact undoMerge_domains sound fits ran
    · exact sound
  | mergeAccounts owner sourceAccountId targetAccountId =>
    simp only [domainStep]
    split
    · next ran =>
        obtain ⟨primary, secondary, merges⟩ := mergeAccounts_domains ran
        exact merges.sound sound
    · exact sound
  | persistAccountBatch owner accounts => exact persistAccountBatch_sound sound fits
  | persistCall owner provider call stop => exact persistCall_sound call db sound

end

end

/-- In every run whose operations newly claim no domain that is an alias of another
account, the domains of the organization have one owner each. -/
theorem domains_stay_owned (resolver : Resolver) (organizationId : RowId) {start : Database}
    (operations : List DomainOperation) (tables : DomainTables start)
    (owned : DomainsOwned organizationId start)
    (fits : Guarded (domainStep resolver) (ClaimsFit resolver) start operations) :
    DomainsOwned organizationId (run (domainStep resolver) start operations) :=
  (run_guarded_invariant (DomainsSound organizationId)
    (fun _ operation sound fits => domainStep_sound sound operation fits) ⟨tables, owned⟩ fits).owned

def aliasHeld : Database where
  nextId := 4
  accounts := [{ id := 1, organizationId := 1, name := ['a'], normalizedName := ['a'] }]
  accountDomains := [{ id := 2, accountId := 1, domain := ['d'] }]
  calls := [{ id := 3, organizationId := 1, provider := .gong }]

theorem aliasHeld_owned : DomainsOwned 1 aliasHeld := by
  intro left inLeft right inRight _ _ _ _ _
  rw [List.mem_singleton.mp inLeft, List.mem_singleton.mp inRight]

theorem new_domain_has_one_owner :
    DomainsOwned 1 (run (domainStep plainResolver) aliasHeld
      [.createAccountFromCall 1 3 ['b'] (some ['e'])]) := by
  refine domains_stay_owned plainResolver 1 _ (by decide) aliasHeld_owned ?_
  rw [guarded_cons]
  refine ⟨?_, guarded_nil _ _ _⟩
  intro call _ chosen isChosen account member _ known
  obtain rfl : ['e'] = chosen := Option.some.inj isChosen
  obtain rfl := List.mem_singleton.mp member
  cases known

/-- The new account has the alias of the other one as its own domain. -/
theorem alias_becomes_own_domain_of_another :
    Constraints aliasHeld ∧ DomainTables aliasHeld ∧ DomainsOwned 1 aliasHeld ∧
      ¬ DomainsOwned 1 (run (domainStep plainResolver) aliasHeld
        [.createAccountFromCall 1 3 ['b'] (some ['d'])]) := by
  refine ⟨by decide +kernel, by decide, aliasHeld_owned, fun owned => ?_⟩
  have accounts : (run (domainStep plainResolver) aliasHeld
      [.createAccountFromCall 1 3 ['b'] (some ['d'])]).accounts =
        [{ id := 1, organizationId := 1, name := ['a'], normalizedName := ['a'] },
          { id := 4, organizationId := 1, name := ['b'], normalizedName := ['b'],
            domain := some ['d'] }] := by
    decide +kernel
  unfold DomainsOwned at owned
  rw [accounts] at owned
  have same := owned _ List.mem_cons_self _ (List.mem_cons_of_mem _ List.mem_cons_self) rfl rfl ['d']
    (.inr (by decide +kernel)) (.inl rfl)
  cases same

end StoryEngine.Crm
