import StoryEngine.Data.Statements
import StoryEngine.Resolution.Resolver

namespace StoryEngine.Resolution

open Accounts Data Schema Statements Text

/-! # What linking a call leaves alone -/

variable {db before after later : Database} {callId : RowId}

def WritesContacts (before after : Database) : Prop :=
  ∃ contacts nextId, before.nextId ≤ nextId ∧ after = { before with contacts, nextId }

theorem WritesContacts.refl (db : Database) : WritesContacts db db :=
  ⟨db.contacts, db.nextId, Nat.le_refl _, rfl⟩

theorem WritesContacts.trans (first : WritesContacts before after)
    (second : WritesContacts after later) : WritesContacts before later := by
  obtain ⟨_, between, grows, rfl⟩ := first
  obtain ⟨contacts, nextId, growsOn, rfl⟩ := second
  exact ⟨contacts, nextId, Nat.le_trans grows growsOn, rfl⟩

theorem upsertContact_writesContacts (db : Database) (contact : Contact) :
    WritesContacts db (upsertContact db contact) := by
  unfold upsertContact
  simp only
  split
  · exact ⟨_, db.nextId, Nat.le_refl _, rfl⟩
  · exact ⟨_, db.nextId + 1, Nat.le_succ _, rfl⟩

theorem linkContacts_writesContacts (db : Database) (contacts : List Contact) :
    WritesContacts db (linkContacts db contacts) := by
  induction contacts generalizing db with
  | nil => exact .refl db
  | cons contact rest ih => exact (upsertContact_writesContacts db contact).trans (ih _)

@[simp] theorem linkContacts_calls (contacts : List Contact) :
    (linkContacts db contacts).calls = db.calls := by
  obtain ⟨_, _, _, same⟩ := linkContacts_writesContacts db contacts
  rw [same]

@[simp] theorem linkContacts_accounts (contacts : List Contact) :
    (linkContacts db contacts).accounts = db.accounts := by
  obtain ⟨_, _, _, same⟩ := linkContacts_writesContacts db contacts
  rw [same]

@[simp] theorem linkContacts_accountDomains (contacts : List Contact) :
    (linkContacts db contacts).accountDomains = db.accountDomains := by
  obtain ⟨_, _, _, same⟩ := linkContacts_writesContacts db contacts
  rw [same]

def CallsFresh (db : Database) : Prop := ∀ call ∈ db.calls, call.id < db.nextId

instance (db : Database) : Decidable (CallsFresh db) :=
  inferInstanceAs (Decidable (∀ call ∈ db.calls, call.id < db.nextId))

variable {change : Call → Call} {resolver : Resolver} {participants : List CallParticipantInput}
  {callTitle : Option Text} {first : AccountHint} {hints : List AccountHint}
  {domains accountHints : List Text}

theorem CallsFresh.update {selects : Call → Bool} (fresh : CallsFresh before)
    (calls : after.calls = updateWhere before.calls selects change)
    (kept : ∀ call, (change call).id = call.id) (nextId : before.nextId ≤ after.nextId) :
    CallsFresh after := by
  intro call member
  rw [calls] at member
  have below : ∀ row ∈ updateWhere before.calls selects change, row.id < before.nextId :=
    forall_mem_updateWhere fresh fun old _ _ isFresh => (kept old).symm ▸ isFresh
  exact Nat.lt_of_lt_of_le (below call member) nextId

theorem CallsFresh.created {call : Call} (fresh : CallsFresh before)
    (calls : after.calls = before.calls ++ [call]) (id : call.id = before.nextId)
    (nextId : before.nextId < after.nextId) : CallsFresh after := by
  intro other member
  rw [calls] at member
  rcases List.mem_append.mp member with inOld | isNew
  · exact Nat.lt_trans (fresh other inOld) nextId
  · rw [List.mem_singleton.mp isNew, id]
    exact nextId

def Relabels (change : Call → Call) : Prop := ∀ call, unmatched (change call) = unmatched call

theorem Relabels.column {α : Type} (relabels : Relabels change)
    (column : Call → α) (kept : ∀ call, column (unmatched call) = column call) (call : Call) :
    column (change call) = column call := by
  rw [← kept (change call), relabels, kept]

/-- One call gets another link; contacts and accounts may be written with it. -/
structure Relinks (callId : RowId) (before after : Database) : Prop where
  calls : ∃ change, Relabels change ∧
    after.calls = updateWhere before.calls (·.id == callId) change
  callParticipants : after.callParticipants = before.callParticipants
  transcripts : after.transcripts = before.transcripts
  processCallJobs : after.processCallJobs = before.processCallJobs
  nextId : before.nextId ≤ after.nextId

namespace Relinks

theorem ofUpdate {change : Call → Call} (relabels : Relabels change) :
    Relinks callId db (updateCall db callId change) where
  calls := ⟨change, relabels, rfl⟩
  callParticipants := rfl
  transcripts := rfl
  processCallJobs := rfl
  nextId := Nat.le_refl _

theorem ofSameCalls (calls : after.calls = before.calls)
    (callParticipants : after.callParticipants = before.callParticipants)
    (transcripts : after.transcripts = before.transcripts)
    (processCallJobs : after.processCallJobs = before.processCallJobs)
    (nextId : before.nextId ≤ after.nextId) : Relinks callId before after where
  calls := by
    refine ⟨id, fun _ => rfl, ?_⟩
    rw [calls]
    simp [updateWhere]
  callParticipants := callParticipants
  transcripts := transcripts
  processCallJobs := processCallJobs
  nextId := nextId

theorem refl (db : Database) : Relinks callId db db :=
  .ofSameCalls rfl rfl rfl rfl (Nat.le_refl _)

theorem ofContacts (writes : WritesContacts before after) : Relinks callId before after := by
  obtain ⟨_, _, grows, rfl⟩ := writes
  exact .ofSameCalls rfl rfl rfl rfl grows

theorem trans (first : Relinks callId before after) (second : Relinks callId after later) :
    Relinks callId before later where
  calls := by
    obtain ⟨change, relabels, same⟩ := first.calls
    obtain ⟨next, relabelsNext, sameNext⟩ := second.calls
    refine ⟨fun call => if (change call).id == callId then next (change call) else change call,
      fun call => ?_, ?_⟩
    · dsimp only
      split
      · rw [relabelsNext, relabels]
      · exact relabels call
    · rw [sameNext, same]
      simp only [updateWhere, List.map_map]
      refine List.map_congr_left fun call _ => ?_
      simp only [Function.comp_apply]
      by_cases isCall : call.id = callId
      · simp [isCall]
      · simp [isCall]
  callParticipants := second.callParticipants.trans first.callParticipants
  transcripts := second.transcripts.trans first.transcripts
  processCallJobs := second.processCallJobs.trans first.processCallJobs
  nextId := Nat.le_trans first.nextId second.nextId

theorem fresh (relinks : Relinks callId before after) (fresh : CallsFresh before) :
    CallsFresh after := by
  obtain ⟨change, relabels, calls⟩ := relinks.calls
  exact fresh.update calls (relabels.column Call.id fun _ => rfl) relinks.nextId

end Relinks

theorem relabels_unmatched : Relabels unmatched := fun _ => rfl

theorem relabels_hinted (accountId : RowId) : Relabels (hinted accountId) := fun _ => rfl

theorem relabels_assigned (accountId : RowId) : Relabels (assigned accountId) := fun _ => rfl

theorem relabels_account (accountId : Option RowId) :
    Relabels fun call => { call with accountId } := fun _ => rfl

structure SameMatching (before after : Database) : Prop where
  accounts : after.accounts = before.accounts
  accountDomains : after.accountDomains = before.accountDomains
  contacts : after.contacts = before.contacts

theorem SameMatching.refl (db : Database) : SameMatching db db := ⟨rfl, rfl, rfl⟩

theorem SameMatching.trans (first : SameMatching before after) (second : SameMatching after later) :
    SameMatching before later :=
  ⟨second.accounts.trans first.accounts, second.accountDomains.trans first.accountDomains,
    second.contacts.trans first.contacts⟩

theorem SameMatching.resolve (same : SameMatching before after) (resolver : Resolver)
    (organizationId : RowId) (participants : List CallParticipantInput) (callTitle : Option Text) :
    resolve resolver after organizationId participants callTitle =
      resolve resolver before organizationId participants callTitle := by
  obtain ⟨accounts, accountDomains, contacts⟩ := same
  simp only [Resolution.resolve, matchByEmailDomain, primaryMatch, aliasMatch, contactMatch,
    inOrganization, matchByFuzzyName, fuzzyAccounts, accounts, accountDomains, contacts]

theorem resolveAndLinkContacts_relinks {organizationId : RowId} :
    Relinks callId db
      (resolveAndLinkContacts resolver db organizationId callId participants callTitle).1 := by
  unfold resolveAndLinkContacts
  split
  · exact .ofUpdate relabels_unmatched
  · exact (Relinks.ofContacts (linkContacts_writesContacts db _)).trans
      (.ofUpdate (relabels_account _))

theorem resolveAndLinkContacts_found {organizationId : RowId}
    {resolution : ResolvedEntity} (callId : RowId)
    (found : resolve resolver db organizationId participants callTitle = some resolution) :
    ∃ linked, resolveAndLinkContacts resolver db organizationId callId participants callTitle =
        (linked, some resolution) ∧
      linked.calls = updateWhere db.calls (·.id == callId) fun call =>
        { call with accountId := some resolution.accountId } := by
  unfold resolveAndLinkContacts
  rw [found]
  refine ⟨_, rfl, ?_⟩
  rw [updateCall, linkContacts_calls]

theorem resolveAndLinkContacts_missing {organizationId : RowId}
    (callId : RowId)
    (missing : resolve resolver db organizationId participants callTitle = none) :
    resolveAndLinkContacts resolver db organizationId callId participants callTitle =
      (updateCall db callId unmatched, none) := by
  unfold resolveAndLinkContacts
  rw [missing]

theorem accountForHints_relinks {cases : CaseMapping} {organizationId : RowId} :
    Relinks callId db (accountForHints cases db organizationId first hints domains).1 := by
  unfold accountForHints
  split
  · exact .refl db
  · exact .ofSameCalls rfl rfl rfl rfl (Nat.le_succ _)

theorem linkCallByProviderAccountHints_relinks {cases : CaseMapping} {organizationId : RowId}
    {participants : List NormalizedParticipant} :
    Relinks callId db (linkCallByProviderAccountHints cases db organizationId callId participants
      accountHints) := by
  unfold linkCallByProviderAccountHints
  split
  · exact .refl db
  · exact (accountForHints_relinks.trans (.ofUpdate (relabels_hinted _))).trans
      (.ofContacts (linkContacts_writesContacts _ _))

theorem accountForHints_calls {cases : CaseMapping} {organizationId : RowId} :
    (accountForHints cases db organizationId first hints domains).1.calls = db.calls := by
  unfold accountForHints
  split <;> rfl

theorem linkCallByProviderAccountHints_calls {cases : CaseMapping} {organizationId : RowId}
    {participants : List NormalizedParticipant}
    (hints : normalizedHints cases accountHints ≠ []) :
    ∃ accountId, (linkCallByProviderAccountHints cases db organizationId callId participants
      accountHints).calls = updateWhere db.calls (·.id == callId) (hinted accountId) := by
  unfold linkCallByProviderAccountHints
  split
  · contradiction
  · next first rest _ =>
      refine ⟨(accountForHints cases db organizationId first (first :: rest)
        (hintDomains cases participants)).2.id, ?_⟩
      rw [linkContacts_calls, updateCall, accountForHints_calls]

section

variable {cases : CaseMapping} {accountId organizationId : RowId}

theorem learnDomain_relinks (db : Database) (domain : Text) :
    Relinks callId db (learnDomain organizationId accountId db domain) := by
  unfold learnDomain
  split
  · exact .refl db
  · exact .ofSameCalls rfl rfl rfl rfl (Nat.le_succ _)

theorem learnDomain_calls (db : Database) (domain : Text) :
    (learnDomain organizationId accountId db domain).calls = db.calls := by
  unfold learnDomain
  split <;> rfl

theorem learnDomain_accounts (db : Database) (domain : Text) :
    (learnDomain organizationId accountId db domain).accounts = db.accounts := by
  unfold learnDomain
  split <;> rfl

theorem learnDomains_relinks (domains : List Text) :
    Relinks callId db (domains.foldl (learnDomain organizationId accountId) db) := by
  induction domains generalizing db with
  | nil => exact .refl db
  | cons domain rest ih => exact (learnDomain_relinks db domain).trans ih

theorem learnDomains_calls (domains : List Text) :
    (domains.foldl (learnDomain organizationId accountId) db).calls = db.calls := by
  induction domains generalizing db with
  | nil => rfl
  | cons domain rest ih => exact ih.trans (learnDomain_calls db domain)

theorem resolveCall_eq_ok
    (ran : resolveCall cases db callId accountId organizationId = .ok after) :
    ∃ call account, findCall db callId organizationId = some call ∧
      findAccount db accountId organizationId = some account ∧
        after = linkContacts
          ((newDomains cases account (participantsOf db call.id)).foldl
            (learnDomain organizationId accountId) (updateCall db callId (assigned accountId)))
          ((participantsOf db call.id).filterMap fun participant =>
            participantContact cases accountId participant.email participant.name none) := by
  unfold resolveCall at ran
  simp only [Data.bind_eq_ok, required_eq_ok, pure_eq_ok] at ran
  obtain ⟨call, foundCall, account, foundAccount, same⟩ := ran
  exact ⟨call, account, foundCall, foundAccount, same.symm⟩

theorem resolveCall_calls
    (ran : resolveCall cases db callId accountId organizationId = .ok after) :
    after.calls = updateWhere db.calls (·.id == callId) (assigned accountId) := by
  obtain ⟨call, account, _, _, rfl⟩ := resolveCall_eq_ok ran
  rw [linkContacts_calls, learnDomains_calls]
  rfl

theorem resolveCall_relinks
    (ran : resolveCall cases db callId accountId organizationId = .ok after) :
    Relinks callId db after := by
  obtain ⟨call, account, _, _, rfl⟩ := resolveCall_eq_ok ran
  exact ((Relinks.ofUpdate (relabels_assigned _)).trans (learnDomains_relinks _)).trans
    (.ofContacts (linkContacts_writesContacts _ _))

def newAccount (cases : CaseMapping) (db : Database) (organizationId : RowId) (name : Text)
    (domain : Option Text) : Account where
  id := db.nextId
  organizationId
  name
  normalizedName := Scrub.normalizeCompanyName cases name
  domain

variable {name : Text} {domain : Option Text} {created : RowId}

theorem createAccountFromCall_eq_ok
    (ran : createAccountFromCall cases db callId organizationId name domain = .ok (after, created)) :
    ∃ call, findCall db callId organizationId = some call ∧ created = db.nextId ∧
      domainFree db organizationId (newAccountDomain cases domain (participantsOf db call.id)) ∧
        resolveCall cases (createAccount db (newAccount cases db organizationId name
          (newAccountDomain cases domain (participantsOf db call.id)))) callId db.nextId
            organizationId = .ok after := by
  unfold createAccountFromCall at ran
  simp only [Data.bind_eq_ok, required_eq_ok] at ran
  obtain ⟨call, found, rest⟩ := ran
  split at rest
  · cases rest
  · simp only [Data.bind_eq_ok, ensure_eq_ok, pure_eq_ok, Prod.mk.injEq] at rest
    obtain ⟨_, free, resolved, ran, rfl, rfl⟩ := rest
    exact ⟨call, found, rfl, free, ran⟩

theorem createAccountFromCall_calls
    (ran : createAccountFromCall cases db callId organizationId name domain = .ok (after, created)) :
    after.calls = updateWhere db.calls (·.id == callId) (assigned created) := by
  obtain ⟨call, _, rfl, _, resolved⟩ := createAccountFromCall_eq_ok ran
  have calls := resolveCall_calls resolved
  exact calls

theorem createAccountFromCall_relinks
    (ran : createAccountFromCall cases db callId organizationId name domain = .ok (after, created)) :
    Relinks callId db after := by
  obtain ⟨call, _, rfl, _, resolved⟩ := createAccountFromCall_eq_ok ran
  have creates : Relinks callId db (createAccount db (newAccount cases db organizationId name
      (newAccountDomain cases domain (participantsOf db call.id)))) :=
    .ofSameCalls rfl rfl rfl rfl (Nat.le_succ _)
  exact creates.trans (resolveCall_relinks resolved)

end

end StoryEngine.Resolution
