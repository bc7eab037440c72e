import StoryEngine.Accounts.Domains
import StoryEngine.Resolution.Links

namespace StoryEngine.Resolution

open Accounts Data Schema Text

/-! # Domains that resolutions claim -/

section

variable {organizationId owner callId : RowId} {db before after : Database} {account : Account}
  {domain : Text} {domains : List Text}

theorem WritesContacts.sameDomains (writes : WritesContacts before after) :
    SameDomains before after := by
  obtain ⟨_, _, grows, rfl⟩ := writes
  exact ⟨rfl, rfl, rfl, grows⟩

theorem updateCall_sameDomains (change : Call → Call) :
    SameDomains db (updateCall db callId change) :=
  ⟨rfl, rfl, rfl, Nat.le_refl _⟩

theorem primaryMatch_eq_none :
    primaryMatch db owner domains = none ↔ ∀ account ∈ db.accounts,
      account.organizationId = owner → ∀ domain ∈ domains, account.domain ≠ some domain := by
  unfold primaryMatch hasDomainIn
  rw [List.find?_eq_none]
  refine forall₂_congr fun account _ => ?_
  cases account.domain with
  | none => simp
  | some own =>
    simp only [Option.any_some, List.contains_iff_mem, Bool.and_eq_true, beq_iff_eq, not_and]
    refine imp_congr_right fun _ => ⟨fun absent domain member same => ?_, fun apart member => ?_⟩
    · exact absent (Option.some.inj same ▸ member)
    · exact apart own member rfl

theorem hasAlias_of_aliasMatch (missing : aliasMatch db owner domains = none)
    (member : account ∈ db.accounts) (own : account.organizationId = owner) (inDomains : domain ∈ domains) :
    ¬ hasAlias db account.id domain := by
  intro known
  obtain ⟨row, inTable, refers, rfl⟩ := hasAlias_iff.mp known
  have absent := List.findSome?_eq_none_iff.mp missing row inTable
  rw [if_pos (by simpa using inDomains)] at absent
  have other := List.find?_eq_none.mp absent account member
  simp [refers, own] at other

theorem unclaimed (primary : primaryMatch db owner domains = none)
    (aliases : aliasMatch db owner domains = none) (inDomains : domain ∈ domains) :
    ∀ account ∈ db.accounts, account.organizationId = owner → ¬ Claims db account domain := by
  rintro account member own (isOwn | known)
  · exact primaryMatch_eq_none.mp primary account member own domain inDomains isOwn
  · exact hasAlias_of_aliasMatch aliases member own inDomains known

theorem learnDomain_sound (sound : DomainsSound organizationId db) (member : account ∈ db.accounts)
    (domain : Text) :
    DomainsSound organizationId (learnDomain account.organizationId account.id db domain) := by
  unfold learnDomain
  split
  · exact sound
  · next unknown =>
      simp only [Bool.or_eq_true, Option.isSome_iff_ne_none, ne_eq, not_or, not_not] at unknown
      refine ⟨createAlias_tables sound.tables member,
        sound.owned.claim (createAlias_claimsMore sound.tables member) ?_⟩
      intro other inTable org claims
      exact absurd claims
        (unclaimed unknown.1 unknown.2 (List.mem_singleton_self _) other inTable org)

theorem learnDomains_sound (sound : DomainsSound organizationId db) (member : account ∈ db.accounts)
    (domains : List Text) :
    DomainsSound organizationId
      (domains.foldl (learnDomain account.organizationId account.id) db) := by
  induction domains generalizing db with
  | nil => exact sound
  | cons domain rest ih =>
    refine ih (learnDomain_sound sound member domain) ?_
    rwa [learnDomain_accounts]

theorem resolveCall_sound {cases : CaseMapping} {accountId : RowId}
    (sound : DomainsSound organizationId db)
    (ran : resolveCall cases db callId accountId owner = .ok after) :
    DomainsSound organizationId after := by
  obtain ⟨call, account, _, found, rfl⟩ := resolveCall_eq_ok ran
  obtain ⟨member, rfl, rfl⟩ := findAccount_found found
  exact (learnDomains_sound (sound.same (updateCall_sameDomains _)) member _).same
    (linkContacts_writesContacts _ _).sameDomains

theorem createAccount_sound (sound : DomainsSound organizationId db) (id : account.id = db.nextId)
    (free : ∀ domain ∈ account.domain, ∀ other ∈ db.accounts,
      other.organizationId = account.organizationId → ¬ Claims db other domain) :
    DomainsSound organizationId (createAccount db account) := by
  have fresh : account.id ∉ accountIds db := id ▸ sound.tables.nextId_fresh
  exact ⟨sound.tables.append rfl rfl rfl fresh (id ▸ Nat.lt_succ_self _) (Nat.le_succ _),
    sound.owned.append sound.tables rfl rfl fresh free⟩

def CreationFits (cases : CaseMapping) (db : Database) (callId owner : RowId)
    (domain : Option Text) : Prop :=
  ∀ call ∈ findCall db callId owner,
    ∀ chosen ∈ newAccountDomain cases domain (participantsOf db call.id), NoBareAlias owner db chosen

theorem createAccountFromCall_sound {cases : CaseMapping} {name : Text} {domain : Option Text}
    {created : RowId} (sound : DomainsSound organizationId db)
    (fits : CreationFits cases db callId owner domain)
    (ran : createAccountFromCall cases db callId owner name domain = .ok (after, created)) :
    DomainsSound organizationId after := by
  obtain ⟨call, found, _, free, resolved⟩ := createAccountFromCall_eq_ok ran
  refine resolveCall_sound (createAccount_sound sound rfl ?_) resolved
  intro chosen isChosen other member org claims
  simp only [newAccount] at isChosen org
  have noneOwn : primaryMatch db owner [chosen] = none := by
    rw [domainFree, Option.mem_def.mp isChosen] at free
    simpa using free
  have apart (account : Account) (inTable : account ∈ db.accounts)
      (own : account.organizationId = owner) : account.domain ≠ some chosen :=
    primaryMatch_eq_none.mp noneOwn account inTable own chosen (List.mem_singleton_self _)
  rcases claims with isOwn | known
  · exact apart other member org isOwn
  · obtain ⟨holder, inTable, own, taken⟩ := fits call found chosen isChosen other member org known
    exact apart holder inTable own taken

theorem hintDomains_participants {cases : CaseMapping} {participants : List NormalizedParticipant}
    (member : domain ∈ hintDomains cases participants) :
    domain ∈ participantDomains cases (participants.map NormalizedParticipant.input) := by
  unfold participantDomains
  rw [List.mem_eraseDups, List.filterMap_map]
  exact member

theorem resolve_none_unclaimed {resolver : Resolver} {participants : List CallParticipantInput}
    {callTitle : Option Text} (missing : resolve resolver db owner participants callTitle = none)
    (member : domain ∈ participantDomains resolver.cases participants) :
    ∀ account ∈ db.accounts, account.organizationId = owner → ¬ Claims db account domain := by
  have some : (participantDomains resolver.cases participants).isEmpty = false := by
    rw [List.isEmpty_eq_false_iff]
    exact List.ne_nil_of_mem member
  obtain ⟨byDomain, _⟩ := Option.or_eq_none_iff.mp missing
  rw [if_neg (by rw [some]; exact Bool.false_ne_true)] at byDomain
  obtain ⟨primary, rest⟩ := Option.or_eq_none_iff.mp byDomain
  obtain ⟨aliases, _⟩ := Option.or_eq_none_iff.mp rest
  exact unclaimed (Option.map_eq_none_iff.mp primary) (Option.map_eq_none_iff.mp aliases) member

theorem accountForHints_sound {cases : CaseMapping} {first : AccountHint} {hints : List AccountHint}
    (sound : DomainsSound organizationId db)
    (free : ∀ domain ∈ domains, ∀ account ∈ db.accounts, account.organizationId = owner →
      ¬ Claims db account domain) :
    DomainsSound organizationId (accountForHints cases db owner first hints domains).1 := by
  unfold accountForHints
  split
  · exact sound
  · refine createAccount_sound sound rfl fun domain isHead => ?_
    exact free domain (List.mem_of_mem_head? isHead)

end

end StoryEngine.Resolution
