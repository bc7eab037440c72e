import StoryEngine.Data.FindFirst
import StoryEngine.Resolution.Resolver

namespace StoryEngine.Resolution

open Accounts Data Schema Text

/-! # Row order

The queries of the domain stage have no order, so each of them returns some row that matches.
The account does not depend on the choice exactly when the rows of the first stage that finds
any are all of one account.
-/

structure Queries where
  accounts : FindFirst Account := .first
  accountDomains : FindFirst AccountDomain := .first
  contacts : FindFirst Contact := .first

section

variable (queries : Queries) (db : Database) (organizationId : RowId) (domains : List Text)

def primaryCriterion (account : Account) : Bool :=
  account.organizationId == organizationId && hasDomainIn domains account

def aliasCriterion (row : AccountDomain) : Bool :=
  domains.contains row.domain && (inOrganization db organizationId row.accountId).isSome

def contactCriterion (contact : Contact) : Bool :=
  domains.contains contact.emailDomain &&
    (inOrganization db organizationId contact.accountId).isSome

def anyPrimaryMatch : Option Account :=
  queries.accounts.row (primaryCriterion organizationId domains) db.accounts

def anyAliasMatch : Option Account :=
  (queries.accountDomains.row (aliasCriterion db organizationId domains) db.accountDomains).bind
    fun row => inOrganization db organizationId row.accountId

def anyContactMatch : Option Account :=
  (queries.contacts.row (contactCriterion db organizationId domains) db.contacts).bind
    fun contact => inOrganization db organizationId contact.accountId

/-- `matchByEmailDomain` with whichever rows the queries return. -/
def anyDomainMatch : Option ResolvedEntity :=
  ((anyPrimaryMatch queries db organizationId domains).map (domainResolution 95)).or
    (((anyAliasMatch queries db organizationId domains).map (domainResolution 90)).or
      ((anyContactMatch queries db organizationId domains).map (domainResolution 85)))

end

def anyResolve (queries : Queries) (resolver : Resolver) (db : Database) (organizationId : RowId)
    (participants : List CallParticipantInput) (callTitle : Option Text) :
    Option ResolvedEntity :=
  let domains := participantDomains resolver.cases participants
  let candidateNames := buildCandidateNames resolver participants callTitle
  (if domains.isEmpty then none else anyDomainMatch queries db organizationId domains).or
    (if candidateNames.isEmpty then none
      else matchByFuzzyName resolver db organizationId candidateNames)

theorem findSome?_guarded {ρ α : Type} {rows : List ρ} {criterion : ρ → Bool}
    {view : ρ → Option α} :
    (rows.findSome? fun row => if criterion row then view row else none) =
      (rows.find? fun row => criterion row && (view row).isSome).bind view := by
  induction rows with
  | nil => rfl
  | cons row rest ih =>
    rw [List.findSome?_cons, List.find?_cons, ih]
    cases criterion row with
    | false => simp
    | true =>
      cases found : view row with
      | none => simp
      | some value => simp [found]

theorem anyResolve_first {resolver : Resolver} {db : Database} {organizationId : RowId}
    {participants : List CallParticipantInput} {callTitle : Option Text} :
    anyResolve {} resolver db organizationId participants callTitle =
      resolve resolver db organizationId participants callTitle := by
  have primary (domains : List Text) : anyPrimaryMatch {} db organizationId domains =
      primaryMatch db organizationId domains := rfl
  have aliased (domains : List Text) : anyAliasMatch {} db organizationId domains =
      aliasMatch db organizationId domains := findSome?_guarded.symm
  have contact (domains : List Text) : anyContactMatch {} db organizationId domains =
      contactMatch db organizationId domains := findSome?_guarded.symm
  simp only [anyResolve, resolve, anyDomainMatch, matchByEmailDomain, primary, aliased, contact]

def accountAndConfidence (entity : ResolvedEntity) : RowId × Nat :=
  (entity.accountId, entity.confidence)

/-- Whichever rows are returned, and in whatever order the participants are listed. -/
def ResolvesAlike (resolver : Resolver) (db : Database) (organizationId : RowId)
    (participants : List CallParticipantInput) (callTitle : Option Text) : Prop :=
  ∀ (first second : Queries) (listed : List CallParticipantInput), listed.Perm participants →
    (anyResolve first resolver db organizationId participants callTitle).map
        accountAndConfidence =
      (anyResolve second resolver db organizationId listed callTitle).map accountAndConfidence

section

variable (db : Database) (organizationId : RowId) (domains : List Text)

def primaryAccounts : List RowId :=
  (db.accounts.filter (primaryCriterion organizationId domains)).map (·.id)

def aliasAccounts : List RowId :=
  (db.accountDomains.filter (aliasCriterion db organizationId domains)).map (·.accountId)

def contactAccounts : List RowId :=
  (db.contacts.filter (contactCriterion db organizationId domains)).map (·.accountId)

def matchingAccounts : List RowId :=
  if primaryAccounts db organizationId domains ≠ [] then
    primaryAccounts db organizationId domains
  else if aliasAccounts db organizationId domains ≠ [] then
    aliasAccounts db organizationId domains
  else contactAccounts db organizationId domains

def OneMatchingAccount : Prop :=
  ∀ first ∈ matchingAccounts db organizationId domains,
    ∀ second ∈ matchingAccounts db organizationId domains, first = second

instance : Decidable (OneMatchingAccount db organizationId domains) :=
  inferInstanceAs (Decidable (∀ first ∈ matchingAccounts db organizationId domains, _))

/-- A domain is an account's own, or its alias, or that of one of its contacts. -/
def DomainKnown : Prop :=
  (∃ account ∈ db.accounts, primaryCriterion organizationId domains account = true) ∨
    (∃ row ∈ db.accountDomains, aliasCriterion db organizationId domains row = true) ∨
      ∃ contact ∈ db.contacts, contactCriterion db organizationId domains contact = true

instance : Decidable (DomainKnown db organizationId domains) :=
  inferInstanceAs (Decidable (_ ∨ _ ∨ _))

end

/-- Every choice of rows finds an account of the list, and each of them is found by some. -/
structure StageOf (stage : Queries → Option Account) (accounts : List RowId) : Prop where
  within : ∀ queries account, stage queries = some account → account.id ∈ accounts
  absent : ∀ queries, stage queries = none → accounts = []
  reached : ∀ accountId ∈ accounts, ∃ queries account,
    stage queries = some account ∧ account.id = accountId

structure Resolves (outcome : Queries → Option ResolvedEntity) (accounts : List RowId)
    (confidence : Nat) : Prop where
  within : ∀ queries, ∃ accountId ∈ accounts,
    (outcome queries).map accountAndConfidence = some (accountId, confidence)
  reached : ∀ accountId ∈ accounts, ∃ queries,
    (outcome queries).map accountAndConfidence = some (accountId, confidence)

section

variable {stage : Queries → Option Account} {rest : Queries → Option ResolvedEntity}
  {accounts : List RowId} {confidence : Nat}

theorem StageOf.resolves (finds : StageOf stage accounts) (found : accounts ≠ []) :
    Resolves (fun queries => ((stage queries).map (domainResolution confidence)).or (rest queries))
      accounts confidence where
  within := by
    intro queries
    cases is : stage queries with
    | none => exact absurd (finds.absent queries is) found
    | some account =>
      exact ⟨account.id, finds.within queries account is,
        by simp [accountAndConfidence, domainResolution]⟩
  reached := by
    intro accountId member
    obtain ⟨queries, account, is, rfl⟩ := finds.reached accountId member
    exact ⟨queries, by simp [is, accountAndConfidence, domainResolution]⟩

theorem StageOf.passes (finds : StageOf stage accounts) (empty : accounts = []) :
    (fun queries => ((stage queries).map (domainResolution confidence)).or (rest queries)) =
      rest := by
  funext queries
  cases is : stage queries with
  | none => rfl
  | some account =>
    have member := finds.within queries account is
    rw [empty] at member
    cases member

end

section

variable {db : Database} {organizationId : RowId} {domains : List Text}

theorem inOrganization_id {accountId : RowId} {account : Account}
    (found : inOrganization db organizationId accountId = some account) :
    account.id = accountId := by
  have own := List.find?_some found
  simp only [Bool.and_eq_true, beq_iff_eq] at own
  exact own.1

theorem primaryStage :
    StageOf (fun queries => anyPrimaryMatch queries db organizationId domains)
      (primaryAccounts db organizationId domains) where
  within := by
    intro queries account found
    have matching := queries.accounts.row_mem _ _ _ found
    exact List.mem_map.mpr ⟨account, List.mem_filter.mpr matching, rfl⟩
  absent := by
    intro queries nothing
    have unmatched := queries.accounts.row_none _ _ nothing
    simpa [primaryAccounts] using unmatched
  reached := by
    intro accountId member
    obtain ⟨account, inFilter, rfl⟩ := List.mem_map.mp member
    obtain ⟨stored, matching⟩ := List.mem_filter.mp inFilter
    exact ⟨{ accounts := .preferring account }, account,
      FindFirst.preferring_row stored matching, rfl⟩

theorem rowStage {ρ : Type} [DecidableEq ρ] {rows : List ρ} {criterion known : ρ → Bool}
    {owner : ρ → RowId} {query : Queries → FindFirst ρ} (choose : FindFirst ρ → Queries)
    (chosen : ∀ pick, query (choose pick) = pick)
    (is : criterion = fun row =>
      known row && (inOrganization db organizationId (owner row)).isSome) :
    StageOf
      (fun queries => ((query queries).row criterion rows).bind fun row =>
        inOrganization db organizationId (owner row))
      ((rows.filter criterion).map owner) where
  within := by
    intro queries account found
    obtain ⟨row, picked, included⟩ := Option.bind_eq_some_iff.mp found
    have matching := (query queries).row_mem _ _ _ picked
    exact List.mem_map.mpr
      ⟨row, List.mem_filter.mpr matching, (inOrganization_id included).symm⟩
  absent := by
    intro queries nothing
    have unpicked : (query queries).row criterion rows = none := by
      cases picked : (query queries).row criterion rows with
      | none => rfl
      | some row =>
        have matching := ((query queries).row_mem _ _ _ picked).2
        simp only [is, Bool.and_eq_true] at matching
        simp only [picked, Option.bind_some] at nothing
        rw [nothing] at matching
        cases matching.2
    have unmatched := (query queries).row_none _ _ unpicked
    simpa using unmatched
  reached := by
    intro accountId member
    obtain ⟨row, inFilter, rfl⟩ := List.mem_map.mp member
    obtain ⟨stored, matching⟩ := List.mem_filter.mp inFilter
    have included := matching
    simp only [is, Bool.and_eq_true] at included
    obtain ⟨account, found⟩ := Option.isSome_iff_exists.mp included.2
    have picked := FindFirst.preferring_row stored matching
    refine ⟨choose (.preferring row), account, ?_, inOrganization_id found⟩
    rw [chosen, picked]
    exact found

theorem aliasStage :
    StageOf (fun queries => anyAliasMatch queries db organizationId domains)
      (aliasAccounts db organizationId domains) :=
  rowStage (fun pick => { accountDomains := pick }) (fun _ => rfl) rfl

theorem contactStage :
    StageOf (fun queries => anyContactMatch queries db organizationId domains)
      (contactAccounts db organizationId domains) :=
  rowStage (fun pick => { contacts := pick }) (fun _ => rfl) rfl

theorem matchingAccounts_known (known : DomainKnown db organizationId domains) :
    matchingAccounts db organizationId domains ≠ [] := by
  unfold matchingAccounts
  split
  · assumption
  · next noPrimary =>
      split
      · assumption
      · next noAlias =>
          simp only [primaryAccounts, aliasAccounts, contactAccounts, ne_eq, not_not,
            List.map_eq_nil_iff, List.filter_eq_nil_iff] at noPrimary noAlias ⊢
          intro noContact
          cases known with
          | inl primary =>
            obtain ⟨account, stored, matching⟩ := primary
            exact noPrimary account stored matching
          | inr later =>
            cases later with
            | inl aliased =>
              obtain ⟨row, stored, matching⟩ := aliased
              exact noAlias row stored matching
            | inr contact =>
              obtain ⟨row, stored, matching⟩ := contact
              exact noContact row stored matching

theorem anyDomainMatch_resolves (known : DomainKnown db organizationId domains) :
    ∃ confidence, Resolves (fun queries => anyDomainMatch queries db organizationId domains)
      (matchingAccounts db organizationId domains) confidence := by
  have found := matchingAccounts_known known
  simp only [matchingAccounts] at found ⊢
  by_cases primary : primaryAccounts db organizationId domains = []
  · have later : (fun queries => anyDomainMatch queries db organizationId domains) = _ :=
      primaryStage.passes primary
    rw [later, if_neg (not_not.mpr primary)]
    rw [if_neg (not_not.mpr primary)] at found
    by_cases aliased : aliasAccounts db organizationId domains = []
    · rw [aliasStage.passes aliased, if_neg (not_not.mpr aliased)]
      rw [if_neg (not_not.mpr aliased)] at found
      have last : Resolves (fun queries =>
          ((anyContactMatch queries db organizationId domains).map (domainResolution 85)).or none)
          (contactAccounts db organizationId domains) 85 := contactStage.resolves found
      simp only [Option.or_none] at last
      exact ⟨85, last⟩
    · rw [if_pos aliased]
      exact ⟨90, aliasStage.resolves aliased⟩
  · rw [if_pos primary]
    exact ⟨95, primaryStage.resolves primary⟩

end

section

variable {resolver : Resolver} {db : Database} {organizationId : RowId}
  {participants listed : List CallParticipantInput} {callTitle : Option Text}

theorem participantDomains_perm (reordered : listed.Perm participants) (domain : Text) :
    domain ∈ participantDomains resolver.cases listed ↔
      domain ∈ participantDomains resolver.cases participants := by
  simp only [participantDomains, List.mem_eraseDups, List.mem_filterMap]
  constructor
  · intro ⟨participant, member, own⟩
    exact ⟨participant, reordered.mem_iff.mp member, own⟩
  · intro ⟨participant, member, own⟩
    exact ⟨participant, reordered.mem_iff.mpr member, own⟩

theorem anyDomainMatch_congr {domains other : List Text}
    (same : ∀ domain, domain ∈ other ↔ domain ∈ domains) (queries : Queries) :
    anyDomainMatch queries db organizationId other =
      anyDomainMatch queries db organizationId domains := by
  have contained (domain : Text) : other.contains domain = domains.contains domain := by
    rw [Bool.eq_iff_iff, List.contains_iff_mem, List.contains_iff_mem]
    exact same domain
  have owned : hasDomainIn other = hasDomainIn domains := by
    funext account
    simp only [hasDomainIn, contained]
  have primary : primaryCriterion organizationId other =
      primaryCriterion organizationId domains := by
    funext account
    simp only [primaryCriterion, owned]
  have aliased : aliasCriterion db organizationId other =
      aliasCriterion db organizationId domains := by
    funext row
    simp only [aliasCriterion, contained]
  have contact : contactCriterion db organizationId other =
      contactCriterion db organizationId domains := by
    funext row
    simp only [contactCriterion, contained]
  simp only [anyDomainMatch, anyPrimaryMatch, anyAliasMatch, anyContactMatch, primary, aliased,
    contact]

theorem domains_of_known {domains : List Text} (known : DomainKnown db organizationId domains) :
    domains ≠ [] := by
  intro empty
  have unowned (account : Account) : hasDomainIn [] account = false := by
    cases is : account.domain <;> simp [hasDomainIn, is]
  simp [DomainKnown, primaryCriterion, aliasCriterion, contactCriterion, empty, unowned] at known

theorem anyResolve_known (queries : Queries) {confidence : Nat} {accounts : List RowId}
    (known : DomainKnown db organizationId (participantDomains resolver.cases participants))
    (resolves : Resolves (fun queries => anyDomainMatch queries db organizationId
      (participantDomains resolver.cases participants)) accounts confidence)
    (reordered : listed.Perm participants) :
    anyResolve queries resolver db organizationId listed callTitle =
      anyDomainMatch queries db organizationId
        (participantDomains resolver.cases participants) := by
  have same (domain : Text) : domain ∈ participantDomains resolver.cases listed ↔
      domain ∈ participantDomains resolver.cases participants :=
    participantDomains_perm reordered domain
  have some : participantDomains resolver.cases listed ≠ [] := by
    intro empty
    obtain ⟨domain, member⟩ := List.exists_mem_of_ne_nil _ (domains_of_known known)
    have inListed := (same domain).mpr member
    rw [empty] at inListed
    cases inListed
  obtain ⟨accountId, _, found⟩ := resolves.within queries
  obtain ⟨entity, is, _⟩ := Option.map_eq_some_iff.mp found
  simp only [anyResolve, anyDomainMatch_congr same, is]
  rw [if_neg (by simpa using some)]
  rfl

theorem account_of_any_order_iff
    (known : DomainKnown db organizationId (participantDomains resolver.cases participants)) :
    ResolvesAlike resolver db organizationId participants callTitle ↔
      OneMatchingAccount db organizationId (participantDomains resolver.cases participants) := by
  obtain ⟨confidence, resolves⟩ := anyDomainMatch_resolves known
  have outcome (queries : Queries) {listed : List CallParticipantInput}
      (reordered : listed.Perm participants) :=
    @anyResolve_known resolver db organizationId participants listed callTitle queries
      confidence _ known resolves reordered
  constructor
  · intro alike first firstMatches second secondMatches
    obtain ⟨chooseFirst, firstFound⟩ := resolves.reached first firstMatches
    obtain ⟨chooseSecond, secondFound⟩ := resolves.reached second secondMatches
    have equal := alike chooseFirst chooseSecond participants (.refl _)
    rw [outcome chooseFirst (.refl _), outcome chooseSecond (.refl _), firstFound,
      secondFound] at equal
    cases equal
    rfl
  · intro single first second listed reordered
    obtain ⟨firstAccount, firstMatches, firstFound⟩ := resolves.within first
    obtain ⟨secondAccount, secondMatches, secondFound⟩ := resolves.within second
    rw [outcome first (.refl _), outcome second reordered, firstFound, secondFound,
      single firstAccount firstMatches secondAccount secondMatches]

end

def customer : Account where
  id := 1
  organizationId := 1
  name := "Acme".toList
  normalizedName := "acme".toList
  domain := some "acme.com".toList

def partner : Account where
  id := 2
  organizationId := 1
  name := "Initech".toList
  normalizedName := "initech".toList
  domain := some "initech.com".toList

def customerAndPartner : Database where
  accounts := [customer, partner]

def customerAttendee : CallParticipantInput where
  email := some "jane@acme.com".toList

def partnerAttendee : CallParticipantInput where
  email := some "joe@initech.com".toList

/-- With the customer alone the rows are of one account. -/
theorem customer_of_any_order :
    ResolvesAlike plainResolver customerAndPartner 1 [customerAttendee, customerAttendee] none :=
  (account_of_any_order_iff (by decide)).mpr (by decide)

theorem partner_depends_on_order :
    DomainKnown customerAndPartner 1
        (participantDomains plainResolver.cases [customerAttendee, partnerAttendee]) ∧
      ¬ResolvesAlike plainResolver customerAndPartner 1 [customerAttendee, partnerAttendee]
        none := by
  constructor
  · decide
  · intro alike
    have equal := alike { accounts := .preferring customer } { accounts := .preferring partner }
      [customerAttendee, partnerAttendee] (.refl _)
    revert equal
    decide

end StoryEngine.Resolution
