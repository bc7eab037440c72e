import StoryEngine.Resolution.Links

namespace StoryEngine.Resolution

open Accounts Data Schema Text

/-! # Resolving a call again

A resolution adds contacts to the account that it finds, and finds the same account
the next time.
-/

def placed (contact : Contact) : RowId × Text := (contact.accountId, contact.emailDomain)

section

variable {db : Database} {organizationId accountId : RowId} {domains : List Text}

theorem upsertContact_placed (db : Database) (contact : Contact) :
    (upsertContact db contact).contacts.map placed = db.contacts.map placed ∨
      (upsertContact db contact).contacts.map placed =
        db.contacts.map placed ++ [placed contact] := by
  unfold upsertContact
  dsimp only
  split
  · exact .inl (map_updateWhere fun _ => rfl)
  · exact .inr (by rw [List.map_append]; rfl)

theorem linkContacts_placed (db : Database) {contacts : List Contact}
    (ofAccount : ∀ contact ∈ contacts, contact.accountId = accountId) :
    ∃ added, (linkContacts db contacts).contacts.map placed = db.contacts.map placed ++ added ∧
      ∀ place ∈ added, place.1 = accountId := by
  induction contacts generalizing db with
  | nil => exact ⟨[], (List.append_nil _).symm, nofun⟩
  | cons contact rest ih =>
    have inRest (other : Contact) (member : other ∈ rest) : other.accountId = accountId :=
      ofAccount other (List.mem_cons_of_mem _ member)
    obtain ⟨added, places, own⟩ := ih (upsertContact db contact) inRest
    obtain same | new := upsertContact_placed db contact
    · exact ⟨added, places.trans (by rw [same]), own⟩
    · refine ⟨placed contact :: added, places.trans (by rw [new, List.append_assoc]; rfl), ?_⟩
      intro place member
      rcases List.mem_cons.mp member with rfl | inAdded
      · exact ofAccount contact List.mem_cons_self
      · exact own place inAdded

def placeMatch (db : Database) (organizationId : RowId) (domains : List Text)
    (places : List (RowId × Text)) : Option Account :=
  places.findSome? fun place =>
    if domains.contains place.2 then inOrganization db organizationId place.1 else none

theorem contactMatch_eq :
    contactMatch db organizationId domains =
      placeMatch db organizationId domains (db.contacts.map placed) := by
  unfold contactMatch placeMatch
  rw [List.findSome?_map]
  rfl

theorem placeMatch_own {places : List (RowId × Text)} {account : Account}
    (own : ∀ place ∈ places, place.1 = accountId)
    (found : placeMatch db organizationId domains places = some account) : account.id = accountId := by
  obtain ⟨place, member, isAccount⟩ := List.exists_of_findSome?_eq_some found
  split at isAccount
  · have criterion := List.find?_some isAccount
    simp only [Bool.and_eq_true, beq_iff_eq] at criterion
    exact criterion.1.trans (own place member)
  · cases isAccount

end

section

variable {resolver : Resolver} {db linked : Database} {organizationId : RowId}
  {participants : List CallParticipantInput} {callTitle : Option Text} {resolution : ResolvedEntity}

theorem resolve_more_contacts (found : resolve resolver db organizationId participants callTitle =
      some resolution) (accounts : linked.accounts = db.accounts)
    (accountDomains : linked.accountDomains = db.accountDomains) {added : List (RowId × Text)}
    (contacts : linked.contacts.map placed = db.contacts.map placed ++ added)
    (own : ∀ place ∈ added, place.1 = resolution.accountId) :
    (resolve resolver linked organizationId participants callTitle).map (·.accountId) =
      some resolution.accountId := by
  have sameFuzzy (names : List Text) : matchByFuzzyName resolver linked organizationId names =
      matchByFuzzyName resolver db organizationId names := by
    simp only [matchByFuzzyName, fuzzyAccounts, accounts]
  have byDomain (domains : List Text) : matchByEmailDomain linked organizationId domains =
      (matchByEmailDomain db organizationId domains).or
        ((placeMatch db organizationId domains added).map (domainResolution 85)) := by
    have inOrg (accountId : RowId) : inOrganization linked organizationId accountId =
        inOrganization db organizationId accountId := by
      rw [inOrganization, accounts, inOrganization]
    have byContact : contactMatch linked organizationId domains =
        (contactMatch db organizationId domains).or (placeMatch db organizationId domains added) := by
      rw [contactMatch_eq, contactMatch_eq, contacts]
      unfold placeMatch
      simp only [inOrg, List.findSome?_append]
    have primary : primaryMatch linked organizationId domains =
        primaryMatch db organizationId domains := by rw [primaryMatch, accounts, primaryMatch]
    have aliases : aliasMatch linked organizationId domains =
        aliasMatch db organizationId domains := by
      unfold aliasMatch
      simp only [inOrg, accountDomains]
    unfold matchByEmailDomain
    rw [byContact, primary, aliases, Option.map_or, Option.or_assoc, Option.or_assoc]
  unfold resolve at found ⊢
  dsimp only at found ⊢
  rw [sameFuzzy, byDomain]
  split at found
  · next empty =>
      rw [if_pos empty, found]
      rfl
  · next given =>
      rw [if_neg given]
      cases before : matchByEmailDomain db organizationId
          (participantDomains resolver.cases participants) with
      | some first =>
        rw [before] at found
        exact congrArg (Option.map (·.accountId)) found
      | none =>
        rw [before, Option.none_or] at found
        rw [Option.none_or]
        cases further : placeMatch db organizationId
            (participantDomains resolver.cases participants) added with
        | none => exact congrArg (Option.map (·.accountId)) found
        | some account => exact congrArg some (placeMatch_own own further)

theorem resolve_linked (callId : RowId) :
    (resolve resolver
      (resolveAndLinkContacts resolver db organizationId callId participants callTitle).1
      organizationId participants callTitle).map (·.accountId) =
    (resolve resolver db organizationId participants callTitle).map (·.accountId) := by
  have sameCall (db : Database) (change : Call → Call) :
      SameMatching db (updateCall db callId change) := ⟨rfl, rfl, rfl⟩
  cases found : resolve resolver db organizationId participants callTitle with
  | none =>
    rw [resolveAndLinkContacts_missing callId found, (sameCall db _).resolve, found]
  | some resolution =>
    unfold resolveAndLinkContacts
    rw [found]
    dsimp only
    rw [(sameCall _ _).resolve]
    have ofAccount (contact : Contact) (member : contact ∈ participants.filterMap fun participant =>
        participantContact resolver.cases resolution.accountId participant.email participant.name
          none) : contact.accountId = resolution.accountId := by
      obtain ⟨participant, _, isContact⟩ := List.mem_filterMap.mp member
      obtain ⟨address, _, mapped⟩ := Option.bind_eq_some_iff.mp isContact
      obtain ⟨domain, _, rfl⟩ := Option.map_eq_some_iff.mp mapped
      rfl
    obtain ⟨added, contacts, own⟩ := linkContacts_placed db ofAccount
    exact resolve_more_contacts found (linkContacts_accounts _) (linkContacts_accountDomains _)
      contacts own

end

end StoryEngine.Resolution
