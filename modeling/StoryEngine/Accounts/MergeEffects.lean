import StoryEngine.Accounts.Merge

namespace StoryEngine.Accounts

open Data Schema

/-! # What a merge does to each table -/

variable {result : Database} {emails : List Text} {accountId : RowId} {known : Text → Bool}

theorem statement_eq_ok {next : Database} :
    statement result = .ok next ↔ Constraints result ∧ next = result := by
  unfold statement
  split
  · rename_i held
    simp [held, eq_comm]
  · rename_i violated
    simp [violated]

theorem statement_ok (held : Constraints result) :
    statement result = .ok result := statement_eq_ok.mpr ⟨held, rfl⟩

def relink (target : Contact → Option RowId) (contacts : List Contact)
    (participant : CallParticipant) : CallParticipant :=
  match contacts.find? fun contact => participant.contactId == some contact.id with
  | some contact => { participant with contactId := target contact }
  | none => participant

def relinked (target : Contact → Option RowId) (contacts : List Contact)
    (participants : List CallParticipant) : List CallParticipant :=
  participants.map (relink target contacts)

section

variable {target : Contact → Option RowId} {contacts : List Contact} {contact : Contact}
  {participants : List CallParticipant}

@[simp] theorem relink_nil (participant : CallParticipant) :
    relink target [] participant = participant := rfl

variable {participant : CallParticipant}

theorem relink_other
    (other : ∀ contact ∈ contacts, participant.contactId ≠ some contact.id) :
    relink target contacts participant = participant := by
  have absent : contacts.find? (fun contact => participant.contactId == some contact.id) = none :=
    List.find?_eq_none.mpr fun contact member => by simpa using other contact member
  rw [relink, absent]

theorem relink_linked (distinct : (contacts.map (·.id)).Nodup)
    (member : contact ∈ contacts) (linked : participant.contactId = some contact.id) :
    relink target contacts participant = { participant with contactId := target contact } := by
  cases found : contacts.find? fun other => participant.contactId == some other.id with
  | none =>
    have absent := List.find?_eq_none.mp found contact member
    simp [linked] at absent
  | some other =>
    have same : some contact.id = some other.id := by
      simpa [linked] using List.find?_some found
    obtain rfl := eq_of_key distinct (List.mem_of_find?_eq_some found) member
      (Option.some.inj same).symm
    rw [relink, found]

@[simp] theorem relink_id (participant : CallParticipant) :
    (relink target contacts participant).id = participant.id := by
  unfold relink
  split <;> rfl

@[simp] theorem relinked_nil : relinked target [] participants = participants :=
  (List.map_congr_left fun participant _ => relink_nil participant).trans (List.map_id _)

theorem relinked_append (outside : ∀ other ∈ contacts, target other ≠ some contact.id) :
    updateWhere (relinked target contacts participants) (·.contactId == some contact.id)
        (fun participant => { participant with contactId := target contact }) =
      relinked target (contacts ++ [contact]) participants := by
  simp only [updateWhere, relinked, List.map_map]
  refine List.map_congr_left fun participant _ => ?_
  simp only [Function.comp_apply]
  cases found : contacts.find? fun other => participant.contactId == some other.id with
  | none =>
    have same : relink target contacts participant = participant := by rw [relink, found]
    rw [same, relink, List.find?_append, found]
    cases linked : participant.contactId == some contact.id <;> simp [linked]
  | some other =>
    have member := List.mem_of_find?_eq_some found
    rw [relink, relink, List.find?_append, found]
    simp [outside other member]

theorem relinked_unlinked (outside : ∀ other ∈ contacts, target other ≠ some contact.id)
    (member : contact ∈ contacts) :
    ∀ participant ∈ relinked target contacts participants,
      (participant.contactId == some contact.id) = false := by
  intro participant inRelinked
  obtain ⟨old, _, rfl⟩ := List.mem_map.mp inRelinked
  unfold relink
  split
  · rename_i other found
    simpa using outside other (List.mem_of_find?_eq_some found)
  · rename_i absent
    simpa using List.find?_eq_none.mp absent contact member

theorem mem_relinked :
    participant ∈ relinked target contacts participants ↔
      ∃ old ∈ participants, participant = relink target contacts old := by
  simp only [relinked, List.mem_map, eq_comm (b := participant)]

theorem relinked_map {κ : Type} {column : CallParticipant → κ}
    (kept : ∀ participant link, column { participant with contactId := link } = column participant) :
    (relinked target contacts participants).map column = participants.map column := by
  simp only [relinked, List.map_map]
  refine List.map_congr_left fun participant _ => ?_
  simp only [Function.comp_apply, relink]
  split
  · exact kept participant _
  · rfl

theorem relinked_ids : (relinked target contacts participants).map (·.id) =
    participants.map (·.id) := relinked_map fun _ _ => rfl

theorem relinked_keys :
    (relinked target contacts participants).filterMap participantKey =
      participants.filterMap participantKey := by
  have same : (relinked target contacts participants).map participantKey =
      participants.map participantKey := relinked_map fun _ _ => rfl
  have flat (rows : List CallParticipant) :
      rows.filterMap participantKey = (rows.map participantKey).filterMap id := by
    rw [List.filterMap_map]
    rfl
  rw [flat, same, ← flat]

end

def mergedContact (toId : RowId) (emails : List Text) (contact : Contact) : Option Contact :=
  if emails.contains contact.email then none else some { contact with accountId := toId }

theorem mergedContact_eq_some {toId : RowId} {contact new : Contact} :
    mergedContact toId emails contact = some new ↔
      emails.contains contact.email = false ∧ new = { contact with accountId := toId } := by
  unfold mergedContact
  cases emails.contains contact.email <;> simp [eq_comm]

theorem mergedContact_id {toId : RowId} (contact new : Contact)
    (known : mergedContact toId emails contact = some new) : new.id = contact.id := by
  rw [(mergedContact_eq_some.mp known).2]

/-- The tables after some contacts were merged and the participants of some
known ones were linked elsewhere. -/
def contactsState (db : Database) (toId : RowId) (target : Contact → Option RowId)
    (done unlinked : List Contact) : Database :=
  { db with
    contacts := passed (mergedContact toId (emailsOf db toId)) done db.contacts
    callParticipants := relinked target
      (unlinked.filter fun contact => (emailsOf db toId).contains contact.email)
      db.callParticipants }

theorem mem_emailsOf {db : Database} {email : Text} :
    (emailsOf db accountId).contains email = true ↔
      ∃ contact ∈ db.contacts, contact.accountId = accountId ∧ contact.email = email := by
  simp [emailsOf, and_assoc]

section

variable {db : Database} {toId fromId : RowId} {done unlinked : List Contact} {item : Contact}

theorem Constraints.contact_eq (held : Constraints db) {left right : Contact}
    (inLeft : left ∈ db.contacts) (inRight : right ∈ db.contacts)
    (account : left.accountId = right.accountId) (email : left.email = right.email) :
    left = right :=
  (uniqueBy_iff (nodup_of_keys held.primary.contacts)).mp held.unique.emails left inLeft right
    inRight (left.accountId, left.email) rfl (by rw [emailKey, account, email])

private theorem mergedContact_reassigns :
    Reassigns (·.accountId) (·.email) toId db.contacts (mergedContact toId (emailsOf db toId)) where
  given _ _ known := by rw [(mergedContact_eq_some.mp known).2]
  labelled _ _ known := by rw [(mergedContact_eq_some.mp known).2]
  free row new known old member account email := by
    have absent := (mergedContact_eq_some.mp known).1
    rw [mem_emailsOf.mpr ⟨old, member, account, email⟩] at absent
    cases absent

theorem contactsState_constraints (held : Constraints db) (known : toId ∈ accountIds db)
    (owned : ∀ contact ∈ done, contact.accountId = fromId)
    (dropped : ∀ contact ∈ done, contact ∈ unlinked) :
    Constraints (contactsState db toId (fun _ => none) done unlinked) := by
  have ids : ((passed (mergedContact toId (emailsOf db toId)) done db.contacts).map
      (·.id)).Nodup := passed_keys mergedContact_id held.primary.contacts
  have emails : UniqueBy emailKey (passed (mergedContact toId (emailsOf db toId)) done db.contacts) :=
    UniqueBy.passed mergedContact_reassigns held.unique.emails
      (nodup_of_keys held.primary.contacts) (nodup_of_keys ids) owned
  refine ⟨{ held.primary with contacts := ids, callParticipants := ?_ },
    { held.unique with emails := emails, participants := ?_ },
    { held.foreign with contacts := ?_, participants := ?_ }⟩
  · rw [contactsState, relinked_ids]
    exact held.primary.callParticipants
  · rw [contactsState, UniqueBy, relinked_keys]
    exact held.unique.participants
  · refine references_iff.mpr fun row member account isAccount => ?_
    obtain rfl := Option.some.inj isAccount
    obtain ⟨old, inOld, ⟨_, changed⟩ | ⟨_, rfl⟩⟩ := mem_passed.mp member
    · rw [(mergedContact_eq_some.mp changed).2]
      exact known
    · exact references_iff.mp held.foreign.contacts row inOld row.accountId rfl
  · refine references_iff.mpr fun participant member contactId linked => ?_
    obtain ⟨old, inOld, rfl⟩ := mem_relinked.mp member
    unfold relink at linked
    split at linked
    · cases linked
    · rename_i absent
      -- The contact is still there, as its participants would be unlinked otherwise.
      obtain ⟨contact, inContacts, rfl⟩ := List.mem_map.mp
        (references_iff.mp held.foreign.participants old inOld contactId linked)
      by_cases inDone : contact ∈ done
      · cases changed : mergedContact toId (emailsOf db toId) contact with
        | none =>
          have isKnown : (emailsOf db toId).contains contact.email = true := by
            unfold mergedContact at changed
            split at changed
            · assumption
            · cases changed
          have unmatched := List.find?_eq_none.mp absent contact
            (List.mem_filter.mpr ⟨dropped contact inDone, isKnown⟩)
          simp [linked] at unmatched
        | some new =>
          exact List.mem_map.mpr ⟨new, mem_passed.mpr ⟨contact, inContacts, .inl ⟨inDone, changed⟩⟩,
            mergedContact_id contact new changed⟩
      · exact List.mem_map.mpr ⟨contact, mem_passed.mpr ⟨contact, inContacts, .inr ⟨inDone, rfl⟩⟩,
          rfl⟩

@[simp] theorem contactsState_nil (target : Contact → Option RowId) :
    contactsState db toId target [] [] = db := by
  simp [contactsState]

theorem relink_contactsState {target : Contact → Option RowId}
    (outside : ∀ other ∈ unlinked, target other ≠ some item.id)
    (known : (emailsOf db toId).contains item.email = true) :
    relinkParticipants (contactsState db toId target done unlinked) item.id (target item) =
      contactsState db toId target done (unlinked ++ [item]) := by
  have outsideKnown : ∀ other ∈ unlinked.filter fun contact =>
      (emailsOf db toId).contains contact.email, target other ≠ some item.id :=
    fun other member => outside other (List.mem_filter.mp member).1
  simp only [relinkParticipants, contactsState, relinked_append outsideKnown, List.filter_append,
    List.filter_cons, known, if_true, List.filter_nil]

theorem delete_contactsState {target : Contact → Option RowId} (held : Constraints db)
    (outside : ∀ other ∈ unlinked, target other ≠ some item.id) (member : item ∈ db.contacts)
    (fresh : item ∉ done) (isUnlinked : item ∈ unlinked)
    (known : (emailsOf db toId).contains item.email = true) :
    deleteContact (contactsState db toId target done unlinked) item.id =
      contactsState db toId target (done ++ [item]) unlinked := by
  have gone : mergedContact toId (emailsOf db toId) item = none := by
    rw [mergedContact, if_pos known]
  have inFilter : item ∈ unlinked.filter fun contact =>
      (emailsOf db toId).contains contact.email := List.mem_filter.mpr ⟨isUnlinked, known⟩
  have free : ∀ participant ∈ relinked target (unlinked.filter fun contact =>
      (emailsOf db toId).contains contact.email) db.callParticipants,
      (participant.contactId == some item.id) = false :=
    relinked_unlinked (fun other inUnlinked => outside other (List.mem_filter.mp inUnlinked).1)
      inFilter
  simp only [deleteContact, relinkParticipants, contactsState, updateWhere_none free,
    passed_delete mergedContact_id held.primary.contacts member fresh gone]

theorem reassign_contactsState {target : Contact → Option RowId} (held : Constraints db)
    (member : item ∈ db.contacts) (fresh : item ∉ done)
    (new : (emailsOf db toId).contains item.email = false) :
    reassignContact (contactsState db toId target done done) toId item.id =
      contactsState db toId target (done ++ [item]) (done ++ [item]) := by
  have changed : mergedContact toId (emailsOf db toId) item =
      some { item with accountId := toId } := mergedContact_eq_some.mpr ⟨new, rfl⟩
  have contacts : updateWhere (passed (mergedContact toId (emailsOf db toId)) done db.contacts)
      (·.id == item.id) (fun contact => { contact with accountId := toId }) =
      passed (mergedContact toId (emailsOf db toId)) (done ++ [item]) db.contacts :=
    passed_update mergedContact_id held.primary.contacts member fresh changed
  simp only [reassignContact, contactsState, contacts, List.filter_append, List.filter_cons, new,
    Bool.false_eq_true, if_false, List.filter_nil, List.append_nil]

def contactsOf (db : Database) (accountId : RowId) : List Contact :=
  db.contacts.filter (·.accountId == accountId)

def contactsMerged (db : Database) (toId fromId : RowId) (target : Contact → Option RowId) :
    Database :=
  contactsState db toId target (contactsOf db fromId) (contactsOf db fromId)

def movedContactIds (db : Database) (toId fromId : RowId) : List RowId :=
  ((contactsOf db fromId).filter fun contact =>
    !(emailsOf db toId).contains contact.email).map (·.id)

private theorem moveContact_turn {rest : List Contact} {moved : List RowId} (held : Constraints db)
    (known : toId ∈ accountIds db) (whole : contactsOf db fromId = done ++ item :: rest) :
    moveContact toId (emailsOf db toId) (contactsState db toId (fun _ => none) done done, moved)
        item =
      .ok (contactsState db toId (fun _ => none) (done ++ [item]) (done ++ [item]),
        if (emailsOf db toId).contains item.email then moved else moved ++ [item.id]) := by
  obtain ⟨member, own, fresh, earlier⟩ := selection_turn (nodup_of_keys held.primary.contacts) whole
  have ownedDone : ∀ row ∈ done, row.accountId = fromId :=
    fun row inDone => by simpa using (earlier row inDone).2
  have owned : ∀ row ∈ done ++ [item], row.accountId = fromId := by
    intro row inNext
    rcases List.mem_append.mp inNext with inDone | isItem
    · exact ownedDone row inDone
    · rw [List.mem_singleton.mp isItem]
      simpa using own
  have last := contactsState_constraints held known owned fun _ inNext => inNext
  cases isKnown : (emailsOf db toId).contains item.email with
  | true =>
    have unlinked : Constraints (contactsState db toId (fun _ => none) done (done ++ [item])) :=
      contactsState_constraints held known ownedDone fun _ inDone =>
        List.mem_append_left _ inDone
    have relink : relinkParticipants (contactsState db toId (fun _ => none) done done) item.id
        none = contactsState db toId (fun _ => none) done (done ++ [item]) :=
      relink_contactsState (fun _ _ => by simp) isKnown
    have delete : deleteContact (contactsState db toId (fun _ => none) done (done ++ [item]))
        item.id = contactsState db toId (fun _ => none) (done ++ [item]) (done ++ [item]) :=
      delete_contactsState held (fun _ _ => by simp) member fresh (by simp) isKnown
    simp only [moveContact, isKnown, if_true, relink, statement_ok unlinked, delete,
      statement_ok last, bind, Except.bind, pure, Except.pure]
  | false =>
    simp only [moveContact, isKnown, Bool.false_eq_true, if_false,
      reassign_contactsState held member fresh isKnown, statement_ok last, bind, Except.bind,
      pure, Except.pure]

theorem moveContacts_eq_ok (held : Constraints db) (known : toId ∈ accountIds db) :
    moveContacts db toId fromId =
      .ok (contactsMerged db toId fromId fun _ => none, movedContactIds db toId fromId) := by
  let closed (done : List Contact) : Database × List RowId :=
    (contactsState db toId (fun _ => none) done done,
      (done.filter fun contact => !(emailsOf db toId).contains contact.email).map (·.id))
  have loop : (contactsOf db fromId).foldlM (moveContact toId (emailsOf db toId)) (closed []) =
      .ok (closed (contactsOf db fromId)) := by
    refine foldlM_eq_ok closed fun done item rest whole => ?_
    rw [moveContact_turn held known whole]
    cases isKnown : (emailsOf db toId).contains item.email <;>
      simp only [closed, List.filter_append, List.filter_cons, isKnown, Bool.not_true,
        Bool.not_false, if_true, if_false, Bool.false_eq_true, List.filter_nil, List.append_nil,
        List.map_append, List.map_cons, List.map_nil]
  simp only [closed, contactsState_nil] at loop
  exact loop

end

section

variable {db : Database} {toId fromId : RowId}

theorem moveCalls_constraints (held : Constraints db) (known : toId ∈ accountIds db) :
    Constraints (moveCalls db fromId toId) := by
  refine ⟨{ held.primary with calls := ?_ }, { held.unique with },
    { held.foreign with calls := held.foreign.calls.updateWhere fun row => .inr ?_ }⟩
  · exact nodup_updateWhere (fun _ => rfl) held.primary.calls
  · intro value isTarget
    rwa [← Option.some.inj isTarget]

theorem moveStories_constraints (held : Constraints db) (known : toId ∈ accountIds db) :
    Constraints (moveStories db fromId toId) := by
  refine ⟨{ held.primary with stories := ?_ }, { held.unique with },
    { held.foreign with stories := held.foreign.stories.updateWhere fun row => .inr ?_ }⟩
  · exact nodup_updateWhere (fun _ => rfl) held.primary.stories
  · intro value isTarget
    rwa [← Option.some.inj isTarget]

theorem moveUserAccess_constraints (held : Constraints db) (known : toId ∈ accountIds db) :
    Constraints (moveUserAccess db fromId toId) := by
  refine ⟨{ held.primary with userAccountAccess := ?_ }, { held.unique with },
    { held.foreign with
      userAccountAccess := held.foreign.userAccountAccess.updateWhere fun row => .inr ?_ }⟩
  · exact nodup_updateWhere (fun _ => rfl) held.primary.userAccountAccess
  · intro value isTarget
    rwa [← Option.some.inj isTarget]

/-- No event of one account has the opportunity and stage of one of the other. -/
def EventsApart (db : Database) (toId fromId : RowId) : Prop :=
  ∀ own ∈ db.salesforceEvents, ∀ other ∈ db.salesforceEvents, own.accountId = toId →
    other.accountId = fromId → ∀ opportunityId stageName,
      own.opportunityId = some opportunityId → own.stageName = some stageName →
        ¬(other.opportunityId = some opportunityId ∧ other.stageName = some stageName)

private theorem eventKey_eq_some {event : SalesforceEvent} {value : RowId × Text × Text} :
    eventKey event = some value ↔ event.accountId = value.1 ∧
      event.opportunityId = some value.2.1 ∧ event.stageName = some value.2.2 := by
  obtain ⟨accountId, opportunityId, stageName⟩ := value
  simp only [eventKey, Option.bind_eq_some_iff, Option.map_eq_some_iff, Prod.mk.injEq]
  constructor
  · rintro ⟨_, opportunity, _, stage, account, rfl, rfl⟩
    exact ⟨account, opportunity, stage⟩
  · rintro ⟨account, opportunity, stage⟩
    exact ⟨_, opportunity, _, stage, account, rfl, rfl⟩

theorem moveSalesforceEvents_constraints (held : Constraints db) (known : toId ∈ accountIds db)
    (different : toId ≠ fromId) :
    Constraints (moveSalesforceEvents db fromId toId) ↔ EventsApart db toId fromId := by
  have ids : ((moveSalesforceEvents db fromId toId).salesforceEvents.map (·.id)).Nodup :=
    nodup_updateWhere (fun _ => rfl) held.primary.salesforceEvents
  have distinct := nodup_of_keys held.primary.salesforceEvents
  constructor
  · intro after own inOwn other inOther ownAccount otherAccount opportunityId stageName
      ownOpportunity ownStage same
    have stays : own ∈ (moveSalesforceEvents db fromId toId).salesforceEvents :=
      mem_updateWhere.mpr ⟨own, inOwn, .inr ⟨by simp [ownAccount, different], rfl⟩⟩
    have moves : { other with accountId := toId } ∈
        (moveSalesforceEvents db fromId toId).salesforceEvents :=
      mem_updateWhere.mpr ⟨other, inOther, .inl ⟨by simp [otherAccount], rfl⟩⟩
    have clash := (uniqueBy_iff (nodup_of_keys ids)).mp after.unique.events own stays _ moves
      (toId, opportunityId, stageName) (eventKey_eq_some.mpr ⟨ownAccount, ownOpportunity, ownStage⟩)
      (eventKey_eq_some.mpr ⟨rfl, same.1, same.2⟩)
    have sameId : own.id = other.id := by rw [clash]
    obtain rfl := eq_of_key held.primary.salesforceEvents inOwn inOther sameId
    exact different (ownAccount.symm.trans otherAccount)
  · intro apart
    have unique := (uniqueBy_iff distinct).mp held.unique.events
    refine ⟨{ held.primary with salesforceEvents := ids }, { held.unique with events := ?_ },
      { held.foreign with
        salesforceEvents := held.foreign.salesforceEvents.updateWhere fun row => .inr ?_ }⟩
    · refine (uniqueBy_iff (nodup_of_keys ids)).mpr ?_
      intro left inLeft right inRight value atLeft atRight
      obtain ⟨accountLeft, opportunityLeft, stageLeft⟩ := eventKey_eq_some.mp atLeft
      obtain ⟨accountRight, opportunityRight, stageRight⟩ := eventKey_eq_some.mp atRight
      obtain ⟨oldLeft, memberLeft, ⟨movedLeft, rfl⟩ | ⟨_, rfl⟩⟩ := mem_updateWhere.mp inLeft
      · obtain ⟨oldRight, memberRight, ⟨movedRight, rfl⟩ | ⟨_, rfl⟩⟩ := mem_updateWhere.mp inRight
        · have same := unique oldLeft memberLeft oldRight memberRight (fromId, value.2)
            (eventKey_eq_some.mpr ⟨by simpa using movedLeft, opportunityLeft, stageLeft⟩)
            (eventKey_eq_some.mpr ⟨by simpa using movedRight, opportunityRight, stageRight⟩)
          rw [same]
        · exact absurd ⟨opportunityLeft, stageLeft⟩ (apart right memberRight oldLeft memberLeft
            (accountRight.trans accountLeft.symm) (by simpa using movedLeft) _ _ opportunityRight
            stageRight)
      · obtain ⟨oldRight, memberRight, ⟨movedRight, rfl⟩ | ⟨_, rfl⟩⟩ := mem_updateWhere.mp inRight
        · exact absurd ⟨opportunityRight, stageRight⟩ (apart left memberLeft oldRight memberRight
            (accountLeft.trans accountRight.symm) (by simpa using movedRight) _ _ opportunityLeft
            stageLeft)
        · exact unique left memberLeft right memberRight value atLeft atRight
    · intro value isTarget
      rwa [← Option.some.inj isTarget]

end

def domainAdded (db : Database) (primary secondary : Account) : Database :=
  match newDomainAlias db primary secondary with
  | none => db
  | some domain => createAlias db primary.id domain

def mergedAlias (primary : Account) (known : Text → Bool) (row : AccountDomain) :
    Option AccountDomain :=
  if some row.domain == primary.domain || known row.domain then none
  else some { row with accountId := primary.id }

def aliasesState (db : Database) (primary : Account) (done : List AccountDomain) : Database :=
  { db with
    accountDomains := passed (mergedAlias primary (hasAlias db primary.id)) done
      db.accountDomains }

def aliasesOf (db : Database) (accountId : RowId) : List AccountDomain :=
  db.accountDomains.filter (·.accountId == accountId)

def aliasesMerged (db : Database) (primary : Account) (fromId : RowId) : Database :=
  aliasesState db primary (aliasesOf db fromId)

theorem hasAlias_iff {db : Database} {domain : Text} :
    hasAlias db accountId domain = true ↔
      ∃ row ∈ db.accountDomains, row.accountId = accountId ∧ row.domain = domain := by
  simp [hasAlias]

theorem mergedAlias_eq_some {primary : Account} {row new : AccountDomain} :
    mergedAlias primary known row = some new ↔
      some row.domain ≠ primary.domain ∧ known row.domain = false ∧
        new = { row with accountId := primary.id } := by
  unfold mergedAlias
  by_cases own : some row.domain = primary.domain
  · simp [own]
  · cases known row.domain <;> simp [own, @eq_comm _ new]

theorem mergedAlias_id {primary : Account} (row new : AccountDomain)
    (changed : mergedAlias primary known row = some new) : new.id = row.id := by
  rw [(mergedAlias_eq_some.mp changed).2.2]

section

variable {db : Database} {primary secondary : Account} {toId fromId : RowId}
  {done : List AccountDomain} {item : AccountDomain} {domain : Text}

theorem createAlias_constraints (held : Constraints db) (known : toId ∈ accountIds db)
    (fresh : ∀ row ∈ db.accountDomains, row.id < db.nextId) (free : hasAlias db toId domain = false) :
    Constraints (createAlias db toId domain) := by
  refine ⟨{ held.primary with accountDomains := ?_ }, { held.unique with aliases := ?_ },
    { held.foreign with accountDomains := ?_ }⟩
  · refine nodup_map_append_fresh held.primary.accountDomains fun old member same => ?_
    exact absurd (fresh old member) (by rw [same]; exact Nat.lt_irrefl _)
  · refine held.unique.aliases.append fun old member value atOld atNew => ?_
    have same := Option.some.inj (atOld.trans atNew.symm)
    obtain ⟨account, sameDomain⟩ := Prod.mk.inj same
    rw [hasAlias_iff.mpr ⟨old, member, account, sameDomain⟩] at free
    cases free
  · refine references_iff.mpr fun row member account isAccount => ?_
    rcases List.mem_append.mp member with inOld | isNew
    · exact references_iff.mp held.foreign.accountDomains row inOld account isAccount
    · rw [List.mem_singleton.mp isNew] at isAccount
      rwa [← Option.some.inj isAccount]

theorem newDomainAlias_free (added : newDomainAlias db primary secondary = some domain) :
    hasAlias db primary.id domain = false := by
  obtain ⟨_, criteria⟩ := Option.filter_eq_some_iff.mp added
  simp only [Bool.and_eq_true, Bool.not_eq_true'] at criteria
  exact criteria.2

theorem domainAdded_constraints (held : Constraints db) (known : primary.id ∈ accountIds db)
    (fresh : ∀ row ∈ db.accountDomains, row.id < db.nextId) :
    Constraints (domainAdded db primary secondary) := by
  unfold domainAdded
  split
  · exact held
  · rename_i added
    exact createAlias_constraints held known fresh (newDomainAlias_free added)

theorem addDomainAlias_eq_ok (held : Constraints db) (known : primary.id ∈ accountIds db)
    (fresh : ∀ row ∈ db.accountDomains, row.id < db.nextId) :
    addDomainAlias db primary secondary =
      .ok (domainAdded db primary secondary, (newDomainAlias db primary secondary).toList) := by
  have after : Constraints (domainAdded db primary secondary) :=
    domainAdded_constraints held known fresh
  unfold addDomainAlias
  unfold domainAdded at after ⊢
  cases added : newDomainAlias db primary secondary with
  | none => rfl
  | some domain =>
    rw [added] at after
    simp only [statement_ok after, bind, Except.bind, pure, Except.pure, Option.toList_some]

private theorem mergedAlias_reassigns :
    Reassigns (·.accountId) (·.domain) primary.id db.accountDomains
      (mergedAlias primary (hasAlias db primary.id)) where
  given _ _ changed := by rw [(mergedAlias_eq_some.mp changed).2.2]
  labelled _ _ changed := by rw [(mergedAlias_eq_some.mp changed).2.2]
  free row new changed old member account domain := by
    have absent := (mergedAlias_eq_some.mp changed).2.1
    rw [hasAlias_iff.mpr ⟨old, member, account, domain⟩] at absent
    cases absent

theorem aliasesState_constraints (held : Constraints db) (known : primary.id ∈ accountIds db)
    (owned : ∀ row ∈ done, row.accountId = fromId) : Constraints (aliasesState db primary done) := by
  have ids : ((aliasesState db primary done).accountDomains.map (·.id)).Nodup :=
    passed_keys mergedAlias_id held.primary.accountDomains
  have aliases : UniqueBy aliasKey (aliasesState db primary done).accountDomains :=
    UniqueBy.passed mergedAlias_reassigns held.unique.aliases
      (nodup_of_keys held.primary.accountDomains) (nodup_of_keys ids) owned
  refine ⟨{ held.primary with accountDomains := ids }, { held.unique with aliases := aliases },
    { held.foreign with accountDomains := ?_ }⟩
  refine references_iff.mpr fun row member account isAccount => ?_
  obtain rfl := Option.some.inj isAccount
  obtain ⟨old, inOld, ⟨_, changed⟩ | ⟨_, rfl⟩⟩ := mem_passed.mp member
  · rw [(mergedAlias_eq_some.mp changed).2.2]
    exact known
  · exact references_iff.mp held.foreign.accountDomains row inOld row.accountId rfl

theorem Constraints.alias_eq (held : Constraints db) {left right : AccountDomain}
    (inLeft : left ∈ db.accountDomains) (inRight : right ∈ db.accountDomains)
    (account : left.accountId = right.accountId) (same : left.domain = right.domain) :
    left = right :=
  (uniqueBy_iff (nodup_of_keys held.primary.accountDomains)).mp held.unique.aliases left inLeft
    right inRight (left.accountId, left.domain) rfl (by rw [aliasKey, account, same])

theorem hasAlias_aliasesState (held : Constraints db) (different : primary.id ≠ fromId)
    (owned : ∀ row ∈ done, row ∈ db.accountDomains ∧ row.accountId = fromId)
    (member : item ∈ db.accountDomains) (own : item.accountId = fromId) (fresh : item ∉ done) :
    hasAlias (aliasesState db primary done) primary.id item.domain =
      hasAlias db primary.id item.domain := by
  refine Bool.eq_iff_iff.mpr (hasAlias_iff.trans (Iff.trans ?_ hasAlias_iff.symm))
  constructor
  · rintro ⟨row, inState, account, same⟩
    obtain ⟨old, inOld, ⟨inDone, changed⟩ | ⟨_, rfl⟩⟩ := mem_passed.mp inState
    · have oldDomain : old.domain = item.domain := by
        rw [← same, (mergedAlias_eq_some.mp changed).2.2]
      obtain rfl := held.alias_eq inOld member ((owned old inDone).2.trans own.symm) oldDomain
      exact absurd inDone fresh
    · exact ⟨row, inOld, account, same⟩
  · rintro ⟨row, inTable, account, same⟩
    refine ⟨row, mem_passed.mpr ⟨row, inTable, .inr ⟨fun inDone => ?_, rfl⟩⟩, account, same⟩
    exact different (account.symm.trans (owned row inDone).2)

def movedAliases (db : Database) (primary : Account) (rows : List AccountDomain) : List Text :=
  (rows.filterMap (mergedAlias primary (hasAlias db primary.id))).map (·.domain)

variable {added : List Text}

private theorem moveAlias_turn {rest : List AccountDomain}
    (held : Constraints db) (known : primary.id ∈ accountIds db) (different : primary.id ≠ fromId)
    (whole : aliasesOf db fromId = done ++ item :: rest) :
    moveAlias primary (aliasesState db primary done, added) item =
      .ok (aliasesState db primary (done ++ [item]), added ++ movedAliases db primary [item]) := by
  obtain ⟨member, own, fresh, earlier⟩ :=
    selection_turn (nodup_of_keys held.primary.accountDomains) whole
  have ownedDone : ∀ row ∈ done, row ∈ db.accountDomains ∧ row.accountId = fromId :=
    fun row inDone => ⟨(earlier row inDone).1, by simpa using (earlier row inDone).2⟩
  have ownItem : item.accountId = fromId := by simpa using own
  have next : Constraints (aliasesState db primary (done ++ [item])) := by
    refine aliasesState_constraints held known fun row inNext => (?_ : row.accountId = fromId)
    rcases List.mem_append.mp inNext with inDone | isItem
    · exact (ownedDone row inDone).2
    · rw [List.mem_singleton.mp isItem, ownItem]
  have same := hasAlias_aliasesState held different ownedDone member ownItem fresh
  have dropped (gone : mergedAlias primary (hasAlias db primary.id) item = none) :
      deleteAlias (aliasesState db primary done) item.id =
          aliasesState db primary (done ++ [item]) ∧ movedAliases db primary [item] = [] := by
    refine ⟨?_, by simp [movedAliases, gone]⟩
    simp only [deleteAlias, aliasesState,
      passed_delete mergedAlias_id held.primary.accountDomains member fresh gone]
  by_cases ownDomain : some item.domain = primary.domain
  · obtain ⟨table, nothing⟩ := dropped (by simp [mergedAlias, ownDomain])
    simp only [moveAlias, ownDomain, beq_self_eq_true, if_true, table, statement_ok next, nothing,
      List.append_nil, bind, Except.bind, pure, Except.pure]
  · cases isKnown : hasAlias db primary.id item.domain with
    | true =>
      obtain ⟨table, nothing⟩ := dropped (by simp [mergedAlias, isKnown])
      simp only [moveAlias, beq_eq_false_iff_ne.mpr ownDomain, same, isKnown, Bool.not_true,
        Bool.false_eq_true, if_false, table, statement_ok next, nothing, List.append_nil, bind,
        Except.bind, pure, Except.pure]
    | false =>
      have changed : mergedAlias primary (hasAlias db primary.id) item =
          some { item with accountId := primary.id } :=
        mergedAlias_eq_some.mpr ⟨ownDomain, isKnown, rfl⟩
      have moved : reassignAlias (aliasesState db primary done) primary.id item.id =
          aliasesState db primary (done ++ [item]) := by
        have table : updateWhere (passed (mergedAlias primary (hasAlias db primary.id)) done
            db.accountDomains) (·.id == item.id) (fun row => { row with accountId := primary.id }) =
            passed (mergedAlias primary (hasAlias db primary.id)) (done ++ [item])
              db.accountDomains :=
          passed_update mergedAlias_id held.primary.accountDomains member fresh changed
        simp only [reassignAlias, aliasesState, table]
      have label : movedAliases db primary [item] = [item.domain] := by
        simp [movedAliases, changed]
      simp only [moveAlias, beq_eq_false_iff_ne.mpr ownDomain, same, isKnown, Bool.not_false,
        Bool.false_eq_true, if_false, if_true, moved, statement_ok next, label, bind, Except.bind,
        pure, Except.pure]

theorem moveAliases_eq_ok (held : Constraints db)
    (known : primary.id ∈ accountIds db) (different : primary.id ≠ secondary.id) :
    moveAliases primary secondary (db, added) =
      .ok (aliasesMerged db primary secondary.id,
        added ++ movedAliases db primary (aliasesOf db secondary.id)) := by
  let closed (done : List AccountDomain) : Database × List Text :=
    (aliasesState db primary done, added ++ movedAliases db primary done)
  have loop : (aliasesOf db secondary.id).foldlM (moveAlias primary) (closed []) =
      .ok (closed (aliasesOf db secondary.id)) := by
    refine foldlM_eq_ok closed fun done item rest whole => ?_
    rw [moveAlias_turn held known different whole]
    simp [closed, movedAliases, List.append_assoc]
  have start : closed [] = (db, added) := by simp [closed, aliasesState, movedAliases]
  rw [start] at loop
  exact loop

theorem aliasesMerged_constraints (held : Constraints db) (known : primary.id ∈ accountIds db) :
    Constraints (aliasesMerged db primary fromId) :=
  aliasesState_constraints held known fun _ member => by simpa using (List.mem_filter.mp member).2

end

end StoryEngine.Accounts
