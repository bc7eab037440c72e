import StoryEngine.Crm.Accounts

namespace StoryEngine.Crm

open Accounts Data Schema Statements Text

/-! # What becomes of the accounts of a batch -/

def UnderReview (organizationId : RowId) (db : Database) (externalId : Text) : Prop :=
  ∃ request ∈ db.mergeConflictRequests,
    request.organizationId = organizationId ∧ request.targetType = .account ∧
      request.status = .pending ∧ request.requestPayload.incomingExternalId = externalId

/-- The account of the organization with the external id has the incoming name. -/
def HasAccount (organizationId : RowId) (db : Database) (account : NormalizedAccount) : Prop :=
  ∃ row ∈ db.accounts,
    row.organizationId = organizationId ∧ row.salesforceId = some account.externalId ∧
      row.name = account.name

def Represented (organizationId : RowId) (db : Database) (account : NormalizedAccount) : Prop :=
  HasAccount organizationId db account ∨ UnderReview organizationId db account.externalId

def BatchRepresented (cases : CaseMapping) (organizationId : RowId) (db : Database)
    (accounts : List NormalizedAccount) : Prop :=
  ∃ final, persistAccountBatch cases organizationId accounts db = .ok ⟨⟩ final ∧
    ∀ account ∈ accounts, Represented organizationId final account

def domainAfter (updates : List (NormalizedAccount × RowId)) (row : Account) : Option Text :=
  ((updates.find? (·.2 == row.id)).bind (·.1.domain)).or row.domain

/-- After some of the updates no account of the organization has the domain. -/
def DomainFree (organizationId : RowId) (db : Database) (updates : List (NormalizedAccount × RowId))
    (domain : Text) : Prop :=
  ∀ row ∈ db.accounts, row.organizationId = organizationId → domainAfter updates row ≠ some domain

def toCreate (cases : CaseMapping) (organizationId : RowId) (db : Database)
    (accounts : List NormalizedAccount) : List NormalizedAccount :=
  (toConflictCheck organizationId db accounts).filter fun account =>
    (potentialConflict cases organizationId db account).isNone

/-- The update takes no domain that another account has at that moment. -/
def UpdateFits (organizationId : RowId) (db : Database) (done : List (NormalizedAccount × RowId))
    (update : NormalizedAccount × RowId) : Prop :=
  ∀ domain ∈ update.1.domain, ∀ row ∈ db.accounts, row.organizationId = organizationId →
    row.id ≠ update.2 → domainAfter done row ≠ some domain

def UpdatesFit (organizationId : RowId) (db : Database) (accounts : List NormalizedAccount) : Prop :=
  ∀ done update rest, toUpdate organizationId db accounts = done ++ update :: rest →
    UpdateFits organizationId db done update

/-- A conflict is under review already, or its review can be asked for and is the
first of the account that it conflicts with. -/
def ReviewsFit (cases : CaseMapping) (organizationId : RowId) (db : Database)
    (accounts : List NormalizedAccount) : Prop :=
  ∀ done account rest, toConflictCheck organizationId db accounts = done ++ account :: rest →
    ∀ conflict ∈ potentialConflict cases organizationId db account,
      UnderReview organizationId db account.externalId ∨
        (reviewRequester db organizationId).isSome ∧
          ¬ db.mergeConflictRequests.any (isReviewOf organizationId .account conflict.id) ∧
            ∀ earlier ∈ done,
              (potentialConflict cases organizationId db earlier).map (·.id) ≠ some conflict.id

/-- A new account has no domain, or one that neither an account nor an earlier new
account has. -/
def CreationsFit (cases : CaseMapping) (organizationId : RowId) (db : Database)
    (accounts : List NormalizedAccount) : Prop :=
  ∀ done account rest, toCreate cases organizationId db accounts = done ++ account :: rest →
    UnderReview organizationId db account.externalId ∨
      ∀ domain ∈ account.domain,
        DomainFree organizationId db (toUpdate organizationId db accounts) domain ∧
          ∀ earlier ∈ done, earlier.domain ≠ some domain

structure AccountBatchFits (cases : CaseMapping) (organizationId : RowId) (db : Database)
    (accounts : List NormalizedAccount) : Prop where
  updates : UpdatesFit organizationId db accounts
  reviews : ReviewsFit cases organizationId db accounts
  creations : CreationsFit cases organizationId db accounts

section

variable {cases : CaseMapping} {organizationId : RowId} {db before checked : Database}
  {account : NormalizedAccount} {externalId : Text} {targetId : RowId}

def Pending (organizationId : RowId) (db : Database) (targetId : RowId) : Prop :=
  db.mergeConflictRequests.any (isReviewOf organizationId .account targetId)

theorem queueMergeConflictReview_cases (db : Database) (organizationId targetId : RowId)
    (payload : MergeConflictPayload) :
    (queueMergeConflictReview db organizationId .account targetId payload = db ∧
        (Pending organizationId db targetId ∨ reviewRequester db organizationId = none)) ∨
      ∃ owner, reviewRequester db organizationId = some owner ∧
        ¬ Pending organizationId db targetId ∧
          queueMergeConflictReview db organizationId .account targetId payload = { db with
            nextId := db.nextId + 1
            mergeConflictRequests := db.mergeConflictRequests ++ [{
              id := db.nextId
              organizationId
              targetType := .account
              targetId
              requestedByUserId := owner.id
              requestPayload := payload }] } := by
  unfold queueMergeConflictReview Pending
  split
  · next pending => exact .inl ⟨rfl, .inl pending⟩
  · next free =>
      split
      · next none => exact .inl ⟨rfl, .inr none⟩
      · next owner found => exact .inr ⟨owner, found, free, rfl⟩

theorem pending_queue (payload : MergeConflictPayload) (other : RowId) :
    Pending organizationId
        (queueMergeConflictReview db organizationId .account targetId payload) other ↔
      Pending organizationId db other ∨
        (reviewRequester db organizationId).isSome ∧ targetId = other := by
  obtain ⟨same, reason⟩ | ⟨owner, found, _, added⟩ :=
    queueMergeConflictReview_cases db organizationId targetId payload
  · rw [same]
    refine ⟨.inl, ?_⟩
    rintro (pending | ⟨someone, rfl⟩)
    · exact pending
    · rcases reason with pending | nobody
      · exact pending
      · rw [nobody] at someone
        cases someone
  · rw [added]
    simp [Pending, found, isReviewOf]

theorem underReview_queue (payload : MergeConflictPayload) :
    UnderReview organizationId
        (queueMergeConflictReview db organizationId .account targetId payload) externalId ↔
      UnderReview organizationId db externalId ∨
        payload.incomingExternalId = externalId ∧ (reviewRequester db organizationId).isSome ∧
          ¬ Pending organizationId db targetId := by
  obtain ⟨same, reason⟩ | ⟨owner, found, free, added⟩ :=
    queueMergeConflictReview_cases db organizationId targetId payload
  · rw [same]
    refine ⟨.inl, ?_⟩
    rintro (review | ⟨_, someone, free⟩)
    · exact review
    · rcases reason with pending | nobody
      · exact absurd pending free
      · rw [nobody] at someone
        cases someone
  · rw [added]
    simp only [UnderReview, List.mem_append, List.mem_singleton, or_and_right, exists_or,
      exists_eq_left, found, Option.isSome_some, true_and]
    simp [free]

structure SameButReviews (before after : Database) : Prop where
  accounts : after.accounts = before.accounts
  users : after.users = before.users

theorem SameButReviews.trans {later : Database} (first : SameButReviews db checked)
    (second : SameButReviews checked later) : SameButReviews db later :=
  ⟨second.accounts.trans first.accounts, second.users.trans first.users⟩

theorem SameButReviews.potentialConflict (same : SameButReviews db checked) :
    potentialConflict cases organizationId checked account =
      potentialConflict cases organizationId db account := by
  rw [Crm.potentialConflict, same.accounts, Crm.potentialConflict]

theorem SameButReviews.reviewRequester (same : SameButReviews db checked) :
    reviewRequester checked organizationId = reviewRequester db organizationId := by
  rw [Crm.reviewRequester, same.users, Crm.reviewRequester]

theorem queue_sameButReviews (payload : MergeConflictPayload) :
    SameButReviews db (queueMergeConflictReview db organizationId .account targetId payload) := by
  obtain ⟨same, _⟩ | ⟨owner, _, _, added⟩ :=
    queueMergeConflictReview_cases db organizationId targetId payload
  · rw [same]
    exact ⟨rfl, rfl⟩
  · rw [added]
    exact ⟨rfl, rfl⟩

variable {state : Database × List NormalizedAccount}

theorem checkConflict_same (same : SameButReviews db state.1) (account : NormalizedAccount) :
    SameButReviews db (checkConflict cases organizationId state account).1 := by
  unfold checkConflict
  split
  · exact same.trans (queue_sameButReviews _)
  · exact same

theorem checkConflict_pending (same : SameButReviews db state.1) :
    Pending organizationId (checkConflict cases organizationId state account).1 targetId ↔
      Pending organizationId state.1 targetId ∨ (reviewRequester db organizationId).isSome ∧
        (potentialConflict cases organizationId db account).map (·.id) = some targetId := by
  unfold checkConflict
  rw [same.potentialConflict]
  cases potentialConflict cases organizationId db account with
  | none => simp
  | some conflict =>
    dsimp only
    rw [pending_queue, same.reviewRequester]
    simp

theorem checkConflict_underReview (same : SameButReviews db state.1) :
    UnderReview organizationId (checkConflict cases organizationId state account).1 externalId ↔
      UnderReview organizationId state.1 externalId ∨
        account.externalId = externalId ∧ (reviewRequester db organizationId).isSome ∧
          ∃ conflict ∈ potentialConflict cases organizationId db account,
            ¬ Pending organizationId state.1 conflict.id := by
  unfold checkConflict
  rw [same.potentialConflict]
  cases potentialConflict cases organizationId db account with
  | none => simp
  | some conflict =>
    dsimp only
    rw [underReview_queue, same.reviewRequester]
    simp [accountConflict]

variable {accounts done rest : List NormalizedAccount}

theorem checkConflicts_same (same : SameButReviews db state.1) :
    SameButReviews db (accounts.foldl (checkConflict cases organizationId) state).1 := by
  induction accounts generalizing state with
  | nil => exact same
  | cons account rest ih => exact ih (checkConflict_same same account)

theorem checkConflicts_toCreate (same : SameButReviews db state.1) :
    (accounts.foldl (checkConflict cases organizationId) state).2 =
      state.2 ++ accounts.filter fun account =>
        (potentialConflict cases organizationId db account).isNone := by
  induction accounts generalizing state with
  | nil => simp
  | cons account rest ih =>
    rw [List.foldl_cons, ih (checkConflict_same same account), checkConflict, same.potentialConflict]
    cases found : potentialConflict cases organizationId db account with
    | none => simp [found]
    | some conflict => simp [found]

theorem checkConflicts_pending (same : SameButReviews db state.1) :
    Pending organizationId (accounts.foldl (checkConflict cases organizationId) state).1 targetId ↔
      Pending organizationId state.1 targetId ∨ (reviewRequester db organizationId).isSome ∧
        ∃ account ∈ accounts,
          (potentialConflict cases organizationId db account).map (·.id) = some targetId := by
  induction accounts generalizing state with
  | nil => simp
  | cons account rest ih =>
    rw [List.foldl_cons, ih (checkConflict_same same account), checkConflict_pending same]
    rw [List.exists_mem_cons_iff, and_or_left, or_assoc]

theorem checkConflicts_underReview_other (same : SameButReviews db state.1)
    (others : ∀ account ∈ accounts, account.externalId ≠ externalId) :
    UnderReview organizationId (accounts.foldl (checkConflict cases organizationId) state).1
        externalId ↔ UnderReview organizationId state.1 externalId := by
  induction accounts generalizing state with
  | nil => exact Iff.rfl
  | cons account rest ih =>
    have apart := others account List.mem_cons_self
    have behind (other : NormalizedAccount) (member : other ∈ rest) :
        other.externalId ≠ externalId := others other (List.mem_cons_of_mem _ member)
    rw [List.foldl_cons, ih (checkConflict_same same account) behind,
      checkConflict_underReview same]
    simp [apart]

theorem externalIds_apart (distinct : ((done ++ account :: rest).map (·.externalId)).Nodup) :
    (∀ other ∈ done, other.externalId ≠ account.externalId) ∧
      ∀ other ∈ rest, other.externalId ≠ account.externalId := by
  rw [List.map_append, List.map_cons, List.nodup_append] at distinct
  obtain ⟨_, tail, apart⟩ := distinct
  constructor
  · intro other member
    exact apart _ (List.mem_map_of_mem member) _ List.mem_cons_self
  · intro other member same
    exact (List.nodup_cons.mp tail).1 (same ▸ List.mem_map_of_mem member)

theorem checkConflicts_underReview
    (distinct : ((done ++ account :: rest).map (·.externalId)).Nodup) :
    UnderReview organizationId
        ((done ++ account :: rest).foldl (checkConflict cases organizationId) (db, [])).1
        account.externalId ↔
      UnderReview organizationId db account.externalId ∨
        (reviewRequester db organizationId).isSome ∧
          ∃ conflict ∈ potentialConflict cases organizationId db account,
            ¬ Pending organizationId db conflict.id ∧ ∀ earlier ∈ done,
              (potentialConflict cases organizationId db earlier).map (·.id) ≠ some conflict.id := by
  obtain ⟨before, behind⟩ := externalIds_apart distinct
  have start : SameButReviews db ((db, []) : Database × List NormalizedAccount).1 := ⟨rfl, rfl⟩
  have reached : SameButReviews db (done.foldl (checkConflict cases organizationId) (db, [])).1 :=
    checkConflicts_same start
  rw [List.foldl_append, List.foldl_cons,
    checkConflicts_underReview_other (checkConflict_same reached account) behind,
    checkConflict_underReview reached, checkConflicts_underReview_other start before]
  refine or_congr_right ?_
  simp only [true_and, checkConflicts_pending start]
  refine and_congr_right fun someone => exists_congr fun conflict => and_congr_right fun _ => ?_
  simp only [someone, true_and, not_or, not_exists, not_and]

end

section

variable {cases : CaseMapping} {organizationId : RowId} {db base : Database}
  {accounts : List NormalizedAccount} {done : List (NormalizedAccount × RowId)}
  {update : NormalizedAccount × RowId} {row : Account}

def afterUpdates (cases : CaseMapping) (updates : List (NormalizedAccount × RowId)) (row : Account) :
    Account :=
  match updates.find? (·.2 == row.id) with
  | some update => updatedAccount cases update.1 row
  | none => row

@[simp] theorem afterUpdates_id : (afterUpdates cases done row).id = row.id := by
  unfold afterUpdates
  split <;> rfl

@[simp] theorem afterUpdates_organizationId :
    (afterUpdates cases done row).organizationId = row.organizationId := by
  unfold afterUpdates
  split <;> rfl

@[simp] theorem afterUpdates_salesforceId :
    (afterUpdates cases done row).salesforceId = row.salesforceId := by
  unfold afterUpdates
  split <;> rfl

@[simp] theorem afterUpdates_domain : (afterUpdates cases done row).domain = domainAfter done row := by
  unfold afterUpdates domainAfter
  cases done.find? (·.2 == row.id) <;> rfl

theorem mem_toUpdate :
    update ∈ toUpdate organizationId db accounts ↔
      update.1 ∈ accounts ∧
        (existingAccount organizationId db update.1.externalId).map (·.id) = some update.2 := by
  simp only [toUpdate, List.mem_filterMap, Option.map_eq_some_iff]
  constructor
  · rintro ⟨account, member, existing, found, rfl⟩
    exact ⟨member, existing, found, rfl⟩
  · rintro ⟨member, existing, found, same⟩
    exact ⟨update.1, member, existing, found, by rw [same]⟩

theorem existingAccount_some {externalId : Text} {existing : Account}
    (found : existingAccount organizationId db externalId = some existing) :
    existing ∈ db.accounts ∧ existing.organizationId = organizationId ∧
      existing.salesforceId = some externalId := by
  have matched := List.find?_some found
  simp only [Bool.and_eq_true, beq_iff_eq] at matched
  exact ⟨List.mem_of_find?_eq_some found, matched.1, matched.2⟩

theorem toUpdate_distinct (primary : (db.accounts.map (·.id)).Nodup)
    (distinct : (accounts.map (·.externalId)).Nodup) :
    ((toUpdate organizationId db accounts).map (·.2)).Nodup := by
  unfold toUpdate
  rw [List.Nodup, List.pairwise_map, List.pairwise_filterMap]
  rw [List.Nodup, List.pairwise_map] at distinct
  refine distinct.imp fun {first second} apart => ?_
  intro firstUpdate isFirst secondUpdate isSecond same
  obtain ⟨existing, found, rfl⟩ := Option.map_eq_some_iff.mp isFirst
  obtain ⟨other, foundOther, rfl⟩ := Option.map_eq_some_iff.mp isSecond
  obtain ⟨member, _, known⟩ := existingAccount_some found
  obtain ⟨otherMember, _, otherKnown⟩ := existingAccount_some foundOther
  have isSame : existing = other := eq_of_key primary member otherMember same
  subst isSame
  exact apart (Option.some.inj (known.symm.trans otherKnown))

theorem toUpdate_fresh {rest : List (NormalizedAccount × RowId)}
    (primary : (db.accounts.map (·.id)).Nodup) (distinct : (accounts.map (·.externalId)).Nodup)
    (whole : toUpdate organizationId db accounts = done ++ update :: rest) :
    update.2 ∉ done.map (·.2) := by
  have ids : ((toUpdate organizationId db accounts).map (·.2)).Nodup :=
    toUpdate_distinct primary distinct
  rw [whole, List.map_append, List.nodup_append] at ids
  exact fun member => ids.2.2 _ member _ List.mem_cons_self rfl

theorem afterUpdates_snoc (fresh : update.2 ∉ done.map (·.2)) :
    (if (afterUpdates cases done row).id == update.2 then
        updatedAccount cases update.1 (afterUpdates cases done row)
      else afterUpdates cases done row) = afterUpdates cases (done ++ [update]) row := by
  rw [afterUpdates_id]
  by_cases own : row.id = update.2
  · have none : done.find? (·.2 == row.id) = none := by
      rw [List.find?_eq_none]
      intro earlier member same
      exact fresh (List.mem_map.mpr ⟨earlier, member, (beq_iff_eq.mp same).trans own⟩)
    have found : (done ++ [update]).find? (·.2 == row.id) = some update := by
      rw [List.find?_append, none]
      simp [own]
    simp only [afterUpdates, none, found]
    rw [if_pos (by simpa using own)]
  · have same : (done ++ [update]).find? (·.2 == row.id) = done.find? (·.2 == row.id) := by
      rw [List.find?_append]
      have other : [update].find? (·.2 == row.id) = none := by
        simp [Ne.symm own]
      rw [other, Option.or_none]
    rw [if_neg (by simpa using own), afterUpdates, afterUpdates, same]

def updated (cases : CaseMapping) (base : Database) (accounts : List Account)
    (updates : List (NormalizedAccount × RowId)) : Database :=
  { base with accounts := accounts.map (afterUpdates cases updates) }

theorem updateFits_iff (cases : CaseMapping) (base : Database) :
    UpdateFits organizationId db done update ↔
      (update.1.domain.any fun domain =>
        (updated cases base db.accounts done).accounts.any fun row =>
          row.id != update.2 && holdsDomain organizationId domain row) = false := by
  unfold UpdateFits
  cases given : update.1.domain with
  | none => simp
  | some domain =>
    simp only [updated, Option.any_some, List.any_map, List.any_eq_false, Option.mem_some_iff,
      forall_eq', holdsDomain, Function.comp_apply, afterUpdates_id, afterUpdates_organizationId,
      afterUpdates_domain]
    refine forall₂_congr fun row _ => ?_
    simp only [bne_iff_ne, Bool.and_eq_true, beq_iff_eq, not_and, ne_eq]
    exact ⟨fun free own other => free other own, fun free other own => free own other⟩

theorem updateAccount_fits (fresh : update.2 ∉ done.map (·.2))
    (fits : UpdateFits organizationId db done update) :
    updateAccount cases organizationId update (updated cases base db.accounts done) =
      .ok ⟨⟩ (updated cases base db.accounts (done ++ [update])) := by
  unfold updateAccount
  rw [(updateFits_iff cases base).mp fits, if_neg Bool.false_ne_true]
  congr 1
  unfold updated updateWhere
  congr 1
  rw [List.map_map]
  exact List.map_congr_left fun row _ => afterUpdates_snoc fresh

theorem updateAccount_refused (taken : ¬ UpdateFits organizationId db done update)
    (written : Database) :
    updateAccount cases organizationId update (updated cases base db.accounts done) ≠
      .ok ⟨⟩ written := by
  unfold updateAccount
  rw [updateFits_iff cases base, Bool.not_eq_false] at taken
  rw [taken, if_pos rfl]
  intro ran
  cases ran

theorem updates_eq_ok_iff {final : Database} (primary : (db.accounts.map (·.id)).Nodup)
    (distinct : (accounts.map (·.externalId)).Nodup) (same : base.accounts = db.accounts) :
    each (toUpdate organizationId db accounts) (updateAccount cases organizationId) base =
        .ok ⟨⟩ final ↔
      UpdatesFit organizationId db accounts ∧
        updated cases base db.accounts (toUpdate organizationId db accounts) = final := by
  have start : updated cases base db.accounts [] = base := by
    have unchanged : db.accounts.map (afterUpdates cases []) = base.accounts := by
      rw [same]
      exact List.map_id _
    rw [updated, unchanged]
  have whole : each (toUpdate organizationId db accounts) (updateAccount cases organizationId)
      (updated cases base db.accounts []) = .ok ⟨⟩ final ↔ _ :=
    each_eq_ok_iff (updated cases base db.accounts) (UpdateFits organizationId db)
      (fun done update rest split fits =>
        updateAccount_fits (toUpdate_fresh primary distinct split) fits)
      (fun done update rest _ taken => updateAccount_refused taken)
  rw [start] at whole
  exact whole

end

section

variable {cases : CaseMapping} {organizationId : RowId} {db base : Database}
  {account other : NormalizedAccount} {accounts done rest : List NormalizedAccount} {domain : Text}

def HoldsDomain (organizationId : RowId) (db : Database) (domain : Text) : Prop :=
  ∃ row ∈ db.accounts, row.organizationId = organizationId ∧ row.domain = some domain

def HoldsId (organizationId : RowId) (db : Database) (externalId : Text) : Prop :=
  ∃ row ∈ db.accounts, row.organizationId = organizationId ∧ row.salesforceId = some externalId

def appendAccount (cases : CaseMapping) (organizationId : RowId) (db : Database)
    (account : NormalizedAccount) : Database :=
  { db with
    nextId := db.nextId + 1
    accounts := db.accounts ++ [newAccount cases organizationId account db.nextId] }

theorem createAccount_cases (cases : CaseMapping)
    (free : ¬ HoldsId organizationId db account.externalId) :
    ((∃ domain ∈ account.domain, HoldsDomain organizationId db domain) ∧
        createAccount cases organizationId db account = db) ∨
      (∀ domain ∈ account.domain, ¬ HoldsDomain organizationId db domain) ∧
        createAccount cases organizationId db account =
          appendAccount cases organizationId db account := by
  have noId : ∀ row ∈ db.accounts,
      (salesforceKey row == salesforceKey (newAccount cases organizationId account db.nextId)) =
        false := by
    intro row member
    rw [beq_eq_false_iff_ne]
    intro same
    simp only [salesforceKey, newAccount, Option.map_some, Option.map_eq_some_iff,
      Prod.mk.injEq] at same
    obtain ⟨salesforceId, known, organization, rfl⟩ := same
    exact free ⟨row, member, organization, known⟩
  have taken : (db.accounts.any fun row =>
      (domainKey (newAccount cases organizationId account db.nextId)).isSome &&
        domainKey row == domainKey (newAccount cases organizationId account db.nextId) ||
          salesforceKey row == salesforceKey (newAccount cases organizationId account db.nextId)) =
        true ↔ ∃ domain ∈ account.domain, HoldsDomain organizationId db domain := by
    rw [List.any_eq_true]
    constructor
    · rintro ⟨row, member, hit⟩
      rw [noId row member, Bool.or_false, Bool.and_eq_true, beq_iff_eq] at hit
      obtain ⟨given, same⟩ := hit
      simp only [domainKey, newAccount, Option.isSome_map] at given same
      obtain ⟨domain, isDomain⟩ := Option.isSome_iff_exists.mp given
      rw [isDomain, Option.map_some, Option.map_eq_some_iff] at same
      obtain ⟨held, known, pair⟩ := same
      obtain ⟨organization, rfl⟩ := Prod.mk.inj pair
      exact ⟨held, isDomain, row, member, organization, known⟩
    · rintro ⟨domain, given, row, member, organization, known⟩
      refine ⟨row, member, ?_⟩
      simp [domainKey, newAccount, Option.mem_def.mp given, organization, known]
  unfold createAccount
  simp only
  split
  · next isTaken => exact .inl ⟨taken.mp isTaken, rfl⟩
  · next isFree =>
      refine .inr ⟨fun domain given holds => isFree (taken.mpr ⟨domain, given, holds⟩), rfl⟩

theorem holdsDomain_append :
    HoldsDomain organizationId (appendAccount cases organizationId db account) domain ↔
      HoldsDomain organizationId db domain ∨ account.domain = some domain := by
  simp [HoldsDomain, appendAccount, newAccount, or_and_right, exists_or]

theorem holdsId_append {externalId : Text} :
    HoldsId organizationId (appendAccount cases organizationId db account) externalId ↔
      HoldsId organizationId db externalId ∨ account.externalId = externalId := by
  simp [HoldsId, appendAccount, newAccount, or_and_right, exists_or]

theorem hasAccount_append (apart : account.externalId ≠ other.externalId) :
    HasAccount organizationId (appendAccount cases organizationId db account) other ↔
      HasAccount organizationId db other := by
  simp [HasAccount, appendAccount, newAccount, or_and_right, exists_or, apart]

theorem hasAccount_created :
    HasAccount organizationId (appendAccount cases organizationId db account) account :=
  ⟨newAccount cases organizationId account db.nextId, by simp [appendAccount], rfl, rfl, rfl⟩

theorem holdsDomain_create (free : ¬ HoldsId organizationId db account.externalId) :
    HoldsDomain organizationId (createAccount cases organizationId db account) domain ↔
      HoldsDomain organizationId db domain ∨ account.domain = some domain := by
  rcases createAccount_cases cases free with ⟨⟨held, given, holds⟩, same⟩ | ⟨_, same⟩
  · rw [same]
    refine ⟨.inl, ?_⟩
    rintro (before | own)
    · exact before
    · exact Option.some.inj (own.symm.trans given) ▸ holds
  · rw [same, holdsDomain_append]

theorem createAccount_other (cases : CaseMapping)
    (apart : account.externalId ≠ other.externalId)
    (free : ¬ HoldsId organizationId db account.externalId) :
    (HoldsId organizationId (createAccount cases organizationId db account) other.externalId ↔
        HoldsId organizationId db other.externalId) ∧
      (HasAccount organizationId (createAccount cases organizationId db account) other ↔
        HasAccount organizationId db other) := by
  rcases createAccount_cases cases free with ⟨_, same⟩ | ⟨_, same⟩
  · rw [same]
    exact ⟨Iff.rfl, Iff.rfl⟩
  · rw [same, holdsId_append, hasAccount_append apart]
    exact ⟨or_iff_left apart, Iff.rfl⟩

def Absent (organizationId : RowId) (db : Database) (accounts : List NormalizedAccount) : Prop :=
  ∀ account ∈ accounts, ¬ HoldsId organizationId db account.externalId

theorem Absent.create {head : NormalizedAccount} (cases : CaseMapping)
    (absent : Absent organizationId db (head :: rest))
    (distinct : ((head :: rest).map (·.externalId)).Nodup) :
    Absent organizationId (createAccount cases organizationId db head) rest := by
  intro later member
  have apart : head.externalId ≠ later.externalId := by
    intro same
    exact (List.nodup_cons.mp distinct).1 (List.mem_map.mpr ⟨later, member, same.symm⟩)
  rw [(createAccount_other cases apart (absent head List.mem_cons_self)).1]
  exact absent later (List.mem_cons_of_mem _ member)

theorem holdsDomain_creates (absent : Absent organizationId db accounts)
    (distinct : (accounts.map (·.externalId)).Nodup) :
    HoldsDomain organizationId (createAccounts cases organizationId db accounts) domain ↔
      HoldsDomain organizationId db domain ∨ ∃ account ∈ accounts, account.domain = some domain := by
  induction accounts generalizing db with
  | nil => simp [createAccounts]
  | cons account rest ih =>
    have next := ih (absent.create cases distinct) (List.nodup_cons.mp distinct).2
    rw [createAccounts, List.foldl_cons, ← createAccounts, next,
      holdsDomain_create (absent account List.mem_cons_self), List.exists_mem_cons_iff, or_assoc]

theorem createAccounts_other (absent : Absent organizationId db accounts)
    (distinct : (accounts.map (·.externalId)).Nodup)
    (others : ∀ account ∈ accounts, account.externalId ≠ other.externalId) :
    (HoldsId organizationId (createAccounts cases organizationId db accounts) other.externalId ↔
        HoldsId organizationId db other.externalId) ∧
      (HasAccount organizationId (createAccounts cases organizationId db accounts) other ↔
        HasAccount organizationId db other) := by
  induction accounts generalizing db with
  | nil => exact ⟨Iff.rfl, Iff.rfl⟩
  | cons account rest ih =>
    have next := ih (absent.create cases distinct) (List.nodup_cons.mp distinct).2
      fun later member => others later (List.mem_cons_of_mem _ member)
    have step := createAccount_other cases (others account List.mem_cons_self)
      (absent account List.mem_cons_self)
    exact ⟨next.1.trans step.1, next.2.trans step.2⟩

theorem Absent.creates (cases : CaseMapping) (absent : Absent organizationId db (done ++ rest))
    (distinct : ((done ++ rest).map (·.externalId)).Nodup) :
    Absent organizationId (createAccounts cases organizationId db done) rest := by
  induction done generalizing db with
  | nil => exact absent
  | cons account done ih =>
    exact ih (absent.create cases distinct) (List.nodup_cons.mp distinct).2

theorem hasAccount_creates
    (absent : Absent organizationId db (done ++ account :: rest))
    (distinct : ((done ++ account :: rest).map (·.externalId)).Nodup) :
    HasAccount organizationId
        (createAccounts cases organizationId db (done ++ account :: rest)) account ↔
      ∀ domain ∈ account.domain, ¬ HoldsDomain organizationId db domain ∧
        ∀ earlier ∈ done, earlier.domain ≠ some domain := by
  have distinctDone : (done.map (·.externalId)).Nodup := by
    rw [List.map_append, List.nodup_append] at distinct
    exact distinct.1
  have distinctTail : ((account :: rest).map (·.externalId)).Nodup := by
    rw [List.map_append, List.nodup_append] at distinct
    exact distinct.2.1
  have absentDone : Absent organizationId db done :=
    fun earlier member => absent earlier (List.mem_append_left _ member)
  have absentTail := absent.creates cases distinct
  have free := absentTail account List.mem_cons_self
  have behind := (externalIds_apart distinct).2
  have whole : createAccounts cases organizationId db (done ++ account :: rest) =
      createAccounts cases organizationId (createAccount cases organizationId
        (createAccounts cases organizationId db done) account) rest := by
    rw [createAccounts, List.foldl_append, List.foldl_cons]
    rfl
  rw [whole, (createAccounts_other (absentTail.create cases distinctTail)
    (List.nodup_cons.mp distinctTail).2 behind).2]
  rcases createAccount_cases cases free with ⟨⟨domain, given, holds⟩, same⟩ | ⟨noDomain, same⟩
  · rw [same]
    refine iff_of_false ?_ ?_
    · rintro ⟨row, member, organization, known, _⟩
      exact free ⟨row, member, organization, known⟩
    · intro allFree
      rcases (holdsDomain_creates absentDone distinctDone).mp holds with before | ⟨earlier, member, own⟩
      · exact (allFree domain given).1 before
      · exact (allFree domain given).2 earlier member own
  · rw [same]
    refine iff_of_true hasAccount_created fun domain given => ⟨fun before => ?_, ?_⟩
    · exact noDomain domain given ((holdsDomain_creates absentDone distinctDone).mpr (.inl before))
    · intro earlier member own
      exact noDomain domain given
        ((holdsDomain_creates absentDone distinctDone).mpr (.inr ⟨earlier, member, own⟩))

theorem createAccounts_reviews :
    (createAccounts cases organizationId db accounts).mergeConflictRequests =
      db.mergeConflictRequests := by
  induction accounts generalizing db with
  | nil => rfl
  | cons account rest ih =>
    refine ih.trans ?_
    unfold createAccount
    simp only
    split <;> rfl

def checkedOf (cases : CaseMapping) (organizationId : RowId) (db : Database)
    (accounts : List NormalizedAccount) : Database :=
  ((toConflictCheck organizationId db accounts).foldl (checkConflict cases organizationId) (db, [])).1

def persisted (cases : CaseMapping) (organizationId : RowId) (db : Database)
    (accounts : List NormalizedAccount) : Database :=
  createAccounts cases organizationId
    (updated cases (checkedOf cases organizationId db accounts) db.accounts
      (toUpdate organizationId db accounts)) (toCreate cases organizationId db accounts)

theorem checkedOf_same : SameButReviews db (checkedOf cases organizationId db accounts) :=
  checkConflicts_same ⟨rfl, rfl⟩

theorem persistAccountBatch_eq_ok_iff {final : Database}
    (primary : (db.accounts.map (·.id)).Nodup) (distinct : (accounts.map (·.externalId)).Nodup) :
    persistAccountBatch cases organizationId accounts db = .ok ⟨⟩ final ↔
      UpdatesFit organizationId db accounts ∧ persisted cases organizationId db accounts = final := by
  have created : ((toConflictCheck organizationId db accounts).foldl
      (checkConflict cases organizationId) (db, [])).2 =
        toCreate cases organizationId db accounts := by
    rw [checkConflicts_toCreate ⟨rfl, rfl⟩]
    rfl
  unfold persistAccountBatch
  dsimp only
  rw [transaction_eq_ok, Statements.bind_eq_ok, created]
  constructor
  · rintro ⟨⟨⟩, between, ran, written⟩
    obtain ⟨fits, rfl⟩ := (updates_eq_ok_iff primary distinct checkedOf_same.accounts).mp ran
    exact ⟨fits, (EStateM.Result.ok.inj written).2⟩
  · rintro ⟨fits, rfl⟩
    exact ⟨⟨⟩, _, (updates_eq_ok_iff primary distinct checkedOf_same.accounts).mpr ⟨fits, rfl⟩, rfl⟩

theorem existingAccount_none {externalId : Text} :
    existingAccount organizationId db externalId = none ↔ ¬ HoldsId organizationId db externalId := by
  unfold existingAccount HoldsId
  rw [List.find?_eq_none]
  simp

theorem mem_toConflictCheck :
    account ∈ toConflictCheck organizationId db accounts ↔
      account ∈ accounts ∧ ¬ HoldsId organizationId db account.externalId := by
  rw [toConflictCheck, List.mem_filter, Option.isNone_iff_eq_none, existingAccount_none]

theorem mem_toCreate :
    account ∈ toCreate cases organizationId db accounts ↔
      account ∈ toConflictCheck organizationId db accounts ∧
        potentialConflict cases organizationId db account = none := by
  rw [toCreate, List.mem_filter, Option.isNone_iff_eq_none]

theorem toConflictCheck_distinct (distinct : (accounts.map (·.externalId)).Nodup) :
    ((toConflictCheck organizationId db accounts).map (·.externalId)).Nodup :=
  distinct.sublist (List.filter_sublist.map _)

theorem toCreate_distinct (distinct : (accounts.map (·.externalId)).Nodup) :
    ((toCreate cases organizationId db accounts).map (·.externalId)).Nodup :=
  (toConflictCheck_distinct distinct).sublist (List.filter_sublist.map _)

variable {updates : List (NormalizedAccount × RowId)}

theorem holdsId_updated {externalId : Text} :
    HoldsId organizationId (updated cases base db.accounts updates) externalId ↔
      HoldsId organizationId db externalId := by
  simp [HoldsId, updated]

theorem holdsDomain_updated :
    HoldsDomain organizationId (updated cases base db.accounts updates) domain ↔
      ¬ DomainFree organizationId db updates domain := by
  simp [HoldsDomain, updated, DomainFree]

theorem toCreate_absent :
    Absent organizationId (updated cases base db.accounts updates)
      (toCreate cases organizationId db accounts) := by
  intro account member
  rw [holdsId_updated]
  exact (mem_toConflictCheck.mp (mem_toCreate.mp member).1).2

theorem underReview_persisted {externalId : Text} :
    UnderReview organizationId (persisted cases organizationId db accounts) externalId ↔
      UnderReview organizationId (checkedOf cases organizationId db accounts) externalId := by
  unfold UnderReview persisted
  rw [createAccounts_reviews]
  rfl

theorem existing_represented (primary : (db.accounts.map (·.id)).Nodup)
    (distinct : (accounts.map (·.externalId)).Nodup) (member : account ∈ accounts)
    (holds : HoldsId organizationId db account.externalId) :
    Represented organizationId (persisted cases organizationId db accounts) account := by
  have notCreated : ∀ other ∈ toCreate cases organizationId db accounts,
      other.externalId ≠ account.externalId := by
    intro other created same
    exact (mem_toConflictCheck.mp (mem_toCreate.mp created).1).2 (same ▸ holds)
  refine .inl ((createAccounts_other toCreate_absent (toCreate_distinct distinct) notCreated).2.mpr ?_)
  have found : existingAccount organizationId db account.externalId ≠ none :=
    fun none => existingAccount_none.mp none holds
  obtain ⟨existing, isExisting⟩ := Option.ne_none_iff_exists'.mp found
  obtain ⟨inTable, organization, known⟩ := existingAccount_some isExisting
  refine ⟨afterUpdates cases (toUpdate organizationId db accounts) existing,
    List.mem_map_of_mem inTable, by rw [afterUpdates_organizationId, organization],
    by rw [afterUpdates_salesforceId, known], ?_⟩
  have inUpdates : (account, existing.id) ∈ toUpdate organizationId db accounts :=
    mem_toUpdate.mpr ⟨member, by rw [isExisting]; rfl⟩
  cases sought : (toUpdate organizationId db accounts).find? (·.2 == existing.id) with
  | none => exact absurd (List.find?_eq_none.mp sought _ inUpdates) (by simp)
  | some update =>
    have sameId : update.2 = existing.id := by simpa using List.find?_some sought
    have same : update = (account, existing.id) :=
      eq_of_key (toUpdate_distinct primary distinct) (List.mem_of_find?_eq_some sought) inUpdates
        sameId
    simp only [afterUpdates, sought, same]
    rfl

theorem conflict_represented_iff {conflict : Account}
    (distinct : (accounts.map (·.externalId)).Nodup)
    (whole : toConflictCheck organizationId db accounts = done ++ account :: rest)
    (found : potentialConflict cases organizationId db account = some conflict) :
    Represented organizationId (persisted cases organizationId db accounts) account ↔
      UnderReview organizationId db account.externalId ∨
        (reviewRequester db organizationId).isSome ∧
          ¬ Pending organizationId db conflict.id ∧ ∀ earlier ∈ done,
            (potentialConflict cases organizationId db earlier).map (·.id) ≠ some conflict.id := by
  have checkDistinct : ((toConflictCheck organizationId db accounts).map (·.externalId)).Nodup :=
    toConflictCheck_distinct distinct
  have inCheck : account ∈ toConflictCheck organizationId db accounts := by simp [whole]
  have notCreated : ∀ other ∈ toCreate cases organizationId db accounts,
      other.externalId ≠ account.externalId := by
    intro other created same
    obtain ⟨checked, noConflict⟩ := mem_toCreate.mp created
    obtain rfl := eq_of_key checkDistinct checked inCheck same
    rw [found] at noConflict
    cases noConflict
  have noAccount : ¬ HasAccount organizationId (persisted cases organizationId db accounts) account := by
    rintro ⟨row, member, organization, known, _⟩
    have holds : HoldsId organizationId (persisted cases organizationId db accounts)
        account.externalId := ⟨row, member, organization, known⟩
    unfold persisted at holds
    rw [(createAccounts_other toCreate_absent (toCreate_distinct distinct) notCreated).1,
      holdsId_updated] at holds
    exact (mem_toConflictCheck.mp inCheck).2 holds
  rw [whole] at checkDistinct
  rw [Represented, or_iff_right noAccount, underReview_persisted, checkedOf, whole,
    checkConflicts_underReview checkDistinct, found]
  simp

theorem creation_represented_iff (distinct : (accounts.map (·.externalId)).Nodup)
    (whole : toCreate cases organizationId db accounts = done ++ account :: rest) :
    Represented organizationId (persisted cases organizationId db accounts) account ↔
      UnderReview organizationId db account.externalId ∨
        ∀ domain ∈ account.domain,
          DomainFree organizationId db (toUpdate organizationId db accounts) domain ∧
            ∀ earlier ∈ done, earlier.domain ≠ some domain := by
  have created : account ∈ toCreate cases organizationId db accounts := by simp [whole]
  obtain ⟨inCheck, noConflict⟩ := mem_toCreate.mp created
  obtain ⟨before, behind, split⟩ := List.append_of_mem inCheck
  have checkDistinct : ((toConflictCheck organizationId db accounts).map (·.externalId)).Nodup :=
    toConflictCheck_distinct distinct
  have createDistinct : ((toCreate cases organizationId db accounts).map (·.externalId)).Nodup :=
    toCreate_distinct distinct
  have absent : Absent organizationId
      (updated cases (checkedOf cases organizationId db accounts) db.accounts
        (toUpdate organizationId db accounts)) (toCreate cases organizationId db accounts) :=
    toCreate_absent
  rw [split] at checkDistinct
  rw [whole] at createDistinct absent
  have reviews : UnderReview organizationId (persisted cases organizationId db accounts)
      account.externalId ↔ UnderReview organizationId db account.externalId := by
    rw [underReview_persisted, checkedOf, split, checkConflicts_underReview checkDistinct, noConflict]
    simp
  have isThere : HasAccount organizationId (persisted cases organizationId db accounts) account ↔
      ∀ domain ∈ account.domain,
        DomainFree organizationId db (toUpdate organizationId db accounts) domain ∧
          ∀ earlier ∈ done, earlier.domain ≠ some domain := by
    rw [persisted, whole, hasAccount_creates absent createDistinct]
    simp only [holdsDomain_updated, not_not]
  rw [Represented, isThere, reviews, or_comm]

end

/-- A batch returns and represents each of its accounts exactly when it fits. -/
theorem batch_represented_iff {db : Database} {accounts : List NormalizedAccount}
    (cases : CaseMapping) (organizationId : RowId) (held : Constraints db)
    (distinct : (accounts.map (·.externalId)).Nodup) :
    BatchRepresented cases organizationId db accounts ↔
      AccountBatchFits cases organizationId db accounts := by
  have primary := held.primary.accounts
  unfold BatchRepresented
  simp only [persistAccountBatch_eq_ok_iff primary distinct, and_assoc, exists_and_left,
    exists_eq_left']
  constructor
  · rintro ⟨updates, all⟩
    refine ⟨updates, ?_, ?_⟩
    · intro done account rest whole conflict found
      have inCheck : account ∈ toConflictCheck organizationId db accounts := by simp [whole]
      exact (conflict_represented_iff distinct whole found).mp
        (all account (mem_toConflictCheck.mp inCheck).1)
    · intro done account rest whole
      have created : account ∈ toCreate cases organizationId db accounts := by simp [whole]
      exact (creation_represented_iff distinct whole).mp
        (all account (mem_toConflictCheck.mp (mem_toCreate.mp created).1).1)
  · rintro ⟨updates, reviews, creations⟩
    refine ⟨updates, fun account member => ?_⟩
    by_cases holds : HoldsId organizationId db account.externalId
    · exact existing_represented primary distinct member holds
    have inCheck : account ∈ toConflictCheck organizationId db accounts :=
      mem_toConflictCheck.mpr ⟨member, holds⟩
    cases found : potentialConflict cases organizationId db account with
    | some conflict =>
      obtain ⟨done, rest, whole⟩ := List.append_of_mem inCheck
      exact (conflict_represented_iff distinct whole found).mpr
        (reviews done account rest whole conflict found)
    | none =>
      obtain ⟨done, rest, whole⟩ := List.append_of_mem (mem_toCreate.mpr ⟨inCheck, found⟩)
      exact (creation_represented_iff distinct whole).mpr (creations done account rest whole)

def knownAccount : Account where
  id := 1
  organizationId := 1
  name := ['a']
  normalizedName := ['a']
  domain := some ['d']
  salesforceId := some ['1']

def knownToCrm : Database where
  nextId := 2
  accounts := [knownAccount]

def renamed : NormalizedAccount where
  externalId := ['1']
  name := ['b']
  domain := none
  industry := none
  employeeCount := none
  annualRevenue := none

theorem renamed_account_fits : AccountBatchFits .ascii 1 knownToCrm [renamed] := by
  have held : Constraints knownToCrm := by decide +kernel
  refine (batch_represented_iff .ascii 1 held (by decide)).mp
    ⟨{ knownToCrm with accounts := [{ knownAccount with name := ['b'], normalizedName := ['b'] }] },
      rfl, ?_⟩
  intro account member
  obtain rfl := List.mem_singleton.mp member
  exact .inl ⟨_, List.mem_singleton_self _, rfl, rfl, rfl⟩

def unknownToCrm : Database where
  nextId := 2
  accounts := [{ knownAccount with salesforceId := none }]

def sameDomain : NormalizedAccount where
  externalId := ['9']
  name := ['z']
  domain := some ['d']
  industry := none
  employeeCount := none
  annualRevenue := none

/-- The incoming account is neither created nor left for review. -/
theorem account_with_taken_domain_is_dropped :
    Constraints unknownToCrm ∧ ¬ BatchRepresented .ascii 1 unknownToCrm [sameDomain] := by
  refine ⟨by decide +kernel, ?_⟩
  rintro ⟨final, ran, all⟩
  have unchanged : persistAccountBatch .ascii 1 [sameDomain] unknownToCrm = .ok ⟨⟩ unknownToCrm := rfl
  obtain ⟨_, rfl⟩ := EStateM.Result.ok.inj (unchanged.symm.trans ran)
  rcases all sameDomain (List.mem_singleton_self _) with ⟨row, member, _, known, _⟩ | ⟨_, member, _⟩
  · obtain rfl := List.mem_singleton.mp member
    cases known
  · cases member

end StoryEngine.Crm
