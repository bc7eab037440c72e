import StoryEngine.Crm.Accounts
import StoryEngine.Data.Run
import StoryEngine.Resolution.Resolver

namespace StoryEngine.Crm

open Accounts Data Resolution Schema Text

/-! # Contacts of the CRM sync

A batch updates the contacts that have its e-mail addresses in the same account,
leaves those of other accounts for review, and creates the rest.
-/

/-- A row of `toCreate` or `toUpsert`. -/
structure ContactItem where
  accountId : RowId
  email : Text
  emailDomain : Text
  name : Option Text
  title : Option Text
  phone : Option Text
  externalId : Text
deriving DecidableEq

inductive ContactWrite where
  | updated (contact : Contact) (item : ContactItem)
  | created (contact : Contact) (item : ContactItem)
deriving DecidableEq

structure ContactBatch where
  db : Database
  toUpsert : List ContactItem := []
  toCreate : List ContactItem := []

section

variable (cases : CaseMapping) (organizationId : RowId) (db : Database)

/-! ## Maps

A map from rows keeps the last row of a key.
-/

def externalIdMap (externalId : Text) : Option Account :=
  db.accounts.reverse.find? fun account =>
    account.organizationId == organizationId && account.salesforceId == some externalId

def domainMap (domain : Text) : Option Account :=
  db.accounts.reverse.find? fun account =>
    account.organizationId == organizationId && account.domain == some domain

def ofOrganization (contact : Contact) : Bool :=
  (inOrganization db organizationId contact.accountId).isSome

def existingContactByEmail (email : Text) : Option Contact :=
  db.contacts.reverse.find? fun contact =>
    contact.email == email && ofOrganization organizationId db contact

def resolveAccount (contact : NormalizedContact) (domain : Text) : Option Account :=
  ((truthy contact.accountExternalId).bind (externalIdMap organizationId db)).or
    (domainMap organizationId db domain)

def contactItem (contact : NormalizedContact) : Option ContactItem :=
  (companyDomain cases (some contact.email)).bind fun domain =>
    (resolveAccount organizationId db contact domain).map fun account =>
      { accountId := account.id
        email := cases.toLowerCase contact.email
        emailDomain := domain
        name := contact.name
        title := contact.title
        phone := contact.phone
        externalId := contact.externalId }

def contactItems (contacts : List NormalizedContact) : List ContactItem :=
  contacts.filterMap (contactItem cases organizationId db)

def contactConflict (item : ContactItem) (existing : Contact) : MergeConflictPayload where
  conflictType := .contactEmailCollision
  existingId := existing.id
  existingAccountId := some existing.accountId
  incomingAccountId := some item.accountId
  incomingExternalId := item.externalId
  email := some item.email

def sortContact (batch : ContactBatch) (item : ContactItem) : ContactBatch :=
  match existingContactByEmail organizationId db item.email with
  | some existing =>
    if existing.accountId ≠ item.accountId then
      { batch with
        db := queueMergeConflictReview batch.db organizationId .contact existing.id
          (contactConflict item existing) }
    else { batch with toUpsert := batch.toUpsert ++ [item] }
  | none => { batch with toCreate := batch.toCreate ++ [item] }

def sortContacts (contacts : List NormalizedContact) : ContactBatch :=
  (contactItems cases organizationId db contacts).foldl (sortContact organizationId db) { db }

end

def hasEmail (item : ContactItem) (contact : Contact) : Bool :=
  contact.accountId == item.accountId && contact.email == item.email

def newContact (item : ContactItem) (id : RowId) : Contact where
  id
  accountId := item.accountId
  email := item.email
  emailDomain := item.emailDomain
  name := item.name
  title := item.title
  phone := item.phone
  salesforceId := some item.externalId

def updatedContact (item : ContactItem) (contact : Contact) : Contact :=
  { contact with
    name := item.name.or contact.name
    title := item.title.or contact.title
    phone := item.phone.or contact.phone
    salesforceId := some item.externalId }

def insertContact (db : Database) (item : ContactItem) : Database :=
  { db with
    nextId := db.nextId + 1
    contacts := db.contacts ++ [newContact item db.nextId] }

def upsertContact (db : Database) (item : ContactItem) : Database :=
  match db.contacts.find? (hasEmail item) with
  | some _ => { db with contacts := updateWhere db.contacts (hasEmail item) (updatedContact item) }
  | none => insertContact db item

def upsertWrites (db : Database) (item : ContactItem) : List ContactWrite :=
  match db.contacts.find? (hasEmail item) with
  | some contact => [.updated contact item]
  | none => [.created (newContact item db.nextId) item]

/-- One row of `createMany` with `skipDuplicates`. -/
def createContact (db : Database) (item : ContactItem) : Database :=
  if db.contacts.any (hasEmail item) then db else insertContact db item

def createWrites (db : Database) (item : ContactItem) : List ContactWrite :=
  if db.contacts.any (hasEmail item) then [] else [.created (newContact item db.nextId) item]

def persistContactBatch (cases : CaseMapping) (organizationId : RowId) (db : Database)
    (contacts : List NormalizedContact) : Database :=
  let batch := sortContacts cases organizationId db contacts
  run createContact (run upsertContact batch.db batch.toUpsert) batch.toCreate

def contactWrites (cases : CaseMapping) (organizationId : RowId) (db : Database)
    (contacts : List NormalizedContact) : List ContactWrite :=
  let batch := sortContacts cases organizationId db contacts
  log upsertContact upsertWrites batch.db batch.toUpsert ++
    log createContact createWrites (run upsertContact batch.db batch.toUpsert) batch.toCreate

section

variable (cases : CaseMapping) (organizationId : RowId) (db : Database)
  (contacts : List NormalizedContact)

/-- No created contact has an e-mail that another account of the organization has
with a contact from before, or from the same batch. -/
def NoneElsewhere : Prop :=
  ∀ contact item, .created contact item ∈ contactWrites cases organizationId db contacts →
    (∀ other ∈ db.contacts, ofOrganization organizationId db other → other.email = contact.email →
      other.accountId = contact.accountId) ∧
    ∀ earlier first, .created earlier first ∈ contactWrites cases organizationId db contacts →
      earlier.email = contact.email → earlier.accountId = contact.accountId

/-- The account of the item has a contact with its e-mail, from before or from an
earlier item of the batch. -/
def AlreadyThere (done : List ContactItem) (item : ContactItem) : Prop :=
  db.contacts.any (hasEmail item) ∨
    ∃ earlier ∈ done, ∃ contact,
      .created contact earlier ∈ contactWrites cases organizationId db contacts ∧
        hasEmail item contact

def AllUpdated : Prop :=
  ∀ done item rest, contactItems cases organizationId db contacts = done ++ item :: rest →
    AlreadyThere cases organizationId db contacts done item →
      ∃ contact, .updated contact item ∈ contactWrites cases organizationId db contacts ∧
        hasEmail item contact

structure ContactsKept : Prop where
  elsewhere : NoneElsewhere cases organizationId db contacts
  updated : AllUpdated cases organizationId db contacts

def toCreateContacts : List ContactItem :=
  (contactItems cases organizationId db contacts).filter fun item =>
    (existingContactByEmail organizationId db item.email).isNone

/-- New e-mails are not repeated, and where the account of an incoming contact has a
contact with the e-mail, the last contact of the organization with it is of this
account. -/
structure ContactBatchFits : Prop where
  distinct : ((toCreateContacts cases organizationId db contacts).map (·.email)).Nodup
  last : ∀ item ∈ contactItems cases organizationId db contacts, db.contacts.any (hasEmail item) →
    (existingContactByEmail organizationId db item.email).map (·.accountId) = some item.accountId

end

section

variable {cases : CaseMapping} {organizationId : RowId} {db : Database}
  {contacts : List NormalizedContact} {items : List ContactItem} {batch : ContactBatch}
  {item other : ContactItem}

/-- The last contact of the organization with the e-mail is of the account of the item. -/
def KnownHere (organizationId : RowId) (db : Database) (item : ContactItem) : Prop :=
  (existingContactByEmail organizationId db item.email).map (·.accountId) = some item.accountId

instance : Decidable (KnownHere organizationId db item) :=
  inferInstanceAs (Decidable (_ = _))

theorem sortContact_toUpsert :
    (sortContact organizationId db batch item).toUpsert =
      batch.toUpsert ++ [item].filter (KnownHere organizationId db ·) := by
  unfold sortContact
  cases found : existingContactByEmail organizationId db item.email with
  | none => simp [KnownHere, found]
  | some existing =>
    by_cases elsewhere : existing.accountId ≠ item.accountId
    · simp [KnownHere, found, elsewhere]
    · simp [KnownHere, found, not_not.mp elsewhere]

theorem sortContact_toCreate :
    (sortContact organizationId db batch item).toCreate =
      batch.toCreate ++
        [item].filter fun item => (existingContactByEmail organizationId db item.email).isNone := by
  unfold sortContact
  cases found : existingContactByEmail organizationId db item.email with
  | none => simp [found]
  | some existing =>
    by_cases elsewhere : existing.accountId ≠ item.accountId
    · simp [found, elsewhere]
    · simp [found, not_not.mp elsewhere]

theorem queueMergeConflictReview_contacts (targetType : MergeConflictTarget) (targetId : RowId)
    (payload : MergeConflictPayload) :
    (queueMergeConflictReview db organizationId targetType targetId payload).contacts =
      db.contacts := by
  unfold queueMergeConflictReview
  split
  · rfl
  · split <;> rfl

theorem sortContact_contacts :
    (sortContact organizationId db batch item).db.contacts = batch.db.contacts := by
  unfold sortContact
  split
  · split
    · exact queueMergeConflictReview_contacts _ _ _
    · rfl
  · rfl

theorem sortContacts_fold (batch : ContactBatch) :
    (items.foldl (sortContact organizationId db) batch).db.contacts = batch.db.contacts ∧
      (items.foldl (sortContact organizationId db) batch).toUpsert =
        batch.toUpsert ++ items.filter (KnownHere organizationId db ·) ∧
      (items.foldl (sortContact organizationId db) batch).toCreate = batch.toCreate ++
        items.filter fun item => (existingContactByEmail organizationId db item.email).isNone := by
  induction items generalizing batch with
  | nil => simp
  | cons item rest ih =>
    obtain ⟨contacts, toUpsert, toCreate⟩ := ih (sortContact organizationId db batch item)
    refine ⟨contacts.trans sortContact_contacts, ?_, ?_⟩
    · rw [List.foldl_cons, toUpsert, sortContact_toUpsert, List.append_assoc, ← List.filter_append,
        List.singleton_append]
    · rw [List.foldl_cons, toCreate, sortContact_toCreate, List.append_assoc, ← List.filter_append,
        List.singleton_append]

theorem sortContacts_contacts :
    (sortContacts cases organizationId db contacts).db.contacts = db.contacts :=
  (sortContacts_fold _).1

theorem sortContacts_toUpsert :
    (sortContacts cases organizationId db contacts).toUpsert =
      (contactItems cases organizationId db contacts).filter (KnownHere organizationId db ·) :=
  (sortContacts_fold _).2.1

theorem sortContacts_toCreate :
    (sortContacts cases organizationId db contacts).toCreate =
      toCreateContacts cases organizationId db contacts :=
  (sortContacts_fold _).2.2

variable {email : Text} {contact : Contact} {done : List ContactItem}

theorem existing_spec {existing : Contact}
    (found : existingContactByEmail organizationId db email = some existing) :
    existing ∈ db.contacts ∧ existing.email = email ∧ ofOrganization organizationId db existing := by
  unfold existingContactByEmail at found
  have criterion := List.find?_some found
  have member := List.mem_reverse.mp (List.mem_of_find?_eq_some found)
  simp only [Bool.and_eq_true, beq_iff_eq] at criterion
  exact ⟨member, criterion.1, criterion.2⟩

theorem existing_eq_none :
    existingContactByEmail organizationId db email = none ↔
      ∀ contact ∈ db.contacts, contact.email = email → ¬ ofOrganization organizationId db contact := by
  simp [existingContactByEmail]

theorem hasEmail_iff :
    hasEmail item contact ↔ contact.accountId = item.accountId ∧ contact.email = item.email := by
  simp [hasEmail]

theorem KnownHere.there (known : KnownHere organizationId db item) :
    db.contacts.any (hasEmail item) := by
  obtain ⟨existing, found, account⟩ := Option.map_eq_some_iff.mp known
  obtain ⟨member, email, _⟩ := existing_spec found
  exact List.any_eq_true.mpr ⟨existing, member, hasEmail_iff.mpr ⟨account, email⟩⟩

theorem resolveAccount_organization {contact : NormalizedContact} {domain : Text} {account : Account}
    (resolved : resolveAccount organizationId db contact domain = some account) :
    account ∈ db.accounts ∧ account.organizationId = organizationId := by
  have found (selects : Account → Bool) (only : ∀ row, selects row → row.organizationId = organizationId)
      (first : db.accounts.reverse.find? selects = some account) :
      account ∈ db.accounts ∧ account.organizationId = organizationId :=
    ⟨List.mem_reverse.mp (List.mem_of_find?_eq_some first), only _ (List.find?_some first)⟩
  unfold resolveAccount at resolved
  rcases Option.or_eq_some_iff.mp resolved with byId | ⟨_, byDomain⟩
  · obtain ⟨externalId, _, first⟩ := Option.bind_eq_some_iff.mp byId
    exact found _ (by simp +contextual) first
  · exact found _ (by simp +contextual) byDomain

theorem contactItems_organization (member : item ∈ contactItems cases organizationId db contacts) :
    (inOrganization db organizationId item.accountId).isSome := by
  obtain ⟨contact, _, built⟩ := List.mem_filterMap.mp member
  obtain ⟨domain, _, mapped⟩ := Option.bind_eq_some_iff.mp built
  obtain ⟨account, resolved, rfl⟩ := Option.map_eq_some_iff.mp mapped
  obtain ⟨there, organization⟩ := resolveAccount_organization resolved
  exact List.find?_isSome.mpr ⟨account, there, by simp [organization]⟩

theorem toCreateContacts_absent
    (member : item ∈ toCreateContacts cases organizationId db contacts) :
    ¬ db.contacts.any (hasEmail item) := by
  obtain ⟨inBatch, none⟩ := List.mem_filter.mp member
  have absent := existing_eq_none.mp (Option.isNone_iff_eq_none.mp none)
  intro there
  obtain ⟨contact, inTable, has⟩ := List.any_eq_true.mp there
  obtain ⟨account, email⟩ := hasEmail_iff.mp has
  refine absent contact inTable email ?_
  rw [ofOrganization, account]
  exact contactItems_organization inBatch

def SameContact (item other : ContactItem) : Prop :=
  other.accountId = item.accountId ∧ other.email = item.email

theorem hasEmail_newContact {id : RowId} :
    hasEmail item (newContact other id) ↔ SameContact item other :=
  hasEmail_iff

theorem any_insertContact :
    (insertContact db other).contacts.any (hasEmail item) ↔
      db.contacts.any (hasEmail item) ∨ SameContact item other := by
  rw [insertContact, List.any_append, Bool.or_eq_true, List.any_cons, List.any_nil, Bool.or_false,
    hasEmail_newContact]

theorem any_same (same : SameContact item other) (there : db.contacts.any (hasEmail other)) :
    db.contacts.any (hasEmail item) := by
  obtain ⟨contact, member, has⟩ := List.any_eq_true.mp there
  obtain ⟨account, email⟩ := hasEmail_iff.mp has
  exact List.any_eq_true.mpr
    ⟨contact, member, hasEmail_iff.mpr ⟨account.trans same.1, email.trans same.2⟩⟩

theorem any_createContact :
    (createContact db other).contacts.any (hasEmail item) ↔
      db.contacts.any (hasEmail item) ∨ SameContact item other := by
  unfold createContact
  split
  · next there => exact (or_iff_left_of_imp fun same => any_same same there).symm
  · exact any_insertContact

theorem any_createContacts :
    (run createContact db items).contacts.any (hasEmail item) ↔
      db.contacts.any (hasEmail item) ∨ ∃ other ∈ items, SameContact item other := by
  induction items generalizing db with
  | nil => simp
  | cons first rest ih => rw [run_cons, ih, any_createContact, List.exists_mem_cons_iff, or_assoc]

theorem any_upsertContact (item : ContactItem) (there : db.contacts.any (hasEmail other)) :
    (upsertContact db other).contacts.any (hasEmail item) = db.contacts.any (hasEmail item) := by
  obtain ⟨contact, found⟩ := Option.isSome_iff_exists.mp
    (List.find?_isSome.mpr (List.any_eq_true.mp there))
  have kept (row : Contact) :
      hasEmail item (if hasEmail other row then updatedContact other row else row) =
        hasEmail item row := by
    split <;> rfl
  rw [upsertContact, found]
  simp only [updateWhere, List.any_map, Function.comp_def, kept]

theorem upsertContacts_there (there : ∀ item ∈ items, db.contacts.any (hasEmail item)) :
    (∀ item, (run upsertContact db items).contacts.any (hasEmail item) =
        db.contacts.any (hasEmail item)) ∧
      (∀ contact item, .created contact item ∉ log upsertContact upsertWrites db items) ∧
        ∀ contact item, .updated contact item ∈ log upsertContact upsertWrites db items → item ∈ items := by
  induction items generalizing db with
  | nil => simp
  | cons first rest ih =>
    obtain ⟨contact, found⟩ := Option.isSome_iff_exists.mp
      (List.find?_isSome.mpr (List.any_eq_true.mp (there first List.mem_cons_self)))
    have same := fun item => any_upsertContact item (there first List.mem_cons_self)
    have thereStill (item : ContactItem) (member : item ∈ rest) :
        (upsertContact db first).contacts.any (hasEmail item) := by
      rw [same]
      exact there item (List.mem_cons_of_mem _ member)
    obtain ⟨keys, created, updated⟩ := ih thereStill
    have firstWrites : upsertWrites db first = [.updated contact first] := by
      rw [upsertWrites, found]
    refine ⟨fun item => (keys item).trans (same item), ?_, ?_⟩
    · simpa [firstWrites] using created
    · simp only [log_cons, firstWrites, List.singleton_append, List.mem_cons]
      rintro written item (head | tail)
      · exact .inl (ContactWrite.updated.inj head).2
      · exact .inr (updated written item tail)

theorem upsertContacts_updates (there : ∀ item ∈ items, db.contacts.any (hasEmail item))
    (member : item ∈ items) :
    ∃ contact, .updated contact item ∈ log upsertContact upsertWrites db items ∧
      hasEmail item contact := by
  obtain ⟨done, rest, rfl⟩ := List.append_of_mem member
  have doneThere (other : ContactItem) (inDone : other ∈ done) :
      db.contacts.any (hasEmail other) := there other (List.mem_append_left _ inDone)
  have still : (run upsertContact db done).contacts.any (hasEmail item) := by
    rw [(upsertContacts_there doneThere).1]
    exact there item member
  obtain ⟨contact, found⟩ := Option.isSome_iff_exists.mp
    (List.find?_isSome.mpr (List.any_eq_true.mp still))
  refine ⟨contact, ?_, List.find?_some found⟩
  rw [log_append, log_cons, upsertWrites, found]
  simp

theorem createContacts_only
    (created : .created contact item ∈ log createContact createWrites db items) :
    item ∈ items ∧ hasEmail item contact := by
  induction items generalizing db with
  | nil => cases created
  | cons first rest ih =>
    rw [log_cons] at created
    rcases List.mem_append.mp created with head | tail
    · unfold createWrites at head
      split at head
      · cases head
      · obtain ⟨rfl, rfl⟩ := ContactWrite.created.inj (List.mem_singleton.mp head)
        exact ⟨List.mem_cons_self, hasEmail_newContact.mpr ⟨rfl, rfl⟩⟩
    · obtain ⟨member, has⟩ := ih tail
      exact ⟨List.mem_cons_of_mem _ member, has⟩

theorem createContacts_noUpdate :
    .updated contact item ∉ log createContact createWrites db items := by
  induction items generalizing db with
  | nil => simp
  | cons first rest ih =>
    rw [log_cons, List.mem_append, not_or]
    refine ⟨?_, ih⟩
    unfold createWrites
    split <;> simp

theorem createContacts_first (rest : List ContactItem)
    (free : ¬ db.contacts.any (hasEmail item))
    (first : ∀ other ∈ done, ¬ SameContact item other) :
    ∃ contact, .created contact item ∈ log createContact createWrites db (done ++ item :: rest) ∧
      hasEmail item contact := by
  have stillFree : ¬ (run createContact db done).contacts.any (hasEmail item) := by
    rw [any_createContacts]
    rintro (there | ⟨other, member, same⟩)
    · exact free there
    · exact first other member same
  refine ⟨newContact item (run createContact db done).nextId, ?_, hasEmail_newContact.mpr ⟨rfl, rfl⟩⟩
  rw [log_append, log_cons, createWrites, if_neg stillFree]
  simp

theorem toUpsert_there (item : ContactItem)
    (member : item ∈ (sortContacts cases organizationId db contacts).toUpsert) :
    (sortContacts cases organizationId db contacts).db.contacts.any (hasEmail item) := by
  rw [sortContacts_toUpsert, List.mem_filter] at member
  rw [sortContacts_contacts]
  exact (of_decide_eq_true member.2).there

theorem updated_iff :
    (∃ contact, .updated contact item ∈ contactWrites cases organizationId db contacts ∧
        hasEmail item contact) ↔
      item ∈ contactItems cases organizationId db contacts ∧ KnownHere organizationId db item := by
  have inUpserts : item ∈ (sortContacts cases organizationId db contacts).toUpsert ↔
      item ∈ contactItems cases organizationId db contacts ∧ KnownHere organizationId db item := by
    rw [sortContacts_toUpsert, List.mem_filter, decide_eq_true_iff]
  rw [← inUpserts]
  constructor
  · rintro ⟨contact, written, _⟩
    rcases List.mem_append.mp written with upsert | create
    · exact (upsertContacts_there toUpsert_there).2.2 contact item upsert
    · exact absurd create createContacts_noUpdate
  · intro member
    obtain ⟨contact, written, has⟩ := upsertContacts_updates toUpsert_there member
    exact ⟨contact, List.mem_append_left _ written, has⟩

theorem created_only
    (written : .created contact item ∈ contactWrites cases organizationId db contacts) :
    item ∈ toCreateContacts cases organizationId db contacts ∧ hasEmail item contact := by
  rcases List.mem_append.mp written with upsert | create
  · exact absurd upsert ((upsertContacts_there toUpsert_there).2.1 contact item)
  · rw [sortContacts_toCreate] at create
    exact createContacts_only create

theorem created_first {rest : List ContactItem}
    (whole : toCreateContacts cases organizationId db contacts = done ++ item :: rest)
    (first : ∀ other ∈ done, ¬ SameContact item other) :
    ∃ contact, .created contact item ∈ contactWrites cases organizationId db contacts ∧
      hasEmail item contact := by
  have member : item ∈ toCreateContacts cases organizationId db contacts := by simp [whole]
  have free : ¬ (run upsertContact (sortContacts cases organizationId db contacts).db
      (sortContacts cases organizationId db contacts).toUpsert).contacts.any (hasEmail item) := by
    rw [(upsertContacts_there toUpsert_there).1, sortContacts_contacts]
    exact toCreateContacts_absent member
  obtain ⟨contact, written, has⟩ := createContacts_first rest free first
  refine ⟨contact, List.mem_append_right _ ?_, has⟩
  rwa [sortContacts_toCreate, whole]

theorem kept_of_fits (fits : ContactBatchFits cases organizationId db contacts) :
    ContactsKept cases organizationId db contacts := by
  constructor
  · intro contact item written
    obtain ⟨member, has⟩ := created_only written
    obtain ⟨account, email⟩ := hasEmail_iff.mp has
    obtain ⟨_, none⟩ := List.mem_filter.mp member
    have absent := existing_eq_none.mp (Option.isNone_iff_eq_none.mp none)
    refine ⟨fun other inTable organization same => ?_, fun earlier first earlierWritten same => ?_⟩
    · exact absurd organization (absent other inTable (same.trans email))
    · obtain ⟨firstMember, firstHas⟩ := created_only earlierWritten
      obtain ⟨firstAccount, firstEmail⟩ := hasEmail_iff.mp firstHas
      have emails : first.email = item.email := firstEmail.symm.trans (same.trans email)
      obtain rfl := eq_of_key fits.distinct firstMember member emails
      exact firstAccount.trans account.symm
  · intro done item rest whole there
    have member : item ∈ contactItems cases organizationId db contacts := by simp [whole]
    refine updated_iff.mpr ⟨member, ?_⟩
    rcases there with fromBefore | ⟨earlier, inDone, contact, written, has⟩
    · exact fits.last item member fromBefore
    · -- An earlier item with the e-mail, and this one, would both be new.
      exfalso
      obtain ⟨created, earlierHas⟩ := created_only written
      have email : earlier.email = item.email :=
        (hasEmail_iff.mp earlierHas).2.symm.trans (hasEmail_iff.mp has).2
      obtain ⟨_, none⟩ := List.mem_filter.mp created
      have distinct := fits.distinct
      rw [toCreateContacts, whole, List.filter_append, List.filter_cons_of_pos (by rwa [← email]),
        List.map_append, List.nodup_append] at distinct
      exact distinct.2.2 _ (List.mem_map_of_mem (List.mem_filter.mpr ⟨inDone, none⟩)) _
        List.mem_cons_self email

theorem distinct_of_kept (kept : ContactsKept cases organizationId db contacts)
    {rest : List ContactItem}
    (whole : toCreateContacts cases organizationId db contacts = done ++ rest) :
    (done.map (·.email)).Nodup := by
  induction done using List.reverseRecOn generalizing rest with
  | nil => exact List.nodup_nil
  | append_singleton done item ih =>
    rw [List.append_assoc, List.singleton_append] at whole
    have distinct := ih whole
    rw [List.map_append, List.nodup_append]
    refine ⟨distinct, List.nodup_singleton _, ?_⟩
    intro email inDone other single same
    obtain rfl := List.mem_singleton.mp single
    obtain ⟨earlier, member, rfl⟩ := List.mem_map.mp inDone
    obtain ⟨before, behind, split⟩ := List.append_of_mem member
    -- The earlier item is created, as no item before it has its e-mail.
    have first (other : ContactItem) (inBefore : other ∈ before) : ¬ SameContact earlier other := by
      intro twice
      rw [split, List.map_append, List.nodup_append] at distinct
      exact distinct.2.2 _ (List.mem_map_of_mem inBefore) _ List.mem_cons_self twice.2
    have earlierWhole : toCreateContacts cases organizationId db contacts =
        before ++ earlier :: (behind ++ item :: rest) := by
      rw [whole, split, List.append_assoc, List.cons_append]
    obtain ⟨contact, written, has⟩ := created_first earlierWhole first
    obtain ⟨account, contactEmail⟩ := hasEmail_iff.mp has
    by_cases here : earlier.accountId = item.accountId
    · -- The account has the contact, so this item would have to be an update.
      obtain ⟨start, tail, items, filtered, next⟩ := List.filter_eq_append_iff.mp whole
      obtain ⟨skipped, later, tailSplit, _, isNew, _⟩ := List.filter_eq_cons_iff.mp next
      have inStart : earlier ∈ start := (List.mem_filter.mp (filtered ▸ member)).1
      have itemsWhole : contactItems cases organizationId db contacts =
          (start ++ skipped) ++ item :: later := by
        rw [items, tailSplit, List.append_assoc]
      have known := (updated_iff.mp (kept.updated _ item _ itemsWhole (.inr
        ⟨earlier, List.mem_append_left _ inStart, contact, written,
          hasEmail_iff.mpr ⟨account.trans here, contactEmail.trans same⟩⟩))).2
      rw [KnownHere, Option.isNone_iff_eq_none.mp isNew] at known
      cases known
    · -- The item is created too, in another account.
      have apart (other : ContactItem) (inDone : other ∈ done) : ¬ SameContact item other := by
        rintro ⟨sameAccount, sameEmail⟩
        obtain rfl := eq_of_key distinct inDone member (sameEmail.trans same.symm)
        exact here sameAccount
      obtain ⟨second, secondWritten, secondHas⟩ := created_first whole apart
      obtain ⟨secondAccount, secondEmail⟩ := hasEmail_iff.mp secondHas
      have accounts := (kept.elsewhere second item secondWritten).2 contact earlier written
        (contactEmail.trans (same.trans secondEmail.symm))
      exact here (account.symm.trans (accounts.trans secondAccount))

theorem fits_of_kept (kept : ContactsKept cases organizationId db contacts) :
    ContactBatchFits cases organizationId db contacts where
  distinct := distinct_of_kept kept (List.append_nil _).symm
  last item member there := by
    obtain ⟨done, rest, whole⟩ := List.append_of_mem member
    exact (updated_iff.mp (kept.updated done item rest whole (.inl there))).2

end

/-- A sequence of batches keeps one contact for an e-mail, and keeps it fresh, exactly
when each of them fits. -/
theorem contacts_kept_iff (cases : CaseMapping) (organizationId : RowId) (start : Database)
    (batches : List (List NormalizedContact)) :
    (∀ taken ∈ trace (persistContactBatch cases organizationId) start batches,
        ContactsKept cases organizationId taken.1 taken.2) ↔
      ∀ taken ∈ trace (persistContactBatch cases organizationId) start batches,
        ContactBatchFits cases organizationId taken.1 taken.2 :=
  forall₂_congr fun _ _ => ⟨fits_of_kept, kept_of_fits⟩

def contactOf (externalId accountExternalId : Text) : NormalizedContact where
  externalId
  email := ['x', '@', 'c']
  name := none
  title := none
  phone := none
  accountExternalId := some accountExternalId

def twoAccounts : Database where
  nextId := 3
  accounts := [
    { id := 1, organizationId := 1, name := ['a'], normalizedName := ['a'], salesforceId := some ['1'] },
    { id := 2, organizationId := 1, name := ['b'], normalizedName := ['b'], salesforceId := some ['2'] }]

/-- The second contact of the batch is created in another account than the first. -/
theorem repeated_email_is_created_twice :
    Constraints twoAccounts ∧
      ¬ ∀ taken ∈ trace (persistContactBatch .ascii 1) twoAccounts
          [[contactOf ['3'] ['1'], contactOf ['4'] ['2']]],
        ContactsKept .ascii 1 taken.1 taken.2 := by
  refine ⟨by decide +kernel, fun kept => ?_⟩
  have here := kept (twoAccounts, _) List.mem_cons_self
  have writes : contactWrites .ascii 1 twoAccounts [contactOf ['3'] ['1'], contactOf ['4'] ['2']] =
      [.created ⟨3, 1, ['x', '@', 'c'], ['c'], none, none, none, some ['3']⟩
          ⟨1, ['x', '@', 'c'], ['c'], none, none, none, ['3']⟩,
        .created ⟨4, 2, ['x', '@', 'c'], ['c'], none, none, none, some ['4']⟩
          ⟨2, ['x', '@', 'c'], ['c'], none, none, none, ['4']⟩] := by
    decide +kernel
  have elsewhere := here.elsewhere
  unfold NoneElsewhere at elsewhere
  rw [writes] at elsewhere
  have apart := (elsewhere _ _ (List.mem_cons_of_mem _ List.mem_cons_self)).2 _ _
    List.mem_cons_self rfl
  cases apart

end StoryEngine.Crm
