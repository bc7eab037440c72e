import StoryEngine.Accounts.Constraints
import StoryEngine.Platform
import StoryEngine.Scrub.CompanyScrubber

namespace StoryEngine.Accounts

open Data Schema

/-! # Merging accounts

`executeMerge` and `undoMerge` of the merge service and `mergeAccounts` of the
resolution queue, statement by statement.
-/

inductive MergeError where
  | primaryNotFound (accountId : RowId)
  | secondaryNotFound (accountId : RowId)
  | sameAccount
  | accountNotFound (accountId : RowId)
  | constraintViolation
  | mergeRunNotFound
  | alreadyUndone
deriving DecidableEq

def statement (result : Database) : Except MergeError Database :=
  if Constraints result then .ok result else .error .constraintViolation

def findAccount (db : Database) (accountId organizationId : RowId) : Option Account :=
  db.accounts.find? fun account =>
    account.id == accountId && account.organizationId == organizationId

def truthy (value : Option Text) : Option Text := value.filter fun text => !text.isEmpty

theorem truthy_eq_some {value : Option Text} {text : Text} :
    truthy value = some text ↔ value = some text ∧ text ≠ [] := by
  simp [truthy, Option.filter_eq_some_iff]

section

variable (db : Database) (fromId toId : RowId)

/-- `callParticipant.updateMany({ where: { contactId } })`. -/
def relinkParticipants (contactId : RowId) (target : Option RowId) : Database :=
  { db with
    callParticipants := updateWhere db.callParticipants (·.contactId == some contactId)
      fun participant => { participant with contactId := target } }

def deleteContact (contactId : RowId) : Database :=
  { relinkParticipants db contactId none with
    contacts := deleteWhere db.contacts (·.id == contactId) }

def reassignContact (contactId : RowId) : Database :=
  { db with
    contacts := updateWhere db.contacts (·.id == contactId) fun contact =>
      { contact with accountId := toId } }

def moveCalls : Database :=
  { db with
    calls := updateWhere db.calls (·.accountId == some fromId) fun call =>
      { call with accountId := some toId } }

def moveStories : Database :=
  { db with
    stories := updateWhere db.stories (·.accountId == fromId) fun story =>
      { story with accountId := toId } }

def moveSalesforceEvents : Database :=
  { db with
    salesforceEvents := updateWhere db.salesforceEvents (·.accountId == fromId) fun event =>
      { event with accountId := toId } }

def moveUserAccess : Database :=
  { db with
    userAccountAccess := updateWhere db.userAccountAccess (·.accountId == some fromId)
      fun grant => { grant with accountId := some toId } }

def hasAlias (domain : Text) : Bool :=
  db.accountDomains.any fun row => row.accountId == toId && row.domain == domain

def createAlias (domain : Text) : Database :=
  { db with
    nextId := db.nextId + 1
    accountDomains := db.accountDomains ++ [{ id := db.nextId, accountId := toId, domain }] }

def reassignAlias (aliasId : RowId) : Database :=
  { db with
    accountDomains := updateWhere db.accountDomains (·.id == aliasId) fun row =>
      { row with accountId := toId } }

def deleteAlias (aliasId : RowId) : Database :=
  { db with accountDomains := deleteWhere db.accountDomains (·.id == aliasId) }

def deleteAliases : Database :=
  { db with accountDomains := deleteWhere db.accountDomains (·.accountId == fromId) }

/-- `account.delete` with the referential actions of the schema: calls and
grants keep a null account, aliases and quotes go with it, and a contact, event,
story or regeneration log that still refers to it violates its foreign key. -/
def deleteAccount : Database :=
  { db with
    accounts := deleteWhere db.accounts (·.id == fromId)
    calls := updateWhere db.calls (·.accountId == some fromId) fun call =>
      { call with accountId := none }
    userAccountAccess := updateWhere db.userAccountAccess (·.accountId == some fromId)
      fun grant => { grant with accountId := none }
    accountDomains := deleteWhere db.accountDomains (·.accountId == fromId)
    quotes := deleteWhere db.quotes (·.accountId == fromId) }

end

def emailsOf (db : Database) (accountId : RowId) : List Text :=
  (db.contacts.filter (·.accountId == accountId)).map (·.email)

def moveContact (primaryAccountId : RowId) (primaryEmails : List Text)
    (state : Database × List RowId) (contact : Contact) :
    Except MergeError (Database × List RowId) := do
  let (db, movedContactIds) := state
  if primaryEmails.contains contact.email then
    let unlinked ← statement (relinkParticipants db contact.id none)
    let deleted ← statement (deleteContact unlinked contact.id)
    return (deleted, movedContactIds)
  else
    let moved ← statement (reassignContact db primaryAccountId contact.id)
    return (moved, movedContactIds ++ [contact.id])

def moveContacts (db : Database) (primaryAccountId secondaryAccountId : RowId) :
    Except MergeError (Database × List RowId) :=
  (db.contacts.filter (·.accountId == secondaryAccountId)).foldlM
    (moveContact primaryAccountId (emailsOf db primaryAccountId)) (db, [])

def newDomainAlias (db : Database) (primary secondary : Account) : Option Text :=
  (truthy secondary.domain).filter fun domain =>
    secondary.domain != primary.domain && !hasAlias db primary.id domain

def addDomainAlias (db : Database) (primary secondary : Account) :
    Except MergeError (Database × List Text) :=
  match newDomainAlias db primary secondary with
  | none => return (db, [])
  | some domain => do
      let created ← statement (createAlias db primary.id domain)
      return (created, [domain])

def moveAlias (primary : Account) (state : Database × List Text) (row : AccountDomain) :
    Except MergeError (Database × List Text) := do
  let (db, domainAliasesAdded) := state
  if some row.domain == primary.domain then
    let deleted ← statement (deleteAlias db row.id)
    return (deleted, domainAliasesAdded)
  else if !hasAlias db primary.id row.domain then
    let moved ← statement (reassignAlias db primary.id row.id)
    return (moved, domainAliasesAdded ++ [row.domain])
  else
    let deleted ← statement (deleteAlias db row.id)
    return (deleted, domainAliasesAdded)

def moveAliases (primary secondary : Account) (state : Database × List Text) :
    Except MergeError (Database × List Text) :=
  (state.1.accountDomains.filter (·.accountId == secondary.id)).foldlM (moveAlias primary) state

/-- The columns that the primary account lacks and the secondary one has. -/
structure CrmUpdates where
  salesforceId : Option Text := none
  hubspotId : Option Text := none
  mergeAccountId : Option Text := none
  industry : Option Text := none
  employeeCount : Option Int := none
  annualRevenue : Option Int := none
deriving DecidableEq

def textIfMissing (own other : Option Text) : Option Text :=
  if (truthy own).isNone then truthy other else none

def countIfMissing (own other : Option Int) : Option Int := if own.isNone then other else none

def crmUpdates (primary secondary : Account) : CrmUpdates where
  salesforceId := textIfMissing primary.salesforceId secondary.salesforceId
  hubspotId := textIfMissing primary.hubspotId secondary.hubspotId
  mergeAccountId := textIfMissing primary.mergeAccountId secondary.mergeAccountId
  industry := textIfMissing primary.industry secondary.industry
  employeeCount := countIfMissing primary.employeeCount secondary.employeeCount
  annualRevenue := countIfMissing primary.annualRevenue secondary.annualRevenue

def CrmUpdates.apply (updates : CrmUpdates) (account : Account) : Account :=
  { account with
    salesforceId := updates.salesforceId.or account.salesforceId
    hubspotId := updates.hubspotId.or account.hubspotId
    mergeAccountId := updates.mergeAccountId.or account.mergeAccountId
    industry := updates.industry.or account.industry
    employeeCount := updates.employeeCount.or account.employeeCount
    annualRevenue := updates.annualRevenue.or account.annualRevenue }

def updateAccount (db : Database) (accountId : RowId) (change : Account → Account) : Database :=
  { db with accounts := updateWhere db.accounts (·.id == accountId) change }

def mergeCrmIdentifiers (db : Database) (primary secondary : Account) :
    Except MergeError Database :=
  let updates := crmUpdates primary secondary
  if updates = {} then return db else statement (updateAccount db primary.id updates.apply)

/-- What `undoMerge` finds in the preview of an account. -/
def accountSnapshot (account : Account) : AccountSnapshot where
  id := account.id
  name := account.name
  domain := account.domain
  industry := account.industry
  employeeCount := account.employeeCount
  annualRevenue := account.annualRevenue

def loadAccountPreview (db : Database) (organizationId accountId : RowId) :
    Except MergeError AccountSnapshot := do
  let account ← required (findAccount db accountId organizationId) (.accountNotFound accountId)
  return accountSnapshot account

structure MergeResult where
  primaryAccountId : RowId
  deletedAccountId : RowId
  mergeRunId : RowId
  contactsMoved : Nat
  callsMoved : Nat
  storiesMoved : Nat
  landingPagesMoved : Nat
  domainAliasesAdded : List Text
deriving DecidableEq

def recordMergeRun (db : Database) (run : AccountMergeRun) : Database :=
  { db with nextId := db.nextId + 1, accountMergeRuns := db.accountMergeRuns ++ [run] }

def executeMerge (db : Database) (organizationId primaryAccountId secondaryAccountId : RowId)
    (initiatedByUserId : Option RowId) (notes : Option Text) :
    Except MergeError (Database × MergeResult) := do
  let primary ← required (findAccount db primaryAccountId organizationId)
    (.primaryNotFound primaryAccountId)
  let secondary ← required (findAccount db secondaryAccountId organizationId)
    (.secondaryNotFound secondaryAccountId)
  let _ ← ensure (primaryAccountId != secondaryAccountId) MergeError.sameAccount
  let _ ← loadAccountPreview db organizationId primaryAccountId
  let secondarySnapshot ← loadAccountPreview db organizationId secondaryAccountId
  let (contactsMoved, movedContactIds) ← moveContacts db primaryAccountId secondaryAccountId
  let movedCallIds :=
    (contactsMoved.calls.filter (·.accountId == some secondaryAccountId)).map (·.id)
  let callsMoved ← statement (moveCalls contactsMoved secondaryAccountId primaryAccountId)
  let movedStoryIds :=
    (callsMoved.stories.filter (·.accountId == secondaryAccountId)).map (·.id)
  let storiesMoved ← statement (moveStories callsMoved secondaryAccountId primaryAccountId)
  let movedLandingPageIds := (storiesMoved.landingPages.filter fun page =>
    page.organizationId == organizationId && movedStoryIds.contains page.storyId).map (·.id)
  let eventsMoved ← statement
    (moveSalesforceEvents storiesMoved secondaryAccountId primaryAccountId)
  let accessMoved ← statement (moveUserAccess eventsMoved secondaryAccountId primaryAccountId)
  let domainAdded ← addDomainAlias accessMoved primary secondary
  let (aliasesMoved, domainAliasesAdded) ← moveAliases primary secondary domainAdded
  let identifiersMerged ← mergeCrmIdentifiers aliasesMoved primary secondary
  let deleted ← statement (deleteAccount identifiersMerged secondaryAccountId)
  let run : AccountMergeRun := {
    id := deleted.nextId
    organizationId
    primaryAccountId
    secondaryAccountId
    secondarySnapshot
    movedContactIds
    movedCallIds
    movedStoryIds
    movedLandingPageIds
    initiatedByUserId
    notes }
  return (recordMergeRun deleted run, {
    primaryAccountId
    deletedAccountId := secondaryAccountId
    mergeRunId := run.id
    contactsMoved := movedContactIds.length
    callsMoved := movedCallIds.length
    storiesMoved := movedStoryIds.length
    landingPagesMoved := movedLandingPageIds.length
    domainAliasesAdded })

def restoredAccount (cases : CaseMapping) (organizationId : RowId)
    (snapshot : AccountSnapshot) : Account where
  id := snapshot.id
  organizationId
  name := snapshot.name
  normalizedName := Scrub.normalizeCompanyName cases snapshot.name
  domain := snapshot.domain
  industry := snapshot.industry
  employeeCount := snapshot.employeeCount
  annualRevenue := snapshot.annualRevenue

def restoreSecondary (cases : CaseMapping) (db : Database) (organizationId : RowId)
    (snapshot : AccountSnapshot) : Except MergeError Database :=
  if (findAccount db snapshot.id organizationId).isSome then return db
  else statement { db with
    accounts := db.accounts ++ [restoredAccount cases organizationId snapshot] }

def restoreContacts (db : Database) (run : AccountMergeRun) : Database :=
  { db with
    contacts := updateWhere db.contacts
      (fun row => run.movedContactIds.contains row.id && row.accountId == run.primaryAccountId)
      fun row => { row with accountId := run.secondaryAccountId } }

def restoreCalls (db : Database) (run : AccountMergeRun) : Database :=
  { db with
    calls := updateWhere db.calls
      (fun row => run.movedCallIds.contains row.id && row.accountId == some run.primaryAccountId)
      fun row => { row with accountId := some run.secondaryAccountId } }

def restoreStories (db : Database) (run : AccountMergeRun) : Database :=
  { db with
    stories := updateWhere db.stories
      (fun row => run.movedStoryIds.contains row.id && row.accountId == run.primaryAccountId)
      fun row => { row with accountId := run.secondaryAccountId } }

def markUndone (db : Database) (runId : RowId) (undoneByUserId : Option RowId) (now : Date) :
    Database :=
  { db with
    accountMergeRuns := updateWhere db.accountMergeRuns (·.id == runId) fun run =>
      { run with status := .undone, undoneByUserId, undoneAt := some now } }

structure UndoResult where
  mergeRunId : RowId
  restoredSecondaryAccountId : RowId
  restoredContacts : Nat
  restoredCalls : Nat
  restoredStories : Nat

def undoMerge (cases : CaseMapping) (db : Database) (organizationId mergeRunId : RowId)
    (undoneByUserId : Option RowId) (now : Date) : Except MergeError (Database × UndoResult) := do
  let run ← required (db.accountMergeRuns.find? fun run =>
    run.id == mergeRunId && run.organizationId == organizationId) .mergeRunNotFound
  let _ ← ensure (run.status != .undone) MergeError.alreadyUndone
  let restored ← restoreSecondary cases db organizationId run.secondarySnapshot
  let contacts ← statement (restoreContacts restored run)
  let calls ← statement (restoreCalls contacts run)
  let stories ← statement (restoreStories calls run)
  return (markUndone stories run.id undoneByUserId now, {
    mergeRunId := run.id
    restoredSecondaryAccountId := run.secondaryAccountId
    restoredContacts := (restored.contacts.filter fun row =>
      run.movedContactIds.contains row.id && row.accountId == run.primaryAccountId).length
    restoredCalls := (contacts.calls.filter fun row =>
      run.movedCallIds.contains row.id && row.accountId == some run.primaryAccountId).length
    restoredStories := (calls.stories.filter fun row =>
      run.movedStoryIds.contains row.id && row.accountId == run.primaryAccountId).length })

def absorbContact (targetAccountId : RowId) (db : Database) (contact : Contact) :
    Except MergeError Database := do
  match db.contacts.find? fun row =>
      row.accountId == targetAccountId && row.email == contact.email with
  | some existing =>
    let relinked ← statement (relinkParticipants db contact.id (some existing.id))
    statement (deleteContact relinked contact.id)
  | none => statement (reassignContact db targetAccountId contact.id)

def absorbContacts (db : Database) (sourceAccountId targetAccountId : RowId) :
    Except MergeError Database :=
  (db.contacts.filter (·.accountId == sourceAccountId)).foldlM (absorbContact targetAccountId) db

def copyAlias (target : Account) (db : Database) (row : AccountDomain) :
    Except MergeError Database :=
  if !hasAlias db target.id row.domain && some row.domain != target.domain then
    statement (createAlias db target.id row.domain)
  else return db

def copyAliases (db : Database) (source target : Account) : Except MergeError Database :=
  (db.accountDomains.filter (·.accountId == source.id)).foldlM (copyAlias target) db

def mergeAccounts (db : Database) (sourceAccountId targetAccountId organizationId : RowId) :
    Except MergeError Database := do
  let source ← required (findAccount db sourceAccountId organizationId)
    (.secondaryNotFound sourceAccountId)
  let target ← required (findAccount db targetAccountId organizationId)
    (.primaryNotFound targetAccountId)
  let _ ← ensure (sourceAccountId != targetAccountId) MergeError.sameAccount
  let callsMoved ← statement (moveCalls db sourceAccountId targetAccountId)
  let contactsMoved ← absorbContacts callsMoved sourceAccountId targetAccountId
  let (domainAdded, _) ← addDomainAlias contactsMoved target source
  let aliasesCopied ← copyAliases domainAdded source target
  let aliasesDeleted ← statement (deleteAliases aliasesCopied sourceAccountId)
  let storiesMoved ← statement (moveStories aliasesDeleted sourceAccountId targetAccountId)
  let eventsMoved ← statement
    (moveSalesforceEvents storiesMoved sourceAccountId targetAccountId)
  let accessMoved ← statement (moveUserAccess eventsMoved sourceAccountId targetAccountId)
  statement (deleteAccount accessMoved sourceAccountId)

end StoryEngine.Accounts
