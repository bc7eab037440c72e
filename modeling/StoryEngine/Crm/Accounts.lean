import StoryEngine.Accounts.Merge
import StoryEngine.Crm.Salesforce
import StoryEngine.Data.Statements

namespace StoryEngine.Crm

open Accounts Data Schema Statements Text

/-! # Accounts of the CRM sync

A batch updates the accounts that have its external ids, leaves conflicts for
review, and creates the rest.
-/

inductive PersistError where
  | constraintViolation

abbrev Persist (α : Type) := Work PersistError Database α

def isReviewOf (organizationId : RowId) (targetType : MergeConflictTarget) (targetId : RowId)
    (request : MergeConflictRequest) : Bool :=
  request.organizationId == organizationId && request.targetType == targetType &&
    request.targetId == targetId && request.status == .pending

def reviewRequester (db : Database) (organizationId : RowId) : Option User :=
  db.users.find? fun user =>
    user.organizationId == organizationId && (user.role == .owner || user.role == .admin)

def queueMergeConflictReview (db : Database) (organizationId : RowId)
    (targetType : MergeConflictTarget) (targetId : RowId) (requestPayload : MergeConflictPayload) :
    Database :=
  if db.mergeConflictRequests.any (isReviewOf organizationId targetType targetId) then db
  else
    match reviewRequester db organizationId with
    | none => db
    | some owner =>
      { db with
        nextId := db.nextId + 1
        mergeConflictRequests := db.mergeConflictRequests ++ [{
          id := db.nextId
          organizationId
          targetType
          targetId
          requestedByUserId := owner.id
          requestPayload }] }

section

variable (cases : CaseMapping) (organizationId : RowId)

def existingAccount (db : Database) (externalId : Text) : Option Account :=
  db.accounts.find? fun row =>
    row.organizationId == organizationId && row.salesforceId == some externalId

/-- `salesforceId: { not: externalId }` is not true of a null column. -/
def potentialConflict (db : Database) (account : NormalizedAccount) : Option Account :=
  db.accounts.find? fun row =>
    row.organizationId == organizationId &&
      (row.normalizedName == Scrub.normalizeCompanyName cases account.name ||
        ((truthy account.domain).isSome && row.domain == account.domain)) &&
      row.salesforceId.any (· != account.externalId)

def accountConflict (account : NormalizedAccount) (conflict : Account) : MergeConflictPayload where
  conflictType := .accountExternalIdCollision
  existingId := conflict.id
  existingSalesforceId := conflict.salesforceId
  incomingExternalId := account.externalId
  incomingName := some account.name
  incomingDomain := account.domain

def toUpdate (db : Database) (accounts : List NormalizedAccount) : List (NormalizedAccount × RowId) :=
  accounts.filterMap fun account =>
    (existingAccount organizationId db account.externalId).map fun existing => (account, existing.id)

def toConflictCheck (db : Database) (accounts : List NormalizedAccount) : List NormalizedAccount :=
  accounts.filter fun account => (existingAccount organizationId db account.externalId).isNone

def checkConflict (state : Database × List NormalizedAccount) (account : NormalizedAccount) :
    Database × List NormalizedAccount :=
  match potentialConflict cases organizationId state.1 account with
  | some conflict =>
    (queueMergeConflictReview state.1 organizationId .account conflict.id
      (accountConflict account conflict), state.2)
  | none => (state.1, state.2 ++ [account])

def updatedAccount (account : NormalizedAccount) (row : Account) : Account :=
  { row with
    name := account.name
    normalizedName := Scrub.normalizeCompanyName cases account.name
    domain := account.domain.or row.domain
    industry := account.industry.or row.industry
    employeeCount := account.employeeCount.or row.employeeCount
    annualRevenue := account.annualRevenue.or row.annualRevenue }

def holdsDomain (domain : Text) (row : Account) : Bool :=
  row.organizationId == organizationId && row.domain == some domain

def updateAccount (update : NormalizedAccount × RowId) : Persist PUnit := fun db =>
  if update.1.domain.any fun domain => db.accounts.any fun row =>
      row.id != update.2 && holdsDomain organizationId domain row then
    .error .constraintViolation db
  else .ok ⟨⟩ { db with
    accounts := updateWhere db.accounts (·.id == update.2) (updatedAccount cases update.1) }

def newAccount (account : NormalizedAccount) (id : RowId) : Account where
  id
  organizationId
  name := account.name
  normalizedName := Scrub.normalizeCompanyName cases account.name
  domain := account.domain
  salesforceId := some account.externalId
  industry := account.industry
  employeeCount := account.employeeCount
  annualRevenue := account.annualRevenue

/-- One row of `createMany` with `skipDuplicates`. -/
def createAccount (db : Database) (account : NormalizedAccount) : Database :=
  let row := newAccount cases organizationId account db.nextId
  if db.accounts.any fun other =>
      (domainKey row).isSome && domainKey other == domainKey row ||
        salesforceKey other == salesforceKey row then db
  else { db with nextId := db.nextId + 1, accounts := db.accounts ++ [row] }

def createAccounts (db : Database) (accounts : List NormalizedAccount) : Database :=
  accounts.foldl (createAccount cases organizationId) db

def persistAccountBatch (accounts : List NormalizedAccount) : Persist PUnit := fun db =>
  let (checked, toCreate) :=
    (toConflictCheck organizationId db accounts).foldl (checkConflict cases organizationId) (db, [])
  transaction (do
    each (toUpdate organizationId db accounts) (updateAccount cases organizationId)
    modify (createAccounts cases organizationId · toCreate)) checked

end

end StoryEngine.Crm
