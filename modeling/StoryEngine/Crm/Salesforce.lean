import StoryEngine.Data.Pages
import StoryEngine.Data.Rows
import StoryEngine.Platform
import StoryEngine.Schema.Rows

namespace StoryEngine.Crm

open Data Schema Text

/-! # Salesforce provider

The requests go to a service that is not part of the program; a reply is the one of
the attempt that `withRetry` ends with.
-/

structure SFAccount where
  id : Text
  name : Text
  website : Option Text := none
  industry : Option Text := none
  numberOfEmployees : Option Int := none
  annualRevenue : Option Int := none

structure SFContact where
  id : Text
  email : Option Text := none
  name : Option Text := none
  title : Option Text := none
  phone : Option Text := none
  accountId : Option Text := none

structure SFOpportunity where
  id : Text
  name : Option Text := none
  amount : Option Int := none
  stageName : Option Text := none
  isClosed : Bool := false
  isWon : Bool := false
  closeDate : Option Date := none
  accountId : Option Text := none

structure NormalizedAccount where
  externalId : Text
  name : Text
  domain : Option Text
  industry : Option Text
  employeeCount : Option Int
  annualRevenue : Option Int

structure NormalizedContact where
  externalId : Text
  email : Text
  name : Option Text
  title : Option Text
  phone : Option Text
  accountExternalId : Option Text

inductive OpportunityStatus where
  | isOpen
  | won
  | lost

structure NormalizedOpportunity where
  externalId : Text
  name : Option Text
  amount : Option Int
  stage : Option Text
  status : OpportunityStatus
  closeDate : Option Date
  accountExternalId : Option Text

/-- `replace(/^www\./, "")` -/
def withoutWww (hostname : Text) : Text :=
  let www : Text := ("www." : String)
  if startsWith hostname www then hostname.drop www.length else hostname

def extractDomainFromUrl (platform : Platform) (url : Text) : Option Text :=
  (platform.urlHostname
    (if startsWith url ("http" : String) then url else ("https://" : String).toList ++ url)).map
      withoutWww

def normalizeAccount (platform : Platform) (record : SFAccount) : NormalizedAccount where
  externalId := record.id
  name := record.name
  domain := (record.website.filter fun url => !url.isEmpty).bind (extractDomainFromUrl platform)
  industry := record.industry
  employeeCount := record.numberOfEmployees
  annualRevenue := record.annualRevenue

def normalizeContact (record : SFContact) : NormalizedContact where
  externalId := record.id
  email := record.email.getD []
  name := record.name
  title := record.title
  phone := record.phone
  accountExternalId := record.accountId

def normalizeOpportunity (record : SFOpportunity) : NormalizedOpportunity where
  externalId := record.id
  name := record.name
  amount := record.amount
  stage := record.stageName
  status := if record.isClosed then if record.isWon then .won else .lost else .isOpen
  closeDate := record.closeDate
  accountExternalId := record.accountId

/-- `SELECT … FROM … WHERE SystemModstamp > … ORDER BY SystemModstamp ASC LIMIT …` -/
structure Soql where
  select : List String
  object : String
  modifiedAfter : Option Date
  limit : Nat

structure SoqlResponse (ρ : Type) where
  done : Bool
  nextRecordsUrl : Option Text := none
  records : List ρ

inductive HttpReply (ρ : Type) where
  | ok (body : SoqlResponse ρ)
  | failed (status : Nat) (text : Text)

structure SalesforceCredentials where
  instanceUrl : Text
  accessToken : Text
  refreshToken : Text
  clientId : Text
  clientSecret : Text

/-- The REST resource of one object, as a holder of an access token finds it. -/
structure Resource (ρ : Type) where
  query : Text → Soql → HttpReply ρ
  next : Text → Text → HttpReply ρ

structure Salesforce where
  accounts : Resource SFAccount
  contacts : Resource SFContact
  opportunities : Resource SFOpportunity
  /-- The token endpoint. -/
  token : SalesforceCredentials → Option Text

structure SyncResult (ν : Type) where
  data : List ν
  nextCursor : Option Text
  hasMore : Bool

def pageSize : Nat := 200

def asSalesforceCredentials (creds : SalesforceCredentials) : Except Text SalesforceCredentials :=
  if creds.instanceUrl.isEmpty || creds.accessToken.isEmpty then
    .error ("Invalid Salesforce credentials: missing instanceUrl or accessToken" : String).toList
  else .ok creds

def refreshAccessToken (token : SalesforceCredentials → Option Text)
    (creds : SalesforceCredentials) : Option Text :=
  if creds.refreshToken.isEmpty || creds.clientId.isEmpty || creds.clientSecret.isEmpty then none
  else token creds

structure RequestErrors where
  refresh : String
  status : String

def statusError (errors : RequestErrors) (status : Nat) (text : Text) : Text :=
  errors.status.toList ++ (" (" : String).toList ++ Nat.toDigits 10 status ++
    ("): " : String).toList ++ text

section

variable {ρ ν : Type}

def request (errors : RequestErrors) (send : Text → HttpReply ρ)
    (token : SalesforceCredentials → Option Text) (creds : SalesforceCredentials) :
    Except Text (SalesforceCredentials × SoqlResponse ρ) :=
  match send creds.accessToken with
  | .ok body => .ok (creds, body)
  | .failed status text =>
    if status = 401 then
      match refreshAccessToken token creds with
      | none => .error errors.refresh.toList
      | some newToken =>
        match send newToken with
        | .ok body => .ok ({ creds with accessToken := newToken }, body)
        | .failed status text => .error (statusError errors status text)
    else .error (statusError errors status text)

def syncResult (normalize : ρ → ν) (body : SoqlResponse ρ) : SyncResult ν where
  data := body.records.map normalize
  nextCursor := body.nextRecordsUrl
  hasMore := !body.done

def executeSoql (resource : Resource ρ) (token : SalesforceCredentials → Option Text)
    (normalize : ρ → ν) (soql : Soql) (creds : SalesforceCredentials) :
    Except Text (SalesforceCredentials × SyncResult ν) :=
  (request { refresh := "Salesforce token refresh failed", status := "Salesforce SOQL error" }
    (fun accessToken => resource.query accessToken soql) token creds).map
      fun answered => (answered.1, syncResult normalize answered.2)

def fetchNextPage (resource : Resource ρ) (token : SalesforceCredentials → Option Text)
    (normalize : ρ → ν) (nextRecordsUrl : Text) (creds : SalesforceCredentials) :
    Except Text (SalesforceCredentials × SyncResult ν) :=
  (request { refresh := "Salesforce token refresh failed during pagination",
             status := "Salesforce pagination error" }
    (fun accessToken => resource.next accessToken nextRecordsUrl) token creds).map
      fun answered => (answered.1, syncResult normalize answered.2)

def fetchRecords (resource : Resource ρ) (token : SalesforceCredentials → Option Text)
    (normalize : ρ → ν) (soql : Soql) (credentials : SalesforceCredentials)
    (cursor : Option Text) : Except Text (SalesforceCredentials × SyncResult ν) := do
  let creds ← asSalesforceCredentials credentials
  match cursor.filter fun url => !url.isEmpty with
  | some url => fetchNextPage resource token normalize url creds
  | none => executeSoql resource token normalize soql creds

end

section

variable (salesforce : Salesforce) (platform : Platform) (since : Option Date)

def accountSoql : Soql where
  select := ["Id", "Name", "Website", "Industry", "NumberOfEmployees", "AnnualRevenue"]
  object := "Account"
  modifiedAfter := since
  limit := pageSize

def contactSoql : Soql where
  select := ["Id", "Email", "Name", "Title", "Phone", "AccountId"]
  object := "Contact"
  modifiedAfter := since
  limit := pageSize

def opportunitySoql : Soql where
  select := ["Id", "Name", "Amount", "StageName", "IsClosed", "IsWon", "CloseDate", "AccountId"]
  object := "Opportunity"
  modifiedAfter := since
  limit := pageSize

def fetchAccounts : SalesforceCredentials → Option Text →
    Except Text (SalesforceCredentials × SyncResult NormalizedAccount) :=
  fetchRecords salesforce.accounts salesforce.token (normalizeAccount platform) (accountSoql since)

def fetchContacts : SalesforceCredentials → Option Text →
    Except Text (SalesforceCredentials × SyncResult NormalizedContact) :=
  fetchRecords salesforce.contacts salesforce.token normalizeContact (contactSoql since)

def fetchOpportunities : SalesforceCredentials → Option Text →
    Except Text (SalesforceCredentials × SyncResult NormalizedOpportunity) :=
  fetchRecords salesforce.opportunities salesforce.token normalizeOpportunity
    (opportunitySoql since)

end

/-- A record with the time of its last change, which no query selects. -/
structure Modified (ρ : Type) where
  systemModstamp : Date
  record : ρ

section

variable {ρ ν : Type}

/-- The rows that the `WHERE` clause of a query lets through. -/
def matching (soql : Soql) (table : List (Modified ρ)) : List (Modified ρ) :=
  table.filter fun row => soql.modifiedAfter.all fun since => decide (since < row.systemModstamp)

/-- A response and the pages that its URL leads to hold the records of a whole result.
The response is done exactly when it holds all that are left. -/
inductive Paged (resource : Resource ρ) : SoqlResponse ρ → List ρ → Prop where
  | last (url : Option Text) (records : List ρ) :
      Paged resource { done := true, nextRecordsUrl := url, records } records
  | more (url : Text) (records rest : List ρ) (named : url ≠ []) (remaining : rest ≠ [])
      (follows : ∀ accessToken body, resource.next accessToken url = .ok body →
        Paged resource body rest) :
      Paged resource { done := false, nextRecordsUrl := some url, records } (records ++ rest)

/-- The resource answers a query with the first matching rows of the table. -/
def Answers (resource : Resource ρ) (table : List (Modified ρ)) : Prop :=
  ∀ accessToken soql body, resource.query accessToken soql = .ok body →
    ∃ rows, TopBy Modified.systemModstamp soql.limit (matching soql table) rows ∧
      Paged resource body (rows.map (·.record))

/-- The response holds some of the records that are left, and leads to no more than the others. -/
structure SoqlResponse.PageOf (left : Text → Nat) (total : Nat) (body : SoqlResponse ρ) : Prop where
  within : body.records.length ≤ total
  holds : body.done = false → body.records ≠ []
  leads : body.done = false → ∀ url ∈ body.nextRecordsUrl, left url + body.records.length ≤ total

/-- A result is no longer than the limit of its query, and a URL leads to the records that are left
of it. -/
structure Resource.CountsDown (left : Text → Nat) (resource : Resource ρ) : Prop where
  query : ∀ accessToken soql body, resource.query accessToken soql = .ok body →
    ∃ total, total ≤ soql.limit ∧ body.PageOf left total
  next : ∀ accessToken url body, resource.next accessToken url = .ok body →
    body.PageOf left (left url)

theorem request_eq_ok {errors : RequestErrors} {send : Text → HttpReply ρ}
    {token : SalesforceCredentials → Option Text} {creds next : SalesforceCredentials}
    {body : SoqlResponse ρ} (answered : request errors send token creds = .ok (next, body)) :
    send next.accessToken = .ok body := by
  unfold request at answered
  split at answered
  · rename_i given sent
    obtain ⟨rfl, rfl⟩ := Prod.mk.inj (Except.ok.inj answered)
    exact sent
  · split at answered
    · split at answered
      · cases answered
      · split at answered
        · rename_i newToken _ _ given sent
          obtain ⟨rfl, rfl⟩ := Prod.mk.inj (Except.ok.inj answered)
          exact sent
        · cases answered
    · cases answered

theorem fetchRecords_eq_ok {resource : Resource ρ} {token : SalesforceCredentials → Option Text}
    {normalize : ρ → ν} {soql : Soql} {creds next : SalesforceCredentials} {cursor : Option Text}
    {result : SyncResult ν}
    (fetched : fetchRecords resource token normalize soql creds cursor = .ok (next, result)) :
    ∃ body, result = syncResult normalize body ∧
      match cursor.filter fun url => !url.isEmpty with
      | some url => resource.next next.accessToken url = .ok body
      | none => resource.query next.accessToken soql = .ok body := by
  simp only [fetchRecords, bind_eq_ok] at fetched
  obtain ⟨valid, _, answered⟩ := fetched
  cases given : cursor.filter fun url => !url.isEmpty with
  | some url =>
    rw [given] at answered
    simp only [fetchNextPage, map_eq_ok] at answered
    obtain ⟨⟨creds, body⟩, sent, same⟩ := answered
    obtain ⟨rfl, rfl⟩ := Prod.mk.inj same
    exact ⟨body, rfl, request_eq_ok sent⟩
  | none =>
    rw [given] at answered
    simp only [executeSoql, map_eq_ok] at answered
    obtain ⟨⟨creds, body⟩, sent, same⟩ := answered
    obtain ⟨rfl, rfl⟩ := Prod.mk.inj same
    exact ⟨body, rfl, request_eq_ok sent⟩

end

end StoryEngine.Crm
