import Mathlib.Data.Rat.Floor
import StoryEngine.Accounts.Merge

namespace StoryEngine.Resolution

open Accounts Data Schema Text

/-! # Entity resolution

Call participants are resolved to an account by the domains of their e-mail
addresses, and else by a fuzzy search for names.
-/

structure CallParticipantInput where
  email : Option Text := none
  name : Option Text := none

inductive ResolutionMethod where
  | emailDomain
  | fuzzyName

/-- A match; the result with the method `none` is no match. -/
structure ResolvedEntity where
  accountId : RowId
  accountName : Text
  /-- Hundredths. -/
  confidence : Nat
  matchMethod : ResolutionMethod

structure FuseResult where
  item : Account
  score : ℚ

/-- The runtime, with Fuse.js searching the normalized names of accounts. -/
structure Resolver where
  cases : CaseMapping
  search : List Account → Text → List FuseResult
  search_item : ∀ accounts candidate, ∀ result ∈ search accounts candidate, result.item ∈ accounts

def plainResolver : Resolver where
  cases := .ascii
  search _ _ := []
  search_item := by simp

def freeEmailDomains : List Text :=
  ["gmail.com", "yahoo.com", "hotmail.com", "outlook.com", "aol.com", "icloud.com", "mail.com",
    "protonmail.com", "proton.me", "live.com", "msn.com", "yandex.com", "zoho.com",
    "fastmail.com", "tutanota.com", "hey.com"].map String.toList

def extractEmailDomain (cases : CaseMapping) (email : Text) : Option Text :=
  match splitAt (· == '@') (trim (cases.toLowerCase email)) with
  | [_, domain] => if freeEmailDomains.contains domain then none else some domain
  | _ => none

def companyDomain (cases : CaseMapping) (email : Option Text) : Option Text :=
  (truthy email).bind fun address => truthy (extractEmailDomain cases address)

def participantDomains (cases : CaseMapping) (participants : List CallParticipantInput) :
    List Text :=
  (participants.filterMap fun participant => companyDomain cases participant.email).eraseDups

section

variable (resolver : Resolver) (db : Database) (organizationId : RowId)

def inOrganization (accountId : RowId) : Option Account :=
  db.accounts.find? fun account => account.id == accountId && account.organizationId == organizationId

def hasDomainIn (domains : List Text) (account : Account) : Bool :=
  account.domain.any fun domain => domains.contains domain

def primaryMatch (domains : List Text) : Option Account :=
  db.accounts.find? fun account =>
    account.organizationId == organizationId && hasDomainIn domains account

def aliasMatch (domains : List Text) : Option Account :=
  db.accountDomains.findSome? fun row =>
    if domains.contains row.domain then inOrganization db organizationId row.accountId else none

def contactMatch (domains : List Text) : Option Account :=
  db.contacts.findSome? fun contact =>
    if domains.contains contact.emailDomain then
      inOrganization db organizationId contact.accountId
    else none

def domainResolution (confidence : Nat) (account : Account) : ResolvedEntity where
  accountId := account.id
  accountName := account.name
  confidence
  matchMethod := .emailDomain

def matchByEmailDomain (domains : List Text) : Option ResolvedEntity :=
  ((primaryMatch db organizationId domains).map (domainResolution 95)).or
    (((aliasMatch db organizationId domains).map (domainResolution 90)).or
      ((contactMatch db organizationId domains).map (domainResolution 85)))

def buildCandidateNames (participants : List CallParticipantInput) (callTitle : Option Text) :
    List Text :=
  ((truthy callTitle).toList ++ participants.filterMap fun participant => truthy participant.name).map
    (Scrub.normalizeCompanyName resolver.cases) |>.filter fun name => 1 < length16 name

def firstSignificantWord (candidateNames : List Text) : Option Text :=
  candidateNames.findSome? fun name => (splitSpaces name).find? fun word => 1 < length16 word

def containsIgnoringCase (text part : Text) : Bool :=
  decide (resolver.cases.toLowerCase part <:+: resolver.cases.toLowerCase text)

def fuzzyAccounts (candidateNames : List Text) : List Account :=
  let own := db.accounts.filter (·.organizationId == organizationId)
  match firstSignificantWord candidateNames with
  | none => own.take 200
  | some word =>
    match (own.filter fun account =>
        containsIgnoringCase resolver account.normalizedName word).take 500 with
    | [] => own.take 200
    | found => found

def betterMatch (best : Option FuseResult) (results : List FuseResult) : Option FuseResult :=
  match best, results with
  | best, [] => best
  | none, top :: _ => some top
  | some best, top :: _ => if top.score < best.score then some top else some best

/-- `Math.round((1 - score) * 100)`, at most 75. -/
def fuzzyConfidence (score : ℚ) : Nat := min ⌊(1 - score) * 100 + 1 / 2⌋.toNat 75

def matchByFuzzyName (candidateNames : List Text) : Option ResolvedEntity :=
  let accounts := fuzzyAccounts resolver db organizationId candidateNames
  let best := candidateNames.foldl
    (fun best candidate => betterMatch best (resolver.search accounts candidate)) none
  (best.filter fun result => result.score ≤ 3 / 10).map fun result => {
    accountId := result.item.id
    accountName := result.item.name
    confidence := fuzzyConfidence result.score
    matchMethod := .fuzzyName }

def resolve (participants : List CallParticipantInput) (callTitle : Option Text := none) :
    Option ResolvedEntity :=
  let domains := participantDomains resolver.cases participants
  let candidateNames := buildCandidateNames resolver participants callTitle
  (if domains.isEmpty then none else matchByEmailDomain db organizationId domains).or
    (if candidateNames.isEmpty then none
      else matchByFuzzyName resolver db organizationId candidateNames)

end

def updateCall (db : Database) (callId : RowId) (change : Call → Call) : Database :=
  { db with calls := updateWhere db.calls (·.id == callId) change }

def upsertContact (db : Database) (contact : Contact) : Database :=
  let isContact (row : Contact) : Bool :=
    row.accountId == contact.accountId && row.email == contact.email
  if db.contacts.any isContact then
    { db with
      contacts := updateWhere db.contacts isContact fun row =>
        { row with name := contact.name.or row.name, title := contact.title.or row.title } }
  else
    { db with
      nextId := db.nextId + 1
      contacts := db.contacts ++ [{ contact with id := db.nextId }] }

def participantContact (cases : CaseMapping) (accountId : RowId) (email name title : Option Text) :
    Option Contact :=
  (truthy email).bind fun address =>
    (truthy (extractEmailDomain cases address)).map fun emailDomain => {
      id := 0
      accountId
      email := cases.toLowerCase address
      emailDomain
      name
      title }

def unmatched (call : Call) : Call :=
  { call with accountId := none, matchMethod := .none, matchConfidence := 0 }

def linkContacts (db : Database) (contacts : List Contact) : Database :=
  contacts.foldl upsertContact db

def resolveAndLinkContacts (resolver : Resolver) (db : Database) (organizationId callId : RowId)
    (participants : List CallParticipantInput) (callTitle : Option Text := none) :
    Database × Option ResolvedEntity :=
  match resolve resolver db organizationId participants callTitle with
  | none => (updateCall db callId unmatched, none)
  | some resolution =>
    let contacts := participants.filterMap fun participant =>
      participantContact resolver.cases resolution.accountId participant.email participant.name none
    (updateCall (linkContacts db contacts) callId fun call =>
      { call with accountId := some resolution.accountId }, some resolution)

/-! ## The review queue and the account hints -/

structure NormalizedParticipant where
  email : Option Text := none
  name : Option Text := none
  isHost : Bool := false
  title : Option Text := none

def NormalizedParticipant.input (participant : NormalizedParticipant) : CallParticipantInput where
  email := participant.email
  name := participant.name

structure AccountHint where
  name : Text
  normalized : Text

def normalizedHints (cases : CaseMapping) (accountHints : List Text) : List AccountHint :=
  (accountHints.map fun hint =>
    { name := trim hint, normalized := Scrub.normalizeCompanyName cases (trim hint) }).filter
      fun hint => 1 < length16 hint.name && 1 < length16 hint.normalized

def hintDomains (cases : CaseMapping) (participants : List NormalizedParticipant) : List Text :=
  participants.filterMap fun participant => companyDomain cases participant.email

def hintedAccount (cases : CaseMapping) (db : Database) (organizationId : RowId)
    (hints : List AccountHint) : Option Account :=
  hints.findSome? fun hint => db.accounts.find? fun account =>
    account.organizationId == organizationId &&
      (account.normalizedName == hint.normalized ||
        cases.toLowerCase account.name == cases.toLowerCase hint.name)

def accountOfHint (db : Database) (organizationId : RowId) (hint : AccountHint)
    (domain : Option Text) : Account where
  id := db.nextId
  organizationId
  name := hint.name
  normalizedName := hint.normalized
  domain

def createAccount (db : Database) (account : Account) : Database :=
  { db with nextId := db.nextId + 1, accounts := db.accounts ++ [account] }

def accountForHints (cases : CaseMapping) (db : Database) (organizationId : RowId)
    (first : AccountHint) (hints : List AccountHint) (domains : List Text) : Database × Account :=
  match (hintedAccount cases db organizationId hints).or
      (primaryMatch db organizationId domains) with
  | some account => (db, account)
  | none =>
    let account := accountOfHint db organizationId first domains.head?
    (createAccount db account, account)

def hinted (accountId : RowId) (call : Call) : Call :=
  { call with accountId := some accountId, matchMethod := .fuzzyName, matchConfidence := 70 }

def linkCallByProviderAccountHints (cases : CaseMapping) (db : Database)
    (organizationId callId : RowId) (participants : List NormalizedParticipant)
    (accountHints : List Text) : Database :=
  match normalizedHints cases accountHints with
  | [] => db
  | first :: rest =>
    let (known, account) := accountForHints cases db organizationId first (first :: rest)
      (hintDomains cases participants)
    linkContacts (updateCall known callId (hinted account.id)) (participants.filterMap
      fun participant => participantContact cases account.id participant.email participant.name
        participant.title)

def reviewThreshold : Nat := 70

/-- The filter of `listQueue`, without and with a search term. -/
def listQueueFilter (cases : CaseMapping) (organizationId : RowId) (search : Option Text)
    (call : Call) : Bool :=
  call.organizationId == organizationId && call.dismissedAt.isNone &&
    (call.matchMethod == .none || call.matchConfidence < reviewThreshold) &&
      (truthy search).all fun term => call.title.any fun title =>
        decide (cases.toLowerCase term <:+: cases.toLowerCase title)

inductive QueueError where
  | callNotFound
  | accountNotFound
  | domainTaken (domain existing : Text)
  | constraintViolation

def findCall (db : Database) (callId organizationId : RowId) : Option Call :=
  db.calls.find? fun call => call.id == callId && call.organizationId == organizationId

def participantsOf (db : Database) (callId : RowId) : List CallParticipant :=
  db.callParticipants.filter (·.callId == callId)

def assigned (accountId : RowId) (call : Call) : Call :=
  { call with accountId := some accountId, matchMethod := .manual, matchConfidence := 100 }

def learnDomain (organizationId accountId : RowId) (db : Database) (domain : Text) : Database :=
  if (primaryMatch db organizationId [domain]).isSome || (aliasMatch db organizationId [domain]).isSome
  then db
  else createAlias db accountId domain

def newDomains (cases : CaseMapping) (account : Account) (participants : List CallParticipant) :
    List Text :=
  ((participants.filterMap fun participant => companyDomain cases participant.email).filter
    fun domain => some domain != account.domain).eraseDups

def resolveCall (cases : CaseMapping) (db : Database) (callId accountId organizationId : RowId) :
    Except QueueError Database := do
  let call ← required (findCall db callId organizationId) .callNotFound
  let account ← required (findAccount db accountId organizationId) .accountNotFound
  let participants := participantsOf db call.id
  let linked := updateCall db callId (assigned accountId)
  let learned := (newDomains cases account participants).foldl
    (learnDomain organizationId accountId) linked
  return linkContacts learned (participants.filterMap fun participant =>
    participantContact cases accountId participant.email participant.name none)

def dismissCalls (db : Database) (callIds : List RowId) (organizationId : RowId) (now : Date) :
    Database :=
  { db with
    calls := updateWhere db.calls
      (fun call => callIds.contains call.id && call.organizationId == organizationId)
      fun call => { call with dismissedAt := some now } }

def newAccountDomain (cases : CaseMapping) (domain : Option Text)
    (participants : List CallParticipant) : Option Text :=
  match truthy domain with
  | some given => some given
  | none =>
    (participants.findSome? fun participant => companyDomain cases participant.email).or domain

def domainFree (db : Database) (organizationId : RowId) (domain : Option Text) : Bool :=
  domain.all fun domain => (primaryMatch db organizationId [domain]).isNone

def createAccountFromCall (cases : CaseMapping) (db : Database) (callId organizationId : RowId)
    (name : Text) (domain : Option Text) : Except QueueError (Database × RowId) := do
  let call ← required (findCall db callId organizationId) .callNotFound
  let chosen := newAccountDomain cases domain (participantsOf db call.id)
  match (truthy chosen).bind fun domain => primaryMatch db organizationId [domain] with
  | some existing => throw (.domainTaken (chosen.getD []) existing.name)
  | none =>
    ensure (domainFree db organizationId chosen) .constraintViolation
    let account : Account := {
      id := db.nextId
      organizationId
      name
      normalizedName := Scrub.normalizeCompanyName cases name
      domain := chosen }
    let resolved ← resolveCall cases (createAccount db account) callId account.id organizationId
    return (resolved, account.id)

structure EntityResolutionFix where
  callId : RowId
  accountId : RowId

def applyFix (organizationId : RowId) (state : Database × Nat) (fix : EntityResolutionFix) :
    Database × Nat :=
  match findCall state.1 fix.callId organizationId,
      findAccount state.1 fix.accountId organizationId with
  | some _, some _ =>
    (updateCall state.1 fix.callId fun call => { call with accountId := some fix.accountId },
      state.2 + 1)
  | _, _ => state

def applyEntityResolutionFixes (db : Database) (organizationId : RowId)
    (fixes : List EntityResolutionFix) : Database × Nat :=
  fixes.foldl (applyFix organizationId) (db, 0)

end StoryEngine.Resolution
