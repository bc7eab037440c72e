import StoryEngine.Data.Keys
import StoryEngine.Schema.Database

namespace StoryEngine.Accounts

open Data Schema

/-! # Constraints of the account tables

PostgreSQL checks a unique index and a foreign key when a statement ends.  Null
columns are no key and no reference.
-/

def domainKey (account : Account) : Option (RowId × Text) :=
  account.domain.map fun domain => (account.organizationId, domain)

def salesforceKey (account : Account) : Option (RowId × Text) :=
  account.salesforceId.map fun salesforceId => (account.organizationId, salesforceId)

def aliasKey (row : AccountDomain) : Option (RowId × Text) :=
  some (row.accountId, row.domain)

def emailKey (contact : Contact) : Option (RowId × Text) :=
  some (contact.accountId, contact.email)

def participantKey (participant : CallParticipant) : Option (RowId × Text) :=
  participant.email.map fun email => (participant.callId, email)

/-- `salesforce_event_account_opp_stage`. -/
def eventKey (event : SalesforceEvent) : Option (RowId × Text × Text) :=
  event.opportunityId.bind fun opportunityId =>
    event.stageName.map fun stageName => (event.accountId, opportunityId, stageName)

structure PrimaryKeys (db : Database) : Prop where
  accounts : (db.accounts.map (·.id)).Nodup
  accountDomains : (db.accountDomains.map (·.id)).Nodup
  contacts : (db.contacts.map (·.id)).Nodup
  calls : (db.calls.map (·.id)).Nodup
  callParticipants : (db.callParticipants.map (·.id)).Nodup
  salesforceEvents : (db.salesforceEvents.map (·.id)).Nodup
  stories : (db.stories.map (·.id)).Nodup
  quotes : (db.quotes.map (·.id)).Nodup
  storyRegenLogs : (db.storyRegenLogs.map (·.id)).Nodup
  userAccountAccess : (db.userAccountAccess.map (·.id)).Nodup

structure UniqueKeys (db : Database) : Prop where
  domains : UniqueBy domainKey db.accounts
  salesforceIds : UniqueBy salesforceKey db.accounts
  aliases : UniqueBy aliasKey db.accountDomains
  emails : UniqueBy emailKey db.contacts
  participants : UniqueBy participantKey db.callParticipants
  events : UniqueBy eventKey db.salesforceEvents

def accountIds (db : Database) : List RowId := db.accounts.map (·.id)

def contactIds (db : Database) : List RowId := db.contacts.map (·.id)

structure ForeignKeys (db : Database) : Prop where
  contacts : References (fun row : Contact => some row.accountId) db.contacts (accountIds db)
  calls : References (·.accountId) db.calls (accountIds db)
  salesforceEvents : References (fun row : SalesforceEvent => some row.accountId)
    db.salesforceEvents (accountIds db)
  stories : References (fun row : Story => some row.accountId) db.stories (accountIds db)
  accountDomains : References (fun row : AccountDomain => some row.accountId)
    db.accountDomains (accountIds db)
  quotes : References (fun row : Quote => some row.accountId) db.quotes (accountIds db)
  storyRegenLogs : References (fun row : StoryRegenLog => some row.accountId)
    db.storyRegenLogs (accountIds db)
  userAccountAccess : References (·.accountId) db.userAccountAccess (accountIds db)
  participants : References (·.contactId) db.callParticipants (contactIds db)

/-- What the schema promises about the tables that a merge touches. -/
structure Constraints (db : Database) : Prop where
  primary : PrimaryKeys db
  unique : UniqueKeys db
  foreign : ForeignKeys db

instance (db : Database) : Decidable (PrimaryKeys db) :=
  decidable_of_iff
    ((db.accounts.map (·.id)).Nodup ∧ (db.accountDomains.map (·.id)).Nodup ∧
      (db.contacts.map (·.id)).Nodup ∧ (db.calls.map (·.id)).Nodup ∧
      (db.callParticipants.map (·.id)).Nodup ∧ (db.salesforceEvents.map (·.id)).Nodup ∧
      (db.stories.map (·.id)).Nodup ∧ (db.quotes.map (·.id)).Nodup ∧
      (db.storyRegenLogs.map (·.id)).Nodup ∧ (db.userAccountAccess.map (·.id)).Nodup)
    ⟨fun ⟨accounts, domains, contacts, calls, participants, events, stories, quotes, logs, access⟩ =>
      ⟨accounts, domains, contacts, calls, participants, events, stories, quotes, logs, access⟩,
    fun ⟨accounts, domains, contacts, calls, participants, events, stories, quotes, logs, access⟩ =>
      ⟨accounts, domains, contacts, calls, participants, events, stories, quotes, logs, access⟩⟩

instance (db : Database) : Decidable (UniqueKeys db) :=
  decidable_of_iff
    (UniqueBy domainKey db.accounts ∧ UniqueBy salesforceKey db.accounts ∧
      UniqueBy aliasKey db.accountDomains ∧ UniqueBy emailKey db.contacts ∧
      UniqueBy participantKey db.callParticipants ∧ UniqueBy eventKey db.salesforceEvents)
    ⟨fun ⟨domains, salesforceIds, aliases, emails, participants, events⟩ =>
      ⟨domains, salesforceIds, aliases, emails, participants, events⟩,
    fun ⟨domains, salesforceIds, aliases, emails, participants, events⟩ =>
      ⟨domains, salesforceIds, aliases, emails, participants, events⟩⟩

instance (db : Database) : Decidable (ForeignKeys db) :=
  decidable_of_iff
    (References (fun row : Contact => some row.accountId) db.contacts (accountIds db) ∧
      References (·.accountId) db.calls (accountIds db) ∧
      References (fun row : SalesforceEvent => some row.accountId) db.salesforceEvents
        (accountIds db) ∧
      References (fun row : Story => some row.accountId) db.stories (accountIds db) ∧
      References (fun row : AccountDomain => some row.accountId) db.accountDomains
        (accountIds db) ∧
      References (fun row : Quote => some row.accountId) db.quotes (accountIds db) ∧
      References (fun row : StoryRegenLog => some row.accountId) db.storyRegenLogs
        (accountIds db) ∧
      References (·.accountId) db.userAccountAccess (accountIds db) ∧
      References (·.contactId) db.callParticipants (contactIds db))
    ⟨fun ⟨contacts, calls, events, stories, domains, quotes, logs, access, participants⟩ =>
      ⟨contacts, calls, events, stories, domains, quotes, logs, access, participants⟩,
    fun ⟨contacts, calls, events, stories, domains, quotes, logs, access, participants⟩ =>
      ⟨contacts, calls, events, stories, domains, quotes, logs, access, participants⟩⟩

instance (db : Database) : Decidable (Constraints db) :=
  decidable_of_iff (PrimaryKeys db ∧ UniqueKeys db ∧ ForeignKeys db)
    ⟨fun ⟨primary, unique, foreign⟩ => ⟨primary, unique, foreign⟩,
      fun ⟨primary, unique, foreign⟩ => ⟨primary, unique, foreign⟩⟩

/-- The id supply is ahead of the rows that a merge creates. -/
structure FreshIds (db : Database) : Prop where
  accountDomains : ∀ row ∈ db.accountDomains, row.id < db.nextId
  accountMergeRuns : ∀ row ∈ db.accountMergeRuns, row.id < db.nextId

end StoryEngine.Accounts
