import StoryEngine.Ingestion.Effects

namespace StoryEngine.Ingestion

open Accounts Data Resolution Schema Statements Text

/-! # Calls of the integration sync

`persistCall` stores a call in a transaction and resolves it afterwards.  It may
be interrupted before each of its steps.
-/

structure NormalizedCall where
  externalId : Text
  title : Option Text := none
  recordingUrl : Option Text := none
  duration : Option Nat := none
  occurredAt : Date := 0
  participants : List NormalizedParticipant := []
  transcript : Option Text := none
  accountHints : List Text := []

inductive PersistStep where
  | transaction
  | resolution
  /-- Before the contact with this position is linked. -/
  | contact (position : Nat)
  | linkCall
  | hintedAccount
  | hintedCall
  | hintedContacts
  | accountLookup
  | enqueue
deriving DecidableEq

def reach (stop : Option PersistStep) (step : PersistStep) : Ingest PUnit := fun db =>
  if stop = some step then .error .interrupted db else .ok ⟨⟩ db

def NormalizedCall.newCall (call : NormalizedCall) (organizationId : RowId)
    (provider : CallProvider) : Call where
  id := 0
  organizationId
  title := call.title
  provider
  externalId := some call.externalId
  recordingUrl := call.recordingUrl
  duration := call.duration
  occurredAt := call.occurredAt

def NormalizedParticipant.row (callId : RowId) (participant : NormalizedParticipant) :
    CallParticipant where
  id := 0
  callId
  email := participant.email
  name := participant.name
  isHost := participant.isHost

def createTranscript (callId : RowId) (fullText : Text) : Ingest PUnit := fun db =>
  if db.transcripts.any (·.callId == callId) then .error .uniqueViolation db
  else .ok ⟨⟩ { db with transcripts := db.transcripts ++ [transcriptOf callId fullText] }

def storedCall (db : Database) (key : RowId × CallProvider × Text) : Option Call :=
  db.calls.find? (callKey · == some key)

/-- A call that is stored is refreshed; participants and the transcript are
written for a new call only. -/
def storeCall (organizationId : RowId) (provider : CallProvider) (call : NormalizedCall) :
    Ingest (Call × Bool) :=
  transaction fun db =>
    match storedCall db (organizationId, provider, call.externalId) with
    | some existing =>
      let refresh := refreshed call.title call.recordingUrl call.duration
      .ok (refresh existing, false) (updateCall db existing.id refresh)
    | none => (do
        let created ← createCall (call.newCall organizationId provider)
        each (call.participants.map (NormalizedParticipant.row created.id)) createParticipant
        match truthy call.transcript with
        | none => return (created, false)
        | some fullText =>
          createTranscript created.id fullText
          return (created, true)) db

def linkingMatch (resolver : Resolver) (stop : Option PersistStep) (callId : RowId)
    (participants : List CallParticipantInput) (resolution : ResolvedEntity) : Ingest PUnit := do
  let contacts := participants.filterMap fun participant =>
    participantContact resolver.cases resolution.accountId participant.email participant.name none
  each contacts.zipIdx fun (contact, position) => do
    reach stop (.contact position)
    writing (upsertContact · contact)
  reach stop .linkCall
  writing (updateCall · callId fun call => { call with accountId := some resolution.accountId })

/-- `resolveAndLinkContacts`, statement by statement. -/
def linking (resolver : Resolver) (stop : Option PersistStep) (organizationId callId : RowId)
    (participants : List CallParticipantInput) (callTitle : Option Text) :
    Ingest (Option ResolvedEntity) := do
  reach stop .resolution
  match resolve resolver (← get) organizationId participants callTitle with
  | none =>
    writing (updateCall · callId unmatched)
    return none
  | some resolution =>
    linkingMatch resolver stop callId participants resolution
    return some resolution

/-- `linkCallByProviderAccountHints`, statement by statement. -/
def linkingHints (resolver : Resolver) (stop : Option PersistStep) (organizationId callId : RowId)
    (participants : List NormalizedParticipant) (accountHints : List Text) : Ingest PUnit :=
  match normalizedHints resolver.cases accountHints with
  | [] => pure ⟨⟩
  | first :: rest => do
      reach stop .hintedAccount
      let account ← (fun db =>
        let (known, account) := accountForHints resolver.cases db organizationId first
          (first :: rest) (hintDomains resolver.cases participants)
        .ok account known : Ingest Account)
      reach stop .hintedCall
      writing (updateCall · callId (hinted account.id))
      reach stop .hintedContacts
      writing (linkContacts · (participants.filterMap fun participant =>
        participantContact resolver.cases account.id participant.email participant.name
          participant.title))

def enqueueTranscript (stop : Option PersistStep) (organizationId callId : RowId) :
    Ingest PUnit := do
  reach stop .accountLookup
  let accountId := ((← get).calls.find? (·.id == callId)).bind (·.accountId)
  reach stop .enqueue
  writing (enqueueProcessCallJob { callId, organizationId, accountId, hasTranscript := true })

def linkCall (resolver : Resolver) (stop : Option PersistStep) (organizationId callId : RowId)
    (call : NormalizedCall) : Ingest PUnit := do
  let resolution ← linking resolver stop organizationId callId
    (call.participants.map NormalizedParticipant.input) call.title
  if resolution.isNone then
    linkingHints resolver stop organizationId callId call.participants call.accountHints

def persistCall (resolver : Resolver) (organizationId : RowId) (provider : CallProvider)
    (call : NormalizedCall) (stop : Option PersistStep) : Ingest PUnit := do
  reach stop .transaction
  let (stored, hasTranscript) ← storeCall organizationId provider call
  linkCall resolver stop organizationId stored.id call
  if hasTranscript then enqueueTranscript stop organizationId stored.id

section

variable {organizationId : RowId} {provider : CallProvider} {call : NormalizedCall}
  {db stored linked : Database} {row : Call} {hasTranscript : Bool}

abbrev NormalizedCall.key (organizationId : RowId) (provider : CallProvider)
    (call : NormalizedCall) : RowId × CallProvider × Text :=
  (organizationId, provider, call.externalId)

structure Creates (organizationId : RowId) (provider : CallProvider) (call : NormalizedCall)
    (db written : Database) : Prop where
  calls : written.calls =
    db.calls ++ [{ call.newCall organizationId provider with id := db.nextId }]
  matching : SameMatching db written
  transcripts : written.transcripts =
    db.transcripts ++ ((truthy call.transcript).map (transcriptOf db.nextId)).toList
  processCallJobs : written.processCallJobs = db.processCallJobs
  nextId : db.nextId < written.nextId

inductive Stores (organizationId : RowId) (provider : CallProvider) (call : NormalizedCall)
    (db : Database) : Call → Bool → Database → Prop
  | refreshed (existing : Call)
      (found : storedCall db (call.key organizationId provider) = some existing) :
      Stores organizationId provider call db
        (refreshed call.title call.recordingUrl call.duration existing) false
        (updateCall db existing.id (refreshed call.title call.recordingUrl call.duration))
  | created (written : Database)
      (missing : storedCall db (call.key organizationId provider) = none)
      (creates : Creates organizationId provider call db written) :
      Stores organizationId provider call db
        { call.newCall organizationId provider with id := db.nextId }
        (truthy call.transcript).isSome written

theorem createTranscript_eq_ok {callId : RowId} {fullText : Text} {result : PUnit}
    {written : Database} (ran : createTranscript callId fullText db = .ok result written) :
    written = { db with transcripts := db.transcripts ++ [transcriptOf callId fullText] } := by
  unfold createTranscript at ran
  split at ran
  · cases ran
  · exact (EStateM.Result.ok.inj ran).2.symm

theorem storeCall_eq_ok
    (ran : storeCall organizationId provider call db = .ok (row, hasTranscript) stored) :
    Stores organizationId provider call db row hasTranscript stored := by
  have body := transaction_eq_ok.mp ran
  dsimp only at body
  split at body
  case h_1 existing found =>
    obtain ⟨same, rfl⟩ := EStateM.Result.ok.inj body
    obtain ⟨rfl, rfl⟩ := Prod.mk.inj same
    exact .refreshed existing found
  case h_2 missing =>
    obtain ⟨created, withCall, creates, participantsThenTranscript⟩ := bind_eq_ok.mp body
    obtain ⟨⟨⟩, withParticipants, writes, thenTranscript⟩ := bind_eq_ok.mp participantsThenTranscript
    obtain ⟨rfl, rfl⟩ := createCall_eq_ok creates
    have participants := (createParticipants_writes _).ok writes
    cases given : truthy call.transcript with
    | none =>
      simp only [given] at thenTranscript
      obtain ⟨same, rfl⟩ := EStateM.Result.ok.inj thenTranscript
      obtain ⟨rfl, rfl⟩ := Prod.mk.inj same
      have stores := Stores.created _ missing {
        calls := participants.calls
        matching := ⟨participants.matching.accounts, participants.matching.accountDomains,
          participants.matching.contacts⟩
        transcripts := by rw [participants.transcripts, given]; simp
        processCallJobs := participants.processCallJobs
        nextId := Nat.lt_of_succ_le participants.nextId }
      rwa [given] at stores
    | some fullText =>
      simp only [given] at thenTranscript
      obtain ⟨⟨⟩, withTranscript, transcribes, done⟩ := bind_eq_ok.mp thenTranscript
      obtain rfl := createTranscript_eq_ok transcribes
      obtain ⟨same, rfl⟩ := EStateM.Result.ok.inj done
      obtain ⟨rfl, rfl⟩ := Prod.mk.inj same
      have stores := Stores.created { withParticipants with
        transcripts := withParticipants.transcripts ++ [transcriptOf db.nextId fullText] } missing {
        calls := participants.calls
        matching := ⟨participants.matching.accounts, participants.matching.accountDomains,
          participants.matching.contacts⟩
        transcripts := by
          rw [given]
          exact congrArg (· ++ [transcriptOf db.nextId fullText]) participants.transcripts
        processCallJobs := participants.processCallJobs
        nextId := Nat.lt_of_succ_le participants.nextId }
      rwa [given] at stores

theorem storeCall_error {failure : IngestError}
    (ran : storeCall organizationId provider call db = .error failure stored) : stored = db :=
  transaction_eq_error ran

theorem Stores.staysFresh
    (stores : Stores organizationId provider call db row hasTranscript stored) :
    StaysFresh db stored := by
  intro fresh
  cases stores with
  | refreshed existing found => exact ⟨fresh.update rfl (fun _ => rfl) (Nat.le_refl _), Nat.le_refl _⟩
  | created _ missing creates =>
    exact ⟨fresh.created creates.calls rfl creates.nextId, Nat.le_of_lt creates.nextId⟩

theorem storeCall_staysFresh : Keeps StaysFresh (storeCall organizationId provider call) := by
  intro db
  cases ran : storeCall organizationId provider call db with
  | error failure written =>
    obtain rfl := storeCall_error ran
    exact .refl _
  | ok result written => exact (storeCall_eq_ok ran).staysFresh

end

section

variable {resolver : Resolver} {stop : Option PersistStep} {organizationId callId : RowId}
  {relation : Database → Database → Prop}

theorem reach_keeps (refl : ∀ db, relation db db) (step : PersistStep) :
    Keeps relation (reach stop step) := by
  intro db
  unfold reach
  split
  · exact refl db
  · exact refl db

theorem writing_keeps {statement : Database → Database}
    (keeps : ∀ db, relation db (statement db)) : Keeps relation (writing statement) :=
  keeps

theorem linkingMatch_keeps (refl : ∀ db, relation db db)
    (trans : ∀ {a b c}, relation a b → relation b c → relation a c)
    (contacts : ∀ {before after}, WritesContacts before after → relation before after)
    {resolution : ResolvedEntity}
    (account : ∀ db, relation db (updateCall db callId fun call =>
      { call with accountId := some resolution.accountId }))
    (participants : List CallParticipantInput) :
    Keeps relation (linkingMatch resolver stop callId participants resolution) := by
  refine .bind trans (.each refl trans fun item _ => .bind trans (reach_keeps refl _) fun _ => ?_)
    fun _ => .bind trans (reach_keeps refl _) fun _ => writing_keeps account
  exact writing_keeps fun db => contacts (upsertContact_writesContacts db item.1)

theorem linking_relinks (participants : List CallParticipantInput) (callTitle : Option Text) :
    Keeps (Relinks callId) (linking resolver stop organizationId callId participants callTitle) := by
  unfold linking
  refine .bind .trans (reach_keeps .refl _) fun _ => .bind .trans (.get .refl) fun db => ?_
  split
  · exact .bind .trans (writing_keeps fun _ => .ofUpdate relabels_unmatched) fun _ => .pure .refl _
  · exact .bind .trans
      (linkingMatch_keeps .refl .trans .ofContacts (fun _ => .ofUpdate (relabels_account _)) _)
      fun _ => .pure .refl _

theorem linkingHints_relinks (participants : List NormalizedParticipant) (accountHints : List Text) :
    Keeps (Relinks callId)
      (linkingHints resolver stop organizationId callId participants accountHints) := by
  unfold linkingHints
  split
  · exact .pure .refl _
  · exact .bind .trans (reach_keeps .refl _) fun _ =>
      .bind .trans (fun _ => accountForHints_relinks) fun _ =>
        .bind .trans (reach_keeps .refl _) fun _ =>
          .bind .trans (writing_keeps fun _ => .ofUpdate (relabels_hinted _)) fun _ =>
            .bind .trans (reach_keeps .refl _) fun _ =>
              writing_keeps fun _ => .ofContacts (linkContacts_writesContacts _ _)

theorem linkCall_relinks (call : NormalizedCall) :
    Keeps (Relinks callId) (linkCall resolver stop organizationId callId call) := by
  refine .bind .trans (linking_relinks _ _) fun resolution => ?_
  split
  · exact linkingHints_relinks _ _
  · exact .pure .refl _

end

section

variable {organizationId : RowId} {provider : CallProvider} {call : NormalizedCall}
  {db : Database}

/-- What `persistCall` leaves, and whether it returned: nothing written, the call
stored and perhaps linked, or all of it done. -/
inductive Persists (organizationId : RowId) (provider : CallProvider) (call : NormalizedCall)
    (db : Database) : EStateM.Result IngestError Database PUnit → Prop
  | refused (failure : IngestError) : Persists organizationId provider call db (.error failure db)
  | interrupted (failure : IngestError) {row : Call} {hasTranscript : Bool}
      {stored linked : Database}
      (stores : Stores organizationId provider call db row hasTranscript stored)
      (relinks : Relinks row.id stored linked) :
      Persists organizationId provider call db (.error failure linked)
  | withoutTranscript {row : Call} {hasTranscript : Bool} {stored linked : Database}
      (stores : Stores organizationId provider call db row hasTranscript stored)
      (relinks : Relinks row.id stored linked) (nothing : hasTranscript = false) :
      Persists organizationId provider call db (.ok ⟨⟩ linked)
  | withTranscript (job : ProcessCallJob) {row : Call} {hasTranscript : Bool}
      {stored linked : Database}
      (stores : Stores organizationId provider call db row hasTranscript stored)
      (relinks : Relinks row.id stored linked) (transcribed : hasTranscript = true)
      (ofCall : job.callId = row.id) :
      Persists organizationId provider call db (.ok ⟨⟩ (enqueueProcessCallJob job linked))

theorem enqueueTranscript_cases (stop : Option PersistStep) (organizationId callId : RowId)
    (db : Database) :
    (∃ failure, enqueueTranscript stop organizationId callId db = .error failure db) ∨
      ∃ job, job.callId = callId ∧
        enqueueTranscript stop organizationId callId db = .ok ⟨⟩ (enqueueProcessCallJob job db) := by
  by_cases early : stop = some .accountLookup
  · exact .inl ⟨.interrupted, by simp [enqueueTranscript, reach, bind_apply, early]⟩
  by_cases late : stop = some .enqueue
  · exact .inl ⟨.interrupted, by simp [enqueueTranscript, reach, bind_apply, late]; rfl⟩
  · exact .inr ⟨_, rfl, by
      simp only [enqueueTranscript, reach, bind_apply, if_neg early, if_neg late]
      rfl⟩

theorem persistCall_persists (resolver : Resolver) (stop : Option PersistStep) :
    Persists organizationId provider call db
      (persistCall resolver organizationId provider call stop db) := by
  unfold persistCall
  rw [bind_apply]
  by_cases early : stop = some .transaction
  · rw [show reach stop .transaction db = .error .interrupted db from if_pos early]
    exact .refused _
  rw [show reach stop .transaction db = .ok ⟨⟩ db from if_neg early]
  dsimp only
  rw [bind_apply]
  cases ran : storeCall organizationId provider call db with
  | error failure written =>
    obtain rfl := storeCall_error ran
    exact .refused failure
  | ok result stored =>
    obtain ⟨row, hasTranscript⟩ := result
    have stores := storeCall_eq_ok ran
    dsimp only
    rw [bind_apply]
    cases links : linkCall resolver stop organizationId row.id call stored with
    | error failure linked =>
      exact .interrupted failure stores ((linkCall_relinks call).error links)
    | ok result linked =>
      have relinks := (linkCall_relinks call).ok links
      cases hasTranscript with
      | false => exact .withoutTranscript stores relinks rfl
      | true =>
        dsimp only
        obtain ⟨failure, failed⟩ | ⟨job, ofCall, ran⟩ :=
          enqueueTranscript_cases stop organizationId row.id linked
        · rw [if_pos rfl, failed]
          exact .interrupted failure stores relinks
        · rw [if_pos rfl, ran]
          exact .withTranscript job stores relinks rfl ofCall

end

section

variable {resolver : Resolver} {organizationId callId : RowId} {db : Database}

theorem reach_none (step : PersistStep) : reach none step db = .ok ⟨⟩ db := rfl

theorem linkedContacts_uninterrupted (contacts : List Contact) (position : Nat) :
    each (contacts.zipIdx position) (fun (contact, position) => do
      reach none (.contact position)
      writing (upsertContact · contact)) db = .ok ⟨⟩ (linkContacts db contacts) := by
  induction contacts generalizing db position with
  | nil => rfl
  | cons contact rest ih =>
    rw [List.zipIdx_cons, each, bind_apply]
    exact ih (position + 1)

/-- Contacts that are linked before the loop is interrupted stay linked. -/
theorem linkedContacts_cases (stop : Option PersistStep) (contacts : List Contact)
    (position : Nat) (db : Database) :
    each (contacts.zipIdx position) (fun (contact, position) => do
        reach stop (.contact position)
        writing (upsertContact · contact)) db = .ok ⟨⟩ (linkContacts db contacts) ∨
      ∃ linked, WritesContacts db linked ∧
        each (contacts.zipIdx position) (fun (contact, position) => do
          reach stop (.contact position)
          writing (upsertContact · contact)) db = .error .interrupted linked := by
  induction contacts generalizing db position with
  | nil => exact .inl rfl
  | cons contact rest ih =>
    rw [List.zipIdx_cons, each, bind_apply]
    dsimp only
    by_cases here : stop = some (.contact position)
    · refine .inr ⟨db, .refl db, ?_⟩
      rw [bind_apply, show reach stop (.contact position) db = .error .interrupted db from if_pos here]
    · rw [bind_apply, show reach stop (.contact position) db = .ok ⟨⟩ db from if_neg here]
      rcases ih (position + 1) (upsertContact db contact) with ran | ⟨linked, writes, failed⟩
      · exact .inl ran
      · exact .inr ⟨linked, (upsertContact_writesContacts db contact).trans writes, failed⟩

theorem linking_uninterrupted (participants : List CallParticipantInput) (callTitle : Option Text) :
    linking resolver none organizationId callId participants callTitle db =
      .ok (resolveAndLinkContacts resolver db organizationId callId participants callTitle).2
        (resolveAndLinkContacts resolver db organizationId callId participants callTitle).1 := by
  have read : (get : Ingest Database) db = .ok db db := rfl
  unfold linking
  rw [bind_apply, reach_none]
  dsimp only
  rw [bind_apply, read]
  dsimp only
  cases found : resolve resolver db organizationId participants callTitle with
  | none =>
    rw [resolveAndLinkContacts_missing callId found]
    rfl
  | some resolution =>
    unfold resolveAndLinkContacts
    rw [found]
    dsimp only
    unfold linkingMatch
    rw [bind_apply, bind_apply, linkedContacts_uninterrupted]
    rfl

theorem linkingHints_uninterrupted (participants : List NormalizedParticipant)
    (accountHints : List Text) :
    linkingHints resolver none organizationId callId participants accountHints db =
      .ok ⟨⟩ (linkCallByProviderAccountHints resolver.cases db organizationId callId participants
        accountHints) := by
  unfold linkingHints linkCallByProviderAccountHints
  cases normalizedHints resolver.cases accountHints with
  | nil => rfl
  | cons first rest => rfl

end

end StoryEngine.Ingestion
