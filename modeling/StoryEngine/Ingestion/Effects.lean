import StoryEngine.Resolution.Links

namespace StoryEngine.Ingestion

open Accounts Data Resolution Schema Statements Text

/-! # Ingestion of Merge recordings

The recording handler of the webhook and `ingestRecording` of the API client.
What a statement has written stays when a later one throws.
-/

inductive IngestError where
  | uniqueViolation
  | interrupted

abbrev Ingest (α : Type) := Work IngestError Database α

structure RecordingParticipant where
  email : Option Text := none
  name : Option Text := none
  isOrganizer : Option Bool := none

structure MergeRecording where
  id : Text
  remoteId : Option Text := none
  name : Option Text := none
  recordingUrl : Option Text := none
  duration : Option Nat := none
  startTime : Option Date := none
  participants : List RecordingParticipant := []
  transcript : Option Text := none

/-- `call_org_provider_external`. -/
def callKey (call : Call) : Option (RowId × CallProvider × Text) :=
  call.externalId.map fun externalId => (call.organizationId, call.provider, externalId)

def refreshed (title recordingUrl : Option Text) (duration : Option Nat) (call : Call) : Call :=
  { call with
    title := title.or call.title
    recordingUrl := recordingUrl.or call.recordingUrl
    duration := duration.or call.duration }

def createCall (call : Call) : Ingest Call := fun db =>
  if (callKey call).isSome && db.calls.any (callKey · == callKey call) then
    .error .uniqueViolation db
  else .ok { call with id := db.nextId }
    { db with nextId := db.nextId + 1, calls := db.calls ++ [{ call with id := db.nextId }] }

def recordedCall (organizationId : RowId) (provider : CallProvider) (recording : MergeRecording)
    (now : Date) : Call where
  id := 0
  organizationId
  title := recording.name
  provider
  mergeRecordingId := some recording.id
  externalId := recording.remoteId
  recordingUrl := recording.recordingUrl
  duration := recording.duration
  occurredAt := recording.startTime.getD now

def MergeRecording.refresh (recording : MergeRecording) (call : Call) : Call :=
  refreshed recording.name recording.recordingUrl recording.duration call

def recordedCall? (db : Database) (recording : MergeRecording) : Option Call :=
  db.calls.find? (·.mergeRecordingId == some recording.id)

/-- `call.upsert({ where: { mergeRecordingId } })`. -/
def upsertCall (organizationId : RowId) (provider : CallProvider) (recording : MergeRecording)
    (now : Date) : Ingest Call := fun db =>
  match recordedCall? db recording with
  | some existing => .ok (recording.refresh existing) (updateCall db existing.id recording.refresh)
  | none => createCall (recordedCall organizationId provider recording now) db

def createParticipant (participant : CallParticipant) : Ingest PUnit := fun db =>
  if participant.email.isSome && db.callParticipants.any (participantKey · == participantKey participant)
  then .error .uniqueViolation db
  else .ok ⟨⟩ { db with
    nextId := db.nextId + 1
    callParticipants := db.callParticipants ++ [{ participant with id := db.nextId }] }

/-- `callParticipant.upsert`, under the address of the participant. -/
def upsertParticipant (participant : CallParticipant) : Ingest PUnit := fun db =>
  let same (row : CallParticipant) : Bool := participantKey row == participantKey participant
  if db.callParticipants.any same then
    .ok ⟨⟩ { db with
      callParticipants := updateWhere db.callParticipants same fun row =>
        { row with name := participant.name, isHost := participant.isHost } }
  else createParticipant participant db

def recordedParticipant (cases : CaseMapping) (callId : RowId) (participant : RecordingParticipant) :
    CallParticipant where
  id := 0
  callId
  email := participant.email.map cases.toLowerCase
  name := participant.name
  isHost := participant.isOrganizer.getD false

def transcriptOf (callId : RowId) (fullText : Text) : Transcript where
  callId
  fullText
  wordCount := (splitSpaces fullText).length

def upsertTranscript (transcript : Transcript) (db : Database) : Database :=
  { db with
    transcripts :=
      if db.transcripts.any (·.callId == transcript.callId) then
        updateWhere db.transcripts (·.callId == transcript.callId) fun row =>
          { row with fullText := transcript.fullText, wordCount := transcript.wordCount }
      else db.transcripts ++ [transcript] }

def storeTranscript (callId : RowId) (transcript : Option Text) (db : Database) : Database :=
  match truthy transcript with
  | none => db
  | some fullText => upsertTranscript (transcriptOf callId fullText) db

def enqueueProcessCallJob (job : ProcessCallJob) (db : Database) : Database :=
  { db with processCallJobs := db.processCallJobs ++ [job] }

def resolving (resolver : Resolver) (organizationId callId : RowId)
    (participants : List CallParticipantInput) (callTitle : Option Text) :
    Ingest (Option ResolvedEntity) := fun db =>
  let (linked, resolution) := resolveAndLinkContacts resolver db organizationId callId participants
    callTitle
  .ok resolution linked

def writing (statement : Database → Database) : Ingest PUnit := fun db => .ok ⟨⟩ (statement db)

def RecordingParticipant.input (participant : RecordingParticipant) : CallParticipantInput where
  email := participant.email
  name := participant.name

def finishRecording (resolver : Resolver) (organizationId : RowId) (recording : MergeRecording)
    (call : Call) : Ingest PUnit := do
  let resolution ← resolving resolver organizationId call.id
    (recording.participants.map RecordingParticipant.input) none
  writing (storeTranscript call.id recording.transcript)
  writing (enqueueProcessCallJob {
    callId := call.id
    organizationId
    accountId := resolution.map (·.accountId)
    hasTranscript := (truthy recording.transcript).isSome })

def integrationProviders : List (Text × CallProvider) :=
  [("gong", .gong), ("chorus", .chorus), ("zoom", .zoom), ("google-meet", .googleMeet),
    ("google_meet", .googleMeet), ("teams", .teams), ("microsoft-teams", .teams),
    ("fireflies", .fireflies), ("dialpad", .dialpad), ("aircall", .aircall),
    ("ringcentral", .ringcentral), ("salesloft", .salesloft), ("outreach", .outreach)].map
      fun (name, provider) => (String.toList name, provider)

def mapIntegrationToProvider (cases : CaseMapping) (integration : Text) : CallProvider :=
  ((integrationProviders.find? (·.1 == cases.toLowerCase integration)).map (·.2)).getD .other

def participantText (cases : CaseMapping) (participant : RecordingParticipant) : Text :=
  join ['|'] [cases.toLowerCase (participant.email.getD []), participant.name.getD [],
    if participant.isOrganizer.getD false then ['1'] else ['0']]

def unseen (cases : CaseMapping) (seen : List Text) :
    List RecordingParticipant → List RecordingParticipant
  | [] => []
  | participant :: rest =>
    if participantText cases participant ∈ seen then unseen cases seen rest
    else participant :: unseen cases (participantText cases participant :: seen) rest

def storeParticipant (participant : CallParticipant) : Ingest PUnit :=
  if (truthy participant.email).isSome then upsertParticipant participant
  else createParticipant participant

/-- A retried job of the webhook is told from a new one by its call; here every
delivery enqueues one. -/
def handleRecordingEvent (resolver : Resolver) (organizationId : RowId) (integration : Text)
    (recording : MergeRecording) (now : Date) : Ingest PUnit := do
  let call ← upsertCall organizationId (mapIntegrationToProvider resolver.cases integration) recording
    now
  each ((unseen resolver.cases [] recording.participants).map
    (recordedParticipant resolver.cases call.id)) storeParticipant
  finishRecording resolver organizationId recording call

def ingestRecording (resolver : Resolver) (organizationId : RowId) (recording : MergeRecording)
    (provider : CallProvider) (now : Date) : Ingest PUnit := do
  let call ← upsertCall organizationId provider recording now
  each (recording.participants.map (recordedParticipant resolver.cases call.id)) createParticipant
  finishRecording resolver organizationId recording call

/-! ## What the statements of the ingestion do -/

section

variable {organizationId callId : RowId} {provider : CallProvider} {db stored linked written : Database}
  {row : Call}

structure WritesParticipants (before after : Database) : Prop where
  calls : after.calls = before.calls
  matching : SameMatching before after
  transcripts : after.transcripts = before.transcripts
  processCallJobs : after.processCallJobs = before.processCallJobs
  nextId : before.nextId ≤ after.nextId

theorem WritesParticipants.refl (db : Database) : WritesParticipants db db :=
  ⟨rfl, .refl db, rfl, rfl, Nat.le_refl _⟩

theorem WritesParticipants.trans {before after later : Database}
    (first : WritesParticipants before after) (second : WritesParticipants after later) :
    WritesParticipants before later :=
  ⟨second.calls.trans first.calls, first.matching.trans second.matching, second.transcripts.trans first.transcripts,
    second.processCallJobs.trans first.processCallJobs,
    Nat.le_trans first.nextId second.nextId⟩

theorem createParticipant_writes (participant : CallParticipant) :
    Keeps WritesParticipants (createParticipant participant) := by
  intro db
  unfold createParticipant
  split
  · exact .refl db
  · exact ⟨rfl, ⟨rfl, rfl, rfl⟩, rfl, rfl, Nat.le_succ _⟩

theorem createParticipants_writes (participants : List CallParticipant) :
    Keeps WritesParticipants (each participants createParticipant) :=
  Keeps.each .refl .trans fun participant _ => createParticipant_writes participant

theorem upsertParticipant_writes (participant : CallParticipant) :
    Keeps WritesParticipants (upsertParticipant participant) := by
  intro db
  unfold upsertParticipant
  dsimp only
  split
  · exact ⟨rfl, ⟨rfl, rfl, rfl⟩, rfl, rfl, Nat.le_refl _⟩
  · exact createParticipant_writes participant db

theorem storeParticipant_writes (participant : CallParticipant) :
    Keeps WritesParticipants (storeParticipant participant) := by
  unfold storeParticipant
  split
  · exact upsertParticipant_writes participant
  · exact createParticipant_writes participant

theorem createCall_eq_ok {call created : Call} {written : Database}
    (ran : createCall call db = .ok created written) :
    created = { call with id := db.nextId } ∧
      written = { db with nextId := db.nextId + 1, calls := db.calls ++ [created] } := by
  unfold createCall at ran
  split at ran
  · cases ran
  · obtain ⟨rfl, rfl⟩ := EStateM.Result.ok.inj ran
    exact ⟨rfl, rfl⟩

/-- An upsert refreshes the call that is there or creates one. -/
inductive Upserts (organizationId : RowId) (provider : CallProvider) (recording : MergeRecording)
    (now : Date) (db : Database) : Call → Database → Prop
  | refreshed (existing : Call) (found : recordedCall? db recording = some existing) :
      Upserts organizationId provider recording now db (recording.refresh existing)
        (updateCall db existing.id recording.refresh)
  | created (missing : recordedCall? db recording = none) :
      Upserts organizationId provider recording now db
        { recordedCall organizationId provider recording now with id := db.nextId }
        { db with
          nextId := db.nextId + 1
          calls := db.calls ++
            [{ recordedCall organizationId provider recording now with id := db.nextId }] }

theorem upsertCall_eq_ok
    (ran : upsertCall organizationId provider recording now db = .ok row written) :
    Upserts organizationId provider recording now db row written := by
  unfold upsertCall at ran
  split at ran
  · next existing found =>
      obtain ⟨rfl, rfl⟩ := EStateM.Result.ok.inj ran
      exact .refreshed existing found
  · next missing =>
      obtain ⟨rfl, rfl⟩ := createCall_eq_ok ran
      exact .created missing

theorem upsertCall_error {failure : IngestError}
    (ran : upsertCall organizationId provider recording now db = .error failure written) :
    written = db := by
  unfold upsertCall at ran
  split at ran
  · cases ran
  · unfold createCall at ran
    split at ran
    · exact (EStateM.Result.error.inj ran).2.symm
    · cases ran

def StaysFresh (before after : Database) : Prop :=
  CallsFresh before → CallsFresh after ∧ before.nextId ≤ after.nextId

theorem StaysFresh.refl (db : Database) : StaysFresh db db := fun fresh => ⟨fresh, Nat.le_refl _⟩

theorem StaysFresh.trans {before after later : Database} (first : StaysFresh before after)
    (second : StaysFresh after later) : StaysFresh before later := by
  intro fresh
  obtain ⟨freshBetween, grows⟩ := first fresh
  obtain ⟨freshLater, growsOn⟩ := second freshBetween
  exact ⟨freshLater, Nat.le_trans grows growsOn⟩

theorem StaysFresh.ofRelinks {callId : RowId} (relinks : Relinks callId stored linked) :
    StaysFresh stored linked :=
  fun fresh => ⟨relinks.fresh fresh, relinks.nextId⟩

theorem StaysFresh.ofSameCalls (calls : linked.calls = stored.calls)
    (nextId : stored.nextId ≤ linked.nextId) : StaysFresh stored linked := by
  intro fresh
  refine ⟨fun call member => Nat.lt_of_lt_of_le (fresh call ?_) nextId, nextId⟩
  rwa [← calls]

theorem upsertCall_staysFresh (recording : MergeRecording) (now : Date) :
    Keeps StaysFresh (upsertCall organizationId provider recording now) := by
  intro db fresh
  unfold upsertCall
  split
  · exact ⟨fresh.update rfl (fun _ => rfl) (Nat.le_refl _), Nat.le_refl _⟩
  · unfold createCall
    split
    · exact ⟨fresh, Nat.le_refl _⟩
    · exact ⟨fresh.created rfl rfl (Nat.lt_succ_self _), Nat.le_succ _⟩

theorem storeTranscript_calls {transcript : Option Text} :
    (storeTranscript callId transcript db).calls = db.calls := by
  unfold storeTranscript
  split <;> rfl

theorem storeTranscript_nextId {transcript : Option Text} :
    (storeTranscript callId transcript db).nextId = db.nextId := by
  unfold storeTranscript
  split <;> rfl

def recordingJob (organizationId callId : RowId) (recording : MergeRecording)
    (resolution : Option ResolvedEntity) : ProcessCallJob where
  callId
  organizationId
  accountId := resolution.map (·.accountId)
  hasTranscript := (truthy recording.transcript).isSome

theorem finishRecording_eq (resolver : Resolver) (recording : MergeRecording) :
    finishRecording resolver organizationId recording row db =
      let (linked, resolution) := resolveAndLinkContacts resolver db organizationId row.id
        (recording.participants.map RecordingParticipant.input) none
      .ok ⟨⟩ (enqueueProcessCallJob (recordingJob organizationId row.id recording resolution)
        (storeTranscript row.id recording.transcript linked)) := rfl

end

end StoryEngine.Ingestion
