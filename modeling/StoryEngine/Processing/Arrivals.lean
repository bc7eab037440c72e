import StoryEngine.Data.Interleaving
import StoryEngine.Data.JobQueue
import StoryEngine.Ingestion.PersistCall

namespace StoryEngine.Processing

open Accounts Data Ingestion Resolution Schema Statements

/-! # The webhook handlers and the queue

The handlers of Merge, Gong and Grain find the call, store the transcript and enqueue a
job whose id is that of the call.
-/

/-- `process-call:<id>`, or one that the queue makes up. -/
inductive JobId where
  | processCall (callId : RowId)
  | generated (number : Nat)
deriving DecidableEq

abbrev CallJob := Job JobId ProcessCallJob

def callJob (jobId : JobId) (payload : ProcessCallJob) : CallJob where
  id := jobId
  data := payload
  attempts := 3

def enqueueAttempts : Nat := 3

/-- The first calls of `add` may fail; when all of them do, the handler throws. -/
def enqueueProcessCallJob (queue : List CallJob) (jobId : JobId) (payload : ProcessCallJob)
    (failedAdds : Nat) : Option (List CallJob) :=
  if failedAdds < enqueueAttempts then some (addJob queue (callJob jobId payload)) else none

def AllRun (queue : List CallJob) : Prop := ∀ job ∈ queue, job.pending = false

instance (queue : List CallJob) : Decidable (AllRun queue) :=
  inferInstanceAs (Decidable (∀ job ∈ queue, _))

/-- What reaches a handler; the transcript of a Gong or Grain event is fetched from the
provider first. -/
inductive WebhookEvent where
  | recording (organizationId : RowId) (integration : Text) (recording : MergeRecording)
      (now : Date)
  | ready (organizationId : RowId) (provider : CallProvider) (externalId : Text)
      (transcript : Option Text) (now : Date)

def callReady (organizationId : RowId) (gongCallId : Text) (transcript : Option Text)
    (now : Date) : WebhookEvent :=
  .ready organizationId .gong gongCallId transcript now

def recordingReady (organizationId : RowId) (recordingId : Text) (transcript : Option Text)
    (now : Date) : WebhookEvent :=
  .ready organizationId .grain recordingId transcript now

namespace WebhookEvent

def organizationId : WebhookEvent → RowId
  | .recording organizationId .. | .ready organizationId .. => organizationId

def transcript : WebhookEvent → Option Text
  | .recording _ _ recorded _ => recorded.transcript
  | .ready _ _ _ fetched _ => fetched

end WebhookEvent

/-- The call of an event, with the account that the job will get. -/
structure LocatedCall where
  callId : RowId
  accountId : Option RowId

def locateRecording (resolver : Resolver) (organizationId : RowId) (integration : Text)
    (recording : MergeRecording) (now : Date) : Ingest LocatedCall := do
  let call ← upsertCall organizationId (mapIntegrationToProvider resolver.cases integration)
    recording now
  each ((unseen resolver.cases [] recording.participants).map
    (recordedParticipant resolver.cases call.id)) storeParticipant
  let resolution ← resolving resolver organizationId call.id
    (recording.participants.map RecordingParticipant.input) none
  return { callId := call.id, accountId := resolution.map (·.accountId) }

def locateReady (organizationId : RowId) (provider : CallProvider) (externalId : Text)
    (now : Date) : Ingest LocatedCall := fun db =>
  match storedCall db (organizationId, provider, externalId) with
  | some existing => .ok { callId := existing.id, accountId := existing.accountId } db
  | none =>
    (do
      let call ← createCall {
        id := 0, organizationId, provider, externalId := some externalId, occurredAt := now }
      return { callId := call.id, accountId := call.accountId } : Ingest LocatedCall) db

def locate (resolver : Resolver) : WebhookEvent → Ingest LocatedCall
  | .recording organizationId integration recording now =>
    locateRecording resolver organizationId integration recording now
  | .ready organizationId provider externalId _ now =>
    locateReady organizationId provider externalId now

def jobOf (event : WebhookEvent) (located : LocatedCall) : ProcessCallJob where
  callId := located.callId
  organizationId := event.organizationId
  accountId := located.accountId
  hasTranscript := (truthy event.transcript).isSome

def handleEvent (resolver : Resolver) (event : WebhookEvent) : Ingest PUnit := do
  let located ← locate resolver event
  writing (storeTranscript located.callId event.transcript)
  writing (Ingestion.enqueueProcessCallJob (jobOf event located))

theorem handleEvent_recording (resolver : Resolver) (organizationId : RowId) (integration : Text)
    (recording : MergeRecording) (now : Date) :
    handleEvent resolver (.recording organizationId integration recording now) =
      handleRecordingEvent resolver organizationId integration recording now := by
  simp only [handleEvent, locate, locateRecording, handleRecordingEvent, finishRecording,
    bind_assoc, pure_bind]
  rfl

/-! ## Every transcript that arrives is processed

Handlers and the worker take turns: a handler stores its transcript and enqueues the job
of its call afterwards, and a job reads the transcript when an attempt of it starts.
-/

inductive HandlerStage where
  | received
  | located (call : LocatedCall)
  | stored (call : LocatedCall)
  | finished
  | thrown

structure WebhookHandler where
  event : WebhookEvent
  stage : HandlerStage := .received

inductive ProcessingNote where
  | stored (callId : RowId) (fullText : Text)
  | read (callId : RowId) (fullText : Option Text)
deriving DecidableEq

/-- The tables, the queue, and what was stored and read, the last first. -/
structure ProcessingTables where
  db : Database
  queue : List CallJob := []
  history : List ProcessingNote := []

abbrev ProcessingSystem := Interleaved ProcessingTables WebhookHandler

def advanceHandler (resolver : Resolver) (failedAdds : Nat) (tables : ProcessingTables)
    (handler : WebhookHandler) : ProcessingTables × WebhookHandler :=
  match handler.stage with
  | .received =>
    match locate resolver handler.event tables.db with
    | .ok call db => ({ tables with db }, { handler with stage := .located call })
    | .error _ db => ({ tables with db }, { handler with stage := .thrown })
  | .located call =>
    ({ tables with
        db := storeTranscript call.callId handler.event.transcript tables.db
        history := ((truthy handler.event.transcript).map (.stored call.callId)).toList ++
          tables.history },
      { handler with stage := .stored call })
  | .stored call =>
    match enqueueProcessCallJob tables.queue (.processCall call.callId)
        (jobOf handler.event call) failedAdds with
    | some queue => ({ tables with queue }, { handler with stage := .finished })
    | none => (tables, { handler with stage := .thrown })
  | .finished | .thrown => (tables, handler)

def throwHandler (tables : ProcessingTables) (handler : WebhookHandler) :
    ProcessingTables × WebhookHandler :=
  (tables, { handler with stage := .thrown })

def findTranscript (db : Database) (callId : RowId) : Option Text :=
  (db.transcripts.find? (·.callId == callId)).map (·.fullText)

def startJob (tables : ProcessingTables) (jobId : JobId) (reads : Bool) : ProcessingTables :=
  match (findJob tables.queue jobId).filter (·.state == .waiting) with
  | none => tables
  | some job =>
    if reads then
      { tables with
        queue := changeJob tables.queue jobId Job.started
        history := .read job.data.callId (findTranscript tables.db job.data.callId) ::
          tables.history }
    else { tables with queue := changeJob tables.queue jobId fun job => job.started.ended false }

/-- An event reaches its handler, a handler gets on or throws, an attempt of a job starts,
or it ends. -/
inductive ProcessingEvent where
  | receives (event : WebhookEvent)
  | handles (index : Nat) (failedAdds : Nat)
  | throws (index : Nat)
  | starts (jobId : JobId) (reads : Bool)
  | ends (jobId : JobId) (succeeds : Bool)

def processingStep (resolver : Resolver) (system : ProcessingSystem) :
    ProcessingEvent → ProcessingSystem
  | .receives event => { system with processes := system.processes ++ [{ event }] }
  | .handles index failedAdds => turn (advanceHandler resolver failedAdds) system index
  | .throws index => turn throwHandler system index
  | .starts jobId reads => { system with shared := startJob system.shared jobId reads }
  | .ends jobId succeeds =>
    { system with
      shared := { system.shared with
        queue := changeJob system.shared.queue jobId (Job.ended succeeds) } }

def beforeEvents (db : Database) : ProcessingSystem := { shared := { db }, processes := [] }

/-- Every text that was stored for the call is read afterwards, itself or a newer one. -/
def EveryStoreRead (callId : RowId) (history : List ProcessingNote) : Prop :=
  ∀ newer text older, history = newer ++ ProcessingNote.stored callId text :: older →
    ∃ later between readText,
      newer = later ++ ProcessingNote.read callId (some readText) :: between ∧
        .stored callId readText ∈ between ++ [ProcessingNote.stored callId text]

def latestStored (callId : RowId) : List ProcessingNote → Option Text
  | [] => none
  | .stored other text :: older => if other = callId then some text else latestStored callId older
  | .read _ _ :: older => latestStored callId older

def unread (callId : RowId) : List ProcessingNote → Bool
  | [] => false
  | .stored other _ :: older => other == callId || unread callId older
  | .read other _ :: older => other != callId && unread callId older

def ReadsLatest (callId : RowId) : List ProcessingNote → Prop
  | [] => True
  | .stored _ _ :: older => ReadsLatest callId older
  | .read other found :: older =>
    (other = callId → ∀ text, latestStored callId older = some text → found = some text) ∧
      ReadsLatest callId older

section

variable {callId : RowId} {history : List ProcessingNote} {text : Text}

theorem latestStored_append (between older : List ProcessingNote) :
    ∃ latest,
      latestStored callId (between ++ ProcessingNote.stored callId text :: older) = some latest ∧
        .stored callId latest ∈ between ++ [ProcessingNote.stored callId text] := by
  induction between with
  | nil => exact ⟨text, by simp [latestStored], List.mem_singleton.mpr rfl⟩
  | cons note between ih =>
    obtain ⟨latest, found, member⟩ := ih
    cases note with
    | stored other stored =>
      by_cases same : other = callId
      · subst same
        exact ⟨stored, by simp [latestStored], List.mem_cons_self⟩
      · exact ⟨latest, by simp [latestStored, same, found], List.mem_cons_of_mem _ member⟩
    | read other read => exact ⟨latest, found, List.mem_cons_of_mem _ member⟩

theorem unread_split (waits : unread callId history = true) :
    ∃ newer text older, history = newer ++ ProcessingNote.stored callId text :: older ∧
      ∀ found, .read callId found ∉ newer := by
  induction history with
  | nil => cases waits
  | cons note older ih =>
    cases note with
    | stored other stored =>
      by_cases same : other = callId
      · subst same
        exact ⟨[], stored, older, rfl, fun found member => by cases member⟩
      · obtain ⟨newer, text, before, rfl, unseen⟩ := ih (by simpa [unread, same] using waits)
        exact ⟨.stored other stored :: newer, text, before, rfl, by simpa using unseen⟩
    | read other read =>
      have both : other ≠ callId ∧ unread callId older = true := by simpa [unread] using waits
      obtain ⟨newer, text, before, rfl, unseen⟩ := ih both.2
      exact ⟨.read other read :: newer, text, before, rfl,
        by simpa [both.1.symm] using unseen⟩

theorem unread_append {newer older : List ProcessingNote}
    (unseen : ∀ found, .read callId found ∉ newer) :
    unread callId (newer ++ .stored callId text :: older) = true := by
  induction newer with
  | nil => simp [unread]
  | cons note newer ih =>
    have rest := ih fun found member => unseen found (List.mem_cons_of_mem _ member)
    cases note with
    | stored other stored => simp [unread, rest]
    | read other read =>
      have different : other ≠ callId := by
        rintro rfl
        exact unseen read List.mem_cons_self
      simp [unread, rest, different]

theorem ReadsLatest.read_eq {later older : List ProcessingNote} {found : Option Text}
    (reads : ReadsLatest callId (later ++ .read callId found :: older))
    (latest : latestStored callId older = some text) : found = some text := by
  induction later with
  | nil => exact reads.1 rfl text latest
  | cons note later ih =>
    cases note with
    | stored other stored => exact ih reads
    | read other read => exact ih reads.2

theorem everyStoreRead_iff (reads : ReadsLatest callId history) :
    EveryStoreRead callId history ↔ unread callId history = false := by
  constructor
  · intro every
    by_contra waits
    obtain ⟨newer, text, older, split, unseen⟩ := unread_split (by simpa using waits)
    obtain ⟨later, between, readText, rfl, _⟩ := every newer text older split
    exact unseen (some readText) (by simp)
  · intro seen newer text older split
    have present : ∃ found, .read callId found ∈ newer := by
      by_contra absent
      rw [split, unread_append fun found member => absent ⟨found, member⟩] at seen
      cases seen
    obtain ⟨found, member⟩ := present
    obtain ⟨later, between, rfl⟩ := List.append_of_mem member
    obtain ⟨latest, isLatest, stored⟩ := @latestStored_append callId text between older
    have whole : history = later ++ .read callId found :: (between ++ .stored callId text :: older) := by
      rw [split, List.append_assoc, List.cons_append]
    obtain rfl := (whole ▸ reads).read_eq isLatest
    exact ⟨later, between, latest, rfl, stored⟩

end

end StoryEngine.Processing
