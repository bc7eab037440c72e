import StoryEngine.Processing.Arrivals

namespace StoryEngine.Processing

open Accounts Data Ingestion Resolution Schema Statements

/-! # Runs of handlers and jobs -/

def jobFinished (callId : RowId) (queue : List CallJob) : Bool :=
  (findJob queue (.processCall callId)).any fun job => !job.pending

def finishesJob (callId : RowId) (queue : List CallJob) : ProcessingEvent → Bool
  | .starts jobId false =>
    jobId == .processCall callId && (findJob queue jobId).any fun job =>
      job.state == .waiting && job.started.lastAttempt false
  | .ends jobId succeeds =>
    jobId == .processCall callId && (findJob queue jobId).any (Job.lastAttempt succeeds)
  | _ => false

def HandlerStage.storesFor (callId : RowId) : HandlerStage → Bool
  | .located call => call.callId == callId
  | _ => false

def WebhookHandler.stores (callId : RowId) (handler : WebhookHandler) : Bool :=
  handler.stage.storesFor callId && (truthy handler.event.transcript).isSome

def storesTranscript (callId : RowId) (system : ProcessingSystem) : ProcessingEvent → Bool
  | .handles index _ => system.processes[index]?.any (WebhookHandler.stores callId)
  | _ => false

/-- No transcript of the call is stored once its job is finished, and the job does not
finish while a stored transcript has not been read. -/
def KeepsUp (callId : RowId) (system : ProcessingSystem) (event : ProcessingEvent) : Prop :=
  (storesTranscript callId system event = true →
    jobFinished callId system.shared.queue = false) ∧
  (finishesJob callId system.shared.queue event = true →
    unread callId system.shared.history = false)

instance (callId : RowId) (system : ProcessingSystem) : DecidablePred (KeepsUp callId system) :=
  fun _ => inferInstanceAs (Decidable (_ ∧ _))

def Lost (callId : RowId) (tables : ProcessingTables) : Prop :=
  unread callId tables.history = true ∧ jobFinished callId tables.queue = true

section

variable {callId : RowId} {queue : List CallJob} {jobId : JobId} {payload : ProcessCallJob}
  {succeeds : Bool}

theorem jobFinished_addJob :
    jobFinished callId (addJob queue (callJob jobId payload)) = jobFinished callId queue := by
  rw [jobFinished, findJob_addJob, jobFinished]
  cases findJob queue (.processCall callId) with
  | some job => rfl
  | none =>
    by_cases same : jobId = .processCall callId
    · simp [callJob, same, Job.pending]
    · simp [callJob, same]

theorem jobFinished_changeJob {change : CallJob → CallJob} (last : CallJob → Bool)
    (kept : ∀ job, (change job).id = job.id)
    (pending : ∀ job, (change job).pending = (job.pending && !last job)) :
    jobFinished callId (changeJob queue jobId change) =
      (jobFinished callId queue ||
        (jobId == .processCall callId && (findJob queue jobId).any last)) := by
  rw [jobFinished, findJob_changeJob kept, jobFinished]
  by_cases same : jobId = .processCall callId
  · subst same
    cases findJob queue (.processCall callId) with
    | none => simp
    | some job => simp [pending]
  · rw [if_neg (Ne.symm same)]
    simp [same]

theorem jobFinished_started :
    jobFinished callId (changeJob queue jobId Job.started) = jobFinished callId queue := by
  rw [jobFinished_changeJob (fun _ => false) (fun _ => Job.started_id) (by simp)]
  simp

theorem jobFinished_ended :
    jobFinished callId (changeJob queue jobId (Job.ended succeeds)) =
      (jobFinished callId queue || finishesJob callId queue (.ends jobId succeeds)) :=
  jobFinished_changeJob (Job.lastAttempt succeeds) (fun _ => Job.ended_id) fun _ => Job.ended_pending

theorem jobFinished_unable {job : CallJob} (found : findJob queue jobId = some job)
    (waiting : job.state = .waiting) :
    jobFinished callId (changeJob queue jobId fun job => job.started.ended false) =
      (jobFinished callId queue || finishesJob callId queue (.starts jobId false)) := by
  rw [jobFinished_changeJob (fun job => job.started.lastAttempt false)
    (fun job => by rw [Job.ended_id, Job.started_id])
    fun job => by rw [Job.ended_pending, Job.started_pending]]
  simp [finishesJob, found, waiting]

end

section

variable {callId : RowId} {tables : ProcessingTables} {handler : WebhookHandler}
  {resolver : Resolver} {failedAdds : Nat} {system : ProcessingSystem} {event : ProcessingEvent}

theorem unread_advanceHandler :
    unread callId (advanceHandler resolver failedAdds tables handler).1.history =
      (unread callId tables.history || handler.stores callId) := by
  obtain ⟨event, stage⟩ := handler
  cases stage with
  | received =>
    simp only [advanceHandler]
    split <;> simp [WebhookHandler.stores, HandlerStage.storesFor]
  | located call =>
    simp only [advanceHandler, WebhookHandler.stores, HandlerStage.storesFor]
    cases truthy event.transcript with
    | none => simp
    | some text => simp [unread, Bool.or_comm]
  | stored call =>
    simp only [advanceHandler]
    split <;> simp [WebhookHandler.stores, HandlerStage.storesFor]
  | finished | thrown => simp [advanceHandler, WebhookHandler.stores, HandlerStage.storesFor]

theorem jobFinished_advanceHandler :
    jobFinished callId (advanceHandler resolver failedAdds tables handler).1.queue =
      jobFinished callId tables.queue := by
  obtain ⟨event, stage⟩ := handler
  cases stage with
  | received =>
    simp only [advanceHandler]
    split <;> rfl
  | located call | finished | thrown => rfl
  | stored call =>
    simp only [advanceHandler, enqueueProcessCallJob]
    by_cases accepted : failedAdds < enqueueAttempts
    · rw [if_pos accepted]
      exact jobFinished_addJob
    · rw [if_neg accepted]

def JobsNamed (queue : List CallJob) : Prop :=
  ∀ job ∈ queue, job.id = .processCall job.data.callId

theorem not_both_or {first second more : Bool} (kept : ¬(first = true ∧ second = true)) :
    ¬(first = true ∧ (second || more) = true) ↔ (more = true → first = false) := by
  cases first <;> cases second <;> cases more <;> simp_all

theorem lost_step_iff (kept : ¬Lost callId system.shared) :
    ¬Lost callId (processingStep resolver system event).shared ↔ KeepsUp callId system event := by
  have untouched (shared : (processingStep resolver system event).shared = system.shared)
      (stores : storesTranscript callId system event = false)
      (finishes : finishesJob callId system.shared.queue event = false) :
      ¬Lost callId (processingStep resolver system event).shared ↔ KeepsUp callId system event := by
    simp [shared, kept, KeepsUp, stores, finishes]
  have finishing
      (history : (processingStep resolver system event).shared.history = system.shared.history)
      (queue : jobFinished callId (processingStep resolver system event).shared.queue =
        (jobFinished callId system.shared.queue || finishesJob callId system.shared.queue event))
      (stores : storesTranscript callId system event = false) :
      ¬Lost callId (processingStep resolver system event).shared ↔ KeepsUp callId system event := by
    rw [Lost, history, queue, not_both_or kept, KeepsUp, stores]
    simp
  cases event with
  | receives event => exact untouched rfl rfl rfl
  | throws index =>
    exact untouched (turn_shared (· = system.shared) rfl fun _ => rfl) rfl rfl
  | handles index failedAdds =>
    cases there : system.processes[index]? with
    | none =>
      refine untouched ?_ (by simp [storesTranscript, there]) rfl
      rw [processingStep, turn_none there]
    | some handler =>
      rw [processingStep, turn_some there, Lost, unread_advanceHandler,
        jobFinished_advanceHandler, And.comm, not_both_or (mt And.symm kept)]
      simp [KeepsUp, storesTranscript, there, finishesJob]
  | starts jobId reads =>
    cases found : (findJob system.shared.queue jobId).filter (·.state == .waiting) with
    | none =>
      have same : startJob system.shared jobId reads = system.shared := by
        rw [startJob, found]
      refine untouched (by rw [processingStep, same]) rfl ?_
      cases reads with
      | true => rfl
      | false =>
        cases isJob : findJob system.shared.queue jobId with
        | none => simp [finishesJob, isJob]
        | some job =>
          have busy : (job.state == .waiting) = false := by simpa [isJob] using found
          simp [finishesJob, isJob, busy]
    | some job =>
      obtain ⟨isJob, waiting⟩ := Option.filter_eq_some_iff.mp found
      cases reads with
      | true =>
        simp only [processingStep, startJob, found, if_true, Lost, jobFinished_started]
        refine ⟨fun _ => ⟨by simp [storesTranscript], by simp [finishesJob]⟩, fun _ lost => ?_⟩
        have waits : job.data.callId ≠ callId ∧ unread callId system.shared.history = true := by
          simpa [unread] using lost.1
        exact kept ⟨waits.2, lost.2⟩
      | false =>
        refine finishing ?_ ?_ rfl
        · simp [processingStep, startJob, found]
        · simp only [processingStep, startJob, found]
          exact jobFinished_unable isJob (by simpa using waiting)
  | ends jobId succeeds => exact finishing rfl jobFinished_ended rfl

end

theorem findTranscript_congr {db written : Database} {callId : RowId}
    (same : written.transcripts = db.transcripts) :
    findTranscript written callId = findTranscript db callId := by
  rw [findTranscript, same, findTranscript]

theorem findTranscript_upsert {db : Database} {other : RowId} {transcript : Transcript} :
    findTranscript (upsertTranscript transcript db) other =
      if other = transcript.callId then some transcript.fullText else findTranscript db other := by
  simp only [findTranscript, upsertTranscript]
  split
  · next known =>
      rw [find?_updateWhere fun row => by rfl]
      cases found : db.transcripts.find? (·.callId == other) with
      | none =>
        split
        · next same =>
            obtain ⟨row, member, isCall⟩ := List.any_eq_true.mp known
            exact absurd (same ▸ isCall) (List.find?_eq_none.mp found row member)
        · rfl
      | some row =>
        have named : row.callId = other := by simpa using List.find?_some found
        simp only [Option.map_some, named, beq_iff_eq]
        split <;> rfl
  · next unknown =>
      rw [List.find?_append, List.find?_singleton]
      by_cases same : other = transcript.callId
      · have missing : db.transcripts.find? (·.callId == other) = none := by
          rw [same]
          simpa using unknown
        simp [same, same ▸ missing]
      · simp [same, Ne.symm same]

theorem findTranscript_store {db : Database} {callId other : RowId} {transcript : Option Text} :
    findTranscript (storeTranscript callId transcript db) other =
      if other = callId then (truthy transcript).or (findTranscript db other)
      else findTranscript db other := by
  unfold storeTranscript
  cases truthy transcript with
  | none => simp
  | some fullText => exact findTranscript_upsert

def SameTranscripts (before after : Database) : Prop := after.transcripts = before.transcripts

theorem SameTranscripts.refl (db : Database) : SameTranscripts db db := Eq.refl db.transcripts

theorem SameTranscripts.trans {db written later : Database} (first : SameTranscripts db written)
    (second : SameTranscripts written later) : SameTranscripts db later :=
  Eq.trans second first

theorem createCall_transcripts (call : Call) : Keeps SameTranscripts (createCall call) := by
  intro db
  unfold createCall
  split <;> exact .refl db

theorem locate_transcripts (resolver : Resolver) (event : WebhookEvent) :
    Keeps SameTranscripts (locate resolver event) := by
  cases event with
  | ready organizationId provider externalId transcript now =>
    intro db
    simp only [locate, locateReady]
    split
    · exact .refl db
    · exact Keeps.bind .trans (createCall_transcripts _) (fun _ => Keeps.pure .refl _) db
  | recording organizationId integration recording now =>
    refine Keeps.bind .trans (fun db => ?_) fun call => Keeps.bind .trans ?_ fun _ =>
      Keeps.bind .trans (fun db => ?_) fun _ => Keeps.pure .refl _
    · unfold upsertCall
      split
      · exact .refl db
      · exact createCall_transcripts _ db
    · exact Keeps.each .refl .trans fun participant _ db =>
        (storeParticipant_writes participant db).transcripts
    · exact resolveAndLinkContacts_relinks.transcripts

structure HistoryFits (callId : RowId) (tables : ProcessingTables) : Prop where
  named : JobsNamed tables.queue
  latest : ∀ text, latestStored callId tables.history = some text →
    findTranscript tables.db callId = some text
  reads : ReadsLatest callId tables.history
  absent : findJob tables.queue (.processCall callId) = none →
    ∀ found, .read callId found ∉ tables.history

section

variable {callId : RowId} {tables : ProcessingTables} {resolver : Resolver}

theorem JobsNamed.change {queue : List CallJob} {jobId : JobId} {change : CallJob → CallJob}
    (named : JobsNamed queue) (id : ∀ job, (change job).id = job.id)
    (data : ∀ job, (change job).data = job.data) : JobsNamed (changeJob queue jobId change) := by
  intro job member
  obtain ⟨old, inQueue, ⟨rfl, _⟩ | ⟨rfl, _⟩⟩ := mem_changeJob member
  · rw [id, data]
    exact named old inQueue
  · exact named job inQueue

theorem HistoryFits.change {jobId : JobId} {change : CallJob → CallJob}
    (fits : HistoryFits callId tables) (id : ∀ job, (change job).id = job.id)
    (data : ∀ job, (change job).data = job.data) :
    HistoryFits callId { tables with queue := changeJob tables.queue jobId change } :=
  { fits with
    named := fits.named.change id data
    absent := fun none => fits.absent ((findJob_changeJob_eq_none id).mp none) }

theorem HistoryFits.advance (fits : HistoryFits callId tables) (failedAdds : Nat)
    (handler : WebhookHandler) :
    HistoryFits callId (advanceHandler resolver failedAdds tables handler).1 := by
  obtain ⟨event, stage⟩ := handler
  cases stage with
  | received =>
    have same := locate_transcripts resolver event tables.db
    have moved {db : Database} (same : SameTranscripts tables.db db) :
        HistoryFits callId { tables with db } :=
      { fits with latest := fun text latest => (findTranscript_congr same).trans (fits.latest text latest) }
    simp only [advanceHandler]
    cases ran : locate resolver event tables.db with
    | ok call db => exact moved (by rwa [ran] at same)
    | error failure db => exact moved (by rwa [ran] at same)
  | located call =>
    refine ⟨fits.named, fun text latest => ?_, ?_, fun none found => ?_⟩
    · simp only [advanceHandler] at latest ⊢
      rw [findTranscript_store]
      cases given : truthy event.transcript with
      | none =>
        rw [given] at latest
        simpa using fits.latest text latest
      | some fullText =>
        simp only [given, Option.map_some, Option.toList_some, List.singleton_append,
          latestStored] at latest
        by_cases same : call.callId = callId
        · rw [if_pos same] at latest
          simpa [same] using latest
        · rw [if_neg same] at latest
          rw [if_neg (Ne.symm same)]
          exact fits.latest text latest
    · simp only [advanceHandler]
      cases truthy event.transcript with
      | none => exact fits.reads
      | some fullText => exact fits.reads
    · have old := fits.absent none found
      simp only [advanceHandler]
      cases truthy event.transcript with
      | none => exact old
      | some fullText => simpa using old
  | stored call =>
    simp only [advanceHandler, enqueueProcessCallJob]
    by_cases accepted : failedAdds < enqueueAttempts
    · rw [if_pos accepted]
      refine { fits with named := fun job member => ?_, absent := fun none => fits.absent ?_ }
      · rcases mem_addJob member with old | rfl
        · exact fits.named job old
        · rfl
      · rw [findJob_addJob, Option.or_eq_none_iff] at none
        exact none.1
    · rw [if_neg accepted]
      exact fits
  | finished | thrown => exact fits

theorem HistoryFits.start (fits : HistoryFits callId tables) (jobId : JobId) (reads : Bool) :
    HistoryFits callId (startJob tables jobId reads) := by
  unfold startJob
  cases found : (findJob tables.queue jobId).filter (·.state == .waiting) with
  | none => exact fits
  | some job =>
    have isJob := (Option.filter_eq_some_iff.mp found).1
    cases reads with
    | false =>
      exact fits.change (fun job => by rw [Job.ended_id, Job.started_id]) fun job => by
        rw [Job.ended_data, Job.started_data]
    | true =>
      have started : HistoryFits callId
          { tables with queue := changeJob tables.queue jobId Job.started } :=
        fits.change (fun _ => Job.started_id) fun _ => Job.started_data
      refine ⟨started.named, fits.latest, ⟨?_, fits.reads⟩, fun none other member => ?_⟩
      · rintro rfl text latest
        exact fits.latest text latest
      · rcases List.mem_cons.mp member with new | old
        · have named : jobId = .processCall callId := by
            rw [← findJob_id isJob, fits.named job (List.mem_of_find?_eq_some isJob),
              (ProcessingNote.read.inj new).1]
          have missing := (findJob_changeJob_eq_none fun _ => Job.started_id).mp none
          rw [← named, isJob] at missing
          cases missing
        · exact started.absent none other old

theorem HistoryFits.step {system : ProcessingSystem} (fits : HistoryFits callId system.shared)
    (event : ProcessingEvent) :
    HistoryFits callId (processingStep resolver system event).shared := by
  cases event with
  | receives event => exact fits
  | handles index failedAdds =>
    exact turn_shared (HistoryFits callId) fits fun handler => fits.advance failedAdds handler
  | throws index => exact turn_shared (HistoryFits callId) fits fun _ => fits
  | starts jobId reads => exact fits.start jobId reads
  | ends jobId succeeds => exact fits.change (fun _ => Job.ended_id) fun _ => Job.ended_data

theorem Lost.step {system : ProcessingSystem} (lost : Lost callId system.shared)
    (named : JobsNamed system.shared.queue) (event : ProcessingEvent) :
    Lost callId (processingStep resolver system event).shared := by
  obtain ⟨waits, finished⟩ := lost
  cases event with
  | receives event => exact ⟨waits, finished⟩
  | handles index failedAdds =>
    refine turn_shared (Lost callId) ⟨waits, finished⟩ fun handler => ⟨?_, ?_⟩
    · rw [unread_advanceHandler, waits, Bool.true_or]
    · rw [jobFinished_advanceHandler, finished]
  | throws index => exact turn_shared (Lost callId) ⟨waits, finished⟩ fun _ => ⟨waits, finished⟩
  | starts jobId reads =>
    simp only [processingStep, startJob]
    cases found : (findJob system.shared.queue jobId).filter (·.state == .waiting) with
    | none => exact ⟨waits, finished⟩
    | some job =>
      obtain ⟨isJob, waiting⟩ := Option.filter_eq_some_iff.mp found
      cases reads with
      | false => exact ⟨waits, by simp [jobFinished_unable isJob (by simpa using waiting), finished]⟩
      | true =>
        have other : job.data.callId ≠ callId := by
          rintro rfl
          have isNamed := named job (List.mem_of_find?_eq_some isJob)
          rw [findJob_id isJob] at isNamed
          have pending : job.pending = true := by simp [Job.pending, eq_of_beq waiting]
          simp [jobFinished, ← isNamed, isJob, pending] at finished
        exact ⟨by simp [unread, other, waits], by simp [jobFinished_started, finished]⟩
  | ends jobId succeeds => exact ⟨waits, by simp [processingStep, jobFinished_ended, finished]⟩

end

theorem unread_of_absent {callId : RowId} {history : List ProcessingNote} {text : Text}
    (unseen : ∀ found, .read callId found ∉ history) (stored : .stored callId text ∈ history) :
    unread callId history = true := by
  obtain ⟨newer, older, rfl⟩ := List.append_of_mem stored
  exact unread_append fun found member => unseen found (List.mem_append_left _ member)

/-- When all accepted jobs have been run, every transcript that was stored for the call
has been read, itself or a newer one, exactly when none was stored after the end of the
call's job nor left unread by its last attempt, and the queue accepted a job at all. -/
theorem transcripts_processed_iff (resolver : Resolver) (db : Database)
    (events : List ProcessingEvent) (callId : RowId)
    (allRun : AllRun (run (processingStep resolver) (beforeEvents db) events).shared.queue) :
    EveryStoreRead callId (run (processingStep resolver) (beforeEvents db) events).shared.history ↔
      Guarded (processingStep resolver) (KeepsUp callId) (beforeEvents db) events ∧
        ∀ text, .stored callId text ∈
            (run (processingStep resolver) (beforeEvents db) events).shared.history →
          (findJob (run (processingStep resolver) (beforeEvents db) events).shared.queue
            (.processCall callId)).isSome := by
  have initial : HistoryFits callId (beforeEvents db).shared := {
    named := fun job member => by cases member
    latest := fun text latest => by cases latest
    reads := trivial
    absent := fun _ found member => by cases member }
  have fits : HistoryFits callId (run (processingStep resolver) (beforeEvents db) events).shared :=
    run_invariant (fun system : ProcessingSystem => HistoryFits callId system.shared)
      (fun _ event fits => fits.step event) events initial
  have guarded : Guarded (processingStep resolver) (KeepsUp callId) (beforeEvents db) events ↔
      ¬Lost callId (run (processingStep resolver) (beforeEvents db) events).shared :=
    guarded_iff_run (fun system : ProcessingSystem => HistoryFits callId system.shared)
      (fun system : ProcessingSystem => ¬Lost callId system.shared) (fun _ event fits => fits.step event)
      (fun _ _ _ kept => lost_step_iff kept)
      (fun _ event fits lost kept => kept ((not_not.mp lost).step fits.named event))
      initial fun lost => by cases lost.1
  generalize run (processingStep resolver) (beforeEvents db) events = system at *
  rw [everyStoreRead_iff fits.reads, guarded]
  constructor
  · intro seen
    refine ⟨fun lost => ?_, fun text stored => ?_⟩
    · rw [lost.1] at seen
      cases seen
    · by_contra missing
      have none : findJob system.shared.queue (.processCall callId) = none := by simpa using missing
      rw [unread_of_absent (fits.absent none) stored] at seen
      cases seen
  · rintro ⟨kept, accepted⟩
    by_contra waits
    have unreadAtEnd : unread callId system.shared.history = true := by simpa using waits
    obtain ⟨newer, text, older, split, _⟩ := unread_split unreadAtEnd
    obtain ⟨job, isJob⟩ := Option.isSome_iff_exists.mp (accepted text (by simp [split]))
    have finished := allRun job (List.mem_of_find?_eq_some isJob)
    exact kept ⟨unreadAtEnd, by simp [jobFinished, isJob, finished]⟩

def handledAndRun (index : Nat) (event : WebhookEvent) : List ProcessingEvent :=
  .receives event :: List.replicate 3 (.handles index 0) ++
    [.starts (.processCall 1) true, .ends (.processCall 1) true]

def recordingThenTranscript : List ProcessingEvent :=
  handledAndRun 0 (callReady 1 ['g'] none 0) ++ handledAndRun 1 (callReady 1 ['g'] (some ['t']) 60)

theorem late_transcript_is_not_read :
    ¬∀ events, AllRun (run (processingStep plainResolver) (beforeEvents {}) events).shared.queue →
      EveryStoreRead 1 (run (processingStep plainResolver) (beforeEvents {}) events).shared.history := by
  intro every
  have history : (run (processingStep plainResolver) (beforeEvents {})
      recordingThenTranscript).shared.history = [.stored 1 ['t'], .read 1 none] := by decide +kernel
  have allRead := every recordingThenTranscript (by decide +kernel)
  rw [history] at allRead
  obtain ⟨later, between, readText, split, _⟩ := allRead [] ['t'] [.read 1 none] rfl
  simp at split

theorem first_transcript_is_read :
    EveryStoreRead 1 (run (processingStep plainResolver) (beforeEvents {})
      (handledAndRun 0 (callReady 1 ['g'] (some ['t']) 0))).shared.history :=
  (transcripts_processed_iff plainResolver {} (handledAndRun 0 (callReady 1 ['g'] (some ['t']) 0)) 1
    (by decide +kernel)).mpr ⟨by decide +kernel, fun _ _ => by decide +kernel⟩

end StoryEngine.Processing
