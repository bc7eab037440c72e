import StoryEngine.Data.Run
import StoryEngine.Ingestion.Participants
import StoryEngine.Ingestion.PersistCall
import StoryEngine.Resolution.Repeats

namespace StoryEngine.Ingestion

open Accounts Data Resolution Schema Statements Text

/-! # Recordings that are delivered again -/

inductive Delivery where
  | webhook (integration : Text) (now : Date)
  | api (provider : CallProvider) (now : Date)

namespace Delivery

def provider (cases : CaseMapping) : Delivery → CallProvider
  | webhook integration _ => mapIntegrationToProvider cases integration
  | api provider _ => provider

def now : Delivery → Date
  | webhook _ now => now
  | api _ now => now

def participants (cases : CaseMapping) (recording : MergeRecording) :
    Delivery → List RecordingParticipant
  | webhook .. => unseen cases [] recording.participants
  | api .. => recording.participants

def creates : Delivery → CallParticipant → Bool
  | webhook .. => fun row => (truthy row.email).isNone
  | api .. => fun _ => true

def rows (cases : CaseMapping) (recording : MergeRecording) (callId : RowId) (delivery : Delivery) :
    List CallParticipant :=
  (delivery.participants cases recording).map (recordedParticipant cases callId)

/-- The participants that a delivery creates: those without an address in a
webhook, and all of them in `ingestRecording`. -/
def created (cases : CaseMapping) (recording : MergeRecording) (delivery : Delivery) :
    List RecordingParticipant :=
  (delivery.participants cases recording).filter
    (delivery.creates ∘ recordedParticipant cases 0)

end Delivery

section

variable (resolver : Resolver) (organizationId : RowId) (recording : MergeRecording)

def deliver : Delivery → Ingest PUnit
  | .webhook integration now => handleRecordingEvent resolver organizationId integration recording now
  | .api provider now => ingestRecording resolver organizationId recording provider now

def deliverTo (db : Database) (delivery : Delivery) : Database :=
  after (deliver resolver organizationId recording delivery db)

def storedRecording (db : Database) : Option (Call × List CallParticipant × Option Transcript) :=
  (recordedCall? db recording).map fun call =>
    (call, participantsOf db call.id, db.transcripts.find? (·.callId == call.id))

/-- Every delivery returns and leaves what the first one has stored. -/
def IngestedOnce (db : Database) (first : Delivery) (rest : List Delivery) : Prop :=
  ∀ taken ∈ trace (deliverTo resolver organizationId recording) db (first :: rest),
    (∃ final, deliver resolver organizationId recording taken.2 taken.1 = .ok ⟨⟩ final) ∧
      storedRecording recording (deliverTo resolver organizationId recording taken.1 taken.2) =
        storedRecording recording (deliverTo resolver organizationId recording db first)

end

def CallFits (organizationId : RowId) (provider : CallProvider) (recording : MergeRecording)
    (db : Database) : Prop :=
  recordedCall? db recording = none → ∀ externalId ∈ recording.remoteId, ∀ call ∈ db.calls,
    callKey call ≠ some (organizationId, provider, externalId)

def callIdOf (db : Database) (recording : MergeRecording) : RowId :=
  ((recordedCall? db recording).map (·.id)).getD db.nextId

/-- The first delivery is not refused, and no later one creates a participant. -/
structure Repeatable (cases : CaseMapping) (organizationId : RowId) (recording : MergeRecording)
    (db : Database) (first : Delivery) (rest : List Delivery) : Prop where
  call : CallFits organizationId (first.provider cases) recording db
  participants : ParticipantsFit (callIdOf db recording) db
    ((first.created cases recording).filterMap fun participant =>
      participant.email.map cases.toLowerCase)
  repeats : ∀ delivery ∈ rest, delivery.created cases recording = []

section

variable {resolver : Resolver} {cases : CaseMapping} {organizationId callId : RowId}
  {provider : CallProvider} {recording : MergeRecording} {now : Date}
  {db called written final : Database} {call : Call}
  {delivery first : Delivery}

theorem Delivery.creates_row (delivery : Delivery) (participant : RecordingParticipant) :
    delivery.creates (recordedParticipant cases callId participant) =
      delivery.creates (recordedParticipant cases 0 participant) := by
  cases delivery <;> rfl

theorem Delivery.rows_created :
    (delivery.rows cases recording callId).filter delivery.creates =
      (delivery.created cases recording).map (recordedParticipant cases callId) := by
  unfold rows created
  rw [List.filter_map]
  refine congrArg _ (List.filter_congr fun participant _ => ?_)
  exact delivery.creates_row participant

theorem Delivery.createdEmails_rows :
    createdEmails delivery.creates (delivery.rows cases recording callId) =
      (delivery.created cases recording).filterMap fun participant =>
        participant.email.map cases.toLowerCase := by
  unfold createdEmails
  rw [rows_created, List.filterMap_map]
  rfl

theorem Delivery.rowsOf : RowsOf delivery.creates callId (delivery.rows cases recording callId) where
  ofCall row member := by
    obtain ⟨participant, _, rfl⟩ := List.mem_map.mp member
    rfl
  apart row member upserted := by
    cases delivery with
    | api provider now => cases upserted
    | webhook integration now =>
      simp only [creates, Option.isNone_eq_false_iff] at upserted
      obtain ⟨email, isEmail⟩ := Option.isSome_iff_exists.mp upserted
      obtain ⟨own, _⟩ := truthy_eq_some.mp isEmail
      refine ⟨email, own, fun inCreated => ?_⟩
      obtain ⟨other, isCreated, isOther⟩ := List.mem_filterMap.mp inCreated
      have notGiven : (truthy other.email).isNone := (List.mem_filter.mp isCreated).2
      rw [isOther, ← own, isEmail] at notGiven
      cases notGiven

theorem deliver_steps (delivery : Delivery) :
    deliver resolver organizationId recording delivery = (do
      let call ← upsertCall organizationId (delivery.provider resolver.cases) recording delivery.now
      each (delivery.rows resolver.cases recording call.id) (writeParticipant delivery.creates)
      finishRecording resolver organizationId recording call) := by
  cases delivery with
  | webhook integration now =>
    have stores : storeParticipant = writeParticipant (Delivery.webhook integration now).creates := by
      funext row
      unfold storeParticipant writeParticipant
      by_cases missing : truthy row.email = none
      · rw [if_neg (by simp [missing]), if_pos (by simp [Delivery.creates, missing])]
      · rw [if_pos (by simpa [Option.isSome_iff_ne_none] using missing),
          if_neg (by simpa [Delivery.creates] using missing)]
    unfold deliver handleRecordingEvent
    rw [stores]
    rfl
  | api provider now => rfl

def linkTo (accountId : Option RowId) (call : Call) : Call :=
  match accountId with
  | none => unmatched call
  | some accountId => { call with accountId := some accountId }

def accountOf (resolver : Resolver) (organizationId : RowId) (recording : MergeRecording)
    (db : Database) : Option RowId :=
  (resolve resolver db organizationId (recording.participants.map RecordingParticipant.input)
    none).map (·.accountId)

def finished (resolver : Resolver) (organizationId : RowId) (recording : MergeRecording) (call : Call)
    (db : Database) : Database :=
  after (finishRecording resolver organizationId recording call db)

theorem linkTo_linkTo (accountId : Option RowId) (call : Call) :
    linkTo accountId (linkTo accountId call) = linkTo accountId call := by
  cases accountId <;> rfl

theorem linkTo_id (accountId : Option RowId) (call : Call) : (linkTo accountId call).id = call.id := by
  cases accountId <;> rfl

theorem refresh_linkTo (accountId : Option RowId) (call : Call) :
    recording.refresh (linkTo accountId call) = linkTo accountId (recording.refresh call) := by
  cases accountId <;> rfl

theorem refresh_refresh (recording : MergeRecording) (call : Call) :
    recording.refresh (recording.refresh call) = recording.refresh call := by
  simp only [MergeRecording.refresh, refreshed, ← Option.or_assoc, Option.or_self]

theorem resolveAndLinkContacts_calls :
    (resolveAndLinkContacts resolver db organizationId callId
      (recording.participants.map RecordingParticipant.input) none).1.calls =
        updateWhere db.calls (·.id == callId)
          (linkTo (accountOf resolver organizationId recording db)) := by
  unfold accountOf
  cases found : resolve resolver db organizationId
      (recording.participants.map RecordingParticipant.input) none with
  | none =>
    rw [resolveAndLinkContacts_missing callId found]
    rfl
  | some resolution =>
    obtain ⟨linked, same, calls⟩ := resolveAndLinkContacts_found callId found
    rw [same]
    exact calls

theorem finished_calls :
    (finished resolver organizationId recording call db).calls =
      updateWhere db.calls (·.id == call.id)
        (linkTo (accountOf resolver organizationId recording db)) := by
  unfold finished
  rw [finishRecording_eq]
  exact storeTranscript_calls.trans resolveAndLinkContacts_calls

variable {transcript : Option Text} {rest : List Delivery}

theorem storeTranscript_callParticipants :
    (storeTranscript callId transcript db).callParticipants = db.callParticipants := by
  unfold storeTranscript
  split <;> rfl

theorem storeTranscript_matching (callId : RowId) (transcript : Option Text) (db : Database) :
    SameMatching db (storeTranscript callId transcript db) := by
  unfold storeTranscript
  split <;> exact ⟨rfl, rfl, rfl⟩

theorem storeTranscript_congr (same : written.transcripts = db.transcripts) :
    (storeTranscript callId transcript written).transcripts =
      (storeTranscript callId transcript db).transcripts := by
  unfold storeTranscript
  split
  · exact same
  · simp only [upsertTranscript, same]

theorem upsertTranscript_again (transcript : Transcript) :
    (upsertTranscript transcript (upsertTranscript transcript db)).transcripts =
      (upsertTranscript transcript db).transcripts := by
  have known : (upsertTranscript transcript db).transcripts.any
      (·.callId == transcript.callId) = true := by
    simp only [upsertTranscript]
    split
    · next known =>
        obtain ⟨row, member, isCall⟩ := List.any_eq_true.mp known
        refine List.any_eq_true.mpr ⟨_, mem_updateWhere.mpr ⟨row, member, .inl ⟨isCall, rfl⟩⟩, isCall⟩
    · simp
  have written : ∀ row ∈ (upsertTranscript transcript db).transcripts,
      (row.callId == transcript.callId) = true →
        { row with fullText := transcript.fullText, wordCount := transcript.wordCount } = row := by
    intro row member isCall
    simp only [upsertTranscript] at member
    split at member
    · obtain ⟨old, _, ⟨_, rfl⟩ | ⟨other, rfl⟩⟩ := mem_updateWhere.mp member
      · rfl
      · rw [other] at isCall
        cases isCall
    · next unknown =>
        rcases List.mem_append.mp member with inOld | isNew
        · exact absurd (List.any_eq_true.mpr ⟨row, inOld, isCall⟩) unknown
        · obtain rfl := List.mem_singleton.mp isNew
          rfl
  generalize upsertTranscript transcript db = stored at known written
  unfold upsertTranscript
  rw [if_pos known]
  exact updateWhere_self written

theorem storeTranscript_again :
    (storeTranscript callId transcript (storeTranscript callId transcript db)).transcripts =
      (storeTranscript callId transcript db).transcripts := by
  unfold storeTranscript
  cases truthy transcript with
  | none => rfl
  | some fullText =>
    exact upsertTranscript_again (transcriptOf callId fullText)

theorem finished_callParticipants :
    (finished resolver organizationId recording call db).callParticipants = db.callParticipants := by
  unfold finished
  rw [finishRecording_eq]
  exact storeTranscript_callParticipants.trans resolveAndLinkContacts_relinks.callParticipants

theorem finished_transcripts :
    (finished resolver organizationId recording call db).transcripts =
      (storeTranscript call.id recording.transcript db).transcripts := by
  unfold finished
  rw [finishRecording_eq]
  exact storeTranscript_congr resolveAndLinkContacts_relinks.transcripts

theorem finished_account :
    accountOf resolver organizationId recording
      (finished resolver organizationId recording call db) =
        accountOf resolver organizationId recording db := by
  have same := (storeTranscript_matching call.id recording.transcript (resolveAndLinkContacts resolver db
    organizationId call.id (recording.participants.map RecordingParticipant.input) none).1).resolve
      resolver organizationId (recording.participants.map RecordingParticipant.input) none
  unfold finished accountOf
  rw [finishRecording_eq]
  exact (congrArg (Option.map (·.accountId)) same).trans (resolve_linked call.id)

theorem recordedCall?_congr (calls : written.calls = db.calls) :
    recordedCall? written recording = recordedCall? db recording := by
  rw [recordedCall?, calls, recordedCall?]

theorem recordedCall?_updated {change : Call → Call}
    (calls : written.calls = updateWhere db.calls (·.id == call.id) change)
    (kept : ∀ call, (change call).mergeRecordingId = call.mergeRecordingId)
    (found : recordedCall? db recording = some call) :
    recordedCall? written recording = some (change call) := by
  unfold recordedCall? at found ⊢
  rw [calls, find?_updateWhere fun row => by rw [kept], found]
  exact congrArg some (if_pos (beq_self_eq_true _))

theorem finished_recorded (found : recordedCall? db recording = some call) :
    recordedCall? (finished resolver organizationId recording call db) recording =
      some (linkTo (accountOf resolver organizationId recording db) call) := by
  refine recordedCall?_updated finished_calls (fun row => ?_) found
  cases accountOf resolver organizationId recording db <;> rfl

theorem deliver_eq_ok :
    deliver resolver organizationId recording delivery db = .ok ⟨⟩ final ↔
      ∃ call called written,
        upsertCall organizationId (delivery.provider resolver.cases) recording delivery.now db =
            .ok call called ∧
          each (delivery.rows resolver.cases recording call.id) (writeParticipant delivery.creates)
            called = .ok ⟨⟩ written ∧
          finished resolver organizationId recording call written = final := by
  rw [deliver_steps]
  simp only [Statements.bind_eq_ok]
  constructor
  · rintro ⟨call, called, upserted, ⟨⟩, written, wrote, ran⟩
    exact ⟨call, called, written, upserted, wrote, (EStateM.Result.ok.inj ran).2⟩
  · rintro ⟨call, called, written, upserted, wrote, rfl⟩
    exact ⟨call, called, upserted, ⟨⟩, written, wrote, rfl⟩

theorem createRecordedCall_fits :
    (∃ call called, createCall (recordedCall organizationId provider recording now) db =
        .ok call called) ↔
      ∀ externalId ∈ recording.remoteId, ∀ call ∈ db.calls,
        callKey call ≠ some (organizationId, provider, externalId) := by
  unfold createCall
  cases given : recording.remoteId with
  | none =>
    have noKey : callKey (recordedCall organizationId provider recording now) = none := by
      simp [callKey, recordedCall, given]
    exact ⟨fun _ => nofun, fun _ => ⟨_, _, if_neg (by simp [noKey])⟩⟩
  | some externalId =>
    have key : callKey (recordedCall organizationId provider recording now) =
        some (organizationId, provider, externalId) := by
      simp [callKey, recordedCall, given]
    simp only [key, Option.isSome_some, Bool.true_and, List.any_eq_true, beq_iff_eq,
      Option.mem_some_iff, forall_eq']
    constructor
    · rintro ⟨call, called, ran⟩ row member taken
      rw [if_pos ⟨row, member, taken⟩] at ran
      cases ran
    · intro free
      exact ⟨_, _, if_neg fun ⟨row, member, taken⟩ => free row member taken⟩

theorem upsertCall_fits (now : Date) :
    (∃ call called, upsertCall organizationId provider recording now db = .ok call called) ↔
      CallFits organizationId provider recording db := by
  unfold upsertCall CallFits
  cases recordedCall? db recording with
  | some existing => exact ⟨fun _ => nofun, fun _ => ⟨_, _, rfl⟩⟩
  | none => exact createRecordedCall_fits.trans (imp_iff_right rfl).symm

/-- The call is found afterwards, with what the recording gives. -/
structure Called (recording : MergeRecording) (db : Database) (call : Call) (called : Database) :
    Prop where
  recorded : recordedCall? called recording = some call
  refreshed : recording.refresh call = call
  id : call.id = callIdOf db recording
  callParticipants : called.callParticipants = db.callParticipants

theorem upsertCall_called
    (ran : upsertCall organizationId provider recording now db = .ok call called) :
    Called recording db call called := by
  cases upsertCall_eq_ok ran with
  | refreshed existing found =>
    exact {
      recorded := recordedCall?_updated rfl (fun _ => rfl) found
      refreshed := refresh_refresh recording existing
      id := by rw [callIdOf, found]; rfl
      callParticipants := rfl }
  | created missing =>
    exact {
      recorded := by
        unfold recordedCall? at missing ⊢
        rw [List.find?_append, missing]
        simp [recordedCall]
      refreshed := by simp [MergeRecording.refresh, Ingestion.refreshed, recordedCall]
      id := by rw [callIdOf, missing]; rfl
      callParticipants := rfl }

theorem Called.fits_iff {emails : List Text} (isCall : Called recording db call called) :
    ParticipantsFit call.id called emails ↔ ParticipantsFit (callIdOf db recording) db emails := by
  rw [← isCall.id]
  refine participantsFit_congr fun email _ => ?_
  rw [HasParticipant, isCall.callParticipants, HasParticipant]

theorem deliver_fits :
    (∃ final, deliver resolver organizationId recording delivery db = .ok ⟨⟩ final) ↔
      CallFits organizationId (delivery.provider resolver.cases) recording db ∧
        ParticipantsFit (callIdOf db recording) db
          ((delivery.created resolver.cases recording).filterMap fun participant =>
            participant.email.map resolver.cases.toLowerCase) := by
  have participants {call : Call} {called : Database} (isCall : Called recording db call called) :
      (∃ written, each (delivery.rows resolver.cases recording call.id)
          (writeParticipant delivery.creates) called = .ok ⟨⟩ written) ↔
        ParticipantsFit (callIdOf db recording) db
          ((delivery.created resolver.cases recording).filterMap fun participant =>
            participant.email.map resolver.cases.toLowerCase) := by
    rw [writeParticipants_eq_ok Delivery.rowsOf, Delivery.createdEmails_rows]
    exact isCall.fits_iff
  rw [← upsertCall_fits delivery.now]
  simp only [deliver_eq_ok]
  constructor
  · rintro ⟨final, call, called, written, upserted, wrote, _⟩
    exact ⟨⟨call, called, upserted⟩, (participants (upsertCall_called upserted)).mp ⟨written, wrote⟩⟩
  · rintro ⟨⟨call, called, upserted⟩, fits⟩
    obtain ⟨written, wrote⟩ := (participants (upsertCall_called upserted)).mpr fits
    exact ⟨_, call, called, written, upserted, wrote, rfl⟩

/-- A recording whose deliveries find everything that they would write. -/
structure Ingested (resolver : Resolver) (organizationId : RowId) (recording : MergeRecording)
    (db : Database) (call : Call) : Prop where
  recorded : recordedCall? db recording = some call
  refreshed : recording.refresh call = call
  linked : linkTo (accountOf resolver organizationId recording db) call = call
  transcribed : (storeTranscript call.id recording.transcript db).transcripts = db.transcripts
  settled : ∀ delivery : Delivery, delivery.created resolver.cases recording = [] →
    ParticipantsSettled (delivery.rows resolver.cases recording call.id) db.callParticipants

theorem Delivery.creates_none (none : delivery.created cases recording = []) :
    ∀ row ∈ delivery.rows cases recording callId, delivery.creates row = false := by
  intro row member
  have noRows : (delivery.rows cases recording callId).filter delivery.creates = [] := by
    rw [rows_created, none]
    rfl
  exact Bool.eq_false_iff.mpr (List.filter_eq_nil_iff.mp noRows row member)

theorem writeParticipants_upserts {rows : List CallParticipant} {creates : CallParticipant → Bool}
    (none : ∀ row ∈ rows, creates row = false) :
    each rows (writeParticipant creates) = each rows upsertParticipant := by
  induction rows with
  | nil => rfl
  | cons row rest ih =>
    have first : writeParticipant creates row = upsertParticipant row :=
      if_neg (Bool.eq_false_iff.mp (none row List.mem_cons_self))
    rw [each, each, first, ih fun other member => none other (List.mem_cons_of_mem _ member)]

theorem Delivery.email_isSome (callId : RowId) (none : delivery.created cases recording = []) :
    ∀ row ∈ delivery.rows cases recording callId, row.email.isSome := by
  intro row member
  obtain ⟨email, own, _⟩ := rowsOf.apart row member (creates_none none row member)
  exact Option.isSome_of_eq_some own

theorem unseen_subset {cases : CaseMapping} {seen : List Text} {participants : List RecordingParticipant} :
    ∀ participant ∈ unseen cases seen participants, participant ∈ participants := by
  induction participants generalizing seen with
  | nil => nofun
  | cons participant rest ih =>
    intro other member
    unfold unseen at member
    split at member
    · exact List.mem_cons_of_mem _ (ih other member)
    · rcases List.mem_cons.mp member with rfl | inRest
      · exact List.mem_cons_self
      · exact List.mem_cons_of_mem _ (ih other inRest)

theorem participants_settle
    (fits : ParticipantsFit callId called ((first.created cases recording).filterMap fun participant =>
      participant.email.map cases.toLowerCase))
    (ran : each (first.rows cases recording callId) (writeParticipant first.creates) called =
      .ok ⟨⟩ written)
    (none : delivery.created cases recording = []) :
    ParticipantsSettled (delivery.rows cases recording callId) written.callParticipants := by
  cases delivery with
  | api provider now =>
    have noRows : (Delivery.api provider now).rows cases recording callId = [] := by
      have noParticipants : recording.participants = [] := by
        simpa [Delivery.created, Delivery.creates, Delivery.participants] using none
      simp [Delivery.rows, Delivery.participants, noParticipants]
    rw [noRows]
    exact ⟨nofun, fun _ _ => rfl⟩
  | webhook integration now =>
    have own := Delivery.email_isSome callId none
    cases first with
    | webhook other earlier =>
      have noneFirst : (Delivery.webhook other earlier).created cases recording = [] := none
      rw [writeParticipants_upserts (Delivery.creates_none noneFirst)] at ran
      exact upserts_settle own ran
    | api provider earlier =>
      have creates : writeParticipant (Delivery.api provider earlier).creates = createParticipant := rfl
      rw [creates] at ran
      refine creates_settle Delivery.rowsOf.ofCall (fun row member => ?_) ?_ ran ?_ own
      · obtain ⟨participant, _, rfl⟩ := List.mem_map.mp member
        rfl
      · have all : createdEmails (Delivery.api provider earlier).creates
            ((Delivery.api provider earlier).rows cases recording callId) =
              ((Delivery.api provider earlier).rows cases recording callId).filterMap (·.email) := by
          have created : ((Delivery.api provider earlier).rows cases recording callId).filter
              (Delivery.api provider earlier).creates =
                (Delivery.api provider earlier).rows cases recording callId :=
            List.filter_eq_self.mpr fun _ _ => rfl
          unfold createdEmails
          rw [created]
        rw [← all, Delivery.createdEmails_rows]
        exact fits
      · intro row member
        obtain ⟨participant, isUnseen, rfl⟩ := List.mem_map.mp member
        exact List.mem_map_of_mem (unseen_subset participant isUnseen)

theorem deliver_ingested
    (ran : deliver resolver organizationId recording delivery db = .ok ⟨⟩ final) :
    ∃ call, Ingested resolver organizationId recording final call := by
  obtain ⟨call, called, written, upserted, wrote, rfl⟩ := deliver_eq_ok.mp ran
  have isCall := upsertCall_called upserted
  have fits := (deliver_fits.mp ⟨_, ran⟩).2
  have writes := (writeParticipants_writes _ _).ok wrote
  have recorded : recordedCall? written recording = some call :=
    (recordedCall?_congr writes.calls).trans isCall.recorded
  refine ⟨linkTo (accountOf resolver organizationId recording written) call, ?_⟩
  exact {
    recorded := finished_recorded recorded
    refreshed := by rw [refresh_linkTo, isCall.refreshed]
    linked := by rw [finished_account, linkTo_linkTo]
    transcribed := by
      rw [linkTo_id, storeTranscript_congr finished_transcripts, storeTranscript_again,
        finished_transcripts]
    settled := fun other none => by
      rw [linkTo_id, finished_callParticipants]
      exact participants_settle (isCall.fits_iff.mpr fits) wrote none }

namespace Ingested

variable (ingested : Ingested resolver organizationId recording db call)
include ingested

theorem stored : storedRecording recording db =
    some (call, participantsOf db call.id, db.transcripts.find? (·.callId == call.id)) := by
  rw [storedRecording, ingested.recorded]
  rfl

theorem upserts : upsertCall organizationId provider recording now db =
    .ok call (updateCall db call.id recording.refresh) := by
  unfold upsertCall
  rw [ingested.recorded]
  dsimp only
  rw [ingested.refreshed]

theorem again (none : delivery.created resolver.cases recording = []) :
    ∃ final, deliver resolver organizationId recording delivery db = .ok ⟨⟩ final ∧
      Ingested resolver organizationId recording final call ∧
        storedRecording recording final = storedRecording recording db := by
  have wrote : each (delivery.rows resolver.cases recording call.id)
      (writeParticipant delivery.creates) (updateCall db call.id recording.refresh) =
        .ok ⟨⟩ (updateCall db call.id recording.refresh) := by
    rw [writeParticipants_upserts (Delivery.creates_none none)]
    exact upserts_settled (ingested.settled delivery none)
  have upserted : upsertCall organizationId (delivery.provider resolver.cases) recording delivery.now db =
      .ok call (updateCall db call.id recording.refresh) := ingested.upserts
  have recorded := (upsertCall_called upserted).recorded
  have ran := deliver_eq_ok.mpr ⟨call, _, _, upserted, wrote, rfl⟩
  have matching : SameMatching db (updateCall db call.id recording.refresh) := ⟨rfl, rfl, rfl⟩
  have account : accountOf resolver organizationId recording
      (updateCall db call.id recording.refresh) = accountOf resolver organizationId recording db := by
    rw [accountOf, matching.resolve, accountOf]
  have untouched : (updateCall db call.id recording.refresh).transcripts = db.transcripts := rfl
  have transcripts : (finished resolver organizationId recording call
      (updateCall db call.id recording.refresh)).transcripts = db.transcripts := by
    rw [finished_transcripts, storeTranscript_congr untouched, ingested.transcribed]
  have next : Ingested resolver organizationId recording (finished resolver organizationId recording
      call (updateCall db call.id recording.refresh)) call := {
    recorded := by rw [finished_recorded recorded, account, ingested.linked]
    refreshed := ingested.refreshed
    linked := by rw [finished_account, account, ingested.linked]
    transcribed := by rw [storeTranscript_congr transcripts, ingested.transcribed, transcripts]
    settled := fun other none => by
      rw [finished_callParticipants]
      exact ingested.settled other none }
  refine ⟨_, ran, next, ?_⟩
  rw [next.stored, ingested.stored, transcripts, participantsOf, finished_callParticipants]
  rfl

theorem creates_nothing (ran : deliver resolver organizationId recording delivery db = .ok ⟨⟩ final)
    (same : storedRecording recording final = storedRecording recording db) :
    delivery.created resolver.cases recording = [] := by
  obtain ⟨last, later⟩ := deliver_ingested ran
  rw [later.stored, ingested.stored] at same
  obtain ⟨sameCall, sameRest⟩ := Prod.mk.inj (Option.some.inj same)
  have participants := (Prod.mk.inj sameRest).1
  obtain ⟨own, called, written, upserted, wrote, rfl⟩ := deliver_eq_ok.mp ran
  rw [ingested.upserts] at upserted
  obtain ⟨rfl, rfl⟩ := EStateM.Result.ok.inj upserted
  have more := writeParticipants_length Delivery.rowsOf wrote
  rw [sameCall, participantsOf, finished_callParticipants] at participants
  rw [participantsOf, participantsOf, participants, Delivery.rows_created, List.length_map] at more
  have before : (updateCall db call.id recording.refresh).callParticipants.filter (·.callId == call.id) =
    participantsOf db call.id := rfl
  rw [before] at more
  exact List.length_eq_zero_iff.mp (by omega)

end Ingested

theorem repeats_iff {stored : Option (Call × List CallParticipant × Option Transcript)}
    (ingested : Ingested resolver organizationId recording db call)
    (isStored : storedRecording recording db = stored) :
    (∀ taken ∈ trace (deliverTo resolver organizationId recording) db rest,
        (∃ final, deliver resolver organizationId recording taken.2 taken.1 = .ok ⟨⟩ final) ∧
          storedRecording recording (deliverTo resolver organizationId recording taken.1 taken.2) =
            stored) ↔
      ∀ delivery ∈ rest, delivery.created resolver.cases recording = [] := by
  induction rest generalizing db with
  | nil => exact ⟨fun _ => nofun, fun _ => nofun⟩
  | cons delivery rest ih =>
    rw [trace, List.forall_mem_cons, List.forall_mem_cons]
    constructor
    · rintro ⟨⟨⟨final, ran⟩, same⟩, later⟩
      have reached : deliverTo resolver organizationId recording db delivery = final := by
        rw [deliverTo, ran]
        rfl
      dsimp only at same
      rw [reached] at same later
      have none := ingested.creates_nothing ran (same.trans isStored.symm)
      obtain ⟨next, ranNext, kept, sameNext⟩ := ingested.again none
      dsimp only at ran
      rw [ranNext] at ran
      obtain ⟨_, rfl⟩ := EStateM.Result.ok.inj ran
      exact ⟨none, (ih kept same).mp later⟩
    · rintro ⟨none, later⟩
      obtain ⟨final, ran, kept, same⟩ := ingested.again none
      have reached : deliverTo resolver organizationId recording db delivery = final := by
        rw [deliverTo, ran]
        rfl
      dsimp only
      rw [reached]
      exact ⟨⟨⟨final, ran⟩, same.trans isStored⟩, (ih kept (same.trans isStored)).mpr later⟩

theorem ingestedOnce_iff :
    IngestedOnce resolver organizationId recording db first rest ↔
      Repeatable resolver.cases organizationId recording db first rest := by
  have reached {final : Database} (ran : deliver resolver organizationId recording first db =
      .ok ⟨⟩ final) : deliverTo resolver organizationId recording db first = final := by
    rw [deliverTo, ran]
    rfl
  rw [IngestedOnce, trace, List.forall_mem_cons]
  constructor
  · rintro ⟨⟨⟨final, ran⟩, _⟩, later⟩
    obtain ⟨call, ingested⟩ := deliver_ingested ran
    obtain ⟨callFits, participantsFit⟩ := deliver_fits.mp ⟨final, ran⟩
    rw [reached ran] at later
    exact ⟨callFits, participantsFit, (repeats_iff ingested rfl).mp later⟩
  · rintro ⟨callFits, participantsFit, repeats⟩
    obtain ⟨final, ran⟩ := deliver_fits.mpr ⟨callFits, participantsFit⟩
    obtain ⟨call, ingested⟩ := deliver_ingested ran
    refine ⟨⟨⟨final, ran⟩, rfl⟩, ?_⟩
    rw [reached ran]
    exact (repeats_iff ingested rfl).mpr repeats

end

structure CallRowsFresh (db : Database) : Prop where
  callParticipants : ∀ row ∈ db.callParticipants, row.callId < db.nextId
  transcripts : ∀ transcript ∈ db.transcripts, transcript.callId < db.nextId

section

variable {resolver : Resolver} {organizationId callId : RowId} {provider : CallProvider}
  {call : NormalizedCall} {db : Database}

theorem createCall_missing
    (missing : storedCall db (call.key organizationId provider) = none) :
    createCall (call.newCall organizationId provider) db =
      .ok { call.newCall organizationId provider with id := db.nextId }
        { db with
          nextId := db.nextId + 1
          calls := db.calls ++ [{ call.newCall organizationId provider with id := db.nextId }] } := by
  have free : db.calls.any (callKey · == callKey (call.newCall organizationId provider)) = false := by
    refine List.any_eq_false.mpr fun row member => ?_
    exact List.find?_eq_none.mp missing row member
  unfold createCall
  rw [free, Bool.and_false]
  rfl

theorem newParticipants_fit (fresh : CallRowsFresh db) {calls : List Call} {nextId : RowId} :
    (∃ final, each (call.participants.map (NormalizedParticipant.row db.nextId)) createParticipant
        { db with calls, nextId } = .ok ⟨⟩ final) ↔
      (call.participants.filterMap (·.email)).Nodup := by
  have rowsOf : RowsOf (fun _ => true) db.nextId
      (call.participants.map (NormalizedParticipant.row db.nextId)) := by
    refine ⟨fun row member => ?_, fun _ _ upserted => nomatch upserted⟩
    obtain ⟨participant, _, rfl⟩ := List.mem_map.mp member
    rfl
  have emails : createdEmails (fun _ => true)
      (call.participants.map (NormalizedParticipant.row db.nextId)) =
        call.participants.filterMap (·.email) := by
    unfold createdEmails
    rw [List.filter_eq_self.mpr fun _ _ => rfl, List.filterMap_map]
    rfl
  refine (writeParticipants_eq_ok rowsOf).trans ?_
  rw [emails]
  refine ⟨fun fits => fits.distinct, fun distinct => ⟨distinct, fun email _ known => ?_⟩⟩
  obtain ⟨row, member, isNew, _⟩ := known
  exact absurd isNew (Nat.ne_of_lt (fresh.callParticipants row member))

theorem createTranscript_new (fresh : CallRowsFresh db) {written : Database} (fullText : Text)
    (same : written.transcripts = db.transcripts) :
    ∃ final, createTranscript db.nextId fullText written = .ok ⟨⟩ final := by
  refine ⟨_, if_neg ?_⟩
  rw [same, List.any_eq_true]
  rintro ⟨transcript, member, isNew⟩
  exact absurd (beq_iff_eq.mp isNew) (Nat.ne_of_lt (fresh.transcripts transcript member))

theorem storeCall_missing (fresh : CallRowsFresh db)
    (missing : storedCall db (call.key organizationId provider) = none) :
    (∃ result stored, storeCall organizationId provider call db = .ok result stored) ↔
      ∃ final, each (call.participants.map (NormalizedParticipant.row db.nextId)) createParticipant
        { db with
          nextId := db.nextId + 1
          calls := db.calls ++ [{ call.newCall organizationId provider with id := db.nextId }] } =
            .ok ⟨⟩ final := by
  have creates := createCall_missing missing
  constructor
  · rintro ⟨result, stored, ran⟩
    have body := transaction_eq_ok.mp ran
    dsimp only at body
    split at body
    case h_1 existing found => exact nomatch missing.symm.trans found
    case h_2 =>
      obtain ⟨created, withCall, ranCreate, rest⟩ := bind_eq_ok.mp body
      obtain ⟨⟨⟩, withParticipants, writes, _⟩ := bind_eq_ok.mp rest
      rw [creates] at ranCreate
      obtain ⟨rfl, rfl⟩ := EStateM.Result.ok.inj ranCreate
      exact ⟨withParticipants, writes⟩
  · rintro ⟨withParticipants, writes⟩
    have same := ((createParticipants_writes _).ok writes).transcripts
    cases given : truthy call.transcript with
    | none =>
      refine ⟨({ call.newCall organizationId provider with id := db.nextId }, false),
        withParticipants, transaction_eq_ok.mpr ?_⟩
      dsimp only
      split
      case h_1 existing found => exact nomatch missing.symm.trans found
      case h_2 =>
        refine bind_eq_ok.mpr ⟨_, _, creates, bind_eq_ok.mpr ⟨⟨⟩, withParticipants, writes, ?_⟩⟩
        simp only [given]
        rfl
    | some fullText =>
      obtain ⟨final, transcribed⟩ := createTranscript_new fresh fullText same
      refine ⟨({ call.newCall organizationId provider with id := db.nextId }, true), final,
        transaction_eq_ok.mpr ?_⟩
      dsimp only
      split
      case h_1 existing found => exact nomatch missing.symm.trans found
      case h_2 =>
        refine bind_eq_ok.mpr ⟨_, _, creates, bind_eq_ok.mpr ⟨⟨⟩, withParticipants, writes, ?_⟩⟩
        simp only [given]
        exact bind_eq_ok.mpr ⟨⟨⟩, final, transcribed, rfl⟩

theorem storeCall_fits (fresh : CallRowsFresh db) :
    (∃ result stored, storeCall organizationId provider call db = .ok result stored) ↔
      (storedCall db (call.key organizationId provider)).isSome ∨
        (call.participants.filterMap (·.email)).Nodup := by
  cases known : storedCall db (call.key organizationId provider) with
  | none =>
    rw [storeCall_missing fresh known, newParticipants_fit fresh]
    simp
  | some existing =>
    refine ⟨fun _ => .inl rfl, fun _ => ?_⟩
    let refresh := refreshed call.title call.recordingUrl call.duration
    refine ⟨(refresh existing, false), updateCall db existing.id refresh, transaction_eq_ok.mpr ?_⟩
    dsimp only
    split
    case h_1 other found =>
      obtain rfl := Option.some.inj (known.symm.trans found)
      rfl
    case h_2 missing => exact nomatch known.symm.trans missing

theorem linkCall_returns (resolver : Resolver) (organizationId callId : RowId) (call : NormalizedCall)
    (db : Database) :
    ∃ linked, linkCall resolver none organizationId callId call db = .ok ⟨⟩ linked := by
  unfold linkCall
  rw [bind_apply, linking_uninterrupted]
  dsimp only
  split
  · exact ⟨_, linkingHints_uninterrupted _ _⟩
  · exact ⟨_, rfl⟩

theorem persistCall_fits (fresh : CallRowsFresh db) :
    (∃ final, persistCall resolver organizationId provider call none db = .ok ⟨⟩ final) ↔
      (storedCall db (call.key organizationId provider)).isSome ∨
        (call.participants.filterMap (·.email)).Nodup := by
  rw [← storeCall_fits fresh]
  unfold persistCall
  simp only [Statements.bind_eq_ok]
  constructor
  · rintro ⟨final, ⟨⟩, started, reached, result, stored, ran, _⟩
    rw [reach_none] at reached
    obtain ⟨_, rfl⟩ := EStateM.Result.ok.inj reached
    exact ⟨result, stored, ran⟩
  · rintro ⟨⟨row, hasTranscript⟩, stored, ran⟩
    obtain ⟨linked, links⟩ := linkCall_returns resolver organizationId row.id call stored
    cases hasTranscript with
    | false => exact ⟨linked, ⟨⟩, db, rfl, _, stored, ran, ⟨⟩, linked, links, rfl⟩
    | true => exact ⟨_, ⟨⟩, db, rfl, _, stored, ran, ⟨⟩, linked, links, rfl⟩

/-- Recordings are ingested once exactly when the first delivery fits and the later ones
create no participant; a call of the sync is stored exactly when it is there already or
its participants have distinct addresses. -/
theorem recordings_ingested_iff (resolver : Resolver) (organizationId : RowId)
    (recording : MergeRecording) (first : Delivery) (rest : List Delivery) (provider : CallProvider)
    (call : NormalizedCall) (db : Database) (fresh : CallRowsFresh db) :
    (IngestedOnce resolver organizationId recording db first rest ↔
        Repeatable resolver.cases organizationId recording db first rest) ∧
      ((∃ final, persistCall resolver organizationId provider call none db = .ok ⟨⟩ final) ↔
        (storedCall db (call.key organizationId provider)).isSome ∨
          (call.participants.filterMap (·.email)).Nodup) :=
  ⟨ingestedOnce_iff, persistCall_fits fresh⟩

end

def recordingOf (participants : List RecordingParticipant) : MergeRecording where
  id := ['r']
  participants

def invited : RecordingParticipant where
  email := some ['x', '@', 'a', '.', 'b']

def dialedIn : RecordingParticipant where
  name := some ['x']

def callOf (participants : List NormalizedParticipant) : NormalizedCall where
  externalId := ['7']
  participants

theorem emptyRows_fresh : CallRowsFresh {} := ⟨nofun, nofun⟩

theorem invited_is_ingested_once :
    IngestedOnce plainResolver 1 (recordingOf [invited, invited]) {} (.webhook [] 5)
        [.webhook [] 6, .webhook [] 7] ∧
      ∃ final, persistCall plainResolver 1 .gong (callOf [{ email := invited.email }]) none {} =
        .ok ⟨⟩ final := by
  have once := recordings_ingested_iff plainResolver 1 (recordingOf [invited, invited])
    (.webhook [] 5) [.webhook [] 6, .webhook [] 7] .gong (callOf [{ email := invited.email }]) {}
    emptyRows_fresh
  refine ⟨once.1.mpr ⟨fun _ => nofun, ⟨by decide, fun _ _ => ?_⟩, by decide⟩,
    once.2.mpr (.inr (by decide))⟩
  rintro ⟨row, member, _⟩
  cases member

/-- A participant without an address is written again by a second webhook, one with an
address stops a second `ingestRecording`, and a repeated address stops `persistCall`. -/
theorem dialed_in_is_written_again :
    ¬ IngestedOnce plainResolver 1 (recordingOf [dialedIn]) {} (.webhook [] 5) [.webhook [] 6] ∧
      ¬ IngestedOnce plainResolver 1 (recordingOf [invited]) {} (.api .zoom 5) [.api .zoom 6] ∧
        ¬ ∃ final, persistCall plainResolver 1 .gong
          (callOf [{ email := invited.email }, { email := invited.email }]) none {} =
            .ok ⟨⟩ final := by
  refine ⟨fun once => ?_, fun once => ?_, fun stored => ?_⟩
  · have none := (ingestedOnce_iff.mp once).repeats _ (List.mem_singleton_self _)
    exact absurd none (by decide)
  · have none := (ingestedOnce_iff.mp once).repeats _ (List.mem_singleton_self _)
    exact absurd none (by decide)
  · exact absurd ((persistCall_fits emptyRows_fresh).mp stored) (by decide)

end StoryEngine.Ingestion
