import StoryEngine.Data.Run
import StoryEngine.Ingestion.PersistCall

namespace StoryEngine.Ingestion

open Accounts Data Resolution Schema Statements Text

/-! # Manual assignments

A person assigns a call to an account; afterwards the sync, the webhook and the
API client process the same call again.
-/

structure CallLink where
  accountId : Option RowId
  matchMethod : MatchMethod
  matchConfidence : Nat

def callLink (call : Call) : CallLink where
  accountId := call.accountId
  matchMethod := call.matchMethod
  matchConfidence := call.matchConfidence

def linkOf (db : Database) (callId : RowId) : Option CallLink :=
  (db.calls.find? (·.id == callId)).map callLink

inductive AssignmentAction where
  | resolveCall (callId accountId organizationId : RowId)
  | persistCall (organizationId : RowId) (provider : CallProvider) (call : NormalizedCall)
      (stop : Option PersistStep)
  | handleRecordingEvent (organizationId : RowId) (integration : Text)
      (recording : MergeRecording) (now : Date)
  | ingestRecording (organizationId : RowId) (recording : MergeRecording)
      (provider : CallProvider) (now : Date)
  /-- Whatever else people and services do. -/
  | elsewhere (after : Database)

def AssignmentAction.automatic : AssignmentAction → Bool
  | .persistCall .. | .handleRecordingEvent .. | .ingestRecording .. => true
  | .resolveCall .. | .elsewhere _ => false

section

variable (resolver : Resolver)

def assignmentStep (db : Database) : AssignmentAction → Database
  | .resolveCall callId accountId organizationId =>
    match Resolution.resolveCall resolver.cases db callId accountId organizationId with
    | .ok later => later
    | .error _ => db
  | .persistCall organizationId provider call stop =>
    after (Ingestion.persistCall resolver organizationId provider call stop db)
  | .handleRecordingEvent organizationId integration recording now =>
    after (Ingestion.handleRecordingEvent resolver organizationId integration recording now db)
  | .ingestRecording organizationId recording provider now =>
    after (Ingestion.ingestRecording resolver organizationId recording provider now db)
  | .elsewhere later => if CallsFresh later then later else db

def KeepsManual (before after : Database) : Prop :=
  ∀ callId link, linkOf before callId = some link → link.matchMethod = .manual →
    linkOf after callId = some link

/-- A call that a person assigned is resolved to the account it is assigned to. -/
def FindsAssigned (db : Database) (organizationId : RowId) (existing : Option Call)
    (participants : List CallParticipantInput) (callTitle : Option Text) : Prop :=
  ∀ call ∈ existing, ∀ link ∈ linkOf db call.id, link.matchMethod = .manual →
    ∃ resolution ∈ resolve resolver db organizationId participants callTitle,
      link.accountId = some resolution.accountId

def AgreesWithAssignment (db : Database) : AssignmentAction → Prop
  | .persistCall organizationId provider call _ =>
    FindsAssigned resolver db organizationId (storedCall db (call.key organizationId provider))
      (call.participants.map NormalizedParticipant.input) call.title
  | .handleRecordingEvent organizationId _ recording _
  | .ingestRecording organizationId recording _ _ =>
    FindsAssigned resolver db organizationId (recordedCall? db recording)
      (recording.participants.map RecordingParticipant.input) none
  | .resolveCall .. | .elsewhere _ => True

end

section

variable {resolver : Resolver} {stop : Option PersistStep} {organizationId callId id : RowId}
  {db written later : Database} {link : CallLink} {resolution : ResolvedEntity}

theorem linkOf_sameCalls (calls : written.calls = db.calls) : linkOf written id = linkOf db id := by
  rw [linkOf, linkOf, calls]

theorem linkOf_update {change : Call → Call}
    (calls : written.calls = updateWhere db.calls (·.id == callId) change)
    (kept : ∀ call, (change call).id = call.id) :
    linkOf written id = (db.calls.find? (·.id == id)).map fun call =>
      callLink (if id = callId then change call else call) := by
  rw [linkOf, calls, find?_updateWhere (fun call => by rw [kept]), Option.map_map]
  cases found : db.calls.find? (·.id == id) with
  | none => rfl
  | some call =>
    have isCall : call.id = id := by simpa using List.find?_some found
    simp only [Option.map_some, Function.comp_apply, isCall, beq_iff_eq]

theorem linkOf_relinks (relinks : Relinks callId db written) (other : id ≠ callId) :
    linkOf written id = linkOf db id := by
  obtain ⟨change, relabels, calls⟩ := relinks.calls
  rw [linkOf_update calls (relabels.column Call.id fun _ => rfl)]
  simp only [if_neg other]
  rfl

def HoldsLink (callId : RowId) (link : CallLink) (before after : Database) : Prop :=
  linkOf before callId = some link → linkOf after callId = some link

theorem HoldsLink.refl (db : Database) : HoldsLink callId link db db := id

theorem HoldsLink.trans (first : HoldsLink callId link db written)
    (second : HoldsLink callId link written later) : HoldsLink callId link db later :=
  second ∘ first

theorem HoldsLink.ofSameCalls (calls : written.calls = db.calls) :
    HoldsLink callId link db written :=
  fun known => (linkOf_sameCalls calls).trans known

theorem HoldsLink.ofContacts (writes : WritesContacts db written) :
    HoldsLink callId link db written := by
  obtain ⟨_, _, _, rfl⟩ := writes
  exact .refl _

theorem HoldsLink.ofAccount {accountId : Option RowId} (same : link.accountId = accountId)
    (calls : written.calls =
      updateWhere db.calls (·.id == callId) fun call => { call with accountId }) :
    HoldsLink callId link db written := by
  intro known
  rw [linkOf_update calls fun _ => rfl]
  obtain ⟨call, found, isLink⟩ := Option.map_eq_some_iff.mp known
  rw [found, Option.map_some, if_pos rfl, ← isLink]
  rw [← isLink] at same
  subst same
  rfl

theorem linkingMatch_holds (participants : List CallParticipantInput)
    (assigned : link.accountId = some resolution.accountId) :
    Keeps (HoldsLink callId link) (linkingMatch resolver stop callId participants resolution) :=
  linkingMatch_keeps .refl .trans .ofContacts (fun _ => .ofAccount assigned rfl) participants

theorem linkCall_found {call : NormalizedCall}
    (found : resolve resolver db organizationId (call.participants.map NormalizedParticipant.input)
      call.title = some resolution) :
    linkCall resolver stop organizationId callId call db =
      (do reach stop .resolution
          linkingMatch resolver stop callId (call.participants.map NormalizedParticipant.input)
            resolution) db := by
  have read : (get : Ingest Database) db = .ok db db := rfl
  unfold linkCall linking
  simp only [bind_apply, reach]
  by_cases early : stop = some .resolution
  · simp [early]
  · simp only [if_neg early, read, found, bind_apply]
    cases linkingMatch resolver stop callId (call.participants.map NormalizedParticipant.input)
      resolution db <;> rfl

theorem linkCall_holds {call : NormalizedCall}
    (found : resolve resolver db organizationId (call.participants.map NormalizedParticipant.input)
      call.title = some resolution) (assigned : link.accountId = some resolution.accountId) :
    HoldsLink callId link db (after (linkCall resolver stop organizationId callId call db)) := by
  rw [linkCall_found found]
  exact Keeps.bind .trans (reach_keeps .refl _) (fun _ => linkingMatch_holds _ assigned) db

theorem enqueueTranscript_holds : Keeps (HoldsLink id link) (enqueueTranscript stop organizationId callId) := by
  intro db
  obtain ⟨failure, failed⟩ | ⟨job, _, ran⟩ := enqueueTranscript_cases stop organizationId callId db
  · rw [failed]
    exact .refl db
  · rw [ran]
    exact .ofSameCalls rfl

end

section

variable {resolver : Resolver} {stop : Option PersistStep} {organizationId callId : RowId}
  {provider : CallProvider} {call : NormalizedCall} {db stored : Database} {row : Call}
  {hasTranscript : Bool} {link : CallLink}

theorem linkOf_fresh (fresh : CallsFresh db) : linkOf db db.nextId = none := by
  rw [linkOf, Option.map_eq_none_iff, List.find?_eq_none]
  intro other member
  simpa using Nat.ne_of_lt (fresh other member)

theorem linkOf_created {created : Call} (calls : stored.calls = db.calls ++ [created])
    (known : linkOf db callId = some link) : linkOf stored callId = some link := by
  obtain ⟨other, found, isLink⟩ := Option.map_eq_some_iff.mp known
  rw [linkOf, calls, List.find?_append, found, Option.some_or, Option.map_some, isLink]

theorem linkOf_refreshed {title recordingUrl : Option Text} {duration : Option Nat} {id : RowId} :
    linkOf (updateCall db id (refreshed title recordingUrl duration)) callId = linkOf db callId := by
  have sameLink (other : Call) :
      callLink (if callId = id then refreshed title recordingUrl duration other else other) =
        callLink other := by
    split <;> rfl
  have calls : (updateCall db id (refreshed title recordingUrl duration)).calls =
      updateWhere db.calls (·.id == id) (refreshed title recordingUrl duration) := rfl
  rw [linkOf_update calls fun _ => rfl]
  simp only [sameLink]
  rfl

theorem Stores.holds (stores : Stores organizationId provider call db row hasTranscript stored) :
    HoldsLink callId link db stored := by
  intro known
  cases stores with
  | refreshed existing found => rwa [linkOf_refreshed]
  | created _ missing creates => exact linkOf_created creates.calls known

theorem Stores.matching (stores : Stores organizationId provider call db row hasTranscript stored) :
    SameMatching db stored := by
  cases stores with
  | refreshed existing found => exact ⟨rfl, rfl, rfl⟩
  | created _ missing creates => exact creates.matching

theorem Stores.existing (stores : Stores organizationId provider call db row hasTranscript stored)
    (fresh : CallsFresh db) (known : linkOf db row.id = some link) :
    ∃ existing ∈ storedCall db (call.key organizationId provider), existing.id = row.id := by
  cases stores with
  | refreshed existing found => exact ⟨existing, found, rfl⟩
  | created _ missing creates =>
    have unknown : linkOf db db.nextId = none := linkOf_fresh fresh
    have none : linkOf db db.nextId = some link := known
    rw [unknown] at none
    cases none

theorem persistCall_keepsManual (fresh : CallsFresh db)
    (agrees : AgreesWithAssignment resolver db (.persistCall organizationId provider call stop)) :
    KeepsManual db (after (persistCall resolver organizationId provider call stop db)) := by
  intro callId link known manual
  unfold persistCall
  rw [bind_apply]
  by_cases early : stop = some .transaction
  · rw [show reach stop .transaction db = .error .interrupted db from if_pos early]
    exact known
  rw [show reach stop .transaction db = .ok ⟨⟩ db from if_neg early]
  dsimp only
  rw [bind_apply]
  cases ran : storeCall organizationId provider call db with
  | error failure written =>
    obtain rfl := storeCall_error ran
    exact known
  | ok result stored =>
    obtain ⟨row, hasTranscript⟩ := result
    have stores := storeCall_eq_ok ran
    refine (?_ : HoldsLink callId link stored _) (stores.holds known)
    refine Keeps.bind_at .trans ?_ fun _ => ?_
    · by_cases own : callId = row.id
      · subst own
        obtain ⟨existing, found, same⟩ := stores.existing fresh known
        obtain ⟨resolution, isFound, assigned⟩ :=
          agrees existing found link (same ▸ known) manual
        exact linkCall_holds ((stores.matching.resolve _ _ _ _).trans isFound) assigned
      · intro before
        rwa [linkOf_relinks (linkCall_relinks call stored) own]
    · split
      · exact enqueueTranscript_holds
      · exact .pure .refl _

end

section

variable {resolver : Resolver} {organizationId callId : RowId} {provider : CallProvider}
  {recording : MergeRecording} {now : Date} {db written : Database} {row : Call} {link : CallLink}

theorem Upserts.holds (upserts : Upserts organizationId provider recording now db row written) :
    HoldsLink callId link db written := by
  intro known
  cases upserts with
  | refreshed existing found =>
    have same : linkOf (updateCall db existing.id recording.refresh) callId = linkOf db callId :=
      linkOf_refreshed
    rwa [same]
  | created missing => exact linkOf_created rfl known

theorem Upserts.matching (upserts : Upserts organizationId provider recording now db row written) :
    SameMatching db written := by
  cases upserts with
  | refreshed existing found => exact ⟨rfl, rfl, rfl⟩
  | created missing => exact ⟨rfl, rfl, rfl⟩

theorem Upserts.existing (upserts : Upserts organizationId provider recording now db row written)
    (fresh : CallsFresh db) (known : linkOf db row.id = some link) :
    ∃ existing ∈ recordedCall? db recording, existing.id = row.id := by
  cases upserts with
  | refreshed existing found => exact ⟨existing, found, rfl⟩
  | created missing =>
    have unknown : linkOf db db.nextId = none := linkOf_fresh fresh
    have none : linkOf db db.nextId = some link := known
    rw [unknown] at none
    cases none

theorem finishRecording_holds {resolution : ResolvedEntity}
    (found : resolve resolver db organizationId (recording.participants.map RecordingParticipant.input)
      none = some resolution) (assigned : link.accountId = some resolution.accountId) :
    HoldsLink row.id link db
      (after (finishRecording resolver organizationId recording row db)) := by
  obtain ⟨linked, ran, calls⟩ := resolveAndLinkContacts_found row.id found
  rw [finishRecording_eq, ran]
  exact (HoldsLink.ofAccount assigned calls).trans (.ofSameCalls storeTranscript_calls)

theorem finishRecording_other (other : callId ≠ row.id) :
    HoldsLink callId link db
      (after (finishRecording resolver organizationId recording row db)) := by
  intro known
  rw [finishRecording_eq]
  exact (linkOf_sameCalls storeTranscript_calls).trans
    ((linkOf_relinks resolveAndLinkContacts_relinks other).trans known)

theorem recording_keepsManual {participants : Call → Ingest PUnit}
    (writes : ∀ call, Keeps WritesParticipants (participants call)) (fresh : CallsFresh db)
    (agrees : FindsAssigned resolver db organizationId (recordedCall? db recording)
      (recording.participants.map RecordingParticipant.input) none) :
    KeepsManual db (after ((do
      let call ← upsertCall organizationId provider recording now
      participants call
      finishRecording resolver organizationId recording call : Ingest PUnit) db)) := by
  intro callId link known manual
  rw [bind_apply]
  cases upserted : upsertCall organizationId provider recording now db with
  | error failure written =>
    obtain rfl := upsertCall_error upserted
    exact known
  | ok row written =>
    have upserts := upsertCall_eq_ok upserted
    refine (?_ : HoldsLink callId link written _) (upserts.holds known)
    dsimp only
    rw [bind_apply]
    cases ran : participants row written with
    | error failure withParticipants => exact .ofSameCalls ((writes row).error ran).calls
    | ok result withParticipants =>
      have same := (writes row).ok ran
      refine HoldsLink.trans (.ofSameCalls same.calls) ?_
      by_cases own : callId = row.id
      · subst own
        obtain ⟨existing, found, sameId⟩ := upserts.existing fresh known
        obtain ⟨resolution, isFound, assigned⟩ :=
          agrees existing found link (sameId ▸ known) manual
        exact finishRecording_holds
          (((upserts.matching.trans same.matching).resolve _ _ _ _).trans isFound) assigned
      · exact finishRecording_other own

end

section

variable {resolver : Resolver} {db : Database}

theorem automatic_keepsManual (fresh : CallsFresh db) (action : AssignmentAction)
    (automatic : action.automatic) (agrees : AgreesWithAssignment resolver db action) :
    KeepsManual db (assignmentStep resolver db action) := by
  cases action with
  | resolveCall callId accountId organizationId => cases automatic
  | persistCall organizationId provider call stop => exact persistCall_keepsManual fresh agrees
  | handleRecordingEvent organizationId integration recording now =>
    refine recording_keepsManual (fun call => ?_) fresh agrees
    exact .each .refl .trans fun participant _ => storeParticipant_writes participant
  | ingestRecording organizationId recording provider now =>
    exact recording_keepsManual (fun call => createParticipants_writes _) fresh agrees
  | elsewhere later => cases automatic

theorem persistCall_staysFresh (organizationId : RowId) (provider : CallProvider)
    (call : NormalizedCall) (stop : Option PersistStep) :
    Keeps StaysFresh (persistCall resolver organizationId provider call stop) := by
  refine .bind .trans (reach_keeps .refl _) fun _ => .bind .trans storeCall_staysFresh fun stored =>
    .bind .trans (fun db => .ofRelinks (linkCall_relinks call db)) fun _ => ?_
  split
  · intro db
    obtain ⟨failure, failed⟩ | ⟨job, _, ran⟩ := enqueueTranscript_cases stop organizationId
      stored.1.id db
    · rw [failed]
      exact .refl db
    · rw [ran]
      exact .ofSameCalls rfl (Nat.le_refl _)
  · exact .pure .refl _

theorem recording_staysFresh {organizationId : RowId} {provider : CallProvider}
    {recording : MergeRecording} {now : Date} {participants : Call → Ingest PUnit}
    (writes : ∀ call, Keeps WritesParticipants (participants call)) :
    Keeps StaysFresh (do
      let call ← upsertCall organizationId provider recording now
      participants call
      finishRecording resolver organizationId recording call) := by
  refine .bind .trans (upsertCall_staysFresh recording now) fun row => .bind .trans ?_ fun _ => ?_
  · exact fun db => .ofSameCalls (writes row db).calls (writes row db).nextId
  · intro db
    rw [finishRecording_eq]
    exact StaysFresh.trans (.ofRelinks resolveAndLinkContacts_relinks)
      (.ofSameCalls storeTranscript_calls (Nat.le_of_eq storeTranscript_nextId.symm))

theorem assignmentStep_fresh (fresh : CallsFresh db) (action : AssignmentAction) :
    CallsFresh (assignmentStep resolver db action) := by
  cases action with
  | resolveCall callId accountId organizationId =>
    simp only [assignmentStep]
    split
    · next ran => exact (resolveCall_relinks ran).fresh fresh
    · exact fresh
  | persistCall organizationId provider call stop =>
    exact (persistCall_staysFresh organizationId provider call stop db fresh).1
  | handleRecordingEvent organizationId integration recording now =>
    refine (recording_staysFresh (fun call => ?_) db fresh).1
    exact .each .refl .trans fun participant _ => storeParticipant_writes participant
  | ingestRecording organizationId recording provider now =>
    exact (recording_staysFresh (fun call => createParticipants_writes _) db fresh).1
  | elsewhere later =>
    simp only [assignmentStep]
    split
    · next isFresh => exact isFresh
    · exact fresh

/-- In a run in which automatic processing resolves an assigned call to the account
that it is assigned to, no assignment of a person is changed by it. -/
theorem manual_assignments_survive (resolver : Resolver) {start : Database}
    (actions : List AssignmentAction) (fresh : CallsFresh start)
    (agrees : Guarded (assignmentStep resolver) (AgreesWithAssignment resolver) start actions) :
    ∀ taken ∈ trace (assignmentStep resolver) start actions, taken.2.automatic →
      KeepsManual taken.1 (assignmentStep resolver taken.1 taken.2) := by
  intro taken member automatic
  obtain ⟨freshHere, agreesHere⟩ := trace_guarded_invariant CallsFresh
    (fun _ action fresh _ => assignmentStep_fresh fresh action) fresh agrees taken member
  exact automatic_keepsManual freshHere taken.2 automatic agreesHere

end

def unassigned : Database where
  nextId := 3
  accounts := [{
    id := 1
    organizationId := 1
    name := ['a']
    normalizedName := ['a']
    domain := some ['a', '.', 'b'] }]
  calls := [{ id := 2, organizationId := 1, provider := .gong, externalId := some ['7'] }]

def syncedAgain : NormalizedCall where
  externalId := ['7']

def syncedWithParticipant : NormalizedCall :=
  { syncedAgain with participants := [{ email := some ['x', '@', 'a', '.', 'b'] }] }

def assignedByPerson : Database := assignmentStep plainResolver unassigned (.resolveCall 2 1 1)

theorem agreeing_sync_keeps_assignment :
    KeepsManual assignedByPerson (assignmentStep plainResolver assignedByPerson
      (.persistCall 1 .gong syncedWithParticipant none)) := by
  have fresh : CallsFresh unassigned := by decide
  refine manual_assignments_survive plainResolver
    [.resolveCall 2 1 1, .persistCall 1 .gong syncedWithParticipant none] fresh ?_
    (assignedByPerson, .persistCall 1 .gong syncedWithParticipant none)
    (List.mem_cons_of_mem _ List.mem_cons_self) rfl
  rw [guarded_cons, guarded_cons]
  refine ⟨trivial, ?_, guarded_nil _ _ _⟩
  intro call found link isLink _
  obtain rfl := Option.some.inj found
  obtain rfl := Option.some.inj isLink
  exact ⟨⟨1, ['a'], 95, .emailDomain⟩, rfl, rfl⟩

/-- A sync that finds no account takes the assigned one away. -/
theorem synced_call_loses_assignment :
    linkOf assignedByPerson 2 = some ⟨some 1, .manual, 100⟩ ∧
      ¬ KeepsManual assignedByPerson (assignmentStep plainResolver assignedByPerson
        (.persistCall 1 .gong syncedAgain none)) := by
  refine ⟨rfl, fun keeps => ?_⟩
  have lost := keeps 2 ⟨some 1, .manual, 100⟩ rfl rfl
  cases lost

end StoryEngine.Ingestion
