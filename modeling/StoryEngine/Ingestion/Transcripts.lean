import StoryEngine.Data.Run
import StoryEngine.Ingestion.PersistCall

namespace StoryEngine.Ingestion

open Accounts Data Resolution Schema Statements Text

/-! # Transcripts of the integration sync

`syncCallRecordingProvider` persists the calls of one page after the other.  A
run that fails is followed by other runs.
-/

/-- The calls of a page, each with the step it is interrupted at; the page itself
may be interrupted after its calls. -/
structure SyncPage where
  calls : List (NormalizedCall × Option PersistStep)
  interrupted : Bool := false

section

variable (resolver : Resolver) (organizationId : RowId) (provider : CallProvider)

def persistDelivered (delivery : NormalizedCall × Option PersistStep) : Ingest PUnit :=
  persistCall resolver organizationId provider delivery.1 delivery.2

def syncPage (page : SyncPage) : Ingest PUnit := do
  each page.calls (persistDelivered resolver organizationId provider)
  if page.interrupted then throw .interrupted

def syncCalls (pages : List SyncPage) : Ingest PUnit :=
  each pages (syncPage resolver organizationId provider)

def syncRun (db : Database) (pages : List SyncPage) : Database :=
  after (syncCalls resolver organizationId provider pages db)

def syncRuns (db : Database) (runs : List (List SyncPage)) : Database :=
  run (syncRun resolver organizationId provider) db runs

def Completes (db : Database) (pages : List SyncPage) : Prop :=
  syncCalls resolver organizationId provider pages db =
    .ok ⟨⟩ (syncRun resolver organizationId provider db pages)

end

def delivered (pages : List SyncPage) : List NormalizedCall :=
  pages.flatMap fun page => page.calls.map (·.1)

abbrev CallKey := RowId × CallProvider × Text

def storedId (db : Database) (key : CallKey) : Option RowId := (storedCall db key).map (·.id)

def servedId (db : Database) (callId : RowId) : Bool :=
  db.transcripts.any (·.callId == callId) && db.processCallJobs.any (·.callId == callId)

def Served (db : Database) (key : CallKey) : Prop := (storedId db key).any (servedId db) = true

def TranscriptsServed (organizationId : RowId) (provider : CallProvider) (db : Database)
    (calls : List NormalizedCall) : Prop :=
  ∀ call ∈ calls, call.transcript.isSome → Served db (call.key organizationId provider)

/-- A call that comes with a transcript is served already, or is new and the first
delivery that the run has of it brings one. -/
def FirstDeliveryBrings (organizationId : RowId) (provider : CallProvider) (db : Database)
    (calls : List NormalizedCall) : Prop :=
  ∀ call ∈ calls, call.transcript.isSome →
    Served db (call.key organizationId provider) ∨
      storedId db (call.key organizationId provider) = none ∧
        ((calls.find? (·.externalId == call.externalId)).bind (truthy ·.transcript)).isSome

structure CallIdsFresh (db : Database) : Prop where
  calls : CallsFresh db
  transcripts : ∀ transcript ∈ db.transcripts, transcript.callId < db.nextId
  processCallJobs : ∀ job ∈ db.processCallJobs, job.callId < db.nextId

section

variable {resolver : Resolver} {organizationId : RowId} {provider : CallProvider}
  {call : NormalizedCall} {db stored linked written : Database} {row : Call}
  {final : Database} {hasTranscript : Bool} {key : CallKey}

theorem storedId_of_columns
    (same : linked.calls.map (fun call => (call.id, callKey call)) =
      stored.calls.map fun call => (call.id, callKey call)) :
    storedId linked key = storedId stored key := by
  have viaColumns (db : Database) : storedId db key =
      ((db.calls.map fun call => (call.id, callKey call)).find? (·.2 == some key)).map (·.1) := by
    rw [List.find?_map, Option.map_map]
    rfl
  rw [viaColumns, viaColumns, same]

variable {callId id : RowId} {result : EStateM.Result IngestError Database PUnit}
  {pages : List SyncPage}

theorem storedId_relinks (relinks : Relinks callId stored linked) :
    storedId linked key = storedId stored key := by
  obtain ⟨change, relabels, calls⟩ := relinks.calls
  refine storedId_of_columns ?_
  rw [calls]
  exact map_updateWhere (relabels.column (fun call => (call.id, callKey call)) fun _ => rfl)

theorem storedId_refreshed {title recordingUrl : Option Text}
    {duration : Option Nat} :
    storedId (updateCall db callId (refreshed title recordingUrl duration)) key =
      storedId db key :=
  storedId_of_columns (map_updateWhere fun _ => rfl)

theorem servedId_relinks (relinks : Relinks callId stored linked) :
    servedId linked id = servedId stored id := by
  rw [servedId, servedId, relinks.transcripts, relinks.processCallJobs]

theorem storedId_lt (fresh : CallIdsFresh db) (known : storedId db key = some id) :
    id < db.nextId := by
  obtain ⟨found, isFound, rfl⟩ := Option.map_eq_some_iff.mp known
  exact fresh.calls found (List.mem_of_find?_eq_some isFound)

theorem storedId_created {created : Call}
    (calls : stored.calls = db.calls ++ [created]) :
    storedId stored key =
      (storedId db key).or (if callKey created = some key then some created.id else none) := by
  unfold storedId storedCall
  rw [calls, List.find?_append]
  cases db.calls.find? (callKey · == some key) with
  | some found => rfl
  | none =>
    by_cases own : callKey created = some key
    · simp [own]
    · simp [own]

theorem served_of_storedId (own : storedId db key = some id) :
    Served db key ↔ servedId db id = true := by
  rw [Served, own, Option.any_some]

theorem served_congr (sameId : storedId linked key = storedId stored key)
    (sameServed : ∀ id, storedId stored key = some id → servedId linked id = servedId stored id) :
    Served linked key ↔ Served stored key := by
  unfold Served
  rw [sameId]
  cases known : storedId stored key with
  | none => exact Iff.rfl
  | some id => simp only [Option.any_some, sameServed id known]

theorem served_relinks (relinks : Relinks callId stored linked) :
    Served linked key ↔ Served stored key :=
  served_congr (storedId_relinks relinks) fun _ _ => servedId_relinks relinks

theorem served_enqueue {job : ProcessCallJob}
    (apart : ∀ id, storedId stored key = some id → job.callId ≠ id) :
    Served (enqueueProcessCallJob job stored) key ↔ Served stored key := by
  refine served_congr rfl fun id known => ?_
  have other : (job.callId == id) = false := by simpa using apart id known
  simp [servedId, enqueueProcessCallJob, other]

theorem transcripts_fresh (fresh : CallIdsFresh db) :
    db.transcripts.any (·.callId == db.nextId) = false := by
  refine List.any_eq_false.mpr fun transcript member => ?_
  simpa using Nat.ne_of_lt (fresh.transcripts transcript member)

theorem processCallJobs_fresh (fresh : CallIdsFresh db) :
    db.processCallJobs.any (·.callId == db.nextId) = false := by
  refine List.any_eq_false.mpr fun job member => ?_
  simpa using Nat.ne_of_lt (fresh.processCallJobs job member)

section

variable (creates : Creates organizationId provider call db written)
include creates

theorem Creates.storedId_other (other : key ≠ call.key organizationId provider) :
    storedId written key = storedId db key := by
  have apart : callKey { call.newCall organizationId provider with id := db.nextId } ≠ some key :=
    fun same => other (Option.some.inj same).symm
  rw [storedId_created creates.calls, if_neg apart, Option.or_none]

theorem Creates.storedId_own
    (missing : storedCall db (call.key organizationId provider) = none) :
    storedId written (call.key organizationId provider) = some db.nextId := by
  rw [storedId_created creates.calls, storedId, missing]
  exact if_pos rfl

theorem Creates.served_other (fresh : CallIdsFresh db)
    (other : key ≠ call.key organizationId provider) : Served written key ↔ Served db key := by
  refine served_congr (creates.storedId_other other) fun id known => ?_
  have before : db.nextId ≠ id := Nat.ne_of_gt (storedId_lt fresh known)
  have noRow : ((truthy call.transcript).map (transcriptOf db.nextId)).toList.any
      (·.callId == id) = false := by
    cases truthy call.transcript with
    | none => rfl
    | some fullText => simpa [transcriptOf] using before
  rw [servedId, servedId, creates.transcripts, creates.processCallJobs, List.any_append, noRow,
    Bool.or_false]

theorem Creates.servedId_own (fresh : CallIdsFresh db) :
    written.transcripts.any (·.callId == db.nextId) = (truthy call.transcript).isSome ∧
      written.processCallJobs.any (·.callId == db.nextId) = false := by
  rw [creates.transcripts, creates.processCallJobs, List.any_append, transcripts_fresh fresh,
    Bool.false_or]
  refine ⟨?_, processCallJobs_fresh fresh⟩
  cases truthy call.transcript with
  | none => rfl
  | some fullText => simp [transcriptOf]

end

inductive Keyed (organizationId : RowId) (provider : CallProvider) (call : NormalizedCall)
    (db final : Database) : Prop
  | refreshed (known : (storedId db (call.key organizationId provider)).isSome)
      (stored : ∀ key, storedId final key = storedId db key)
      (served : ∀ key, Served final key ↔ Served db key)
  | created (missing : storedId db (call.key organizationId provider) = none)
      (known : (storedId final (call.key organizationId provider)).isSome)
      (served : Served final (call.key organizationId provider) ↔ (truthy call.transcript).isSome)
      (otherStored : ∀ key ≠ call.key organizationId provider,
        storedId final key = storedId db key)
      (otherServed : ∀ key ≠ call.key organizationId provider, Served final key ↔ Served db key)

theorem Persists.keyed (fresh : CallIdsFresh db)
    (persists : Persists organizationId provider call db (.ok ⟨⟩ final)) :
    Keyed organizationId provider call db final := by
  cases persists with
  | withoutTranscript stores relinks nothing =>
    cases stores with
    | refreshed existing found =>
      refine .refreshed (by rw [storedId, found]; rfl)
        (fun key => (storedId_relinks relinks).trans storedId_refreshed)
        fun key => (served_relinks relinks).trans ?_
      exact served_congr storedId_refreshed fun _ _ => rfl
    | created _ missing creates =>
      have own := (storedId_relinks relinks).trans (creates.storedId_own missing)
      refine .created (by rw [storedId, missing]; rfl) (by rw [own]; rfl) ?_
        (fun key other => (storedId_relinks relinks).trans (creates.storedId_other other))
        fun key other => (served_relinks relinks).trans (creates.served_other fresh other)
      have unserved := creates.servedId_own fresh
      rw [served_relinks relinks, served_of_storedId (creates.storedId_own missing), servedId,
        unserved.1, unserved.2, nothing]
      simp
  | @withTranscript job row hasTranscript stored linked stores relinks transcribed ofCall =>
    cases stores with
    | refreshed existing found => cases transcribed
    | created _ missing creates =>
      have own := (storedId_relinks relinks).trans (creates.storedId_own missing)
      have unserved := creates.servedId_own fresh
      have ofNew : job.callId = db.nextId := ofCall
      have ownEnqueued : storedId (enqueueProcessCallJob job linked)
          (call.key organizationId provider) = some db.nextId := own
      refine .created (by rw [storedId, missing]; rfl)
        (Option.isSome_iff_exists.mpr ⟨db.nextId, own⟩) ?_
        (fun key other => (storedId_relinks relinks).trans (creates.storedId_other other))
        fun key other => ?_
      · have enqueued : (enqueueProcessCallJob job linked).processCallJobs.any
            (·.callId == db.nextId) = true := by
          simp [enqueueProcessCallJob, ofNew]
        have transcript : (enqueueProcessCallJob job linked).transcripts = stored.transcripts :=
          relinks.transcripts
        rw [served_of_storedId ownEnqueued, servedId, enqueued, transcript, unserved.1, Bool.and_true]
      · have otherId := (storedId_relinks relinks).trans (creates.storedId_other other)
        refine (served_enqueue fun id known same => ?_).trans
          ((served_relinks relinks).trans (creates.served_other fresh other))
        have early := storedId_lt fresh (otherId ▸ known)
        exact absurd (ofNew.symm.trans same) (Nat.ne_of_gt early)

theorem CallIdsFresh.relinks (fresh : CallIdsFresh stored)
    (relinks : Relinks callId stored linked) : CallIdsFresh linked where
  calls := relinks.fresh fresh.calls
  transcripts := by
    rw [relinks.transcripts]
    exact fun transcript member =>
      Nat.lt_of_lt_of_le (fresh.transcripts transcript member) relinks.nextId
  processCallJobs := by
    rw [relinks.processCallJobs]
    exact fun job member => Nat.lt_of_lt_of_le (fresh.processCallJobs job member) relinks.nextId

theorem CallIdsFresh.stores (fresh : CallIdsFresh db)
    (stores : Stores organizationId provider call db row hasTranscript stored) :
    CallIdsFresh stored ∧ row.id < stored.nextId := by
  have calls := (stores.staysFresh fresh.calls).1
  cases stores with
  | refreshed existing found =>
    exact ⟨⟨calls, fresh.transcripts, fresh.processCallJobs⟩,
      fresh.calls existing (List.mem_of_find?_eq_some found)⟩
  | created _ missing creates =>
    refine ⟨⟨calls, ?_, ?_⟩, creates.nextId⟩
    · rw [creates.transcripts]
      intro transcript member
      rcases List.mem_append.mp member with inOld | isNew
      · exact Nat.lt_trans (fresh.transcripts transcript inOld) creates.nextId
      · obtain ⟨fullText, _, rfl⟩ := Option.map_eq_some_iff.mp (Option.mem_toList.mp isNew)
        exact creates.nextId
    · rw [creates.processCallJobs]
      exact fun job member => Nat.lt_trans (fresh.processCallJobs job member) creates.nextId

theorem Persists.fresh (fresh : CallIdsFresh db)
    (persists : Persists organizationId provider call db result) : CallIdsFresh (after result) := by
  cases persists with
  | refused failure => exact fresh
  | interrupted failure stores relinks => exact (fresh.stores stores).1.relinks relinks
  | withoutTranscript stores relinks nothing => exact (fresh.stores stores).1.relinks relinks
  | withTranscript job stores relinks transcribed ofCall =>
    obtain ⟨freshStored, known⟩ := fresh.stores stores
    have freshLinked := freshStored.relinks relinks
    refine { freshLinked with processCallJobs := fun other member => ?_ }
    rcases List.mem_append.mp member with inOld | isNew
    · exact freshLinked.processCallJobs other inOld
    · rw [List.mem_singleton.mp isNew, ofCall]
      exact Nat.lt_of_lt_of_le known relinks.nextId

theorem Persists.served_stays
    (fresh : CallIdsFresh db) (persists : Persists organizationId provider call db result)
    (served : Served db key) : Served (after result) key := by
  have afterStores {row : Call} {hasTranscript : Bool} {stored linked : Database}
      (stores : Stores organizationId provider call db row hasTranscript stored)
      (relinks : Relinks row.id stored linked) : Served linked key := by
    refine (served_relinks relinks).mpr ?_
    cases stores with
    | refreshed existing found => exact (served_congr storedId_refreshed fun _ _ => rfl).mpr served
    | created _ missing creates =>
      refine (creates.served_other fresh fun own => ?_).mpr served
      rw [own, Served, storedId, missing] at served
      cases served
  cases persists with
  | refused failure => exact served
  | interrupted failure stores relinks => exact afterStores stores relinks
  | withoutTranscript stores relinks nothing => exact afterStores stores relinks
  | @withTranscript job row hasTranscript stored linked stores relinks transcribed ofCall =>
    have servedLinked := afterStores stores relinks
    unfold Served at servedLinked ⊢
    have same : storedId (enqueueProcessCallJob job linked) key = storedId linked key := rfl
    change (storedId linked key).any (servedId (enqueueProcessCallJob job linked)) = true
    cases known : storedId linked key with
    | none =>
      rw [known] at servedLinked
      cases servedLinked
    | some id =>
      rw [known, Option.any_some, servedId, Bool.and_eq_true] at servedLinked
      simp [servedId, enqueueProcessCallJob, servedLinked]

def Stays (key : CallKey) (before after : Database) : Prop :=
  CallIdsFresh before → CallIdsFresh after ∧ (Served before key → Served after key)

theorem Stays.refl (db : Database) : Stays key db db := fun fresh => ⟨fresh, id⟩

theorem Stays.trans (first : Stays key db stored) (second : Stays key stored linked) :
    Stays key db linked := by
  intro fresh
  obtain ⟨freshStored, servedStored⟩ := first fresh
  obtain ⟨freshLinked, servedLinked⟩ := second freshStored
  exact ⟨freshLinked, servedLinked ∘ servedStored⟩

theorem syncRun_stays (key : CallKey) (pages : List SyncPage) :
    Stays key db (syncRun resolver organizationId provider db pages) := by
  have keeps : Keeps (Stays key) (syncCalls resolver organizationId provider pages) := by
    refine .each .refl .trans fun page _ => .bind .trans (.each .refl .trans fun delivery _ => ?_)
      fun _ => ?_
    · intro db fresh
      have persists : Persists organizationId provider delivery.1 db
          (persistDelivered resolver organizationId provider delivery db) :=
        persistCall_persists resolver delivery.2
      exact ⟨persists.fresh fresh, persists.served_stays fresh⟩
    · split
      · exact .throw .refl _
      · exact .pure .refl _
  exact keeps db

theorem syncRuns_stays (key : CallKey) (runs : List (List SyncPage)) :
    Stays key db (syncRuns resolver organizationId provider db runs) := by
  induction runs generalizing db with
  | nil => exact .refl db
  | cons pages rest ih => exact (syncRun_stays key pages).trans ih

theorem completes_each
    (completes : syncCalls resolver organizationId provider pages db = .ok ⟨⟩ final) :
    each (pages.flatMap (·.calls)) (persistDelivered resolver organizationId provider) db =
      .ok ⟨⟩ final := by
  induction pages generalizing db with
  | nil => exact completes
  | cons page rest ih =>
    obtain ⟨⟨⟩, between, pageRan, restRan⟩ := bind_eq_ok.mp completes
    obtain ⟨⟨⟩, persisted, callsRan, notInterrupted⟩ := bind_eq_ok.mp pageRan
    have same : persisted = between := by
      split at notInterrupted
      · cases notInterrupted
      · exact (EStateM.Result.ok.inj notInterrupted).2
    rw [List.flatMap_cons, each_append]
    exact bind_eq_ok.mpr ⟨⟨⟩, persisted, callsRan, same ▸ ih restRan⟩

theorem each_served {deliveries : List (NormalizedCall × Option PersistStep)}
    (fresh : CallIdsFresh db)
    (ran : each deliveries (persistDelivered resolver organizationId provider) db = .ok ⟨⟩ final)
    (externalId : Text) :
    Served final (organizationId, provider, externalId) ↔
      Served db (organizationId, provider, externalId) ∨
        storedId db (organizationId, provider, externalId) = none ∧
          (((deliveries.map (·.1)).find? (·.externalId == externalId)).bind
            (truthy ·.transcript)).isSome := by
  induction deliveries generalizing db with
  | nil =>
    obtain ⟨_, rfl⟩ := EStateM.Result.ok.inj ran
    simp
  | cons delivery rest ih =>
    obtain ⟨⟨⟩, between, first, restRan⟩ := bind_eq_ok.mp ran
    have persists : Persists organizationId provider delivery.1 db (.ok ⟨⟩ between) :=
      first ▸ persistCall_persists resolver delivery.2
    have freshBetween : CallIdsFresh between := persists.fresh fresh
    have later := ih freshBetween restRan
    by_cases own : delivery.1.externalId = externalId
    · subst own
      have found : ((delivery :: rest).map (·.1)).find?
          (·.externalId == delivery.1.externalId) = some delivery.1 := by simp
      rw [later, found, Option.bind_some]
      cases persists.keyed fresh with
      | refreshed known stored served =>
        have stays : storedId db (organizationId, provider, delivery.1.externalId) ≠ none :=
          Option.isSome_iff_ne_none.mp known
        have remains : storedId between (organizationId, provider, delivery.1.externalId) ≠
            none := by rwa [stored]
        simp only [served, stays, remains, false_and, or_false]
      | created missing known served =>
        have unserved : ¬ Served db (organizationId, provider, delivery.1.externalId) := by
          rw [Served, missing]
          simp
        have remains : storedId between (organizationId, provider, delivery.1.externalId) ≠
            none := Option.isSome_iff_ne_none.mp known
        simp only [served, unserved, missing, remains, false_and, or_false, false_or, true_and]
    · have skipped : ((delivery :: rest).map (·.1)).find? (·.externalId == externalId) =
          (rest.map (·.1)).find? (·.externalId == externalId) := by simp [own]
      have other : ((organizationId, provider, externalId) : CallKey) ≠
          delivery.1.key organizationId provider := by
        intro same
        exact own (Prod.mk.inj (Prod.mk.inj same).2).2.symm
      rw [later, skipped]
      cases persists.keyed fresh with
      | refreshed known stored served => rw [stored, served]
      | created missing known served otherStored otherServed =>
        rw [otherStored _ other, otherServed _ other]

theorem completed_served (fresh : CallIdsFresh db)
    (completes : Completes resolver organizationId provider db pages) :
    TranscriptsServed organizationId provider (syncRun resolver organizationId provider db pages)
        (delivered pages) ↔
      FirstDeliveryBrings organizationId provider db (delivered pages) := by
  have served := each_served fresh (completes_each completes)
  have sameCalls : (pages.flatMap (·.calls)).map (·.1) = delivered pages := List.map_flatMap
  rw [sameCalls] at served
  constructor
  · intro all call member transcribed
    exact (served call.externalId).mp (all call member transcribed)
  · intro brings call member transcribed
    exact (served call.externalId).mpr (brings call member transcribed)

/-- In a run that gets to its end, the calls that come with a transcript are
served, then and later, exactly when each of them was served before or is new and
comes with its transcript the first time. -/
theorem completed_run_serves_iff (earlier : List (List SyncPage)) (current : List SyncPage)
    (fresh : CallIdsFresh db)
    (completes : Completes resolver organizationId provider
      (syncRuns resolver organizationId provider db earlier) current) :
    (∀ later, TranscriptsServed organizationId provider
        (syncRuns resolver organizationId provider db (earlier ++ current :: later))
        (delivered current)) ↔
      FirstDeliveryBrings organizationId provider
        (syncRuns resolver organizationId provider db earlier) (delivered current) := by
  have freshThen : CallIdsFresh (syncRuns resolver organizationId provider db earlier) :=
    (syncRuns_stays (organizationId, provider, []) earlier fresh).1
  have atOnce := completed_served freshThen completes
  have next (later : List (List SyncPage)) :
      syncRuns resolver organizationId provider db (earlier ++ current :: later) =
        syncRuns resolver organizationId provider (syncRun resolver organizationId provider
          (syncRuns resolver organizationId provider db earlier) current) later :=
    run_append _ _ _ _
  constructor
  · intro always
    have now := always []
    rw [next] at now
    exact atOnce.mp now
  · intro brings later call member transcribed
    rw [next]
    have served := atOnce.mpr brings call member transcribed
    have freshNext : CallIdsFresh (syncRun resolver organizationId provider
        (syncRuns resolver organizationId provider db earlier) current) :=
      (syncRun_stays (organizationId, provider, []) current freshThen).1
    exact (syncRuns_stays _ later freshNext).2 served

end

def lateCall : NormalizedCall where
  externalId := ['7']

def lateTranscript : NormalizedCall := { lateCall with transcript := some ['t'] }

def runWith : List SyncPage := [{ calls := [(lateTranscript, none)] }]

def runWithout : List SyncPage := [{ calls := [(lateCall, none)] }]

theorem emptyCallIds_fresh : CallIdsFresh {} := by
  constructor <;> simp [CallsFresh]

theorem first_transcript_is_served :
    Completes plainResolver 1 .gong (syncRuns plainResolver 1 .gong {} []) runWith ∧
      ∀ later, TranscriptsServed 1 .gong
        (syncRuns plainResolver 1 .gong {} ([] ++ runWith :: later)) (delivered runWith) := by
  have completes : Completes plainResolver 1 .gong (syncRuns plainResolver 1 .gong {} []) runWith :=
    rfl
  refine ⟨completes, (completed_run_serves_iff [] runWith emptyCallIds_fresh completes).mpr ?_⟩
  intro call member _
  obtain rfl := List.mem_singleton.mp member
  exact .inr ⟨rfl, rfl⟩

/-- The transcript of a call that was stored without one is not stored. -/
theorem late_transcript_is_lost :
    CallIdsFresh {} ∧
      Completes plainResolver 1 .gong (syncRuns plainResolver 1 .gong {} [runWithout]) runWith ∧
        ¬ TranscriptsServed 1 .gong (syncRuns plainResolver 1 .gong {} [runWithout, runWith])
          (delivered runWith) := by
  refine ⟨emptyCallIds_fresh, rfl, fun served => ?_⟩
  have lost := served lateTranscript (by simp [delivered, runWith]) rfl
  cases lost

end StoryEngine.Ingestion
