import StoryEngine.Approval.Enforcement
import StoryEngine.Data.Interleaving

namespace StoryEngine.Approval

open Data Schema Access Pages Routes

/-! # Concurrent reviews

A review is a process whose steps are its accesses to the database.  Reads of
tables that no review writes stand with the access they belong to, and the
transaction that records a version is one step.
-/

inductive ReviewStage where
  | waiting
  | planned (plan : ReviewPlan)
  | checked (request : ApprovalRequest) (payload : PublishApprovalPayload)
  | prepared (request : ApprovalRequest) (payload : PublishApprovalPayload) (page : LandingPage)
      (scrubbed : ScrubbedContent)
  | written (request : ApprovalRequest) (payload : PublishApprovalPayload) (page : LandingPage)
  | synced (request : ApprovalRequest) (payload : PublishApprovalPayload) (page : LandingPage)
  | recorded (request : ApprovalRequest) (payload : PublishApprovalPayload) (page : LandingPage)
  | cleared (request : ApprovalRequest) (payload : PublishApprovalPayload) (page : LandingPage)
  | done (outcome : Except HttpFailure ReviewResponse)
deriving DecidableEq

section

variable (platform : Platform) (db : Database) (input : ReviewInput)

def carryOut (plan : ReviewPlan) : Database × ReviewStage :=
  match plan with
  | .reject _ => (finalize db input .rejected plan, .done (.ok .rejected))
  | .recordApproval request payload =>
    (recordPayload db request payload, .done (.ok (.pending payload.currentStepOrder)))
  | .approveOnly _ => (finalize db input .approved plan, .done (.ok .approved))
  | .publish request payload =>
    match requirePublishable db input request payload with
    | .ok _ => (db, .checked request payload)
    | .error failure => (db, .done (.error failure))

def reviewStep : ReviewStage → Database × ReviewStage
  | .waiting =>
    match input.plan db with
    | .ok plan => (db, .planned plan)
    | .error failure => (db, .done (.error failure))
  | .planned plan => carryOut db input plan
  | .checked request payload =>
    match preparePublish platform db request.targetId with
    | .ok (page, scrubbed) => (db, .prepared request payload page scrubbed)
    | .error cause => (db, .done (.error (reviewFailure input cause)))
  | .prepared request payload page scrubbed =>
    (updateLandingPage db request.targetId
      (publishData platform scrubbed (reviewOptions input request payload) input.now),
      .written request payload page)
  | .written request payload page =>
    (syncStoryPublishedAtFromLandingPages db page.storyId, .synced request payload page)
  | .synced request payload page =>
    match createArtifactVersion db page.id (reviewOptions input request payload) input.now with
    | .ok next => (next, .recorded request payload page)
    | .error cause => (db, .done (.error (reviewFailure input cause)))
  | .recorded request payload page =>
    (afterPublish db input request, .cleared request payload page)
  | .cleared request payload page =>
    (finalize db input .approved (.publish request payload),
      .done (.ok (.published (publishReceipt platform page))))
  | .done outcome => (db, .done outcome)

end

def soloReview (platform : Platform) (input : ReviewInput) :
    Nat → Database × ReviewStage → Database × ReviewStage
  | 0, state => state
  | steps + 1, (db, stage) => soloReview platform input steps (reviewStep platform db input stage)

section

variable {platform : Platform} {db : Database} {input : ReviewInput}

theorem soloReview_eq_review (platform : Platform) (db : Database) (input : ReviewInput) :
    soloReview platform input 8 (db, .waiting) =
      match review platform db input with
      | .ok (response, next) => (next, .done (.ok response))
      | .error failure => (db, .done (.error failure)) := by
  cases planned : input.plan db with
  | error failure => simp [soloReview, reviewStep, review, planned, bind, Except.bind]
  | ok plan =>
    cases plan with
    | reject request =>
      simp [soloReview, reviewStep, carryOut, review, planned, bind, Except.bind, pure,
        Except.pure]
    | recordApproval request payload =>
      simp [soloReview, reviewStep, carryOut, review, planned, bind, Except.bind, pure,
        Except.pure]
    | approveOnly request =>
      simp [soloReview, reviewStep, carryOut, review, planned, bind, Except.bind, pure,
        Except.pure]
    | publish request payload =>
      cases publishable : requirePublishable db input request payload with
      | error failure =>
        simp [soloReview, reviewStep, carryOut, review, planned, publishable, bind,
          Except.bind]
      | ok allowed =>
        cases prepared : preparePublish platform db request.targetId with
        | error cause =>
          simp [soloReview, reviewStep, carryOut, review, planned, publishable, prepared,
            publish_eq_error prepared, bind, Except.bind, Except.mapError]
        | ok result =>
          obtain ⟨page, scrubbed⟩ := result
          obtain ⟨recorded, records, publishes⟩ := publish_eq_writes
            (reviewOptions input request payload) input.now prepared
          simp [soloReview, reviewStep, carryOut, review, planned, publishable, prepared,
            records, publishes, bind, Except.bind, Except.mapError, pure, Except.pure]

end

inductive ReviewEvent where
  | finalized (requestId : RowId) (status : ApprovalStatus)
  | published (requestId pageId : RowId)

def ReviewEvent.requestId : ReviewEvent → RowId
  | .finalized requestId _ | .published requestId _ => requestId

namespace ReviewStage

def events : ReviewStage → List ReviewEvent
  | .planned (.reject request) => [.finalized request.id .rejected]
  | .planned (.approveOnly request) => [.finalized request.id .approved]
  | .prepared request _ _ _ => [.published request.id request.targetId]
  | .cleared request _ _ => [.finalized request.id .approved]
  | _ => []

def finalizing : ReviewStage → Option RowId
  | .planned (.recordApproval _ _) | .waiting | .done _ => none
  | .planned (.reject request) | .planned (.approveOnly request) | .planned (.publish request _)
  | .checked request _ | .prepared request _ _ _ | .written request _ _ | .synced request _ _
  | .recorded request _ _ | .cleared request _ _ => some request.id

def emitted : ReviewStage → List ReviewEvent
  | .written request _ _ | .synced request _ _ | .recorded request _ _ | .cleared request _ _ =>
    [.published request.id request.targetId]
  | _ => []

def Sound (db : Database) : ReviewStage → Prop
  | .prepared _ _ page _ | .written _ _ page | .synced _ _ page =>
    page.id ∈ db.landingPages.map (·.id)
  | _ => True

end ReviewStage

structure ActiveReview where
  input : ReviewInput
  stage : ReviewStage := .waiting

abbrev ReviewSystem := Interleaved Database ActiveReview

def advance (platform : Platform) (db : Database) (active : ActiveReview) :
    Database × ActiveReview :=
  let (next, stage) := reviewStep platform db active.input active.stage
  (next, { active with stage })

def reviewTurn (platform : Platform) : ReviewSystem → Nat → ReviewSystem :=
  turn (advance platform)

def observeTurn (system : ReviewSystem) (index : Nat) : List ReviewEvent :=
  match system.processes[index]? with
  | none => []
  | some active => active.stage.events

def Finalizes (requestId : RowId) (active : ActiveReview) : Prop :=
  active.stage.finalizing = some requestId

/-- When a review reads a request that it will finalize, no other review is on
its way to finalize the same request. -/
def ReviewsApart (system : ReviewSystem) (index : Nat) : Prop :=
  ∀ active, system.processes[index]? = some active → active.stage = .waiting →
    ∀ plan, active.input.plan system.shared = .ok plan →
      ∀ requestId, (ReviewStage.planned plan).finalizing = some requestId →
        Nobody (Finalizes requestId) system

def SameStatus (requestId : RowId) (db next : Database) : Prop :=
  ∀ row ∈ next.approvalRequests, row.id = requestId →
    ∃ old ∈ db.approvalRequests, old.id = requestId ∧ old.status = row.status

inductive StepEffect (requestId : RowId) (db next : Database) (before after : ReviewStage) : Prop where
  | outside (events : before.events.filter (·.requestId == requestId) = [])
      (status : SameStatus requestId db next) (stays : before.finalizing ≠ some requestId)
      (leaves : after.finalizing ≠ some requestId)
  | enters (waiting : before = .waiting) (read : ∃ row ∈ db.approvalRequests,
        row.id = requestId ∧ row.status = .pending)
      (status : SameStatus requestId db next) (fresh : after.emitted = [])
      (inside : after.finalizing = some requestId)
  | continues (status : SameStatus requestId db next)
      (emits : after.emitted = before.emitted ++ before.events)
      (inside : before.finalizing = some requestId) (stays : after.finalizing = some requestId)
  | fails (status : SameStatus requestId db next) (events : before.events = [])
      (emits : before.emitted = []) (inside : before.finalizing = some requestId)
      (leaves : after.finalizing = none)
  | finalizes (final : ApprovalStatus) (notPending : final ≠ .pending)
      (status : ∀ row ∈ next.approvalRequests, row.id = requestId → row.status = final)
      (events : before.events = [.finalized requestId final])
      (hidden : final = .rejected → before.emitted = [])
      (inside : before.finalizing = some requestId) (leaves : after.finalizing = none)

section

variable {platform : Platform} {db next : Database} {input : ReviewInput} {requestId : RowId}
  {before after : ReviewStage}

theorem SameStatus.of_eq (same : next.approvalRequests = db.approvalRequests) :
    SameStatus requestId db next := by
  intro row member named
  exact ⟨row, same ▸ member, named, rfl⟩

variable {own pageId : RowId} {status : ApprovalStatus} {plan : ReviewPlan}
  {options : PublishOptions} {now : Date} {stage : ReviewStage}

private theorem updateApprovalRequest_sameStatus
    {change : ApprovalRequest → ApprovalRequest}
    (kept : own = requestId → ∀ row, (change row).status = row.status)
    (sameId : ∀ row, (change row).id = row.id) :
    SameStatus requestId db (updateApprovalRequest db own change) := by
  intro row member named
  obtain ⟨old, inOld, ⟨selected, rfl⟩ | ⟨_, rfl⟩⟩ := mem_updateWhere.mp member
  · have oldNamed : old.id = requestId := (sameId old).symm.trans named
    have sameOwn : old.id = own := by simpa using selected
    exact ⟨old, inOld, oldNamed, (kept (sameOwn.symm.trans oldNamed) old).symm⟩
  · exact ⟨row, inOld, named, rfl⟩

theorem finalize_status :
    ∀ row ∈ (finalize db input status plan).approvalRequests, row.id = plan.request.id →
      row.status = status := by
  intro row member named
  obtain ⟨old, _, ⟨_, rfl⟩ | ⟨other, rfl⟩⟩ := mem_updateWhere.mp member
  · split <;> rfl
  · simp [named] at other

theorem finalize_sameStatus
    (different : plan.request.id ≠ requestId) :
    SameStatus requestId db (finalize db input status plan) :=
  updateApprovalRequest_sameStatus (fun same => absurd same different)
    fun row => by split <;> rfl

private theorem effect_moves (inside : before.finalizing = some own)
    (stays : after.finalizing = some own) (same : next.approvalRequests = db.approvalRequests)
    (about : ∀ event ∈ before.events, event.requestId = own)
    (emits : after.emitted = before.emitted ++ before.events) :
    StepEffect requestId db next before after := by
  by_cases named : own = requestId
  · subst named
    exact .continues (.of_eq same) emits inside stays
  · refine .outside ?_ (.of_eq same) (by simpa [inside] using named) (by simpa [stays] using named)
    refine List.filter_eq_nil_iff.mpr fun event member => ?_
    simpa [about event member] using named

private theorem effect_stops (inside : before.finalizing = some own)
    (leaves : after.finalizing = none) (same : next.approvalRequests = db.approvalRequests)
    (events : before.events = []) (emits : before.emitted = []) :
    StepEffect requestId db next before after := by
  by_cases named : own = requestId
  · subst named
    exact .fails (.of_eq same) events emits inside leaves
  · exact .outside (by simp [events]) (.of_eq same) (by simpa [inside] using named)
      (by simp [leaves])

private theorem effect_finalizes
    (inside : before.finalizing = some plan.request.id) (leaves : after.finalizing = none)
    (notPending : status ≠ .pending)
    (events : before.events = [.finalized plan.request.id status])
    (hidden : status = .rejected → before.emitted = []) :
    StepEffect requestId db (finalize db input status plan) before after := by
  by_cases named : plan.request.id = requestId
  · subst named
    exact .finalizes status notPending finalize_status events hidden inside leaves
  · refine .outside ?_ (finalize_sameStatus named) (by simpa [inside] using named)
      (by simp [leaves])
    simpa [events, ReviewEvent.requestId] using named

private theorem effect_idle (events : before.events = []) (outside : before.finalizing = none)
    (leaves : after.finalizing = none) (status : SameStatus requestId db next) :
    StepEffect requestId db next before after :=
  .outside (by simp [events]) status (by simp [outside]) (by simp [leaves])

theorem carryOut_effect (plan : ReviewPlan) :
    StepEffect requestId db (carryOut db input plan).1 (.planned plan)
      (carryOut db input plan).2 := by
  cases plan with
  | reject request => exact effect_finalizes rfl rfl (by decide) rfl fun _ => rfl
  | approveOnly request => exact effect_finalizes rfl rfl (by decide) rfl fun _ => rfl
  | recordApproval request payload =>
    exact effect_idle rfl rfl rfl
      (updateApprovalRequest_sameStatus (fun _ _ => rfl) fun _ => rfl)
  | publish request payload =>
    simp only [carryOut]
    split
    · exact effect_moves rfl rfl rfl (by simp [ReviewStage.events]) rfl
    · exact effect_stops rfl rfl rfl rfl rfl

private theorem planned_finalizing
    (inside : (ReviewStage.planned plan).finalizing = some requestId) :
    plan.request.id = requestId := by
  cases plan with
  | recordApproval request payload => cases inside
  | reject request => exact Option.some.inj inside
  | approveOnly request => exact Option.some.inj inside
  | publish request payload => exact Option.some.inj inside

theorem createArtifactVersion_eq_ok :
    createArtifactVersion db pageId options now = .ok next ↔
      ∃ page, findLandingPage db pageId = .ok page ∧
        next = appendVersion db page .superseded (publishedVersion db page options now) := by
  simp only [createArtifactVersion, bind_eq_ok, pure_eq_ok, eq_comm (a := next)]

theorem createArtifactVersion_approvalRequests
    (records : createArtifactVersion db pageId options now = .ok next) :
    next.approvalRequests = db.approvalRequests := by
  obtain ⟨page, _, rfl⟩ := createArtifactVersion_eq_ok.mp records
  rfl

theorem createArtifactVersion_succeeds
    {cause : EditorError} (present : pageId ∈ db.landingPages.map (·.id)) :
    createArtifactVersion db pageId options now ≠ .error cause := by
  obtain ⟨row, member, named⟩ := List.mem_map.mp present
  obtain ⟨page, found⟩ := Option.isSome_iff_exists.mp
    (List.find?_isSome (p := (·.id == pageId)) |>.mpr ⟨row, member, by simpa using named⟩)
  intro stopped
  rw [createArtifactVersion_eq_ok.mpr ⟨page, findLandingPage_eq_ok.mpr found, rfl⟩] at stopped
  cases stopped

theorem reviewStep_effect (sound : stage.Sound db) :
    StepEffect requestId db (reviewStep platform db input stage).1 stage
      (reviewStep platform db input stage).2 := by
  cases stage with
  | waiting =>
    simp only [reviewStep]
    split
    · rename_i plan planned
      by_cases inside : (ReviewStage.planned plan).finalizing = some requestId
      · obtain ⟨_, known, _, _, pending⟩ := (plan_ok planned).1
        exact .enters rfl ⟨plan.request, known, planned_finalizing inside, pending⟩ (.of_eq rfl)
          rfl inside
      · exact .outside rfl (.of_eq rfl) (by simp [ReviewStage.finalizing]) inside
    · exact effect_idle rfl rfl rfl (.of_eq rfl)
  | planned plan => exact carryOut_effect plan
  | checked request payload =>
    simp only [reviewStep]
    split
    · exact effect_moves rfl rfl rfl (by simp [ReviewStage.events]) rfl
    · exact effect_stops rfl rfl rfl rfl rfl
  | prepared request payload page scrubbed =>
    exact effect_moves rfl rfl rfl (by simp [ReviewStage.events, ReviewEvent.requestId]) rfl
  | written request payload page =>
    exact effect_moves rfl rfl rfl (by simp [ReviewStage.events]) rfl
  | synced request payload page =>
    simp only [reviewStep]
    split
    · rename_i recorded records
      exact effect_moves rfl rfl (createArtifactVersion_approvalRequests records)
        (by simp [ReviewStage.events]) rfl
    · rename_i cause stopped
      exact absurd stopped (createArtifactVersion_succeeds sound)
  | recorded request payload page =>
    exact effect_moves rfl rfl (afterPublish_approvalRequests db input request)
      (by simp [ReviewStage.events]) rfl
  | cleared request payload page =>
    exact effect_finalizes rfl rfl (by decide) rfl (fun impossible => by cases impossible)
  | done outcome => exact effect_idle rfl rfl rfl (.of_eq rfl)

theorem carryOut_pages (plan : ReviewPlan) :
    (carryOut db input plan).1.landingPages = db.landingPages := by
  cases plan with
  | reject request => rfl
  | approveOnly request => rfl
  | recordApproval request payload => rfl
  | publish request payload =>
    simp only [carryOut]
    split <;> rfl

theorem reviewStep_pageIds (stage : ReviewStage) :
    (reviewStep platform db input stage).1.landingPages.map (·.id) =
      db.landingPages.map (·.id) := by
  cases stage with
  | waiting =>
    simp only [reviewStep]
    split <;> rfl
  | planned plan => exact congrArg _ (carryOut_pages plan)
  | checked request payload =>
    simp only [reviewStep]
    split <;> rfl
  | prepared request payload page scrubbed => exact map_updateWhere fun _ => rfl
  | written request payload page => rfl
  | synced request payload page =>
    simp only [reviewStep]
    split
    · rename_i recorded records
      obtain ⟨row, _, rfl⟩ := createArtifactVersion_eq_ok.mp records
      rfl
    · rfl
  | recorded request payload page =>
    exact congrArg _ (afterPublish_sameTables db input request).pages
  | cleared request payload page => rfl
  | done outcome => rfl

theorem ReviewStage.Sound.of_pageIds (sound : stage.Sound db)
    (same : next.landingPages.map (·.id) = db.landingPages.map (·.id)) : stage.Sound next := by
  cases stage <;> simp only [Sound, same] at sound ⊢ <;> exact sound

private theorem carryOut_sound (plan : ReviewPlan) : (carryOut db input plan).2.Sound next := by
  cases plan with
  | reject request => trivial
  | approveOnly request => trivial
  | recordApproval request payload => trivial
  | publish request payload =>
    simp only [carryOut]
    split <;> trivial

theorem reviewStep_sound (sound : stage.Sound db) :
    (reviewStep platform db input stage).2.Sound (reviewStep platform db input stage).1 := by
  cases stage with
  | waiting =>
    simp only [reviewStep]
    split <;> trivial
  | planned plan => exact carryOut_sound plan
  | checked request payload =>
    simp only [reviewStep]
    split
    · rename_i page scrubbed prepared
      have found := findLandingPage_id (preparePublish_eq_ok.mp prepared).1
      exact List.mem_map_of_mem found.1
    · trivial
  | prepared request payload page scrubbed =>
    have later : (ReviewStage.written request payload page).Sound db := sound
    exact later.of_pageIds (reviewStep_pageIds (.prepared request payload page scrubbed))
  | written request payload page => exact sound
  | synced request payload page =>
    simp only [reviewStep]
    split <;> trivial
  | recorded request payload page => trivial
  | cleared request payload page => trivial
  | done outcome => trivial

end

def eventsOf (requestId : RowId) (events : List ReviewEvent) : List ReviewEvent :=
  events.filter (·.requestId == requestId)

@[simp] theorem eventsOf_append (requestId : RowId) (first second : List ReviewEvent) :
    eventsOf requestId (first ++ second) = eventsOf requestId first ++ eventsOf requestId second :=
  List.filter_append ..

def StatusIs (db : Database) (requestId : RowId) (status : ApprovalStatus) : Prop :=
  ∀ row ∈ db.approvalRequests, row.id = requestId → row.status = status

/-- The events that close a request: a rejection or an approval, after one
publish if there was one. -/
inductive ClosedBy (requestId : RowId) : ApprovalStatus → List ReviewEvent → Prop where
  | plain (final : ApprovalStatus) (notPending : final ≠ .pending) :
      ClosedBy requestId final [.finalized requestId final]
  | published (pageId : RowId) :
      ClosedBy requestId .approved [.published requestId pageId, .finalized requestId .approved]

inductive Phase (requestId : RowId) (events : List ReviewEvent) (system : ReviewSystem) : Prop where
  | idle (nobody : Nobody (Finalizes requestId) system)
      (pending : StatusIs system.shared requestId .pending) (noted : eventsOf requestId events = [])
  | busy (index : Nat) (active : ActiveReview) (there : system.processes[index]? = some active)
      (inside : Finalizes requestId active) (alone : Alone (Finalizes requestId) system index)
      (pending : StatusIs system.shared requestId .pending)
      (noted : eventsOf requestId events = active.stage.emitted)
  | closed (nobody : Nobody (Finalizes requestId) system) (final : ApprovalStatus)
      (status : StatusIs system.shared requestId final)
      (noted : ClosedBy requestId final (eventsOf requestId events))

structure ReviewInvariant (requestId : RowId) (events : List ReviewEvent) (system : ReviewSystem) :
    Prop where
  sound : ∀ active ∈ system.processes, active.stage.Sound system.shared
  phase : Phase requestId events system

section

variable {platform : Platform} {system : ReviewSystem} {requestId : RowId} {index : Nat}
  {active : ActiveReview} {events : List ReviewEvent}

theorem StatusIs.of_same {db next : Database} {status : ApprovalStatus}
    (is : StatusIs db requestId status) (same : SameStatus requestId db next) :
    StatusIs next requestId status := by
  intro row member named
  obtain ⟨old, inOld, oldNamed, oldStatus⟩ := same row member named
  exact oldStatus ▸ is old inOld oldNamed

variable {stage : ReviewStage} {final : ApprovalStatus}

theorem emitted_cases (inside : stage.finalizing = some requestId) :
    stage.emitted = [] ∨ ∃ pageId, stage.emitted = [.published requestId pageId] := by
  cases stage with
  | waiting => exact .inl rfl
  | planned plan => exact .inl rfl
  | checked request payload => exact .inl rfl
  | prepared request payload page scrubbed => exact .inl rfl
  | done outcome => exact .inl rfl
  | written request payload page | synced request payload page | recorded request payload page
  | cleared request payload page =>
    exact .inr ⟨request.targetId, by rw [← Option.some.inj inside]; rfl⟩

private theorem reviewTurn_sound (there : system.processes[index]? = some active)
    (sound : ∀ active ∈ system.processes, active.stage.Sound system.shared) :
    ∀ moved ∈ (reviewTurn platform system index).processes,
      moved.stage.Sound (reviewTurn platform system index).shared := by
  intro moved member
  have shared : (reviewTurn platform system index).shared =
      (reviewStep platform system.shared active.input active.stage).1 := by
    rw [reviewTurn, turn_some there]
    rfl
  obtain ⟨other, inNext⟩ := List.mem_iff_getElem?.mp member
  rw [reviewTurn, getElem?_turn there] at inNext
  rw [shared]
  split at inNext
  · obtain rfl := Option.some.inj inNext
    exact reviewStep_sound (sound active (List.mem_of_getElem? there))
  · exact (sound moved (List.mem_of_getElem? inNext)).of_pageIds (reviewStep_pageIds active.stage)

theorem eventsOf_finalizing (inside : stage.finalizing = some requestId) :
    eventsOf requestId stage.events = stage.events := by
  refine List.filter_eq_self.mpr fun event member => ?_
  cases stage with
  | planned plan =>
    cases plan with
    | reject request | approveOnly request =>
      obtain rfl : request.id = requestId := Option.some.inj inside
      simp_all [ReviewStage.events, ReviewEvent.requestId]
    | recordApproval request payload | publish request payload => cases member
  | prepared request payload page scrubbed | cleared request payload page =>
    obtain rfl : request.id = requestId := Option.some.inj inside
    simp_all [ReviewStage.events, ReviewEvent.requestId]
  | waiting | checked request payload | written request payload page | synced request payload page
  | recorded request payload page | done outcome => cases member

theorem waiting_enters {db : Database} {input : ReviewInput}
    (inside : (reviewStep platform db input .waiting).2.finalizing = some requestId) :
    ∃ plan, input.plan db = .ok plan ∧ (ReviewStage.planned plan).finalizing = some requestId := by
  simp only [reviewStep] at inside
  split at inside
  · rename_i plan planned
    exact ⟨plan, planned, inside⟩
  · cases inside

theorem ClosedBy.notPending {notes : List ReviewEvent}
    (closed : ClosedBy requestId final notes) : final ≠ .pending := by
  cases closed with
  | plain notPending => assumption
  | published pageId => decide

private theorem emitted_closes
    (inside : stage.finalizing = some requestId) (notPending : final ≠ .pending)
    (hidden : final = .rejected → stage.emitted = []) :
    ClosedBy requestId final (stage.emitted ++ [.finalized requestId final]) := by
  rcases emitted_cases inside with nothing | ⟨pageId, published⟩
  · rw [nothing]
    exact .plain final notPending
  · rw [published]
    cases final with
    | pending => exact absurd rfl notPending
    | approved => exact .published pageId
    | rejected =>
      rw [published] at hidden
      cases hidden rfl

theorem reviewTurn_phase (there : system.processes[index]? = some active)
    (sound : active.stage.Sound system.shared) (apart : ReviewsApart system index)
    (phase : Phase requestId events system) :
    Phase requestId (events ++ active.stage.events) (reviewTurn platform system index) := by
  have effect : StepEffect requestId system.shared
      (reviewStep platform system.shared active.input active.stage).1 active.stage
      (reviewStep platform system.shared active.input active.stage).2 := reviewStep_effect sound
  have shared : (reviewTurn platform system index).shared =
      (reviewStep platform system.shared active.input active.stage).1 := by
    rw [reviewTurn, turn_some there]
    rfl
  have moved : (reviewTurn platform system index).processes[index]? =
      some (advance platform system.shared active).2 := by
    rw [reviewTurn, getElem?_turn there, if_pos rfl]
  cases phase with
  | idle nobody pending noted =>
    have outside := nobody index active there
    cases effect with
    | outside quiet same stays leaves =>
      exact .idle (nobody.turn there leaves) (shared ▸ pending.of_same same)
        (by rw [eventsOf_append, noted]; exact quiet)
    | enters waiting read same fresh inside =>
      have quiet : active.stage.events = [] := by rw [waiting]; rfl
      exact .busy index _ moved inside (nobody.alone.turn_self there)
        (shared ▸ pending.of_same same) (by rw [quiet, List.append_nil, noted]; exact fresh.symm)
    | continues same emits inside stays => exact absurd inside outside
    | fails same quiet emits inside leaves => exact absurd inside outside
    | finalizes final notPending same event hidden inside leaves => exact absurd inside outside
  | busy holder held atHolder isHeld alone pending noted =>
    by_cases own : index = holder
    · subst own
      obtain rfl : held = active := Option.some.inj (atHolder.symm.trans there)
      have quietOr := eventsOf_finalizing isHeld
      cases effect with
      | outside quiet same stays leaves => exact absurd isHeld stays
      | enters waiting read same fresh inside =>
        rw [Finalizes, waiting] at isHeld
        cases isHeld
      | continues same emits inside stays =>
        exact .busy index _ moved stays (alone.turn_self there) (shared ▸ pending.of_same same)
          (by rw [eventsOf_append, noted, quietOr]; exact emits.symm)
      | fails same quiet emits inside leaves =>
        exact .idle (alone.leaves there (by simp [Finalizes, advance, leaves]))
          (shared ▸ pending.of_same same) (by rw [quiet, List.append_nil, noted, emits])
      | finalizes final notPending same event hidden inside leaves =>
        refine .closed (alone.leaves there (by simp [Finalizes, advance, leaves])) final
          (shared ▸ same) ?_
        rw [eventsOf_append, noted, quietOr, event]
        exact emitted_closes inside notPending hidden
    · have outside (inside : Finalizes requestId active) : False :=
        own (alone index active there inside)
      cases effect with
      | outside quiet same stays leaves =>
        refine .busy holder held ?_ isHeld (alone.turn_other there leaves)
          (shared ▸ pending.of_same same) ?_
        · rw [reviewTurn, getElem?_turn there, if_neg (Ne.symm own), atHolder]
        · rw [eventsOf_append, noted, show eventsOf requestId active.stage.events = [] from quiet,
            List.append_nil]
      | enters waiting read same fresh inside =>
        rw [waiting] at inside
        obtain ⟨plan, planned, finalizes⟩ := waiting_enters inside
        exact absurd isHeld
          (apart active there waiting plan planned requestId finalizes holder held atHolder)
      | continues same emits inside stays => exact (outside inside).elim
      | fails same quiet emits inside leaves => exact (outside inside).elim
      | finalizes final notPending same event hidden inside leaves => exact (outside inside).elim
  | closed nobody final status noted =>
    have outside := nobody index active there
    cases effect with
    | outside quiet same stays leaves =>
      refine .closed (nobody.turn there leaves) final (shared ▸ status.of_same same) ?_
      rw [eventsOf_append, show eventsOf requestId active.stage.events = [] from quiet,
        List.append_nil]
      exact noted
    | enters waiting read same fresh inside =>
      obtain ⟨row, member, named, pending⟩ := read
      exact absurd ((status row member named).symm.trans pending) noted.notPending
    | continues same emits inside stays => exact absurd inside outside
    | fails same quiet emits inside leaves => exact absurd inside outside
    | finalizes final notPending same event hidden inside leaves => exact absurd inside outside

end

def finalStatuses (requestId : RowId) (events : List ReviewEvent) : List ApprovalStatus :=
  (eventsOf requestId events).filterMap fun
    | .finalized _ status => some status
    | .published _ _ => none

def publishedPages (requestId : RowId) (events : List ReviewEvent) : List RowId :=
  (eventsOf requestId events).filterMap fun
    | .finalized _ _ => none
    | .published _ pageId => some pageId

/-- The request is pending and nobody finalized it, or it has the one final
status that was given to it. -/
structure FinalizedAtMostOnce (requestId : RowId) (events : List ReviewEvent) (db : Database) :
    Prop where
  finalized :
    (finalStatuses requestId events = [] ∧ StatusIs db requestId .pending) ∨
      ∃ final, final ≠ .pending ∧ finalStatuses requestId events = [final] ∧
        StatusIs db requestId final
  publishedOnce : (publishedPages requestId events).length ≤ 1
  notBoth : .rejected ∈ finalStatuses requestId events → publishedPages requestId events = []

private theorem ClosedBy.counts {requestId : RowId} {final : ApprovalStatus}
    {events : List ReviewEvent} (closed : ClosedBy requestId final (eventsOf requestId events)) :
    finalStatuses requestId events = [final] ∧ (publishedPages requestId events).length ≤ 1 ∧
      (final = .rejected → publishedPages requestId events = []) := by
  unfold finalStatuses publishedPages
  generalize eventsOf requestId events = notes at closed ⊢
  cases closed with
  | plain notPending => exact ⟨rfl, Nat.zero_le _, fun _ => rfl⟩
  | published pageId => exact ⟨rfl, Nat.le_refl _, fun impossible => by cases impossible⟩

theorem Phase.finalizedAtMostOnce {requestId : RowId} {events : List ReviewEvent}
    {system : ReviewSystem} (phase : Phase requestId events system) :
    FinalizedAtMostOnce requestId events system.shared := by
  cases phase with
  | idle nobody pending noted =>
    exact ⟨.inl ⟨by simp [finalStatuses, noted], pending⟩, by simp [publishedPages, noted],
      by simp [publishedPages, noted]⟩
  | busy index active there inside alone pending noted =>
    rcases emitted_cases inside with nothing | ⟨pageId, published⟩
    · rw [nothing] at noted
      exact ⟨.inl ⟨by simp [finalStatuses, noted], pending⟩, by simp [publishedPages, noted],
        by simp [publishedPages, noted]⟩
    · rw [published] at noted
      exact ⟨.inl ⟨by simp [finalStatuses, noted], pending⟩, by simp [publishedPages, noted],
        by simp [finalStatuses, noted]⟩
  | closed nobody final status noted =>
    obtain ⟨statuses, once, hidden⟩ := noted.counts
    refine ⟨.inr ⟨final, noted.notPending, statuses, status⟩, once, fun rejected => ?_⟩
    rw [statuses] at rejected
    exact hidden (List.mem_singleton.mp rejected).symm

theorem reviewTurn_invariant {platform : Platform} {system : ReviewSystem} {requestId : RowId}
    {index : Nat} {events : List ReviewEvent}
    (invariant : ReviewInvariant requestId events system) (apart : ReviewsApart system index) :
    ReviewInvariant requestId (events ++ observeTurn system index)
      (reviewTurn platform system index) := by
  cases there : system.processes[index]? with
  | none =>
    rw [observeTurn, there, List.append_nil, reviewTurn, turn_none there]
    exact invariant
  | some active =>
    have sound := invariant.sound active (List.mem_of_getElem? there)
    rw [observeTurn, there]
    exact ⟨reviewTurn_sound there invariant.sound,
      reviewTurn_phase there sound apart invariant.phase⟩

/-- Reviews that do not overlap finalize a pending request at most once,
publish its page at most once, and never both reject and publish. -/
theorem reviews_finalize_once {platform : Platform} {initial : ReviewSystem}
    {schedule : List Nat} {requestId : RowId}
    (fresh : ∀ active ∈ initial.processes, active.stage = .waiting)
    (pending : StatusIs initial.shared requestId .pending)
    (apart : Guarded (reviewTurn platform) ReviewsApart initial schedule) :
    FinalizedAtMostOnce requestId (log (reviewTurn platform) observeTurn initial schedule)
      (run (reviewTurn platform) initial schedule).shared := by
  have nobody : Nobody (Finalizes requestId) initial := by
    intro other active there inside
    rw [Finalizes, fresh active (List.mem_of_getElem? there)] at inside
    cases inside
  have start : ReviewInvariant requestId [] initial := by
    refine ⟨fun active member => ?_, .idle nobody pending rfl⟩
    rw [fresh active member]
    trivial
  have final := run_log_invariant (ReviewInvariant requestId)
    (fun _ _ _ => reviewTurn_invariant) start apart
  exact final.phase.finalizedAtMostOnce

def rejectPublish : ReviewInput where
  endpoint := .lifecycleQueue
  caller := acmeAdmin
  requestId := 12
  decision := .reject
  now := 6

def twoReviews : ReviewSystem where
  shared := queuedDatabase
  processes := [{ input := approvePublish }, { input := rejectPublish }]

theorem twoReviews_fresh : ∀ active ∈ twoReviews.processes, active.stage = .waiting := by
  decide

theorem twoReviews_pending : StatusIs twoReviews.shared 12 .pending := by
  unfold StatusIs
  decide +kernel

theorem ReviewsApart.of_idle {system : ReviewSystem} {index : Nat}
    (idle : ∀ active ∈ system.processes, active.stage.finalizing = none) :
    ReviewsApart system index := by
  intro _ _ _ _ _ requestId _ other active there inside
  rw [Finalizes, idle active (List.mem_of_getElem? there)] at inside
  cases inside

theorem ReviewsApart.of_started {system : ReviewSystem} {index : Nat}
    (started : ∀ active, system.processes[index]? = some active → active.stage ≠ .waiting) :
    ReviewsApart system index :=
  fun active there waiting => absurd waiting (started active there)

/-- The rejection goes first; the approval then finds a finalized request. -/
theorem rejection_finalizes_once :
    FinalizedAtMostOnce 12 (log (reviewTurn .ascii) observeTurn twoReviews [1, 1, 0])
      (run (reviewTurn .ascii) twoReviews [1, 1, 0]).shared := by
  refine reviews_finalize_once twoReviews_fresh twoReviews_pending
    (guarded_cons.mpr ⟨.of_idle ?_, guarded_cons.mpr ⟨.of_started ?_,
      guarded_cons.mpr ⟨.of_idle ?_, guarded_nil _ _ _⟩⟩⟩)
  · decide
  · intro active there waiting
    have stage : (reviewTurn .ascii twoReviews 1).processes[1]?.map
        (·.stage.finalizing) = some (some 12) := by decide +kernel
    rw [there, Option.map_some, waiting] at stage
    cases stage
  · decide +kernel

/-- The approval reads the request before the rejection is written. -/
theorem overlapping_reviews_finalize_twice :
    (∀ active ∈ twoReviews.processes, active.stage = .waiting) ∧
    StatusIs twoReviews.shared 12 .pending ∧
    ¬FinalizedAtMostOnce 12
      (log (reviewTurn .ascii) observeTurn twoReviews [0, 1, 1, 0, 0, 0, 0, 0, 0, 0])
      (run (reviewTurn .ascii) twoReviews [0, 1, 1, 0, 0, 0, 0, 0, 0, 0]).shared := by
  refine ⟨twoReviews_fresh, twoReviews_pending, fun once => ?_⟩
  have statuses : finalStatuses 12
      (log (reviewTurn .ascii) observeTurn twoReviews [0, 1, 1, 0, 0, 0, 0, 0, 0, 0]) =
        [.rejected, .approved] := by
    decide +kernel
  have pages : publishedPages 12
      (log (reviewTurn .ascii) observeTurn twoReviews [0, 1, 1, 0, 0, 0, 0, 0, 0, 0]) = [10] := by
    decide +kernel
  have hidden := once.notBoth (by rw [statuses]; decide)
  rw [pages] at hidden
  cases hidden

end StoryEngine.Approval
