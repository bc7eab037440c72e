import StoryEngine.Approval.Chain

namespace StoryEngine.Approval

open Data Schema Access Pages Routes

/-! # The configured chain and the stored one

An organization configures the steps of its approval chain; a publish request
carries steps of its own, and only these are enforced.
-/

inductive PublishingAction where
  | publish (caller : Caller) (pageId : RowId) (body : PublishRequestOptions) (now : Date)
  | review (input : ReviewInput)

def publishingStep (platform : Platform) (db : Database) : PublishingAction → Database
  | .publish caller pageId body now =>
    serve platform db { caller, request := .publish pageId body, now }
  | .review input =>
    match review platform db (input.sentTo .landingPages) with
    | .ok (_, next) => next
    | .error _ => db

def configuredSteps (db : Database) (request : ApprovalRequest) : List PublishApprovalStep :=
  (getArtifactPublishGovernance db request.organizationId).steps

/-- Every configured step has its minimum of different users, whose approvals were
recorded by reviews of the run while the step admitted them. -/
def ChainEnforced (platform : Platform) (taken : List (Database × PublishingAction))
    (db : Database) (request : ApprovalRequest) (approvals : List StepApproval) : Prop :=
  ∀ step ∈ configuredSteps db request, ∃ users : List RowId,
    users.Nodup ∧ step.minApprovals ≤ (users.length : Int) ∧
    ∀ user ∈ users, ∃ approval ∈ approvals,
      approval.stepOrder = step.stepOrder ∧ approval.reviewerUserId = user ∧
      ∃ one ∈ taken, ∃ input, one.2 = .review input ∧
        RecordsApproval platform request.id step approval one.1 input

/-- A step that asks for approvals is the first, asks for one, and admits the caller. -/
def SoleApproverSuffices (db : Database) (input : ReviewInput) (request : ApprovalRequest) : Prop :=
  ∀ step ∈ configuredSteps db request, 1 ≤ step.minApprovals →
    step.minApprovals = 1 ∧ step.stepOrder = 1 ∧
      canUserApproveStep db input.caller step request.requestedByUserId = true

instance (db : Database) (input : ReviewInput) (request : ApprovalRequest) :
    Decidable (SoleApproverSuffices db input request) :=
  inferInstanceAs (Decidable (∀ step ∈ configuredSteps db request, _ → _))

structure AsRequested (payload : PublishApprovalPayload) : Prop where
  steps : payload.steps = []
  approvals : payload.approvals = []
  current : payload.currentStepOrder = some 1

/-- Request ids are handed out once, and a pending request is as it was stored. -/
structure RequestsStored (db : Database) : Prop where
  distinct : (db.approvalRequests.map (·.id)).Nodup
  fresh : ∀ request ∈ db.approvalRequests, request.id < db.nextId
  pending : ∀ request ∈ db.approvalRequests, request.status = .pending →
    AsRequested request.requestPayload

section

variable {platform : Platform} {db next : Database} {input : ReviewInput}
  {request : ApprovalRequest}

theorem RequestsStored.same (stored : RequestsStored db)
    (table : next.approvalRequests = db.approvalRequests) (ids : db.nextId ≤ next.nextId) :
    RequestsStored next := by
  refine ⟨by rw [table]; exact stored.distinct, ?_, by rw [table]; exact stored.pending⟩
  intro row member
  rw [table] at member
  exact Nat.lt_of_lt_of_le (stored.fresh row member) ids

variable {pageId requestId : RowId} {now : Date} {caller : Caller} {body : PublishRequestOptions}
  {response : ReviewResponse}

theorem publish_nextId {options : PublishOptions}
    {receipt : PublishReceipt}
    (published : publish platform db pageId options now = .ok (next, receipt)) :
    db.nextId ≤ next.nextId := by
  obtain ⟨page, scrubbed, _, same⟩ := publish_eq_ok.mp published
  obtain ⟨rfl, -⟩ := Prod.mk.inj same
  exact Nat.le_succ _

theorem publishRoute_requests
    {response : PageResponse}
    (handled : publishRoute platform db caller now pageId body = .ok (response, next)) :
    (next.approvalRequests = db.approvalRequests ∧ db.nextId ≤ next.nextId) ∨
      ∃ added, added.id = db.nextId ∧ AsRequested added.requestPayload ∧
        next.approvalRequests = db.approvalRequests ++ [added] ∧ next.nextId = db.nextId + 1 := by
  simp only [publishRoute, bind_eq_ok, ensure_eq_ok, mapError_eq_ok] at handled
  obtain ⟨_, _, _, _, page, _, _, _, _, _, decided⟩ := handled
  split at decided
  · split at decided
    · cases decided
    · obtain ⟨-, rfl⟩ := Prod.mk.inj (Except.ok.inj decided)
      exact .inr ⟨_, rfl, ⟨rfl, rfl, rfl⟩, rfl, rfl⟩
  · simp only [bind_eq_ok, mapError_eq_ok, pure_eq_ok] at decided
    obtain ⟨⟨published, receipt⟩, publishes, same⟩ := decided
    obtain ⟨-, rfl⟩ := Prod.mk.inj same
    have requests : published.approvalRequests = db.approvalRequests :=
      publish_approvalRequests publishes
    have ids : db.nextId ≤ published.nextId := publish_nextId publishes
    exact .inl ⟨requests, ids⟩

theorem serve_publish_stored
    (stored : RequestsStored db) :
    RequestsStored (serve platform db { caller, request := .publish pageId body, now }) := by
  simp only [serve]
  split
  · rename_i response next handled
    simp only [handle, bind_eq_ok] at handled
    obtain ⟨_, _, handled⟩ := handled
    rcases publishRoute_requests handled with ⟨table, ids⟩ | ⟨added, id, asRequested, table, ids⟩
    · exact stored.same table ids
    · have unused : ∀ old ∈ db.approvalRequests, old.id ≠ added.id := fun old member =>
        id ▸ Nat.ne_of_lt (stored.fresh old member)
      refine ⟨by rw [table]; exact nodup_map_append_fresh stored.distinct unused, ?_, ?_⟩
      · intro row member
        rw [ids]
        rw [table] at member
        rcases List.mem_append.mp member with inOld | isNew
        · exact Nat.lt_succ_of_lt (stored.fresh row inOld)
        · rw [List.mem_singleton.mp isNew, id]
          exact Nat.lt_succ_self _
      · intro row member pending
        rw [table] at member
        rcases List.mem_append.mp member with inOld | isNew
        · exact stored.pending row inOld pending
        · rwa [List.mem_singleton.mp isNew]
  · exact stored

theorem AsRequested.chainEnds (asRequested : AsRequested request.requestPayload) :
    ChainEnds request.requestPayload := by
  refine ⟨?_, ?_⟩
  · simp [currentStep, asRequested.steps, asRequested.approvals]
  · simp [asRequested.steps]

theorem AsRequested.withApproval (asRequested : AsRequested request.requestPayload)
    (input : ReviewInput) :
    Approval.withApproval input request.requestPayload = [{
      stepOrder := 1
      reviewerUserId := input.caller.userId
      decidedAt := input.now
      notes := input.notes }] := by
  simp [Approval.withApproval, asRequested.approvals, currentStepOrder, asRequested.current]

theorem review_nextId
    (reviewed : review platform db input = .ok (response, next)) : db.nextId ≤ next.nextId := by
  rcases review_ok reviewed with same | ⟨_, _, published, _, _, publishes, same, _⟩
  · exact same.ids
  · exact Nat.le_trans (publish_nextId publishes) same.ids

theorem RequestsStored.finalized (stored : RequestsStored db)
    {change : ApprovalRequest → ApprovalRequest} (kept : ∀ row, (change row).id = row.id)
    (closes : ∀ row, (change row).status ≠ .pending)
    (table : next.approvalRequests =
      updateWhere db.approvalRequests (·.id == requestId) change)
    (ids : db.nextId ≤ next.nextId) : RequestsStored next := by
  refine ⟨by rw [table, map_updateWhere kept]; exact stored.distinct, ?_, ?_⟩
  · rw [table]
    have later : ∀ row ∈ db.approvalRequests, row.id < next.nextId :=
      fun row member => Nat.lt_of_lt_of_le (stored.fresh row member) ids
    exact forall_mem_updateWhere later fun old _ _ below => (kept old).symm ▸ below
  · rw [table]
    exact forall_mem_updateWhere stored.pending fun old _ _ _ pending =>
      absurd pending (closes old)

theorem review_finalizes (stored : RequestsStored db)
    (reviewed : review platform db (input.sentTo .landingPages) = .ok (response, next)) :
    ∃ request ∈ db.approvalRequests, ∃ change : ApprovalRequest → ApprovalRequest,
      request.id = input.requestId ∧ request.status = .pending ∧
      (∀ row, (change row).id = row.id) ∧ (∀ row, (change row).status ≠ .pending) ∧
      next.approvalRequests = updateWhere db.approvalRequests (·.id == request.id) change := by
  obtain ⟨request, known, named, pending, writes⟩ := review_writes reviewed
  cases writes with
  | rejects _ table =>
    exact ⟨request, known, fun row => finalizeData input .rejected row.requestPayload row, named,
      pending, fun _ => rfl, fun _ => by simp [finalizeData], table⟩
  | records payload decision rules planned table =>
    have publishes : ∃ payload, planApproval input request = .publish request payload :=
      ⟨_, (planApproval_publishes _).mpr ⟨(stored.pending request known pending).chainEnds, rfl⟩⟩
    obtain ⟨published, publishes⟩ := publishes
    rw [planned] at publishes
    cases publishes
  | publishes payload receipt decision rules planned table =>
    exact ⟨request, known, finalizeData input .approved payload, named, pending, fun _ => rfl,
      fun _ => by simp [finalizeData], table⟩

theorem publishingStep_stored (stored : RequestsStored db) (action : PublishingAction) :
    RequestsStored (publishingStep platform db action) := by
  cases action with
  | publish caller pageId body now => exact serve_publish_stored stored
  | review input =>
    simp only [publishingStep]
    split
    · rename_i response next reviewed
      obtain ⟨request, _, change, _, _, kept, closes, table⟩ := review_finalizes stored reviewed
      exact stored.finalized kept closes table (review_nextId reviewed)
    · exact stored

theorem publishingStep_keeps (stored : RequestsStored db) (action : PublishingAction)
    {row : ApprovalRequest} (member : row ∈ db.approvalRequests) (closed : row.status ≠ .pending) :
    row ∈ (publishingStep platform db action).approvalRequests := by
  cases action with
  | publish caller pageId body now =>
    simp only [publishingStep, serve]
    split
    · rename_i response next handled
      simp only [handle, bind_eq_ok] at handled
      obtain ⟨_, _, handled⟩ := handled
      rcases publishRoute_requests handled with ⟨table, _⟩ | ⟨added, _, _, table, _⟩
      · rwa [table]
      · rw [table]
        exact List.mem_append_left _ member
    · exact member
  | review input =>
    simp only [publishingStep]
    split
    · rename_i response next reviewed
      obtain ⟨request, known, change, _, pending, _, _, table⟩ := review_finalizes stored reviewed
      have other : row.id ≠ request.id := fun same =>
        closed (List.inj_on_of_nodup_map stored.distinct member known same ▸ pending)
      rw [table]
      exact mem_updateWhere.mpr ⟨row, member, .inr ⟨by simpa using other, rfl⟩⟩
    · exact member

theorem RecordsApproval.finalizes {step : PublishApprovalStep}
    {approval : StepApproval} (stored : RequestsStored db)
    (records : RecordsApproval platform requestId step approval db input) :
    ∃ row ∈ (publishingStep platform db (.review input)).approvalRequests,
      row.id = requestId ∧ row.status ≠ .pending := by
  obtain ⟨response, next, reviewed⟩ := records.accepted
  obtain ⟨wanted, inTable, isWanted, wantedId, _⟩ := records.adds
  obtain ⟨request, known, change, named, _, kept, closes, table⟩ :=
    review_finalizes stored reviewed
  simp only [publishingStep, reviewed, table]
  refine ⟨change request, mem_updateWhere.mpr ⟨request, known, .inl ⟨by simp, rfl⟩⟩, ?_,
    closes request⟩
  rw [kept, named, ← wantedId, isWanted]

/-- The requests of a run, and what its reviews have recorded. -/
structure RequestPhase (platform : Platform) (taken : List (Database × PublishingAction))
    (db : Database) : Prop where
  stored : RequestsStored db
  spent : ∀ one ∈ taken, ∀ input requestId step approval, one.2 = .review input →
    RecordsApproval platform requestId step approval one.1 input →
      ∃ row ∈ db.approvalRequests, row.id = requestId ∧ row.status ≠ .pending

theorem publishingStep_phase {taken : List (Database × PublishingAction)}
    (phase : RequestPhase platform taken db) (action : PublishingAction) :
    RequestPhase platform (taken ++ [(db, action)]) (publishingStep platform db action) := by
  refine ⟨publishingStep_stored phase.stored action, ?_⟩
  intro one member input requestId step approval isReview records
  rcases List.mem_append.mp member with earlier | isNew
  · obtain ⟨row, inTable, sameId, closed⟩ :=
      phase.spent one earlier input requestId step approval isReview records
    exact ⟨row, publishingStep_keeps phase.stored action inTable closed, sameId, closed⟩
  · obtain rfl := List.mem_singleton.mp isNew
    obtain rfl : action = .review input := isReview
    exact records.finalizes phase.stored

private theorem sole_user {users : List RowId} {caller : RowId} (distinct : users.Nodup)
    (only : ∀ user ∈ users, user = caller) : users.length ≤ 1 := by
  have within : users ⊆ [caller] := fun user member => by simp [only user member]
  exact (List.subperm_of_subset distinct within).length_le

end

/-- In every run of publish and review requests, a review that publishes meets the
configured chain exactly when the chain is one step for one approval, and the
reviewer is eligible for it. -/
theorem chain_enforced_iff {platform : Platform} {initial : Database}
    {actions : List PublishingAction} {input : ReviewInput} {request : ApprovalRequest}
    (stored : RequestsStored initial)
    (publishes : Publishes platform (run (publishingStep platform) initial actions)
      (input.sentTo .landingPages))
    (found : findPublishApprovalRequest (run (publishingStep platform) initial actions)
      input.requestId input.caller.organizationId [.landingPagePublish] = some request) :
    ChainEnforced platform
        (trace (publishingStep platform) initial (actions ++ [.review input]))
        (run (publishingStep platform) initial actions) request
        (withApproval input request.requestPayload) ↔
      SoleApproverSuffices (run (publishingStep platform) initial actions) input request := by
  have phase : RequestPhase platform (trace (publishingStep platform) initial actions)
      (run (publishingStep platform) initial actions) :=
    run_trace_invariant (RequestPhase platform)
      (fun _ _ action phase => publishingStep_phase phase action)
      ⟨stored, fun _ member => by cases member⟩
  obtain ⟨read, page, approvable, _, rules, _⟩ := publishes_landingPages.mp publishes
  obtain rfl : request = read := Option.some.inj (found.symm.trans approvable.found)
  obtain ⟨known, named, _, _⟩ := findPublishApprovalRequest_some found
  have asRequested := phase.stored.pending request known approvable.pending
  rw [trace_append]
  constructor
  · intro enforced step member asks
    obtain ⟨users, distinct, enough, approved⟩ := enforced step member
    rw [asRequested.withApproval] at approved
    have only : ∀ user ∈ users, user = input.caller.userId := by
      intro user inUsers
      obtain ⟨approval, isNew, _, reviewer, _⟩ := approved user inUsers
      rw [← reviewer, List.mem_singleton.mp isNew]
    have few := sole_user distinct only
    obtain ⟨user, inUsers⟩ := List.exists_mem_of_length_pos (l := users) (by omega)
    obtain ⟨approval, isNew, order, _, one, inTrace, taken, isReview, records⟩ :=
      approved user inUsers
    rw [List.mem_singleton.mp isNew] at order
    refine ⟨by omega, order.symm, ?_⟩
    rcases List.mem_append.mp inTrace with earlier | isLast
    · obtain ⟨row, inTable, sameId, closed⟩ :=
        phase.spent one earlier taken request.id step approval isReview records
      obtain rfl := List.inj_on_of_nodup_map phase.stored.distinct inTable known sameId
      exact absurd approvable.pending closed
    · obtain rfl := List.mem_singleton.mp isLast
      obtain rfl := PublishingAction.review.inj isReview
      obtain ⟨row, inTable, sameId, _, _, eligible⟩ := records.adds
      obtain rfl := List.inj_on_of_nodup_map phase.stored.distinct inTable known sameId
      exact eligible
  · intro sole step member
    by_cases asks : 1 ≤ step.minApprovals
    · obtain ⟨minimum, order, eligible⟩ := sole step member asks
      refine ⟨[input.caller.userId], List.nodup_singleton _, by simp [minimum], ?_⟩
      intro user inUsers
      obtain rfl := List.mem_singleton.mp inUsers
      rw [asRequested.withApproval]
      refine ⟨_, List.mem_singleton_self _, order.symm, rfl,
        (run (publishingStep platform) initial actions, .review input),
        List.mem_append_right _ (by simp [trace]), input, rfl, ?_⟩
      obtain ⟨receipt, next, reviewed⟩ := publishes
      refine ⟨⟨.published receipt, next, reviewed⟩, approvable.decision, request, known, rfl,
        named, ?_, eligible⟩
      rw [asRequested.withApproval, asRequested.approvals]
      rfl
    · exact ⟨[], List.nodup_nil, by simp; omega, fun _ member => by cases member⟩

/-- The draft of an organization that requires approvals and configures a chain of
one step, for user 5. -/
def governedDatabase : Database :=
  { draftDatabase with
    orgSettings := [{ organizationId := 7, approvalPolicy := .allRequired }]
    artifactGovernancePolicies := [{ organizationId := 7, approvalChainEnabled := true }]
    artifactApprovalSteps := [{
      organizationId := 7
      stepOrder := 1
      approverScopeType := .user
      approverScopeValue := some (RowId.text 5) }] }

def requestNamed : PublishingAction :=
  .publish acmeAdmin 10 { visibility := .sharedWithLink } 4

def requestedDatabase : Database := run (publishingStep .ascii) governedDatabase [requestNamed]

def storedRequest : ApprovalRequest :=
  chainedRequest {
    options := some { visibility := .sharedWithLink }, currentStepOrder := some 1 }

theorem governedDatabase_stored : RequestsStored governedDatabase where
  distinct := List.nodup_nil
  fresh _ member := by cases member
  pending _ member := by cases member

def approveAsFive : ReviewInput := { approvePublish with caller := { acmeAdmin with userId := 5 } }

theorem eligible_reviewer_meets_chain :
    ChainEnforced .ascii
      (trace (publishingStep .ascii) governedDatabase ([requestNamed] ++ [.review approveAsFive]))
      requestedDatabase storedRequest
      (withApproval approveAsFive storedRequest.requestPayload) :=
  (chain_enforced_iff governedDatabase_stored (by decide +kernel) (by decide +kernel)).mpr
    (by decide +kernel)

/-- The requester approves alone, although the step is for another user. -/
theorem requester_publishes_alone :
    (getArtifactPublishGovernance governedDatabase 7).approvalChainEnabled = true ∧
    configuredSteps governedDatabase storedRequest ≠ [] ∧
    (∀ step ∈ configuredSteps governedDatabase storedRequest, step.allowSelfApproval = false) ∧
    (requiresApproval governedDatabase 7 namedDraft.includeCompanyName).required = true ∧
    storedRequest.requestedByUserId = approvePublish.caller.userId ∧
    findPublishApprovalRequest requestedDatabase approvePublish.requestId 7
      [.landingPagePublish] = some storedRequest ∧
    Publishes .ascii requestedDatabase (approvePublish.sentTo .landingPages) ∧
    ¬ChainEnforced .ascii
      (trace (publishingStep .ascii) governedDatabase ([requestNamed] ++ [.review approvePublish]))
      requestedDatabase storedRequest
      (withApproval approvePublish storedRequest.requestPayload) := by
  have configured : configuredSteps requestedDatabase storedRequest = [stepFor 1 5] := by
    decide +kernel
  have ineligible : ∀ request ∈ requestedDatabase.approvalRequests,
      canUserApproveStep requestedDatabase acmeAdmin (stepFor 1 5) request.requestedByUserId =
        false := by
    decide +kernel
  refine ⟨by decide, by decide +kernel, by decide +kernel, by decide, rfl, by decide +kernel,
    by decide +kernel, fun enforced => ?_⟩
  obtain ⟨users, _, enough, approved⟩ := enforced (stepFor 1 5) (by simp [configured])
  obtain ⟨user, inUsers⟩ := List.exists_mem_of_length_pos (l := users) (by
    simp only [stepFor] at enough
    omega)
  obtain ⟨_, _, _, _, one, inTrace, input, isReview, records⟩ := approved user inUsers
  obtain ⟨request, known, _, _, _, eligible⟩ := records.adds
  have last : one = (requestedDatabase, .review approvePublish) := by
    simp only [trace, List.cons_append, List.nil_append, List.mem_cons, List.not_mem_nil,
      or_false] at inTrace
    rcases inTrace with rfl | rfl
    · cases isReview
    · rfl
  subst last
  obtain rfl := PublishingAction.review.inj isReview
  have denied := ineligible request known
  rw [show approvePublish.caller = acmeAdmin from rfl, denied] at eligible
  cases eligible

/-- A decided request stays as it is in every run. -/
theorem decided_requests_stay {platform : Platform} {initial : Database}
    (stored : RequestsStored initial) (actions : List PublishingAction) :
    ∀ row ∈ initial.approvalRequests, row.status ≠ .pending →
      row ∈ (run (publishingStep platform) initial actions).approvalRequests := by
  intro row member closed
  exact (run_invariant (fun db => RequestsStored db ∧ row ∈ db.approvalRequests)
    (fun _ action kept => ⟨publishingStep_stored kept.1 action,
      publishingStep_keeps kept.1 action kept.2 closed⟩) actions ⟨stored, member⟩).2

def rejectedRequest : ApprovalRequest :=
  { storedRequest with status := .rejected, reviewerUserId := some 5, reviewedAt := some 5 }

def decidedDatabase : Database :=
  { governedDatabase with nextId := 13, approvalRequests := [rejectedRequest] }

theorem rejected_request_stays :
    rejectedRequest ∈ (run (publishingStep .ascii) decidedDatabase
      [.review approvePublish, requestNamed]).approvalRequests := by
  have stored : RequestsStored decidedDatabase := by
    refine ⟨List.nodup_singleton _, ?_, ?_⟩
    · intro request member
      rw [List.mem_singleton.mp member]
      decide
    · intro request member pending
      rw [List.mem_singleton.mp member] at pending
      cases pending
  exact decided_requests_stay stored _ rejectedRequest (List.mem_singleton_self _) (by decide)

end StoryEngine.Approval
