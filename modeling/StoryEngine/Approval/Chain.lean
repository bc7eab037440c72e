import Mathlib.Data.List.Dedup
import StoryEngine.Approval.Endpoints
import StoryEngine.Data.Ordered

namespace StoryEngine.Approval

open Data Schema Access Pages Routes

/-! # Approval chains

A payload with steps goes through its steps in order.  The landing-page route
moves on when the current step has its approvals, and publishes after the last.
-/

def reviewersOf (approvals : List StepApproval) (stepOrder : Int) : List RowId :=
  (approvals.filter (·.stepOrder == stepOrder)).map (·.reviewerUserId)

def StepCollected (approvals : List StepApproval) (step : PublishApprovalStep) : Prop :=
  step.minApprovals ≤ ((reviewersOf approvals step.stepOrder).dedup.length : Int)

instance (approvals : List StepApproval) (step : PublishApprovalStep) :
    Decidable (StepCollected approvals step) := inferInstanceAs (Decidable (_ ≤ _))

def InStepOrder (approvals : List StepApproval) : Prop :=
  approvals.Pairwise fun earlier later => earlier.stepOrder ≤ later.stepOrder

/-- The chain stands at a step that nobody has approved; the steps before it have
their approvals, and the steps after it none. -/
structure ChainReady (payload : PublishApprovalPayload) : Prop where
  sorted : Ascending (·.stepOrder) payload.steps
  minimum : ∀ step ∈ payload.steps, 1 ≤ step.minApprovals
  current : ∃ step ∈ payload.steps, step.stepOrder = currentStepOrder payload
  collected : ∀ step ∈ payload.steps, step.stepOrder < currentStepOrder payload →
    StepCollected payload.approvals step
  untouched : ∀ approval ∈ payload.approvals, approval.stepOrder < currentStepOrder payload
  inOrder : InStepOrder payload.approvals

structure ChainUnderway (payload : PublishApprovalPayload) : Prop where
  sorted : Ascending (·.stepOrder) payload.steps
  current : ∃ step ∈ payload.steps, step.stepOrder = currentStepOrder payload
  collected : ∀ step ∈ payload.steps, step.stepOrder < currentStepOrder payload →
    StepCollected payload.approvals step
  reached : ∀ approval ∈ payload.approvals, approval.stepOrder ≤ currentStepOrder payload
  inOrder : InStepOrder payload.approvals
  distinct : (reviewersOf payload.approvals (currentStepOrder payload)).Nodup

structure ChainCollected (payload : PublishApprovalPayload) : Prop where
  collected : ∀ step ∈ payload.steps, StepCollected payload.approvals step
  inOrder : InStepOrder payload.approvals

theorem ChainReady.underway {payload : PublishApprovalPayload} (ready : ChainReady payload) :
    ChainUnderway payload where
  sorted := ready.sorted
  current := ready.current
  collected := ready.collected
  reached approval member := Int.le_of_lt (ready.untouched approval member)
  inOrder := ready.inOrder
  distinct := by
    have nobody : payload.approvals.filter (·.stepOrder == currentStepOrder payload) = [] := by
      refine List.filter_eq_nil_iff.mpr fun approval member => ?_
      simpa using Int.ne_of_lt (ready.untouched approval member)
    simp [reviewersOf, nobody]

section

variable {platform : Platform} {db : Database} {input : ReviewInput} {request : ApprovalRequest}
  {payload next : PublishApprovalPayload}

theorem reviewersOf_withApproval_current (input : ReviewInput) (payload : PublishApprovalPayload) :
    reviewersOf (withApproval input payload) (currentStepOrder payload) =
      reviewersOf payload.approvals (currentStepOrder payload) ++ [input.caller.userId] := by
  simp [reviewersOf, withApproval, List.filter_append]

theorem reviewersOf_withApproval_other {stepOrder : Int} (input : ReviewInput)
    (other : stepOrder ≠ currentStepOrder payload) :
    reviewersOf (withApproval input payload) stepOrder = reviewersOf payload.approvals stepOrder := by
  simp [reviewersOf, withApproval, List.filter_append, Ne.symm other]

theorem ChainUnderway.withApproval_inOrder (underway : ChainUnderway payload)
    (input : ReviewInput) : InStepOrder (withApproval input payload) := by
  refine List.pairwise_append.mpr ⟨underway.inOrder, List.pairwise_singleton _ _, ?_⟩
  intro earlier inEarlier later isNew
  rw [List.mem_singleton.mp isNew]
  exact underway.reached earlier inEarlier

theorem ChainUnderway.withApproval_distinct (underway : ChainUnderway request.requestPayload)
    (rules : StepRules db input request) :
    (reviewersOf (withApproval input request.requestPayload)
      (currentStepOrder request.requestPayload)).Nodup := by
  rw [reviewersOf_withApproval_current, List.nodup_append]
  refine ⟨underway.distinct, List.nodup_singleton _, ?_⟩
  intro reviewer inReviewers other isCaller
  obtain rfl := List.mem_singleton.mp isCaller
  obtain ⟨approval, inStep, rfl⟩ := List.mem_map.mp inReviewers
  obtain ⟨member, ofStep⟩ := List.mem_filter.mp inStep
  exact rules.first approval member (by simpa using ofStep)

theorem ChainUnderway.currentStep (underway : ChainUnderway payload) :
    ∃ step, currentStep payload = some step ∧ step ∈ payload.steps ∧
      step.stepOrder = currentStepOrder payload := by
  obtain ⟨step, member, order⟩ := underway.current
  refine ⟨step, ?_, member, order⟩
  rw [Approval.currentStep, ← order]
  exact underway.sorted.find?_key member

theorem ChainUnderway.withApproval_collected (underway : ChainUnderway request.requestPayload)
    (rules : StepRules db input request)
    (completed : stepCompleted input request.requestPayload = true) :
    ∀ step ∈ request.requestPayload.steps,
      step.stepOrder ≤ currentStepOrder request.requestPayload →
        StepCollected (withApproval input request.requestPayload) step := by
  intro step member within
  rcases Int.lt_or_eq_of_le within with before | isCurrent
  · have collected := underway.collected step member before
    rwa [StepCollected, ← reviewersOf_withApproval_other input (Int.ne_of_lt before)] at collected
  · obtain ⟨current, found, inSteps, order⟩ := underway.currentStep
    obtain rfl := underway.sorted.eq_of_key member inSteps (isCurrent.trans order.symm)
    have distinct := underway.withApproval_distinct rules
    rw [stepCompleted_eq_true, found] at completed
    rw [StepCollected, order, distinct.dedup, reviewersOf_withApproval_current]
    simpa [reviewersOf] using completed

theorem planApproval_records {next : PublishApprovalPayload} :
    planApproval input request = .recordApproval request next →
      next = { request.requestPayload with
        approvals := withApproval input request.requestPayload
        currentStepOrder := some (nextStepOrder input request.requestPayload) } := by
  simp only [planApproval]
  split
  · intro planned
    cases planned
  · intro planned
    cases planned
    rfl

theorem ChainUnderway.records (underway : ChainUnderway request.requestPayload)
    (rules : StepRules db input request)
    (planned : planApproval input request = .recordApproval request next) :
    ChainUnderway next := by
  obtain rfl := planApproval_records planned
  have inOrder := underway.withApproval_inOrder input
  have reached : ∀ approval ∈ withApproval input request.requestPayload,
      approval.stepOrder ≤ currentStepOrder request.requestPayload := by
    intro approval member
    rcases List.mem_append.mp member with inOld | isNew
    · exact underway.reached approval inOld
    · rw [List.mem_singleton.mp isNew]
  -- The chain stays at its step, or goes on to the next one.
  cases completed : stepCompleted input request.requestPayload with
  | false =>
    have stays : nextStepOrder input request.requestPayload =
        currentStepOrder request.requestPayload := by simp [nextStepOrder, completed]
    rw [stays]
    refine ⟨underway.sorted, underway.current, ?_, reached, inOrder,
      underway.withApproval_distinct rules⟩
    intro step member before
    have collected := underway.collected step member before
    have other : step.stepOrder ≠ currentStepOrder request.requestPayload := Int.ne_of_lt before
    rwa [StepCollected, ← reviewersOf_withApproval_other input other] at collected
  | true =>
    cases later : laterStep request.requestPayload with
    | none => simp [planApproval, completed, later] at planned
    | some step =>
      have moves : nextStepOrder input request.requestPayload = step.stepOrder := by
        simp [nextStepOrder, completed, later]
      have inSteps := List.mem_of_find?_eq_some later
      have beyond : currentStepOrder request.requestPayload < step.stepOrder := by
        simpa using List.find?_some later
      rw [moves]
      refine ⟨underway.sorted, ⟨step, inSteps, rfl⟩, ?_, ?_, inOrder, ?_⟩
      · intro earlier member before
        refine underway.withApproval_collected rules completed earlier member ?_
        have reaches : earlier.stepOrder ≤ currentStepOrder request.requestPayload ∨
            step.stepOrder ≤ earlier.stepOrder :=
          underway.sorted.next_le (fun row => by simp) later member
        exact reaches.resolve_right (Int.not_le.mpr before)
      · exact fun approval member => Int.le_trans (reached approval member) (Int.le_of_lt beyond)
      · have nobody : (withApproval input request.requestPayload).filter
            (·.stepOrder == step.stepOrder) = [] := by
          refine List.filter_eq_nil_iff.mpr fun approval member => ?_
          simpa using Int.ne_of_lt (Int.lt_of_le_of_lt (reached approval member) beyond)
        simp [reviewersOf, nobody, currentStepOrder]

theorem ChainUnderway.publishes (underway : ChainUnderway request.requestPayload)
    (rules : StepRules db input request)
    (planned : planApproval input request = .publish request next) : ChainCollected next := by
  obtain ⟨ends, rfl⟩ := (planApproval_publishes next).mp planned
  have completed : stepCompleted input request.requestPayload = true :=
    stepCompleted_eq_true.mpr ends.enough
  exact ⟨fun step member => underway.withApproval_collected rules completed step member
    (ends.last step member), underway.withApproval_inOrder input⟩

end

/-- One review at the landing-page route, or anything that leaves the requests alone. -/
inductive ChainEvent where
  | review (input : ReviewInput)
  | elsewhere (next : Database)

def chainStep (platform : Platform) (db : Database) : ChainEvent → Database
  | .review input =>
    match review platform db (input.sentTo .landingPages) with
    | .ok (_, next) => next
    | .error _ => db
  | .elsewhere next => { next with approvalRequests := db.approvalRequests }

def PublishesFor (platform : Platform) (requestId : RowId) (taken : Database × ChainEvent) : Prop :=
  ∃ input, taken.2 = .review input ∧ input.requestId = requestId ∧
    Publishes platform taken.1 (input.sentTo .landingPages)

/-- The review added the approval to the request, for a user whom the workflow
step admitted then. -/
structure RecordsApproval (platform : Platform) (requestId : RowId) (step : PublishApprovalStep)
    (approval : StepApproval) (db : Database) (input : ReviewInput) : Prop where
  accepted : ∃ response next,
    review platform db (input.sentTo .landingPages) = .ok (response, next)
  decision : input.decision = .approve
  adds : ∃ request ∈ db.approvalRequests, request.id = requestId ∧ request.id = input.requestId ∧
    withApproval input request.requestPayload = request.requestPayload.approvals ++ [approval] ∧
    canUserApproveStep db input.caller step request.requestedByUserId = true

def RecordedBy (platform : Platform) (requestId : RowId) (step : PublishApprovalStep)
    (approval : StepApproval) (taken : Database × ChainEvent) : Prop :=
  ∃ input, taken.2 = .review input ∧
    RecordsApproval platform requestId step approval taken.1 input

inductive ReviewWrites (db next : Database) (input : ReviewInput) (request : ApprovalRequest) :
    ReviewResponse → Prop where
  | rejects (decision : input.decision = .reject)
      (table : next.approvalRequests = updateWhere db.approvalRequests (·.id == request.id)
      fun row => finalizeData input .rejected row.requestPayload row) :
      ReviewWrites db next input request .rejected
  | records (payload : PublishApprovalPayload) (decision : input.decision = .approve)
      (rules : StepRules db input request)
      (planned : planApproval input request = .recordApproval request payload)
      (table : next.approvalRequests = updateWhere db.approvalRequests (·.id == request.id)
        fun row => { row with requestPayload := payload }) :
      ReviewWrites db next input request (.pending payload.currentStepOrder)
  | publishes (payload : PublishApprovalPayload) (receipt : PublishReceipt)
      (decision : input.decision = .approve) (rules : StepRules db input request)
      (planned : planApproval input request = .publish request payload)
      (table : next.approvalRequests = updateWhere db.approvalRequests (·.id == request.id)
        (finalizeData input .approved payload)) :
      ReviewWrites db next input request (.published receipt)

section

variable {platform : Platform} {db next : Database} {input : ReviewInput}

variable {response : ReviewResponse}

theorem review_writes
    (reviewed : review platform db (input.sentTo .landingPages) = .ok (response, next)) :
    ∃ request ∈ db.approvalRequests, request.id = input.requestId ∧ request.status = .pending ∧
      ReviewWrites db next input request response := by
  simp only [review, bind_eq_ok] at reviewed
  obtain ⟨plan, planned, carried⟩ := reviewed
  have plans : planReview db (input.sentTo .landingPages) = .ok plan := by
    simp only [ReviewInput.plan, ReviewInput.sentTo, bind_eq_ok] at planned
    obtain ⟨_, _, plans⟩ := planned
    exact plans
  obtain ⟨request, found, pending, decided⟩ := planReview_cases plans
  obtain ⟨known, named, _, _⟩ := findPublishApprovalRequest_some found
  refine ⟨request, known, named, pending, ?_⟩
  rcases decided with ⟨rejected, rfl⟩ | ⟨approvable, rules, approves⟩
  · obtain ⟨rfl, rfl⟩ := Prod.mk.inj (Except.ok.inj carried)
    exact .rejects rejected rfl
  · have decision : input.decision = .approve := approvable.decision
    have own : plan.request = request := by rw [approves, planApproval_request]
    have stepRules : StepRules db input request := { rules with }
    cases plan with
    | reject read | approveOnly read =>
      simp only [planApproval] at approves
      split at approves <;> cases approves
    | recordApproval read payload =>
      obtain rfl : read = request := own
      obtain ⟨rfl, rfl⟩ := Prod.mk.inj (Except.ok.inj carried)
      exact .records payload decision stepRules approves.symm rfl
    | publish read payload =>
      obtain rfl : read = request := own
      simp only [bind_eq_ok, mapError_eq_ok, pure_eq_ok] at carried
      obtain ⟨_, _, ⟨published, receipt⟩, publishes, same⟩ := carried
      obtain ⟨rfl, rfl⟩ := Prod.mk.inj same
      refine .publishes payload receipt decision stepRules approves.symm ?_
      rw [← publish_approvalRequests publishes]
      rfl

theorem ChainUnderway.recordsApproval {row : ApprovalRequest}
    (reviewed : review platform db (input.sentTo .landingPages) = .ok (response, next))
    (known : row ∈ db.approvalRequests) (named : row.id = input.requestId)
    (underway : ChainUnderway row.requestPayload) (decision : input.decision = .approve)
    (rules : StepRules db input row) {step : PublishApprovalStep}
    (inSteps : step ∈ row.requestPayload.steps) {approval : StepApproval}
    (member : approval ∈ withApproval input row.requestPayload)
    (order : approval.stepOrder = step.stepOrder) :
    approval ∈ row.requestPayload.approvals ∨
      RecordsApproval platform row.id step approval db input := by
  rcases List.mem_append.mp member with inOld | isNew
  · exact .inl inOld
  · obtain rfl := List.mem_singleton.mp isNew
    obtain ⟨current, found, inCurrent, currentOrder⟩ := underway.currentStep
    have same : step.stepOrder = current.stepOrder := order.symm.trans currentOrder.symm
    obtain rfl := underway.sorted.eq_of_key inSteps inCurrent same
    exact .inr ⟨⟨response, next, reviewed⟩, decision, row, known, rfl, named, rfl,
      rules.eligible step found⟩

end

structure ChainRow (platform : Platform) (request : ApprovalRequest)
    (taken : List (Database × ChainEvent)) (row : ApprovalRequest) : Prop where
  id : row.id = request.id
  steps : row.requestPayload.steps = request.requestPayload.steps
  recorded : ∀ step ∈ row.requestPayload.steps, ∀ approval ∈ row.requestPayload.approvals,
    approval.stepOrder = step.stepOrder → approval ∈ request.requestPayload.approvals ∨
      ∃ one ∈ taken, RecordedBy platform request.id step approval one
  progress :
    (ChainUnderway row.requestPayload ∧ ∀ one ∈ taken, ¬PublishesFor platform request.id one) ∨
      (row.status = .approved ∧ ChainCollected row.requestPayload)

structure ChainPhase (platform : Platform) (request : ApprovalRequest)
    (taken : List (Database × ChainEvent)) (db : Database) : Prop where
  distinct : (db.approvalRequests.map (·.id)).Nodup
  row : ∃ row ∈ db.approvalRequests, ChainRow platform request taken row

section

variable {platform : Platform} {db next : Database} {input : ReviewInput}
  {request row : ApprovalRequest} {taken : List (Database × ChainEvent)}
  {one : Database × ChainEvent}

theorem unpublished_append (unpublished : ∀ one ∈ taken, ¬PublishesFor platform request.id one)
    (quiet : ¬PublishesFor platform request.id one) :
    ∀ other ∈ taken ++ [one], ¬PublishesFor platform request.id other := by
  intro other member
  rcases List.mem_append.mp member with inTaken | isNew
  · exact unpublished other inTaken
  · rwa [List.mem_singleton.mp isNew]

theorem ChainRow.unchanged (held : ChainRow platform request taken row)
    (quiet : ¬PublishesFor platform request.id one) :
    ChainRow platform request (taken ++ [one]) row := by
  refine { held with recorded := ?_, progress := ?_ }
  · intro step inSteps approval member order
    refine (held.recorded step inSteps approval member order).imp_right ?_
    exact fun ⟨other, inTaken, records⟩ => ⟨other, List.mem_append_left _ inTaken, records⟩
  · refine held.progress.imp_left fun ⟨underway, unpublished⟩ => ⟨underway, ?_⟩
    exact unpublished_append unpublished quiet

variable {response : ReviewResponse} {read : ApprovalRequest}

theorem ChainRow.recorded_withApproval
    (reviewed : review platform db (input.sentTo .landingPages) = .ok (response, next))
    (known : row ∈ db.approvalRequests) (named : row.id = input.requestId)
    (held : ChainRow platform request taken row) (underway : ChainUnderway row.requestPayload)
    (decision : input.decision = .approve) (rules : StepRules db input row) :
    ∀ step ∈ row.requestPayload.steps, ∀ approval ∈ withApproval input row.requestPayload,
      approval.stepOrder = step.stepOrder → approval ∈ request.requestPayload.approvals ∨
        ∃ one ∈ taken ++ [(db, .review input)],
          RecordedBy platform request.id step approval one := by
  intro step inSteps approval member order
  rcases underway.recordsApproval reviewed known named decision rules inSteps member order
    with inOld | records
  · refine (held.recorded step inSteps approval inOld order).imp_right ?_
    exact fun ⟨other, inTaken, records⟩ => ⟨other, List.mem_append_left _ inTaken, records⟩
  · rw [held.id] at records
    exact .inr ⟨_, List.mem_append_right _ (List.mem_singleton_self _), input, rfl, records⟩

theorem ChainPhase.ids (phase : ChainPhase platform request taken db)
    {change : ApprovalRequest → ApprovalRequest}
    (table : next.approvalRequests = updateWhere db.approvalRequests (·.id == read.id) change)
    (kept : ∀ row, (change row).id = row.id) : (next.approvalRequests.map (·.id)).Nodup := by
  rw [table, map_updateWhere kept]
  exact phase.distinct

theorem ReviewWrites.other
    (writes : ReviewWrites db next input read response) (member : row ∈ db.approvalRequests)
    (other : row.id ≠ read.id) : row ∈ next.approvalRequests := by
  have outside : (row.id == read.id) = false := by simpa using other
  cases writes with
  | rejects _ table | records _ _ _ _ table | publishes _ _ _ _ _ table =>
    rw [table]
    exact mem_updateWhere.mpr ⟨row, member, .inr ⟨outside, rfl⟩⟩

theorem ReviewWrites.distinct
    (writes : ReviewWrites db next input read response)
    (phase : ChainPhase platform request taken db) :
    (next.approvalRequests.map (·.id)).Nodup := by
  cases writes with
  | rejects _ table => exact phase.ids table fun _ => rfl
  | records _ _ _ _ table => exact phase.ids table fun _ => rfl
  | publishes _ _ _ _ _ table => exact phase.ids table fun _ => rfl

theorem ReviewWrites.own
    (reviewed : review platform db (input.sentTo .landingPages) = .ok (response, next))
    (writes : ReviewWrites db next input row response) (member : row ∈ db.approvalRequests)
    (named : row.id = input.requestId) (pending : row.status = .pending) (held : ChainRow platform request taken row) :
    ∃ written ∈ next.approvalRequests,
      ChainRow platform request (taken ++ [(db, .review input)]) written := by
  obtain ⟨underway, unpublished⟩ : ChainUnderway row.requestPayload ∧
      ∀ one ∈ taken, ¬PublishesFor platform request.id one := by
    refine held.progress.resolve_right fun ⟨approved, _⟩ => ?_
    rw [pending] at approved
    cases approved
  have quiet (unlike : ∀ receipt, response ≠ .published receipt) :
      ¬PublishesFor platform request.id (db, .review input) := by
    rintro ⟨other, same, _, receipt, published, publishes⟩
    obtain rfl := ChainEvent.review.inj same
    obtain ⟨isPublished, -⟩ := Prod.mk.inj (Except.ok.inj (reviewed.symm.trans publishes))
    exact unlike receipt isPublished
  have touched {change : ApprovalRequest → ApprovalRequest}
      (table : next.approvalRequests =
        updateWhere db.approvalRequests (·.id == row.id) change) :
      change row ∈ next.approvalRequests := by
    rw [table]
    exact mem_updateWhere.mpr ⟨row, member, .inl ⟨by simp, rfl⟩⟩
  cases writes with
  | rejects _ table =>
    have kept := held.unchanged (quiet fun _ => nofun)
    exact ⟨_, touched table, kept.id, kept.steps, kept.recorded,
      .inl ⟨underway, unpublished_append unpublished (quiet fun _ => nofun)⟩⟩
  | records payload decision rules planned table =>
    have moved := underway.records rules planned
    obtain rfl := planApproval_records planned
    exact ⟨_, touched table, held.id, held.steps,
      held.recorded_withApproval reviewed member named underway decision rules,
      .inl ⟨moved, unpublished_append unpublished (quiet fun _ => nofun)⟩⟩
  | publishes payload receipt decision rules planned table =>
    have collected := underway.publishes rules planned
    obtain ⟨_, rfl⟩ := (planApproval_publishes payload).mp planned
    exact ⟨_, touched table, held.id, held.steps,
      held.recorded_withApproval reviewed member named underway decision rules, .inr ⟨rfl, collected⟩⟩

theorem chainStep_phase (phase : ChainPhase platform request taken db) (event : ChainEvent) :
    ChainPhase platform request (taken ++ [(db, event)]) (chainStep platform db event) := by
  obtain ⟨row, member, held⟩ := phase.row
  cases event with
  | elsewhere next =>
    have quiet : ¬PublishesFor platform request.id (db, .elsewhere next) := by
      rintro ⟨input, isReview, -⟩
      cases isReview
    exact ⟨phase.distinct, row, member, held.unchanged quiet⟩
  | review input =>
    simp only [chainStep]
    split
    · rename_i response next reviewed
      obtain ⟨read, known, named, pending, writes⟩ := review_writes reviewed
      refine ⟨writes.distinct phase, ?_⟩
      by_cases own : read.id = request.id
      · obtain rfl : read = row :=
          List.inj_on_of_nodup_map phase.distinct known member (own.trans held.id.symm)
        exact writes.own reviewed member named pending held
      · have quiet : ¬PublishesFor platform request.id (db, .review input) := by
          rintro ⟨other, same, sameId, -⟩
          obtain rfl := ChainEvent.review.inj same
          exact own (named.trans sameId)
        have other : row.id ≠ read.id := fun same => own (same.symm.trans held.id)
        exact ⟨row, writes.other member other, held.unchanged quiet⟩
    · rename_i failure refused
      have quiet : ¬PublishesFor platform request.id (db, .review input) := by
        rintro ⟨other, same, _, receipt, published, publishes⟩
        obtain rfl := ChainEvent.review.inj same
        rw [refused] at publishes
        cases publishes
      exact ⟨phase.distinct, row, member, held.unchanged quiet⟩

end

/-- A request whose chain is ready publishes, in any sequence of reviews, only with
the minimum of approvals of every step, by different users whom the step admitted
at their time, and recorded step by step. -/
theorem published_chain_is_collected {platform : Platform} {initial : Database}
    {events : List ChainEvent} {request : ApprovalRequest}
    (distinct : (initial.approvalRequests.map (·.id)).Nodup)
    (known : request ∈ initial.approvalRequests) (ready : ChainReady request.requestPayload)
    (published : ∃ taken ∈ trace (chainStep platform) initial events,
      PublishesFor platform request.id taken) :
    ∃ row ∈ (run (chainStep platform) initial events).approvalRequests,
      row.id = request.id ∧ row.status = .approved ∧
      row.requestPayload.steps = request.requestPayload.steps ∧
      InStepOrder row.requestPayload.approvals ∧
      ∀ step ∈ request.requestPayload.steps, StepCollected row.requestPayload.approvals step ∧
        ∀ approval ∈ row.requestPayload.approvals, approval.stepOrder = step.stepOrder →
          approval ∈ request.requestPayload.approvals ∨
          ∃ taken ∈ trace (chainStep platform) initial events,
            RecordedBy platform request.id step approval taken := by
  have first : ChainPhase platform request [] initial := by
    refine ⟨distinct, request, known, rfl, rfl, ?_, ?_⟩
    · exact fun _ _ _ member _ => .inl member
    · exact .inl ⟨ready.underway, fun _ member => by cases member⟩
  obtain ⟨_, row, member, held⟩ : ChainPhase platform request
      (trace (chainStep platform) initial events) (run (chainStep platform) initial events) :=
    run_trace_invariant (ChainPhase platform request)
      (fun _ _ event phase => chainStep_phase phase event) first
  obtain ⟨taken, inTrace, publishes⟩ := published
  rcases held.progress with ⟨_, unpublished⟩ | ⟨approved, collected⟩
  · exact absurd publishes (unpublished taken inTrace)
  · refine ⟨row, member, held.id, approved, held.steps, collected.inOrder, ?_⟩
    rw [← held.steps]
    exact fun step inSteps => ⟨collected.collected step inSteps, held.recorded step inSteps⟩

def approveAs (userId : RowId) : ChainEvent :=
  .review { approvePublish with caller := { acmeAdmin with userId } }

def twoSteps : PublishApprovalPayload where
  steps := [stepFor 1 5, { stepFor 2 3 with allowSelfApproval := true }]
  currentStepOrder := some 1

theorem two_steps_are_collected :
    ∃ row ∈ (run (chainStep .ascii) (chainedDatabase twoSteps)
        [approveAs 5, approveAs 3]).approvalRequests,
      row.id = 12 ∧ row.status = .approved ∧ row.requestPayload.steps = twoSteps.steps ∧
      InStepOrder row.requestPayload.approvals ∧
      ∀ step ∈ twoSteps.steps, StepCollected row.requestPayload.approvals step ∧
        ∀ approval ∈ row.requestPayload.approvals, approval.stepOrder = step.stepOrder →
          approval ∈ twoSteps.approvals ∨
          ∃ taken ∈ trace (chainStep .ascii) (chainedDatabase twoSteps) [approveAs 5, approveAs 3],
            RecordedBy .ascii 12 step approval taken := by
  have ready : ChainReady twoSteps := by
    refine ⟨?_, by decide, by decide, by decide, by decide, List.Pairwise.nil⟩
    simp [Ascending, twoSteps, stepFor]
  have known : chainedRequest twoSteps ∈ (chainedDatabase twoSteps).approvalRequests := by
    simp [chainedDatabase]
  refine published_chain_is_collected (by decide +kernel) known ready ?_
  refine ⟨(run (chainStep .ascii) (chainedDatabase twoSteps) [approveAs 5], approveAs 3),
    by simp [trace], _, rfl, rfl, ?_⟩
  decide +kernel

/-- The second step of a chain is the first that nobody has approved, while the
first still lacks one of its two approvals. -/
def partlyApproved : PublishApprovalPayload where
  steps := [{ stepFor 1 5 with minApprovals := 2 }, { stepFor 2 3 with allowSelfApproval := true }]
  approvals := [{ stepOrder := 1, reviewerUserId := 5, decidedAt := 4 }]
  currentStepOrder := some 2

theorem partly_approved_chain_publishes :
    Ascending (·.stepOrder) partlyApproved.steps ∧
    (∀ step ∈ partlyApproved.steps, 1 ≤ step.minApprovals) ∧
    (partlyApproved.steps.find? fun step =>
      partlyApproved.approvals.all (·.stepOrder != step.stepOrder)).map (·.stepOrder) =
        some (currentStepOrder partlyApproved) ∧
    (chainedDatabase partlyApproved, approveAs 3) ∈
      trace (chainStep .ascii) (chainedDatabase partlyApproved) [approveAs 3] ∧
    PublishesFor .ascii 12 (chainedDatabase partlyApproved, approveAs 3) ∧
    ∃ row ∈ (run (chainStep .ascii) (chainedDatabase partlyApproved) [approveAs 3]).approvalRequests,
      row.id = 12 ∧ ∃ step ∈ partlyApproved.steps,
        ¬StepCollected row.requestPayload.approvals step := by
  have publishes : PublishesFor .ascii 12 (chainedDatabase partlyApproved, approveAs 3) :=
    ⟨_, rfl, rfl, by decide +kernel⟩
  have collects : ∃ row ∈ (run (chainStep .ascii) (chainedDatabase partlyApproved)
      [approveAs 3]).approvalRequests, row.id = 12 ∧ ∃ step ∈ partlyApproved.steps,
        ¬StepCollected row.requestPayload.approvals step := by
    decide +kernel
  exact ⟨by simp [Ascending, partlyApproved, stepFor], by decide, by decide, by simp [trace],
    publishes, collects⟩

end StoryEngine.Approval
