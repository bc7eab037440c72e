import StoryEngine.Ai.UsageTracker

namespace StoryEngine.Ai

open Data Schema

/-! # One charge for each key -/

/-- How far a call is with the charge of a key: from its look at the key to the mark
it is accounting. -/
inductive ChargePhase where
  | outside
  | unrecorded
  | recorded
  | settled
deriving DecidableEq

def ChatStage.phase : ChatStage → ChargePhase
  | .computingCost | .recordingUsage _ => .unrecorded
  | .deductingBalance _ => .recorded
  | .markingCharge => .settled
  | _ => .outside

def TrackedCall.phase (key : ChargeKey) (call : TrackedCall) : ChargePhase :=
  if call.request.chargeKey = some key then call.stage.phase else .outside

def Accounting (key : ChargeKey) (call : TrackedCall) : Prop := call.phase key ≠ .outside

instance (key : ChargeKey) : DecidablePred (Accounting key) :=
  fun _ => inferInstanceAs (Decidable (_ ≠ _))

/-- A call that finds its key unmarked is the first one: no other call is accounting for
the key, and none has recorded its usage. -/
def FirstAtKey (system : TrackedSystem) : TrackedEvent → Prop
  | .settles index now fails =>
    ∀ call ∈ system.processes[index]?, call.stage = .calling → fails = false →
      ∀ key ∈ call.request.chargeKey, (hasRecordedUsageCharge system.shared now key).1 = false →
        Nobody (Accounting key) system ∧ (system.shared.charges key).usage = 0
  | .calls _ | .restarts => True

instance (system : TrackedSystem) : DecidablePred (FirstAtKey system)
  | .settles index _ _ =>
    inferInstanceAs (Decidable (∀ call ∈ system.processes[index]?, _ → _ →
      ∀ key ∈ call.request.chargeKey, _ → Nobody (Accounting key) system ∧ _))
  | .calls _ | .restarts => isTrue trivial

/-- The moves of one call, with the charges of a key before and after. -/
inductive ChargeMove : Charges → ChargePhase → Charges → ChargePhase → Prop where
  | waits (charges : Charges) (phase : ChargePhase) : ChargeMove charges phase charges phase
  | leaves (charges : Charges) (phase : ChargePhase) : ChargeMove charges phase charges .outside
  | enters (charges : Charges) : ChargeMove charges .outside charges .unrecorded
  | records (charges : Charges) (after : ChargePhase)
      (next : after = .recorded ∨ after = .settled) :
      ChargeMove charges .unrecorded { charges with usage := charges.usage + 1 } after
  | deducts (charges : Charges) (deducted : Nat) (one : deducted ≤ 1) :
      ChargeMove charges .recorded
        { charges with deductions := charges.deductions + deducted } .settled

section

variable {tracker : UsageTracker} {now : Date} {request : ChatRequest} {cost : Nat}
  {key other : ChargeKey}

@[simp] theorem charges_hasRecorded :
    (hasRecordedUsageCharge tracker now other).2.charges key = tracker.charges key := rfl

@[simp] theorem charges_marked :
    (markUsageChargeRecorded tracker now other).charges key = tracker.charges key := rfl

theorem charges_recordUsage :
    (recordUsage tracker now request cost).charges key =
      { tracker.charges key with
        usage := (tracker.charges key).usage +
          if request.chargeKey = some key then 1 else 0 } := by
  simp [recordUsage, UsageTracker.charges, List.countP_append, List.countP_cons]

theorem charges_deductBalance :
    ∃ deducted ≤ 1, (deductBalance tracker request cost).charges key =
      { tracker.charges key with
        deductions := (tracker.charges key).deductions +
          if request.chargeKey = some key then deducted else 0 } := by
  unfold deductBalance
  cases findBalance tracker request.context with
  | none => exact ⟨0, Nat.zero_le 1, by simp⟩
  | some balance =>
    exact ⟨1, Nat.le_refl 1, by
      simp [UsageTracker.charges, List.countP_append, List.countP_cons]⟩

theorem chatStep_charges (keyed : request.chargeKey = some key) (stage : ChatStage) :
    ChargeMove (tracker.charges key) stage.phase ((chatStep tracker now request stage).1.charges key)
      (chatStep tracker now request stage).2.phase := by
  cases stage with
  | enforcingLimit =>
    simp only [chatStep]
    split
    · split <;> exact .waits _ _
    · exact .waits _ _
  | enforcingBalance =>
    simp only [chatStep]
    split <;> exact .waits _ _
  | calling =>
    simp only [chatStep, answered, keyed, charges_hasRecorded]
    split
    · exact .waits _ _
    · split <;> exact .enters _
  | computingCost => exact .waits _ _
  | recordingUsage cost =>
    simp only [chatStep, charges_recordUsage, keyed, if_true]
    refine .records _ _ ?_
    split
    · exact .inl rfl
    · exact .inr rfl
  | deductingBalance cost =>
    obtain ⟨deducted, one, charges⟩ := @charges_deductBalance tracker request cost key
    simp only [chatStep, charges, keyed, if_true]
    exact .deducts _ deducted one
  | markingCharge =>
    simp only [chatStep, keyed, charges_marked]
    exact .leaves _ _
  | returned | thrown => exact .waits _ _

theorem chatStep_others (different : request.chargeKey ≠ some key) (stage : ChatStage) :
    (chatStep tracker now request stage).1.charges key = tracker.charges key := by
  cases stage with
  | calling =>
    simp only [chatStep, answered]
    split <;> rfl
  | recordingUsage cost => simp [chatStep, charges_recordUsage, different]
  | deductingBalance cost =>
    obtain ⟨deducted, _, charges⟩ := @charges_deductBalance tracker request cost key
    simp [chatStep, charges, different]
  | markingCharge =>
    simp only [chatStep]
    split <;> rfl
  | enforcingLimit | enforcingBalance | computingCost | returned | thrown => rfl

theorem advanceChat_request (fails : Bool) (call : TrackedCall) :
    (advanceChat now fails tracker call).2.request = call.request := by
  unfold advanceChat
  split <;> rfl

theorem advanceChat_charges (fails : Bool) (call : TrackedCall) :
    ChargeMove (tracker.charges key) (call.phase key)
      ((advanceChat now fails tracker call).1.charges key)
      ((advanceChat now fails tracker call).2.phase key) := by
  by_cases keyed : call.request.chargeKey = some key
  · unfold advanceChat
    split
    · simp only [TrackedCall.phase, keyed, if_true, ChatStage.phase]
      exact .leaves _ _
    · simp only [TrackedCall.phase, keyed, if_true]
      exact chatStep_charges keyed call.stage
  · have outside : (advanceChat now fails tracker call).2.phase key = .outside := by
      rw [TrackedCall.phase, advanceChat_request, if_neg keyed]
    have same : (advanceChat now fails tracker call).1.charges key = tracker.charges key := by
      unfold advanceChat
      split
      · rfl
      · exact chatStep_others keyed call.stage
    rw [outside, same]
    exact .leaves _ _

theorem advanceChat_enters {fails : Bool} {call : TrackedCall}
    (before : ¬Accounting key call)
    (after : Accounting key (advanceChat now fails tracker call).2) :
    call.request.chargeKey = some key ∧ call.stage = .calling ∧ fails = false ∧
      (hasRecordedUsageCharge tracker now key).1 = false := by
  obtain ⟨request, stage⟩ := call
  have keyed : request.chargeKey = some key := by
    by_contra different
    exact after (by rw [TrackedCall.phase, advanceChat_request, if_neg different])
  simp only [Accounting, TrackedCall.phase, advanceChat_request, keyed, if_true, ne_eq,
    Decidable.not_not] at before after
  cases stage with
  | calling =>
    cases fails with
    | true => simp [advanceChat, ChatStage.canFail, ChatStage.phase] at after
    | false =>
      refine ⟨keyed, rfl, rfl, ?_⟩
      cases found : (hasRecordedUsageCharge tracker now key).1 with
      | false => rfl
      | true => simp [advanceChat, chatStep, answered, keyed, found, ChatStage.phase] at after
  | computingCost | recordingUsage _ | deductingBalance _ | markingCharge => cases before
  | enforcingLimit =>
    revert after
    simp only [advanceChat, chatStep]
    split
    · simp [ChatStage.phase]
    · split
      · split <;> simp [ChatStage.phase]
      · simp [ChatStage.phase]
  | enforcingBalance =>
    revert after
    simp only [advanceChat, chatStep]
    split
    · simp [ChatStage.phase]
    · split <;> simp [ChatStage.phase]
  | returned | thrown =>
    revert after
    simp only [advanceChat, chatStep]
    split <;> simp [ChatStage.phase]

end

def ChargePhase.Allows : ChargePhase → Charges → Prop
  | .outside, charges => charges.usage ≤ 1 ∧ charges.deductions ≤ charges.usage
  | .unrecorded, charges => charges.usage = 0 ∧ charges.deductions = 0
  | .recorded, charges => charges.usage = 1 ∧ charges.deductions = 0
  | .settled, charges => charges.usage = 1 ∧ charges.deductions ≤ 1

theorem ChargePhase.Allows.outside {phase : ChargePhase} {charges : Charges}
    (allows : phase.Allows charges) : ChargePhase.outside.Allows charges := by
  cases phase <;> simp only [ChargePhase.Allows] at allows ⊢ <;> omega

theorem ChargeMove.allows {before after : Charges} {phase next : ChargePhase}
    (move : ChargeMove before phase after next) (allows : phase.Allows before)
    (first : phase = .outside → next ≠ .outside → before.usage = 0) : next.Allows after := by
  cases move with
  | waits => exact allows
  | leaves => exact allows.outside
  | enters =>
    have none := first rfl (by simp)
    simp only [ChargePhase.Allows] at allows ⊢
    omega
  | records _ next =>
    simp only [ChargePhase.Allows] at allows
    rcases next with rfl | rfl <;> simp only [ChargePhase.Allows] <;> omega
  | deducts deducted one =>
    simp only [ChargePhase.Allows] at allows ⊢
    omega

theorem ChargeMove.outside {before after : Charges} {phase next : ChargePhase}
    (move : ChargeMove before phase after next) (out : phase = .outside) :
    after = before := by
  cases move with
  | waits | leaves | enters => rfl
  | records | deducts => cases out

/-- Calls account for a key one at a time, each with the charges of its phase. -/
structure OneCharge (key : ChargeKey) (system : TrackedSystem) : Prop where
  once : ChargePhase.outside.Allows (system.shared.charges key)
  alone : ∀ (index : Nat) (call : TrackedCall), system.processes[index]? = some call →
    Accounting key call → Alone (Accounting key) system index
  allows : ∀ (index : Nat) (call : TrackedCall), system.processes[index]? = some call →
    (call.phase key).Allows (system.shared.charges key)

section

variable {key : ChargeKey} {system : TrackedSystem} {index : Nat} {now : Date} {fails : Bool}
  {call : TrackedCall}

theorem OneCharge.settles (one : OneCharge key system)
    (there : system.processes[index]? = some call)
    (first : FirstAtKey system (.settles index now fails)) :
    OneCharge key (turn (advanceChat now fails) system index) := by
  have move := @advanceChat_charges system.shared now key fails call
  have enters (before : ¬Accounting key call)
      (after : Accounting key (advanceChat now fails system.shared call).2) :
      Nobody (Accounting key) system ∧ (system.shared.charges key).usage = 0 := by
    obtain ⟨keyed, calling, succeeds, unmarked⟩ := advanceChat_enters before after
    exact first call there calling succeeds key keyed unmarked
  have shared : (turn (advanceChat now fails) system index).shared =
      (advanceChat now fails system.shared call).1 := by
    rw [turn_some there]
  have moved : ((advanceChat now fails system.shared call).2.phase key).Allows
      ((advanceChat now fails system.shared call).1.charges key) :=
    move.allows (one.allows index call there) fun before after =>
      (enters (by simpa [Accounting] using before) after).2
  -- From here on the call is alone, or it was and is outside.
  have alone (after : Accounting key (advanceChat now fails system.shared call).2) :
      Alone (Accounting key) system index := by
    by_cases before : Accounting key call
    · exact one.alone index call there before
    · exact (enters before after).1.alone
  refine ⟨shared ▸ moved.outside, fun other found inOther inside => ?_,
    fun other found inOther => ?_⟩
  · by_cases after : Accounting key (advanceChat now fails system.shared call).2
    · have only : Alone (Accounting key) (turn (advanceChat now fails) system index) index :=
        (alone after).turn_self there
      obtain rfl := only other found inOther inside
      exact only
    · rw [getElem?_turn there] at inOther
      split at inOther
      · obtain rfl := Option.some.inj inOther
        exact absurd inside after
      · exact (one.alone other found inOther inside).turn_other there after
  · rw [shared]
    rw [getElem?_turn there] at inOther
    split at inOther
    · obtain rfl := Option.some.inj inOther
      exact moved
    · rename_i different
      by_cases before : Accounting key call
      · have outside : found.phase key = .outside := by
          by_contra inside
          exact different (one.alone index call there before other found inOther inside)
        rw [outside]
        exact moved.outside
      · rw [move.outside (by simpa [Accounting] using before)]
        exact one.allows other found inOther

theorem OneCharge.step (one : OneCharge key system) (event : TrackedEvent)
    (first : FirstAtKey system event) : OneCharge key (trackedStep system event) := by
  cases event with
  | calls request =>
    have fresh : ({ request } : TrackedCall).phase key = .outside := by
      unfold TrackedCall.phase
      split <;> rfl
    have found {index : Nat} {call : TrackedCall}
        (there : (trackedStep system (.calls request)).processes[index]? = some call) :
        system.processes[index]? = some call ∨ call = { request } := by
      rw [trackedStep, List.getElem?_append] at there
      split at there
      · exact .inl there
      · exact .inr (List.mem_singleton.mp (List.mem_of_getElem? there))
    refine ⟨one.once, fun index call there inside => ?_, fun index call there => ?_⟩
    · rcases found there with old | rfl
      · intro other process inOther accounting
        rcases found inOther with oldOther | rfl
        · exact one.alone index call old inside other process oldOther accounting
        · exact absurd fresh accounting
      · exact absurd fresh inside
    · rcases found there with old | rfl
      · exact one.allows index call old
      · rw [fresh]
        exact one.once
  | settles index now fails =>
    cases there : system.processes[index]? with
    | none =>
      rw [trackedStep, turn_none there]
      exact one
    | some call => exact one.settles there first
  | restarts =>
    exact ⟨one.once, fun index call there => by simp [trackedStep] at there,
      fun index call there => by simp [trackedStep] at there⟩

theorem OneCharge.fresh (balances : List UserAiBalance) : OneCharge key (freshSystem balances) :=
  ⟨⟨Nat.zero_le 1, Nat.le_refl 0⟩, fun index call there => by simp [freshSystem] at there,
    fun index call there => by simp [freshSystem] at there⟩

end

/-- When each call that finds its key unmarked is the first one at the key, usage is
recorded and the balance deducted at most once for each key. -/
theorem usage_charged_once (balances : List UserAiBalance) (events : List TrackedEvent)
    (first : Guarded trackedStep FirstAtKey (freshSystem balances) events) (key : ChargeKey) :
    ChargedAtMostOnce key (run trackedStep (freshSystem balances) events) := by
  have one : OneCharge key (run trackedStep (freshSystem balances) events) :=
    run_guarded_invariant (OneCharge key)
      (fun _ event invariant allowed => invariant.step event allowed) (.fresh balances) first
  obtain ⟨usage, deductions⟩ := one.once
  exact ⟨usage, Nat.le_trans deductions usage⟩

def taggingRequest : ChatRequest where
  context := { organizationId := 1, userId := 2, operation := .transcriptTagging }
  isPlatformBilled := true
  provider := .openai
  model := "gpt-4o"
  idempotencyKey := some ("tag:1:3:4" : String).toList
  answer := { inputTokens := 800, outputTokens := 100, totalTokens := 900 }
  cost := 150

def wholeCall (index : Nat) (now : Date) : List TrackedEvent :=
  List.replicate 7 (.settles index now false)

/-- Two calls get their answers before either has marked the key; a call that fails at
its deduction is made again. -/
def overlappingCalls : List TrackedEvent :=
  [TrackedEvent.calls taggingRequest, .calls taggingRequest] ++
    List.replicate 3 (TrackedEvent.settles 0 1000 false) ++
    List.replicate 3 (TrackedEvent.settles 1 1000 false) ++
    List.replicate 4 (TrackedEvent.settles 0 1001 false) ++
    List.replicate 4 (TrackedEvent.settles 1 1001 false)

def retriedCall : List TrackedEvent :=
  [TrackedEvent.calls taggingRequest] ++ List.replicate 5 (TrackedEvent.settles 0 1000 false) ++
    [TrackedEvent.settles 0 1001 true, .calls taggingRequest] ++ wholeCall 1 2000

def taggingKey : ChargeKey where
  context := taggingRequest.context
  idempotencyKey := ("tag:1:3:4" : String).toList

def prepaidBalances : List UserAiBalance :=
  [{ organizationId := 1, userId := 2, balanceCents := 1000 }]

theorem overlapping_calls_charged_twice :
    ¬(∀ events ∈ [overlappingCalls, retriedCall],
      ChargedAtMostOnce taggingKey (run trackedStep (freshSystem prepaidBalances) events)) ∧
    (run trackedStep (freshSystem prepaidBalances) overlappingCalls).shared.charges taggingKey =
      { usage := 2, deductions := 2 } ∧
    (run trackedStep (freshSystem prepaidBalances) retriedCall).shared.charges taggingKey =
      { usage := 2, deductions := 1 } := by
  decide +kernel

def repeatedCall : List TrackedEvent :=
  [TrackedEvent.calls taggingRequest] ++ wholeCall 0 1000 ++
    [TrackedEvent.calls taggingRequest] ++ wholeCall 1 2000

theorem repeated_call_charged_once :
    ChargedAtMostOnce taggingKey (run trackedStep (freshSystem prepaidBalances) repeatedCall) ∧
    (run trackedStep (freshSystem prepaidBalances) repeatedCall).shared.charges taggingKey =
      { usage := 1, deductions := 1 } :=
  ⟨usage_charged_once prepaidBalances repeatedCall (by decide +kernel) taggingKey,
    by decide +kernel⟩

end StoryEngine.Ai
