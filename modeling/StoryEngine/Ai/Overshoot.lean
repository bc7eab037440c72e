import Mathlib.Algebra.Order.BigOperators.Group.List
import StoryEngine.Ai.DebitedCost

namespace StoryEngine.Ai

open Access Data Schema

/-! # Beyond a limit

A call is checked before the provider is asked and counts once it is recorded, so the calls that
are under way together may all have been admitted below the limit.  The limit is exceeded by at
most what they count for at their peak.
-/

def ChatStage.isUnrecorded : ChatStage → Bool
  | .enforcingBalance | .calling | .computingCost | .recordingUsage _ => true
  | _ => false

def ChatStage.unrecorded (request : ChatRequest) (dimension : LimitDimension)
    (stage : ChatStage) : Nat :=
  if stage.isUnrecorded then
    countsFor request.context.operation request.answer.totalTokens dimension
  else 0

def unrecorded (organizationId userId : RowId) (dimension : LimitDimension) (call : TrackedCall) :
    Nat :=
  if ofUser organizationId userId call.request.context then
    call.stage.unrecorded call.request dimension
  else 0

def ChatStage.undebited (request : ChatRequest) : ChatStage → Nat
  | .calling => if request.isPlatformBilled then ceilCents request.cost else 0
  | .computingCost => ceilCents request.cost
  | .recordingUsage cost => if request.isPlatformBilled then ceilCents cost else 0
  | .deductingBalance cost => ceilCents cost
  | _ => 0

def undebited (organizationId userId : RowId) (call : TrackedCall) : Nat :=
  if ofUser organizationId userId call.request.context then call.stage.undebited call.request
  else 0

section

variable (organizationId userId : RowId)

def unrecordedTogether (dimension : LimitDimension) (system : ClockedSystem) : Nat :=
  inFlight (unrecorded organizationId userId dimension) system.calls

def undebitedTogether (system : ClockedSystem) : Nat :=
  inFlight (undebited organizationId userId) system.calls

def limitsInForce (tracker : UsageTracker) : Maxima :=
  buildUsageLimits (getEffectiveLimit .first tracker.usageLimits organizationId userId)

def currentUsage (system : ClockedSystem) : UsageSummary :=
  getCurrentUsage system.calls.shared system.clock organizationId userId

/-- No call is under way, the usage is within the limits and the balance is not overdrawn. -/
structure WithinLimits (system : ClockedSystem) : Prop where
  idle : system.calls.processes = []
  usage : ∀ dimension max,
    limitsInForce organizationId userId system.calls.shared dimension = some max →
      currentUsage organizationId userId system dimension ≤ max
  solvent : ∀ balance ∈ ownBalance system.calls.shared organizationId userId,
    0 ≤ balance.balanceCents

end

section

variable {organizationId userId : RowId} {dimension : LimitDimension} {tracker : UsageTracker}
  {now : Date} {fails : Bool} {call : TrackedCall} {max : Nat}

variable {context : UsageContext} {later : Date} {request : ChatRequest} {cost : Nat}
  {stage : ChatStage}

theorem enforceLimit_below
    (own : ofUser organizationId userId context = true)
    (allowed : enforceLimit tracker now context = true)
    (limited : limitsInForce organizationId userId tracker dimension = some max) :
    getCurrentUsage tracker now organizationId userId dimension < max := by
  obtain ⟨rfl, rfl⟩ : context.organizationId = organizationId ∧ context.userId = userId := by
    simpa [ofUser] using own
  exact evaluateLimitStatus_allowed.mp allowed dimension max limited

theorem windowStart_mono (passes : now ≤ later) :
    windowStart now dimension ≤ windowStart later dimension := by
  cases dimension with
  | tokensPerDay | requestsPerDay => exact startOfDay_mono passes
  | tokensPerWeek | requestsPerWeek | storiesPerWeek => exact startOfWeek_mono passes
  | tokensPerMonth | requestsPerMonth | storiesPerMonth => exact startOfMonth_mono passes

theorem getCurrentUsage_later (passes : now ≤ later) :
    getCurrentUsage tracker later organizationId userId dimension ≤
      getCurrentUsage tracker now organizationId userId dimension := by
  have earlier := @windowStart_mono dimension now later passes
  simp only [getCurrentUsage]
  apply List.Sublist.sum_le_sum
  · apply List.Sublist.map
    apply List.monotone_filter_right
    intro record counted
    simp only [Bool.and_eq_true, decide_eq_true_eq] at counted ⊢
    exact ⟨counted.1, Nat.le_trans earlier counted.2⟩
  · exact fun _ _ => Nat.zero_le _

theorem getCurrentUsage_recordUsage :
    getCurrentUsage (recordUsage tracker now request cost) now organizationId userId dimension ≤
      getCurrentUsage tracker now organizationId userId dimension +
        countsFor request.context.operation request.answer.totalTokens dimension := by
  simp only [getCurrentUsage, recordUsage, List.filter_append, List.map_append, List.sum_append,
    List.filter_cons, List.filter_nil]
  apply Nat.add_le_add_left
  split <;> simp

theorem getCurrentUsage_recordUsage_other
    (other : ofUser organizationId userId request.context = false) :
    getCurrentUsage (recordUsage tracker now request cost) now organizationId userId =
      getCurrentUsage tracker now organizationId userId := by
  have foreign (record : AiUsageRecord) (same : record.context = request.context) :
      record.belongsTo organizationId userId = false := by
    simpa [AiUsageRecord.belongsTo, ofUser, same] using other
  funext dimension
  simp [getCurrentUsage, recordUsage, List.filter_append, foreign]

theorem chatStep_usage_other
    (other : ofUser organizationId userId request.context = false) (stage : ChatStage) :
    getCurrentUsage (chatStep tracker now request stage).1 now organizationId userId =
      getCurrentUsage tracker now organizationId userId := by
  cases stage with
  | calling =>
    simp only [chatStep, answered]
    split <;> rfl
  | recordingUsage cost => exact getCurrentUsage_recordUsage_other other
  | deductingBalance cost =>
    simp only [chatStep, deductBalance]
    split <;> rfl
  | markingCharge =>
    simp only [chatStep]
    split <;> rfl
  | enforcingLimit | enforcingBalance | computingCost | returned | thrown => rfl

theorem ChatStage.unrecorded_le (stage : ChatStage) :
    stage.unrecorded request dimension ≤ ChatStage.calling.unrecorded request dimension := by
  simp only [ChatStage.unrecorded]
  split
  · exact Nat.le_refl _
  · exact Nat.zero_le _

theorem chatStep_usage
    (own : ofUser organizationId userId request.context = true)
    (limited : limitsInForce organizationId userId tracker dimension = some max) :
    getCurrentUsage (chatStep tracker now request stage).1 now organizationId userId dimension +
          (chatStep tracker now request stage).2.unrecorded request dimension ≤
        getCurrentUsage tracker now organizationId userId dimension +
          stage.unrecorded request dimension ∨
      getCurrentUsage (chatStep tracker now request stage).1 now organizationId userId dimension ≤
        max := by
  cases stage with
  | enforcingLimit =>
    cases allowed : enforceLimit tracker now request.context with
    | true => exact .inr (Nat.le_of_lt (enforceLimit_below own allowed limited))
    | false =>
      left
      simp only [chatStep, allowed]
      exact Nat.le_refl _
  | enforcingBalance =>
    left
    simp only [chatStep]
    split
    · exact Nat.le_refl _
    · exact Nat.add_le_add_left (Nat.zero_le _) _
  | calling =>
    left
    have kept : getCurrentUsage (answered tracker now request).1 now organizationId userId =
        getCurrentUsage tracker now organizationId userId := by
      simp only [answered]
      split <;> rfl
    simp only [chatStep, kept]
    exact Nat.add_le_add_left (ChatStage.unrecorded_le _) _
  | computingCost => exact .inl (Nat.le_refl _)
  | recordingUsage cost =>
    left
    have recorded := @getCurrentUsage_recordUsage organizationId userId dimension tracker now
      request cost
    have ended : (chatStep tracker now request (.recordingUsage cost)).2.unrecorded request
        dimension = 0 := by
      simp only [chatStep]
      split <;> rfl
    rw [ended]
    exact recorded
  | deductingBalance cost =>
    left
    simp only [chatStep, deductBalance]
    split <;> exact Nat.le_refl _
  | markingCharge =>
    left
    simp only [chatStep]
    split <;> exact Nat.le_refl _
  | returned | thrown => exact .inl (Nat.le_refl _)

theorem advanceChat_usage
    (limited : limitsInForce organizationId userId tracker dimension = some max) :
    getCurrentUsage (advanceChat now fails tracker call).1 now organizationId userId dimension +
          unrecorded organizationId userId dimension (advanceChat now fails tracker call).2 ≤
        getCurrentUsage tracker now organizationId userId dimension +
          unrecorded organizationId userId dimension call ∨
      getCurrentUsage (advanceChat now fails tracker call).1 now organizationId userId dimension ≤
        max := by
  simp only [advanceChat]
  split
  · left
    have ended : unrecorded organizationId userId dimension { call with stage := .thrown } = 0 := by
      simp [unrecorded, ChatStage.unrecorded, ChatStage.isUnrecorded]
    rw [ended]
    exact Nat.add_le_add_left (Nat.zero_le _) _
  · cases own : ofUser organizationId userId call.request.context with
    | true =>
      simp only [unrecorded, own, if_true]
      exact chatStep_usage own limited
    | false =>
      left
      simp only [unrecorded, own, chatStep_usage_other own]
      exact Nat.le_refl _

@[simp] theorem advanceChat_usageLimits :
    (advanceChat now fails tracker call).1.usageLimits = tracker.usageLimits := by
  have kept (stage : ChatStage) :
      (chatStep tracker now call.request stage).1.usageLimits = tracker.usageLimits := by
    cases stage with
    | calling =>
      simp only [chatStep, answered]
      split <;> rfl
    | deductingBalance cost =>
      simp only [chatStep, deductBalance]
      split <;> rfl
    | markingCharge =>
      simp only [chatStep]
      split <;> rfl
    | enforcingLimit | enforcingBalance | computingCost | recordingUsage _ | returned | thrown =>
      rfl
  simp only [advanceChat]
  split
  · rfl
  · exact kept call.stage

def overdrawn (tracker : UsageTracker) (organizationId userId : RowId) : Int :=
  ((costLedger tracker organizationId userId).balanceCents.map fun cents => -cents).getD 0

theorem enforceBalance_solvent
    (own : ofUser organizationId userId context = true)
    (allowed : enforceBalance tracker context = true) :
    overdrawn tracker organizationId userId ≤ 0 := by
  obtain ⟨rfl, rfl⟩ : context.organizationId = organizationId ∧ context.userId = userId := by
    simpa [ofUser] using own
  have same : ownBalance tracker context.organizationId context.userId =
      findBalance tracker context := rfl
  simp only [enforceBalance] at allowed
  simp only [overdrawn, costLedger, same]
  cases found : findBalance tracker context with
  | none => simp
  | some balance =>
    simp only [found, decide_eq_true_eq] at allowed
    simp only [Option.map_some, Option.getD_some]
    omega

theorem overdrawn_deductBalance
    (own : ofUser organizationId userId request.context = true) :
    overdrawn (deductBalance tracker request cost) organizationId userId ≤
      overdrawn tracker organizationId userId + ceilCents cost := by
  cases prepaid : ownBalance tracker organizationId userId with
  | some balance =>
    have isSome : (ownBalance tracker organizationId userId).isSome = true := by
      rw [prepaid]
      rfl
    have before : (costLedger tracker organizationId userId).balanceCents =
        some balance.balanceCents := by
      simp [costLedger, prepaid]
    simp only [overdrawn, costLedger_deductBalance own isSome, before, Option.map_some,
      Option.getD_some]
    omega
  | none =>
    obtain ⟨rfl, rfl⟩ : request.context.organizationId = organizationId ∧
        request.context.userId = userId := by simpa [ofUser] using own
    have absent : findBalance tracker request.context = none := prepaid
    simp only [deductBalance, absent]
    omega

theorem chatStep_balance
    (own : ofUser organizationId userId request.context = true) :
    overdrawn (chatStep tracker now request stage).1 organizationId userId +
          (chatStep tracker now request stage).2.undebited request ≤
        overdrawn tracker organizationId userId + stage.undebited request ∨
      overdrawn (chatStep tracker now request stage).1 organizationId userId ≤ 0 := by
  cases stage with
  | enforcingLimit =>
    left
    simp only [chatStep]
    split
    · split
      · exact Int.le_refl _
      · next unbilled =>
          have free : ChatStage.calling.undebited request = 0 := if_neg unbilled
          rw [free]
          exact Int.le_refl _
    · exact Int.le_refl _
  | enforcingBalance =>
    cases allowed : enforceBalance tracker request.context with
    | true => exact .inr (enforceBalance_solvent own allowed)
    | false =>
      left
      simp only [chatStep, allowed]
      exact Int.le_refl _
  | calling =>
    left
    have kept : overdrawn (answered tracker now request).1 organizationId userId =
        overdrawn tracker organizationId userId := by
      simp only [answered]
      split <;> rfl
    have less : (answered tracker now request).2.undebited request ≤
        ChatStage.calling.undebited request := by
      simp only [answered]
      cases billed : request.isPlatformBilled with
      | true =>
        split
        · simp [ChatStage.undebited, billed]
        · split <;> simp [ChatStage.undebited, billed]
      | false =>
        split
        · simp [ChatStage.undebited, billed]
        · split <;> simp [ChatStage.undebited, billed]
    simp only [chatStep, kept]
    omega
  | computingCost =>
    left
    simp only [chatStep, ChatStage.undebited]
    split <;> omega
  | recordingUsage cost =>
    left
    have kept : overdrawn (recordUsage tracker now request cost) organizationId userId =
        overdrawn tracker organizationId userId := rfl
    simp only [chatStep, kept]
    split
    · next charged =>
        simp only [Bool.and_eq_true] at charged
        simp [ChatStage.undebited, charged.1]
    · simp only [ChatStage.undebited]
      split <;> omega
  | deductingBalance cost =>
    left
    have deducted := @overdrawn_deductBalance organizationId userId tracker request cost own
    simp only [chatStep, ChatStage.undebited]
    omega
  | markingCharge =>
    left
    simp only [chatStep]
    split <;> exact Int.le_refl _
  | returned | thrown => exact .inl (Int.le_refl _)

theorem advanceChat_balance :
    overdrawn (advanceChat now fails tracker call).1 organizationId userId +
          undebited organizationId userId (advanceChat now fails tracker call).2 ≤
        overdrawn tracker organizationId userId + undebited organizationId userId call ∨
      overdrawn (advanceChat now fails tracker call).1 organizationId userId ≤ 0 := by
  simp only [advanceChat]
  split
  · left
    have ended : undebited organizationId userId { call with stage := .thrown } = 0 := by
      simp [undebited, ChatStage.undebited]
    simp only [ended]
    omega
  · cases own : ofUser organizationId userId call.request.context with
    | true =>
      simp only [undebited, own, if_true]
      exact chatStep_balance own
    | false =>
      left
      simp only [undebited, own, overdrawn, chatStep_cost_other own]
      exact Int.le_refl _

end

section

variable {organizationId userId : RowId} {dimension : LimitDimension} {max : Nat}
  {system : ClockedSystem}

theorem clockedStep_usageLimits (event : ClockedEvent) :
    (clockedStep system event).calls.shared.usageLimits = system.calls.shared.usageLimits := by
  cases event with
  | passes milliseconds => rfl
  | calls request => rfl
  | settles index fails =>
    have kept : (turn (advanceChat system.clock fails) system.calls index).shared.usageLimits =
        system.calls.shared.usageLimits := by
      apply turn_shared (fun tracker : UsageTracker =>
        tracker.usageLimits = system.calls.shared.usageLimits) rfl
      exact fun call => advanceChat_usageLimits
    exact kept
  | restarts => rfl

theorem clockedStep_usage
    (limited : limitsInForce organizationId userId system.calls.shared dimension = some max)
    (event : ClockedEvent) :
    (currentUsage organizationId userId (clockedStep system event) dimension : Int) +
          unrecordedTogether organizationId userId dimension (clockedStep system event) ≤
        currentUsage organizationId userId system dimension +
          unrecordedTogether organizationId userId dimension system ∨
      (currentUsage organizationId userId (clockedStep system event) dimension : Int) ≤ max := by
  cases event with
  | passes milliseconds =>
    left
    have later := @getCurrentUsage_later organizationId userId dimension system.calls.shared
      system.clock (system.clock + milliseconds) (Nat.le_add_right _ _)
    exact Int.add_le_add_right (Int.ofNat_le.mpr later) _
  | calls request =>
    left
    have fresh : unrecorded organizationId userId dimension { request } = 0 := by
      simp [unrecorded, ChatStage.unrecorded, ChatStage.isUnrecorded]
    simp only [clockedStep, trackedStep, unrecordedTogether, inFlight_spawn, fresh,
      Nat.add_zero]
    exact Int.le_refl _
  | settles index fails =>
    cases there : system.calls.processes[index]? with
    | none =>
      left
      simp only [clockedStep, trackedStep, turn_none there]
      exact Int.le_refl _
    | some call =>
      have flight := @inFlight_turn _ _ (unrecorded organizationId userId dimension)
        system.calls (advanceChat system.clock fails) index call there
      have shared : (turn (advanceChat system.clock fails) system.calls index).shared =
          (advanceChat system.clock fails system.calls.shared call).1 := by
        rw [turn_some there]
      have moved := @advanceChat_usage organizationId userId dimension system.calls.shared
        system.clock fails call max limited
      simp only [clockedStep, trackedStep, currentUsage, unrecordedTogether, shared]
      omega
  | restarts =>
    left
    have none : unrecordedTogether organizationId userId dimension
        (clockedStep system .restarts) = 0 := rfl
    have kept : currentUsage organizationId userId (clockedStep system .restarts) =
        currentUsage organizationId userId system := rfl
    rw [none, kept]
    omega

theorem clockedStep_balance (event : ClockedEvent) :
    overdrawn (clockedStep system event).calls.shared organizationId userId +
          undebitedTogether organizationId userId (clockedStep system event) ≤
        overdrawn system.calls.shared organizationId userId +
          undebitedTogether organizationId userId system ∨
      overdrawn (clockedStep system event).calls.shared organizationId userId ≤ 0 := by
  cases event with
  | passes milliseconds => exact .inl (Int.le_refl _)
  | calls request =>
    left
    have fresh : undebited organizationId userId { request } = 0 := by
      simp [undebited, ChatStage.undebited]
    simp only [clockedStep, trackedStep, undebitedTogether, inFlight_spawn, fresh, Nat.add_zero]
    exact Int.le_refl _
  | settles index fails =>
    cases there : system.calls.processes[index]? with
    | none =>
      left
      simp only [clockedStep, trackedStep, turn_none there]
      exact Int.le_refl _
    | some call =>
      have flight := @inFlight_turn _ _ (undebited organizationId userId) system.calls
        (advanceChat system.clock fails) index call there
      have shared : (turn (advanceChat system.clock fails) system.calls index).shared =
          (advanceChat system.clock fails system.calls.shared call).1 := by
        rw [turn_some there]
      have moved := @advanceChat_balance organizationId userId system.calls.shared
        system.clock fails call
      simp only [clockedStep, trackedStep, undebitedTogether, shared]
      omega
  | restarts =>
    left
    have none : undebitedTogether organizationId userId (clockedStep system .restarts) = 0 := rfl
    have kept : overdrawn (clockedStep system .restarts).calls.shared organizationId userId =
        overdrawn system.calls.shared organizationId userId := rfl
    rw [none, kept]
    omega

end

section

variable {organizationId userId : RowId} {system : ClockedSystem} (events : List ClockedEvent)

theorem run_usage (within : WithinLimits organizationId userId system)
    {dimension : LimitDimension} {max : Nat}
    (limited : limitsInForce organizationId userId system.calls.shared dimension = some max) :
    (currentUsage organizationId userId (run clockedStep system events) dimension : Int) +
        unrecordedTogether organizationId userId dimension (run clockedStep system events) ≤
      max + peak (unrecordedTogether organizationId userId dimension) clockedStep system
        events := by
  have start : (currentUsage organizationId userId system dimension : Int) +
      unrecordedTogether organizationId userId dimension system ≤ max := by
    have below := within.usage dimension max limited
    simp only [unrecordedTogether, inFlight, within.idle, List.map_nil, List.sum_nil]
    omega
  apply @used_le_peak _ _ clockedStep
    (fun current => (currentUsage organizationId userId current dimension : Int))
    (unrecordedTogether organizationId userId dimension) max
    (fun current => current.calls.shared.usageLimits = system.calls.shared.usageLimits)
  · intro current event same
    exact (clockedStep_usageLimits event).trans same
  · intro current event same
    apply clockedStep_usage
    simp only [limitsInForce, same]
    exact limited
  · rfl
  · exact start

theorem run_balance (within : WithinLimits organizationId userId system) :
    overdrawn (run clockedStep system events).calls.shared organizationId userId +
        undebitedTogether organizationId userId (run clockedStep system events) ≤
      peak (undebitedTogether organizationId userId) clockedStep system events := by
  have start : overdrawn system.calls.shared organizationId userId +
      undebitedTogether organizationId userId system ≤ 0 := by
    simp only [undebitedTogether, inFlight, within.idle, List.map_nil, List.sum_nil, overdrawn,
      costLedger]
    cases found : ownBalance system.calls.shared organizationId userId with
    | none => simp
    | some balance =>
      have solvent := within.solvent balance found
      simp only [Option.map_some, Option.getD_some]
      omega
  have below := @used_le_peak _ _ clockedStep
    (fun current => overdrawn current.calls.shared organizationId userId)
    (undebitedTogether organizationId userId) 0 (fun _ => True) (fun _ _ _ => trivial)
    (fun _ event _ => clockedStep_balance event) system events trivial start
  rw [Int.zero_add] at below
  exact below

end

theorem overshoot_at_most_peak (organizationId userId : RowId) (system : ClockedSystem)
    (events : List ClockedEvent) (within : WithinLimits organizationId userId system) :
    let after := run clockedStep system events
    (∀ dimension max,
      limitsInForce organizationId userId system.calls.shared dimension = some max →
        currentUsage organizationId userId after dimension ≤
          max + peak (unrecordedTogether organizationId userId dimension) clockedStep system
            events) ∧
      ∀ balance ∈ ownBalance after.calls.shared organizationId userId,
        -(peak (undebitedTogether organizationId userId) clockedStep system events : Int) ≤
          balance.balanceCents := by
  intro after
  constructor
  · intro dimension max limited
    have below := run_usage events within limited
    simp only [after]
    omega
  · intro balance isBalance
    have below := run_balance events within
    have owed : overdrawn after.calls.shared organizationId userId = -balance.balanceCents := by
      simp [overdrawn, costLedger, Option.mem_def.mp isBalance]
    simp only [after] at owed
    omega

def tokenCall : ChatRequest where
  context := { organizationId := 1, userId := 2, operation := .ragQuery }
  isPlatformBilled := true
  provider := .openai
  model := ("gpt-4o" : String).toList
  answer := { inputTokens := 40, outputTokens := 20, totalTokens := 60 }
  cost := 6000

def smallAllowance : ClockedSystem where
  clock := 1700000000000
  calls := limitedSystem [{ organizationId := 1, userId := 2, balanceCents := 1 }]
    [{ organizationId := 1, userId := some 2, limits := { maxTokensPerDay := some 10 } }]

def callsTogether : List ClockedEvent :=
  [ClockedEvent.calls tokenCall, .calls tokenCall, .settles 0 false, .settles 0 false,
    .settles 1 false, .settles 1 false] ++
    List.replicate 4 (ClockedEvent.settles 0 false) ++
    List.replicate 4 (ClockedEvent.settles 1 false)

theorem smallAllowance_within : WithinLimits 1 2 smallAllowance where
  idle := rfl
  usage := fun dimension max _ => by
    have unused : currentUsage 1 2 smallAllowance dimension = 0 := rfl
    rw [unused]
    exact Nat.zero_le max
  solvent := by decide

theorem calls_together_at_peak :
    currentUsage 1 2 (run clockedStep smallAllowance callsTogether) .tokensPerDay ≤
      10 + 120 := by
  have bounded := (overshoot_at_most_peak 1 2 smallAllowance callsTogether
    smallAllowance_within).1 .tokensPerDay 10 (by decide)
  have together : peak (unrecordedTogether 1 2 .tokensPerDay) clockedStep smallAllowance
      callsTogether = 120 := by decide +kernel
  rw [together] at bounded
  exact bounded

theorem calls_together_overshoot :
    limitsInForce 1 2 smallAllowance.calls.shared .tokensPerDay = some 10 ∧
      currentUsage 1 2 (run clockedStep smallAllowance callsTogether) .tokensPerDay = 120 ∧
      ¬currentUsage 1 2 (run clockedStep smallAllowance callsTogether) .tokensPerDay ≤
        10 + tokenCall.answer.totalTokens ∧
      ((ownBalance (run clockedStep smallAllowance callsTogether).calls.shared 1 2).map
        (·.balanceCents)) = some (-119) ∧
      ¬-(ceilCents tokenCall.cost : Int) ≤ -119 := by
  decide +kernel

end StoryEngine.Ai
