import Mathlib.Data.Rat.Floor
import StoryEngine.Ai.UsageTracker

namespace StoryEngine.Ai

open Data Schema

/-! # Debits and recorded costs

The cost of a call is recorded in hundredths of a cent, and the balance is debited in whole cents:
each deduction rounds up, so the debits exceed the costs by less than a cent for each of them.
-/

/-- `Math.round`. -/
def mathRound (number : ℚ) : Int := ⌊number + 1 / 2⌋

structure ModelPricing where
  inputCostPer1kTokens : ℚ
  outputCostPer1kTokens : ℚ
  input_nonneg : 0 ≤ inputCostPer1kTokens
  output_nonneg : 0 ≤ outputCostPer1kTokens

def computeCost (pricing : Option ModelPricing) (inputTokens outputTokens : Nat) : ℚ :=
  match pricing with
  | none => 0
  | some pricing =>
    let inputCost := inputTokens / 1000 * pricing.inputCostPer1kTokens
    let outputCost := outputTokens / 1000 * pricing.outputCostPer1kTokens
    mathRound ((inputCost + outputCost) * 100) / 100

def debitedCents (amountCents : ℚ) : Int :=
  let roundedCents : ℚ := mathRound (amountCents * 100) / 100
  ⌈roundedCents⌉

theorem mathRound_int (number : Int) : mathRound number = number := by
  apply Int.floor_eq_iff.mpr
  constructor <;> linarith

theorem mathRound_nonneg {number : ℚ} (nonneg : 0 ≤ number) : 0 ≤ mathRound number := by
  apply Int.floor_nonneg.mpr
  linarith

theorem computeCost_hundredths (pricing : Option ModelPricing) (inputTokens outputTokens : Nat) :
    ∃ cost : Nat, computeCost pricing inputTokens outputTokens = cost / 100 := by
  cases pricing with
  | none => exact ⟨0, by simp [computeCost]⟩
  | some pricing =>
    have input := mul_nonneg (show (0 : ℚ) ≤ inputTokens / 1000 by positivity)
      pricing.input_nonneg
    have output := mul_nonneg (show (0 : ℚ) ≤ outputTokens / 1000 by positivity)
      pricing.output_nonneg
    obtain ⟨cost, isCost⟩ := Int.eq_ofNat_of_zero_le (mathRound_nonneg
      (show 0 ≤ (inputTokens / 1000 * pricing.inputCostPer1kTokens +
        outputTokens / 1000 * pricing.outputCostPer1kTokens) * 100 by linarith))
    exact ⟨cost, by simp only [computeCost, isCost, Int.cast_natCast]⟩

theorem ceilCents_bounds (cost : Nat) : cost ≤ 100 * ceilCents cost ∧
    100 * ceilCents cost ≤ cost + 99 := by
  simp only [ceilCents]
  omega

theorem debitedCents_cost (cost : Nat) : debitedCents (cost / 100) = ceilCents cost := by
  have rounded : mathRound ((cost / 100 : ℚ) * 100) = cost := by
    have whole : (cost / 100 : ℚ) * 100 = ((cost : Int) : ℚ) := by
      rw [Int.cast_natCast]
      ring
    rw [whole, mathRound_int]
  have bounds := ceilCents_bounds cost
  have lower : (cost : ℚ) ≤ 100 * ceilCents cost := by exact_mod_cast bounds.1
  have upper : (100 * ceilCents cost : ℚ) ≤ cost + 99 := by exact_mod_cast bounds.2
  simp only [debitedCents, rounded]
  apply Int.ceil_eq_iff.mpr
  push_cast
  constructor <;> linarith

section

variable (tracker : UsageTracker) (organizationId userId : RowId)

def ownBalance : Option UserAiBalance :=
  tracker.balances.find? fun balance =>
    balance.organizationId == organizationId && balance.userId == userId

/-- Recorded costs in hundredths of a cent, and debits in cents with their number. -/
structure CostLedger where
  recorded : Nat
  debited : Nat
  deductions : Nat
  balanceCents : Option Int
deriving DecidableEq

def AiDebit.belongsTo (debit : AiDebit) (organizationId userId : RowId) : Bool :=
  debit.organizationId == organizationId && debit.userId == userId

def costLedger : CostLedger :=
  let debits := tracker.debits.filter (·.belongsTo organizationId userId)
  { recorded :=
      ((tracker.usageRecords.filter (·.belongsTo organizationId userId)).map (·.cost)).sum
    debited := (debits.map (·.amountCents)).sum
    deductions := debits.length
    balanceCents := (ownBalance tracker organizationId userId).map (·.balanceCents) }

end

def ofUser (organizationId userId : RowId) (context : UsageContext) : Bool :=
  context.organizationId == organizationId && context.userId == userId

def ChatStage.undeducted : ChatStage → Nat
  | .deductingBalance cost => cost
  | _ => 0

def undeducted (organizationId userId : RowId) (call : TrackedCall) : Nat :=
  if ofUser organizationId userId call.request.context then call.stage.undeducted else 0

/-- Neither a failure nor a restart ends a call of the user at its deduction. -/
def DeductionSucceeds (organizationId userId : RowId) (system : TrackedSystem) :
    TrackedEvent → Prop
  | .settles index _ fails =>
    ∀ call ∈ system.processes[index]?, undeducted organizationId userId call ≠ 0 → fails = false
  | .restarts => ∀ call ∈ system.processes, undeducted organizationId userId call = 0
  | .calls _ => True

instance (organizationId userId : RowId) (system : TrackedSystem) :
    (event : TrackedEvent) → Decidable (DeductionSucceeds organizationId userId system event)
  | .settles index _ _ => inferInstanceAs (Decidable (∀ call ∈ system.processes[index]?, _ → _))
  | .restarts => inferInstanceAs (Decidable (∀ call ∈ system.processes, _))
  | .calls _ => isTrue trivial

/-- With what the call has not deducted, before and after. -/
inductive CostMove : CostLedger → Nat → CostLedger → Nat → Prop where
  | waits (ledger : CostLedger) (cost : Nat) : CostMove ledger cost ledger cost
  | records (ledger : CostLedger) (cost : Nat) :
      CostMove ledger 0 { ledger with recorded := ledger.recorded + cost } cost
  | deducts (ledger : CostLedger) (cost : Nat) :
      CostMove ledger cost
        { ledger with
          debited := ledger.debited + ceilCents cost
          deductions := ledger.deductions + 1
          balanceCents := ledger.balanceCents.map (· - ceilCents cost) } 0

section

variable {organizationId userId : RowId} {tracker : UsageTracker} {now : Date}
  {request : ChatRequest} {cost : Nat}

theorem costLedger_recordUsage (own : ofUser organizationId userId request.context = true) :
    costLedger (recordUsage tracker now request cost) organizationId userId =
      { costLedger tracker organizationId userId with
        recorded := (costLedger tracker organizationId userId).recorded + cost } := by
  have belongs (record : AiUsageRecord) (same : record.context = request.context) :
      record.belongsTo organizationId userId = true := by
    simpa [AiUsageRecord.belongsTo, ofUser, same] using own
  simp [costLedger, recordUsage, ownBalance, List.filter_append, belongs]

theorem costLedger_recordUsage_other
    (other : ofUser organizationId userId request.context = false) :
    costLedger (recordUsage tracker now request cost) organizationId userId =
      costLedger tracker organizationId userId := by
  have foreign (record : AiUsageRecord) (same : record.context = request.context) :
      record.belongsTo organizationId userId = false := by
    simpa [AiUsageRecord.belongsTo, ofUser, same] using other
  simp [costLedger, recordUsage, ownBalance, List.filter_append, foreign]

theorem ownBalance_updated {context : UsageContext} {amount : Nat} :
    (updateWhere tracker.balances (·.belongsTo context) fun balance =>
      { balance with
        balanceCents := balance.balanceCents - amount
        lifetimeSpentCents := balance.lifetimeSpentCents + amount }).find? (fun balance =>
          balance.organizationId == organizationId && balance.userId == userId) =
      (ownBalance tracker organizationId userId).map fun balance =>
        if balance.belongsTo context then
          { balance with
            balanceCents := balance.balanceCents - amount
            lifetimeSpentCents := balance.lifetimeSpentCents + amount }
        else balance := by
  rw [find?_updateWhere]
  · rfl
  · intro balance
    rfl

theorem costLedger_deductBalance (own : ofUser organizationId userId request.context = true)
    (prepaid : (ownBalance tracker organizationId userId).isSome = true) :
    costLedger (deductBalance tracker request cost) organizationId userId =
      { costLedger tracker organizationId userId with
        debited := (costLedger tracker organizationId userId).debited + ceilCents cost
        deductions := (costLedger tracker organizationId userId).deductions + 1
        balanceCents :=
          (costLedger tracker organizationId userId).balanceCents.map (· - ceilCents cost) } := by
  obtain ⟨organization, user⟩ : request.context.organizationId = organizationId ∧
      request.context.userId = userId := by simpa [ofUser] using own
  obtain ⟨balance, isBalance⟩ := Option.isSome_iff_exists.mp prepaid
  have found : findBalance tracker request.context = some balance := by
    rw [← isBalance, ← organization, ← user]
    rfl
  have belongs : balance.belongsTo request.context = true := by
    have matching := List.find?_some found
    exact matching
  have deducted := @ownBalance_updated organizationId userId tracker request.context
    (ceilCents cost)
  simp only [isBalance, Option.map_some, belongs, if_true] at deducted
  have isDebit (debit : AiDebit) (sameOrganization : debit.organizationId = organizationId)
      (sameUser : debit.userId = userId) : debit.belongsTo organizationId userId = true := by
    simp [AiDebit.belongsTo, sameOrganization, sameUser]
  simp only [costLedger, deductBalance, found, ownBalance, deducted]
  simp only [ownBalance] at isBalance
  simp [List.filter_append, isDebit, organization, user, isBalance]

theorem costLedger_deductBalance_other
    (other : ofUser organizationId userId request.context = false) :
    costLedger (deductBalance tracker request cost) organizationId userId =
      costLedger tracker organizationId userId := by
  cases found : findBalance tracker request.context with
  | none => simp only [deductBalance, found]
  | some balance =>
    have foreign (debit : AiDebit)
        (sameOrganization : debit.organizationId = request.context.organizationId)
        (sameUser : debit.userId = request.context.userId) :
        debit.belongsTo organizationId userId = false := by
      simpa [AiDebit.belongsTo, ofUser, sameOrganization, sameUser] using other
    have kept : (ownBalance tracker organizationId userId).map (fun balance =>
        if balance.belongsTo request.context then
          { balance with
            balanceCents := balance.balanceCents - ceilCents cost
            lifetimeSpentCents := balance.lifetimeSpentCents + ceilCents cost }
        else balance) = ownBalance tracker organizationId userId := by
      cases isOwn : ownBalance tracker organizationId userId with
      | none => rfl
      | some own =>
        have mine := List.find?_some isOwn
        have apart : own.belongsTo request.context = false := by
          simp only [Bool.and_eq_true, beq_iff_eq] at mine
          cases shared : own.belongsTo request.context with
          | false => rfl
          | true =>
            simp only [UserAiBalance.belongsTo, Bool.and_eq_true, beq_iff_eq] at shared
            simp [ofUser, ← shared.1, ← shared.2, mine.1, mine.2] at other
        simp [apart]
    simp only [costLedger, deductBalance, found, ownBalance]
    rw [ownBalance_updated, kept]
    simp [List.filter_append, foreign, ownBalance]

def ChatStage.mayCost : ChatStage → Bool
  | .computingCost => true
  | .recordingUsage cost => 0 < cost
  | _ => false

def BilledCost (call : TrackedCall) : Prop :=
  call.request.isPlatformBilled = false → call.stage.mayCost = false

variable {fails : Bool} {call : TrackedCall}

theorem chatStep_unbilled (unbilled : request.isPlatformBilled = false) {stage : ChatStage}
    (free : stage.mayCost = false) :
    (chatStep tracker now request stage).2.mayCost = false := by
  cases stage with
  | enforcingLimit =>
    simp only [chatStep, unbilled]
    split <;> rfl
  | enforcingBalance =>
    simp only [chatStep]
    split <;> rfl
  | calling =>
    simp only [chatStep, answered, unbilled]
    split
    · rfl
    · split <;> rfl
  | computingCost => cases free
  | recordingUsage cost =>
    simp only [chatStep]
    split <;> rfl
  | deductingBalance cost => rfl
  | markingCharge =>
    simp only [chatStep]
    split <;> rfl
  | returned | thrown => rfl

theorem advanceChat_billed (billed : BilledCost call) :
    BilledCost (advanceChat now fails tracker call).2 := by
  simp only [advanceChat]
  split
  · exact fun _ => rfl
  · exact fun unbilled => chatStep_unbilled unbilled (billed unbilled)

theorem chatStep_cost (own : ofUser organizationId userId request.context = true)
    (prepaid : (ownBalance tracker organizationId userId).isSome = true) {stage : ChatStage}
    (billed : BilledCost { request, stage }) :
    CostMove (costLedger tracker organizationId userId)
      (undeducted organizationId userId { request, stage })
      (costLedger (chatStep tracker now request stage).1 organizationId userId)
      (undeducted organizationId userId
        { request, stage := (chatStep tracker now request stage).2 }) := by
  simp only [undeducted, own, if_true]
  cases stage with
  | enforcingLimit =>
    simp only [chatStep]
    split
    · split <;> exact .waits _ _
    · exact .waits _ _
  | enforcingBalance =>
    simp only [chatStep]
    split <;> exact .waits _ _
  | calling =>
    simp only [chatStep, answered]
    split
    · split <;> exact .waits _ _
    · split
      · exact .waits _ _
      · split <;> exact .waits _ _
  | computingCost => exact .waits _ _
  | recordingUsage cost =>
    simp only [chatStep, costLedger_recordUsage own]
    cases cost with
    | zero =>
      simp only [Nat.lt_irrefl, decide_false, Bool.and_false]
      exact .records _ 0
    | succ cost =>
      have isBilled : request.isPlatformBilled = true := by
        by_contra unbilled
        have free : decide (0 < cost + 1) = false := billed (by simpa using unbilled)
        simp at free
      simp only [isBilled, Nat.succ_pos, decide_true, Bool.and_self, if_true]
      exact .records _ _
  | deductingBalance cost =>
    simp only [chatStep, costLedger_deductBalance own prepaid]
    exact .deducts _ cost
  | markingCharge =>
    simp only [chatStep]
    split <;> exact .waits _ _
  | returned | thrown => exact .waits _ _

theorem chatStep_cost_other (other : ofUser organizationId userId request.context = false)
    (stage : ChatStage) :
    costLedger (chatStep tracker now request stage).1 organizationId userId =
      costLedger tracker organizationId userId := by
  cases stage with
  | calling =>
    simp only [chatStep, answered]
    split <;> rfl
  | recordingUsage cost => exact costLedger_recordUsage_other other
  | deductingBalance cost => exact costLedger_deductBalance_other other
  | markingCharge =>
    simp only [chatStep]
    split <;> rfl
  | enforcingLimit | enforcingBalance | computingCost | returned | thrown => rfl

theorem advanceChat_cost
    (prepaid : (ownBalance tracker organizationId userId).isSome = true)
    (billed : BilledCost call)
    (succeeds : undeducted organizationId userId call ≠ 0 → fails = false) :
    CostMove (costLedger tracker organizationId userId)
      (undeducted organizationId userId call)
      (costLedger (advanceChat now fails tracker call).1 organizationId userId)
      (undeducted organizationId userId (advanceChat now fails tracker call).2) := by
  simp only [advanceChat]
  split
  · next failed =>
      have deducted : undeducted organizationId userId call = 0 := by
        by_contra pending
        rw [succeeds pending] at failed
        cases failed
      have ended : undeducted organizationId userId { call with stage := .thrown } = 0 := by
        simp only [undeducted, ChatStage.undeducted, ite_self]
      rw [deducted, ended]
      exact .waits _ 0
  · cases own : ofUser organizationId userId call.request.context with
    | true => exact chatStep_cost own prepaid billed
    | false =>
      simp only [undeducted, own, chatStep_cost_other own]
      exact .waits _ 0

end

/-- The sums of a user with what is not deducted yet; each deduction adds less than a cent. -/
structure LedgerFollows (initial : Int) (ledger : CostLedger) (pending : Nat) : Prop where
  balance : ledger.balanceCents = some (initial - ledger.debited)
  covers : ledger.recorded ≤ 100 * ledger.debited + pending
  exceeds : 100 * ledger.debited + pending ≤ ledger.recorded + 99 * ledger.deductions

theorem CostMove.follows {initial : Int} {before after : CostLedger}
    {cost next pending later : Nat} (move : CostMove before cost after next)
    (flight : later + cost = pending + next) (follows : LedgerFollows initial before pending) :
    LedgerFollows initial after later := by
  obtain ⟨balance, covers, exceeds⟩ := follows
  cases move with
  | waits =>
    obtain rfl : later = pending := by omega
    exact ⟨balance, covers, exceeds⟩
  | records =>
    constructor
    · exact balance
    · simp only
      omega
    · simp only
      omega
  | deducts =>
    have bounds := ceilCents_bounds cost
    constructor
    · simp only [balance, Option.map_some, Option.some.injEq]
      push_cast
      ring
    · simp only
      omega
    · simp only
      omega

structure CostFollows (organizationId userId : RowId) (initial : Int)
    (system : TrackedSystem) : Prop where
  billed : ∀ call ∈ system.processes, BilledCost call
  ledger : LedgerFollows initial (costLedger system.shared organizationId userId)
    (inFlight (undeducted organizationId userId) system)

section

variable {organizationId userId : RowId} {initial : Int} {system : TrackedSystem}

theorem CostFollows.settles {index : Nat} {now : Date} {fails : Bool} {call : TrackedCall}
    (follows : CostFollows organizationId userId initial system)
    (there : system.processes[index]? = some call)
    (succeeds : undeducted organizationId userId call ≠ 0 → fails = false) :
    CostFollows organizationId userId initial (turn (advanceChat now fails) system index) := by
  have prepaid : (ownBalance system.shared organizationId userId).isSome = true := by
    have balance := follows.ledger.balance
    simp only [costLedger] at balance
    cases found : ownBalance system.shared organizationId userId with
    | some row => rfl
    | none =>
      rw [found] at balance
      cases balance
  have isBilled := follows.billed call (List.mem_of_getElem? there)
  constructor
  · intro other member
    cases mem_turn there member with
    | inl before => exact follows.billed other before
    | inr moved =>
      rw [moved]
      exact advanceChat_billed isBilled
  · have shared : (turn (advanceChat now fails) system index).shared =
        (advanceChat now fails system.shared call).1 := by
      rw [turn_some there]
    rw [shared]
    exact (advanceChat_cost prepaid isBilled succeeds).follows (inFlight_turn there)
      follows.ledger

theorem CostFollows.step (follows : CostFollows organizationId userId initial system)
    (event : TrackedEvent) (succeeds : DeductionSucceeds organizationId userId system event) :
    CostFollows organizationId userId initial (trackedStep system event) := by
  cases event with
  | calls request =>
    constructor
    · intro call member
      cases List.mem_append.mp member with
      | inl before => exact follows.billed call before
      | inr new =>
        rw [List.mem_singleton.mp new]
        exact fun _ => rfl
    · have fresh : undeducted organizationId userId { request } = 0 := by
        simp only [undeducted, ChatStage.undeducted, ite_self]
      simp only [trackedStep, inFlight_spawn, fresh, Nat.add_zero]
      exact follows.ledger
  | settles index now fails =>
    cases there : system.processes[index]? with
    | none =>
      rw [trackedStep, turn_none there]
      exact follows
    | some call => exact follows.settles there (succeeds call there)
  | restarts =>
    have settled : inFlight (undeducted organizationId userId) system = 0 :=
      inFlight_none succeeds
    have ledger := follows.ledger
    rw [settled] at ledger
    constructor
    · intro call member
      cases member
    · exact ledger

end

def limitedSystem (balances : List UserAiBalance) (usageLimits : List AiUsageLimit) :
    TrackedSystem :=
  { shared := { balances, usageLimits }, processes := [] }

theorem debits_exceed_costs_by_rounding (balances : List UserAiBalance)
    (usageLimits : List AiUsageLimit) (events : List TrackedEvent) (organizationId userId : RowId)
    (balance : UserAiBalance)
    (prepaid : balances.find? (fun row =>
      row.organizationId == organizationId && row.userId == userId) = some balance)
    (succeed : Guarded trackedStep (DeductionSucceeds organizationId userId)
      (limitedSystem balances usageLimits) events)
    (deducted : ∀ call ∈
      (run trackedStep (limitedSystem balances usageLimits) events).processes,
        undeducted organizationId userId call = 0) :
    let ledger := costLedger (run trackedStep (limitedSystem balances usageLimits) events).shared
      organizationId userId
    let recordedCents : ℚ := ledger.recorded / 100
    ledger.balanceCents = some (balance.balanceCents - ledger.debited) ∧
      recordedCents ≤ ledger.debited ∧
      (ledger.debited : ℚ) - recordedCents ≤ 99 / 100 * ledger.deductions := by
  intro ledger recordedCents
  have initial : CostFollows organizationId userId balance.balanceCents
      (limitedSystem balances usageLimits) := by
    constructor
    · intro call member
      cases member
    · constructor
      · simp [costLedger, ownBalance, limitedSystem, prepaid]
      · exact Nat.zero_le _
      · exact Nat.le_refl 0
  have follows := run_guarded_invariant (CostFollows organizationId userId balance.balanceCents)
    (fun _ event follows succeeds => follows.step event succeeds) initial succeed
  obtain ⟨isBalance, covers, exceeds⟩ := follows.ledger
  rw [inFlight_none deducted] at covers exceeds
  have lower : (ledger.recorded : ℚ) ≤ 100 * ledger.debited := by exact_mod_cast covers
  have upper : (100 * ledger.debited : ℚ) ≤ ledger.recorded + 99 * ledger.deductions := by
    exact_mod_cast exceeds
  simp only [recordedCents]
  constructor
  · exact isBalance
  · constructor <;> linarith

def halfCentPrice : ModelPricing where
  inputCostPer1kTokens := 1 / 2
  outputCostPer1kTokens := 1 / 2
  input_nonneg := by norm_num
  output_nonneg := by norm_num

def halfCentCall : ChatRequest where
  context := { organizationId := 1, userId := 2, operation := .ragQuery }
  isPlatformBilled := true
  provider := .openai
  model := ("gpt-4o" : String).toList
  answer := { inputTokens := 800, outputTokens := 200, totalTokens := 1000 }
  cost := 50

def prepaidUser : UserAiBalance where
  organizationId := 1
  userId := 2
  balanceCents := 1000

def twoHalfCentCalls : List TrackedEvent :=
  TrackedEvent.calls halfCentCall :: List.replicate 7 (TrackedEvent.settles 0 1000 false) ++
    TrackedEvent.calls halfCentCall :: List.replicate 7 (TrackedEvent.settles 1 2000 false)

theorem half_cents_debited :
    (costLedger (run trackedStep (limitedSystem [prepaidUser] []) twoHalfCentCalls).shared
      1 2).balanceCents = some 998 :=
  (debits_exceed_costs_by_rounding [prepaidUser] [] twoHalfCentCalls 1 2 prepaidUser
    (by decide) (by decide +kernel) (by decide +kernel)).1.trans (by decide +kernel)

theorem debits_differ_by_a_cent :
    computeCost (some halfCentPrice) 800 200 = halfCentCall.cost / 100 ∧
      Guarded trackedStep (DeductionSucceeds 1 2) (limitedSystem [prepaidUser] [])
        twoHalfCentCalls ∧
      costLedger (run trackedStep (limitedSystem [prepaidUser] []) twoHalfCentCalls).shared 1 2 =
        { recorded := 100, debited := 2, deductions := 2, balanceCents := some 998 } ∧
      ¬((2 : ℚ) - 100 / 100 < 1) := by
  have sum : ((800 / 1000 : ℚ) * (1 / 2) + 200 / 1000 * (1 / 2)) * 100 = ((50 : Int) : ℚ) := by
    norm_num
  constructor
  · simp only [computeCost, halfCentPrice, halfCentCall, Nat.cast_ofNat, sum, mathRound_int]
    norm_num
  · constructor
    · decide +kernel
    · constructor
      · decide +kernel
      · norm_num

end StoryEngine.Ai
