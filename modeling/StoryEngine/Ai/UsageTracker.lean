import StoryEngine.Ai.Limits
import StoryEngine.Ai.OperationPolicy
import StoryEngine.Data.Calendar
import StoryEngine.Data.Interleaving

namespace StoryEngine.Ai

open Data Schema

/-! # Tracked calls

`TrackedAIClient` accounts for a completion after the provider has answered.  The
look at the key, the usage record, the deduction and the mark are separated by
awaits, at each of which other calls go on, the call fails or the server restarts.
-/

structure UsageContext where
  organizationId : RowId
  userId : RowId
  operation : AiOperation
deriving DecidableEq

/-- The parts of the charge key; an identifier or an operation has no colon in it, so
the joined text is another one for other parts. -/
structure ChargeKey where
  context : UsageContext
  idempotencyKey : Text
deriving DecidableEq

structure ChatCompletionResult where
  inputTokens : Nat
  outputTokens : Nat
  totalTokens : Nat

/-- A call of `chatCompletion`, with the answer of the provider and what `computeCost`
makes of it, in hundredths of a cent. -/
structure ChatRequest where
  context : UsageContext
  isPlatformBilled : Bool
  provider : AiProvider
  model : Text
  idempotencyKey : Option Text := none
  answer : ChatCompletionResult
  cost : Nat := 0

def ChatRequest.chargeKey (request : ChatRequest) : Option ChargeKey :=
  ((request.idempotencyKey.map Text.trim).filter fun trimmed => !trimmed.isEmpty).map
    fun trimmed => { context := request.context, idempotencyKey := trimmed }

/-- A usage record; `charge` is the key of the call that wrote it, which the table
does not store. -/
structure AiUsageRecord where
  context : UsageContext
  provider : AiProvider
  model : Text
  inputTokens : Nat
  outputTokens : Nat
  totalTokens : Nat
  cost : Nat
  createdAt : Date
  charge : Option ChargeKey

structure UserAiBalance where
  organizationId : RowId
  userId : RowId
  balanceCents : Int
  lifetimeSpentCents : Nat := 0
deriving DecidableEq

structure AiDebit where
  organizationId : RowId
  userId : RowId
  amountCents : Nat
  description : Text
  charge : Option ChargeKey

structure DedupEntry where
  key : ChargeKey
  expiresAt : Date

/-- The database, and the map that the tracker keeps in memory. -/
structure UsageTracker where
  usageRecords : List AiUsageRecord := []
  usageLimits : List AiUsageLimit := []
  balances : List UserAiBalance := []
  debits : List AiDebit := []
  usageChargeDedup : List DedupEntry := []

def usageChargeDedupTtlMs : Nat := 24 * 60 * 60 * 1000

def pruneUsageChargeKeys (tracker : UsageTracker) (now : Date) : UsageTracker :=
  { tracker with usageChargeDedup := tracker.usageChargeDedup.filter (now < ·.expiresAt) }

def hasRecordedUsageCharge (tracker : UsageTracker) (now : Date) (key : ChargeKey) :
    Bool × UsageTracker :=
  let pruned := pruneUsageChargeKeys tracker now
  (pruned.usageChargeDedup.any (·.key == key), pruned)

def markUsageChargeRecorded (tracker : UsageTracker) (now : Date) (key : ChargeKey) :
    UsageTracker :=
  let pruned := pruneUsageChargeKeys tracker now
  { pruned with
    usageChargeDedup := pruned.usageChargeDedup.filter (·.key != key) ++
      [{ key, expiresAt := now + usageChargeDedupTtlMs }] }

def recordUsage (tracker : UsageTracker) (now : Date) (request : ChatRequest) (cost : Nat) :
    UsageTracker :=
  { tracker with
    usageRecords := tracker.usageRecords ++ [{
      context := request.context
      provider := request.provider
      model := request.model
      inputTokens := request.answer.inputTokens
      outputTokens := request.answer.outputTokens
      totalTokens := request.answer.totalTokens
      cost
      createdAt := now
      charge := request.chargeKey }] }

def UserAiBalance.belongsTo (balance : UserAiBalance) (context : UsageContext) : Bool :=
  balance.organizationId == context.organizationId && balance.userId == context.userId

def findBalance (tracker : UsageTracker) (context : UsageContext) : Option UserAiBalance :=
  tracker.balances.find? (·.belongsTo context)

def enforceBalance (tracker : UsageTracker) (context : UsageContext) : Bool :=
  match findBalance tracker context with
  | none => true
  | some balance => 0 < balance.balanceCents

structure UsageWindowBounds where
  startOfDay : Date
  startOfWeek : Date
  startOfMonth : Date
  startOfTomorrow : Date

def getUtcUsageWindow (now : Date) : UsageWindowBounds where
  startOfDay := startOfDay now
  startOfWeek := startOfWeek now
  startOfMonth := startOfMonth now
  startOfTomorrow := startOfDay now + dayLength

def windowStart (now : Date) : LimitDimension → Date
  | .tokensPerDay | .requestsPerDay => (getUtcUsageWindow now).startOfDay
  | .tokensPerWeek | .requestsPerWeek | .storiesPerWeek => (getUtcUsageWindow now).startOfWeek
  | .tokensPerMonth | .requestsPerMonth | .storiesPerMonth => (getUtcUsageWindow now).startOfMonth

def countsFor (operation : AiOperation) (totalTokens : Nat) : LimitDimension → Nat
  | .tokensPerDay | .tokensPerWeek | .tokensPerMonth => totalTokens
  | .requestsPerDay | .requestsPerWeek | .requestsPerMonth => 1
  | .storiesPerWeek | .storiesPerMonth => if operation = .storyGeneration then 1 else 0

def AiUsageRecord.belongsTo (record : AiUsageRecord) (organizationId userId : RowId) : Bool :=
  record.context.organizationId == organizationId && record.context.userId == userId

def getCurrentUsage (tracker : UsageTracker) (now : Date) (organizationId userId : RowId) :
    UsageSummary :=
  fun dimension =>
    ((tracker.usageRecords.filter fun record =>
      record.belongsTo organizationId userId && windowStart now dimension ≤ record.createdAt).map
        fun record => countsFor record.context.operation record.totalTokens dimension).sum

def enforceLimit (tracker : UsageTracker) (now : Date) (context : UsageContext) : Bool :=
  let usage := getCurrentUsage tracker now context.organizationId context.userId
  let balance := (findBalance tracker context).map fun balance => {
    balanceCents := balance.balanceCents
    lifetimeSpentCents := balance.lifetimeSpentCents }
  (getLimitStatus .first tracker.usageLimits usage balance context.organizationId
    context.userId).allowed

def ceilCents (cost : Nat) : Nat := (cost + 99) / 100

def AiOperation.name : AiOperation → Text
  | .storyGeneration => "STORY_GENERATION"
  | .quoteExtraction => "QUOTE_EXTRACTION"
  | .transcriptTagging => "TRANSCRIPT_TAGGING"
  | .ragQuery => "RAG_QUERY"
  | .embedding => "EMBEDDING"

def debitDescription (request : ChatRequest) : Text :=
  request.context.operation.name ++ (" using " : String).toList ++ request.provider.name ++
    ("/" : String).toList ++ request.model

def deductBalance (tracker : UsageTracker) (request : ChatRequest) (cost : Nat) : UsageTracker :=
  match findBalance tracker request.context with
  | none => tracker
  | some _ =>
    { tracker with
      balances := updateWhere tracker.balances (·.belongsTo request.context) fun balance =>
        { balance with
          balanceCents := balance.balanceCents - ceilCents cost
          lifetimeSpentCents := balance.lifetimeSpentCents + ceilCents cost }
      debits := tracker.debits ++ [{
        organizationId := request.context.organizationId
        userId := request.context.userId
        amountCents := ceilCents cost
        description := debitDescription request
        charge := request.chargeKey }] }

inductive ChatStage where
  | enforcingLimit
  | enforcingBalance
  | calling
  | computingCost
  | recordingUsage (cost : Nat)
  | deductingBalance (cost : Nat)
  | markingCharge
  | returned
  | thrown
deriving DecidableEq

structure TrackedCall where
  request : ChatRequest
  stage : ChatStage := .enforcingLimit

abbrev TrackedSystem := Interleaved UsageTracker TrackedCall

/-- The provider has answered: a key that is recorded as charged ends the call, and
without a platform bill there is no cost to compute. -/
def answered (tracker : UsageTracker) (now : Date) (request : ChatRequest) :
    UsageTracker × ChatStage :=
  let accounting : ChatStage :=
    if request.isPlatformBilled then .computingCost else .recordingUsage 0
  match request.chargeKey with
  | none => (tracker, accounting)
  | some key =>
    let found := hasRecordedUsageCharge tracker now key
    (found.2, if found.1 then .returned else accounting)

def chatStep (tracker : UsageTracker) (now : Date) (request : ChatRequest) :
    ChatStage → UsageTracker × ChatStage
  | .enforcingLimit =>
    (tracker,
      if enforceLimit tracker now request.context then
        if request.isPlatformBilled then .enforcingBalance else .calling
      else .thrown)
  | .enforcingBalance =>
    (tracker, if enforceBalance tracker request.context then .calling else .thrown)
  | .calling => answered tracker now request
  | .computingCost => (tracker, .recordingUsage request.cost)
  | .recordingUsage cost =>
    (recordUsage tracker now request cost,
      if request.isPlatformBilled && 0 < cost then .deductingBalance cost else .markingCharge)
  | .deductingBalance cost => (deductBalance tracker request cost, .markingCharge)
  | .markingCharge =>
    match request.chargeKey with
    | none => (tracker, .returned)
    | some key => (markUsageChargeRecorded tracker now key, .returned)
  | .returned => (tracker, .returned)
  | .thrown => (tracker, .thrown)

def ChatStage.canFail : ChatStage → Bool
  | .markingCharge | .returned | .thrown => false
  | _ => true

def advanceChat (now : Date) (fails : Bool) (tracker : UsageTracker) (call : TrackedCall) :
    UsageTracker × TrackedCall :=
  if fails && call.stage.canFail then (tracker, { call with stage := .thrown })
  else
    let next := chatStep tracker now call.request call.stage
    (next.1, { call with stage := next.2 })

/-- `chatCompletion` is called, the await of a call settles, or the server restarts,
which ends the calls that are under way and empties the map. -/
inductive TrackedEvent where
  | calls (request : ChatRequest)
  | settles (index : Nat) (now : Date) (fails : Bool)
  | restarts

def trackedStep (system : TrackedSystem) : TrackedEvent → TrackedSystem
  | .calls request => { system with processes := system.processes ++ [{ request }] }
  | .settles index now fails => turn (advanceChat now fails) system index
  | .restarts => { shared := { system.shared with usageChargeDedup := [] }, processes := [] }

def freshSystem (balances : List UserAiBalance) : TrackedSystem :=
  { shared := { balances }, processes := [] }

structure ClockedSystem where
  clock : Date
  calls : TrackedSystem

inductive ClockedEvent where
  | passes (milliseconds : Nat)
  | calls (request : ChatRequest)
  | settles (index : Nat) (fails : Bool)
  | restarts

def clockedStep (system : ClockedSystem) : ClockedEvent → ClockedSystem
  | .passes milliseconds => { system with clock := system.clock + milliseconds }
  | .calls request => { system with calls := trackedStep system.calls (.calls request) }
  | .settles index fails =>
    { system with calls := trackedStep system.calls (.settles index system.clock fails) }
  | .restarts => { system with calls := trackedStep system.calls .restarts }

structure Charges where
  usage : Nat
  deductions : Nat
deriving DecidableEq

def UsageTracker.charges (tracker : UsageTracker) (key : ChargeKey) : Charges where
  usage := tracker.usageRecords.countP (·.charge == some key)
  deductions := tracker.debits.countP (·.charge == some key)

def ChargedAtMostOnce (key : ChargeKey) (system : TrackedSystem) : Prop :=
  (system.shared.charges key).usage ≤ 1 ∧ (system.shared.charges key).deductions ≤ 1

instance (key : ChargeKey) (system : TrackedSystem) : Decidable (ChargedAtMostOnce key system) :=
  inferInstanceAs (Decidable (_ ∧ _))

end StoryEngine.Ai
