import StoryEngine.Ai.DebitedCost
import StoryEngine.Governance.Policy

namespace StoryEngine.Ai

open Access Data Governance Schema

/-! # Usage notifications

Every completed call starts two checks that run detached, and every usage record one that is
waited for.  A check makes a list of notifications, and stores each of them after a look for one
with the same key in its window; the table has no such key.
-/

inductive LimitType where
  | usage (dimension : LimitDimension)
  | monthlyBudgetTokens
  | monthlyBudgetCost
  | dailySpendOrg
  | dailySpendAnomaly
deriving DecidableEq

def usageNotificationLabel : LimitType → String
  | .usage .tokensPerDay => "daily token"
  | .usage .tokensPerWeek => "weekly token"
  | .usage .tokensPerMonth => "monthly token"
  | .usage .requestsPerDay => "daily request"
  | .usage .requestsPerWeek => "weekly request"
  | .usage .requestsPerMonth => "monthly request"
  | .usage .storiesPerWeek => "weekly story"
  | .usage .storiesPerMonth => "monthly case study"
  | .monthlyBudgetTokens => "monthly AI token budget"
  | .monthlyBudgetCost => "monthly AI spend budget"
  | .dailySpendOrg => "daily AI spend"
  | .dailySpendAnomaly => "daily AI spend anomaly baseline"

structure AiUsageNotification where
  organizationId : RowId
  userId : RowId
  limitType : LimitType
  thresholdPct : Nat
  currentUsage : Nat
  limitValue : Nat
  message : Text
  acknowledged : Bool := false
  createdAt : Date

def buildUsageNotificationMessage (limitType : LimitType)
    (thresholdPct currentUsage limitValue : Nat) : Text :=
  let label := (usageNotificationLabel limitType).toList
  let numbers := (" limit (" : String).toList ++ toLocaleString currentUsage ++
    (" / " : String).toList ++ toLocaleString limitValue
  if 100 ≤ thresholdPct then
    ("You have reached your " : String).toList ++ label ++ numbers ++
      ("). Further requests will be blocked until the limit resets." : String).toList
  else
    ("You have used " : String).toList ++ Nat.toDigits 10 thresholdPct ++
      ("% of your " : String).toList ++ label ++ numbers ++ (")." : String).toList

/-- From when on a notification is looked for: the day at the look, or a date. -/
inductive AlertWindow where
  | today
  | since (date : Date)
deriving DecidableEq

/-- The arguments of `createNotificationIfNew` or `createNotificationIfNewSince`. -/
structure UsageAlert where
  organizationId : RowId
  userId : RowId
  limitType : LimitType
  thresholdPct : Nat
  currentUsage : Nat
  limitValue : Nat
  window : AlertWindow := .today
deriving DecidableEq

/-- The rows that the checks read beside those of the tracker. -/
structure AlertTables where
  orgSettings : List OrgSettings := []
  users : List User := []

def alertPolicy (tables : AlertTables) (organizationId : RowId) : DataGovernancePolicy :=
  decodeDataGovernancePolicy
    (((tables.orgSettings.find? (·.organizationId == organizationId)).map
      (·.dataGovernancePolicy)).getD .null)

structure LimitThresholdCheck where
  dimension : LimitDimension
  current : Nat
  max : Nat

def buildLimitThresholdChecks (usage : UsageSummary) (limits : Maxima) :
    List LimitThresholdCheck :=
  [.tokensPerDay, .tokensPerWeek, .tokensPerMonth, .requestsPerDay, .requestsPerWeek,
    .requestsPerMonth, .storiesPerWeek, .storiesPerMonth].filterMap fun dimension =>
      ((limits dimension).filter (· != 0)).map fun max =>
        { dimension, current := usage dimension, max }

def usagePct (current max : Nat) : Int := mathRound ((current : ℚ) / max * 100)

def checkAndNotify (tracker : UsageTracker) (now : Date) (organizationId userId : RowId) :
    List UsageAlert :=
  match getEffectiveLimit .first tracker.usageLimits organizationId userId with
  | none => []
  | some limit =>
    let usage := getCurrentUsage tracker now organizationId userId
    let thresholds : List Nat := [limit.warningThresholdPct, 90, 100].insertionSort (· ≤ ·)
    (buildLimitThresholdChecks usage (maximaOf limit)).flatMap fun check =>
      (thresholds.filter fun threshold : Nat =>
        (threshold : Int) ≤ usagePct check.current check.max).map fun threshold => {
          organizationId, userId
          limitType := .usage check.dimension
          thresholdPct := threshold
          currentUsage := check.current
          limitValue := check.max }

def organizationRecords (tracker : UsageTracker) (organizationId : RowId) (first last : Date) :
    List AiUsageRecord :=
  tracker.usageRecords.filter fun record =>
    record.context.organizationId == organizationId &&
      (first ≤ record.createdAt && record.createdAt < last)

def recordedCents (records : List AiUsageRecord) : ℚ :=
  ((records.map (·.cost)).sum : ℚ) / 100

def checkSpendAnomalies (tracker : UsageTracker) (tables : AlertTables) (now : Date)
    (organizationId userId : RowId) : List UsageAlert :=
  let window := getUtcUsageWindow now
  let todayOrgCost :=
    recordedCents (organizationRecords tracker organizationId window.startOfDay
      window.startOfTomorrow)
  let previousSevenDays :=
    organizationRecords tracker organizationId (window.startOfDay - 7 * dayLength)
      window.startOfDay
  let orgThreshold := ((alertPolicy tables organizationId).aiSpendAlertDailyCents.map fun cents =>
    max 500 cents.1.toNat).getD 10000
  let days := (previousSevenDays.map fun record => startOfDay record.createdAt).eraseDups
  let avgDaily := recordedCents previousSevenDays / days.length
  let alert (limitType : LimitType) (limitValue : Nat) : UsageAlert := {
    organizationId, userId, limitType
    thresholdPct := 100
    currentUsage := (mathRound todayOrgCost).toNat
    limitValue }
  (if (orgThreshold : ℚ) ≤ todayOrgCost then [alert .dailySpendOrg orgThreshold] else []) ++
    if !previousSevenDays.isEmpty && 0 < avgDaily && avgDaily * 3 ≤ todayOrgCost &&
        2000 ≤ todayOrgCost then
      [alert .dailySpendAnomaly (mathRound avgDaily).toNat]
    else []

structure BudgetUse where
  limitType : LimitType
  budget : Option Nat
  currentUsage : Nat

def budgetUse (policy : DataGovernancePolicy) (records : List AiUsageRecord) : BudgetUse :=
  match policy.aiBudgetMode with
  | some .tokens => {
      limitType := .monthlyBudgetTokens
      budget := policy.aiBudgetMonthlyTokens.map fun tokens => tokens.1.toNat
      currentUsage := (records.map (·.totalTokens)).sum }
  | _ => {
      limitType := .monthlyBudgetCost
      budget := policy.aiBudgetMonthlyCents.map fun cents => cents.1.toNat
      currentUsage := (mathRound (recordedCents records)).toNat }

def budgetThresholds (policy : DataGovernancePolicy) : List Nat :=
  match policy.aiBudgetThresholds with
  | some values => ((values.map fun value => value.1.toNat).eraseDups).insertionSort (· ≤ ·)
  | none => [80, 90, 100]

def checkOrgBudgetAlerts (tracker : UsageTracker) (tables : AlertTables) (now : Date)
    (organizationId : RowId) : List UsageAlert :=
  let policy := alertPolicy tables organizationId
  let startOfMonth := (getUtcUsageWindow now).startOfMonth
  let use := budgetUse policy (tracker.usageRecords.filter fun record =>
    record.context.organizationId == organizationId && startOfMonth ≤ record.createdAt)
  let recipients := tables.users.filter fun user =>
    user.organizationId == organizationId && (user.role == .owner || user.role == .admin)
  match use.budget.filter (0 < ·) with
  | none => []
  | some budget =>
    let pct := use.currentUsage * 100 / budget
    ((budgetThresholds policy).filter (· ≤ pct)).flatMap fun threshold =>
      recipients.map fun recipient => {
        organizationId
        userId := recipient.id
        limitType := use.limitType
        thresholdPct := threshold
        currentUsage := use.currentUsage
        limitValue := budget
        window := .since startOfMonth }

inductive UsageCheck where
  | thresholds
  | spend
  | budget
deriving DecidableEq

def UsageCheck.alerts (tracker : UsageTracker) (tables : AlertTables) (now : Date)
    (organizationId userId : RowId) : UsageCheck → List UsageAlert
  | .thresholds => checkAndNotify tracker now organizationId userId
  | .spend => checkSpendAnomalies tracker tables now organizationId userId
  | .budget => checkOrgBudgetAlerts tracker tables now organizationId

/-- Before its queries, before the look for the first of its alerts, or with one that was not
found; `seen` is how many notifications there were at the look. -/
inductive NotifierStage where
  | reading (check : UsageCheck)
  | looking (alerts : List UsageAlert)
  | creating (alert : UsageAlert) (seen : Nat) (rest : List UsageAlert)
  | done
deriving DecidableEq

structure Notifier where
  organizationId : RowId
  userId : RowId
  stage : NotifierStage
  awaitedBy : Option Nat := none

def UsageAlert.sinceDate (alert : UsageAlert) (now : Date) : Date :=
  match alert.window with
  | .today => (getUtcUsageWindow now).startOfDay
  | .since date => date

def UsageAlert.isFor (alert : UsageAlert) (notification : AiUsageNotification) : Bool :=
  notification.organizationId == alert.organizationId && notification.userId == alert.userId &&
    notification.limitType == alert.limitType && notification.thresholdPct == alert.thresholdPct

def UsageAlert.notification (alert : UsageAlert) (now : Date) : AiUsageNotification where
  organizationId := alert.organizationId
  userId := alert.userId
  limitType := alert.limitType
  thresholdPct := alert.thresholdPct
  currentUsage := alert.currentUsage
  limitValue := alert.limitValue
  message := buildUsageNotificationMessage alert.limitType alert.thresholdPct alert.currentUsage
    alert.limitValue
  createdAt := now

def notifierStep (tracker : UsageTracker) (tables : AlertTables) (now : Date)
    (organizationId userId : RowId) (notifications : List AiUsageNotification) :
    NotifierStage → List AiUsageNotification × NotifierStage
  | .reading check =>
    (notifications, .looking (check.alerts tracker tables now organizationId userId))
  | .looking [] => (notifications, .done)
  | .looking (alert :: rest) =>
    (notifications,
      if notifications.any fun notification =>
          alert.isFor notification && alert.sinceDate now ≤ notification.createdAt then
        .looking rest
      else .creating alert notifications.length rest)
  | .creating alert _ rest => (notifications ++ [alert.notification now], .looking rest)
  | .done => (notifications, .done)

def advanceNotifier (tracker : UsageTracker) (tables : AlertTables) (now : Date) (fails : Bool)
    (notifications : List AiUsageNotification) (notifier : Notifier) :
    List AiUsageNotification × Notifier :=
  if fails then (notifications, { notifier with stage := .done })
  else
    let next := notifierStep tracker tables now notifier.organizationId notifier.userId
      notifications notifier.stage
    (next.1, { notifier with stage := next.2 })

structure AlertSystem where
  clocked : ClockedSystem
  tables : AlertTables
  alerts : Interleaved (List AiUsageNotification) Notifier

inductive AlertEvent where
  | call (event : ClockedEvent)
  | notifies (index : Nat) (fails : Bool)

def startedChecks (index : Nat) (call : TrackedCall) : List Notifier :=
  let notifier (check : UsageCheck) (awaitedBy : Option Nat) : Notifier := {
    organizationId := call.request.context.organizationId
    userId := call.request.context.userId
    stage := .reading check
    awaitedBy }
  match call.stage with
  | .recordingUsage _ => [notifier .budget (some index)]
  | .markingCharge => [notifier .thresholds none, notifier .spend none]
  | _ => []

def waits (system : AlertSystem) (index : Nat) : Bool :=
  system.alerts.processes.any fun notifier =>
    notifier.awaitedBy == some index && notifier.stage != .done

def alertStep (system : AlertSystem) : AlertEvent → AlertSystem
  | .call (.settles index fails) =>
    if waits system index then system
    else
      let started :=
        match system.clocked.calls.processes[index]?, fails with
        | some call, false => startedChecks index call
        | _, _ => []
      { system with
        clocked := clockedStep system.clocked (.settles index fails)
        alerts := { system.alerts with processes := system.alerts.processes ++ started } }
  | .call .restarts =>
    { system with
      clocked := clockedStep system.clocked .restarts
      alerts := { system.alerts with processes := [] } }
  | .call event => { system with clocked := clockedStep system.clocked event }
  | .notifies index fails =>
    { system with
      alerts := turn (advanceNotifier system.clocked.calls.shared system.tables
        system.clocked.clock fails) system.alerts index }

end StoryEngine.Ai
