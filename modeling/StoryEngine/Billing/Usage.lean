import StoryEngine.Billing.Tables
import StoryEngine.Data.Ordered
import StoryEngine.Data.Run

namespace StoryEngine.Billing

open Data Schema

/-! # Daily usage

A run adds up the transcript minutes of a day, writes one record for each
organization and sends the minutes to Stripe, where they are added to what was
sent before.
-/

inductive UsageMetric where
  | transcriptMinutes
  | callsProcessed
  | storiesGenerated
deriving DecidableEq

structure UsageRecord where
  id : RowId
  organizationId : RowId
  metric : UsageMetric
  quantity : Nat
  periodStart : Date
  periodEnd : Date
  reportedToStripe : Bool
  /-- The position of the increment at Stripe. -/
  stripeRecordId : Option Nat := none

structure UsageCall where
  id : RowId
  organizationId : RowId
  /-- Seconds. -/
  duration : Option Nat := none
  createdAt : Date
  /-- The word count of the transcript, when there is one. -/
  wordCount : Option Nat := none

/-- A usage record of Stripe, made with the action `increment`. -/
structure Increment where
  organizationId : RowId
  item : Text
  quantity : Nat
  timestamp : Nat

structure UsageTables where
  calls : List UsageCall := []
  records : List UsageRecord := []
  nextId : RowId := 1
  /-- What Stripe has been sent. -/
  increments : List Increment := []

structure UsageReporter where
  billingEnabled : Bool
  organizations : List Organization
  /-- The items of the first active subscription of a customer. -/
  activeSubscription : Text → Option (List Text)
  /-- `Math.ceil((wordCount / 150) * 60)`, in floating point. -/
  estimateSeconds : Nat → Nat

def dayMs : Nat := 24 * 60 * 60 * 1000

def dateKey (date : Date) : Date := date / dayMs * dayMs

structure DailyEntry where
  organizationId : RowId
  totalSeconds : Nat := 0
  callCount : Nat := 0

structure DailyOrgUsage where
  organizationId : RowId
  totalMinutes : Nat
  callCount : Nat

section

variable (reporter : UsageReporter)

def durationSeconds (call : UsageCall) : Nat :=
  match call.duration.filter (· ≠ 0), call.wordCount with
  | some seconds, _ => seconds
  | none, some wordCount => reporter.estimateSeconds wordCount
  | none, none => 0

def addCall (entries : List DailyEntry) (call : UsageCall) : List DailyEntry :=
  let add (entry : DailyEntry) : DailyEntry :=
    { entry with
      totalSeconds := entry.totalSeconds + durationSeconds reporter call
      callCount := entry.callCount + 1 }
  if entries.any (·.organizationId == call.organizationId) then
    updateWhere entries (·.organizationId == call.organizationId) add
  else entries ++ [add { organizationId := call.organizationId }]

def callsOfDay (calls : List UsageCall) (date : Date) : List UsageCall :=
  calls.filter fun call => call.wordCount.isSome &&
    (dateKey date ≤ call.createdAt && call.createdAt ≤ dateKey date + (dayMs - 1))

def aggregateDailyUsage (calls : List UsageCall) (date : Date) : List DailyOrgUsage :=
  ((callsOfDay calls date).foldl (addCall reporter) []).map fun entry => {
    organizationId := entry.organizationId
    totalMinutes := (entry.totalSeconds + 59) / 60
    callCount := entry.callCount }

inductive Stop where
  | beforeRecord
  | afterRecord
  | afterIncrement
  | afterFlag
deriving DecidableEq

inductive UsageOutcome where
  | reported
  | alreadyReported
  | notBilled
  | failed
deriving DecidableEq

def isRecordOf (organizationId : RowId) (periodStart : Date) (record : UsageRecord) : Bool :=
  record.organizationId == organizationId && record.metric == .transcriptMinutes &&
    record.periodStart == periodStart

def findRecord (tables : UsageTables) (organizationId : RowId) (periodStart : Date) :
    Option UsageRecord :=
  tables.records.find? (isRecordOf organizationId periodStart)

def updateRecord (tables : UsageTables) (id : RowId) (change : UsageRecord → UsageRecord) :
    UsageTables :=
  { tables with records := updateWhere tables.records (·.id == id) change }

def writeRecord (tables : UsageTables) (usage : DailyOrgUsage) (periodStart : Date) :
    UsageRecord × UsageTables :=
  match findRecord tables usage.organizationId periodStart with
  | some existing =>
    ({ existing with quantity := usage.totalMinutes },
      updateRecord tables existing.id fun row => { row with quantity := usage.totalMinutes })
  | none =>
    let record : UsageRecord := {
      id := tables.nextId
      organizationId := usage.organizationId
      metric := .transcriptMinutes
      quantity := usage.totalMinutes
      periodStart
      periodEnd := periodStart + (dayMs - 1)
      reportedToStripe := false }
    (record, { tables with
      records := tables.records ++ [record]
      nextId := tables.nextId + 1 })

def meteredItem (organizationId : RowId) : Option Text := do
  let org ← reporter.organizations.find? (·.id == organizationId)
  let customer ← org.stripeCustomerId.filter fun customer => !customer.isEmpty
  if org.plan = .freeTrial then none
  else (← reporter.activeSubscription customer).head?

def createUsageRecord (tables : UsageTables) (increment : Increment) : UsageTables :=
  { tables with increments := tables.increments ++ [increment] }

def reportUsageToStripe (tables : UsageTables) (organizationId : RowId) (transcriptMinutes : Nat)
    (timestamp : Nat) : Option Nat × UsageTables :=
  match meteredItem reporter organizationId with
  | none => (none, tables)
  | some item =>
    (some tables.increments.length, createUsageRecord tables
      { organizationId, item, quantity := transcriptMinutes, timestamp })

def flagged (stripeRecordId : Nat) (row : UsageRecord) : UsageRecord :=
  { row with reportedToStripe := true, stripeRecordId := some stripeRecordId }

def reportOrganization (periodStart : Date) (tables : UsageTables) (usage : DailyOrgUsage)
    (stop : Option Stop) : UsageOutcome × UsageTables :=
  if stop = some .beforeRecord then (.failed, tables)
  else
    let (record, tables) := writeRecord tables usage periodStart
    if stop = some .afterRecord then (.failed, tables)
    else if record.reportedToStripe then (.alreadyReported, tables)
    else
      match reportUsageToStripe reporter tables usage.organizationId usage.totalMinutes
        (periodStart / 1000) with
      | (none, tables) => (.notBilled, tables)
      | (some stripeRecordId, tables) =>
        if stop = some .afterIncrement then (.failed, tables)
        else
          (if stop = some .afterFlag then .failed else .reported,
            updateRecord tables record.id (flagged stripeRecordId))

/-- A run with its failures: where the work for an organization fails, and after how
many organizations the process ends. -/
structure UsageRun where
  date : Date
  stops : List (RowId × Stop) := []
  crash : Option Nat := none

structure UsageResult where
  processed : Nat := 0
  reported : Nat := 0
  errors : Nat := 0

def reportAll (run : UsageRun) : List DailyOrgUsage → UsageTables → List UsageOutcome × UsageTables
  | [], tables => ([], tables)
  | usage :: rest, tables =>
    let (outcome, tables) := reportOrganization reporter (dateKey run.date) tables usage
      (run.stops.lookup usage.organizationId)
    let (outcomes, tables) := reportAll run rest tables
    (outcome :: outcomes, tables)

def usagesOf (tables : UsageTables) (run : UsageRun) : List DailyOrgUsage :=
  let usages := aggregateDailyUsage reporter tables.calls run.date
  run.crash.elim usages usages.take

def runDailyUsageReport (tables : UsageTables) (run : UsageRun) : UsageResult × UsageTables :=
  if !reporter.billingEnabled then ({}, tables)
  else
    let usages := usagesOf reporter tables run
    let (outcomes, tables) := reportAll reporter run usages tables
    ({ processed := usages.length
       reported := outcomes.count .reported
       errors := outcomes.count .failed }, tables)

end

end StoryEngine.Billing
