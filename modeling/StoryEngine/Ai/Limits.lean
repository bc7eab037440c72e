import StoryEngine.Access.Grants
import StoryEngine.Data.FindFirst

namespace StoryEngine.Ai

open Access Data Schema

/-! # Usage limits

A row of limits is of a user or the default of its organization, and a user with a row is not
under the default.  The rows of users have a key; those of the default have none, since their
user is null.
-/

inductive LimitDimension where
  | tokensPerWeek
  | tokensPerDay
  | tokensPerMonth
  | requestsPerWeek
  | requestsPerDay
  | requestsPerMonth
  | storiesPerWeek
  | storiesPerMonth
deriving DecidableEq

abbrev UsageSummary := LimitDimension → Nat

abbrev Maxima := LimitDimension → Option Nat

def maximaOf (limit : AiUsageLimit) : Maxima
  | .tokensPerWeek => limit.maxTokensPerWeek
  | .tokensPerDay => limit.limits.maxTokensPerDay
  | .tokensPerMonth => limit.limits.maxTokensPerMonth
  | .requestsPerWeek => limit.maxRequestsPerWeek
  | .requestsPerDay => limit.limits.maxRequestsPerDay
  | .requestsPerMonth => limit.limits.maxRequestsPerMonth
  | .storiesPerWeek => limit.maxStoriesPerWeek
  | .storiesPerMonth => limit.limits.maxStoriesPerMonth

def withMaxima (limit : AiUsageLimit) (maxima : Maxima) : AiUsageLimit :=
  { limit with
    limits := {
      maxTokensPerDay := maxima .tokensPerDay
      maxTokensPerMonth := maxima .tokensPerMonth
      maxRequestsPerDay := maxima .requestsPerDay
      maxRequestsPerMonth := maxima .requestsPerMonth
      maxStoriesPerMonth := maxima .storiesPerMonth }
    maxTokensPerWeek := maxima .tokensPerWeek
    maxRequestsPerWeek := maxima .requestsPerWeek
    maxStoriesPerWeek := maxima .storiesPerWeek }

def buildUsageLimits (limit : Option AiUsageLimit) : Maxima :=
  match limit with
  | none => fun _ => none
  | some limit => maximaOf limit

structure BalanceSummary where
  balanceCents : Int
  lifetimeSpentCents : Nat

structure LimitStatus where
  allowed : Bool
  reason : Option Text := none
  usage : UsageSummary
  limits : Maxima
  balance : Option BalanceSummary

def checkedDimensions : List LimitDimension :=
  [.tokensPerWeek, .tokensPerDay, .tokensPerMonth, .requestsPerWeek, .requestsPerDay,
    .requestsPerMonth, .storiesPerWeek, .storiesPerMonth]

def limitLabel : LimitDimension → String
  | .tokensPerWeek => "Weekly token"
  | .tokensPerDay => "Daily token"
  | .tokensPerMonth => "Monthly token"
  | .requestsPerWeek => "Weekly request"
  | .requestsPerDay => "Daily request"
  | .requestsPerMonth => "Monthly request"
  | .storiesPerWeek => "Weekly story"
  | .storiesPerMonth => "Monthly case study"

def toLocaleString (number : Nat) : Text :=
  let groups := (Nat.toDigits 10 number).reverse.toChunks 3
  List.intercalate [','] (groups.map List.reverse).reverse

def limitNumber (number : Nat) : LimitDimension → Text
  | .tokensPerWeek | .tokensPerDay | .tokensPerMonth => toLocaleString number
  | _ => Nat.toDigits 10 number

def limitReason (dimension : LimitDimension) (usage max : Nat) : Text :=
  (limitLabel dimension).toList ++ (" limit reached (" : String).toList ++
    limitNumber usage dimension ++ (" / " : String).toList ++ limitNumber max dimension ++
    (")" : String).toList

def reached (usage : UsageSummary) (limits : Maxima) (dimension : LimitDimension) : Bool :=
  (limits dimension).any fun max => max ≤ usage dimension

def evaluateLimitStatus (usage : UsageSummary) (limits : Maxima)
    (balance : Option BalanceSummary) : LimitStatus :=
  match checkedDimensions.find? (reached usage limits) with
  | some dimension => {
      allowed := false
      reason := (limits dimension).map (limitReason dimension (usage dimension))
      usage, limits, balance }
  | none => { allowed := true, usage, limits, balance }

def defaultLimitOf (organizationId : RowId) (row : AiUsageLimit) : Bool :=
  row.organizationId == organizationId && row.userId == none

def getEffectiveLimit (query : FindFirst AiUsageLimit) (rows : List AiUsageLimit)
    (organizationId userId : RowId) : Option AiUsageLimit :=
  (query.row (usageLimitOf organizationId userId) rows).or
    (query.row (defaultLimitOf organizationId) rows)

def getLimitStatus (query : FindFirst AiUsageLimit) (rows : List AiUsageLimit)
    (usage : UsageSummary) (balance : Option BalanceSummary) (organizationId userId : RowId) :
    LimitStatus :=
  evaluateLimitStatus usage (buildUsageLimits (getEffectiveLimit query rows organizationId userId))
    balance

variable {usage : UsageSummary} {limits : Maxima} {balance : Option BalanceSummary}

@[simp] theorem evaluateLimitStatus_limits :
    (evaluateLimitStatus usage limits balance).limits = limits := by
  simp only [evaluateLimitStatus]
  split <;> rfl

theorem evaluateLimitStatus_allowed :
    (evaluateLimitStatus usage limits balance).allowed = true ↔
      ∀ dimension max, limits dimension = some max → usage dimension < max := by
  have checked (dimension : LimitDimension) : dimension ∈ checkedDimensions := by
    cases dimension <;> decide
  simp only [evaluateLimitStatus]
  cases found : checkedDimensions.find? (reached usage limits) with
  | some dimension =>
    have exceeding := List.find?_some found
    simp only [reached, Option.any_eq_true, decide_eq_true_eq] at exceeding
    obtain ⟨max, limited, exceeded⟩ := exceeding
    constructor
    · intro absurd
      cases absurd
    · intro below
      exact absurd (below dimension max limited) (Nat.not_lt.mpr exceeded)
  | none =>
    have below := List.find?_eq_none.mp found
    constructor
    · intro _ dimension max limited
      have notReached := below dimension (checked dimension)
      simpa [reached, limited] using notReached
    · exact fun _ => rfl

/-- A maximum that is left out is undefined, and may be null. -/
structure SetLimitInput where
  userId : Option RowId := none
  maxima : LimitDimension → Option (Option Nat) := fun _ => none
  warningThresholdPct : Option Nat := none

def writtenOver (old : Maxima) (maxima : LimitDimension → Option (Option Nat)) : Maxima :=
  fun dimension => (maxima dimension).getD (old dimension)

/-- `organizationId_userId` with `userId ?? "org_default"`, which is the id of no user; a null
column equals nothing. -/
def compositeKey (organizationId : RowId) (userId : Option RowId) (row : AiUsageLimit) : Bool :=
  userId.any fun userId => usageLimitOf organizationId userId row

def updatedLimit (input : SetLimitInput) (row : AiUsageLimit) : AiUsageLimit :=
  { withMaxima row (writtenOver (maximaOf row) input.maxima) with
    warningThresholdPct := input.warningThresholdPct.getD row.warningThresholdPct }

def createdLimit (organizationId : RowId) (input : SetLimitInput) : AiUsageLimit :=
  withMaxima {
      organizationId
      userId := input.userId
      warningThresholdPct := input.warningThresholdPct.getD 80 }
    (writtenOver (fun _ => none) input.maxima)

def setLimit (db : Database) (organizationId : RowId) (input : SetLimitInput) :
    Except HttpFailure Database :=
  let selects := compositeKey organizationId input.userId
  if db.aiUsageLimits.any selects then
    .ok { db with aiUsageLimits := updateWhere db.aiUsageLimits selects (updatedLimit input) }
  else if input.userId.all fun userId => db.users.any (·.id == userId) then
    .ok { db with aiUsageLimits := db.aiUsageLimits ++ [createdLimit organizationId input] }
  else .error foreignKeyViolated

def removeLimit (db : Database) (organizationId : RowId) (userId : Option RowId) : Database :=
  { db with
    aiUsageLimits := deleteWhere db.aiUsageLimits fun row =>
      row.organizationId == organizationId && row.userId == userId }

end StoryEngine.Ai
