import Mathlib.Tactic.Linarith
import StoryEngine.Ai.UsageAlerts

namespace StoryEngine.Ai

open Data Schema

/-! # Notices of a limit that is reached

A notice at 100 percent says that further requests are blocked.  Its percentage is rounded, and a
limit of zero is no limit to it; what blocks requests compares exactly and looks for null.
-/

def onlyLimit (limits : Maxima) (dimension : LimitDimension) : Maxima :=
  fun other => if other = dimension then limits dimension else none

def NoticeIssued (alerts : List UsageAlert) (dimension : LimitDimension) : Prop :=
  ∃ alert ∈ alerts, alert.limitType = .usage dimension ∧ alert.thresholdPct = 100

section

variable {usage : UsageSummary} {limits : Maxima} {dimension : LimitDimension}

theorem hundred_le_usagePct {current max : Nat} (positive : 0 < max) :
    (100 : Int) ≤ usagePct current max ↔ 199 * max ≤ 200 * current := by
  have size : (0 : ℚ) < max := by exact_mod_cast positive
  rw [usagePct, mathRound, Int.le_floor]
  have scaled : (((100 : Int) : ℚ) ≤ (current : ℚ) / max * 100 + 1 / 2) ↔
      (199 : ℚ) * max ≤ 200 * current := by
    rw [← sub_le_iff_le_add, ← div_le_iff₀ (by norm_num), le_div_iff₀ size]
    constructor
    · intro below
      norm_num at below
      linarith
    · intro below
      norm_num
      linarith
  rw [scaled]
  exact_mod_cast Iff.rfl

theorem mem_buildLimitThresholdChecks {check : LimitThresholdCheck} :
    check ∈ buildLimitThresholdChecks usage limits ↔
      limits check.dimension = some check.max ∧ check.max ≠ 0 ∧
        check.current = usage check.dimension := by
  obtain ⟨dimension, current, max⟩ := check
  have listed : dimension ∈ [LimitDimension.tokensPerDay, .tokensPerWeek, .tokensPerMonth,
      .requestsPerDay, .requestsPerWeek, .requestsPerMonth, .storiesPerWeek, .storiesPerMonth] := by
    cases dimension <;> decide
  simp only [buildLimitThresholdChecks, List.mem_filterMap, Option.map_eq_some_iff,
    Option.filter_eq_some_iff, LimitThresholdCheck.mk.injEq]
  constructor
  · rintro ⟨other, _, found, ⟨limited, positive⟩, rfl, rfl, rfl⟩
    exact ⟨limited, by simpa using positive, rfl⟩
  · rintro ⟨limited, positive, isCurrent⟩
    exact ⟨dimension, listed, max, ⟨limited, by simpa using positive⟩, rfl, isCurrent.symm, rfl⟩

theorem evaluateLimitStatus_onlyLimit {balance : Option BalanceSummary} :
    (evaluateLimitStatus usage (onlyLimit limits dimension) balance).allowed = false ↔
      ∃ max, limits dimension = some max ∧ max ≤ usage dimension := by
  rw [← Bool.not_eq_true, evaluateLimitStatus_allowed]
  constructor
  · intro refused
    by_contra below
    apply refused
    intro other max limited
    simp only [onlyLimit] at limited
    split at limited
    · next same =>
        subst same
        exact not_le.mp fun reached => below ⟨max, limited, reached⟩
    · cases limited
  · rintro ⟨max, limited, reached⟩ below
    have under := below dimension max (by simp [onlyLimit, limited])
    omega

end

section

variable (tracker : UsageTracker) (now : Date) (organizationId userId : RowId)

def limitsOf (tracker : UsageTracker) (organizationId userId : RowId) : Maxima :=
  buildUsageLimits (getEffectiveLimit .first tracker.usageLimits organizationId userId)

theorem noticeIssued_iff (dimension : LimitDimension) :
    NoticeIssued (checkAndNotify tracker now organizationId userId) dimension ↔
      ∃ max, limitsOf tracker organizationId userId dimension = some max ∧ max ≠ 0 ∧
        199 * max ≤ 200 * getCurrentUsage tracker now organizationId userId dimension := by
  simp only [NoticeIssued, checkAndNotify, limitsOf]
  cases getEffectiveLimit .first tracker.usageLimits organizationId userId with
  | none => simp [buildUsageLimits]
  | some limit =>
    simp only [buildUsageLimits, List.mem_flatMap, List.mem_map, List.mem_filter,
      decide_eq_true_eq]
    constructor
    · rintro ⟨alert, ⟨check, isCheck, threshold, ⟨_, beyond⟩, rfl⟩, isDimension, isHundred⟩
      obtain ⟨limited, positive, current⟩ := mem_buildLimitThresholdChecks.mp isCheck
      obtain rfl : check.dimension = dimension := LimitType.usage.inj isDimension
      replace isHundred : threshold = 100 := isHundred
      subst isHundred
      have near := (hundred_le_usagePct (Nat.pos_of_ne_zero positive)).mp beyond
      exact ⟨check.max, limited, positive, current ▸ near⟩
    · rintro ⟨max, limited, positive, near⟩
      have isCheck : ({
          dimension
          current := getCurrentUsage tracker now organizationId userId dimension
          max } : LimitThresholdCheck) ∈ buildLimitThresholdChecks
            (getCurrentUsage tracker now organizationId userId) _ :=
        mem_buildLimitThresholdChecks.mpr ⟨limited, positive, rfl⟩
      refine ⟨_, ⟨_, isCheck, 100, ⟨?_, ?_⟩, rfl⟩, rfl, rfl⟩
      · rw [List.mem_insertionSort]
        simp
      · exact (hundred_le_usagePct (Nat.pos_of_ne_zero positive)).mpr near

/-- The notice is right about a limit exactly when that is not zero, and the usage is not below
it by half a percent or less. -/
theorem limitNotice_truthful_iff (balance : Option BalanceSummary) (dimension : LimitDimension) :
    let usage := getCurrentUsage tracker now organizationId userId
    let limits := limitsOf tracker organizationId userId
    (NoticeIssued (checkAndNotify tracker now organizationId userId) dimension ↔
      (evaluateLimitStatus usage (onlyLimit limits dimension) balance).allowed = false) ↔
    ∀ max, limits dimension = some max →
      max ≠ 0 ∧ (200 * usage dimension < 199 * max ∨ max ≤ usage dimension) := by
  intro usage limits
  rw [noticeIssued_iff, evaluateLimitStatus_onlyLimit]
  cases limited : limits dimension with
  | none => simp [limits, limited]
  | some max =>
    simp only [limits] at limited
    simp only [limited, Option.some.injEq, exists_eq_left', forall_eq', usage]
    omega

end

def almostUsed : UsageTracker where
  usageRecords := [{
    context := { organizationId := 1, userId := 2, operation := .ragQuery }
    provider := .anthropic
    model := "claude"
    inputTokens := 900
    outputTokens := 95
    totalTokens := 995
    cost := 0
    createdAt := 0
    charge := none }]
  usageLimits := [{
    organizationId := 1
    userId := some 2
    limits := { maxTokensPerDay := some 1000 }
    maxRequestsPerWeek := some 0 }]

theorem almostUsed_notices :
    NoticeIssued (checkAndNotify almostUsed 0 1 2) .tokensPerDay ∧
      (evaluateLimitStatus (getCurrentUsage almostUsed 0 1 2)
        (onlyLimit (limitsOf almostUsed 1 2) .tokensPerDay) none).allowed = true ∧
      ¬ NoticeIssued (checkAndNotify almostUsed 0 1 2) .requestsPerWeek ∧
      (evaluateLimitStatus (getCurrentUsage almostUsed 0 1 2)
        (onlyLimit (limitsOf almostUsed 1 2) .requestsPerWeek) none).allowed = false := by
  have used : getCurrentUsage almostUsed 0 1 2 .tokensPerDay = 995 := by decide +kernel
  have tokens : limitsOf almostUsed 1 2 .tokensPerDay = some 1000 := by decide +kernel
  have requests : limitsOf almostUsed 1 2 .requestsPerWeek = some 0 := by decide +kernel
  refine ⟨?_, ?_, ?_, ?_⟩
  · rw [noticeIssued_iff]
    exact ⟨1000, tokens, by omega, by omega⟩
  · rw [← Bool.not_eq_false, evaluateLimitStatus_onlyLimit]
    rintro ⟨max, limited, reached⟩
    obtain rfl : 1000 = max := Option.some.inj (tokens.symm.trans limited)
    omega
  · rw [noticeIssued_iff]
    rintro ⟨max, limited, positive, _⟩
    exact positive (Option.some.inj (limited.symm.trans requests))
  · rw [evaluateLimitStatus_onlyLimit]
    exact ⟨0, requests, Nat.zero_le _⟩

end StoryEngine.Ai
