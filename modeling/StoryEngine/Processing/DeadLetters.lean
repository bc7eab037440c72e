import Mathlib.Algebra.BigOperators.Group.List.Basic
import Mathlib.Data.List.Nodup
import Mathlib.Data.Rat.Floor
import StoryEngine.Data.Run
import StoryEngine.Schema.Rows
import StoryEngine.Text.Pattern

namespace StoryEngine.Processing

open Data Schema Text Pattern

/-! # Replays of failed jobs

The failed jobs of the queue are gone through in order.  The first job of a call stands for the
call: it is retried when its failure is recent, may pass by itself and has not been tried too
often.  Every job is counted once for the run and once for its organization.
-/

inductive CallProcessingFailureClass where
  | rateLimit
  | upstreamTransient
  | networkOrRedis
  | nonRetryable
deriving DecidableEq

section

variable (cases : CaseMapping)

def phrase (text : String) : Pattern := .literal cases true text.toList

def anyOf (parts : List Pattern) : Pattern := sequence [.wordBoundary, choice parts, .wordBoundary]

/-- `.`, which matches no line terminator. -/
def anyCharacter : Pattern :=
  .accept fun c => c != '\n' && c != '\r' && c.toNat != 0x2028 && c.toNat != 0x2029

def retryablePatterns : List (CallProcessingFailureClass × Pattern) := [
  (.rateLimit, anyOf [phrase cases "429",
    sequence [phrase cases "rate", .optional anyCharacter, phrase cases "limit"],
    phrase cases "too many requests", phrase cases "quota exceeded"]),
  (.upstreamTransient, anyOf [
    .seq (phrase cases "5") (times 2 (.accept Char.isDigit)),
    phrase cases "gateway timeout", phrase cases "bad gateway", phrase cases "service unavailable",
    .seq (phrase cases "temporar") (.alt (phrase cases "y") (phrase cases "ily")),
    phrase cases "upstream"]),
  (.networkOrRedis, anyOf [phrase cases "redis", phrase cases "econnreset", phrase cases "etimedout",
    phrase cases "timeout", phrase cases "connection reset", phrase cases "network",
    phrase cases "socket hang up", phrase cases "connect"])]

def classifyCallProcessingFailure (failedReason : Option Text) : CallProcessingFailureClass :=
  let reason := trim (failedReason.getD [])
  if reason.isEmpty then .nonRetryable
  else match (retryablePatterns cases).find? fun rule => rule.2.test reason with
    | some rule => rule.1
    | none => .nonRetryable

end

/-- A failed job.  The parts of its payload are there when they are strings; whether a retry
succeeds is up to the queue. -/
structure FailedProcessCallJob where
  callId : Option Text
  organizationId : Option Text
  failedReason : Option Text := none
  attemptsMade : Option ℚ := none
  failedOn : Option ℚ := none
  timestamp : Option ℚ := none
  retrySucceeds : Bool := true

/-- The numbers that the environment has for the limits, when they are finite. -/
structure ReplayEnvironment where
  maxAgeMinutes : Option ℚ := none
  attemptCap : Option ℚ := none

inductive ReplayTrigger where
  | manual
  | scheduled

structure ReplayInput where
  organizationId : Option Text := none
  trigger : ReplayTrigger
  actorUserId : Option Text := none
  limit : Option ℚ := none
  maxFailureAgeMinutes : Option ℚ := none
  replayAttemptCap : Option ℚ := none
  environment : ReplayEnvironment := {}
  nowMs : ℚ

def parseMaxFailureAgeMinutes (parsed : Option ℚ) : ℚ :=
  match parsed with
  | none => 24 * 60
  | some minutes => max 5 (min (14 * 24 * 60) ⌊minutes⌋)

def parseReplayAttemptCap (parsed : Option ℚ) : ℚ :=
  match parsed with
  | none => 8
  | some attempts => max 1 (min 25 ⌊attempts⌋)

namespace ReplayInput

variable (input : ReplayInput)

def batch : ℚ := max 1 (min 200 ⌊input.limit.getD 50⌋)

def windowMinutes : ℚ :=
  max 5 ⌊input.maxFailureAgeMinutes.getD (parseMaxFailureAgeMinutes input.environment.maxAgeMinutes)⌋

def attemptCap : ℚ :=
  max 1 ⌊input.replayAttemptCap.getD (parseReplayAttemptCap input.environment.attemptCap)⌋

def excludes (organizationId : Text) : Bool :=
  match input.organizationId with
  | some selected => !selected.isEmpty && organizationId != selected
  | none => false

end ReplayInput

namespace FailedProcessCallJob

variable (input : ReplayInput) (job : FailedProcessCallJob)

def payload : Option (Text × Text) :=
  match job.callId, job.organizationId with
  | some callId, some organizationId =>
    if callId.isEmpty || organizationId.isEmpty then none else some (callId, organizationId)
  | _, _ => none

def failureTimestampMs : Option ℚ := job.failedOn.or job.timestamp

def outsideWindow : Bool :=
  job.failureTimestampMs.any fun failedAt => input.windowMinutes * 60 * 1000 < input.nowMs - failedAt

def attempts : ℚ := max 0 ⌊job.attemptsMade.getD 0⌋

end FailedProcessCallJob

inductive SkipReason where
  | missingPayload
  | differentOrganization
  | duplicateCall
  | nonRetryable
  | outsideReplayWindow
  | replayAttemptCap
  | replayError

structure SkippedCounts where
  missingPayload : Nat := 0
  differentOrganization : Nat := 0
  duplicateCall : Nat := 0
  nonRetryable : Nat := 0
  outsideReplayWindow : Nat := 0
  replayAttemptCap : Nat := 0
  replayError : Nat := 0

namespace SkippedCounts

variable (skipped : SkippedCounts)

def add : SkipReason → SkippedCounts
  | .missingPayload => { skipped with missingPayload := skipped.missingPayload + 1 }
  | .differentOrganization =>
    { skipped with differentOrganization := skipped.differentOrganization + 1 }
  | .duplicateCall => { skipped with duplicateCall := skipped.duplicateCall + 1 }
  | .nonRetryable => { skipped with nonRetryable := skipped.nonRetryable + 1 }
  | .outsideReplayWindow => { skipped with outsideReplayWindow := skipped.outsideReplayWindow + 1 }
  | .replayAttemptCap => { skipped with replayAttemptCap := skipped.replayAttemptCap + 1 }
  | .replayError => { skipped with replayError := skipped.replayError + 1 }

def total : Nat :=
  skipped.missingPayload + skipped.differentOrganization + skipped.duplicateCall +
    skipped.nonRetryable + skipped.outsideReplayWindow + skipped.replayAttemptCap +
    skipped.replayError

@[simp] theorem total_add (reason : SkipReason) : (skipped.add reason).total = skipped.total + 1 := by
  cases reason <;> simp only [add, total] <;> omega

end SkippedCounts

structure DeadLetterReplaySummary where
  trigger : ReplayTrigger
  scanned : Nat
  replayed : Nat := 0
  skipped : SkippedCounts := {}
  replayedCalls : List Text := []

structure OrgSummary where
  organizationId : Text
  scanned : Nat := 0
  replayedCalls : List Text := []
  skipped : SkippedCounts := {}

namespace OrgSummary

variable (org : OrgSummary)

def scan : OrgSummary := { org with scanned := org.scanned + 1 }

def skip (reason : SkipReason) : OrgSummary := { org with skipped := org.skipped.add reason }

def retried (callId : Text) : OrgSummary :=
  { org with replayedCalls := org.replayedCalls ++ [callId] }

end OrgSummary

structure ReplayAuditEntry where
  organizationId : Text
  actorUserId : Option Text
  action : Text
  trigger : ReplayTrigger
  scanned : Nat
  replayed : Nat
  replayedCalls : List Text
  skipped : SkippedCounts
  replayWindowMinutes : ℚ
  replayAttemptCap : ℚ

def changeOrg (organizationId : Text) (change : OrgSummary → OrgSummary)
    (orgSummaries : List OrgSummary) : List OrgSummary :=
  if orgSummaries.any (·.organizationId == organizationId) then
    orgSummaries.map fun org => if org.organizationId = organizationId then change org else org
  else orgSummaries ++ [change { organizationId }]

structure Replay where
  summary : DeadLetterReplaySummary
  seenCallIds : List Text := []
  orgSummaries : List OrgSummary := []

namespace Replay

variable (replay : Replay) (organizationId callId : Text)

def skip (reason : SkipReason) : Replay :=
  { replay with summary := { replay.summary with skipped := replay.summary.skipped.add reason } }

def scanOrg : Replay :=
  { replay with orgSummaries := changeOrg organizationId OrgSummary.scan replay.orgSummaries }

def skipOrg (reason : SkipReason) : Replay :=
  { replay.skip reason with
    orgSummaries := changeOrg organizationId (·.skip reason) replay.orgSummaries }

def retried : Replay where
  summary := { replay.summary with
    replayed := replay.summary.replayed + 1
    replayedCalls := replay.summary.replayedCalls ++ [callId] }
  seenCallIds := replay.seenCallIds
  orgSummaries := changeOrg organizationId (·.retried callId) replay.orgSummaries

end Replay

section

variable (cases : CaseMapping) (input : ReplayInput)

def replayJob (replay : Replay) (job : FailedProcessCallJob) : Replay :=
  match job.payload with
  | none => replay.skip .missingPayload
  | some (callId, organizationId) =>
    if input.excludes organizationId then replay.skip .differentOrganization
    else
      let replay := replay.scanOrg organizationId
      if callId ∈ replay.seenCallIds then replay.skipOrg organizationId .duplicateCall
      else
        let replay := { replay with seenCallIds := replay.seenCallIds ++ [callId] }
        if job.outsideWindow input then replay.skipOrg organizationId .outsideReplayWindow
        else if input.attemptCap ≤ job.attempts then
          replay.skipOrg organizationId .replayAttemptCap
        else if classifyCallProcessingFailure cases job.failedReason = .nonRetryable then
          replay.skipOrg organizationId .nonRetryable
        else if job.retrySucceeds then replay.retried organizationId callId
        else replay.skipOrg organizationId .replayError

def replayRetryableDeadLetterJobs (failedJobs : List FailedProcessCallJob) : Replay :=
  run (replayJob cases input)
    { summary := { trigger := input.trigger, scanned := failedJobs.length } } failedJobs

def recordReplayAuditLog (org : OrgSummary) : ReplayAuditEntry where
  organizationId := org.organizationId
  actorUserId := input.actorUserId
  action := (match input.trigger with
    | .scheduled => "CALL_PROCESSING_DEAD_LETTER_AUTO_REPLAY"
    | .manual => "CALL_PROCESSING_DEAD_LETTER_REPLAY_TRIGGERED" : String).toList
  trigger := input.trigger
  scanned := org.scanned
  replayed := org.replayedCalls.length
  replayedCalls := org.replayedCalls
  skipped := org.skipped
  replayWindowMinutes := input.windowMinutes
  replayAttemptCap := input.attemptCap

def auditEntries (replay : Replay) : List ReplayAuditEntry :=
  (replay.orgSummaries.filter fun org => 0 < org.scanned).map (recordReplayAuditLog input)

end

section

variable {organizationId : Text} {change : OrgSummary → OrgSummary}

theorem changeOrg_forall {good : OrgSummary → Prop} {orgSummaries : List OrgSummary}
    (all : ∀ org ∈ orgSummaries, good org) (fresh : good (change { organizationId }))
    (kept : ∀ org, org.organizationId = organizationId → good org → good (change org)) :
    ∀ org ∈ changeOrg organizationId change orgSummaries, good org := by
  intro org isOrg
  simp only [changeOrg] at isOrg
  split at isOrg
  · obtain ⟨before, isBefore, rfl⟩ := List.mem_map.mp isOrg
    split
    · next same => exact kept before same (all before isBefore)
    · exact all before isBefore
  · rcases List.mem_append.mp isOrg with old | isNew
    · exact all org old
    · rw [List.mem_singleton.mp isNew]
      exact fresh

theorem changeOrg_changeOrg {second : OrgSummary → OrgSummary} {orgSummaries : List OrgSummary}
    (kept : ∀ org, (change org).organizationId = org.organizationId) :
    changeOrg organizationId second (changeOrg organizationId change orgSummaries) =
      changeOrg organizationId (fun org => second (change org)) orgSummaries := by
  by_cases present : orgSummaries.any (·.organizationId == organizationId)
  · have still : (orgSummaries.map fun org =>
        if org.organizationId = organizationId then change org else org).any
          (·.organizationId == organizationId) = true := by
      obtain ⟨org, isOrg, same⟩ := List.any_eq_true.mp present
      refine List.any_eq_true.mpr ⟨_, List.mem_map.mpr ⟨org, isOrg, rfl⟩, ?_⟩
      rw [if_pos (by simpa using same)]
      simpa [kept] using same
    simp only [changeOrg, present, still, if_true, List.map_map]
    refine List.map_congr_left fun org _ => ?_
    by_cases same : org.organizationId = organizationId <;> simp [same, kept]
  · have absent : ∀ org ∈ orgSummaries, org.organizationId ≠ organizationId := by
      simpa using present
    have unchanged : (orgSummaries.map fun org =>
        if org.organizationId = organizationId then second org else org) = orgSummaries := by
      rw [List.map_congr_left fun org isOrg => if_neg (absent org isOrg), List.map_id']
    simp [changeOrg, present, kept, unchanged]

theorem changeOrg_scanned {orgSummaries : List OrgSummary}
    (separate : (orgSummaries.map (·.organizationId)).Nodup)
    (kept : ∀ org, (change org).organizationId = org.organizationId)
    (counts : ∀ org, (change org).scanned = org.scanned + 1) :
    ((changeOrg organizationId change orgSummaries).map (·.organizationId)).Nodup ∧
      ((changeOrg organizationId change orgSummaries).map (·.scanned)).sum =
        (orgSummaries.map (·.scanned)).sum + 1 := by
  by_cases present : orgSummaries.any (·.organizationId == organizationId)
  · simp only [changeOrg, present, if_true, List.map_map]
    refine ⟨?_, ?_⟩
    · rw [List.map_congr_left (g := (·.organizationId))]
      · exact separate
      · intro org _
        simp only [Function.comp]
        split <;> simp [kept]
    · induction orgSummaries with
      | nil => simp at present
      | cons org rest ih =>
        obtain ⟨absent, separate⟩ := List.nodup_cons.mp separate
        by_cases same : org.organizationId = organizationId
        · have others : ∀ other ∈ rest, other.organizationId ≠ organizationId := by
            intro other isOther equal
            exact absent (List.mem_map.mpr ⟨other, isOther, equal.trans same.symm⟩)
          have unchanged : (rest.map ((·.scanned) ∘ fun org =>
              if org.organizationId = organizationId then change org else org)) =
                rest.map (·.scanned) :=
            List.map_congr_left fun other isOther => by simp [others other isOther]
          simp only [List.map_cons, List.sum_cons, unchanged, Function.comp, same, if_true,
            counts]
          omega
        · have among : rest.any (·.organizationId == organizationId) = true := by
            simpa [same] using present
          simp only [List.map_cons, List.sum_cons, ih separate among, Function.comp, same,
            if_false]
          omega
  · have absent : ∀ org ∈ orgSummaries, org.organizationId ≠ organizationId := by
      simpa using present
    simp only [changeOrg, present, Bool.false_eq_true, if_false, List.map_append, List.map_cons,
      List.map_nil, List.sum_append, List.sum_cons, List.sum_nil, kept, counts]
    refine ⟨?_, rfl⟩
    rw [List.nodup_append]
    refine ⟨separate, List.nodup_singleton _, ?_⟩
    intro other isOther last isLast equal
    obtain ⟨org, isOrg, rfl⟩ := List.mem_map.mp isOther
    exact absent org isOrg (equal.trans (List.mem_singleton.mp isLast))

end

namespace FailedProcessCallJob

variable (cases : CaseMapping) (input : ReplayInput) (job : FailedProcessCallJob)

def selectedCall : Option Text :=
  (job.payload.filter fun payload => !input.excludes payload.2).map Prod.fst

def eligible : Bool :=
  !job.outsideWindow input && job.attempts < input.attemptCap &&
    classifyCallProcessingFailure cases job.failedReason ≠ .nonRetryable

end FailedProcessCallJob

section

variable {cases : CaseMapping} {input : ReplayInput} {replay : Replay} {job : FailedProcessCallJob}

inductive Turn (cases : CaseMapping) (input : ReplayInput) (replay : Replay)
    (job : FailedProcessCallJob) : Replay → Prop where
  | passedOver (reason : SkipReason) (unselected : job.selectedCall input = none)
      (uncounted : reason = .missingPayload ∨ reason = .differentOrganization) :
      Turn cases input replay job (replay.skip reason)
  | duplicate {callId organizationId : Text} (isCall : job.selectedCall input = some callId)
      (seen : callId ∈ replay.seenCallIds) :
      Turn cases input replay job
        ((replay.scanOrg organizationId).skipOrg organizationId .duplicateCall)
  | skipped {callId organizationId : Text} (reason : SkipReason)
      (isCall : job.selectedCall input = some callId) (unseen : callId ∉ replay.seenCallIds)
      (rejected : (job.eligible cases input && job.retrySucceeds) = false)
      (counted : reason ≠ .missingPayload ∧ reason ≠ .differentOrganization) :
      Turn cases input replay job
        ({ replay.scanOrg organizationId with
          seenCallIds := replay.seenCallIds ++ [callId] }.skipOrg organizationId reason)
  | retried {callId organizationId : Text} (isCall : job.selectedCall input = some callId)
      (unseen : callId ∉ replay.seenCallIds)
      (accepted : (job.eligible cases input && job.retrySucceeds) = true) :
      Turn cases input replay job
        ({ replay.scanOrg organizationId with
          seenCallIds := replay.seenCallIds ++ [callId] }.retried organizationId callId)

theorem replayJob_turn : Turn cases input replay job (replayJob cases input replay job) := by
  cases payload : job.payload with
  | none =>
    simp only [replayJob, payload]
    exact .passedOver _ (by simp [FailedProcessCallJob.selectedCall, payload]) (Or.inl rfl)
  | some call =>
    obtain ⟨callId, organizationId⟩ := call
    simp only [replayJob, payload]
    by_cases excluded : input.excludes organizationId
    · rw [if_pos excluded]
      exact .passedOver _ (by simp [FailedProcessCallJob.selectedCall, payload, excluded])
        (Or.inr rfl)
    have isCall : job.selectedCall input = some callId := by
      simp [FailedProcessCallJob.selectedCall, payload, excluded]
    rw [if_neg excluded]
    by_cases seen : callId ∈ replay.seenCallIds
    · rw [if_pos (by exact seen)]
      exact .duplicate isCall seen
    rw [if_neg (by exact seen)]
    by_cases late : job.outsideWindow input
    · rw [if_pos late]
      exact .skipped _ isCall seen (by simp [FailedProcessCallJob.eligible, late]) (by simp)
    rw [if_neg late]
    by_cases capped : input.attemptCap ≤ job.attempts
    · rw [if_pos capped]
      exact .skipped _ isCall seen
        (by simp [FailedProcessCallJob.eligible, not_lt.mpr capped]) (by simp)
    rw [if_neg capped]
    by_cases lasting : classifyCallProcessingFailure cases job.failedReason = .nonRetryable
    · rw [if_pos lasting]
      exact .skipped _ isCall seen (by simp [FailedProcessCallJob.eligible, lasting]) (by simp)
    rw [if_neg lasting]
    have eligible : job.eligible cases input = true := by
      simp [FailedProcessCallJob.eligible, late, not_le.mp capped, lasting]
    by_cases succeeds : job.retrySucceeds
    · rw [if_pos succeeds]
      exact .retried isCall seen (by simp [eligible, succeeds])
    · rw [if_neg succeeds]
      exact .skipped _ isCall seen (by simp [succeeds]) (by simp)

structure Accounted (taken : List FailedProcessCallJob) (replay : Replay) : Prop where
  counted : taken.length = replay.summary.replayed + replay.summary.skipped.total
  listed : replay.summary.replayed = replay.summary.replayedCalls.length
  balanced : ∀ org ∈ replay.orgSummaries,
    org.scanned = org.replayedCalls.length + org.skipped.total
  separate : (replay.orgSummaries.map (·.organizationId)).Nodup
  divided : (replay.orgSummaries.map (·.scanned)).sum + replay.summary.skipped.missingPayload +
    replay.summary.skipped.differentOrganization = taken.length
  once : replay.summary.replayedCalls.Nodup
  noted : ∀ callId ∈ replay.summary.replayedCalls, callId ∈ replay.seenCallIds

theorem SkippedCounts.uncounted_add (skipped : SkippedCounts) {reason : SkipReason}
    (uncounted : reason = .missingPayload ∨ reason = .differentOrganization) :
    (skipped.add reason).missingPayload + (skipped.add reason).differentOrganization =
      skipped.missingPayload + skipped.differentOrganization + 1 := by
  rcases uncounted with rfl | rfl <;> simp only [add] <;> omega

theorem SkippedCounts.counted_add (skipped : SkippedCounts) {reason : SkipReason}
    (counted : reason ≠ .missingPayload ∧ reason ≠ .differentOrganization) :
    (skipped.add reason).missingPayload = skipped.missingPayload ∧
      (skipped.add reason).differentOrganization = skipped.differentOrganization := by
  cases reason <;> simp_all [add]

section

variable {taken : List FailedProcessCallJob}

theorem Accounted.skipOrg (accounted : Accounted taken replay) (job : FailedProcessCallJob)
    (organizationId : Text) (seenCallIds : List Text) {reason : SkipReason}
    (counted : reason ≠ .missingPayload ∧ reason ≠ .differentOrganization)
    (kept : ∀ callId ∈ replay.seenCallIds, callId ∈ seenCallIds) :
    Accounted (taken ++ [job])
      ({ replay.scanOrg organizationId with seenCallIds }.skipOrg organizationId reason) := by
  have both : ({ replay.scanOrg organizationId with seenCallIds }.skipOrg organizationId
      reason).orgSummaries =
        changeOrg organizationId (fun org => org.scan.skip reason) replay.orgSummaries :=
    @changeOrg_changeOrg _ OrgSummary.scan (·.skip reason) _ fun _ => rfl
  have grown := @changeOrg_scanned organizationId (fun org => org.scan.skip reason) _
    accounted.separate (fun _ => rfl) (fun _ => rfl)
  have same := replay.summary.skipped.counted_add counted
  have size : (taken ++ [job]).length = taken.length + 1 := List.length_append
  refine ⟨?_, accounted.listed, ?_, ?_, ?_, accounted.once, ?_⟩
  · rw [size, accounted.counted]
    simp only [Replay.skipOrg, Replay.skip, Replay.scanOrg, SkippedCounts.total_add]
    omega
  · rw [both]
    refine changeOrg_forall accounted.balanced ?_ ?_
    · simp only [OrgSummary.scan, OrgSummary.skip, SkippedCounts.total_add]
      rfl
    · intro org _ balanced
      simp only [OrgSummary.scan, OrgSummary.skip, SkippedCounts.total_add, balanced]
      omega
  · rw [both]
    exact grown.1
  · rw [both, grown.2, size, ← accounted.divided]
    simp only [Replay.skipOrg, Replay.skip, Replay.scanOrg, same]
    omega
  · exact fun callId isCall => kept callId (accounted.noted callId isCall)

theorem Accounted.retried (accounted : Accounted taken replay) (job : FailedProcessCallJob)
    (organizationId : Text) {callId : Text} (unseen : callId ∉ replay.seenCallIds) :
    Accounted (taken ++ [job])
      ({ replay.scanOrg organizationId with
        seenCallIds := replay.seenCallIds ++ [callId] }.retried organizationId callId) := by
  have both : ({ replay.scanOrg organizationId with
      seenCallIds := replay.seenCallIds ++ [callId] }.retried organizationId callId).orgSummaries =
        changeOrg organizationId (fun org => org.scan.retried callId) replay.orgSummaries :=
    @changeOrg_changeOrg _ OrgSummary.scan (·.retried callId) _ fun _ => rfl
  have grown := @changeOrg_scanned organizationId (fun org => org.scan.retried callId) _
    accounted.separate (fun _ => rfl) (fun _ => rfl)
  have size : (taken ++ [job]).length = taken.length + 1 := List.length_append
  refine ⟨?_, ?_, ?_, ?_, ?_, ?_, ?_⟩
  · rw [size, accounted.counted]
    simp only [Replay.retried, Replay.scanOrg]
    omega
  · simp only [Replay.retried, Replay.scanOrg, List.length_append, List.length_singleton,
      accounted.listed]
  · rw [both]
    refine changeOrg_forall accounted.balanced rfl ?_
    intro org _ balanced
    simp only [OrgSummary.scan, OrgSummary.retried, List.length_append, List.length_singleton,
      balanced]
    omega
  · rw [both]
    exact grown.1
  · rw [both, grown.2, size, ← accounted.divided]
    simp only [Replay.retried, Replay.scanOrg]
    omega
  · have absent : callId ∉ replay.summary.replayedCalls :=
      fun listed => unseen (accounted.noted callId listed)
    exact List.nodup_append.mpr ⟨accounted.once, List.nodup_singleton _,
      fun other listed last isLast equal =>
        absent ((equal.trans (List.mem_singleton.mp isLast)) ▸ listed)⟩
  · intro other listed
    rcases List.mem_append.mp listed with before | isNew
    · exact List.mem_append_left _ (accounted.noted other before)
    · exact List.mem_append_right _ isNew

theorem Accounted.step (accounted : Accounted taken replay) (job : FailedProcessCallJob) :
    Accounted (taken ++ [job]) (replayJob cases input replay job) := by
  have turn : Turn cases input replay job (replayJob cases input replay job) :=
    replayJob_turn
  generalize replayJob cases input replay job = next at turn ⊢
  cases turn with
  | passedOver reason _ uncounted =>
    have one := replay.summary.skipped.uncounted_add uncounted
    have size : (taken ++ [job]).length = taken.length + 1 := List.length_append
    refine ⟨?_, accounted.listed, accounted.balanced, accounted.separate, ?_, accounted.once,
      accounted.noted⟩
    · rw [size, accounted.counted]
      simp only [Replay.skip, SkippedCounts.total_add]
      omega
    · rw [size, ← accounted.divided]
      simp only [Replay.skip]
      omega
  | duplicate isCall seen => exact accounted.skipOrg job _ _ (by simp) fun _ isSeen => isSeen
  | skipped reason isCall unseen rejected counted =>
    exact accounted.skipOrg job _ _ counted fun _ isSeen => List.mem_append_left _ isSeen
  | retried isCall unseen accepted => exact accounted.retried job _ unseen

end

theorem replayJob_scanned :
    (replayJob cases input replay job).summary.scanned = replay.summary.scanned := by
  have turn : Turn cases input replay job (replayJob cases input replay job) := replayJob_turn
  generalize replayJob cases input replay job = next at turn ⊢
  cases turn <;> rfl

theorem replay_scanned (failedJobs : List FailedProcessCallJob) :
    (replayRetryableDeadLetterJobs cases input failedJobs).summary.scanned = failedJobs.length :=
  run_invariant (fun replay : Replay => replay.summary.scanned = failedJobs.length)
    (fun _ _ kept => replayJob_scanned.trans kept) failedJobs rfl

theorem replay_accounted (failedJobs : List FailedProcessCallJob) :
    Accounted failedJobs (replayRetryableDeadLetterJobs cases input failedJobs) :=
  run_taken_invariant Accounted (fun _ _ job accounted => accounted.step job) failedJobs
    ⟨rfl, rfl, by simp, List.nodup_nil, rfl, List.nodup_nil, by simp⟩

theorem auditEntries_scanned (replay : Replay) :
    ((auditEntries input replay).map (·.scanned)).sum =
      (replay.orgSummaries.map (·.scanned)).sum := by
  simp only [auditEntries, List.map_map]
  induction replay.orgSummaries with
  | nil => rfl
  | cons org rest ih =>
    by_cases scanned : 0 < org.scanned
    · rw [List.filter_cons_of_pos (by simpa using scanned)]
      simp only [List.map_cons, List.sum_cons, ih]
      rfl
    · rw [List.filter_cons_of_neg (by simpa using scanned), ih]
      simp only [List.map_cons, List.sum_cons]
      omega

variable (cases input)

/-- Every listed job is replayed or skipped, for the run and for its organization. -/
theorem deadLetterReplay_accounts (failedJobs : List FailedProcessCallJob) :
    let replay := replayRetryableDeadLetterJobs cases input failedJobs
    let summary := replay.summary
    summary.scanned = failedJobs.length ∧
      summary.scanned = summary.replayed + summary.skipped.total ∧
      (∀ entry ∈ auditEntries input replay,
        entry.scanned = entry.replayed + entry.skipped.total) ∧
      ((auditEntries input replay).map (·.scanned)).sum + summary.skipped.missingPayload +
        summary.skipped.differentOrganization = summary.scanned ∧
      summary.replayed = summary.replayedCalls.length ∧ summary.replayedCalls.Nodup := by
  intro replay summary
  have accounted : Accounted failedJobs replay := replay_accounted failedJobs
  have scanned : summary.scanned = failedJobs.length := replay_scanned failedJobs
  refine ⟨scanned, scanned.trans accounted.counted, ?_, ?_, accounted.listed, accounted.once⟩
  · intro entry isEntry
    obtain ⟨org, isOrg, rfl⟩ := List.mem_map.mp isEntry
    exact accounted.balanced org (List.mem_filter.mp isOrg).1
  · rw [auditEntries_scanned, scanned]
    exact accounted.divided

end

section

variable (cases : CaseMapping) (input : ReplayInput)

def firstJob (callId : Text) (failedJobs : List FailedProcessCallJob) :
    Option FailedProcessCallJob :=
  failedJobs.find? fun job => job.selectedCall input = some callId

structure FirstDecides (taken : List FailedProcessCallJob) (replay : Replay) : Prop where
  seen : ∀ callId, callId ∈ replay.seenCallIds ↔ (firstJob input callId taken).isSome
  replays : ∀ callId, callId ∈ replay.summary.replayedCalls ↔
    (firstJob input callId taken).any fun job => job.eligible cases input && job.retrySucceeds

variable {cases input} {taken : List FailedProcessCallJob} {replay : Replay}
  {job : FailedProcessCallJob} {callId : Text}

theorem firstJob_concat :
    firstJob input callId (taken ++ [job]) = (firstJob input callId taken).or
      (if job.selectedCall input = some callId then some job else none) := by
  simp [firstJob, List.find?_append, List.find?_singleton]

theorem FirstDecides.step (decides : FirstDecides cases input taken replay)
    (job : FailedProcessCallJob) :
    FirstDecides cases input (taken ++ [job]) (replayJob cases input replay job) := by
  have turn : Turn cases input replay job (replayJob cases input replay job) := replayJob_turn
  generalize replayJob cases input replay job = next at turn ⊢
  cases turn with
  | passedOver reason unselected uncounted =>
    have same : ∀ callId, firstJob input callId (taken ++ [job]) = firstJob input callId taken := by
      intro callId
      simp [firstJob_concat, unselected]
    refine ⟨?_, ?_⟩ <;> intro callId <;> rw [same]
    · exact decides.seen callId
    · exact decides.replays callId
  | @duplicate callId organizationId isCall seen =>
    have same : ∀ other, firstJob input other (taken ++ [job]) = firstJob input other taken := by
      intro other
      rw [firstJob_concat, isCall]
      by_cases equal : callId = other
      · subst equal
        obtain ⟨first, found⟩ := Option.isSome_iff_exists.mp ((decides.seen callId).mp seen)
        rw [found, Option.some_or]
      · rw [if_neg (by simpa using equal), Option.or_none]
    refine ⟨?_, ?_⟩ <;> intro other <;> rw [same]
    · exact decides.seen other
    · exact decides.replays other
  | @skipped callId organizationId reason isCall unseen rejected counted =>
    have absent : firstJob input callId taken = none := by
      simpa using mt (decides.seen callId).mpr unseen
    refine ⟨?_, ?_⟩ <;> intro other <;> rw [firstJob_concat, isCall] <;>
      by_cases equal : callId = other
    · subst equal
      simp [Replay.skipOrg, Replay.skip]
    · rw [if_neg (by simpa using equal), Option.or_none, ← decides.seen other]
      simp [Replay.skipOrg, Replay.skip, Ne.symm equal]
    · subst equal
      have before := decides.replays callId
      simp only [absent, Option.any_none, Bool.false_eq_true, iff_false] at before
      simpa [Replay.skipOrg, Replay.skip, Replay.scanOrg, absent, rejected] using before
    · rw [if_neg (by simpa using equal), Option.or_none]
      exact decides.replays other
  | @retried callId organizationId isCall unseen accepted =>
    have absent : firstJob input callId taken = none := by
      simpa using mt (decides.seen callId).mpr unseen
    refine ⟨?_, ?_⟩ <;> intro other <;> rw [firstJob_concat, isCall] <;>
      by_cases equal : callId = other
    · subst equal
      simp [Replay.retried]
    · rw [if_neg (by simpa using equal), Option.or_none, ← decides.seen other]
      simp [Replay.retried, Ne.symm equal]
    · subst equal
      simp [Replay.retried, absent, accepted]
    · rw [if_neg (by simpa using equal), Option.or_none, ← decides.replays other]
      simp [Replay.retried, Replay.scanOrg, Ne.symm equal]

theorem replay_firstDecides (failedJobs : List FailedProcessCallJob) :
    FirstDecides cases input failedJobs (replayRetryableDeadLetterJobs cases input failedJobs) :=
  run_taken_invariant (FirstDecides cases input) (fun _ _ job decides => decides.step job)
    failedJobs ⟨by simp [firstJob], by simp [firstJob]⟩

/-- Every call with an eligible job is replayed exactly when no other job of it is listed before
all eligible ones. -/
theorem deadLetterReplay_complete_iff (cases : CaseMapping) (input : ReplayInput)
    (failedJobs : List FailedProcessCallJob)
    (succeed : ∀ job ∈ failedJobs, job.retrySucceeds = true) :
    (∀ callId,
      callId ∈ (replayRetryableDeadLetterJobs cases input failedJobs).summary.replayedCalls ↔
        ∃ job ∈ failedJobs, job.selectedCall input = some callId ∧
          job.eligible cases input = true) ↔
    ∀ callId, (∃ job ∈ failedJobs, job.selectedCall input = some callId ∧
        job.eligible cases input = true) →
      (firstJob input callId failedJobs).any fun job => job.eligible cases input := by
  have decides : FirstDecides cases input failedJobs
    (replayRetryableDeadLetterJobs cases input failedJobs) := replay_firstDecides failedJobs
  have replays : ∀ callId,
      callId ∈ (replayRetryableDeadLetterJobs cases input failedJobs).summary.replayedCalls ↔
        (firstJob input callId failedJobs).any fun job => job.eligible cases input := by
    intro callId
    rw [decides.replays]
    cases found : firstJob input callId failedJobs with
    | none => simp
    | some job => simp [succeed job (List.mem_of_find?_eq_some found)]
  simp only [replays]
  refine ⟨fun complete callId => (complete callId).mpr, fun first callId => ⟨?_, first callId⟩⟩
  intro eligible
  cases found : firstJob input callId failedJobs with
  | none => simp [found] at eligible
  | some job =>
    have isCall : job.selectedCall input = some callId := by simpa using List.find?_some found
    exact ⟨job, List.mem_of_find?_eq_some found, isCall, by simpa [found] using eligible⟩

end

def failedTwice : List FailedProcessCallJob := [
  { callId := some "c1", organizationId := some "acme", failedReason := some "invalid payload",
    failedOn := some 172000000 },
  { callId := some "c1", organizationId := some "acme", failedReason := some "timeout",
    failedOn := some 169200000 }]

def scheduledReplay : ReplayInput := { trigger := .scheduled, nowMs := 172800000 }

theorem failedTwice_unreplayed :
    (∀ job ∈ failedTwice, job.retrySucceeds = true) ∧
      (∃ job ∈ failedTwice, job.selectedCall scheduledReplay = some "c1" ∧
        job.eligible .ascii scheduledReplay = true) ∧
      (replayRetryableDeadLetterJobs .ascii scheduledReplay failedTwice).summary.replayedCalls =
        [] := by
  decide +kernel

theorem failedTwice_oldestFirst :
    ("c1" : Text) ∈ (replayRetryableDeadLetterJobs .ascii scheduledReplay
      failedTwice.reverse).summary.replayedCalls := by
  refine ((deadLetterReplay_complete_iff .ascii scheduledReplay failedTwice.reverse
    (by decide)).mpr ?_ "c1").mpr (by decide +kernel)
  intro callId eligible
  have onlyCall : callId = "c1" := by
    obtain ⟨job, isJob, isCall, _⟩ := eligible
    have calls : ∀ job ∈ failedTwice.reverse, job.selectedCall scheduledReplay = some "c1" := by
      decide +kernel
    exact Option.some.inj (isCall.symm.trans (calls job isJob))
  subst onlyCall
  decide +kernel

end StoryEngine.Processing
