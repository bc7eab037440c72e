import StoryEngine.Ai.UsageAlerts
import StoryEngine.Data.Keys

namespace StoryEngine.Ai

open Data Schema

/-! # One notification a day

The look for a notification and its creation are two statements, so a threshold is announced once
exactly when nobody else stores the notification in between.
-/

/-- The organization, user, limit type, threshold and day of a notification. -/
structure AlertKey where
  organizationId : RowId
  userId : RowId
  limitType : LimitType
  thresholdPct : Nat
  day : Nat
deriving DecidableEq

def AiUsageNotification.key (notification : AiUsageNotification) : AlertKey where
  organizationId := notification.organizationId
  userId := notification.userId
  limitType := notification.limitType
  thresholdPct := notification.thresholdPct
  day := notification.createdAt / dayLength

def AnnouncedOnce (system : AlertSystem) : Prop :=
  (system.alerts.shared.map (·.key)).Nodup

instance : DecidablePred AnnouncedOnce :=
  fun system => inferInstanceAs (Decidable (system.alerts.shared.map (·.key)).Nodup)

/-- Nobody has stored the notification of the day since the look for it. -/
def StillAbsent (system : AlertSystem) : NotifierStage → Prop
  | .creating alert seen _ =>
    ∀ notification ∈ system.alerts.shared.drop seen,
      notification.key ≠ (alert.notification system.clocked.clock).key
  | _ => True

def CreatesAlone (system : AlertSystem) : AlertEvent → Prop
  | .notifies index false =>
    ∀ notifier ∈ system.alerts.processes[index]?, StillAbsent system notifier.stage
  | _ => True

instance (system : AlertSystem) : (stage : NotifierStage) → Decidable (StillAbsent system stage)
  | .creating _ _ _ => inferInstanceAs (Decidable (∀ notification ∈ _, _))
  | .reading _ | .looking _ | .done => isTrue trivial

instance (system : AlertSystem) : DecidablePred (CreatesAlone system)
  | .notifies _ false => inferInstanceAs (Decidable (∀ notifier ∈ _, _))
  | .notifies _ true | .call _ => isTrue trivial

def UsageAlert.Recent (now : Date) (alert : UsageAlert) : Prop :=
  alert.sinceDate now ≤ startOfDay now

def Seen (now : Date) (notifications : List AiUsageNotification) : NotifierStage → Prop
  | .reading _ | .done => True
  | .looking alerts => ∀ alert ∈ alerts, alert.Recent now
  | .creating alert seen rest =>
    seen ≤ notifications.length ∧
      (∀ notification ∈ notifications.take seen, alert.isFor notification = true →
        notification.createdAt < startOfDay now) ∧
      ∀ other ∈ rest, other.Recent now

def LooksSeen (system : AlertSystem) : Prop :=
  ∀ notifier ∈ system.alerts.processes,
    Seen system.clocked.clock system.alerts.shared notifier.stage

section

variable {now next : Date} {notifications : List AiUsageNotification} {alert : UsageAlert}
  {stage : NotifierStage}

theorem UsageAlert.Recent.later (recent : alert.Recent now) (passes : now ≤ next) :
    alert.Recent next := by
  cases is : alert.window with
  | today => simp [UsageAlert.Recent, UsageAlert.sinceDate, is, getUtcUsageWindow]
  | since date =>
    simp only [UsageAlert.Recent, UsageAlert.sinceDate, is] at recent ⊢
    exact Nat.le_trans recent (startOfDay_mono passes)

theorem Seen.later (seen : Seen now notifications stage) (passes : now ≤ next) :
    Seen next notifications stage := by
  cases stage with
  | reading check => exact trivial
  | done => exact trivial
  | looking alerts => exact fun alert member => (seen alert member).later passes
  | creating alert count rest =>
    obtain ⟨within, others, recent⟩ := seen
    constructor
    · exact within
    · constructor
      · intro notification member same
        exact Nat.lt_of_lt_of_le (others notification member same) (startOfDay_mono passes)
      · exact fun other member => (recent other member).later passes

theorem Seen.stored (seen : Seen now notifications stage) (more : List AiUsageNotification) :
    Seen now (notifications ++ more) stage := by
  cases stage with
  | reading check => exact trivial
  | done => exact trivial
  | looking alerts => exact seen
  | creating alert count rest =>
    obtain ⟨within, others, recent⟩ := seen
    constructor
    · rw [List.length_append]
      exact Nat.le_trans within (Nat.le_add_right _ _)
    · constructor
      · rw [List.take_append_of_le_length within]
        exact others
      · exact recent

theorem UsageAlert.recent_today (today : alert.window = .today) : alert.Recent now := by
  simp [UsageAlert.Recent, UsageAlert.sinceDate, today, getUtcUsageWindow]

section

variable {tracker : UsageTracker} {tables : AlertTables} {organizationId userId : RowId}

theorem checkAndNotify_today :
    ∀ alert ∈ checkAndNotify tracker now organizationId userId, alert.window = .today := by
  intro alert member
  simp only [checkAndNotify] at member
  split at member
  · cases member
  · obtain ⟨check, _, inCheck⟩ := List.mem_flatMap.mp member
    obtain ⟨threshold, _, rfl⟩ := List.mem_map.mp inCheck
    rfl

theorem checkSpendAnomalies_today :
    ∀ alert ∈ checkSpendAnomalies tracker tables now organizationId userId,
      alert.window = .today := by
  intro alert member
  simp only [checkSpendAnomalies] at member
  cases List.mem_append.mp member with
  | inl spend =>
    split at spend
    · rw [List.mem_singleton.mp spend]
    · cases spend
  | inr anomaly =>
    split at anomaly
    · rw [List.mem_singleton.mp anomaly]
    · cases anomaly

theorem checkOrgBudgetAlerts_since :
    ∀ alert ∈ checkOrgBudgetAlerts tracker tables now organizationId,
      alert.window = .since (startOfMonth now) := by
  intro alert member
  simp only [checkOrgBudgetAlerts] at member
  split at member
  · cases member
  · obtain ⟨threshold, _, inThreshold⟩ := List.mem_flatMap.mp member
    obtain ⟨recipient, _, rfl⟩ := List.mem_map.mp inThreshold
    rfl

theorem UsageCheck.alerts_recent (check : UsageCheck) :
    ∀ alert ∈ check.alerts tracker tables now organizationId userId, alert.Recent now := by
  intro alert member
  cases check with
  | thresholds => exact UsageAlert.recent_today (checkAndNotify_today alert member)
  | spend => exact UsageAlert.recent_today (checkSpendAnomalies_today alert member)
  | budget =>
    have since := checkOrgBudgetAlerts_since alert member
    simp only [UsageAlert.Recent, UsageAlert.sinceDate, since]
    exact startOfMonth_le_startOfDay

theorem notifierStep_seen (seen : Seen now notifications stage) :
    Seen now (notifierStep tracker tables now organizationId userId notifications stage).1
      (notifierStep tracker tables now organizationId userId notifications stage).2 := by
  cases stage with
  | reading check => exact check.alerts_recent
  | looking alerts =>
    cases alerts with
    | nil => exact trivial
    | cons alert rest =>
      have recent := seen alert List.mem_cons_self
      have others : ∀ other ∈ rest, other.Recent now :=
        fun other member => seen other (List.mem_cons_of_mem _ member)
      cases found : notifications.any fun notification =>
          alert.isFor notification && alert.sinceDate now ≤ notification.createdAt with
      | true =>
        simp only [notifierStep, found]
        exact others
      | false =>
        simp only [notifierStep, found]
        constructor
        · exact Nat.le_refl _
        · constructor
          · intro notification member same
            have absent := List.any_eq_false.mp found notification
              (List.mem_of_mem_take member)
            simp only [same, Bool.true_and, decide_eq_true_eq] at absent
            exact Nat.lt_of_lt_of_le (Nat.not_le.mp absent) recent
          · exact others
  | creating alert count rest => exact seen.2.2
  | done => exact trivial

end

theorem isFor_of_key {notification : AiUsageNotification}
    (same : notification.key = (alert.notification now).key) :
    alert.isFor notification = true ∧ notification.createdAt / dayLength = now / dayLength := by
  simp only [AiUsageNotification.key, UsageAlert.notification, AlertKey.mk.injEq] at same
  simp [UsageAlert.isFor, same]

theorem Seen.other_key {count : Nat} {rest : List UsageAlert}
    (seen : Seen now notifications (.creating alert count rest)) :
    ∀ notification ∈ notifications.take count,
      notification.key ≠ (alert.notification now).key := by
  intro notification member same
  obtain ⟨isFor, sameDay⟩ := isFor_of_key same
  exact other_day (seen.2.1 notification member isFor) sameDay

end

section

variable {system : AlertSystem}

theorem stillAbsent_iff {alert : UsageAlert} {count : Nat} {rest : List UsageAlert}
    (seen : Seen system.clocked.clock system.alerts.shared (.creating alert count rest))
    (once : AnnouncedOnce system) :
    ((system.alerts.shared ++ [alert.notification system.clocked.clock]).map (·.key)).Nodup ↔
      StillAbsent system (.creating alert count rest) := by
  rw [nodup_map_concat once]
  constructor
  · exact fun apart notification member => apart notification (List.mem_of_mem_drop member)
  · intro absent notification member
    rw [← List.take_append_drop count system.alerts.shared] at member
    cases List.mem_append.mp member with
    | inl before => exact seen.other_key notification before
    | inr since => exact absent notification since

theorem advanceNotifier_seen {tracker : UsageTracker} {tables : AlertTables} {now : Date}
    {fails : Bool} {notifications : List AiUsageNotification} {notifier : Notifier}
    (seen : Seen now notifications notifier.stage) :
    Seen now (advanceNotifier tracker tables now fails notifications notifier).1
      (advanceNotifier tracker tables now fails notifications notifier).2.stage := by
  simp only [advanceNotifier]
  split
  · exact trivial
  · exact notifierStep_seen seen

theorem advanceNotifier_grows {tracker : UsageTracker} {tables : AlertTables} {now : Date}
    {fails : Bool} {notifications : List AiUsageNotification} {notifier : Notifier} :
    ∃ more, (advanceNotifier tracker tables now fails notifications notifier).1 =
      notifications ++ more := by
  simp only [advanceNotifier]
  split
  · exact ⟨[], by simp⟩
  · cases notifier.stage with
    | looking alerts => cases alerts <;> exact ⟨[], by simp [notifierStep]⟩
    | creating alert count rest => exact ⟨_, rfl⟩
    | reading check => exact ⟨[], by simp [notifierStep]⟩
    | done => exact ⟨[], by simp [notifierStep]⟩

theorem clockedStep_clock (system : ClockedSystem) (event : ClockedEvent) :
    system.clock ≤ (clockedStep system event).clock := by
  cases event with
  | passes milliseconds => exact Nat.le_add_right _ _
  | calls request => exact Nat.le_refl _
  | settles index fails => exact Nat.le_refl _
  | restarts => exact Nat.le_refl _

theorem startedChecks_reading {index : Nat} {call : TrackedCall} :
    ∀ notifier ∈ startedChecks index call, ∃ check, notifier.stage = .reading check := by
  intro notifier member
  simp only [startedChecks] at member
  split at member
  · rw [List.mem_singleton.mp member]
    exact ⟨.budget, rfl⟩
  · cases List.mem_cons.mp member with
    | inl first =>
      rw [first]
      exact ⟨.thresholds, rfl⟩
    | inr second =>
      rw [List.mem_singleton.mp second]
      exact ⟨.spend, rfl⟩
  · cases member

theorem alertStep_call (event : ClockedEvent) :
    (alertStep system (.call event)).alerts.shared = system.alerts.shared ∧
      system.clocked.clock ≤ (alertStep system (.call event)).clocked.clock ∧
      ∀ notifier ∈ (alertStep system (.call event)).alerts.processes,
        notifier ∈ system.alerts.processes ∨ ∃ check, notifier.stage = .reading check := by
  cases event with
  | passes milliseconds =>
    exact ⟨rfl, clockedStep_clock _ (.passes milliseconds), fun _ member => .inl member⟩
  | calls request => exact ⟨rfl, Nat.le_refl _, fun _ member => .inl member⟩
  | restarts => exact ⟨rfl, Nat.le_refl _, fun _ member => nomatch member⟩
  | settles index fails =>
    simp only [alertStep]
    split
    · exact ⟨rfl, Nat.le_refl _, fun _ member => .inl member⟩
    · have clock := clockedStep_clock system.clocked (.settles index fails)
      constructor
      · rfl
      · constructor
        · exact clock
        · intro notifier member
          cases List.mem_append.mp member with
          | inl before => exact .inl before
          | inr started =>
            right
            split at started
            · exact startedChecks_reading notifier started
            · cases started

theorem LooksSeen.step (seen : LooksSeen system) (event : AlertEvent) :
    LooksSeen (alertStep system event) := by
  intro notifier member
  cases event with
  | call event =>
    obtain ⟨shared, passes, sources⟩ := @alertStep_call system event
    cases sources notifier member with
    | inl before =>
      rw [shared]
      exact (seen notifier before).later passes
    | inr started =>
      obtain ⟨check, isReading⟩ := started
      rw [isReading]
      exact trivial
  | notifies index fails =>
    cases there : system.alerts.processes[index]? with
    | none =>
      simp only [alertStep, turn_none there] at member ⊢
      exact seen notifier member
    | some moved =>
      simp only [alertStep] at member ⊢
      have shared : (turn (advanceNotifier system.clocked.calls.shared system.tables
          system.clocked.clock fails) system.alerts index).shared =
          (advanceNotifier system.clocked.calls.shared system.tables system.clocked.clock
            fails system.alerts.shared moved).1 := by
        rw [turn_some there]
      rw [shared]
      cases mem_turn there member with
      | inl before =>
        obtain ⟨more, grows⟩ := @advanceNotifier_grows system.clocked.calls.shared
          system.tables system.clocked.clock fails system.alerts.shared moved
        rw [grows]
        exact (seen notifier before).stored more
      | inr isMoved =>
        rw [isMoved]
        exact advanceNotifier_seen (seen moved (List.mem_of_getElem? there))

theorem shared_grows (event : AlertEvent) :
    ∃ more, (alertStep system event).alerts.shared = system.alerts.shared ++ more := by
  cases event with
  | call event => exact ⟨[], by simp [(@alertStep_call system event).1]⟩
  | notifies index fails =>
    cases there : system.alerts.processes[index]? with
    | none => exact ⟨[], by simp [alertStep, turn_none there]⟩
    | some moved =>
      simp only [alertStep, turn_some there]
      exact advanceNotifier_grows

theorem announced_twice (twice : ¬AnnouncedOnce system) (event : AlertEvent) :
    ¬AnnouncedOnce (alertStep system event) := by
  intro once
  obtain ⟨more, grows⟩ := @shared_grows system event
  apply twice
  simp only [AnnouncedOnce, grows, List.map_append] at once
  exact (List.nodup_append.mp once).1

theorem announcedOnce_iff (seen : LooksSeen system) (once : AnnouncedOnce system)
    (event : AlertEvent) :
    AnnouncedOnce (alertStep system event) ↔ CreatesAlone system event := by
  cases event with
  | call event =>
    have kept := (@alertStep_call system event).1
    simp only [AnnouncedOnce, kept, CreatesAlone, iff_true]
    exact once
  | notifies index fails =>
    cases there : system.alerts.processes[index]? with
    | none =>
      have same : AnnouncedOnce (alertStep system (.notifies index fails)) := by
        simp only [AnnouncedOnce, alertStep, turn_none there]
        exact once
      cases fails <;> simp [CreatesAlone, there, same]
    | some notifier =>
      have stage := seen notifier (List.mem_of_getElem? there)
      cases fails with
      | true =>
        simp only [AnnouncedOnce, alertStep, turn_some there, advanceNotifier, CreatesAlone,
          if_true, iff_true]
        exact once
      | false =>
        simp only [AnnouncedOnce, alertStep, turn_some there, advanceNotifier, CreatesAlone,
          there, Option.mem_def, Option.some.injEq, forall_eq']
        cases is : notifier.stage with
        | creating alert count rest =>
          rw [is] at stage
          exact stillAbsent_iff stage once
        | reading check =>
          exact ⟨fun _ => trivial, fun _ => once⟩
        | looking alerts =>
          cases alerts with
          | nil => exact ⟨fun _ => trivial, fun _ => once⟩
          | cons alert rest => exact ⟨fun _ => trivial, fun _ => once⟩
        | done => exact ⟨fun _ => trivial, fun _ => once⟩

end

def quietSystem (clocked : ClockedSystem) (tables : AlertTables) : AlertSystem :=
  { clocked, tables, alerts := { shared := [], processes := [] } }

theorem announced_once_iff (clocked : ClockedSystem) (tables : AlertTables)
    (events : List AlertEvent) :
    AnnouncedOnce (run alertStep (quietSystem clocked tables) events) ↔
      Guarded alertStep CreatesAlone (quietSystem clocked tables) events := by
  have quiet : LooksSeen (quietSystem clocked tables) := by
    intro notifier member
    cases member
  exact (guarded_iff_run LooksSeen AnnouncedOnce
    (fun _ event seen => seen.step event)
    (fun _ event seen once => announcedOnce_iff seen once event)
    (fun _ event _ twice => announced_twice twice event)
    quiet List.nodup_nil).symm

def largeCall : ChatRequest where
  context := { organizationId := 1, userId := 2, operation := .ragQuery }
  isPlatformBilled := false
  provider := .openai
  model := ("gpt-4o" : String).toList
  answer := { inputTokens := 70, outputTokens := 15, totalTokens := 85 }

def modestAllowance : ClockedSystem where
  clock := 1700000000000
  calls := limitedSystem []
    [{ organizationId := 1, userId := some 2, limits := { maxTokensPerDay := some 100 } }]

def callThrough (index budget : Nat) : List AlertEvent :=
  List.replicate 3 (AlertEvent.call (.settles index false)) ++
    List.replicate 2 (AlertEvent.notifies budget false) ++
    [AlertEvent.call (.settles index false)]

def checksTogether : List AlertEvent :=
  AlertEvent.call (.calls largeCall) :: callThrough 0 0 ++
    AlertEvent.call (.calls largeCall) :: callThrough 1 3 ++
    [AlertEvent.notifies 1 false, .notifies 1 false, .notifies 4 false, .notifies 4 false,
      .notifies 1 false, .notifies 4 false]

theorem announced_twice_together :
    ¬AnnouncedOnce (run alertStep (quietSystem modestAllowance {}) checksTogether) ∧
      ((run alertStep (quietSystem modestAllowance {}) checksTogether).alerts.shared.map
        (·.thresholdPct)) = [80, 80] := by
  decide +kernel

end StoryEngine.Ai
