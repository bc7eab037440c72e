import StoryEngine.Billing.UsageDay

namespace StoryEngine.Billing

open Data Schema

/-! # Runs of the usage report

Runs follow each other, fail anywhere, and calls and transcripts arrive in between.
A run reads the calls once, so that what arrives during it arrives after it.
-/

inductive UsageAction where
  | call (row : UsageCall)
  | transcript (callId : RowId) (wordCount : Nat)
  | report (run : UsageRun)

def advanceUsage (reporter : UsageReporter) (tables : UsageTables) : UsageAction → UsageTables
  | .call row => { tables with calls := tables.calls ++ [row] }
  | .transcript callId wordCount =>
    { tables with
      calls := updateWhere tables.calls (·.id == callId) fun row =>
        { row with wordCount := some wordCount } }
  | .report run => (runDailyUsageReport reporter tables run).2

def Completed (reporter : UsageReporter) (tables : UsageTables) (run : UsageRun) : Prop :=
  run.crash = none ∧ (runDailyUsageReport reporter tables run).1.errors = 0

section

variable {reporter : UsageReporter} {tables : UsageTables} {run : UsageRun}
  {usages : List DailyOrgUsage} {usage : DailyOrgUsage} {organizationId : RowId} {date : Date}

variable {other : Date} {entries : List DailyEntry} {item : Text}

theorem dateKey_inj (same : dateKey date / 1000 = dateKey other / 1000) :
    dateKey other = dateKey date := by
  have inDays (left right : Nat) (seconds : left / dayMs * dayMs / 1000 = right / dayMs * dayMs / 1000) :
      right / dayMs * dayMs = left / dayMs * dayMs := by
    simp only [dayMs] at seconds ⊢
    omega
  exact inDays date other same

theorem reportAll_keeps (numbered : RecordsNumbered tables) :
    RecordsNumbered (reportAll reporter run usages tables).2 ∧
      (reportAll reporter run usages tables).2.calls = tables.calls := by
  induction usages generalizing tables with
  | nil => exact ⟨numbered, rfl⟩
  | cons usage rest ih =>
    obtain ⟨next, sameCalls⟩ := reportOrganization_keeps reporter (dateKey run.date) usage
      (run.stops.lookup usage.organizationId) numbered
    obtain ⟨final, stillSame⟩ := ih next
    exact ⟨final, stillSame.trans sameCalls⟩

theorem reportAll_away (numbered : RecordsNumbered tables)
    (away : ∀ usage ∈ usages,
      ¬(organizationId = usage.organizationId ∧ dateKey date = dateKey run.date)) :
    dayUsage (reportAll reporter run usages tables).2 organizationId (dateKey date) =
      dayUsage tables organizationId (dateKey date) := by
  induction usages generalizing tables with
  | nil => rfl
  | cons usage rest ih =>
    obtain ⟨first, later⟩ := List.forall_mem_cons.mp away
    obtain ⟨next, _⟩ := reportOrganization_keeps reporter (dateKey run.date) usage
      (run.stops.lookup usage.organizationId) numbered
    exact (ih next later).trans (dayUsage_report_other reporter _ numbered first dateKey_inj)

theorem reportAll_at (reporter : UsageReporter) (numbered : RecordsNumbered tables)
    (distinct : (usages.map (·.organizationId)).Nodup) (member : usage ∈ usages) :
    ∃ reached, RecordsNumbered reached ∧
      dayUsage reached usage.organizationId (dateKey run.date) =
        dayUsage tables usage.organizationId (dateKey run.date) ∧
      dayUsage (reportAll reporter run usages tables).2 usage.organizationId (dateKey run.date) =
        dayUsage (reportOrganization reporter (dateKey run.date) reached usage
          (run.stops.lookup usage.organizationId)).2 usage.organizationId (dateKey run.date) ∧
      (reportOrganization reporter (dateKey run.date) reached usage
        (run.stops.lookup usage.organizationId)).1 ∈ (reportAll reporter run usages tables).1 := by
  induction usages generalizing tables with
  | nil => cases member
  | cons head rest ih =>
    obtain ⟨fresh, distinctRest⟩ := List.nodup_cons.mp distinct
    obtain ⟨next, _⟩ := reportOrganization_keeps reporter (dateKey run.date) head
      (run.stops.lookup head.organizationId) numbered
    rcases List.mem_cons.mp member with rfl | inRest
    · refine ⟨tables, numbered, rfl, ?_, List.mem_cons_self⟩
      refine reportAll_away next fun other inRest same => fresh ?_
      exact List.mem_map.mpr ⟨other, inRest, same.1.symm⟩
    · obtain ⟨reached, numberedThen, sameDay, final, worked⟩ := ih next distinctRest inRest
      have notHead : usage.organizationId ≠ head.organizationId :=
        fun same => fresh (List.mem_map.mpr ⟨usage, inRest, same⟩)
      have untouched := dayUsage_report_other reporter
        (run.stops.lookup head.organizationId) numbered
        (fun both : usage.organizationId = head.organizationId ∧
          dateKey run.date = dateKey run.date => notHead both.1) dateKey_inj
      exact ⟨reached, numberedThen, sameDay.trans untouched, final, List.mem_cons_of_mem _ worked⟩

theorem addCall_organizations {call : UsageCall} :
    (addCall reporter entries call).map (·.organizationId) =
      if call.organizationId ∈ entries.map (·.organizationId) then
        entries.map (·.organizationId)
      else entries.map (·.organizationId) ++ [call.organizationId] := by
  unfold addCall
  have known : entries.any (·.organizationId == call.organizationId) = true ↔
      call.organizationId ∈ entries.map (·.organizationId) := by
    rw [List.any_eq_true, List.mem_map]
    simp only [beq_iff_eq]
  split
  · next isKnown =>
      rw [if_pos (known.mp isKnown)]
      exact map_updateWhere fun _ => rfl
  · next isNew =>
      rw [if_neg fun listed => isNew (known.mpr listed), List.map_append]
      rfl

theorem aggregate_organizations (reporter : UsageReporter) (calls : List UsageCall)
    (distinct : (entries.map (·.organizationId)).Nodup) :
    ((calls.foldl (addCall reporter) entries).map (·.organizationId)).Nodup ∧
      ∀ id, id ∈ (calls.foldl (addCall reporter) entries).map (·.organizationId) ↔
        id ∈ entries.map (·.organizationId) ∨ id ∈ calls.map (·.organizationId) := by
  induction calls generalizing entries with
  | nil => exact ⟨distinct, by simp⟩
  | cons call rest ih =>
    have added : (addCall reporter entries call).map (·.organizationId) = _ :=
      addCall_organizations
    rw [List.foldl_cons]
    by_cases known : call.organizationId ∈ entries.map (·.organizationId)
    · rw [if_pos known] at added
      obtain ⟨nodup, mem⟩ := ih (added ▸ distinct)
      refine ⟨nodup, fun id => (mem id).trans ?_⟩
      rw [added, List.map_cons, List.mem_cons]
      constructor
      · exact fun listed => listed.imp_right .inr
      · rintro (inEntries | rfl | inRest)
        · exact .inl inEntries
        · exact .inl known
        · exact .inr inRest
    · rw [if_neg known] at added
      have distinctNext : ((addCall reporter entries call).map (·.organizationId)).Nodup := by
        rw [added]
        exact List.nodup_append_comm.mp (List.nodup_cons.mpr ⟨known, distinct⟩)
      obtain ⟨nodup, mem⟩ := ih distinctNext
      refine ⟨nodup, fun id => (mem id).trans ?_⟩
      rw [added, List.map_cons, List.mem_append, List.mem_singleton, List.mem_cons, or_assoc]

theorem aggregateDailyUsage_organizations (reporter : UsageReporter) (calls : List UsageCall)
    (date : Date) :
    ((aggregateDailyUsage reporter calls date).map (·.organizationId)).Nodup ∧
      ∀ id, id ∈ (aggregateDailyUsage reporter calls date).map (·.organizationId) ↔
        id ∈ (callsOfDay calls date).map (·.organizationId) := by
  have columns : (aggregateDailyUsage reporter calls date).map (·.organizationId) =
      ((callsOfDay calls date).foldl (addCall reporter) []).map (·.organizationId) := by
    rw [aggregateDailyUsage, List.map_map]
    rfl
  have start : (([] : List DailyEntry).map (·.organizationId)).Nodup := List.nodup_nil
  obtain ⟨nodup, mem⟩ := aggregate_organizations reporter (callsOfDay calls date) start
  rw [columns]
  exact ⟨nodup, fun id => (mem id).trans (by simp)⟩

theorem usagesOf_nodup : ((usagesOf reporter tables run).map (·.organizationId)).Nodup := by
  have all := (aggregateDailyUsage_organizations reporter tables.calls run.date).1
  unfold usagesOf
  cases run.crash with
  | none => exact all
  | some reached => exact all.sublist ((List.take_sublist reached _).map _)

def HasCalls (tables : UsageTables) (organizationId : RowId) (date : Date) : Prop :=
  organizationId ∈ (callsOfDay tables.calls date).map (·.organizationId)

/-- What a run for the day meets: no interruption between the increment and the flag,
and no change of the minutes once they are reported. -/
def SafeRun (reporter : UsageReporter) (organizationId : RowId) (date : Date)
    (tables : UsageTables) : UsageAction → Prop
  | .report run => dateKey run.date = dateKey date → ∀ usage ∈ usagesOf reporter tables run,
      usage.organizationId = organizationId →
        (dayUsage tables organizationId (dateKey date)).Safe usage.totalMinutes
          (run.stops.lookup organizationId)
  | _ => True

def BilledOnce (tables : UsageTables) (organizationId : RowId) (date : Date) : Prop :=
  ∀ record, findRecord tables organizationId (dateKey date) = some record →
    sentFor tables organizationId (dateKey date / 1000) = record.quantity

structure UsageInvariant (organizationId : RowId) (date : Date) (tables : UsageTables) : Prop where
  numbered : RecordsNumbered tables
  exactly : (dayUsage tables organizationId (dateKey date)).Exact
  called : (dayUsage tables organizationId (dateKey date)).minutes.isSome →
    HasCalls tables organizationId date

theorem hasCalls_congr (same : dateKey date = dateKey other) :
    HasCalls tables organizationId date ↔ HasCalls tables organizationId other := by
  unfold HasCalls callsOfDay
  rw [same]

theorem hasCalls_call {row : UsageCall} (has : HasCalls tables organizationId date) :
    HasCalls (advanceUsage reporter tables (.call row)) organizationId date := by
  obtain ⟨call, ofDay, own⟩ := List.mem_map.mp has
  refine List.mem_map.mpr ⟨call, ?_, own⟩
  obtain ⟨member, onDay⟩ := List.mem_filter.mp ofDay
  exact List.mem_filter.mpr ⟨List.mem_append_left _ member, onDay⟩

theorem hasCalls_transcript {callId : RowId} {wordCount : Nat}
    (has : HasCalls tables organizationId date) :
    HasCalls (advanceUsage reporter tables (.transcript callId wordCount)) organizationId date := by
  obtain ⟨call, ofDay, own⟩ := List.mem_map.mp has
  obtain ⟨member, onDay⟩ := List.mem_filter.mp ofDay
  simp only [Bool.and_eq_true] at onDay
  by_cases chosen : call.id = callId
  · refine List.mem_map.mpr ⟨{ call with wordCount := some wordCount }, ?_, own⟩
    refine List.mem_filter.mpr ⟨mem_updateWhere.mpr ⟨call, member, .inl ⟨?_, rfl⟩⟩, ?_⟩
    · simpa using chosen
    · simp only [Bool.and_eq_true]
      exact ⟨rfl, onDay.2⟩
  · refine List.mem_map.mpr ⟨call, List.mem_filter.mpr ⟨?_, ?_⟩, own⟩
    · exact mem_updateWhere.mpr ⟨call, member, .inr ⟨by simpa using chosen, rfl⟩⟩
    · simp only [Bool.and_eq_true]
      exact onDay

theorem run_dayUsage (run : UsageRun) (date : Date) (numbered : RecordsNumbered tables)
    (enabled : reporter.billingEnabled = true)
    (billed : meteredItem reporter organizationId = some item) :
    (∃ usage ∈ usagesOf reporter tables run, usage.organizationId = organizationId ∧
      dateKey run.date = dateKey date ∧
      dayUsage (runDailyUsageReport reporter tables run).2 organizationId (dateKey date) =
        (dayUsage tables organizationId (dateKey date)).bill usage.totalMinutes
          (run.stops.lookup organizationId) ∧
      ((runDailyUsageReport reporter tables run).1.errors = 0 →
        (dayUsage (runDailyUsageReport reporter tables run).2 organizationId
          (dateKey date)).reported = true)) ∨
    (∀ usage ∈ usagesOf reporter tables run,
      ¬(organizationId = usage.organizationId ∧ dateKey date = dateKey run.date)) ∧
      dayUsage (runDailyUsageReport reporter tables run).2 organizationId (dateKey date) =
        dayUsage tables organizationId (dateKey date) := by
  have tablesAfter : (runDailyUsageReport reporter tables run).2 =
      (reportAll reporter run (usagesOf reporter tables run) tables).2 := by
    rw [runDailyUsageReport, enabled]
    rfl
  rw [tablesAfter]
  by_cases reaches : ∃ usage ∈ usagesOf reporter tables run,
      organizationId = usage.organizationId ∧ dateKey date = dateKey run.date
  · obtain ⟨usage, member, rfl, sameDay⟩ := reaches
    obtain ⟨reached, numberedThen, before, final, worked⟩ :=
      reportAll_at reporter numbered usagesOf_nodup member
    refine .inl ⟨usage, member, rfl, sameDay.symm, ?_, fun noErrors => ?_⟩
    · rw [sameDay, final, dayUsage_report_own numberedThen billed, before]
    · rw [sameDay, final]
      refine dayUsage_reported numberedThen billed fun failed => ?_
      have counted : (reportAll reporter run (usagesOf reporter tables run) tables).1.count
          .failed = 0 := by
        simpa [runDailyUsageReport, enabled] using noErrors
      exact List.count_eq_zero.mp counted (failed ▸ worked)
  · have away : ∀ usage ∈ usagesOf reporter tables run,
        ¬(organizationId = usage.organizationId ∧ dateKey date = dateKey run.date) :=
      fun usage member both => reaches ⟨usage, member, both⟩
    exact .inr ⟨away, reportAll_away numbered away⟩

theorem usageInvariant_step (enabled : reporter.billingEnabled = true)
    (billed : meteredItem reporter organizationId = some item) {action : UsageAction}
    (invariant : UsageInvariant organizationId date tables)
    (safe : SafeRun reporter organizationId date tables action) :
    UsageInvariant organizationId date (advanceUsage reporter tables action) := by
  obtain ⟨numbered, exactly, called⟩ := invariant
  cases action with
  | call row =>
    exact ⟨⟨numbered.ascending, numbered.fresh⟩, exactly, fun has => hasCalls_call (called has)⟩
  | transcript callId wordCount =>
    exact ⟨⟨numbered.ascending, numbered.fresh⟩, exactly,
      fun has => hasCalls_transcript (called has)⟩
  | report run =>
    have kept : RecordsNumbered (runDailyUsageReport reporter tables run).2 ∧
        (runDailyUsageReport reporter tables run).2.calls = tables.calls := by
      rw [runDailyUsageReport, enabled]
      exact reportAll_keeps numbered
    have hasCalls : HasCalls (runDailyUsageReport reporter tables run).2 organizationId date ↔
        HasCalls tables organizationId date := by
      rw [HasCalls, kept.2, HasCalls]
    unfold advanceUsage
    rcases run_dayUsage run date numbered enabled billed with
      ⟨usage, member, own, sameDay, final, _⟩ | ⟨_, final⟩
    · refine ⟨kept.1, ?_, fun _ => hasCalls.mpr ?_⟩
      · rw [final]
        exact exactly.bill (safe sameDay usage member own)
      · refine (hasCalls_congr sameDay).mp ?_
        have listed : usage ∈ aggregateDailyUsage reporter tables.calls run.date := by
          unfold usagesOf at member
          cases crash : run.crash with
          | none => rwa [crash] at member
          | some reached =>
            rw [crash] at member
            exact List.mem_of_mem_take member
        refine ((aggregateDailyUsage_organizations reporter tables.calls run.date).2 _).mp ?_
        exact List.mem_map.mpr ⟨usage, listed, own⟩
    · refine ⟨kept.1, ?_, fun has => hasCalls.mpr (called ?_)⟩
      · rw [final]
        exact exactly
      · rwa [final] at has

theorem completed_billedOnce (enabled : reporter.billingEnabled = true)
    (billed : meteredItem reporter organizationId = some item)
    (invariant : UsageInvariant organizationId date tables)
    (safe : SafeRun reporter organizationId date tables (.report run))
    (sameDay : dateKey run.date = dateKey date) (completed : Completed reporter tables run) :
    BilledOnce (runDailyUsageReport reporter tables run).2 organizationId date := by
  intro record found
  have next := usageInvariant_step enabled billed invariant safe
  have minutes : (dayUsage (runDailyUsageReport reporter tables run).2 organizationId
      (dateKey date)).minutes = some record.quantity := congrArg (Option.map UsageRecord.quantity) found
  rcases run_dayUsage run date invariant.numbered enabled billed with
    ⟨usage, member, own, _, _, reported⟩ | ⟨away, final⟩
  · have exactly : (dayUsage (runDailyUsageReport reporter tables run).2 organizationId
        (dateKey date)).Exact := next.exactly
    rw [DayUsage.Exact, reported completed.2, if_pos rfl, minutes] at exactly
    exact (Option.some.inj exactly).symm
  · rw [final] at minutes
    have has := (hasCalls_congr sameDay.symm).mp (invariant.called (by rw [minutes]; rfl))
    have listed := ((aggregateDailyUsage_organizations reporter tables.calls run.date).2 _).mpr has
    obtain ⟨usage, member, own⟩ := List.mem_map.mp listed
    have reached : usage ∈ usagesOf reporter tables run := by
      rw [usagesOf, completed.1]
      exact member
    exact absurd ⟨own.symm, sameDay.symm⟩ (away usage reached)

end

/-- When no run is interrupted between an increment and its flag, and the minutes of a
reported day do not change, Stripe has the quantity of the record after every
completed run. -/
theorem usage_billed_once {reporter : UsageReporter} {organizationId : RowId} {item : Text}
    (enabled : reporter.billingEnabled = true)
    (billed : meteredItem reporter organizationId = some item) (date : Date)
    (calls : List UsageCall) (actions : List UsageAction)
    (safe : Guarded (advanceUsage reporter) (SafeRun reporter organizationId date) { calls }
      actions) :
    ∀ taken ∈ trace (advanceUsage reporter) { calls } actions, ∀ run, taken.2 = .report run →
      dateKey run.date = dateKey date → Completed reporter taken.1 run →
        BilledOnce (advanceUsage reporter taken.1 taken.2) organizationId date := by
  have initial : UsageInvariant organizationId date { calls } := by
    refine ⟨⟨List.Pairwise.nil, fun row member => by cases member⟩, ?_, fun has => by cases has⟩
    rfl
  intro taken member run isRun sameDay completed
  obtain ⟨invariant, allowed⟩ := trace_guarded_invariant (UsageInvariant organizationId date)
    (fun _ _ invariant allowed => usageInvariant_step enabled billed invariant allowed) initial safe
    taken member
  rw [isRun] at allowed ⊢
  exact completed_billedOnce enabled billed invariant allowed sameDay completed

def usageReporter : UsageReporter where
  billingEnabled := true
  organizations := [{ id := 1, stripeCustomerId := some "cus_1", plan := .starter }]
  activeSubscription _ := some ["si_1"]
  estimateSeconds wordCount := (wordCount * 60 + 149) / 150

def tenMinutes (id : RowId) : UsageCall where
  id
  organizationId := 1
  duration := some 600
  createdAt := 1000

def nightly (stops : List (RowId × Stop)) : UsageAction :=
  .report { date := 1000, stops }

def usageOutcome (actions : List UsageAction) (last : UsageRun) : Nat × Option Nat × Nat :=
  let tables := run (advanceUsage usageReporter) { calls := [tenMinutes 1, tenMinutes 2] } actions
  let (result, tables) := runDailyUsageReport usageReporter tables last
  (sentFor tables 1 0, (findRecord tables 1 0).map (·.quantity), result.errors)

/-- A run that fails before the increment is made up for by the next one. -/
theorem failed_run_is_made_up :
    BilledOnce (run (advanceUsage usageReporter) { calls := [tenMinutes 1] }
      [.transcript 1 1500, nightly [(1, .afterRecord)], nightly []]) 1 1000 := by
  have safe : Guarded (advanceUsage usageReporter) (SafeRun usageReporter 1 1000)
      { calls := [tenMinutes 1] }
      [.transcript 1 1500, nightly [(1, .afterRecord)], nightly []] := by
    refine guarded_cons.mpr ⟨trivial, guarded_cons.mpr ⟨?_, guarded_cons.mpr ⟨?_, ?_⟩⟩⟩
    · intro _
      unfold DayUsage.Safe
      decide
    · intro _
      unfold DayUsage.Safe
      decide
    · exact guarded_nil _ _ _
  have billed : meteredItem usageReporter 1 = some "si_1" := rfl
  exact usage_billed_once rfl billed 1000 [tenMinutes 1] _ safe
    (_, nightly []) (List.mem_cons_of_mem _ (List.mem_cons_of_mem _ List.mem_cons_self)) _ rfl rfl
    ⟨rfl, by decide⟩

/-- A transcript that comes after the report is never billed, and an interrupted report
is billed twice. -/
theorem usage_differs :
    usageOutcome [.transcript 1 1500, nightly [], .transcript 2 1500] { date := 1000 } =
        (10, some 20, 0) ∧
      usageOutcome [.transcript 1 1500, nightly [(1, .afterIncrement)]] { date := 1000 } =
        (20, some 10, 0) := by
  decide

end StoryEngine.Billing
