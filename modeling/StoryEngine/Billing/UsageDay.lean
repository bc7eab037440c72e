import StoryEngine.Billing.Usage

namespace StoryEngine.Billing

open Data Schema

/-! # The usage of one organization on one day

What the tables and Stripe have for it, and what a run does to that.
-/

structure DayUsage where
  /-- The quantity of the record, when there is one. -/
  minutes : Option Nat := none
  reported : Bool := false
  sent : Nat := 0

def DayUsage.bill (minutes : Nat) (stop : Option Stop) (day : DayUsage) : DayUsage :=
  if stop = some .beforeRecord then day
  else if day.reported ∨ stop = some .afterRecord then { day with minutes := some minutes }
  else {
    minutes := some minutes
    reported := stop ≠ some .afterIncrement
    sent := day.sent + minutes }

/-- Stripe has the minutes of a reported record, and nothing of another. -/
def DayUsage.Exact (day : DayUsage) : Prop :=
  if day.reported then day.minutes = some day.sent else day.sent = 0

/-- The run is not interrupted between an increment and its flag, unless the increment
is empty, and finds the minutes of a reported record unchanged. -/
def DayUsage.Safe (minutes : Nat) (stop : Option Stop) (day : DayUsage) : Prop :=
  if day.reported then stop ≠ some .beforeRecord → day.minutes = some minutes
  else stop = some .afterIncrement → minutes = 0

variable {day : DayUsage} {minutes : Nat}

theorem DayUsage.Exact.bill {stop : Option Stop}
    (exactly : day.Exact) (safe : day.Safe minutes stop) : (day.bill minutes stop).Exact := by
  obtain ⟨before, reported, sent⟩ := day
  unfold DayUsage.bill
  by_cases first : stop = some .beforeRecord
  · rw [if_pos first]
    exact exactly
  · rw [if_neg first]
    cases reported with
    | true =>
      have same : before = some minutes := safe first
      have known : before = some sent := exactly
      simp only [true_or, if_true, DayUsage.Exact]
      rw [← same, known]
    | false =>
      have nothing : sent = 0 := exactly
      have empty : stop = some .afterIncrement → minutes = 0 := safe
      by_cases second : stop = some .afterRecord
      · simp [second, DayUsage.Exact, nothing]
      · by_cases third : stop = some .afterIncrement
        · simp [third, DayUsage.Exact, nothing, empty third]
        · simp [second, third, DayUsage.Exact, nothing]

theorem DayUsage.bill_reported {stop : Option Stop}
    (first : stop ≠ some .beforeRecord) (second : stop ≠ some .afterRecord)
    (third : stop = some .afterIncrement → day.reported = true) :
    (day.bill minutes stop).reported = true := by
  unfold DayUsage.bill
  rw [if_neg first]
  cases reported : day.reported with
  | true => simp
  | false =>
    have flagged : stop ≠ some .afterIncrement := fun isThird => by simp [third isThird] at reported
    simp [second, flagged]

def sentFor (tables : UsageTables) (organizationId : RowId) (timestamp : Nat) : Nat :=
  ((tables.increments.filter fun increment =>
    increment.organizationId == organizationId && increment.timestamp == timestamp).map
      (·.quantity)).sum

def dayUsage (tables : UsageTables) (organizationId : RowId) (periodStart : Date) : DayUsage where
  minutes := (findRecord tables organizationId periodStart).map (·.quantity)
  reported := (findRecord tables organizationId periodStart).any (·.reportedToStripe)
  sent := sentFor tables organizationId (periodStart / 1000)

structure RecordsNumbered (tables : UsageTables) : Prop where
  ascending : Ascending (·.id) tables.records
  fresh : ∀ row ∈ tables.records, row.id < tables.nextId

section

variable {tables : UsageTables} {organizationId other : RowId} {periodStart start : Date}
  {record : UsageRecord} {change : UsageRecord → UsageRecord} {usage : DailyOrgUsage}

theorem isRecordOf_iff : isRecordOf organizationId periodStart record = true ↔
    record.organizationId = organizationId ∧ record.metric = .transcriptMinutes ∧
      record.periodStart = periodStart := by
  simp [isRecordOf, and_assoc]

theorem findRecord_mem (found : findRecord tables organizationId periodStart = some record) :
    record ∈ tables.records ∧ isRecordOf organizationId periodStart record = true :=
  ⟨List.mem_of_find?_eq_some found, List.find?_some found⟩

theorem findRecord_updateRecord (numbered : RecordsNumbered tables)
    (found : findRecord tables organizationId periodStart = some record)
    (change : UsageRecord → UsageRecord) (other : RowId) (start : Date)
    (kept : ∀ row, isRecordOf other start (change row) = isRecordOf other start row) :
    findRecord (updateRecord tables record.id change) other start =
      if other = organizationId ∧ start = periodStart then some (change record)
      else findRecord tables other start := by
  have looked : findRecord (updateRecord tables record.id change) other start =
      (findRecord tables other start).map fun row =>
        if row.id == record.id then change row else row :=
    find?_updateWhere kept
  rw [looked]
  split
  · next own =>
      obtain ⟨rfl, rfl⟩ := own
      rw [found, Option.map_some, if_pos (by simp)]
  · next away =>
      cases there : findRecord tables other start with
      | none => rfl
      | some row =>
        have distinct : row.id ≠ record.id := by
          intro same
          obtain ⟨inTable, isOther⟩ := findRecord_mem there
          obtain ⟨inRecords, isOwn⟩ := findRecord_mem found
          have equal := numbered.ascending.eq_of_key inTable inRecords same
          rw [equal, isRecordOf_iff] at isOther
          rw [isRecordOf_iff] at isOwn
          exact away ⟨isOther.1.symm.trans isOwn.1, isOther.2.2.symm.trans isOwn.2.2⟩
        simp [distinct]

theorem RecordsNumbered.updateRecord (numbered : RecordsNumbered tables) {id : RowId}
    (kept : ∀ row, (change row).id = row.id) :
    RecordsNumbered (updateRecord tables id change) := by
  constructor
  · have same : (StoryEngine.Billing.updateRecord tables id change).records.map (·.id) =
        tables.records.map (·.id) := map_updateWhere kept
    have ordered : (tables.records.map (·.id)).Pairwise (· < ·) :=
      List.pairwise_map.mpr numbered.ascending
    rw [← same] at ordered
    exact List.pairwise_map.mp ordered
  · exact forall_mem_updateWhere numbered.fresh fun old _ _ below => (kept old).symm ▸ below

theorem RecordsNumbered.createUsageRecord (numbered : RecordsNumbered tables)
    (increment : Increment) : RecordsNumbered (createUsageRecord tables increment) :=
  ⟨numbered.ascending, numbered.fresh⟩

/-- The record after the first step of the work for an organization. -/
structure RecordWritten (tables : UsageTables) (usage : DailyOrgUsage) (periodStart : Date)
    (record : UsageRecord) (written : UsageTables) : Prop where
  numbered : RecordsNumbered written
  calls : written.calls = tables.calls
  increments : written.increments = tables.increments
  found : findRecord written usage.organizationId periodStart = some record
  quantity : record.quantity = usage.totalMinutes
  reported : record.reportedToStripe =
    (findRecord tables usage.organizationId periodStart).any (·.reportedToStripe)
  others : ∀ other start, ¬(other = usage.organizationId ∧ start = periodStart) →
    findRecord written other start = findRecord tables other start

theorem writeRecord_written (numbered : RecordsNumbered tables) :
    RecordWritten tables usage periodStart (writeRecord tables usage periodStart).1
      (writeRecord tables usage periodStart).2 := by
  unfold writeRecord
  cases known : findRecord tables usage.organizationId periodStart with
  | some existing =>
    have looked (other : RowId) (start : Date) :=
      findRecord_updateRecord numbered known
        (fun row => { row with quantity := usage.totalMinutes }) other start fun _ => rfl
    exact {
      numbered := numbered.updateRecord fun _ => rfl
      calls := rfl
      increments := rfl
      found := (looked _ _).trans (if_pos ⟨rfl, rfl⟩)
      quantity := rfl
      reported := by simp [known]
      others := fun other start away => (looked other start).trans (if_neg away) }
  | none =>
    dsimp only
    constructor
    · constructor
      · refine List.pairwise_append.mpr ⟨numbered.ascending, List.pairwise_singleton _ _, ?_⟩
        intro old inTable new isNew
        rw [List.mem_singleton.mp isNew]
        exact numbered.fresh old inTable
      · intro row member
        rcases List.mem_append.mp member with inTable | isNew
        · exact Nat.lt_succ_of_lt (numbered.fresh row inTable)
        · rw [List.mem_singleton.mp isNew]
          exact Nat.lt_succ_self _
    · rfl
    · rfl
    · unfold findRecord at known ⊢
      rw [List.find?_append, known]
      simp [isRecordOf]
    · rfl
    · simp [known]
    · intro other start away
      unfold findRecord
      rw [List.find?_append]
      cases tables.records.find? (isRecordOf other start) with
      | some row => rfl
      | none =>
        refine List.find?_eq_none.mpr fun row isNew isOther => ?_
        rw [List.mem_singleton.mp isNew, isRecordOf_iff] at isOther
        exact away ⟨isOther.1.symm, isOther.2.2.symm⟩

variable {written : UsageTables} {increment : Increment}

theorem RecordWritten.dayUsage
    (wrote : RecordWritten tables usage periodStart record written) :
    dayUsage written usage.organizationId periodStart =
      { StoryEngine.Billing.dayUsage tables usage.organizationId periodStart with
        minutes := some usage.totalMinutes } := by
  unfold StoryEngine.Billing.dayUsage sentFor
  rw [wrote.found, wrote.increments, Option.map_some, Option.any_some, wrote.quantity,
    wrote.reported]

theorem RecordWritten.dayUsage_other
    (wrote : RecordWritten tables usage periodStart record written)
    (away : ¬(other = usage.organizationId ∧ start = periodStart)) :
    StoryEngine.Billing.dayUsage written other start =
      StoryEngine.Billing.dayUsage tables other start := by
  unfold StoryEngine.Billing.dayUsage sentFor
  rw [wrote.others other start away, wrote.increments]

theorem sentFor_createUsageRecord {timestamp : Nat} :
    sentFor (createUsageRecord tables increment) organizationId timestamp =
      sentFor tables organizationId timestamp +
        if increment.organizationId = organizationId ∧ increment.timestamp = timestamp then
          increment.quantity
        else 0 := by
  unfold sentFor createUsageRecord
  rw [List.filter_append, List.map_append, List.sum_append]
  congr 1
  by_cases own : increment.organizationId = organizationId ∧ increment.timestamp = timestamp
  · simp [own]
  · rw [if_neg own, List.filter_cons_of_neg (by simpa using own)]
    rfl

variable {reporter : UsageReporter} {stop : Option Stop} {item : Text}

theorem dayUsage_sent (own : increment.organizationId = organizationId)
    (onDay : increment.timestamp = start / 1000) :
    dayUsage (createUsageRecord tables increment) organizationId start =
      { dayUsage tables organizationId start with
        sent := (dayUsage tables organizationId start).sent + increment.quantity } := by
  unfold dayUsage
  rw [sentFor_createUsageRecord, if_pos ⟨own, onDay⟩]
  rfl

theorem dayUsage_sent_other
    (away : ¬(increment.organizationId = organizationId ∧ increment.timestamp = start / 1000)) :
    dayUsage (createUsageRecord tables increment) organizationId start =
      dayUsage tables organizationId start := by
  unfold dayUsage
  rw [sentFor_createUsageRecord, if_neg away]
  rfl

theorem dayUsage_flagged (numbered : RecordsNumbered tables) {stripeRecordId : Nat}
    (found : findRecord tables organizationId periodStart = some record) :
    dayUsage (updateRecord tables record.id (flagged stripeRecordId)) other start =
      if other = organizationId ∧ start = periodStart then
        { dayUsage tables other start with minutes := some record.quantity, reported := true }
      else dayUsage tables other start := by
  have looked := findRecord_updateRecord numbered found (flagged stripeRecordId) other start
    fun _ => rfl
  unfold dayUsage
  rw [looked]
  split <;> rfl

theorem reportOrganization_cases (reporter : UsageReporter) (periodStart : Date)
    (usage : DailyOrgUsage) (stop : Option Stop) (numbered : RecordsNumbered tables) :
    stop = some .beforeRecord ∧
        reportOrganization reporter periodStart tables usage stop = (.failed, tables) ∨
      stop ≠ some .beforeRecord ∧ ∃ record written,
        RecordWritten tables usage periodStart record written ∧
        reportOrganization reporter periodStart tables usage stop =
          if stop = some .afterRecord then (.failed, written)
          else if record.reportedToStripe then (.alreadyReported, written)
          else match meteredItem reporter usage.organizationId with
            | none => (.notBilled, written)
            | some item =>
              let sent := createUsageRecord written {
                organizationId := usage.organizationId
                item
                quantity := usage.totalMinutes
                timestamp := periodStart / 1000 }
              if stop = some .afterIncrement then (.failed, sent)
              else (if stop = some .afterFlag then .failed else .reported,
                updateRecord sent record.id (flagged written.increments.length)) := by
  by_cases first : stop = some .beforeRecord
  · exact .inl ⟨first, if_pos first⟩
  · refine .inr ⟨first, _, _, writeRecord_written numbered, ?_⟩
    rw [reportOrganization, if_neg first]
    simp only [reportUsageToStripe]
    cases meteredItem reporter usage.organizationId <;> rfl

theorem dayUsage_report_own (numbered : RecordsNumbered tables)
    (billed : meteredItem reporter usage.organizationId = some item) :
    dayUsage (reportOrganization reporter periodStart tables usage stop).2 usage.organizationId
        periodStart =
      (dayUsage tables usage.organizationId periodStart).bill usage.totalMinutes stop := by
  rcases reportOrganization_cases reporter periodStart usage stop numbered with
    ⟨first, ran⟩ | ⟨first, record, written, wrote, ran⟩
  · rw [ran]
    exact (if_pos first).symm
  · rw [ran, billed, DayUsage.bill, if_neg first]
    have recorded := wrote.dayUsage
    have closed : record.reportedToStripe =
        (dayUsage tables usage.organizationId periodStart).reported := wrote.reported
    by_cases second : stop = some .afterRecord
    · rw [if_pos second, if_pos (.inr second)]
      exact recorded
    · rw [if_neg second]
      cases flag : record.reportedToStripe with
      | true =>
        rw [if_pos rfl, if_pos (.inl (closed.symm.trans flag))]
        exact recorded
      | false =>
        have isOpen : (dayUsage tables usage.organizationId periodStart).reported = false :=
          closed.symm.trans flag
        have unreported : ¬((dayUsage tables usage.organizationId periodStart).reported = true ∨
            stop = some .afterRecord) := by
          simp [isOpen, second]
        rw [if_neg Bool.false_ne_true, if_neg unreported]
        dsimp only
        by_cases third : stop = some .afterIncrement
        · rw [if_pos third, dayUsage_sent rfl rfl, recorded]
          simp [isOpen, third]
        · rw [if_neg third]
          have numberedSent (increment : Increment) := wrote.numbered.createUsageRecord increment
          have foundSent (increment : Increment) : findRecord (createUsageRecord written increment)
              usage.organizationId periodStart = some record := wrote.found
          refine (dayUsage_flagged (numberedSent _) (foundSent _)).trans ?_
          rw [if_pos ⟨rfl, rfl⟩, dayUsage_sent rfl rfl, recorded, wrote.quantity]
          simp [third]

theorem dayUsage_report_other (reporter : UsageReporter) (stop : Option Stop)
    (numbered : RecordsNumbered tables)
    (away : ¬(other = usage.organizationId ∧ start = periodStart))
    (sameTime : periodStart / 1000 = start / 1000 → start = periodStart) :
    dayUsage (reportOrganization reporter periodStart tables usage stop).2 other start =
      dayUsage tables other start := by
  rcases reportOrganization_cases reporter periodStart usage stop numbered with
    ⟨first, ran⟩ | ⟨first, record, written, wrote, ran⟩
  · rw [ran]
  · have untouched := wrote.dayUsage_other away
    rw [ran]
    split
    · exact untouched
    · split
      · exact untouched
      · split
        · exact untouched
        · next item billed =>
            have elsewhere : ¬(usage.organizationId = other ∧ periodStart / 1000 = start / 1000) :=
              fun both => away ⟨both.1.symm, sameTime both.2⟩
            dsimp only
            split
            · exact (dayUsage_sent_other elsewhere).trans untouched
            · have numberedSent (increment : Increment) :=
                wrote.numbered.createUsageRecord increment
              have foundSent (increment : Increment) :
                  findRecord (createUsageRecord written increment) usage.organizationId
                    periodStart = some record := wrote.found
              refine (dayUsage_flagged (numberedSent _) (foundSent _)).trans ?_
              rw [if_neg away]
              exact (dayUsage_sent_other elsewhere).trans untouched

theorem reportOrganization_keeps (reporter : UsageReporter) (periodStart : Date)
    (usage : DailyOrgUsage) (stop : Option Stop) (numbered : RecordsNumbered tables) :
    RecordsNumbered (reportOrganization reporter periodStart tables usage stop).2 ∧
      (reportOrganization reporter periodStart tables usage stop).2.calls = tables.calls := by
  rcases reportOrganization_cases reporter periodStart usage stop numbered with
    ⟨first, ran⟩ | ⟨first, record, written, wrote, ran⟩
  · rw [ran]
    exact ⟨numbered, rfl⟩
  · have recorded : RecordsNumbered written ∧ written.calls = tables.calls :=
      ⟨wrote.numbered, wrote.calls⟩
    rw [ran]
    split
    · exact recorded
    · split
      · exact recorded
      · split
        · exact recorded
        · dsimp only
          split
          · exact ⟨wrote.numbered.createUsageRecord _, wrote.calls⟩
          · exact ⟨(wrote.numbered.createUsageRecord _).updateRecord fun _ => rfl, wrote.calls⟩

theorem dayUsage_reported (numbered : RecordsNumbered tables)
    (billed : meteredItem reporter usage.organizationId = some item)
    (worked : (reportOrganization reporter periodStart tables usage stop).1 ≠ .failed) :
    (dayUsage (reportOrganization reporter periodStart tables usage stop).2 usage.organizationId
      periodStart).reported = true := by
  rw [dayUsage_report_own numbered billed]
  rcases reportOrganization_cases reporter periodStart usage stop numbered with
    ⟨first, ran⟩ | ⟨first, record, written, wrote, ran⟩
  · rw [ran] at worked
    exact absurd rfl worked
  · rw [ran, billed] at worked
    have second : stop ≠ some .afterRecord := by
      intro second
      rw [if_pos second] at worked
      exact worked rfl
    refine DayUsage.bill_reported first second fun third => ?_
    cases flag : record.reportedToStripe with
    | true => exact wrote.reported.symm.trans flag
    | false =>
      rw [if_neg second, flag, if_neg Bool.false_ne_true] at worked
      dsimp only at worked
      rw [if_pos third] at worked
      exact absurd rfl worked

end

end StoryEngine.Billing
