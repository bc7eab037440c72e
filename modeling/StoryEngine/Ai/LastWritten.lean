import StoryEngine.Ai.Limits
import StoryEngine.Data.Run

namespace StoryEngine.Ai

open Access Data Schema

/-! # The limits last written

The limits that a status applies are those last written, for the user or for the default, as
long as the default is set only while none is stored and no role without a limit gives a user a
row.
-/

inductive LimitOperation where
  | setLimit (input : SetLimitInput)
  | removeLimit (userId : Option RowId)
  | assignRoleToUser (userId roleProfileId : RowId) (assignedById : Option RowId)

def applyLimit (organizationId : RowId) (db : Database) :
    LimitOperation → Except HttpFailure Database
  | .setLimit input => setLimit db organizationId input
  | .removeLimit userId => .ok (removeLimit db organizationId userId)
  | .assignRoleToUser userId roleProfileId assignedById =>
    assignRoleToUser db organizationId userId roleProfileId assignedById

def limitStep (organizationId : RowId) (db : Database) (operation : LimitOperation) : Database :=
  match applyLimit organizationId db operation with
  | .ok next => next
  | .error _ => db

/-- For a user and for the default of its organization, where they have a limit. -/
structure LastWritten where
  user : Option Maxima := none
  orgDefault : Option Maxima := none

def writeOver (last : Option Maxima) (maxima : LimitDimension → Option (Option Nat)) :
    Option Maxima :=
  some (writtenOver (last.getD fun _ => none) maxima)

def profileMaxima (profile : RoleProfile) : LimitDimension → Option (Option Nat)
  | .tokensPerDay => some profile.limits.maxTokensPerDay
  | .tokensPerMonth => some profile.limits.maxTokensPerMonth
  | .requestsPerDay => some profile.limits.maxRequestsPerDay
  | .requestsPerMonth => some profile.limits.maxRequestsPerMonth
  | .storiesPerMonth => some profile.limits.maxStoriesPerMonth
  | .tokensPerWeek | .requestsPerWeek | .storiesPerWeek => none

def CarriesLimit (profile : RoleProfile) : Prop := profile.limits ≠ {}

instance : DecidablePred CarriesLimit := fun _ => inferInstanceAs (Decidable (_ ≠ _))

def profileOf (profiles : List RoleProfile) (organizationId roleProfileId : RowId) :
    Option RoleProfile :=
  profiles.find? fun row => row.id == roleProfileId && row.organizationId == organizationId

def assignLast (last : Option Maxima) (profile : RoleProfile) : Option Maxima :=
  if last.isNone ∧ ¬CarriesLimit profile then none else writeOver last (profileMaxima profile)

def lastStep (profiles : List RoleProfile) (organizationId userId : RowId) (last : LastWritten) :
    LimitOperation → LastWritten
  | .setLimit input =>
    if input.userId = none then
      { last with orgDefault := writeOver last.orgDefault input.maxima }
    else if input.userId = some userId then
      { last with user := writeOver last.user input.maxima }
    else last
  | .removeLimit other =>
    if other = none then { last with orgDefault := none }
    else if other = some userId then { last with user := none }
    else last
  | .assignRoleToUser other roleProfileId _ =>
    match profileOf profiles organizationId roleProfileId with
    | some profile =>
      if other = userId then { last with user := assignLast last.user profile } else last
    | none => last

/-- The limits of the user if it has any, and else those of the default. -/
def LastWritten.inForce (last : LastWritten) : Maxima :=
  (last.user.or last.orgDefault).getD fun _ => none

def Succeeds (organizationId : RowId) (db : Database) (operation : LimitOperation) : Prop :=
  ∃ next, applyLimit organizationId db operation = .ok next

/-- The default is set while none is stored; a role that is assigned carries a limit, or its
user has a row. -/
def KeepsOneRow (organizationId : RowId) (db : Database) : LimitOperation → Prop
  | .setLimit input =>
    input.userId = none → ∀ row ∈ db.aiUsageLimits, defaultLimitOf organizationId row = false
  | .removeLimit _ => True
  | .assignRoleToUser userId roleProfileId _ =>
    (∃ row ∈ db.aiUsageLimits, usageLimitOf organizationId userId row = true) ∨
      ∀ profile ∈ profileOf db.roleProfiles organizationId roleProfileId, CarriesLimit profile

instance (organizationId : RowId) (db : Database) (operation : LimitOperation) :
    Decidable (Succeeds organizationId db operation) :=
  match is : applyLimit organizationId db operation with
  | .ok next => isTrue ⟨next, is⟩
  | .error _ => isFalse fun ⟨_, succeeds⟩ => nomatch is.symm.trans succeeds

instance (organizationId : RowId) (db : Database) :
    (operation : LimitOperation) → Decidable (KeepsOneRow organizationId db operation)
  | .setLimit _ => inferInstanceAs (Decidable (_ → ∀ row ∈ db.aiUsageLimits, _))
  | .removeLimit _ => isTrue trivial
  | .assignRoleToUser _ _ _ =>
    inferInstanceAs (Decidable ((∃ row ∈ db.aiUsageLimits, _) ∨ ∀ profile ∈ profileOf _ _ _, _))

section

variable {organizationId userId other : RowId} {db next : Database} {row : AiUsageLimit}

theorem usageLimitOf_iff :
    usageLimitOf organizationId userId row = true ↔
      row.organizationId = organizationId ∧ row.userId = some userId := by
  simp [usageLimitOf]

theorem defaultLimitOf_iff :
    defaultLimitOf organizationId row = true ↔
      row.organizationId = organizationId ∧ row.userId = none := by
  simp [defaultLimitOf]

theorem default_not_user (own : usageLimitOf organizationId userId row = true) :
    defaultLimitOf organizationId row = false := by
  have isUser := (usageLimitOf_iff.mp own).2
  simp [defaultLimitOf, isUser]

theorem user_not_other (own : usageLimitOf organizationId other row = true)
    (apart : other ≠ userId) : usageLimitOf organizationId userId row = false := by
  have isOther := (usageLimitOf_iff.mp own).2
  simp [usageLimitOf, isOther, apart]

theorem usageLimitOf_congr {written : AiUsageLimit}
    (organization : written.organizationId = row.organizationId)
    (user : written.userId = row.userId) :
    usageLimitOf organizationId userId written = usageLimitOf organizationId userId row ∧
      defaultLimitOf organizationId written = defaultLimitOf organizationId row := by
  simp only [usageLimitOf, defaultLimitOf, organization, user, and_self]

variable {input : SetLimitInput} {profile : RoleProfile}

@[simp] theorem maximaOf_updatedLimit :
    maximaOf (updatedLimit input row) = writtenOver (maximaOf row) input.maxima := by
  funext dimension
  cases dimension <;> rfl

@[simp] theorem maximaOf_createdLimit :
    maximaOf (createdLimit organizationId input) = writtenOver (fun _ => none) input.maxima := by
  funext dimension
  cases dimension <;> rfl

theorem maximaOf_assigned :
    maximaOf { row with limits := profile.limits } =
      writtenOver (maximaOf row) (profileMaxima profile) := by
  funext dimension
  cases dimension <;> rfl

theorem maximaOf_newRole :
    maximaOf { organizationId, userId := some userId, limits := profile.limits } =
      writtenOver (fun _ => none) (profileMaxima profile) := by
  funext dimension
  cases dimension <;> rfl

theorem setLimit_rows (set : setLimit db organizationId input = .ok next) :
    next.aiUsageLimits =
        (if db.aiUsageLimits.any (compositeKey organizationId input.userId) then
          updateWhere db.aiUsageLimits (compositeKey organizationId input.userId)
            (updatedLimit input)
        else db.aiUsageLimits ++ [createdLimit organizationId input]) ∧
      next.roleProfiles = db.roleProfiles := by
  simp only [setLimit] at set
  split at set
  · next present =>
      obtain rfl := Except.ok.inj set
      rw [if_pos present]
      exact ⟨rfl, rfl⟩
  · next absent =>
      split at set
      · obtain rfl := Except.ok.inj set
        rw [if_neg absent]
        exact ⟨rfl, rfl⟩
      · cases set

theorem assignRoleToUser_rows {roleProfileId : RowId} {assignedById : Option RowId}
    (assigned : assignRoleToUser db organizationId other roleProfileId assignedById = .ok next) :
    ∃ profile, profileOf db.roleProfiles organizationId roleProfileId = some profile ∧
      next.aiUsageLimits =
        upsertUsageLimit db.aiUsageLimits organizationId other profile.limits ∧
      next.roleProfiles = db.roleProfiles := by
  simp only [assignRoleToUser] at assigned
  split at assigned
  · next profile user isProfile isUser =>
      split at assigned
      · obtain rfl := Except.ok.inj assigned
        exact ⟨profile, isProfile, rfl, rfl⟩
      · cases assigned
  · cases assigned

end

structure Represents (profiles : List RoleProfile) (organizationId userId : RowId)
    (db : Database) (last : LastWritten) : Prop where
  user : Shows db.aiUsageLimits (usageLimitOf organizationId userId) maximaOf last.user
  orgDefault : Shows db.aiUsageLimits (defaultLimitOf organizationId) maximaOf last.orgDefault
  profiles : db.roleProfiles = profiles

section

variable {profiles : List RoleProfile} {organizationId userId other : RowId}
  {db next : Database} {last : LastWritten}

variable {maxima : LimitDimension → Option (Option Nat)} {input : SetLimitInput}

theorem writeOver_elim {value : Option Maxima} :
    writeOver value maxima =
      some (value.elim (writtenOver (fun _ => none) maxima) (writtenOver · maxima)) := by
  cases value <;> rfl

theorem Represents.upserted {update : AiUsageLimit → AiUsageLimit} {created : AiUsageLimit}
    (represents : Represents profiles organizationId userId db last)
    (rows : next.aiUsageLimits =
      if db.aiUsageLimits.any (usageLimitOf organizationId other) then
        updateWhere db.aiUsageLimits (usageLimitOf organizationId other) update
      else db.aiUsageLimits ++ [created])
    (kept : next.roleProfiles = db.roleProfiles)
    (isOther : usageLimitOf organizationId other created = true)
    (createdMaxima : maximaOf created = writtenOver (fun _ => none) maxima)
    (stays : ∀ row, (update row).organizationId = row.organizationId ∧
      (update row).userId = row.userId)
    (updatedMaxima : ∀ row, maximaOf (update row) = writtenOver (maximaOf row) maxima) :
    Represents profiles organizationId userId next
      (if other = userId then { last with user := writeOver last.user maxima } else last) := by
  have sameUser (key : RowId) (row : AiUsageLimit) :=
    (@usageLimitOf_congr organizationId key row _ (stays row).1 (stays row).2).1
  have sameDefault (row : AiUsageLimit) :=
    (@usageLimitOf_congr organizationId other row _ (stays row).1 (stays row).2).2
  have orgDefault : Shows next.aiUsageLimits (defaultLimitOf organizationId) maximaOf
      last.orgDefault := by
    rw [rows]
    apply represents.orgDefault.upserted_elsewhere (default_not_user isOther)
    intro old selected
    rw [sameDefault]
    exact ⟨default_not_user selected, default_not_user selected⟩
  by_cases own : other = userId
  · subst own
    rw [if_pos rfl]
    constructor
    · simp only [rows, writeOver_elim, ← createdMaxima]
      apply represents.user.upserted isOther
      · intro old selected
        rw [sameUser]
        exact selected
      · exact updatedMaxima
    · exact orgDefault
    · exact kept.trans represents.profiles
  · rw [if_neg own]
    constructor
    · rw [rows]
      apply represents.user.upserted_elsewhere (user_not_other isOther own)
      intro old selected
      rw [sameUser]
      exact ⟨user_not_other selected own, user_not_other selected own⟩
    · exact orgDefault
    · exact kept.trans represents.profiles

theorem setLimit_default
    (represents : Represents profiles organizationId userId db last)
    (set : setLimit db organizationId input = .ok next) (isDefault : input.userId = none)
    (alone : ∀ row ∈ db.aiUsageLimits, defaultLimitOf organizationId row = false) :
    Represents profiles organizationId userId next
      { last with orgDefault := writeOver last.orgDefault input.maxima } := by
  obtain ⟨rows, kept⟩ := setLimit_rows set
  have noKey : compositeKey organizationId input.userId = fun _ => false := by
    funext row
    rw [isDefault]
    rfl
  have created : defaultLimitOf organizationId (createdLimit organizationId input) = true :=
    defaultLimitOf_iff.mpr ⟨rfl, isDefault⟩
  have notUser : usageLimitOf organizationId userId (createdLimit organizationId input) = false := by
    cases own : usageLimitOf organizationId userId (createdLimit organizationId input) with
    | false => rfl
    | true =>
      rw [default_not_user own] at created
      cases created
  have first : last.orgDefault = none := by
    cases stored : last.orgDefault with
    | none => rfl
    | some maxima =>
      obtain ⟨row, member, matching⟩ := represents.orgDefault.2 (by rw [stored]; rfl)
      rw [alone row member] at matching
      cases matching
  constructor
  · rw [rows, noKey]
    apply represents.user.upserted_elsewhere notUser
    intro old absurd
    cases absurd
  · have appended : next.aiUsageLimits =
        db.aiUsageLimits ++ [createdLimit organizationId input] := by
      rw [rows, noKey]
      simp
    rw [appended, first]
    have shown : writeOver none input.maxima =
        some (maximaOf (createdLimit organizationId input)) := by
      rw [maximaOf_createdLimit]
      rfl
    simp only [shown]
    exact shows_appended alone created
  · exact kept.trans represents.profiles

theorem setLimit_represents
    (represents : Represents profiles organizationId userId db last)
    (set : setLimit db organizationId input = .ok next)
    (alone : KeepsOneRow organizationId db (.setLimit input)) :
    Represents profiles organizationId userId next
      (lastStep profiles organizationId userId last (.setLimit input)) := by
  simp only [lastStep]
  cases isUser : input.userId with
  | none =>
    rw [if_pos rfl]
    exact setLimit_default represents set isUser (alone isUser)
  | some other =>
    obtain ⟨rows, kept⟩ := setLimit_rows set
    rw [if_neg (by simp)]
    simp only [Option.some.injEq]
    have key : compositeKey organizationId input.userId = usageLimitOf organizationId other := by
      rw [isUser]
      rfl
    rw [key] at rows
    apply represents.upserted rows kept
    · exact usageLimitOf_iff.mpr ⟨rfl, isUser⟩
    · exact maximaOf_createdLimit
    · exact fun _ => ⟨rfl, rfl⟩
    · exact fun _ => maximaOf_updatedLimit

theorem removeLimit_represents {removed : Option RowId}
    (represents : Represents profiles organizationId userId db last) :
    Represents profiles organizationId userId (removeLimit db organizationId removed)
      (lastStep profiles organizationId userId last (.removeLimit removed)) := by
  simp only [lastStep]
  cases removed with
  | none =>
    rw [if_pos rfl]
    constructor
    · apply represents.user.congr
      apply filter_deleteWhere
      intro row _ selected
      cases own : usageLimitOf organizationId userId row with
      | false => rfl
      | true =>
        have notDefault := default_not_user own
        have isDefault : defaultLimitOf organizationId row = true := selected
        rw [notDefault] at isDefault
        cases isDefault
    · exact shows_deleted
    · exact represents.profiles
  | some other =>
    have orgDefault : Shows (removeLimit db organizationId (some other)).aiUsageLimits
        (defaultLimitOf organizationId) maximaOf last.orgDefault := by
      apply represents.orgDefault.congr
      apply filter_deleteWhere
      intro row _ selected
      exact default_not_user selected
    rw [if_neg (by simp)]
    simp only [Option.some.injEq]
    by_cases own : other = userId
    · subst own
      rw [if_pos rfl]
      exact ⟨shows_deleted, orgDefault, represents.profiles⟩
    · rw [if_neg own]
      constructor
      · apply represents.user.congr
        apply filter_deleteWhere
        intro row _ selected
        exact user_not_other selected own
      · exact orgDefault
      · exact represents.profiles

theorem assignRoleToUser_represents {roleProfileId : RowId} {assignedById : Option RowId}
    (represents : Represents profiles organizationId userId db last)
    (assigned : assignRoleToUser db organizationId other roleProfileId assignedById = .ok next)
    (limited : KeepsOneRow organizationId db
      (.assignRoleToUser other roleProfileId assignedById)) :
    Represents profiles organizationId userId next
      (lastStep profiles organizationId userId last
        (.assignRoleToUser other roleProfileId assignedById)) := by
  obtain ⟨profile, isProfile, rows, kept⟩ := assignRoleToUser_rows assigned
  have upserted := represents.upserted rows kept (usageLimitOf_iff.mpr ⟨rfl, rfl⟩)
    maximaOf_newRole (fun _ => ⟨rfl, rfl⟩) (fun _ => maximaOf_assigned)
  have isStored : profileOf profiles organizationId roleProfileId = some profile := by
    rw [← represents.profiles]
    exact isProfile
  simp only [lastStep, isStored]
  by_cases own : other = userId
  · subst own
    rw [if_pos rfl] at upserted ⊢
    have written : assignLast last.user profile =
        writeOver last.user (profileMaxima profile) := by
      apply if_neg
      intro ⟨absent, unlimited⟩
      cases limited with
      | inl stored =>
        obtain ⟨row, member, matching⟩ := stored
        rw [represents.user.1 row member matching] at absent
        cases absent
      | inr carries => exact unlimited (carries profile isProfile)
    rw [written]
    exact upserted
  · rw [if_neg own] at upserted ⊢
    exact upserted

theorem limitStep_represents {operation : LimitOperation}
    (represents : Represents profiles organizationId userId db last)
    (succeeds : Succeeds organizationId db operation)
    (keeps : KeepsOneRow organizationId db operation) :
    Represents profiles organizationId userId (limitStep organizationId db operation)
      (lastStep profiles organizationId userId last operation) := by
  obtain ⟨next, applied⟩ := succeeds
  have stepped : limitStep organizationId db operation = next := by
    simp only [limitStep, applied]
  rw [stepped]
  cases operation with
  | setLimit input => exact setLimit_represents represents applied keeps
  | removeLimit removed =>
    obtain rfl := Except.ok.inj applied
    exact removeLimit_represents represents
  | assignRoleToUser other roleProfileId assignedById =>
    exact assignRoleToUser_represents represents applied keeps

theorem Represents.effective (represents : Represents profiles organizationId userId db last)
    (query : FindFirst AiUsageLimit) :
    buildUsageLimits (getEffectiveLimit query db.aiUsageLimits organizationId userId) =
      last.inForce := by
  have user := query.row_shows represents.user
  have orgDefault := query.row_shows represents.orgDefault
  simp only [getEffectiveLimit, LastWritten.inForce, ← user, ← orgDefault]
  cases query.row (usageLimitOf organizationId userId) db.aiUsageLimits with
  | some row => rfl
  | none => cases query.row (defaultLimitOf organizationId) db.aiUsageLimits <;> rfl

end

theorem limits_last_written (query : FindFirst AiUsageLimit) (usage : UsageSummary)
    (balance : Option BalanceSummary) (organizationId userId : RowId) (db : Database)
    (operations : List LimitOperation)
    (unlimited : ∀ row ∈ db.aiUsageLimits, row.organizationId ≠ organizationId)
    (succeed : Guarded (limitStep organizationId) (Succeeds organizationId) db operations)
    (keep : Guarded (limitStep organizationId) (KeepsOneRow organizationId) db operations) :
    (getLimitStatus query (run (limitStep organizationId) db operations).aiUsageLimits usage
        balance organizationId userId).limits =
      (run (lastStep db.roleProfiles organizationId userId) {} operations).inForce := by
  have initial : Represents db.roleProfiles organizationId userId db {} := by
    have unmatched (criterion : AiUsageLimit → Bool)
        (within : ∀ row, criterion row = true → row.organizationId = organizationId) :
        ∀ row ∈ db.aiUsageLimits, criterion row = false := by
      intro row member
      cases matching : criterion row with
      | false => rfl
      | true => exact absurd (within row matching) (unlimited row member)
    constructor
    · exact shows_none (unmatched _ fun row own => (usageLimitOf_iff.mp own).1)
    · exact shows_none (unmatched _ fun row own => (defaultLimitOf_iff.mp own).1)
    · rfl
  have both : Guarded (limitStep organizationId) (fun db operation =>
      Succeeds organizationId db operation ∧ KeepsOneRow organizationId db operation)
      db operations :=
    fun taken member => ⟨succeed taken member, keep taken member⟩
  have represents : Represents db.roleProfiles organizationId userId
      (run (limitStep organizationId) db operations)
      (run (lastStep db.roleProfiles organizationId userId) {} operations) := by
    apply run_refines _ _ initial both
    intro current last operation represents guard
    exact limitStep_represents represents guard.1 guard.2
  simp only [getLimitStatus, evaluateLimitStatus_limits]
  exact represents.effective query

def office : Database where
  roleProfiles := [
    { id := 1, organizationId := 1, key := "CS".toList,
      limits := { maxStoriesPerMonth := some 120 } },
    { id := 2, organizationId := 1, key := "EXEC".toList }]
  users := [
    { id := 3, organizationId := 1, role := .member },
    { id := 4, organizationId := 1, role := .viewer }]

def tokensPerDay (max : Nat) : LimitDimension → Option (Option Nat)
  | .tokensPerDay => some (some max)
  | _ => none

def setDefault (max : Nat) : LimitOperation := .setLimit { maxima := tokensPerDay max }

theorem limits_after_removal :
    (getLimitStatus .first (run (limitStep 1) office
        [setDefault 100, .assignRoleToUser 3 1 none, .removeLimit (some 3), .removeLimit none,
          setDefault 50]).aiUsageLimits (fun _ => 0) none 1 3).limits .tokensPerDay =
      some 50 :=
  (congrFun (limits_last_written .first (fun _ => 0) none 1 3 office
      [setDefault 100, .assignRoleToUser 3 1 none, .removeLimit (some 3), .removeLimit none,
        setDefault 50]
      (by decide) (by decide) (by decide)) .tokensPerDay).trans (by decide)

theorem limits_not_last_written :
    (Guarded (limitStep 1) (Succeeds 1) office [setDefault 100, setDefault 50] ∧
      (getLimitStatus .first (run (limitStep 1) office [setDefault 100, setDefault 50]).aiUsageLimits
        (fun _ => 0) none 1 4).limits .tokensPerDay = some 100 ∧
      (run (lastStep office.roleProfiles 1 4) {} [setDefault 100, setDefault 50]).inForce
        .tokensPerDay = some 50) ∧
    (Guarded (limitStep 1) (Succeeds 1) office [setDefault 100, .assignRoleToUser 4 2 none] ∧
      (getLimitStatus .first
        (run (limitStep 1) office [setDefault 100, .assignRoleToUser 4 2 none]).aiUsageLimits
        (fun _ => 0) none 1 4).limits .tokensPerDay = none ∧
      (run (lastStep office.roleProfiles 1 4) {}
        [setDefault 100, .assignRoleToUser 4 2 none]).inForce .tokensPerDay = some 100) := by
  decide

end StoryEngine.Ai
