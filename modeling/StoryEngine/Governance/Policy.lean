import Mathlib.Data.Rat.Lemmas
import StoryEngine.Approval.Workflow

namespace StoryEngine.Governance

open Access Approval Data Schema

/-! # The data governance policy

The policy of an organization is one JSON column, shared by the governance routes and the
budget settings of the AI features.  Readers decode it leniently: a field that fails its
check reads as absent.
-/

/-- `z.number().int().min(least).max(most)`. -/
abbrev IntIn (least most : Int) := { value : Int // least ≤ value ∧ value ≤ most }

def asInt (least most : Int) : Json → Option (IntIn least most)
  | .number value =>
    if inRange : value.den = 1 ∧ least ≤ value.num ∧ value.num ≤ most then
      some ⟨value.num, inRange.2⟩
    else none
  | _ => none

def asBool : Json → Option Bool
  | .bool value => some value
  | _ => none

def asIntArray (least most : Int) : Json → Option (List (IntIn least most))
  | .array items => items.mapM (asInt least most)
  | _ => none

inductive AiBudgetMode where
  | tokens
  | costCents
deriving DecidableEq

def asBudgetMode : Json → Option AiBudgetMode
  | .string value =>
    if value = ("TOKENS" : String).toList then some .tokens
    else if value = ("COST_CENTS" : String).toList then some .costCents
    else none
  | _ => none

def IntIn.json {least most : Int} (value : IntIn least most) : Json := .number (value.1 : ℚ)

@[simp] theorem asInt_json {least most : Int} (value : IntIn least most) :
    asInt least most value.json = some value := by
  have inRange : (value.1 : ℚ).den = 1 ∧ least ≤ (value.1 : ℚ).num ∧ (value.1 : ℚ).num ≤ most := by
    rw [Rat.den_intCast, Rat.num_intCast]
    exact ⟨rfl, value.2⟩
  rw [IntIn.json, asInt, dif_pos inRange]
  simp only [Rat.num_intCast, Subtype.coe_eta]

def property (fields : List (String × Json)) (key : String) : Option Json :=
  (fields.find? (·.1 == key)).map (·.2)

/-- `check.optional().catch(undefined)`. -/
def lenient {α : Type} (fields : List (String × Json)) (key : String) (check : Json → Option α) :
    Option α :=
  (property fields key).bind check

/-- `check.optional()`: a field may be absent, but one that is there must pass. -/
def optional {α : Type} (fields : List (String × Json)) (key : String)
    (check : Json → Option α) : Option (Option α) :=
  match property fields key with
  | none => some none
  | some value => (check value).map some

structure DataGovernancePolicy where
  retentionDays : Option (IntIn 30 3650) := none
  auditLogRetentionDays : Option (IntIn 30 3650) := none
  legalHoldEnabled : Option Bool := none
  piiExportEnabled : Option Bool := none
  deletionRequiresApproval : Option Bool := none
  allowNamedStoryExports : Option Bool := none
  rtoTargetMinutes : Option (IntIn 5 20160) := none
  rpoTargetMinutes : Option (IntIn 5 20160) := none
  aiRetryBudget : Option (IntIn 1 5) := none
  aiSpendAlertDailyCents : Option (IntIn 500 9007199254740991) := none
  aiBudgetMode : Option AiBudgetMode := none
  aiBudgetMonthlyTokens : Option (IntIn 1000 9007199254740991) := none
  aiBudgetMonthlyCents : Option (IntIn 100 9007199254740991) := none
  aiBudgetThresholds : Option (List (IntIn 1 100)) := none
  aiBudgetBlockAt100 : Option Bool := none
  /-- What `passthrough` keeps. -/
  others : List (String × Json) := []
deriving DecidableEq

def policyFields : List String :=
  ["retention_days", "audit_log_retention_days", "legal_hold_enabled", "pii_export_enabled",
    "deletion_requires_approval", "allow_named_story_exports", "rto_target_minutes",
    "rpo_target_minutes", "ai_retry_budget", "ai_spend_alert_daily_cents", "ai_budget_mode",
    "ai_budget_monthly_tokens", "ai_budget_monthly_cents", "ai_budget_thresholds",
    "ai_budget_block_at_100"]

def decodeJsonObject : Json → List (String × Json)
  | .object fields => fields.filter (·.1 != "__proto__")
  | _ => []

def decodeDataGovernancePolicy (value : Json) : DataGovernancePolicy :=
  let fields := decodeJsonObject value
  { retentionDays := lenient fields "retention_days" (asInt 30 3650)
    auditLogRetentionDays := lenient fields "audit_log_retention_days" (asInt 30 3650)
    legalHoldEnabled := lenient fields "legal_hold_enabled" asBool
    piiExportEnabled := lenient fields "pii_export_enabled" asBool
    deletionRequiresApproval := lenient fields "deletion_requires_approval" asBool
    allowNamedStoryExports := lenient fields "allow_named_story_exports" asBool
    rtoTargetMinutes := lenient fields "rto_target_minutes" (asInt 5 20160)
    rpoTargetMinutes := lenient fields "rpo_target_minutes" (asInt 5 20160)
    aiRetryBudget := lenient fields "ai_retry_budget" (asInt 1 5)
    aiSpendAlertDailyCents :=
      lenient fields "ai_spend_alert_daily_cents" (asInt 500 9007199254740991)
    aiBudgetMode := lenient fields "ai_budget_mode" asBudgetMode
    aiBudgetMonthlyTokens :=
      lenient fields "ai_budget_monthly_tokens" (asInt 1000 9007199254740991)
    aiBudgetMonthlyCents :=
      lenient fields "ai_budget_monthly_cents" (asInt 100 9007199254740991)
    aiBudgetThresholds := lenient fields "ai_budget_thresholds" (asIntArray 1 100)
    aiBudgetBlockAt100 := lenient fields "ai_budget_block_at_100" asBool
    others := fields.filter fun field => !policyFields.contains field.1 }

def storedPolicy (db : Database) (organizationId : RowId) : Json :=
  match db.orgSettings.find? (·.organizationId == organizationId) with
  | some settings => settings.dataGovernancePolicy
  | none => .null

def getDataGovernancePolicy (db : Database) (organizationId : RowId) : DataGovernancePolicy :=
  decodeDataGovernancePolicy (storedPolicy db organizationId)

def isLegalHoldEnabled (db : Database) (organizationId : RowId) : Bool :=
  (getDataGovernancePolicy db organizationId).legalHoldEnabled == some true

structure DataGovernancePayload where
  retentionDays : Option (IntIn 30 3650) := none
  auditLogRetentionDays : Option (IntIn 30 3650) := none
  legalHoldEnabled : Option Bool := none
  piiExportEnabled : Option Bool := none
  deletionRequiresApproval : Option Bool := none
  allowNamedStoryExports : Option Bool := none
  rtoTargetMinutes : Option (IntIn 5 20160) := none
  rpoTargetMinutes : Option (IntIn 5 20160) := none
deriving DecidableEq

/-- `DataGovernanceSchema`, which drops the fields it does not name. -/
def parseDataGovernance : Json → Option DataGovernancePayload
  | .object fields => do
      let retentionDays ← optional fields "retention_days" (asInt 30 3650)
      let auditLogRetentionDays ← optional fields "audit_log_retention_days" (asInt 30 3650)
      let legalHoldEnabled ← optional fields "legal_hold_enabled" asBool
      let piiExportEnabled ← optional fields "pii_export_enabled" asBool
      let deletionRequiresApproval ← optional fields "deletion_requires_approval" asBool
      let allowNamedStoryExports ← optional fields "allow_named_story_exports" asBool
      let rtoTargetMinutes ← optional fields "rto_target_minutes" (asInt 5 20160)
      let rpoTargetMinutes ← optional fields "rpo_target_minutes" (asInt 5 20160)
      return {
        retentionDays, auditLogRetentionDays, legalHoldEnabled, piiExportEnabled
        deletionRequiresApproval, allowNamedStoryExports, rtoTargetMinutes, rpoTargetMinutes }
  | _ => none

/-- The value an update stores for a field: its own, or the default. -/
structure StoredGovernance where
  retentionDays : IntIn 30 3650 := ⟨365, by decide⟩
  auditLogRetentionDays : IntIn 30 3650 := ⟨365, by decide⟩
  legalHoldEnabled : Bool := false
  piiExportEnabled : Bool := true
  deletionRequiresApproval : Bool := true
  allowNamedStoryExports : Bool := false
  rtoTargetMinutes : IntIn 5 20160 := ⟨240, by decide⟩
  rpoTargetMinutes : IntIn 5 20160 := ⟨60, by decide⟩

def governanceDefaults : StoredGovernance := {}

def DataGovernancePayload.withDefaults (d : DataGovernancePayload) : StoredGovernance where
  retentionDays := d.retentionDays.getD governanceDefaults.retentionDays
  auditLogRetentionDays := d.auditLogRetentionDays.getD governanceDefaults.auditLogRetentionDays
  legalHoldEnabled := d.legalHoldEnabled.getD governanceDefaults.legalHoldEnabled
  piiExportEnabled := d.piiExportEnabled.getD governanceDefaults.piiExportEnabled
  deletionRequiresApproval :=
    d.deletionRequiresApproval.getD governanceDefaults.deletionRequiresApproval
  allowNamedStoryExports :=
    d.allowNamedStoryExports.getD governanceDefaults.allowNamedStoryExports
  rtoTargetMinutes := d.rtoTargetMinutes.getD governanceDefaults.rtoTargetMinutes
  rpoTargetMinutes := d.rpoTargetMinutes.getD governanceDefaults.rpoTargetMinutes

def StoredGovernance.json (stored : StoredGovernance) : Json :=
  .object [
    ("retention_days", stored.retentionDays.json),
    ("audit_log_retention_days", stored.auditLogRetentionDays.json),
    ("legal_hold_enabled", .bool stored.legalHoldEnabled),
    ("pii_export_enabled", .bool stored.piiExportEnabled),
    ("deletion_requires_approval", .bool stored.deletionRequiresApproval),
    ("allow_named_story_exports", .bool stored.allowNamedStoryExports),
    ("rto_target_minutes", stored.rtoTargetMinutes.json),
    ("rpo_target_minutes", stored.rpoTargetMinutes.json)]

def setPolicyColumn (db : Database) (organizationId : RowId) (value : Json) : Database :=
  upsertOrgSettings db organizationId fun settings =>
    { settings with dataGovernancePolicy := value }

theorem find?_upsertOrgSettings (db : Database) (organizationId other : RowId)
    (change : OrgSettings → OrgSettings)
    (kept : ∀ settings, (change settings).organizationId = settings.organizationId) :
    (upsertOrgSettings db organizationId change).orgSettings.find? (·.organizationId == other) =
      if other = organizationId then
        some (change ((db.orgSettings.find? (·.organizationId == other)).getD { organizationId }))
      else db.orgSettings.find? (·.organizationId == other) := by
  have updates :
      (updateWhere db.orgSettings (·.organizationId == organizationId) change).find?
          (·.organizationId == other) = _ :=
    find?_updateWhere fun settings => by rw [kept]
  by_cases present : db.orgSettings.any (·.organizationId == organizationId) = true
  · rw [upsertOrgSettings, if_pos present, updates]
    cases known : db.orgSettings.find? (·.organizationId == other) with
    | none =>
      have apart : other ≠ organizationId := by
        intro same
        subst same
        obtain ⟨settings, member, own⟩ := List.any_eq_true.mp present
        exact List.find?_eq_none.mp known settings member own
      rw [if_neg apart, Option.map_none]
    | some settings =>
      have own : settings.organizationId = other := by simpa using List.find?_some known
      rw [Option.map_some, own]
      by_cases same : other = organizationId
      · rw [if_pos (beq_iff_eq.mpr same), if_pos same, Option.getD_some]
      · rw [if_neg (by simpa using same), if_neg same]
  · rw [upsertOrgSettings, if_neg present]
    by_cases same : other = organizationId
    · subst same
      have absent : db.orgSettings.find? (·.organizationId == other) = none := by
        simpa using present
      simp [List.find?_append, absent, kept]
    · simp [List.find?_append, List.find?, kept, beq_false_of_ne (Ne.symm same), same]

theorem storedPolicy_setPolicyColumn (db : Database) (organizationId other : RowId)
    (value : Json) :
    storedPolicy (setPolicyColumn db organizationId value) other =
      if other = organizationId then value else storedPolicy db other := by
  have found := find?_upsertOrgSettings db organizationId other
    (fun settings => { settings with dataGovernancePolicy := value }) fun _ => rfl
  rw [storedPolicy, setPolicyColumn, found]
  by_cases same : other = organizationId
  · rw [if_pos same, if_pos same]
  · rw [if_neg same, if_neg same, storedPolicy]

def upsertDataGovernancePolicy (db : Database) (organizationId : RowId)
    (d : DataGovernancePayload) : Database :=
  setPolicyColumn db organizationId d.withDefaults.json

/-- `PATCH /data-governance`. -/
def patchDataGovernance (db : Database) (caller : Caller) (body : Json) :
    Except HttpFailure Database := do
  let _ ← requirePermission db .managePermissions caller
  let d ← required (parseDataGovernance body) validationError
  return upsertDataGovernancePolicy db caller.organizationId d

/-! ## What an update of the policy keeps

`PATCH /data-governance` writes all eight of its fields, with defaults for those that the
payload leaves out, and nothing else.
-/

def DataGovernancePolicy.updated (policy : DataGovernancePolicy) (d : DataGovernancePayload) :
    DataGovernancePolicy :=
  { policy with
    retentionDays := d.retentionDays <|> policy.retentionDays
    auditLogRetentionDays := d.auditLogRetentionDays <|> policy.auditLogRetentionDays
    legalHoldEnabled := d.legalHoldEnabled <|> policy.legalHoldEnabled
    piiExportEnabled := d.piiExportEnabled <|> policy.piiExportEnabled
    deletionRequiresApproval := d.deletionRequiresApproval <|> policy.deletionRequiresApproval
    allowNamedStoryExports := d.allowNamedStoryExports <|> policy.allowNamedStoryExports
    rtoTargetMinutes := d.rtoTargetMinutes <|> policy.rtoTargetMinutes
    rpoTargetMinutes := d.rpoTargetMinutes <|> policy.rpoTargetMinutes }

def StoredGovernance.policy (stored : StoredGovernance) : DataGovernancePolicy where
  retentionDays := some stored.retentionDays
  auditLogRetentionDays := some stored.auditLogRetentionDays
  legalHoldEnabled := some stored.legalHoldEnabled
  piiExportEnabled := some stored.piiExportEnabled
  deletionRequiresApproval := some stored.deletionRequiresApproval
  allowNamedStoryExports := some stored.allowNamedStoryExports
  rtoTargetMinutes := some stored.rtoTargetMinutes
  rpoTargetMinutes := some stored.rpoTargetMinutes

theorem decode_stored (stored : StoredGovernance) :
    decodeDataGovernancePolicy stored.json = stored.policy := by
  have retention : asInt 30 3650 stored.retentionDays.json = _ := asInt_json _
  have audit : asInt 30 3650 stored.auditLogRetentionDays.json = _ := asInt_json _
  have rto : asInt 5 20160 stored.rtoTargetMinutes.json = _ := asInt_json _
  have rpo : asInt 5 20160 stored.rpoTargetMinutes.json = _ := asInt_json _
  rw [StoredGovernance.policy, ← retention, ← audit, ← rto, ← rpo]
  rfl

theorem getDataGovernancePolicy_upsert (db : Database) (organizationId : RowId)
    (d : DataGovernancePayload) :
    getDataGovernancePolicy (upsertDataGovernancePolicy db organizationId d) organizationId =
      d.withDefaults.policy := by
  rw [getDataGovernancePolicy, upsertDataGovernancePolicy, storedPolicy_setPolicyColumn,
    if_pos rfl, decode_stored]

/-- The fields that the payload leaves out are stored with their defaults, and nothing else
is stored. -/
structure OnlyDefaultsLeftOut (d : DataGovernancePayload) (policy : DataGovernancePolicy) :
    Prop where
  retentionDays : d.retentionDays = none →
    policy.retentionDays = some governanceDefaults.retentionDays
  auditLogRetentionDays : d.auditLogRetentionDays = none →
    policy.auditLogRetentionDays = some governanceDefaults.auditLogRetentionDays
  legalHoldEnabled : d.legalHoldEnabled = none →
    policy.legalHoldEnabled = some governanceDefaults.legalHoldEnabled
  piiExportEnabled : d.piiExportEnabled = none →
    policy.piiExportEnabled = some governanceDefaults.piiExportEnabled
  deletionRequiresApproval : d.deletionRequiresApproval = none →
    policy.deletionRequiresApproval = some governanceDefaults.deletionRequiresApproval
  allowNamedStoryExports : d.allowNamedStoryExports = none →
    policy.allowNamedStoryExports = some governanceDefaults.allowNamedStoryExports
  rtoTargetMinutes : d.rtoTargetMinutes = none →
    policy.rtoTargetMinutes = some governanceDefaults.rtoTargetMinutes
  rpoTargetMinutes : d.rpoTargetMinutes = none →
    policy.rpoTargetMinutes = some governanceDefaults.rpoTargetMinutes
  aiRetryBudget : policy.aiRetryBudget = none
  aiSpendAlertDailyCents : policy.aiSpendAlertDailyCents = none
  aiBudgetMode : policy.aiBudgetMode = none
  aiBudgetMonthlyTokens : policy.aiBudgetMonthlyTokens = none
  aiBudgetMonthlyCents : policy.aiBudgetMonthlyCents = none
  aiBudgetThresholds : policy.aiBudgetThresholds = none
  aiBudgetBlockAt100 : policy.aiBudgetBlockAt100 = none
  others : policy.others = []

theorem some_getD_eq_orElse_iff {α : Type} {given stored : Option α} {default : α} :
    some (given.getD default) = (given <|> stored) ↔ (given = none → stored = some default) := by
  cases given with
  | none => simp [eq_comm]
  | some value => simp

/-- An update of the policy keeps all that its payload does not name if, and only if, the
fields left out have their default values and no other feature stores a field. -/
theorem policy_update_keeps_iff (db : Database) (organizationId : RowId)
    (d : DataGovernancePayload) :
    getDataGovernancePolicy (upsertDataGovernancePolicy db organizationId d) organizationId =
        (getDataGovernancePolicy db organizationId).updated d ↔
      OnlyDefaultsLeftOut d (getDataGovernancePolicy db organizationId) := by
  rw [getDataGovernancePolicy_upsert]
  generalize getDataGovernancePolicy db organizationId = policy
  simp only [StoredGovernance.policy, DataGovernancePayload.withDefaults,
    DataGovernancePolicy.updated, DataGovernancePolicy.mk.injEq, some_getD_eq_orElse_iff]
  constructor
  · intro same
    obtain ⟨retention, audit, hold, pii, approval, exports, rto, rpo, retry, spend, mode, tokens,
      cents, thresholds, block, others⟩ := same
    exact ⟨retention, audit, hold, pii, approval, exports, rto, rpo, retry.symm, spend.symm,
      mode.symm, tokens.symm, cents.symm, thresholds.symm, block.symm, others.symm⟩
  · intro kept
    exact ⟨kept.retentionDays, kept.auditLogRetentionDays, kept.legalHoldEnabled,
      kept.piiExportEnabled, kept.deletionRequiresApproval, kept.allowNamedStoryExports,
      kept.rtoTargetMinutes, kept.rpoTargetMinutes, kept.aiRetryBudget.symm,
      kept.aiSpendAlertDailyCents.symm, kept.aiBudgetMode.symm, kept.aiBudgetMonthlyTokens.symm,
      kept.aiBudgetMonthlyCents.symm, kept.aiBudgetThresholds.symm,
      kept.aiBudgetBlockAt100.symm, kept.others.symm⟩

def heldDatabase : Database where
  orgSettings := [{
    organizationId := 1
    dataGovernancePolicy := .object [
      ("legal_hold_enabled", .bool true), ("ai_budget_monthly_tokens", .number 500000)] }]

def longerRetention : DataGovernancePayload := { retentionDays := some ⟨730, by decide⟩ }

/-- A longer retention period lifts the hold and drops the budget. -/
theorem longer_retention_lifts_hold :
    parseDataGovernance (.object [("retention_days", .number 730)]) = some longerRetention ∧
    (getDataGovernancePolicy heldDatabase 1).legalHoldEnabled = some true ∧
    ((getDataGovernancePolicy heldDatabase 1).aiBudgetMonthlyTokens.map (·.1)) = some 500000 ∧
    (getDataGovernancePolicy (upsertDataGovernancePolicy heldDatabase 1 longerRetention)
      1).legalHoldEnabled = some false ∧
    (getDataGovernancePolicy (upsertDataGovernancePolicy heldDatabase 1 longerRetention)
      1).aiBudgetMonthlyTokens = none ∧
    getDataGovernancePolicy (upsertDataGovernancePolicy heldDatabase 1 longerRetention) 1 ≠
      (getDataGovernancePolicy heldDatabase 1).updated longerRetention := by
  decide +kernel

end StoryEngine.Governance
