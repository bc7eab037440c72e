import Mathlib.Data.List.Dedup
import StoryEngine.Data.Upserts
import StoryEngine.Processing.SearchIndex

namespace StoryEngine.Accounts

open Data Processing Schema

/-! # Funnel stages of the accounts in a list

The calls of each account are gone through with the stages of their tags.  What is collected for
a stage is a set of keys, and a key is made of the account and the stage alone.
-/

/-- A row of `call_tags`. -/
structure CallStage where
  callId : RowId
  funnelStage : FunnelStage

structure StagedCall where
  accountId : Option RowId
  tags : List FunnelStage

structure FunnelStageCount where
  stage : FunnelStage
  count : Nat

def stageOrder : FunnelStage → Nat
  | .tofu => 0
  | .mofu => 1
  | .bofu => 2
  | .postSale => 3
  | .internal => 4
  | .vertical => 5

abbrev StageMap := List (FunnelStage × List Text)

def addKey (keys : List Text) (key : Text) : List Text :=
  if key ∈ keys then keys else keys ++ [key]

def stageKey (accountId : RowId) (stage : FunnelStage) : Text :=
  accountId.text ++ '-' :: stage.name

def addStage (accountId : RowId) (stageMap : StageMap) (stage : FunnelStage) : StageMap :=
  upsertEntry stageMap
    (stage, addKey ((entryAt stageMap stage).getD []) (stageKey accountId stage))

def addCall (accountStageMap : List (RowId × StageMap)) (call : StagedCall) :
    List (RowId × StageMap) :=
  match call.accountId with
  | none => accountStageMap
  | some accountId =>
    let stageMap := (entryAt accountStageMap accountId).getD []
    let seenStages := call.tags.eraseDups
    upsertEntry accountStageMap (accountId, seenStages.foldl (addStage accountId) stageMap)

def distribution (stageMap : StageMap) : List FunnelStageCount :=
  (stageMap.map fun entry => { stage := entry.1, count := entry.2.length }).insertionSort
    fun first second => stageOrder first.stage ≤ stageOrder second.stage

section

variable (calls : List Call) (tags : List CallStage) (accountIds : List RowId)

def stagedCalls : List StagedCall :=
  (calls.filter fun call => call.accountId.any (accountIds.contains ·)).map fun call => {
    accountId := call.accountId
    tags := (tags.filter (·.callId == call.id)).map (·.funnelStage) }

def getFunnelStageDistributions : List (RowId × List FunnelStageCount) :=
  if accountIds.isEmpty then []
  else
    ((stagedCalls calls tags accountIds).foldl addCall []).map fun entry =>
      (entry.1, distribution entry.2)

def reportedCount (accountId : RowId) (stage : FunnelStage) : Nat :=
  let listed := (entryAt (getFunnelStageDistributions calls tags accountIds) accountId).getD []
  ((listed.find? (·.stage == stage)).map (·.count)).getD 0

def callsAtStage (accountId : RowId) (stage : FunnelStage) : List RowId :=
  ((calls.filter fun call => call.accountId == some accountId &&
    tags.any fun tag => tag.callId == call.id && tag.funnelStage == stage).map (·.id)).dedup

end

def keysAt (accountStageMap : List (RowId × StageMap)) (accountId : RowId) (stage : FunnelStage) :
    List Text :=
  (entryAt ((entryAt accountStageMap accountId).getD []) stage).getD []

section

variable {accountId : RowId} {stage : FunnelStage}

theorem addKey_same (key : Text) {keys : List Text} (only : keys = [] ∨ keys = [key]) :
    addKey keys key = [key] := by
  rcases only with rfl | rfl <;> simp [addKey]

theorem entryAt_addStages (stages : List FunnelStage) {stageMap : StageMap}
    (only : ∀ stage, (entryAt stageMap stage).getD [] = [] ∨
      (entryAt stageMap stage).getD [] = [stageKey accountId stage]) (stage : FunnelStage) :
    (entryAt (stages.foldl (addStage accountId) stageMap) stage).getD [] =
      if stage ∈ stages then [stageKey accountId stage] else (entryAt stageMap stage).getD [] := by
  induction stages generalizing stageMap with
  | nil => rfl
  | cons first rest ih =>
    have added : ∀ other, (entryAt (addStage accountId stageMap first) other).getD [] =
        if first = other then [stageKey accountId other] else (entryAt stageMap other).getD [] := by
      intro other
      rw [addStage, entryAt_upsertEntry, addKey_same _ (only first)]
      by_cases same : first = other <;> simp [same]
    have next : ∀ other, (entryAt (addStage accountId stageMap first) other).getD [] = [] ∨
        (entryAt (addStage accountId stageMap first) other).getD [] =
          [stageKey accountId other] := by
      intro other
      rw [added]
      split
      · exact .inr rfl
      · exact only other
    rw [List.foldl_cons, ih next, added]
    by_cases same : first = stage
    · subst same
      simp
    · simp [same, Ne.symm same]

theorem nodup_addStages (stages : List FunnelStage) {stageMap : StageMap}
    (distinct : (stageMap.map (·.1)).Nodup) :
    ((stages.foldl (addStage accountId) stageMap).map (·.1)).Nodup := by
  induction stages generalizing stageMap with
  | nil => exact distinct
  | cons first rest ih => exact ih (nodup_upsertEntry distinct _)

end

/-- What the calls taken so far have left: one key for each stage of an account. -/
structure Collected (taken : List StagedCall) (accountStageMap : List (RowId × StageMap)) : Prop where
  keys : ∀ accountId stage, keysAt accountStageMap accountId stage =
    if ∃ call ∈ taken, call.accountId = some accountId ∧ stage ∈ call.tags
    then [stageKey accountId stage] else []
  distinct : ∀ accountId, (((entryAt accountStageMap accountId).getD []).map (·.1)).Nodup

theorem Collected.addCall {taken : List StagedCall} {accountStageMap : List (RowId × StageMap)}
    (collected : Collected taken accountStageMap) (call : StagedCall) :
    Collected (taken ++ [call]) (addCall accountStageMap call) := by
  have one : ∀ accountId stage, keysAt accountStageMap accountId stage = [] ∨
      keysAt accountStageMap accountId stage = [stageKey accountId stage] := by
    intro accountId stage
    rw [collected.keys]
    split
    · exact .inr rfl
    · exact .inl rfl
  cases isAccount : call.accountId with
  | none =>
    have same : Accounts.addCall accountStageMap call = accountStageMap := by
      simp [Accounts.addCall, isAccount]
    rw [same]
    refine ⟨?_, collected.distinct⟩
    intro accountId stage
    simp [collected.keys, isAccount]
  | some own =>
    have stored : ∀ accountId, (entryAt (Accounts.addCall accountStageMap call) accountId).getD [] =
        if own = accountId then
          call.tags.eraseDups.foldl (addStage own) ((entryAt accountStageMap own).getD [])
        else (entryAt accountStageMap accountId).getD [] := by
      intro accountId
      simp only [Accounts.addCall, isAccount, entryAt_upsertEntry, beq_iff_eq]
      split <;> rfl
    refine ⟨?_, ?_⟩
    · intro accountId stage
      rw [keysAt, stored]
      by_cases same : own = accountId
      · subst same
        rw [if_pos rfl, entryAt_addStages _ (one own)]
        simp only [List.mem_eraseDups]
        have before := collected.keys own stage
        rw [keysAt] at before
        by_cases tagged : stage ∈ call.tags
        · simp [tagged, isAccount]
        · simp [tagged, before, isAccount]
      · have before := collected.keys accountId stage
        rw [keysAt] at before
        simp [same, before, isAccount]
    · intro accountId
      rw [stored]
      split
      · exact nodup_addStages _ (collected.distinct own)
      · exact collected.distinct accountId

theorem collected_calls (calls : List StagedCall) : Collected calls (calls.foldl addCall []) :=
  run_taken_invariant Collected (fun _ _ call collected => collected.addCall call) calls
    ⟨fun _ _ => rfl, fun _ => List.nodup_nil⟩

theorem entryAt_map {κ α β : Type} [BEq κ] (rows : List (κ × α)) (change : α → β) (key : κ) :
    entryAt (rows.map fun row => (row.1, change row.2)) key = (entryAt rows key).map change := by
  simp only [entryAt, List.find?_map, Option.map_map]
  rfl

theorem find?_distribution {stageMap : StageMap} (distinct : (stageMap.map (·.1)).Nodup)
    (stage : FunnelStage) :
    (((distribution stageMap).find? (·.stage == stage)).map (·.count)).getD 0 =
      ((entryAt stageMap stage).getD []).length := by
  have sortedDistinct : ((distribution stageMap).map (·.stage)).Nodup := by
    rw [distribution, ((List.perm_insertionSort _ _).map _).nodup_iff, List.map_map]
    exact distinct
  cases found : entryAt stageMap stage with
  | none =>
    have absent : (distribution stageMap).find? (·.stage == stage) = none := by
      rw [List.find?_eq_none]
      intro count member same
      rw [distribution, List.mem_insertionSort, List.mem_map] at member
      obtain ⟨entry, isEntry, rfl⟩ := member
      rw [entryAt, Option.map_eq_none_iff, List.find?_eq_none] at found
      exact found entry isEntry same
    rw [absent]
    rfl
  | some keys =>
    obtain ⟨entry, isFound, rfl⟩ := Option.map_eq_some_iff.mp found
    have own : entry.1 = stage := by simpa using List.find?_some isFound
    have listed : (distribution stageMap).find? (·.stage == stage) =
        some { stage := entry.1, count := entry.2.length } := by
      rw [find?_key_eq_some sortedDistinct, distribution, List.mem_insertionSort, List.mem_map]
      exact ⟨⟨entry, List.mem_of_find?_eq_some isFound, rfl⟩, own⟩
    rw [listed]
    rfl

section

variable {calls : List Call} {tags : List CallStage} {accountIds : List RowId} {accountId : RowId}
  {stage : FunnelStage}

theorem callsAtStage_ne_nil (listed : accountId ∈ accountIds) :
    callsAtStage calls tags accountId stage ≠ [] ↔
      ∃ call ∈ stagedCalls calls tags accountIds,
        call.accountId = some accountId ∧ stage ∈ call.tags := by
  rw [ne_eq, List.eq_nil_iff_forall_not_mem]
  simp only [not_forall, not_not, callsAtStage, List.mem_dedup, List.mem_map, List.mem_filter, Bool.and_eq_true,
    beq_iff_eq, List.any_eq_true, stagedCalls]
  refine ⟨?_, ?_⟩
  · rintro ⟨_, call, ⟨isCall, isAccount, tag, isTag, ofCall, atStage⟩, rfl⟩
    refine ⟨_, ⟨call, ⟨isCall, by simp [isAccount, listed]⟩, rfl⟩, isAccount, ?_⟩
    exact List.mem_map.mpr ⟨tag, List.mem_filter.mpr ⟨isTag, by simpa using ofCall⟩, atStage⟩
  · rintro ⟨_, ⟨call, ⟨isCall, _⟩, rfl⟩, isAccount, atStage⟩
    obtain ⟨tag, isTag, same⟩ := List.mem_map.mp atStage
    obtain ⟨isTag, ofCall⟩ := List.mem_filter.mp isTag
    exact ⟨call.id, call, ⟨isCall, isAccount, tag, isTag, by simpa using ofCall, same⟩, rfl⟩

theorem reportedCount_eq (listed : accountId ∈ accountIds) :
    reportedCount calls tags accountIds accountId stage =
      if callsAtStage calls tags accountId stage = [] then 0 else 1 := by
  have collected := collected_calls (stagedCalls calls tags accountIds)
  have some : accountIds.isEmpty = false := by
    rw [List.isEmpty_eq_false_iff]
    exact List.ne_nil_of_mem listed
  have reported : reportedCount calls tags accountIds accountId stage =
      (keysAt ((stagedCalls calls tags accountIds).foldl addCall []) accountId stage).length := by
    rw [keysAt, ← find?_distribution (collected.distinct accountId)]
    simp only [reportedCount, getFunnelStageDistributions, some, Bool.false_eq_true, if_false,
      entryAt_map]
    cases entryAt ((stagedCalls calls tags accountIds).foldl addCall []) accountId <;> rfl
  rw [reported, collected.keys]
  simp only [← callsAtStage_ne_nil listed]
  by_cases none : callsAtStage calls tags accountId stage = []
  · simp [none]
  · simp [none]

end

/-- The number of calls at a stage is reported exactly when there is one at most. -/
theorem funnelDistribution_counts_iff (calls : List Call) (tags : List CallStage)
    (accountIds : List RowId) {accountId : RowId} (listed : accountId ∈ accountIds)
    (stage : FunnelStage) :
    reportedCount calls tags accountIds accountId stage =
        (callsAtStage calls tags accountId stage).length ↔
      (callsAtStage calls tags accountId stage).length ≤ 1 := by
  rw [reportedCount_eq listed]
  cases callsAtStage calls tags accountId stage with
  | nil => simp
  | cons call rest =>
    simp only [reduceCtorEq, if_false, List.length_cons]
    omega

def stagedAccount : List Call := [
  { id := 1, organizationId := 1, accountId := some 5 },
  { id := 2, organizationId := 1, accountId := some 5 },
  { id := 3, organizationId := 1, accountId := some 5 }]

def stagedTags : List CallStage := [
  { callId := 1, funnelStage := .tofu }, { callId := 1, funnelStage := .tofu },
  { callId := 2, funnelStage := .tofu }, { callId := 3, funnelStage := .bofu }]

theorem stagedAccount_miscounted :
    reportedCount stagedAccount stagedTags [5] 5 .tofu = 1 ∧
      callsAtStage stagedAccount stagedTags 5 .tofu = [1, 2] := by
  decide +kernel

theorem stagedAccount_bofu : reportedCount stagedAccount stagedTags [5] 5 .bofu =
    (callsAtStage stagedAccount stagedTags 5 .bofu).length :=
  (funnelDistribution_counts_iff stagedAccount stagedTags [5] (by decide) .bofu).mpr
    (by decide +kernel)

end StoryEngine.Accounts
