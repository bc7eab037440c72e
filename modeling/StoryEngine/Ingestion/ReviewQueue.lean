import StoryEngine.Data.Run
import StoryEngine.Ingestion.PersistCall

namespace StoryEngine.Ingestion

open Accounts Data Resolution Schema Statements Text

/-! # The review queue

Calls are ingested, resolved, assigned and fixed in any order.  What the last
resolution of a call found is remembered beside the tables, which only have the
two columns that some of these statements write.
-/

structure QueueState where
  db : Database
  /-- The confidence of the last resolution of a call, if it found an account. -/
  last : RowId → Option Nat

inductive QueueAction where
  | storeCall (organizationId : RowId) (provider : CallProvider) (call : NormalizedCall)
  | upsertCall (organizationId : RowId) (provider : CallProvider) (recording : MergeRecording)
      (now : Date)
  | resolveAndLinkContacts (organizationId callId : RowId)
      (participants : List CallParticipantInput) (callTitle : Option Text)
  | linkCallByProviderAccountHints (organizationId callId : RowId)
      (participants : List NormalizedParticipant) (accountHints : List Text)
  | resolveCall (callId accountId organizationId : RowId)
  | createAccountFromCall (callId organizationId : RowId) (name : Text) (domain : Option Text)
  | applyFix (organizationId : RowId) (fix : EntityResolutionFix)
  | dismissCalls (callIds : List RowId) (organizationId : RowId) (now : Date)
  /-- Whatever else happens to the other tables. -/
  | elsewhere (after : Database)

def QueueState.note (state : QueueState) (callId : RowId) (confidence : Option Nat)
    (db : Database) : QueueState where
  db
  last :=
    if state.db.calls.any (·.id == callId) then Function.update state.last callId confidence
    else state.last

section

variable (resolver : Resolver)

def queueStep (state : QueueState) : QueueAction → QueueState
  | .storeCall organizationId provider call =>
    { state with db := after (storeCall organizationId provider call state.db) }
  | .upsertCall organizationId provider recording now =>
    { state with db := after (upsertCall organizationId provider recording now state.db) }
  | .resolveAndLinkContacts organizationId callId participants callTitle =>
    let (db, resolution) := Resolution.resolveAndLinkContacts resolver state.db organizationId
      callId participants callTitle
    state.note callId (resolution.map (·.confidence)) db
  | .linkCallByProviderAccountHints organizationId callId participants accountHints =>
    if (normalizedHints resolver.cases accountHints).isEmpty then state
    else state.note callId (some 70) (Resolution.linkCallByProviderAccountHints resolver.cases
      state.db organizationId callId participants accountHints)
  | .resolveCall callId accountId organizationId =>
    match Resolution.resolveCall resolver.cases state.db callId accountId organizationId with
    | .ok db => state.note callId (some 100) db
    | .error _ => state
  | .createAccountFromCall callId organizationId name domain =>
    match Resolution.createAccountFromCall resolver.cases state.db callId organizationId name
      domain with
    | .ok (db, _) => state.note callId (some 100) db
    | .error _ => state
  | .applyFix organizationId fix =>
    match Resolution.applyFix organizationId (state.db, 0) fix with
    | (_, 0) => state
    | (db, _) => state.note fix.callId (some 100) db
  | .dismissCalls callIds organizationId now =>
    { state with db := Resolution.dismissCalls state.db callIds organizationId now }
  | .elsewhere later =>
    if later.calls = state.db.calls ∧ state.db.nextId ≤ later.nextId then
      { state with db := later }
    else state

def Queued (call : Call) : Prop := listQueueFilter resolver.cases call.organizationId none call

/-- The last resolution of the call found no account, or none that is certain. -/
def Uncertain (last : RowId → Option Nat) (call : Call) : Prop :=
  ∀ confidence ∈ last call.id, confidence < reviewThreshold

def CallAgrees (last : RowId → Option Nat) (call : Call) : Prop :=
  call.dismissedAt = none → (Queued resolver call ↔ Uncertain last call)

def QueueAgrees (state : QueueState) : Prop := ∀ call ∈ state.db.calls, CallAgrees resolver state.last call

def Settled (db : Database) (callId : RowId) : Prop :=
  ∀ call ∈ db.calls, call.id = callId → call.dismissedAt = none → ¬ Queued resolver call

/-- Who links a call without its method and confidence finds it outside the queue. -/
def LinksSettled (state : QueueState) : QueueAction → Prop
  | .resolveAndLinkContacts organizationId callId participants callTitle =>
    (resolve resolver state.db organizationId participants callTitle).isSome →
      Settled resolver state.db callId
  | .applyFix organizationId fix =>
    (findCall state.db fix.callId organizationId).isSome →
      (findAccount state.db fix.accountId organizationId).isSome →
        Settled resolver state.db fix.callId
  | _ => True

end

/-- Ids are handed out once, and nothing is noted of a call before it exists. -/
structure QueueFresh (state : QueueState) : Prop where
  calls : CallsFresh state.db
  last : ∀ callId, state.db.nextId ≤ callId → state.last callId = none

section

variable {resolver : Resolver} {state : QueueState} {db written : Database} {callId : RowId}
  {change : Call → Call} {last : RowId → Option Nat}

variable {organizationId : RowId} {resolution : ResolvedEntity} {call : Call} {confidence : Nat}
  {provider : CallProvider}

theorem matchByEmailDomain_confidence {domains : List Text}
    (found : matchByEmailDomain db organizationId domains = some resolution) :
    reviewThreshold ≤ resolution.confidence := by
  unfold matchByEmailDomain at found
  rcases Option.or_eq_some_iff.mp found with primary | ⟨_, later⟩
  · obtain ⟨account, _, rfl⟩ := Option.map_eq_some_iff.mp primary
    exact (by decide : 70 ≤ 95)
  rcases Option.or_eq_some_iff.mp later with byAlias | ⟨_, byContact⟩
  · obtain ⟨account, _, rfl⟩ := Option.map_eq_some_iff.mp byAlias
    exact (by decide : 70 ≤ 90)
  · obtain ⟨account, _, rfl⟩ := Option.map_eq_some_iff.mp byContact
    exact (by decide : 70 ≤ 85)

theorem fuzzyConfidence_reaches {score : ℚ} (passes : score ≤ 3 / 10) :
    reviewThreshold ≤ fuzzyConfidence score := by
  have atLeast : (70 : ℤ) ≤ ⌊(1 - score) * 100 + 1 / 2⌋ := by
    rw [Int.le_floor]
    push_cast
    linarith
  unfold fuzzyConfidence reviewThreshold
  omega

theorem matchByFuzzyName_confidence {candidateNames : List Text}
    (found : matchByFuzzyName resolver db organizationId candidateNames = some resolution) :
    reviewThreshold ≤ resolution.confidence := by
  obtain ⟨result, best, rfl⟩ := Option.map_eq_some_iff.mp found
  have passes := Option.filter_eq_some_iff.mp best
  exact fuzzyConfidence_reaches (of_decide_eq_true passes.2)

theorem resolve_confidence {participants : List CallParticipantInput}
    {callTitle : Option Text}
    (found : resolve resolver db organizationId participants callTitle = some resolution) :
    reviewThreshold ≤ resolution.confidence := by
  unfold resolve at found
  rcases Option.or_eq_some_iff.mp found with domain | ⟨_, name⟩
  · split at domain
    · cases domain
    · exact matchByEmailDomain_confidence domain
  · split at name
    · cases name
    · exact matchByFuzzyName_confidence name

theorem queued_iff :
    Queued resolver call ↔
      call.dismissedAt = none ∧ (call.matchMethod = .none ∨ call.matchConfidence < reviewThreshold) := by
  simp [Queued, listQueueFilter, truthy]

theorem CallAgrees.congr {other : Call} (id : call.id = other.id)
    (dismissedAt : call.dismissedAt = other.dismissedAt)
    (matchMethod : call.matchMethod = other.matchMethod)
    (matchConfidence : call.matchConfidence = other.matchConfidence)
    (agrees : CallAgrees resolver last other) : CallAgrees resolver last call := by
  unfold CallAgrees Uncertain at agrees ⊢
  rw [queued_iff] at agrees ⊢
  rw [id, dismissedAt, matchMethod, matchConfidence]
  exact agrees

theorem agrees_update {selects : Call → Bool} (agrees : QueueAgrees resolver state)
    (calls : written.calls = updateWhere state.db.calls selects change)
    (kept : ∀ call, CallAgrees resolver state.last call →
      CallAgrees resolver state.last (change call)) :
    QueueAgrees resolver { state with db := written } := by
  intro call member
  rw [calls] at member
  exact forall_mem_updateWhere agrees (fun old _ _ => kept old) call member

theorem agrees_note_iff (agrees : QueueAgrees resolver state) (relabels : Relabels change)
    (calls : written.calls = updateWhere state.db.calls (·.id == callId) change)
    (confidence : Option Nat) :
    QueueAgrees resolver (state.note callId confidence written) ↔
      ∀ call ∈ state.db.calls, call.id = callId → call.dismissedAt = none →
        (Queued resolver (change call) ↔ ∀ known ∈ confidence, known < reviewThreshold) := by
  have sameId := relabels.column Call.id fun _ => rfl
  have sameDismissal := relabels.column Call.dismissedAt fun _ => rfl
  have noted {call : Call} (member : call ∈ state.db.calls) (isCall : call.id = callId) :
      (state.note callId confidence written).last callId = confidence := by
    have known : state.db.calls.any (·.id == callId) = true :=
      List.any_eq_true.mpr ⟨call, member, by simpa using isCall⟩
    simp [QueueState.note, known]
  constructor
  · intro after call member isCall present
    have inWritten : change call ∈ written.calls := by
      rw [calls]
      exact mem_updateWhere.mpr ⟨call, member, .inl ⟨by simpa using isCall, rfl⟩⟩
    have changed := after (change call) inWritten ((sameDismissal call).trans present)
    unfold Uncertain at changed
    rwa [sameId, isCall, noted member isCall] at changed
  · intro eachRow call member
    change call ∈ written.calls at member
    rw [calls] at member
    obtain ⟨old, inOld, ⟨isCall, rfl⟩ | ⟨other, rfl⟩⟩ := mem_updateWhere.mp member
    · intro present
      have isCall : old.id = callId := by simpa using isCall
      unfold Uncertain
      rw [sameId, isCall, noted inOld isCall]
      exact eachRow old inOld isCall ((sameDismissal old).symm.trans present)
    · have apart : call.id ≠ callId := by simpa using other
      have same : (state.note callId confidence written).last call.id = state.last call.id := by
        unfold QueueState.note
        dsimp only
        split
        · exact Function.update_of_ne apart _ _
        · rfl
      intro present
      unfold Uncertain
      rw [same]
      exact agrees call inOld present

theorem agrees_unmatched (agrees : QueueAgrees resolver state)
    (calls : written.calls = updateWhere state.db.calls (·.id == callId) unmatched) :
    QueueAgrees resolver (state.note callId none written) := by
  refine (agrees_note_iff agrees relabels_unmatched calls none).mpr fun call _ _ present => ?_
  rw [queued_iff]
  exact ⟨fun _ => by simp, fun _ => ⟨present, .inl rfl⟩⟩

theorem agrees_certain (agrees : QueueAgrees resolver state) (relabels : Relabels change)
    (calls : written.calls = updateWhere state.db.calls (·.id == callId) change)
    (certain : reviewThreshold ≤ confidence)
    (links : ∀ call, (change call).matchMethod ≠ .none ∧
      reviewThreshold ≤ (change call).matchConfidence) :
    QueueAgrees resolver (state.note callId (some confidence) written) := by
  refine (agrees_note_iff agrees relabels calls (some confidence)).mpr fun call _ _ _ => ?_
  obtain ⟨method, reached⟩ := links call
  constructor
  · intro queued
    rcases (queued_iff.mp queued).2 with none | uncertain
    · exact absurd none method
    · exact absurd uncertain (Nat.not_lt_of_le reached)
  · intro uncertain
    exact absurd (uncertain confidence rfl) (Nat.not_lt_of_le certain)

theorem agrees_account_iff (agrees : QueueAgrees resolver state) {accountId : Option RowId}
    (calls : written.calls =
      updateWhere state.db.calls (·.id == callId) fun call => { call with accountId })
    (certain : reviewThreshold ≤ confidence) :
    QueueAgrees resolver (state.note callId (some confidence) written) ↔
      Settled resolver state.db callId := by
  rw [agrees_note_iff agrees (relabels_account accountId) calls]
  refine forall₄_congr fun call _ _ _ => ?_
  have notUncertain : ¬ ∀ known ∈ some confidence, known < reviewThreshold :=
    fun uncertain => absurd (uncertain confidence rfl) (Nat.not_lt_of_le certain)
  have same : Queued resolver { call with accountId } ↔ Queued resolver call := by
    rw [queued_iff, queued_iff]
  rw [same, iff_false_right notUncertain]

theorem agrees_created (fresh : QueueFresh state)
    (agrees : QueueAgrees resolver state) (calls : written.calls = state.db.calls ++ [call])
    (id : call.id = state.db.nextId) (method : call.matchMethod = .none) :
    QueueAgrees resolver { state with db := written } := by
  intro other member
  change other ∈ written.calls at member
  rw [calls] at member
  rcases List.mem_append.mp member with inOld | isNew
  · exact agrees other inOld
  · obtain rfl := List.mem_singleton.mp isNew
    intro present
    have unknown : state.last other.id = none := fresh.last other.id (Nat.le_of_eq id.symm)
    unfold Uncertain
    rw [queued_iff, unknown]
    exact ⟨fun _ => by simp, fun _ => ⟨present, .inl method⟩⟩

theorem agrees_stored {call : NormalizedCall}
    {row : Call} {hasTranscript : Bool} (fresh : QueueFresh state)
    (agrees : QueueAgrees resolver state)
    (stores : Stores organizationId provider call state.db row hasTranscript written) :
    QueueAgrees resolver { state with db := written } := by
  cases stores with
  | refreshed existing found =>
    exact agrees_update agrees rfl fun _ => .congr rfl rfl rfl rfl
  | created _ missing creates => exact agrees_created fresh agrees creates.calls rfl rfl

theorem agrees_storeCall {call : NormalizedCall}
    (fresh : QueueFresh state) (agrees : QueueAgrees resolver state) :
    QueueAgrees resolver
      { state with db := after (storeCall organizationId provider call state.db) } := by
  cases ran : storeCall organizationId provider call state.db with
  | error failure written =>
    obtain rfl := storeCall_error ran
    exact agrees
  | ok stored written => exact agrees_stored fresh agrees (storeCall_eq_ok ran)

theorem agrees_upserted
    {recording : MergeRecording} {now : Date} (fresh : QueueFresh state)
    (agrees : QueueAgrees resolver state) :
    QueueAgrees resolver
      { state with db := after (upsertCall organizationId provider recording now state.db) } := by
  unfold upsertCall
  split
  · exact agrees_update agrees rfl fun _ => .congr rfl rfl rfl rfl
  · unfold createCall
    split
    · exact agrees
    · exact agrees_created fresh agrees rfl rfl rfl

theorem queueStep_agrees_iff (fresh : QueueFresh state) (agrees : QueueAgrees resolver state)
    (action : QueueAction) :
    QueueAgrees resolver (queueStep resolver state action) ↔ LinksSettled resolver state action := by
  cases action with
  | storeCall organizationId provider call =>
    exact iff_of_true (agrees_storeCall fresh agrees) trivial
  | upsertCall organizationId provider recording now =>
    exact iff_of_true (agrees_upserted fresh agrees) trivial
  | resolveAndLinkContacts organizationId callId participants callTitle =>
    cases found : resolve resolver state.db organizationId participants callTitle with
    | none =>
      have ran := resolveAndLinkContacts_missing callId found
      simp only [queueStep, LinksSettled, ran, found]
      exact iff_of_true (agrees_unmatched agrees rfl) (by simp)
    | some resolution =>
      obtain ⟨linked, ran, calls⟩ := resolveAndLinkContacts_found callId found
      simp only [queueStep, LinksSettled, ran, found, Option.map_some, Option.isSome_some,
        forall_true_left]
      exact agrees_account_iff agrees calls (resolve_confidence found)
  | linkCallByProviderAccountHints organizationId callId participants accountHints =>
    refine iff_of_true ?_ trivial
    simp only [queueStep]
    split
    · exact agrees
    · next hints =>
        obtain ⟨accountId, calls⟩ := linkCallByProviderAccountHints_calls fun none =>
          hints (List.isEmpty_iff.mpr none)
        exact agrees_certain agrees (relabels_hinted accountId) calls (Nat.le_refl _)
          fun _ => ⟨by simp [hinted], Nat.le_refl _⟩
  | resolveCall callId accountId organizationId =>
    refine iff_of_true ?_ trivial
    simp only [queueStep]
    split
    · next db ran =>
        exact agrees_certain agrees (relabels_assigned accountId) (resolveCall_calls ran)
          (by decide) fun _ => ⟨by simp [assigned], by simp [assigned, reviewThreshold]⟩
    · exact agrees
  | createAccountFromCall callId organizationId name domain =>
    refine iff_of_true ?_ trivial
    simp only [queueStep]
    split
    · next db accountId ran =>
        exact agrees_certain agrees (relabels_assigned accountId)
          (createAccountFromCall_calls ran) (by decide) fun _ => ⟨by simp [assigned], by simp [assigned, reviewThreshold]⟩
    · exact agrees
  | applyFix organizationId fix =>
    cases call : findCall state.db fix.callId organizationId with
    | none =>
      simp only [queueStep, LinksSettled, Resolution.applyFix, call]
      exact iff_of_true agrees (by simp)
    | some found =>
      cases account : findAccount state.db fix.accountId organizationId with
      | none =>
        simp only [queueStep, LinksSettled, Resolution.applyFix, call, account]
        exact iff_of_true agrees (by simp)
      | some foundAccount =>
        simp only [queueStep, LinksSettled, Resolution.applyFix, call, account,
          Option.isSome_some, forall_true_left]
        exact agrees_account_iff agrees rfl (by decide)
  | dismissCalls callIds organizationId now =>
    refine iff_of_true ?_ trivial
    exact agrees_update agrees rfl fun _ _ present => by cases present
  | elsewhere later =>
    refine iff_of_true ?_ trivial
    simp only [queueStep]
    split
    · next same =>
        intro call member
        exact agrees call (same.1 ▸ member)
    · exact agrees

theorem QueueFresh.relinks (fresh : QueueFresh state) (relinks : Relinks callId state.db written)
    (confidence : Option Nat) : QueueFresh (state.note callId confidence written) where
  calls := relinks.fresh fresh.calls
  last := by
    intro id later
    have unknown := fresh.last id (Nat.le_trans relinks.nextId later)
    unfold QueueState.note
    dsimp only
    split
    · next known =>
        obtain ⟨call, member, isCall⟩ := List.any_eq_true.mp known
        have before := fresh.calls call member
        have apart : id ≠ callId := by
          rintro rfl
          rw [beq_iff_eq.mp isCall] at before
          exact absurd (Nat.lt_of_lt_of_le before (Nat.le_trans relinks.nextId later))
            (Nat.lt_irrefl id)
        rw [Function.update_of_ne apart]
        exact unknown
    · exact unknown

theorem QueueFresh.write (fresh : QueueFresh state) (stays : StaysFresh state.db written) :
    QueueFresh { state with db := written } where
  calls := (stays fresh.calls).1
  last := fun id later => fresh.last id (Nat.le_trans (stays fresh.calls).2 later)

theorem queueStep_fresh (fresh : QueueFresh state) (action : QueueAction) :
    QueueFresh (queueStep resolver state action) := by
  cases action with
  | storeCall organizationId provider call => exact fresh.write (storeCall_staysFresh _)
  | upsertCall organizationId provider recording now =>
    exact fresh.write (upsertCall_staysFresh _ _ _)
  | resolveAndLinkContacts organizationId callId participants callTitle =>
    exact fresh.relinks resolveAndLinkContacts_relinks _
  | linkCallByProviderAccountHints organizationId callId participants accountHints =>
    simp only [queueStep]
    split
    · exact fresh
    · exact fresh.relinks linkCallByProviderAccountHints_relinks _
  | resolveCall callId accountId organizationId =>
    simp only [queueStep]
    split
    · next ran => exact fresh.relinks (resolveCall_relinks ran) _
    · exact fresh
  | createAccountFromCall callId organizationId name domain =>
    simp only [queueStep]
    split
    · next ran => exact fresh.relinks (createAccountFromCall_relinks ran) _
    · exact fresh
  | applyFix organizationId fix =>
    cases call : findCall state.db fix.callId organizationId with
    | none =>
      simp only [queueStep, Resolution.applyFix, call]
      exact fresh
    | some found =>
      cases account : findAccount state.db fix.accountId organizationId with
      | none =>
        simp only [queueStep, Resolution.applyFix, call, account]
        exact fresh
      | some foundAccount =>
        simp only [queueStep, Resolution.applyFix, call, account]
        exact fresh.relinks (.ofUpdate (relabels_account _)) _
  | dismissCalls callIds organizationId now =>
    exact fresh.write fun calls => ⟨calls.update rfl (fun _ => rfl) (Nat.le_refl _), Nat.le_refl _⟩
  | elsewhere later =>
    simp only [queueStep]
    split
    · next same => exact fresh.write (.ofSameCalls same.1 same.2)
    · exact fresh

/-- The tables get from one state to the other by steps of the queue. -/
def Steps (resolver : Resolver) (before later : Database) : Prop :=
  ∀ last, ∃ actions, (run (queueStep resolver) ⟨before, last⟩ actions).db = later

theorem Steps.refl (db : Database) : Steps resolver db db := fun _ => ⟨[], rfl⟩

theorem Steps.trans {later : Database} (first : Steps resolver db written)
    (second : Steps resolver written later) : Steps resolver db later := by
  intro last
  obtain ⟨actions, rfl⟩ := first last
  obtain ⟨more, reached⟩ := second (run (queueStep resolver) ⟨db, last⟩ actions).last
  exact ⟨actions ++ more, by rwa [run_append]⟩

theorem Steps.ofAction (action : QueueAction)
    (reached : ∀ last, (queueStep resolver ⟨db, last⟩ action).db = written) :
    Steps resolver db written :=
  fun last => ⟨[action], reached last⟩

theorem Steps.elsewhere (calls : written.calls = db.calls) (nextId : db.nextId ≤ written.nextId) :
    Steps resolver db written :=
  .ofAction (.elsewhere written) fun last => by simp only [queueStep, calls, nextId, and_self, if_true]

theorem resolving_steps (participants : List CallParticipantInput)
    (callTitle : Option Text) :
    Steps resolver db
      (Resolution.resolveAndLinkContacts resolver db organizationId callId participants callTitle).1 :=
  .ofAction (.resolveAndLinkContacts organizationId callId participants callTitle) fun _ => rfl

theorem Steps.ofContacts (writes : WritesContacts db written) : Steps resolver db written := by
  obtain ⟨contacts, nextId, grows, rfl⟩ := writes
  exact .elsewhere rfl grows

theorem linking_steps (stop : Option PersistStep) (participants : List CallParticipantInput)
    (callTitle : Option Text) :
    Keeps (Steps resolver) (linking resolver stop organizationId callId participants callTitle) := by
  intro db
  have read : (get : Ingest Database) db = .ok db db := rfl
  have whole : Steps resolver db (Resolution.resolveAndLinkContacts resolver db organizationId callId
      participants callTitle).1 := resolving_steps participants callTitle
  unfold linking
  rw [bind_apply]
  by_cases early : stop = some .resolution
  · rw [show reach stop .resolution db = .error .interrupted db from if_pos early]
    exact .refl db
  · rw [show reach stop .resolution db = .ok ⟨⟩ db from if_neg early]
    dsimp only
    rw [bind_apply, read]
    dsimp only
    cases found : resolve resolver db organizationId participants callTitle with
    | none =>
      rw [resolveAndLinkContacts_missing callId found] at whole
      exact whole
    | some resolution =>
      unfold resolveAndLinkContacts at whole
      rw [found] at whole
      dsimp only at whole ⊢
      unfold linkingMatch
      rw [bind_apply, bind_apply]
      rcases linkedContacts_cases stop _ 0 db with ran | ⟨linked, writes, failed⟩
      · rw [ran]
        dsimp only
        rw [bind_apply]
        by_cases late : stop = some .linkCall
        · rw [reach, if_pos late]
          exact .ofContacts (linkContacts_writesContacts db _)
        · rw [reach, if_neg late]
          exact whole
      · rw [failed]
        exact .ofContacts writes

/-- The step finds the account where its row, and no other, has the name of the hint meanwhile. -/
theorem hinted_steps (organizationId accountId : RowId) {accountHints : List Text}
    {first : AccountHint} {rest : List AccountHint}
    (hints : normalizedHints resolver.cases accountHints = first :: rest) :
    Steps resolver db (updateCall db callId (hinted accountId)) := by
  let named : Account := { accountOfHint db organizationId first none with id := accountId }
  have renamed : Steps resolver db { db with accounts := [named] } := .elsewhere rfl (Nat.le_refl _)
  have linked : Steps resolver { db with accounts := [named] }
      { updateCall db callId (hinted accountId) with accounts := [named] } := by
    refine .ofAction (.linkCallByProviderAccountHints organizationId callId [] accountHints)
      fun last => ?_
    simp [queueStep, hints, Resolution.linkCallByProviderAccountHints, accountForHints,
      hintedAccount, named, accountOfHint, QueueState.note, updateCall, linkContacts]
  exact renamed.trans (linked.trans (.elsewhere rfl (Nat.le_refl _)))

theorem linkingHints_steps (stop : Option PersistStep) (participants : List NormalizedParticipant)
    (accountHints : List Text) :
    Keeps (Steps resolver)
      (linkingHints resolver stop organizationId callId participants accountHints) := by
  unfold linkingHints
  split
  · exact .pure .refl _
  · next first rest hints =>
    refine .bind .trans (reach_keeps .refl _) fun _ => .bind .trans ?_ fun account =>
      .bind .trans (reach_keeps .refl _) fun _ =>
        .bind .trans (writing_keeps fun _ => hinted_steps organizationId account.id hints) fun _ =>
          .bind .trans (reach_keeps .refl _) fun _ =>
            writing_keeps fun _ => .ofContacts (linkContacts_writesContacts _ _)
    intro db
    dsimp only [accountForHints]
    split
    · exact .refl db
    · exact .elsewhere rfl (Nat.le_succ _)

theorem createParticipants_steps (participants : List CallParticipant) :
    Keeps (Steps resolver) (each participants createParticipant) := by
  intro db
  have writes := createParticipants_writes participants db
  exact .elsewhere writes.calls writes.nextId

theorem enqueueTranscript_steps (stop : Option PersistStep) :
    Keeps (Steps resolver) (enqueueTranscript stop organizationId callId) := by
  intro db
  obtain ⟨failure, failed⟩ | ⟨job, ofCall, ran⟩ :=
    enqueueTranscript_cases stop organizationId callId db
  · rw [failed]
    exact .refl db
  · rw [ran]
    exact .elsewhere rfl (Nat.le_refl _)

theorem persistCall_steps (organizationId : RowId) (provider : CallProvider)
    (call : NormalizedCall) (stop : Option PersistStep) :
    Keeps (Steps resolver) (persistCall resolver organizationId provider call stop) := by
  unfold persistCall
  refine .bind .trans (reach_keeps .refl _) fun _ => .bind .trans ?_ fun stored =>
    .bind .trans (.bind .trans (linking_steps stop _ _) fun resolution => ?_) fun _ => ?_
  · exact fun db => .ofAction (.storeCall organizationId provider call) fun _ => rfl
  · split
    · exact linkingHints_steps stop _ _
    · exact .pure .refl _
  · split
    · exact enqueueTranscript_steps stop
    · exact .pure .refl _

theorem finishRecording_steps (organizationId : RowId) (recording : MergeRecording) (call : Call) :
    Keeps (Steps resolver) (finishRecording resolver organizationId recording call) := by
  refine .bind .trans (fun db => resolving_steps _ _) fun _ => .bind .trans ?_ fun _ => ?_
  · refine writing_keeps fun db => .elsewhere ?_ ?_
    · unfold storeTranscript
      split <;> rfl
    · unfold storeTranscript
      split <;> exact Nat.le_refl _
  · exact writing_keeps fun db => .elsewhere rfl (Nat.le_refl _)

theorem handleRecordingEvent_steps (organizationId : RowId) (integration : Text)
    (recording : MergeRecording) (now : Date) :
    Keeps (Steps resolver)
      (handleRecordingEvent resolver organizationId integration recording now) := by
  refine .bind .trans (fun db => .ofAction (.upsertCall organizationId _ recording now) fun _ => rfl)
    fun call => .bind .trans ?_ fun _ => finishRecording_steps _ _ _
  refine .each .refl .trans fun participant _ db => ?_
  have writes := storeParticipant_writes participant db
  exact .elsewhere writes.calls writes.nextId

theorem ingestRecording_steps (organizationId : RowId) (recording : MergeRecording)
    (provider : CallProvider) (now : Date) :
    Keeps (Steps resolver) (ingestRecording resolver organizationId recording provider now) :=
  .bind .trans (fun _ => .ofAction (.upsertCall organizationId provider recording now) fun _ => rfl)
    fun _ => .bind .trans (createParticipants_steps _) fun _ => finishRecording_steps _ _ _

theorem applyEntityResolutionFixes_steps (organizationId : RowId) (fixes : List EntityResolutionFix) :
    Steps resolver db (applyEntityResolutionFixes db organizationId fixes).1 := by
  suffices general : ∀ state : Database × Nat,
      Steps resolver state.1 (fixes.foldl (Resolution.applyFix organizationId) state).1 from
    general (db, 0)
  induction fixes with
  | nil => exact fun state => .refl state.1
  | cons fix rest ih =>
    intro state
    refine .trans (.ofAction (.applyFix organizationId fix) fun last => ?_) (ih _)
    cases call : findCall state.1 fix.callId organizationId with
    | none => simp only [queueStep, Resolution.applyFix, call]
    | some found =>
      cases account : findAccount state.1 fix.accountId organizationId with
      | none => simp only [queueStep, Resolution.applyFix, call, account]
      | some foundAccount =>
        simp only [queueStep, Resolution.applyFix, call, account]
        rfl

/-- What ingestion and the setup wizard do is a run of the steps of the queue, wherever the storing
of a call is interrupted. -/
theorem ingestion_is_queue_steps (resolver : Resolver) (organizationId : RowId) :
    (∀ provider call stop,
      Keeps (Steps resolver) (persistCall resolver organizationId provider call stop)) ∧
    (∀ integration recording now, Keeps (Steps resolver)
      (handleRecordingEvent resolver organizationId integration recording now)) ∧
    (∀ recording provider now, Keeps (Steps resolver)
      (ingestRecording resolver organizationId recording provider now)) ∧
    ∀ db fixes, Steps resolver db (applyEntityResolutionFixes db organizationId fixes).1 :=
  ⟨persistCall_steps organizationId, handleRecordingEvent_steps organizationId,
    ingestRecording_steps organizationId, fun _ => applyEntityResolutionFixes_steps organizationId⟩

/-- In a run the queue agrees with the last resolution of every call after every
step exactly when a match or a fix only ever meets a call outside the queue. -/
theorem queue_agrees_iff (resolver : Resolver) {start : QueueState} (actions : List QueueAction)
    (fresh : QueueFresh start) (agrees : QueueAgrees resolver start) :
    Guarded (queueStep resolver) (LinksSettled resolver) start actions ↔
      ∀ taken ∈ trace (queueStep resolver) start actions,
        QueueAgrees resolver (queueStep resolver taken.1 taken.2) :=
  guarded_iff_trace QueueFresh (QueueAgrees resolver)
    (fun _ action fresh => queueStep_fresh fresh action)
    (fun _ action fresh agrees => queueStep_agrees_iff fresh agrees action) fresh agrees

end

def acmeAccount : Account where
  id := 1
  organizationId := 1
  name := ['a']
  normalizedName := ['a']
  domain := some ['a', '.', 'b']

def beforeCalls : QueueState where
  db := { nextId := 2, accounts := [acmeAccount] }
  last _ := none

def acmeParticipant : CallParticipantInput where
  email := some ['x', '@', 'a', '.', 'b']

theorem beforeCalls_fresh : QueueFresh beforeCalls := by
  constructor
  · simp [beforeCalls, CallsFresh]
  · exact fun _ _ => rfl

theorem beforeCalls_agrees : QueueAgrees plainResolver beforeCalls := by
  simp [QueueAgrees, beforeCalls]

def storeSeven : QueueAction := .storeCall 1 .gong { externalId := ['7'] }

theorem assigned_call_leaves_queue :
    QueueAgrees plainResolver
      (queueStep plainResolver (queueStep plainResolver beforeCalls storeSeven) (.resolveCall 2 1 1)) :=
  (queue_agrees_iff plainResolver [storeSeven, .resolveCall 2 1 1] beforeCalls_fresh
    beforeCalls_agrees).mp (by simp [LinksSettled, storeSeven])
      (queueStep plainResolver beforeCalls storeSeven, .resolveCall 2 1 1)
      (List.mem_cons_of_mem _ List.mem_cons_self)

def matchedRun : QueueState :=
  run (queueStep plainResolver) beforeCalls
    [storeSeven, .resolveAndLinkContacts 1 2 [acmeParticipant] none]

/-- A call that was matched by its domain, with confidence 0.95, is in the queue. -/
theorem matched_call_is_queued :
    QueueAgrees plainResolver beforeCalls ∧ ¬ QueueAgrees plainResolver matchedRun := by
  refine ⟨beforeCalls_agrees, fun agrees => ?_⟩
  let matched : Call :=
    { id := 2, organizationId := 1, accountId := some 1, provider := .gong, externalId := some ['7'] }
  have stored : matchedRun.db.calls = [matched] := rfl
  have certain : matchedRun.last 2 = some 95 := rfl
  have queued : Queued plainResolver matched := rfl
  have uncertain := (agrees matched (stored ▸ List.mem_singleton_self _) rfl).mp queued 95 certain
  exact absurd uncertain (by decide)

end StoryEngine.Ingestion
