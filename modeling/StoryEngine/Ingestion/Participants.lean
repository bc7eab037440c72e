import StoryEngine.Ingestion.Effects

namespace StoryEngine.Ingestion

open Accounts Data Resolution Schema Statements Text

/-! # Participants of a call

Two participants of a call do not share an e-mail address, but any number of them
may have none.
-/

def writeParticipant (creates : CallParticipant → Bool) (participant : CallParticipant) :
    Ingest PUnit :=
  if creates participant then createParticipant participant else upsertParticipant participant

def HasParticipant (db : Database) (callId : RowId) (email : Text) : Prop :=
  ∃ row ∈ db.callParticipants, row.callId = callId ∧ row.email = some email

/-- New participants have distinct addresses that none has yet. -/
structure ParticipantsFit (callId : RowId) (db : Database) (emails : List Text) : Prop where
  distinct : emails.Nodup
  free : ∀ email ∈ emails, ¬ HasParticipant db callId email

def insertParticipant (db : Database) (participant : CallParticipant) : Database :=
  { db with
    nextId := db.nextId + 1
    callParticipants := db.callParticipants ++ [{ participant with id := db.nextId }] }

def settle (row stored : CallParticipant) : CallParticipant :=
  if participantKey stored == participantKey row then
    { stored with name := row.name, isHost := row.isHost }
  else stored

def settleAll (rows : List CallParticipant) (stored : CallParticipant) : CallParticipant :=
  rows.foldl (fun stored row => settle row stored) stored

structure ParticipantsSettled (rows stored : List CallParticipant) : Prop where
  known : ∀ row ∈ rows, ∃ participant ∈ stored, participantKey participant = participantKey row
  kept : ∀ participant ∈ stored, settleAll rows participant = participant

section

variable {db next : Database} {callId : RowId} {email : Text} {rest : List Text}
  {participant row stored : CallParticipant}
  {rows done : List CallParticipant} {creates : CallParticipant → Bool}

theorem hasParticipant_iff (own : participant.email = some email) :
    db.callParticipants.any (participantKey · == participantKey participant) ↔
      HasParticipant db participant.callId email := by
  rw [List.any_eq_true]
  refine exists_congr fun row => and_congr_right fun _ => ?_
  rw [beq_iff_eq, participantKey, participantKey, own]
  cases row.email with
  | none => simp
  | some other => simp

theorem hasParticipant_insert :
    HasParticipant (insertParticipant db participant) callId email ↔
      HasParticipant db callId email ∨ participant.callId = callId ∧ participant.email = some email := by
  simp only [HasParticipant, insertParticipant, List.mem_append, List.mem_singleton, or_and_right,
    exists_or, exists_eq_left]

theorem createParticipant_refuses :
    (participant.email.isSome &&
        db.callParticipants.any (participantKey · == participantKey participant)) ↔
      ∃ email ∈ participant.email, HasParticipant db participant.callId email := by
  rw [Bool.and_eq_true, Option.isSome_iff_exists]
  constructor
  · rintro ⟨⟨email, own⟩, taken⟩
    exact ⟨email, own, (hasParticipant_iff own).mp taken⟩
  · rintro ⟨email, own, taken⟩
    exact ⟨⟨email, own⟩, (hasParticipant_iff own).mpr taken⟩

theorem createParticipant_eq_ok :
    createParticipant participant db = .ok ⟨⟩ next ↔
      (∀ email ∈ participant.email, ¬ HasParticipant db participant.callId email) ∧
        insertParticipant db participant = next := by
  unfold createParticipant
  by_cases taken : ∃ email ∈ participant.email, HasParticipant db participant.callId email
  · rw [if_pos (createParticipant_refuses.mpr taken)]
    obtain ⟨email, own, known⟩ := taken
    constructor
    · exact fun ran => nomatch ran
    · exact fun ⟨free, _⟩ => absurd known (free email own)
  · rw [if_neg (mt createParticipant_refuses.mp taken)]
    constructor
    · intro ran
      exact ⟨fun email own known => taken ⟨email, own, known⟩, (EStateM.Result.ok.inj ran).2⟩
    · rintro ⟨_, rfl⟩
      rfl

theorem settle_key : participantKey (settle row stored) = participantKey stored := by
  unfold settle
  split <;> rfl

theorem upsertParticipant_cases (db : Database) (own : participant.email = some email) :
    (HasParticipant db participant.callId email ∧ upsertParticipant participant db =
        .ok ⟨⟩ { db with callParticipants := db.callParticipants.map (settle participant) }) ∨
      ¬ HasParticipant db participant.callId email ∧
        upsertParticipant participant db = .ok ⟨⟩ (insertParticipant db participant) := by
  unfold upsertParticipant
  by_cases known : HasParticipant db participant.callId email
  · refine .inl ⟨known, ?_⟩
    rw [if_pos ((hasParticipant_iff own).mpr known)]
    rfl
  · refine .inr ⟨known, ?_⟩
    rw [if_neg (mt (hasParticipant_iff own).mp known)]
    refine createParticipant_eq_ok.mpr ⟨fun other given => ?_, rfl⟩
    obtain rfl := Option.some.inj (own.symm.trans given)
    exact known

theorem hasParticipant_settled :
    HasParticipant { db with callParticipants := db.callParticipants.map (settle row) } callId email ↔
      HasParticipant db callId email := by
  unfold HasParticipant
  simp only [List.mem_map, exists_exists_and_eq_and]
  refine exists_congr fun stored => and_congr_right fun _ => ?_
  unfold settle
  split <;> exact Iff.rfl

theorem upsertParticipant_known (db : Database) (own : participant.email = some email) :
    ∃ next, upsertParticipant participant db = .ok ⟨⟩ next ∧ ∀ callId other,
      HasParticipant next callId other ↔ HasParticipant db callId other ∨
        participant.callId = callId ∧ participant.email = some other := by
  obtain ⟨known, ran⟩ | ⟨_, ran⟩ := upsertParticipant_cases db own
  · refine ⟨_, ran, fun callId other => ?_⟩
    rw [hasParticipant_settled]
    refine (or_iff_left_of_imp ?_).symm
    rintro ⟨rfl, isOther⟩
    exact Option.some.inj (own.symm.trans isOther) ▸ known
  · exact ⟨_, ran, fun callId other => hasParticipant_insert⟩

theorem writeParticipants_writes (creates : CallParticipant → Bool) (rows : List CallParticipant) :
    Keeps WritesParticipants (each rows (writeParticipant creates)) := by
  refine Keeps.each .refl .trans fun participant _ => ?_
  unfold writeParticipant
  split
  · exact createParticipant_writes participant
  · exact upsertParticipant_writes participant

def createdEmails (creates : CallParticipant → Bool) (rows : List CallParticipant) : List Text :=
  (rows.filter creates).filterMap (·.email)

theorem createdEmails_created (created : creates row = true) :
    createdEmails creates (row :: rows) = row.email.toList ++ createdEmails creates rows := by
  unfold createdEmails
  rw [List.filter_cons_of_pos created]
  cases own : row.email with
  | none => rw [List.filterMap_cons_none own, Option.toList_none, List.nil_append]
  | some email => rw [List.filterMap_cons_some own, Option.toList_some, List.singleton_append]

theorem createdEmails_upserted (upserted : creates row = false) :
    createdEmails creates (row :: rows) = createdEmails creates rows := by
  unfold createdEmails
  rw [List.filter_cons_of_neg (by simp [upserted])]

/-- The rows of one call, where those that are upserted have addresses that none of
the created ones has. -/
structure RowsOf (creates : CallParticipant → Bool) (callId : RowId) (rows : List CallParticipant) :
    Prop where
  ofCall : ∀ row ∈ rows, row.callId = callId
  apart : ∀ row ∈ rows, creates row = false →
    ∃ email, row.email = some email ∧ email ∉ createdEmails creates rows

theorem RowsOf.tail (ofCall : RowsOf creates callId (row :: rows)) : RowsOf creates callId rows where
  ofCall other member := ofCall.ofCall other (List.mem_cons_of_mem _ member)
  apart other member upserted := by
    obtain ⟨email, own, new⟩ := ofCall.apart other (List.mem_cons_of_mem _ member) upserted
    refine ⟨email, own, fun inRows => new ?_⟩
    cases created : creates row with
    | true =>
      rw [createdEmails_created created]
      exact List.mem_append_right _ inRows
    | false => rwa [createdEmails_upserted created]

theorem participantsFit_cons :
    ParticipantsFit callId db (email :: rest) ↔
      ¬ HasParticipant db callId email ∧ rest.Nodup ∧
        ∀ other ∈ rest, ¬ (HasParticipant db callId other ∨ email = other) := by
  constructor
  · rintro ⟨distinct, free⟩
    obtain ⟨new, distinctRest⟩ := List.nodup_cons.mp distinct
    refine ⟨free email List.mem_cons_self, distinctRest, fun other member => ?_⟩
    rintro (known | rfl)
    · exact free other (List.mem_cons_of_mem _ member) known
    · exact new member
  · rintro ⟨free, distinctRest, apart⟩
    refine ⟨List.nodup_cons.mpr ⟨fun member => apart email member (.inr rfl), distinctRest⟩, ?_⟩
    intro other member
    rcases List.mem_cons.mp member with rfl | inRest
    · exact free
    · exact fun known => apart other inRest (.inl known)

theorem participantsFit_congr (same : ∀ email ∈ rest, HasParticipant next callId email ↔
    HasParticipant db callId email) :
    ParticipantsFit callId next rest ↔ ParticipantsFit callId db rest := by
  constructor
  · rintro ⟨distinct, free⟩
    exact ⟨distinct, fun email member known => free email member ((same email member).mpr known)⟩
  · rintro ⟨distinct, free⟩
    exact ⟨distinct, fun email member known => free email member ((same email member).mp known)⟩

theorem createParticipant_fits (isCall : participant.callId = callId) :
    (∃ between, createParticipant participant db = .ok ⟨⟩ between ∧
        ParticipantsFit callId between rest) ↔
      ParticipantsFit callId db (participant.email.toList ++ rest) := by
  simp only [createParticipant_eq_ok, and_assoc, exists_and_left, exists_eq_left', isCall]
  cases own : participant.email with
  | none =>
    have same (email : Text) (_ : email ∈ rest) :
        HasParticipant (insertParticipant db participant) callId email ↔
          HasParticipant db callId email := by
      rw [hasParticipant_insert, own]
      simp
    rw [participantsFit_congr same]
    simp
  | some email =>
    rw [Option.toList_some, List.singleton_append, participantsFit_cons]
    simp only [Option.mem_some_iff, forall_eq']
    refine and_congr_right fun _ => ⟨fun ⟨distinct, free⟩ => ⟨distinct, ?_⟩,
      fun ⟨distinct, free⟩ => ⟨distinct, ?_⟩⟩
    · intro other member
      have notThere := free other member
      rw [hasParticipant_insert, own] at notThere
      simpa [isCall] using notThere
    · intro other member
      rw [hasParticipant_insert, own]
      simpa [isCall] using free other member

theorem upsertParticipant_fits (own : participant.email = some email) (new : email ∉ rest) :
    (∃ between, upsertParticipant participant db = .ok ⟨⟩ between ∧
        ParticipantsFit callId between rest) ↔ ParticipantsFit callId db rest := by
  obtain ⟨next, ran, known⟩ := upsertParticipant_known db own
  have same (other : Text) (member : other ∈ rest) :
      HasParticipant next callId other ↔ HasParticipant db callId other := by
    refine (known callId other).trans (or_iff_left ?_)
    rintro ⟨_, isOther⟩
    exact new (Option.some.inj (own.symm.trans isOther) ▸ member)
  rw [← participantsFit_congr same]
  constructor
  · rintro ⟨between, ranBetween, fits⟩
    rw [ran] at ranBetween
    obtain ⟨_, rfl⟩ := EStateM.Result.ok.inj ranBetween
    exact fits
  · exact fun fits => ⟨next, ran, fits⟩

theorem writeParticipants_eq_ok (rowsOf : RowsOf creates callId rows) :
    (∃ final, each rows (writeParticipant creates) db = .ok ⟨⟩ final) ↔
      ParticipantsFit callId db (createdEmails creates rows) := by
  induction rows generalizing db with
  | nil => exact ⟨fun _ => ⟨List.nodup_nil, fun _ none => nomatch none⟩, fun _ => ⟨db, rfl⟩⟩
  | cons row rest ih =>
    have turn : (∃ final, each (row :: rest) (writeParticipant creates) db = .ok ⟨⟩ final) ↔
        ∃ between, writeParticipant creates row db = .ok ⟨⟩ between ∧
          ParticipantsFit callId between (createdEmails creates rest) := by
      simp only [each, Statements.bind_eq_ok, ← ih rowsOf.tail]
      constructor
      · rintro ⟨final, ⟨⟩, between, first, later⟩
        exact ⟨between, first, final, later⟩
      · rintro ⟨between, first, final, later⟩
        exact ⟨final, ⟨⟩, between, first, later⟩
    rw [turn]
    cases created : creates row with
    | true =>
      simp only [writeParticipant, created, if_true]
      rw [createParticipant_fits (rowsOf.ofCall row List.mem_cons_self),
        createdEmails_created created]
    | false =>
      obtain ⟨email, own, new⟩ := rowsOf.apart row List.mem_cons_self created
      rw [createdEmails_upserted created] at new ⊢
      simp only [writeParticipant, created, Bool.false_eq_true, if_false]
      exact upsertParticipant_fits own new

theorem writeParticipants_length {final : Database} (rowsOf : RowsOf creates callId rows)
    (ran : each rows (writeParticipant creates) db = .ok ⟨⟩ final) :
    (participantsOf db callId).length + (rows.filter creates).length ≤
      (participantsOf final callId).length := by
  have inserted (db : Database) (row : CallParticipant) (isCall : row.callId = callId) :
      (participantsOf (insertParticipant db row) callId).length =
        (participantsOf db callId).length + 1 := by
    unfold participantsOf insertParticipant
    rw [List.filter_append, List.length_append, List.filter_cons_of_pos (by simpa using isCall)]
    rfl
  have updated (db : Database) (row : CallParticipant) :
      (participantsOf { db with callParticipants := db.callParticipants.map (settle row) }
        callId).length = (participantsOf db callId).length := by
    unfold participantsOf
    rw [List.filter_map, List.length_map]
    congr 1
    refine List.filter_congr fun stored _ => ?_
    unfold settle
    simp only [Function.comp_apply]
    split <;> rfl
  induction rows generalizing db with
  | nil =>
    obtain ⟨_, rfl⟩ := EStateM.Result.ok.inj ran
    exact Nat.le_refl _
  | cons row rest ih =>
    obtain ⟨⟨⟩, between, first, later⟩ := Statements.bind_eq_ok.mp ran
    have tail := ih rowsOf.tail later
    have isCall := rowsOf.ofCall row List.mem_cons_self
    unfold writeParticipant at first
    split at first
    · next created =>
        obtain ⟨_, rfl⟩ := createParticipant_eq_ok.mp first
        rw [inserted db row isCall] at tail
        rw [List.filter_cons_of_pos created, List.length_cons]
        omega
    · next upserted =>
        obtain ⟨email, own, _⟩ :=
          rowsOf.apart row List.mem_cons_self (Bool.eq_false_iff.mpr upserted)
        rw [List.filter_cons_of_neg upserted]
        obtain ⟨_, same⟩ | ⟨_, same⟩ := upsertParticipant_cases db own
        · rw [same] at first
          obtain ⟨_, rfl⟩ := EStateM.Result.ok.inj first
          rwa [updated] at tail
        · rw [same] at first
          obtain ⟨_, rfl⟩ := EStateM.Result.ok.inj first
          rw [inserted db row isCall] at tail
          omega

theorem settleAll_cons : settleAll (row :: rows) stored = settleAll rows (settle row stored) := rfl

theorem settleAll_append :
    settleAll (done ++ rows) stored = settleAll rows (settleAll done stored) :=
  List.foldl_append

theorem settleAll_columns :
    settleAll rows stored = { stored with
      name := (settleAll rows stored).name, isHost := (settleAll rows stored).isHost } := by
  induction rows generalizing stored with
  | nil => rfl
  | cons row rest ih =>
    rw [settleAll_cons, ih]
    unfold settle
    split <;> rfl

theorem settleAll_key : participantKey (settleAll rows stored) = participantKey stored := by
  rw [settleAll_columns]
  rfl

theorem settleAll_eq_self (same : ∀ row ∈ rows, participantKey stored = participantKey row →
    stored.name = row.name ∧ stored.isHost = row.isHost) : settleAll rows stored = stored := by
  induction rows with
  | nil => rfl
  | cons row rest ih =>
    have settled : settle row stored = stored := by
      unfold settle
      split
      · next isRow =>
          obtain ⟨name, isHost⟩ := same row List.mem_cons_self (beq_iff_eq.mp isRow)
          rw [← name, ← isHost]
      · rfl
    rw [settleAll_cons, settled]
    exact ih fun other member => same other (List.mem_cons_of_mem _ member)

theorem settle_settleAll (kept : settleAll done stored = stored) :
    settle row (settleAll done (settle row stored)) = settle row stored := by
  by_cases isRow : participantKey stored = participantKey row
  · have written : settle row stored = { stored with name := row.name, isHost := row.isHost } :=
      if_pos (by simpa using isRow)
    have key : participantKey (settleAll done (settle row stored)) = participantKey row :=
      settleAll_key.trans (settle_key.trans isRow)
    rw [settle, if_pos (by simpa using key), settleAll_columns, written]
  · have untouched : settle row stored = stored := if_neg (by simpa using isRow)
    rw [untouched, kept, untouched]

theorem settle_settled (settled : ParticipantsSettled done rows) (known : ∃ participant ∈ rows,
    participantKey participant = participantKey row) :
    ParticipantsSettled (done ++ [row]) (rows.map (settle row)) := by
  have still {other : CallParticipant} (known : ∃ participant ∈ rows,
      participantKey participant = participantKey other) :
      ∃ participant ∈ rows.map (settle row), participantKey participant = participantKey other := by
    obtain ⟨participant, member, key⟩ := known
    exact ⟨settle row participant, List.mem_map_of_mem member, settle_key.trans key⟩
  constructor
  · intro other member
    rcases List.mem_append.mp member with inDone | isRow
    · exact still (settled.known other inDone)
    · rw [List.mem_singleton.mp isRow]
      exact still known
  · intro participant member
    obtain ⟨old, inOld, rfl⟩ := List.mem_map.mp member
    rw [settleAll_append]
    exact settle_settleAll (settled.kept old inOld)

theorem append_settled {id : RowId} (settled : ParticipantsSettled done rows)
    (isNew : ∀ participant ∈ rows, participantKey participant ≠ participantKey row) :
    ParticipantsSettled (done ++ [row]) (rows ++ [{ row with id }]) := by
  constructor
  · intro other member
    rcases List.mem_append.mp member with inDone | isRow
    · obtain ⟨participant, inRows, key⟩ := settled.known other inDone
      exact ⟨participant, List.mem_append_left _ inRows, key⟩
    · rw [List.mem_singleton.mp isRow]
      exact ⟨_, List.mem_append_right _ (List.mem_singleton_self _), rfl⟩
  · intro participant member
    rw [settleAll_append]
    rcases List.mem_append.mp member with inRows | isRow
    · rw [settled.kept participant inRows]
      exact if_neg (by simpa using isNew participant inRows)
    · obtain rfl := List.mem_singleton.mp isRow
      have key : participantKey (settleAll done { row with id }) = participantKey row := settleAll_key
      have written : settle row (settleAll done { row with id }) =
          { settleAll done { row with id } with name := row.name, isHost := row.isHost } :=
        if_pos (by simpa using key)
      show settle row (settleAll done { row with id }) = { row with id }
      rw [written, settleAll_columns]

theorem upserts_settle {final : Database} (own : ∀ row ∈ rows, row.email.isSome)
    (ran : each rows upsertParticipant db = .ok ⟨⟩ final) :
    ParticipantsSettled rows final.callParticipants := by
  refine each_invariant (fun done state => ParticipantsSettled done state.callParticipants)
    (fun done row rest state next whole settled turn => ?_) ⟨nofun, fun _ _ => rfl⟩ ran
  obtain ⟨email, isOwn⟩ := Option.isSome_iff_exists.mp (own row (by simp [whole]))
  have key {participant : CallParticipant} : participantKey participant = participantKey row ↔
      participant.callId = row.callId ∧ participant.email = some email := by
    rw [participantKey, participantKey, isOwn]
    cases participant.email <;> simp
  obtain ⟨known, ranState⟩ | ⟨unknown, ranState⟩ := upsertParticipant_cases state isOwn
  · rw [ranState] at turn
    obtain ⟨_, rfl⟩ := EStateM.Result.ok.inj turn
    obtain ⟨participant, member, has⟩ := known
    exact settle_settled settled ⟨participant, member, key.mpr has⟩
  · rw [ranState] at turn
    obtain ⟨_, rfl⟩ := EStateM.Result.ok.inj turn
    exact append_settled settled fun participant member isRow =>
      unknown ⟨participant, member, key.mp isRow⟩

theorem upserts_known (known : ∀ row ∈ rows, ∃ participant ∈ db.callParticipants,
    participantKey participant = participantKey row) :
    each rows upsertParticipant db =
      .ok ⟨⟩ { db with callParticipants := db.callParticipants.map (settleAll rows) } := by
  induction rows generalizing db with
  | nil =>
    have same : db.callParticipants.map (settleAll []) = db.callParticipants := List.map_id _
    rw [same]
    rfl
  | cons row rest ih =>
    obtain ⟨participant, member, key⟩ := known row List.mem_cons_self
    have first : upsertParticipant row db =
        .ok ⟨⟩ { db with callParticipants := db.callParticipants.map (settle row) } := by
      unfold upsertParticipant
      rw [if_pos (List.any_eq_true.mpr ⟨participant, member, by simpa using key⟩)]
      rfl
    have later : ∀ other ∈ rest, ∃ participant ∈ db.callParticipants.map (settle row),
        participantKey participant = participantKey other := by
      intro other inRest
      obtain ⟨old, inOld, same⟩ := known other (List.mem_cons_of_mem _ inRest)
      exact ⟨settle row old, List.mem_map_of_mem inOld, settle_key.trans same⟩
    rw [each, bind_apply, first]
    dsimp only
    rw [ih later, List.map_map]
    rfl

theorem upserts_settled (settled : ParticipantsSettled rows db.callParticipants) :
    each rows upsertParticipant db = .ok ⟨⟩ db := by
  have same : db.callParticipants.map (settleAll rows) = db.callParticipants :=
    (List.map_congr_left fun participant member => settled.kept participant member).trans
      (List.map_id _)
  rw [upserts_known settled.known, same]

theorem creates_settle {final : Database} (ofCall : ∀ row ∈ rows, row.callId = callId)
    (noIds : ∀ row ∈ rows, row.id = 0) (fits : ParticipantsFit callId db (rows.filterMap (·.email)))
    (ran : each rows createParticipant db = .ok ⟨⟩ final) (part : ∀ row ∈ done, row ∈ rows)
    (own : ∀ row ∈ done, row.email.isSome) : ParticipantsSettled done final.callParticipants := by
  -- The rows are appended, each with an id of its own.
  obtain ⟨appended, table, columns⟩ := each_invariant (fun done state => ∃ appended,
      state.callParticipants = db.callParticipants ++ appended ∧
        appended.map (fun row => { row with id := 0 }) = done)
    (fun done row rest state next whole reached turn => by
      obtain ⟨appended, table, columns⟩ := reached
      obtain ⟨_, rfl⟩ := createParticipant_eq_ok.mp turn
      refine ⟨appended ++ [{ row with id := state.nextId }], ?_, ?_⟩
      · rw [insertParticipant, table, List.append_assoc]
      · rw [List.map_append, columns]
        have noId : row.id = 0 := noIds row (by simp [whole])
        rw [List.map_singleton, ← noId])
    ⟨[], by simp, rfl⟩ ran
  have inTable {row : CallParticipant} (member : row ∈ rows) :
      ∃ participant ∈ appended, { participant with id := 0 } = row :=
    List.mem_map.mp (columns ▸ member)
  constructor
  · intro row inDone
    obtain ⟨participant, member, rfl⟩ := inTable (part row inDone)
    exact ⟨participant, table ▸ List.mem_append_right _ member, rfl⟩
  · intro participant member
    refine settleAll_eq_self fun row inDone key => ?_
    obtain ⟨email, isOwn⟩ := Option.isSome_iff_exists.mp (own row inDone)
    have isCall := ofCall row (part row inDone)
    have has : participant.callId = row.callId ∧ participant.email = some email := by
      rw [participantKey, participantKey, isOwn] at key
      cases given : participant.email with
      | none => simp [given] at key
      | some other => simpa [given] using key
    rw [table] at member
    rcases List.mem_append.mp member with inOld | inNew
    · exact absurd ⟨participant, inOld, has.1.trans isCall, has.2⟩
        (fits.free email (List.mem_filterMap.mpr ⟨row, part row inDone, isOwn⟩))
    · have isRow : { participant with id := 0 } ∈ rows :=
        columns ▸ List.mem_map_of_mem inNew
      have same := UniqueBy.eq fits.distinct isRow (part row inDone) has.2 isOwn
      rw [← same]
      exact ⟨rfl, rfl⟩

end

end StoryEngine.Ingestion
