import StoryEngine.Data.Rows

namespace StoryEngine.Data

/-! # Job queues

A queue keeps every job it has accepted.  A job whose id is taken, in any state, is
ignored; an attempt that fails is made again until the attempts are used up.
-/

universe u v

inductive JobState where
  | waiting
  | active
  | completed
  | failed
deriving DecidableEq

structure Job (ι : Type u) (δ : Type v) where
  id : ι
  data : δ
  attempts : Nat := 1
  attemptsMade : Nat := 0
  state : JobState := .waiting
deriving DecidableEq

namespace Job

variable {ι : Type u} {δ : Type v}

def pending (job : Job ι δ) : Bool := job.state == .waiting || job.state == .active

def started (job : Job ι δ) : Job ι δ :=
  if job.state = .waiting then { job with state := .active } else job

def lastAttempt (succeeds : Bool) (job : Job ι δ) : Bool :=
  job.state == .active && (succeeds || job.attempts ≤ job.attemptsMade + 1)

def ended (succeeds : Bool) (job : Job ι δ) : Job ι δ :=
  if job.state = .active then
    if succeeds then { job with state := .completed }
    else if job.attemptsMade + 1 < job.attempts then
      { job with state := .waiting, attemptsMade := job.attemptsMade + 1 }
    else { job with state := .failed, attemptsMade := job.attemptsMade + 1 }
  else job

section

variable {job : Job ι δ} {succeeds : Bool}

@[simp] theorem started_id : job.started.id = job.id := by
  unfold started
  split <;> rfl

@[simp] theorem started_data : job.started.data = job.data := by
  unfold started
  split <;> rfl

@[simp] theorem started_pending : job.started.pending = job.pending := by
  unfold started
  split
  · next waiting => simp [pending, waiting]
  · rfl

@[simp] theorem ended_id : (job.ended succeeds).id = job.id := by
  unfold ended
  split
  · split
    · rfl
    · split <;> rfl
  · rfl

@[simp] theorem ended_data : (job.ended succeeds).data = job.data := by
  unfold ended
  split
  · split
    · rfl
    · split <;> rfl
  · rfl

theorem ended_pending :
    (job.ended succeeds).pending = (job.pending && !job.lastAttempt succeeds) := by
  cases state : job.state with
  | active =>
    cases succeeds with
    | true => simp [ended, pending, lastAttempt, state]
    | false =>
      by_cases more : job.attemptsMade + 1 < job.attempts
      · simp [ended, pending, lastAttempt, state, more]
      · simp [ended, pending, lastAttempt, state, more, Nat.not_lt.mp more]
  | waiting | completed | failed => simp [ended, pending, lastAttempt, state]

theorem retried_pending (waiting : job.state = .waiting)
    (left : job.attemptsMade + 1 < job.attempts) : (job.started.ended false).pending = true := by
  rw [ended_pending, started_pending]
  simp [started, pending, lastAttempt, waiting, left]

end

end Job

variable {ι : Type u} {δ : Type v} [DecidableEq ι]

def findJob (queue : List (Job ι δ)) (id : ι) : Option (Job ι δ) := queue.find? (·.id == id)

def addJob (queue : List (Job ι δ)) (job : Job ι δ) : List (Job ι δ) :=
  if queue.any (·.id == job.id) then queue else queue ++ [job]

def changeJob (queue : List (Job ι δ)) (id : ι) (change : Job ι δ → Job ι δ) :
    List (Job ι δ) :=
  updateWhere queue (·.id == id) change

section

variable {queue : List (Job ι δ)} {job : Job ι δ} {id other : ι} {change : Job ι δ → Job ι δ}

theorem findJob_id (found : findJob queue id = some job) : job.id = id := by
  simpa using List.find?_some found

theorem findJob_addJob :
    findJob (addJob queue job) id =
      (findJob queue id).or (if job.id = id then some job else none) := by
  unfold addJob findJob
  split
  · next taken =>
      split
      · next same =>
          obtain ⟨row, member, isRow⟩ := List.any_eq_true.mp taken
          have found : (queue.find? (·.id == id)).isSome :=
            List.find?_isSome.mpr ⟨row, member, same ▸ isRow⟩
          rw [Option.or_of_isSome found]
      · rw [Option.or_none]
  · rw [List.find?_append, List.find?_singleton]
    simp only [beq_iff_eq]

theorem findJob_changeJob (kept : ∀ job, (change job).id = job.id) :
    findJob (changeJob queue other change) id =
      if id = other then (findJob queue id).map change else findJob queue id := by
  rw [findJob, changeJob, find?_updateWhere fun job => by rw [kept], findJob]
  cases found : queue.find? (·.id == id) with
  | none => simp
  | some job =>
    have named : job.id = id := findJob_id found
    simp only [Option.map_some, named, beq_iff_eq]
    split <;> rfl

theorem findJob_changeJob_eq_none (kept : ∀ job, (change job).id = job.id) :
    findJob (changeJob queue other change) id = none ↔ findJob queue id = none := by
  rw [findJob_changeJob kept]
  split
  · exact Option.map_eq_none_iff
  · rfl

theorem mem_addJob {row : Job ι δ} (member : row ∈ addJob queue job) : row ∈ queue ∨ row = job := by
  unfold addJob at member
  split at member
  · exact .inl member
  · simpa using member

theorem mem_addJob_of_mem {row : Job ι δ} (member : row ∈ queue) : row ∈ addJob queue job := by
  unfold addJob
  split
  · exact member
  · exact List.mem_append_left _ member

theorem nodup_addJob (distinct : (queue.map (·.id)).Nodup) :
    ((addJob queue job).map (·.id)).Nodup := by
  unfold addJob
  split
  · exact distinct
  · next free =>
      rw [List.map_append, List.nodup_append]
      refine ⟨distinct, by simp, fun old inOld new inNew same => free ?_⟩
      obtain ⟨row, member, rfl⟩ := List.mem_map.mp inOld
      obtain rfl : new = job.id := by simpa using inNew
      exact List.any_eq_true.mpr ⟨row, member, by simpa using same⟩

theorem nodup_changeJob (kept : ∀ job, (change job).id = job.id)
    (distinct : (queue.map (·.id)).Nodup) : ((changeJob queue id change).map (·.id)).Nodup := by
  rwa [changeJob, map_updateWhere kept]

theorem mem_changeJob_of_ne {row : Job ι δ} (member : row ∈ queue) (other : row.id ≠ id) :
    row ∈ changeJob queue id change :=
  mem_updateWhere.mpr ⟨row, member, .inr ⟨by simpa using other, rfl⟩⟩

theorem mem_changeJob {row : Job ι δ} (member : row ∈ changeJob queue id change) :
    ∃ old ∈ queue, row = change old ∧ old.id = id ∨ row = old ∧ old.id ≠ id := by
  obtain ⟨old, inQueue, ⟨selected, rfl⟩ | ⟨other, rfl⟩⟩ := mem_updateWhere.mp member
  · exact ⟨old, inQueue, .inl ⟨rfl, by simpa using selected⟩⟩
  · exact ⟨row, inQueue, .inr ⟨rfl, by simpa using other⟩⟩

end

end StoryEngine.Data
