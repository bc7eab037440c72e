import StoryEngine.Data.Keys

namespace StoryEngine.Data

/-! # Columns that hold the times of a row's writes

A transaction gives its time to the rows that it creates and to those that it changes.
-/

universe u v w

structure Stamp (τ : Type w) where
  createdAt : τ
  updatedAt : τ
deriving DecidableEq

section

variable {ρ : Type u} {κ : Type v} {τ : Type w} [BEq κ] {key : ρ → κ} {before middle after : List ρ}
  {row old : ρ}

/-- Rows that are those of a table with distinct keys are found by their keys. -/
theorem find_same [LawfulBEq κ] (distinct : (before.map key).Nodup)
    (same : ∀ row ∈ after, row ∈ before) (member : row ∈ before) (inAfter : row ∈ after) :
    after.find? (key · == key row) = some row := by
  obtain ⟨other, found⟩ : ∃ other, after.find? (key · == key row) = some other :=
    Option.isSome_iff_exists.mp (List.find?_isSome.mpr ⟨row, inAfter, by simp⟩)
  have sameKey : key other = key row := by simpa using List.find?_some found
  have inBefore := same other (List.mem_of_find?_eq_some found)
  rw [found, eq_of_key distinct inBefore member sameKey]

variable [DecidableEq ρ]

/-- The times of a table's rows, by key, after a transaction that found the rows `before` and left
the rows `after`. -/
def stamped (key : ρ → κ) (before after : List ρ) (now : τ) (stamps : κ → Stamp τ) (id : κ) :
    Stamp τ :=
  match after.find? (key · == id) with
  | none => stamps id
  | some row =>
    if row ∈ before then stamps id
    else if before.any (key · == id) then { stamps id with updatedAt := now }
    else { createdAt := now, updatedAt := now }

variable {earlier later now : τ} {stamps : κ → Stamp τ}

theorem stamped_kept (found : after.find? (key · == key row) = some row)
    (inBefore : row ∈ before) :
    stamped key before after now stamps (key row) = stamps (key row) := by
  rw [stamped, found]
  exact if_pos inBefore

variable [LawfulBEq κ]

theorem stamped_changed (found : after.find? (key · == key row) = some row)
    (changed : row ∉ before) (inBefore : old ∈ before) (same : key old = key row) :
    stamped key before after now stamps (key row) =
      { stamps (key row) with updatedAt := now } := by
  have known : before.any (key · == key row) = true :=
    List.any_eq_true.mpr ⟨old, inBefore, by simpa using same⟩
  rw [stamped, found]
  dsimp only
  rw [if_neg changed, if_pos known]

theorem stamped_created (found : after.find? (key · == key row) = some row)
    (new : ∀ old ∈ before, key old ≠ key row) :
    stamped key before after now stamps (key row) = { createdAt := now, updatedAt := now } := by
  have unknown : before.any (key · == key row) = false :=
    List.any_eq_false.mpr fun old member => by simpa using new old member
  rw [stamped, found]
  dsimp only
  rw [if_neg fun member => new row member rfl, unknown]
  exact if_neg Bool.false_ne_true

/-- Two transactions, the second of which puts the rows back that the first one moved. -/
theorem stamps_back_iff (moved : ρ → Bool) (distinct : (before.map key).Nodup)
    (distinctMiddle : (middle.map key).Nodup) (same : ∀ row, row ∈ after ↔ row ∈ before)
    (still : ∀ row ∈ before, moved row = false → row ∈ middle)
    (away : ∀ row ∈ before, moved row = true → row ∉ middle ∧ ∃ new ∈ middle, key new = key row) :
    (∀ row ∈ before, stamped key middle after later (stamped key before middle earlier stamps)
      (key row) = stamps (key row)) ↔
      ∀ row ∈ before, moved row = true → (stamps (key row)).updatedAt = later := by
  refine forall₂_congr fun row member => ?_
  have inAfter := find_same distinct (fun row => (same row).mp) member ((same row).mpr member)
  cases state : moved row with
  | false =>
    have inMiddle := still row member state
    have found := (find?_key_eq_some distinctMiddle).mpr ⟨inMiddle, rfl⟩
    rw [stamped_kept inAfter inMiddle, stamped_kept found member]
    simp
  | true =>
    obtain ⟨changed, new, inMiddle, sameKey⟩ := away row member state
    have fresh : new ∉ before := fun inBefore =>
      changed (eq_of_key distinct inBefore member sameKey ▸ inMiddle)
    have found := (find?_key_eq_some distinctMiddle).mpr ⟨inMiddle, rfl⟩
    have first : stamped key before middle earlier stamps (key new) =
        { stamps (key new) with updatedAt := earlier } :=
      stamped_changed found fresh member sameKey.symm
    rw [stamped_changed inAfter changed inMiddle sameKey, ← sameKey, first]
    constructor
    · intro restored _
      exact (congrArg Stamp.updatedAt restored).symm
    · intro written
      rw [← written rfl]

theorem stamps_moved_iff (moved : ρ → Bool) (update : ρ → ρ)
    (distinct : (before.map key).Nodup) (kept : ∀ row, key (update row) = key row)
    (settled : ∀ row, moved (update row) = false)
    (same : ∀ row, row ∈ after ↔ row ∈ before) :
    (∀ row ∈ before, stamped key (updateWhere before moved update) after later
      (stamped key before (updateWhere before moved update) earlier stamps) (key row) =
        stamps (key row)) ↔
      ∀ row ∈ before, moved row = true → (stamps (key row)).updatedAt = later := by
  refine stamps_back_iff moved distinct (nodup_updateWhere kept distinct) same
    (fun row member state => ?_) fun row member state => ⟨fun inMiddle => ?_, ?_⟩
  · exact mem_updateWhere.mpr ⟨row, member, .inr ⟨state, rfl⟩⟩
  · obtain ⟨other, _, ⟨_, rfl⟩ | ⟨unmoved, rfl⟩⟩ := mem_updateWhere.mp inMiddle
    · rw [settled] at state
      cases state
    · rw [unmoved] at state
      cases state
  · exact ⟨update row, mem_updateWhere.mpr ⟨row, member, .inl ⟨state, rfl⟩⟩, kept row⟩

end

end StoryEngine.Data
