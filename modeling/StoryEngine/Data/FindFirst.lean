import StoryEngine.Data.Rows

namespace StoryEngine.Data

universe u v

/-! # Queries without an order

Where all rows that match show the same value, it does not matter which of them a query returns.
-/

structure FindFirst (ρ : Type u) where
  row : (ρ → Bool) → List ρ → Option ρ
  row_mem : ∀ criterion rows found, row criterion rows = some found →
    found ∈ rows ∧ criterion found = true
  row_none : ∀ criterion rows, row criterion rows = none →
    ∀ other ∈ rows, criterion other = false

namespace FindFirst

variable {ρ : Type u}

def first : FindFirst ρ where
  row criterion rows := rows.find? criterion
  row_mem criterion rows found is :=
    ⟨List.mem_of_find?_eq_some is, List.find?_some is⟩
  row_none criterion rows absent := by simpa using absent

def preferring [DecidableEq ρ] (preferred : ρ) : FindFirst ρ where
  row criterion rows :=
    if preferred ∈ rows ∧ criterion preferred = true then some preferred
    else rows.find? criterion
  row_mem criterion rows found is := by
    split at is
    · next matching =>
        cases is
        exact matching
    · exact ⟨List.mem_of_find?_eq_some is, List.find?_some is⟩
  row_none criterion rows absent := by
    split at absent
    · cases absent
    · simpa using absent

theorem preferring_row [DecidableEq ρ] {preferred : ρ} {criterion : ρ → Bool} {rows : List ρ}
    (member : preferred ∈ rows) (matching : criterion preferred = true) :
    (preferring preferred).row criterion rows = some preferred :=
  if_pos ⟨member, matching⟩

end FindFirst

section

variable {ρ : Type u} {κ : Type v} {rows : List ρ} {criterion : ρ → Bool} {view : ρ → κ}
  {value : Option κ}

def Shows (rows : List ρ) (criterion : ρ → Bool) (view : ρ → κ) (value : Option κ) : Prop :=
  (∀ row ∈ rows, criterion row = true → value = some (view row)) ∧
    (value.isSome = true → ∃ row ∈ rows, criterion row = true)

theorem FindFirst.row_shows (query : FindFirst ρ) (shows : Shows rows criterion view value) :
    (query.row criterion rows).map view = value := by
  cases found : query.row criterion rows with
  | some row =>
    obtain ⟨member, matching⟩ := query.row_mem criterion rows row found
    exact (shows.1 row member matching).symm
  | none =>
    have unmatched := query.row_none criterion rows found
    cases shown : value with
    | none => rfl
    | some other =>
      obtain ⟨row, member, matching⟩ := shows.2 (by rw [shown]; rfl)
      rw [unmatched row member] at matching
      cases matching

theorem shows_none (unmatched : ∀ row ∈ rows, criterion row = false) :
    Shows rows criterion view none := by
  constructor
  · intro row member matching
    rw [unmatched row member] at matching
    cases matching
  · intro absurd
    cases absurd

theorem Shows.congr {other : List ρ} (shows : Shows rows criterion view value)
    (same : other.filter criterion = rows.filter criterion) :
    Shows other criterion view value := by
  have matched (row : ρ) : (row ∈ other ∧ criterion row = true) ↔
      row ∈ rows ∧ criterion row = true := by
    rw [← List.mem_filter, ← List.mem_filter, same]
  constructor
  · intro row member matching
    exact shows.1 row ((matched row).mp ⟨member, matching⟩).1 matching
  · intro found
    obtain ⟨row, member, matching⟩ := shows.2 found
    exact ⟨row, (matched row).mpr ⟨member, matching⟩⟩

theorem Shows.updated {update : ρ → ρ} {change : κ → κ} (shows : Shows rows criterion view value)
    (kept : ∀ row, criterion row = true → criterion (update row) = true)
    (changed : ∀ row, view (update row) = change (view row)) :
    Shows (updateWhere rows criterion update) criterion view (value.map change) := by
  constructor
  · intro row member matching
    obtain ⟨old, stored, ⟨selected, rfl⟩ | ⟨other, rfl⟩⟩ := mem_updateWhere.mp member
    · rw [shows.1 old stored selected, changed]
      rfl
    · rw [other] at matching
      cases matching
  · intro found
    obtain ⟨row, member, matching⟩ := shows.2 (by simpa using found)
    have inAfter : update row ∈ updateWhere rows criterion update :=
      mem_updateWhere.mpr ⟨row, member, .inl ⟨matching, rfl⟩⟩
    exact ⟨update row, inAfter, kept row matching⟩

theorem shows_appended {row : ρ} (unmatched : ∀ old ∈ rows, criterion old = false)
    (matching : criterion row = true) :
    Shows (rows ++ [row]) criterion view (some (view row)) := by
  constructor
  · intro other member otherMatches
    cases List.mem_append.mp member with
    | inl old =>
      rw [unmatched other old] at otherMatches
      cases otherMatches
    | inr new => rw [List.mem_singleton.mp new]
  · exact fun _ => ⟨row, by simp, matching⟩

theorem Shows.upserted {row : ρ} {update : ρ → ρ} {change : κ → κ}
    (shows : Shows rows criterion view value) (matching : criterion row = true)
    (kept : ∀ old, criterion old = true → criterion (update old) = true)
    (changed : ∀ old, view (update old) = change (view old)) :
    Shows (if rows.any criterion then updateWhere rows criterion update else rows ++ [row])
      criterion view (some (value.elim (view row) change)) := by
  cases value with
  | none =>
    have unmatched : ∀ old ∈ rows, criterion old = false := by
      intro old member
      cases found : criterion old with
      | false => rfl
      | true => cases shows.1 old member found
    have absent : rows.any criterion = false := by simpa using unmatched
    rw [if_neg (by simp [absent])]
    exact shows_appended unmatched matching
  | some shown =>
    have present : rows.any criterion = true := by simpa using shows.2 rfl
    rw [if_pos present]
    exact shows.updated kept changed

theorem Shows.upserted_elsewhere {selects : ρ → Bool} {row : ρ} {update : ρ → ρ}
    (shows : Shows rows criterion view value) (other : criterion row = false)
    (apart : ∀ old, selects old = true → criterion old = false ∧ criterion (update old) = false) :
    Shows (if rows.any selects then updateWhere rows selects update else rows ++ [row])
      criterion view value := by
  apply shows.congr
  split
  · apply filter_updateWhere
    intro old _ selected
    exact apart old selected
  · rw [List.filter_append, List.filter_singleton, other]
    simp

theorem shows_deleted : Shows (deleteWhere rows criterion) criterion view none := by
  apply shows_none
  intro row member
  exact (mem_deleteWhere.mp member).2

end

end StoryEngine.Data
