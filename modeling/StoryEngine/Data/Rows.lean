import Mathlib.Data.List.Nodup

namespace StoryEngine.Data

/-! # Tables as lists of rows

Statements of a relational store over one table: a lookup takes the first row
that matches, `updateWhere` and `deleteWhere` touch every row that matches, and
`required` turns a missing row into an error.
-/

universe u v w

variable {ρ : Type u} {κ : Type v} {ε : Type v} {α β : Type w}

def required (found : Option α) (failure : ε) : Except ε α :=
  match found with
  | some value => .ok value
  | none => .error failure

def ensure (condition : Bool) (failure : ε) : Except ε PUnit.{w + 1} :=
  if condition then .ok ⟨⟩ else .error failure

@[simp] theorem required_eq_ok {found : Option α} {failure : ε} {value : α} :
    required found failure = .ok value ↔ found = some value := by
  cases found <;> simp [required]

@[simp] theorem ensure_eq_ok {condition : Bool} {failure : ε} {value : PUnit} :
    ensure condition failure = .ok value ↔ condition = true := by
  cases condition <;> simp [ensure]

@[simp] theorem bind_eq_ok {first : Except ε α} {next : α → Except ε β} {result : β} :
    (first >>= next) = .ok result ↔ ∃ value, first = .ok value ∧ next value = .ok result := by
  cases first with
  | error failure => simp [bind, Except.bind]
  | ok value => simp [bind, Except.bind]

@[simp] theorem pure_eq_ok {value result : α} :
    (pure value : Except ε α) = .ok result ↔ value = result := by
  simp [pure, Except.pure]

@[simp] theorem map_eq_ok {first : Except ε α} {view : α → β} {result : β} :
    first.map view = .ok result ↔ ∃ value, first = .ok value ∧ view value = result := by
  cases first with
  | error failure => simp [Except.map]
  | ok value => simp [Except.map]

@[simp] theorem mapError_eq_ok {φ : Type v} {outcome : Except ε α} {explain : ε → φ}
    {value : α} : outcome.mapError explain = .ok value ↔ outcome = .ok value := by
  cases outcome <;> simp [Except.mapError]

theorem mapError_bind {first : Except ε α} {next : α → Except ε β} :
    (first >>= next).mapError explain =
      first.mapError explain >>= fun value => (next value).mapError explain := by
  cases first <;> rfl

theorem mapError_ensure {condition : Bool} {failure : ε} :
    (ensure condition failure : Except ε PUnit.{w + 1}).mapError explain =
      ensure condition (explain failure) := by
  cases condition <;> rfl

theorem mapError_pure {value : α} :
    (pure value : Except ε α).mapError explain = pure value := rfl

@[simp] theorem toOption_eq_some {outcome : Except ε α} {value : α} :
    outcome.toOption = some value ↔ outcome = .ok value := by
  cases outcome <;> simp [Except.toOption]

def updateWhere (rows : List ρ) (selects : ρ → Bool) (update : ρ → ρ) : List ρ :=
  rows.map fun row => if selects row then update row else row

def deleteWhere (rows : List ρ) (selects : ρ → Bool) : List ρ :=
  rows.filter fun row => !selects row

theorem mem_updateWhere {rows : List ρ} {selects : ρ → Bool} {update : ρ → ρ} {row : ρ} :
    row ∈ updateWhere rows selects update ↔
      ∃ old ∈ rows, (selects old = true ∧ row = update old) ∨ (selects old = false ∧ row = old) := by
  simp only [updateWhere, List.mem_map]
  constructor
  · rintro ⟨old, member, rfl⟩
    refine ⟨old, member, ?_⟩
    cases selected : selects old <;> simp
  · rintro ⟨old, member, ⟨selected, rfl⟩ | ⟨selected, rfl⟩⟩
    · exact ⟨old, member, by rw [if_pos selected]⟩
    · exact ⟨row, member, by simp [selected]⟩

theorem forall_mem_updateWhere {rows : List ρ} {selects : ρ → Bool} {update : ρ → ρ}
    {holds : ρ → Prop} (all : ∀ row ∈ rows, holds row)
    (kept : ∀ row ∈ rows, selects row = true → holds row → holds (update row)) :
    ∀ row ∈ updateWhere rows selects update, holds row := by
  intro row member
  obtain ⟨old, inRows, written | same⟩ := mem_updateWhere.mp member
  · rw [written.2]
    exact kept old inRows written.1 (all old inRows)
  · rw [same.2]
    exact all old inRows

@[simp] theorem mem_deleteWhere {rows : List ρ} {selects : ρ → Bool} {row : ρ} :
    row ∈ deleteWhere rows selects ↔ row ∈ rows ∧ selects row = false := by
  simp [deleteWhere]

theorem find?_updateWhere {rows : List ρ} {selects criterion : ρ → Bool} {update : ρ → ρ}
    (kept : ∀ row, criterion (update row) = criterion row) :
    (updateWhere rows selects update).find? criterion =
      (rows.find? criterion).map fun row => if selects row then update row else row := by
  induction rows with
  | nil => rfl
  | cons row rest ih =>
    have same : criterion (if selects row then update row else row) = criterion row := by
      split
      · exact kept row
      · rfl
    simp only [updateWhere, List.map_cons, List.find?_cons, same]
    cases criterion row with
    | true => rfl
    | false => exact ih

theorem map_updateWhere {rows : List ρ} {selects : ρ → Bool} {update : ρ → ρ} {column : ρ → κ}
    (kept : ∀ row, column (update row) = column row) :
    (updateWhere rows selects update).map column = rows.map column := by
  simp only [updateWhere, List.map_map]
  refine List.map_congr_left fun row _ => ?_
  simp only [Function.comp_apply]
  split
  · exact kept row
  · rfl

theorem updateWhere_self {rows : List ρ} {selects : ρ → Bool} {update : ρ → ρ}
    (same : ∀ row ∈ rows, selects row = true → update row = row) :
    updateWhere rows selects update = rows := by
  refine (List.map_congr_left fun row member => ?_).trans (List.map_id rows)
  split
  · next selected => exact same row member selected
  · rfl

theorem updateWhere_none {rows : List ρ} {selects : ρ → Bool} {update : ρ → ρ}
    (none : ∀ row ∈ rows, selects row = false) : updateWhere rows selects update = rows :=
  updateWhere_self fun row member selected => by
    rw [none row member] at selected
    cases selected

theorem updateWhere_restore {rows : List ρ} {selects back : ρ → Bool} {update restore : ρ → ρ}
    (changed : ∀ row ∈ rows, selects row = true →
      back (update row) = true ∧ restore (update row) = row)
    (outside : ∀ row ∈ rows, selects row = false → back row = false) :
    updateWhere (updateWhere rows selects update) back restore = rows := by
  simp only [updateWhere, List.map_map]
  refine (List.map_congr_left fun row member => ?_).trans (List.map_id rows)
  simp only [Function.comp_apply]
  cases selected : selects row with
  | true => simp [changed row member selected]
  | false => simp [outside row member selected]

theorem updateWhere_away [BEq κ] [LawfulBEq κ] {rows : List ρ} {update : ρ → ρ} {column : ρ → κ}
    {gone : κ} (away : ∀ row, column (update row) ≠ gone) :
    ∀ row ∈ updateWhere rows (column · == gone) update, column row ≠ gone := by
  intro row member
  obtain ⟨old, _, ⟨_, rfl⟩ | ⟨other, rfl⟩⟩ := mem_updateWhere.mp member
  · exact away old
  · simpa using other

/-- Rows outside the selection are not touched, also when it is a part of the
table that is looked at. -/
theorem filter_updateWhere {rows : List ρ} {selects criterion : ρ → Bool} {update : ρ → ρ}
    (outside : ∀ row ∈ rows, selects row = true →
      criterion row = false ∧ criterion (update row) = false) :
    (updateWhere rows selects update).filter criterion = rows.filter criterion := by
  induction rows with
  | nil => rfl
  | cons row rest ih =>
    have tail := ih fun other member => outside other (List.mem_cons_of_mem _ member)
    simp only [updateWhere] at tail
    simp only [updateWhere, List.map_cons, List.filter_cons, tail]
    cases selected : selects row with
    | false => simp
    | true =>
      obtain ⟨before, after⟩ := outside row List.mem_cons_self selected
      simp [before, after]

theorem filter_updateWhere_kept {rows : List ρ} {selects criterion : ρ → Bool} {update : ρ → ρ}
    (kept : ∀ row, criterion (update row) = criterion row) :
    (updateWhere rows selects update).filter criterion =
      updateWhere (rows.filter criterion) selects update := by
  induction rows with
  | nil => rfl
  | cons row rest ih =>
    have same : criterion (if selects row then update row else row) = criterion row := by
      split
      · exact kept row
      · rfl
    simp only [updateWhere] at ih
    simp only [updateWhere, List.map_cons, List.filter_cons, same, ih]
    split
    · rfl
    · rfl

theorem filter_deleteWhere {rows : List ρ} {selects criterion : ρ → Bool}
    (outside : ∀ row ∈ rows, selects row = true → criterion row = false) :
    (deleteWhere rows selects).filter criterion = rows.filter criterion := by
  simp only [deleteWhere, List.filter_filter]
  refine List.filter_congr fun row member => ?_
  cases selected : selects row with
  | false => simp
  | true => simp [outside row member selected]

theorem updateWhere_congr {rows : List ρ} {selects other : ρ → Bool} {update : ρ → ρ}
    (same : ∀ row ∈ rows, selects row = other row) :
    updateWhere rows selects update = updateWhere rows other update :=
  List.map_congr_left fun row member => by rw [same row member]

theorem find?_key_eq_some [BEq κ] [LawfulBEq κ] {rows : List ρ} {key : ρ → κ}
    (distinct : (rows.map key).Nodup) {wanted : κ} {row : ρ} :
    rows.find? (fun found => key found == wanted) = some row ↔ row ∈ rows ∧ key row = wanted := by
  constructor
  · intro found
    exact ⟨List.mem_of_find?_eq_some found, by simpa using List.find?_some found⟩
  · rintro ⟨member, rfl⟩
    obtain ⟨other, found⟩ : ∃ other, rows.find? (fun found => key found == key row) = some other :=
      Option.isSome_iff_exists.mp (List.find?_isSome.mpr ⟨row, member, by simp⟩)
    have same : key other = key row := by simpa using List.find?_some found
    have equal := List.inj_on_of_nodup_map distinct (List.mem_of_find?_eq_some found) member same
    rw [found, equal]

theorem nodup_map_concat {rows : List ρ} {key : ρ → κ} {row : ρ}
    (distinct : (rows.map key).Nodup) :
    ((rows ++ [row]).map key).Nodup ↔ ∀ old ∈ rows, key old ≠ key row := by
  rw [List.map_append, List.nodup_append]
  constructor
  · intro both old member
    exact both.2.2 (key old) (List.mem_map_of_mem member) (key row) (by simp)
  · intro fresh
    refine ⟨distinct, List.nodup_singleton _, ?_⟩
    intro left inLeft right inRight same
    obtain ⟨old, member, rfl⟩ := List.mem_map.mp inLeft
    exact fresh old member (by simpa [same] using inRight)

theorem nodup_map_append_fresh {rows : List ρ} {key : ρ → κ} {row : ρ}
    (distinct : (rows.map key).Nodup) (fresh : ∀ old ∈ rows, key old ≠ key row) :
    ((rows ++ [row]).map key).Nodup :=
  (nodup_map_concat distinct).mpr fresh

end StoryEngine.Data
