import Mathlib.Data.List.Sort
import Mathlib.Order.Lattice
import StoryEngine.Data.Rows

namespace StoryEngine.Data

/-! # Insertion sort and selection

A stable sort of a selected part of a list is the selected part of the sorted list.
-/

section

variable {α : Type*} {relates : α → α → Prop} [DecidableRel relates] {selects : α → Bool}
  {values : List α} {value : α}

theorem filter_orderedInsert [IsTrans α relates] (sorted : values.Pairwise relates) :
    (values.orderedInsert relates value).filter selects =
      if selects value then (values.filter selects).orderedInsert relates value
      else values.filter selects := by
  induction values with
  | nil =>
    cases selected : selects value
    · simp [selected]
    · simp [selected]
  | cons first rest ih =>
    obtain ⟨least, sortedRest⟩ := List.pairwise_cons.mp sorted
    by_cases before : relates value first
    · rw [List.orderedInsert_cons_of_le relates rest before]
      cases selected : selects value
      · simp [selected]
      · have leading : ∀ other ∈ (first :: rest).filter selects, relates value other := by
          intro other member
          rcases List.mem_cons.mp (List.mem_of_mem_filter member) with rfl | inRest
          · exact before
          · exact IsTrans.trans value first other before (least other inRest)
        cases remains : (first :: rest).filter selects with
        | nil => simp [selected, remains]
        | cons other others =>
          have ahead := leading other (by rw [remains]; exact List.mem_cons_self)
          rw [List.filter_cons_of_pos selected, remains, if_pos rfl,
            List.orderedInsert_cons_of_le relates others ahead]
    · rw [List.orderedInsert_of_not_le relates rest before]
      cases kept : selects first
      · rw [List.filter_cons_of_neg (by simp [kept]), List.filter_cons_of_neg (by simp [kept]),
          ih sortedRest]
      · rw [List.filter_cons_of_pos kept, List.filter_cons_of_pos kept, ih sortedRest]
        cases selected : selects value
        · rfl
        · simp only [if_true, List.orderedInsert_of_not_le relates _ before]

theorem filter_insertionSort [IsTrans α relates] [Std.Total relates] :
    (values.insertionSort relates).filter selects =
      (values.filter selects).insertionSort relates := by
  induction values with
  | nil => rfl
  | cons first rest ih =>
    rw [List.insertionSort_cons, filter_orderedInsert (List.pairwise_insertionSort relates rest),
      ih]
    cases selected : selects first
    · simp [selected]
    · simp [selected]

end

/-! ## Rows in the order of a key -/

universe u v

variable {ρ : Type u} {κ : Type v} [LinearOrder κ] {rows : List ρ} {key : ρ → κ}

def Ascending (key : ρ → κ) (rows : List ρ) : Prop :=
  rows.Pairwise fun earlier later => key earlier < key later

theorem Ascending.nodup (ascending : Ascending key rows) : (rows.map key).Nodup :=
  List.pairwise_map.mpr (ascending.imp fun below => ne_of_lt below)

theorem Ascending.find?_key [BEq κ] [LawfulBEq κ] (ascending : Ascending key rows) {row : ρ}
    (member : row ∈ rows) : rows.find? (fun found => key found == key row) = some row :=
  (find?_key_eq_some ascending.nodup).mpr ⟨member, rfl⟩

theorem Ascending.eq_of_key (ascending : Ascending key rows) {left right : ρ}
    (inLeft : left ∈ rows) (inRight : right ∈ rows) (same : key left = key right) : left = right :=
  List.inj_on_of_nodup_map ascending.nodup inLeft inRight same

theorem Ascending.next_le (ascending : Ascending key rows) {selects : ρ → Bool} {bound : κ}
    (beyond : ∀ row, selects row = true ↔ bound < key row) {next row : ρ}
    (found : rows.find? selects = some next) (member : row ∈ rows) :
    key row ≤ bound ∨ key next ≤ key row := by
  obtain ⟨_, before, after, rfl, earlier⟩ := List.find?_eq_some_iff_append.mp found
  rcases List.mem_append.mp member with inBefore | inAfter
  · refine .inl (not_lt.mp fun above => ?_)
    simpa [(beyond row).mpr above] using earlier row inBefore
  · rcases List.mem_cons.mp inAfter with rfl | inRest
    · exact .inr le_rfl
    · have ordered := (List.pairwise_append.mp ascending).2.1
      exact .inr (le_of_lt (List.rel_of_pairwise_cons ordered inRest))

end StoryEngine.Data
