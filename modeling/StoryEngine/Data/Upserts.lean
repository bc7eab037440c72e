import Mathlib.Data.List.Induction
import Mathlib.Data.List.Nodup
import Mathlib.Order.Lattice

namespace StoryEngine.Data

/-! # Upserts by key

A table of values under keys, in which an upsert writes the value of a key that is there and
appends one that is not.  Writing all entries of a list leaves these entries, and the old ones
under other keys.
-/

universe u v

variable {κ : Type u} {α : Type v} [BEq κ] [LawfulBEq κ]

def upsertEntry (rows : List (κ × α)) (entry : κ × α) : List (κ × α) :=
  if rows.any (·.1 == entry.1) then rows.map fun row => if row.1 == entry.1 then entry else row
  else rows ++ [entry]

def entriesBut (keys : List κ) (rows : List (κ × α)) : List (κ × α) :=
  rows.filter fun row => !keys.contains row.1

theorem entriesBut_cons (key : κ) (keys : List κ) (rows : List (κ × α)) :
    entriesBut (key :: keys) rows = entriesBut keys (entriesBut [key] rows) := by
  simp only [entriesBut, List.filter_filter]
  apply List.filter_congr
  intro row _
  simp [Bool.and_comm]

theorem upsertEntry_perm {rows : List (κ × α)} (distinct : (rows.map (·.1)).Nodup)
    (entry : κ × α) : (upsertEntry rows entry).Perm (entry :: entriesBut [entry.1] rows) := by
  have others {rest : List (κ × α)} (absent : entry.1 ∉ rest.map (·.1)) :
      entriesBut [entry.1] rest = rest ∧
        rest.map (fun row => if row.1 == entry.1 then entry else row) = rest := by
    have apart (row : κ × α) (member : row ∈ rest) : (row.1 == entry.1) = false := by
      apply beq_false_of_ne
      intro same
      exact absent (same ▸ List.mem_map_of_mem member)
    constructor
    · apply List.filter_eq_self.mpr
      intro row member
      simp [apart row member]
    · refine (List.map_congr_left fun row member => ?_).trans (List.map_id rest)
      rw [apart row member]
      rfl
  induction rows with
  | nil => exact List.Perm.refl _
  | cons row rest ih =>
    have restDistinct := (List.nodup_cons.mp distinct).2
    by_cases own : row.1 = entry.1
    · have absent : entry.1 ∉ rest.map (·.1) := own ▸ (List.nodup_cons.mp distinct).1
      have here : (row.1 == entry.1) = true := beq_iff_eq.mpr own
      rw [upsertEntry, List.any_cons, here, Bool.true_or, if_pos rfl, List.map_cons,
        if_pos here, (others absent).2, entriesBut, List.filter_cons_of_neg (by simp [own])]
      exact (List.Perm.of_eq (others absent).1.symm).cons entry
    · have apart : (row.1 == entry.1) = false := beq_false_of_ne own
      have step : upsertEntry (row :: rest) entry = row :: upsertEntry rest entry := by
        simp only [upsertEntry, List.any_cons, apart, Bool.false_or, List.map_cons,
          Bool.false_eq_true, if_false, List.cons_append]
        split <;> rfl
      have kept : entriesBut [entry.1] (row :: rest) = row :: entriesBut [entry.1] rest :=
        List.filter_cons_of_pos (by simp [own])
      rw [step, kept]
      exact ((ih restDistinct).cons row).trans (List.Perm.swap _ _ _)

theorem nodup_upsertEntry {rows : List (κ × α)} (distinct : (rows.map (·.1)).Nodup)
    (entry : κ × α) : ((upsertEntry rows entry).map (·.1)).Nodup := by
  refine ((upsertEntry_perm distinct entry).map _).nodup_iff.mpr ?_
  rw [List.map_cons, List.nodup_cons]
  constructor
  · intro member
    obtain ⟨row, inRows, same⟩ := List.mem_map.mp member
    have apart := (List.mem_filter.mp inRows).2
    simp [same] at apart
  · exact distinct.sublist (List.filter_sublist.map _)

theorem nodup_upsertEntries {rows : List (κ × α)} (distinct : (rows.map (·.1)).Nodup)
    (entries : List (κ × α)) : ((entries.foldl upsertEntry rows).map (·.1)).Nodup := by
  induction entries generalizing rows with
  | nil => exact distinct
  | cons entry rest ih => exact ih (nodup_upsertEntry distinct entry)

theorem upsertEntries_perm {rows entries : List (κ × α)} (distinct : (rows.map (·.1)).Nodup)
    (once : (entries.map (·.1)).Nodup) :
    (entries.foldl upsertEntry rows).Perm (entries ++ entriesBut (entries.map (·.1)) rows) := by
  induction entries generalizing rows with
  | nil => simp [entriesBut]
  | cons entry rest ih =>
    obtain ⟨absent, restOnce⟩ := List.nodup_cons.mp once
    have apart : (!(rest.map (·.1)).contains entry.1) = true := by simpa using absent
    have kept : entriesBut (rest.map (·.1)) (entry :: entriesBut [entry.1] rows) =
        entry :: entriesBut ((entry :: rest).map (·.1)) rows := by
      rw [List.map_cons, entriesBut_cons entry.1 (rest.map (·.1)) rows, entriesBut,
        List.filter_cons, if_pos apart, entriesBut, entriesBut]
    have first : (entriesBut (rest.map (·.1)) (upsertEntry rows entry)).Perm
        (entry :: entriesBut ((entry :: rest).map (·.1)) rows) :=
      kept ▸ (upsertEntry_perm distinct entry).filter _
    have later := ih (nodup_upsertEntry distinct entry) restOnce
    exact (later.trans (first.append_left rest)).trans List.perm_middle

def entryAt (rows : List (κ × α)) (key : κ) : Option α := (rows.find? (·.1 == key)).map (·.2)

omit [LawfulBEq κ] in
theorem entryAt_cons (row : κ × α) (rows : List (κ × α)) (key : κ) :
    entryAt (row :: rows) key = if row.1 == key then some row.2 else entryAt rows key := by
  simp only [entryAt, List.find?_cons]
  cases row.1 == key <;> rfl

theorem entryAt_upsertEntry (rows : List (κ × α)) (entry : κ × α) (key : κ) :
    entryAt (upsertEntry rows entry) key =
      if entry.1 == key then some entry.2 else entryAt rows key := by
  have replaced : ∀ rows : List (κ × α), rows.any (·.1 == entry.1) = true ∨ entry.1 ≠ key →
      entryAt (rows.map fun row => if row.1 == entry.1 then entry else row) key =
        if entry.1 == key then some entry.2 else entryAt rows key := by
    intro rows
    induction rows with
    | nil =>
      intro either
      rcases either with present | apart
      · cases present
      · simp [entryAt, apart]
    | cons row rest ih =>
      intro either
      rw [List.map_cons, entryAt_cons, entryAt_cons]
      by_cases asked : entry.1 = key
      · by_cases own : row.1 = entry.1
        · simp [own, asked]
        · have among : rest.any (·.1 == entry.1) = true := by
            have present := either.resolve_right fun different => different asked
            rw [List.any_cons, beq_false_of_ne own, Bool.false_or] at present
            exact present
          have apart : row.1 ≠ key := fun same => own (same.trans asked.symm)
          simpa [own, apart, asked] using ih (.inl among)
      · have later := ih (.inr asked)
        by_cases own : row.1 = entry.1
        · simpa [own, asked] using later
        · have kept : (if row.1 == entry.1 then entry else row) = row := if_neg (by simpa using own)
          rw [kept, later]
          simp only [beq_false_of_ne asked, Bool.false_eq_true, if_false]
  simp only [upsertEntry]
  split
  · next present => exact replaced rows (.inl present)
  · next absent =>
      induction rows with
      | nil => rw [List.nil_append, entryAt_cons]
      | cons row rest ih =>
        have elsewhere : row.1 ≠ entry.1 ∧ ¬ rest.any (·.1 == entry.1) = true := by
          simpa using absent
        rw [List.cons_append, entryAt_cons, entryAt_cons, ih elsewhere.2]
        by_cases own : row.1 = key
        · have apart : entry.1 ≠ key := fun same => elsewhere.1 (own.trans same.symm)
          simp [own, apart]
        · simp [own]

def lastWritten (entries : List (κ × α)) (key : κ) : Option α :=
  (entries.reverse.find? (·.1 == key)).map (·.2)

omit [LawfulBEq κ] in
theorem lastWritten_concat (entries : List (κ × α)) (entry : κ × α) (key : κ) :
    lastWritten (entries ++ [entry]) key =
      if entry.1 == key then some entry.2 else lastWritten entries key := by
  simp only [lastWritten, List.reverse_append, List.reverse_singleton, List.singleton_append,
    List.find?_cons]
  cases entry.1 == key <;> rfl

theorem lastWritten_mem {entries : List (κ × α)} {key : κ} {value : α}
    (last : lastWritten entries key = some value) : (key, value) ∈ entries := by
  obtain ⟨entry, found, rfl⟩ := Option.map_eq_some_iff.mp last
  have own : entry.1 = key := by simpa using List.find?_some found
  subst own
  exact List.mem_reverse.mp (List.mem_of_find?_eq_some found)

theorem lastWritten_eq_none {entries : List (κ × α)} {key : κ} :
    lastWritten entries key = none ↔ key ∉ entries.map (·.1) := by
  simp only [lastWritten, Option.map_eq_none_iff, List.find?_eq_none, List.mem_reverse, List.mem_map,
    beq_iff_eq, not_exists, not_and]

theorem lastWritten_eq_some {entries : List (κ × α)} (once : (entries.map (·.1)).Nodup) {key : κ}
    {value : α} : lastWritten entries key = some value ↔ (key, value) ∈ entries := by
  refine ⟨lastWritten_mem, fun member => ?_⟩
  cases last : lastWritten entries key with
  | none => exact absurd (List.mem_map_of_mem member) (lastWritten_eq_none.mp last)
  | some other =>
    have same := List.inj_on_of_nodup_map once (lastWritten_mem last) member rfl
    exact congrArg some (Prod.mk.inj same).2

theorem mem_upsertEntry {rows : List (κ × α)} (distinct : (rows.map (·.1)).Nodup)
    {entry : κ × α} {key : κ} {value : α} :
    (key, value) ∈ upsertEntry rows entry ↔
      (key, value) = entry ∨ key ≠ entry.1 ∧ (key, value) ∈ rows := by
  rw [(upsertEntry_perm distinct entry).mem_iff, List.mem_cons, entriesBut, List.mem_filter]
  simp [and_comm]

theorem mem_keys_upsertEntry {rows : List (κ × α)} (distinct : (rows.map (·.1)).Nodup)
    {entry : κ × α} {key : κ} :
    key ∈ (upsertEntry rows entry).map (·.1) ↔ key = entry.1 ∨ key ∈ rows.map (·.1) := by
  have member : key ∈ (upsertEntry rows entry).map (·.1) ↔
      ∃ value, (key, value) ∈ upsertEntry rows entry := by
    simp [List.mem_map]
  have before : key ∈ rows.map (·.1) ↔ ∃ value, (key, value) ∈ rows := by
    simp [List.mem_map]
  simp only [member, before, mem_upsertEntry distinct]
  by_cases own : key = entry.1
  · exact iff_of_true ⟨entry.2, .inl (own ▸ rfl)⟩ (.inl own)
  · have apart (value : α) : (key, value) ≠ entry := fun same => own (congrArg Prod.fst same)
    simp [own, apart]

theorem mem_upsertEntries {rows : List (κ × α)} (distinct : (rows.map (·.1)).Nodup)
    {entries : List (κ × α)} {key : κ} {value : α} :
    (key, value) ∈ entries.foldl upsertEntry rows ↔
      lastWritten entries key = some value ∨
        key ∉ entries.map (·.1) ∧ (key, value) ∈ rows := by
  induction entries using List.reverseRecOn with
  | nil => simp [lastWritten]
  | append_singleton entries entry ih =>
    rw [List.foldl_append, List.foldl_cons, List.foldl_nil,
      mem_upsertEntry (nodup_upsertEntries distinct entries), ih, lastWritten_concat,
      List.map_append, List.mem_append, List.map_singleton, List.mem_singleton]
    by_cases own : key = entry.1
    · subst own
      simp [Prod.ext_iff, eq_comm]
    · have apart : (entry.1 == key) = false := beq_false_of_ne fun same => own same.symm
      have different : (key, value) ≠ entry := fun same => own (congrArg Prod.fst same)
      simp [own, apart, different]

variable [LinearOrder κ]

def inKeyOrder (rows : List (κ × α)) : List (κ × α) :=
  rows.mergeSort fun left right => decide (left.1 ≤ right.1)

/-- Entries under increasing keys are all that was written if, and only if, no old entry is
under another key. -/
theorem inKeyOrder_upsertEntries_iff {rows entries : List (κ × α)}
    (distinct : (rows.map (·.1)).Nodup) (increasing : (entries.map (·.1)).Pairwise (· < ·)) :
    inKeyOrder (entries.foldl upsertEntry rows) = entries ↔
      ∀ row ∈ rows, row.1 ∈ entries.map (·.1) := by
  have once : (entries.map (·.1)).Nodup := increasing.imp fun less => ne_of_lt less
  have written := upsertEntries_perm distinct once
  constructor
  · intro same row member
    by_contra outside
    have left : row ∈ entriesBut (entries.map (·.1)) rows :=
      List.mem_filter.mpr ⟨member, by simpa using outside⟩
    have stored := written.mem_iff.mpr (List.mem_append_right entries left)
    have sorted : row ∈ inKeyOrder (entries.foldl upsertEntry rows) :=
      (List.mergeSort_perm _ _).mem_iff.mpr stored
    rw [same] at sorted
    exact outside (List.mem_map_of_mem sorted)
  · intro covered
    have nothing : entriesBut (entries.map (·.1)) rows = [] := by
      apply List.filter_eq_nil_iff.mpr
      intro row member
      simpa using covered row member
    rw [nothing, List.append_nil] at written
    have sorted : (inKeyOrder (entries.foldl upsertEntry rows)).Pairwise
        fun left right => decide (left.1 ≤ right.1) = true := by
      apply List.pairwise_mergeSort
      · intro first second third lower upper
        simp only [decide_eq_true_eq] at lower upper ⊢
        exact lower.trans upper
      · intro first second
        simpa using le_total first.1 second.1
    have ordered : entries.Pairwise fun left right => decide (left.1 ≤ right.1) = true := by
      refine (List.pairwise_map.mp increasing).imp fun less => ?_
      exact decide_eq_true (le_of_lt less)
    refine List.Perm.eq_of_pairwise ?_ sorted ordered ((List.mergeSort_perm _ _).trans written)
    intro first second inFirst inSecond lower upper
    simp only [decide_eq_true_eq] at lower upper
    have member : first ∈ entries :=
      ((List.mergeSort_perm _ _).trans written).mem_iff.mp inFirst
    exact List.inj_on_of_nodup_map once member inSecond (le_antisymm lower upper)

end StoryEngine.Data
