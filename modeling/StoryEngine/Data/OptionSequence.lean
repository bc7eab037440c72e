import Mathlib.Data.List.Basic

namespace StoryEngine.Data

/-! # Options in sequence -/

universe u v w

theorem mapM_eq_none {α : Type u} {β : Type v} {f : α → Option β} {items : List α} :
    items.mapM f = none ↔ ∃ item ∈ items, f item = none := by
  induction items with
  | nil => simp
  | cons first rest ih =>
    rw [List.mapM_cons, List.exists_mem_cons_iff, ← ih]
    cases f first <;> cases rest.mapM f <;> simp

theorem mapM_eq_some {α : Type u} {β : Type v} {f : α → Option β} {items : List α}
    {results : List β} (mapped : items.mapM f = some results) :
    (∀ item ∈ items, ∃ result ∈ results, f item = some result) ∧
      ∀ result ∈ results, ∃ item ∈ items, f item = some result := by
  induction items generalizing results with
  | nil =>
    cases mapped
    exact ⟨nofun, nofun⟩
  | cons first rest ih =>
    rw [List.mapM_cons] at mapped
    obtain ⟨result, atFirst, mapped⟩ := Option.bind_eq_some_iff.mp mapped
    obtain ⟨others, atRest, mapped⟩ := Option.bind_eq_some_iff.mp mapped
    cases mapped
    obtain ⟨forth, back⟩ := ih atRest
    refine ⟨List.forall_mem_cons.mpr ⟨⟨result, List.mem_cons_self, atFirst⟩, ?_⟩,
      List.forall_mem_cons.mpr ⟨⟨first, List.mem_cons_self, atFirst⟩, ?_⟩⟩
    · intro item member
      obtain ⟨found, inOthers, same⟩ := forth item member
      exact ⟨found, List.mem_cons_of_mem _ inOthers, same⟩
    · intro found member
      obtain ⟨item, inRest, same⟩ := back found member
      exact ⟨item, List.mem_cons_of_mem _ inRest, same⟩

theorem mapM_length {α : Type u} {β : Type v} {f : α → Option β} {items : List α}
    {results : List β} (mapped : items.mapM f = some results) : items.length = results.length := by
  induction items generalizing results with
  | nil =>
    cases mapped
    rfl
  | cons first rest ih =>
    rw [List.mapM_cons] at mapped
    obtain ⟨_, _, mapped⟩ := Option.bind_eq_some_iff.mp mapped
    obtain ⟨_, atRest, mapped⟩ := Option.bind_eq_some_iff.mp mapped
    cases mapped
    rw [List.length_cons, List.length_cons, ih atRest]

end StoryEngine.Data
