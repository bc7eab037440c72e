import StoryEngine.Stories.TranscriptMerger

namespace StoryEngine.Stories

open Schema

/-! # How much a truncation keeps

Calls are dropped one by one, so that what is kept is the longest part at its end of the list
that the estimate allows.
-/

def estimate (entries : List CallTranscriptEntry) : Int := (entries.map entryWords).sum

/-- The calls fall into those dropped and those kept, which are the newest or the oldest. -/
def Splits : TruncationMode → (entries dropped kept : List CallTranscriptEntry) → Prop
  | .oldestFirst, entries, dropped, kept => entries = dropped ++ kept
  | .newestFirst, entries, dropped, kept => entries = kept ++ dropped

def neighbour : TruncationMode → (dropped : List CallTranscriptEntry) → Option CallTranscriptEntry
  | .oldestFirst, dropped => dropped.getLast?
  | .newestFirst, dropped => dropped.head?

structure KeepsMost (entries : List CallTranscriptEntry) (maxWords : Int) (mode : TruncationMode)
    (truncation : Truncation) : Prop where
  boundary : ∃ dropped, Splits mode entries dropped truncation.included ∧
    truncation.truncationBoundary = (neighbour mode dropped).map (·.occurredAt)
  longest : ∀ dropped kept, Splits mode entries dropped kept → kept ≠ [] →
    estimate kept ≤ maxWords →
      estimate truncation.included ≤ maxWords ∧ kept.length ≤ truncation.included.length
  single : (∀ dropped kept, Splits mode entries dropped kept → kept ≠ [] →
    maxWords < estimate kept) → truncation.included.length = 1
  truncated : truncation.truncated = true ↔ maxWords < estimate entries

@[simp] theorem estimate_cons (entry : CallTranscriptEntry) (rest : List CallTranscriptEntry) :
    estimate (entry :: rest) = entryWords entry + estimate rest := by
  rw [estimate, estimate, List.map_cons, List.sum_cons]

theorem estimate_reverse (entries : List CallTranscriptEntry) :
    estimate entries.reverse = estimate entries := by
  rw [estimate, List.map_reverse, List.sum_reverse, estimate]

theorem dropFirst_spec {maxWords : Int} {boundary : Option Date} {entries : List CallTranscriptEntry}
    (occupied : entries ≠ []) :
    ∃ dropped kept, dropFirst maxWords (estimate entries) boundary entries =
        (kept, (dropped.getLast?.map (·.occurredAt)).or boundary) ∧
      entries = dropped ++ kept ∧ kept ≠ [] ∧
      (estimate kept ≤ maxWords ∨ kept.length = 1) ∧
      ∀ before after, entries = before ++ after → kept.length < after.length →
        maxWords < estimate after := by
  induction entries generalizing boundary with
  | nil => exact absurd rfl occupied
  | cons first rest ih =>
    cases rest with
    | nil =>
      refine ⟨[], [first], rfl, rfl, occupied, .inr rfl, ?_⟩
      intro before after parts longer
      have lengths := congrArg List.length parts
      rw [List.length_append] at lengths
      simp only [List.length_singleton] at lengths longer
      omega
    | cons second rest =>
      by_cases above : maxWords < estimate (first :: second :: rest)
      · have onward : estimate (first :: second :: rest) - entryWords first =
            estimate (second :: rest) := by
          rw [estimate_cons]
          omega
        obtain ⟨dropped, kept, reached, parts, remains, fits, larger⟩ :=
          @ih (some first.occurredAt) (List.cons_ne_nil second rest)
        refine ⟨first :: dropped, kept, ?_, by rw [parts]; rfl, remains, fits, ?_⟩
        · rw [dropFirst, if_pos above, onward, reached]
          cases dropped with
          | nil => rfl
          | cons next others =>
            rw [List.getLast?_cons_cons, List.getLast?_eq_some_getLast (List.cons_ne_nil _ _)]
            rfl
        · intro before after split longer
          cases before with
          | nil =>
            rw [List.nil_append] at split
            rw [← split]
            exact above
          | cons head before =>
            rw [List.cons_append] at split
            exact larger before after (List.cons.inj split).2 longer
      · refine ⟨[], first :: second :: rest, ?_, rfl, occupied, .inl (not_lt.mp above), ?_⟩
        · rw [dropFirst, if_neg above]
          rfl
        · intro before after parts longer
          have lengths := congrArg List.length parts
          rw [List.length_append] at lengths
          omega

theorem splits_reverse {entries dropped kept : List CallTranscriptEntry} :
    entries.reverse = dropped ++ kept ↔
      Splits .newestFirst entries dropped.reverse kept.reverse := by
  rw [Splits, ← List.reverse_append, ← List.reverse_inj, List.reverse_reverse]

theorem Splits.kept_unique {mode : TruncationMode}
    {entries dropped kept otherDropped otherKept : List CallTranscriptEntry}
    (split : Splits mode entries dropped kept)
    (other : Splits mode entries otherDropped otherKept)
    (lengths : kept.length = otherKept.length) : kept = otherKept := by
  cases mode with
  | oldestFirst =>
    rw [Splits] at split other
    exact (List.append_inj' (split.symm.trans other) lengths).2
  | newestFirst =>
    rw [Splits] at split other
    exact (List.append_inj (split.symm.trans other) lengths).1

theorem keepsMost_of_loop {mode : TruncationMode} {maxWords : Int}
    {entries dropped kept : List CallTranscriptEntry} (above : maxWords < estimate entries)
    (split : Splits mode entries dropped kept) (remains : kept ≠ [])
    (fits : estimate kept ≤ maxWords ∨ kept.length = 1)
    (larger : ∀ before after, Splits mode entries before after → kept.length < after.length →
      maxWords < estimate after) :
    KeepsMost entries maxWords mode {
      included := kept
      truncated := true
      truncationBoundary := (neighbour mode dropped).map (·.occurredAt) } where
  boundary := ⟨dropped, split, rfl⟩
  longest := by
    intro otherDropped otherKept otherSplit otherRemains otherFits
    have shorter : otherKept.length ≤ kept.length := by
      by_contra longer
      have exceeds := larger otherDropped otherKept otherSplit (by omega)
      omega
    refine ⟨?_, shorter⟩
    cases fits with
    | inl fits => exact fits
    | inr single =>
      have occupied := List.length_pos_iff.mpr otherRemains
      have same : kept = otherKept := split.kept_unique otherSplit (by omega)
      rw [same]
      exact otherFits
  single := by
    intro none
    have exceeds := none dropped kept split remains
    cases fits with
    | inl fits => omega
    | inr single => exact single
  truncated := by
    constructor
    · intro _
      exact above
    · intro _
      rfl

theorem splits_all (mode : TruncationMode) (entries : List CallTranscriptEntry) :
    Splits mode entries [] entries := by
  cases mode with
  | oldestFirst => rfl
  | newestFirst => rw [Splits, List.append_nil]

theorem Splits.length {mode : TruncationMode} {entries dropped kept : List CallTranscriptEntry}
    (split : Splits mode entries dropped kept) :
    entries.length = dropped.length + kept.length := by
  cases mode with
  | oldestFirst => rw [split, List.length_append]
  | newestFirst => rw [split, List.length_append, Nat.add_comm]

theorem keepsMost_all {mode : TruncationMode} {maxWords : Int}
    {entries : List CallTranscriptEntry} (occupied : entries ≠ [])
    (fits : estimate entries ≤ maxWords) :
    KeepsMost entries maxWords mode {
      included := entries, truncated := false, truncationBoundary := none } where
  boundary := by
    refine ⟨[], splits_all mode entries, ?_⟩
    cases mode with
    | oldestFirst => rfl
    | newestFirst => rfl
  longest := by
    intro dropped kept split _ _
    have lengths := split.length
    refine ⟨fits, ?_⟩
    change kept.length ≤ entries.length
    omega
  single := by
    intro none
    have exceeds := none [] entries (splits_all mode entries) occupied
    omega
  truncated := by
    constructor
    · intro truncated
      exact absurd truncated Bool.false_ne_true
    · intro above
      omega

theorem applyTruncation_above {mode : TruncationMode} {maxWords : Int}
    {entries : List CallTranscriptEntry} (occupied : entries ≠ [])
    (above : maxWords < estimate entries) :
    ∃ dropped kept, applyTruncation entries maxWords mode = {
        included := kept
        truncated := true
        truncationBoundary := (neighbour mode dropped).map (·.occurredAt) } ∧
      Splits mode entries dropped kept ∧ kept ≠ [] ∧
      (estimate kept ≤ maxWords ∨ kept.length = 1) ∧
      ∀ before after, Splits mode entries before after → kept.length < after.length →
        maxWords < estimate after := by
  have exceeds : ¬(entries.map entryWords).sum ≤ maxWords := not_le.mpr above
  simp only [applyTruncation, if_neg exceeds]
  cases mode with
  | oldestFirst =>
    obtain ⟨dropped, kept, reached, split, rest⟩ := @dropFirst_spec maxWords none entries occupied
    rw [estimate] at reached
    refine ⟨dropped, kept, ?_, split, rest⟩
    simp only [reached, Option.or_none]
    rfl
  | newestFirst =>
    have reversed : entries.reverse ≠ [] := by
      intro empty
      exact occupied (List.reverse_eq_nil_iff.mp empty)
    obtain ⟨dropped, kept, reached, split, remains, fits, larger⟩ :=
      @dropFirst_spec maxWords none entries.reverse reversed
    rw [estimate_reverse, estimate] at reached
    refine ⟨dropped.reverse, kept.reverse, ?_, splits_reverse.mp split, ?_, ?_, ?_⟩
    · simp only [reached, Option.or_none, neighbour, List.head?_reverse]
    · intro empty
      exact remains (List.reverse_eq_nil_iff.mp empty)
    · rw [estimate_reverse, List.length_reverse]
      exact fits
    · intro before after parts longer
      have mirrored : entries.reverse = before.reverse ++ after.reverse := by
        rw [splits_reverse, List.reverse_reverse, List.reverse_reverse]
        exact parts
      have exceeds := larger before.reverse after.reverse mirrored (by
        rw [List.length_reverse] at longer ⊢
        exact longer)
      rw [estimate_reverse] at exceeds
      exact exceeds

theorem applyTruncation_below {mode : TruncationMode} {maxWords : Int}
    {entries : List CallTranscriptEntry} (fits : estimate entries ≤ maxWords) :
    applyTruncation entries maxWords mode = {
      included := entries, truncated := false, truncationBoundary := none } := by
  rw [estimate] at fits
  simp only [applyTruncation, if_pos fits]

/-- What is kept is the longest part that fits, and one call if none fits. -/
theorem applyTruncation_keepsMost {entries : List CallTranscriptEntry} (occupied : entries ≠ [])
    (maxWords : Int) (mode : TruncationMode) :
    KeepsMost entries maxWords mode (applyTruncation entries maxWords mode) := by
  rcases le_or_gt (estimate entries) maxWords with fits | above
  · rw [applyTruncation_below fits]
    exact keepsMost_all occupied fits
  · obtain ⟨dropped, kept, truncation, split, remains, fits, larger⟩ :=
      @applyTruncation_above mode maxWords entries occupied above
    rw [truncation]
    exact keepsMost_of_loop above split remains fits larger

def shortEntry (callId wordCount : Nat) : CallTranscriptEntry where
  callId := callId
  title := none
  occurredAt := callId
  duration := none
  participants := []
  fullText := []
  wordCount := wordCount

/-- The oldest of three calls is dropped. -/
theorem applyTruncation_keepsMost_of_three :
    applyTruncation [shortEntry 1 50, shortEntry 2 20, shortEntry 3 10] 90 .oldestFirst = {
      included := [shortEntry 2 20, shortEntry 3 10]
      truncated := true
      truncationBoundary := some 1 } ∧
    KeepsMost [shortEntry 1 50, shortEntry 2 20, shortEntry 3 10] 90 .oldestFirst
      (applyTruncation [shortEntry 1 50, shortEntry 2 20, shortEntry 3 10] 90 .oldestFirst) :=
  ⟨by decide +kernel, applyTruncation_keepsMost (by decide +kernel) 90 .oldestFirst⟩

end StoryEngine.Stories
