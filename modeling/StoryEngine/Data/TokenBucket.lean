import Mathlib.Algebra.Order.Field.Basic
import Mathlib.Data.List.Induction
import Mathlib.Tactic.Linarith
import Mathlib.Tactic.Ring

namespace StoryEngine.Data

/-! # Token buckets

A bucket fills at a rate up to its capacity, and every event takes a whole token from it.  Events
that always find one are exactly those of which no interval has more than the capacity and what
flows in meanwhile.
-/

universe u

variable {𝕜 : Type u}

structure Bucket (𝕜 : Type u) where
  level : 𝕜
  filledAt : 𝕜

namespace Bucket

section

variable [Field 𝕜] [LinearOrder 𝕜] (capacity rate : 𝕜)

def full (time : 𝕜) : Bucket 𝕜 := { level := capacity, filledAt := time }

def refill (bucket : Bucket 𝕜) (time : 𝕜) : Bucket 𝕜 where
  level := min capacity (bucket.level + rate * (time - bucket.filledAt))
  filledAt := time

def take (bucket : Bucket 𝕜) (time : 𝕜) : Bucket 𝕜 :=
  { bucket.refill capacity rate time with level := (bucket.refill capacity rate time).level - 1 }

def takeAll (bucket : Bucket 𝕜) (times : List 𝕜) : Bucket 𝕜 := times.foldl (take capacity rate) bucket

def Serves : Bucket 𝕜 → List 𝕜 → Prop
  | _, [] => True
  | bucket, time :: later =>
    1 ≤ (bucket.refill capacity rate time).level ∧ Serves (bucket.take capacity rate time) later

end

end Bucket

def countIn [LinearOrder 𝕜] (times : List 𝕜) (first last : 𝕜) : Nat :=
  times.countP fun time => first ≤ time ∧ time ≤ last

/-- No interval has more events than the capacity and what flows in meanwhile. -/
def RateBounded [Field 𝕜] [LinearOrder 𝕜] (capacity rate : 𝕜) (times : List 𝕜) : Prop :=
  ∀ first last, first ≤ last → (countIn times first last : 𝕜) ≤ capacity + rate * (last - first)

/-- Over no stretch of time up to now were there more events than what flowed in. -/
def Recovered [Field 𝕜] [LinearOrder 𝕜] (rate : 𝕜) (times : List 𝕜) (now : 𝕜) : Prop :=
  ∀ since ∈ times, (countIn times since now : 𝕜) ≤ rate * (now - since)

instance [Field 𝕜] [LinearOrder 𝕜] (rate : 𝕜) (times : List 𝕜) (now : 𝕜) :
    Decidable (Recovered rate times now) :=
  inferInstanceAs (Decidable (∀ since ∈ times, _ ≤ _))

section

variable [LinearOrder 𝕜] {times : List 𝕜} {time first last : 𝕜}

theorem countIn_cons_inside (after : first ≤ time) (before : time ≤ last) :
    countIn (time :: times) first last = countIn times first last + 1 := by
  simp [countIn, after, before]

theorem countIn_cons_outside (outside : ¬(first ≤ time ∧ time ≤ last)) :
    countIn (time :: times) first last = countIn times first last := by
  simp [countIn, outside]

theorem countIn_concat_inside (after : first ≤ time) (before : time ≤ last) :
    countIn (times ++ [time]) first last = countIn times first last + 1 := by
  simp [countIn, after, before]

theorem countIn_concat_le :
    countIn times first last ≤ countIn (times ++ [time]) first last := by
  simp [countIn]

theorem countIn_mono {sooner wider : 𝕜} (before : sooner ≤ first) (after : last ≤ wider) :
    countIn times first last ≤ countIn times sooner wider := by
  apply List.countP_mono_left
  intro time _ inside
  simp only [decide_eq_true_eq] at inside ⊢
  exact ⟨before.trans inside.1, inside.2.trans after⟩

theorem countIn_le_upTo : countIn times first last ≤ times.countP (· ≤ last) := by
  apply List.countP_mono_left
  intro time _ inside
  simp only [decide_eq_true_eq] at inside ⊢
  exact inside.2

theorem upTo_zero (late : ∀ time ∈ times, last < time) : times.countP (· ≤ last) = 0 := by
  apply List.countP_eq_zero.mpr
  intro time member before
  exact absurd (of_decide_eq_true before) (not_le.mpr (late time member))

end

section

variable [Field 𝕜] [LinearOrder 𝕜] [IsStrictOrderedRing 𝕜] {capacity rate : 𝕜}
  {times earlier later : List 𝕜} {now opened : 𝕜}

theorem Recovered.since (recovered : Recovered rate times now) (positive : 0 ≤ rate)
    (ordered : times.Pairwise (· ≤ ·)) {first : 𝕜} (before : first ≤ now) :
    (countIn times first now : 𝕜) ≤ rate * (now - first) := by
  cases found : times.find? (first ≤ ·) with
  | none =>
    have none : countIn times first now = 0 := by
      refine List.countP_eq_zero.mpr fun time member inside => ?_
      have early := List.find?_eq_none.mp found time member
      exact early (decide_eq_true (of_decide_eq_true inside).1)
    rw [none, Nat.cast_zero]
    exact mul_nonneg positive (sub_nonneg.mpr before)
  | some time =>
    obtain ⟨after, early, rest, rfl, sooner⟩ := List.find?_eq_some_iff_append.mp found
    have isAfter : first ≤ time := of_decide_eq_true after
    have fewer : countIn (early ++ time :: rest) first now ≤
        countIn (early ++ time :: rest) time now := by
      refine List.countP_mono_left fun other member inside => ?_
      simp only [decide_eq_true_eq] at inside ⊢
      refine ⟨?_, inside.2⟩
      rcases List.mem_append.mp member with inEarly | inRest
      · have before := sooner other inEarly
        rw [Bool.not_eq_true', decide_eq_false_iff_not] at before
        exact absurd inside.1 before
      · rcases List.mem_cons.mp inRest with rfl | inRest
        · exact le_rfl
        · exact List.rel_of_pairwise_cons (List.pairwise_append.mp ordered).2.1 inRest
    have cast : (countIn (early ++ time :: rest) first now : 𝕜) ≤
        countIn (early ++ time :: rest) time now := by exact_mod_cast fewer
    have bound := recovered time (List.mem_append_right _ List.mem_cons_self)
    have flows : rate * (now - time) ≤ rate * (now - first) :=
      mul_le_mul_of_nonneg_left (by linarith) positive
    linarith

/-- Once all has flowed in again, as many events as the capacity may follow. -/
theorem RateBounded.append (bounded : RateBounded capacity rate earlier) (positive : 0 ≤ rate)
    (ordered : earlier.Pairwise (· ≤ ·)) (recovered : Recovered rate earlier opened)
    (before : ∀ time ∈ earlier, time ≤ opened) (after : ∀ time ∈ later, opened ≤ time)
    (few : (later.length : 𝕜) ≤ capacity) : RateBounded capacity rate (earlier ++ later) := by
  intro first last forward
  rw [countIn, List.countP_append, Nat.cast_add]
  have flows : 0 ≤ rate * (last - first) := mul_nonneg positive (sub_nonneg.mpr forward)
  by_cases reaches : opened ≤ last
  · have part : (later.countP (fun time => first ≤ time ∧ time ≤ last) : 𝕜) ≤ later.length := by
      exact_mod_cast List.countP_le_length
    have whole : (earlier.countP (fun time => first ≤ time ∧ time ≤ last) : 𝕜) ≤
        rate * (last - first) := by
      by_cases begins : first ≤ opened
      · have fewer : countIn earlier first last ≤ countIn earlier first opened := by
          refine List.countP_mono_left fun time member inside => ?_
          simp only [decide_eq_true_eq] at inside ⊢
          exact ⟨inside.1, before time member⟩
        have cast : (countIn earlier first last : 𝕜) ≤ countIn earlier first opened := by
          exact_mod_cast fewer
        have bound := recovered.since positive ordered begins
        have sooner : rate * (opened - first) ≤ rate * (last - first) :=
          mul_le_mul_of_nonneg_left (by linarith) positive
        rw [countIn] at cast
        linarith
      · have none : earlier.countP (fun time => first ≤ time ∧ time ≤ last) = 0 := by
          refine List.countP_eq_zero.mpr fun time member inside => ?_
          exact begins ((of_decide_eq_true inside).1.trans (before time member))
        rw [none, Nat.cast_zero]
        exact flows
    linarith
  · have none : later.countP (fun time => first ≤ time ∧ time ≤ last) = 0 := by
      refine List.countP_eq_zero.mpr fun time member inside => ?_
      exact reaches ((after time member).trans (of_decide_eq_true inside).2)
    have bound := bounded first last forward
    rw [countIn] at bound
    rw [none, Nat.cast_zero, add_zero]
    exact bound

end

namespace Bucket

section

variable [Field 𝕜] [LinearOrder 𝕜] {capacity rate : 𝕜} {bucket : Bucket 𝕜} {times : List 𝕜}
  {time : 𝕜}

@[simp] theorem refill_filledAt : (bucket.refill capacity rate time).filledAt = time := rfl

@[simp] theorem take_filledAt : (bucket.take capacity rate time).filledAt = time := rfl

@[simp] theorem take_level :
    (bucket.take capacity rate time).level = (bucket.refill capacity rate time).level - 1 := rfl

theorem refill_level_le_capacity : (bucket.refill capacity rate time).level ≤ capacity :=
  min_le_left _ _

theorem refill_level_le :
    (bucket.refill capacity rate time).level ≤
      bucket.level + rate * (time - bucket.filledAt) :=
  min_le_right _ _

theorem takeAll_concat :
    bucket.takeAll capacity rate (times ++ [time]) =
      (bucket.takeAll capacity rate times).take capacity rate time := by
  simp [takeAll]

theorem serves_concat :
    bucket.Serves capacity rate (times ++ [time]) ↔
      bucket.Serves capacity rate times ∧
        1 ≤ ((bucket.takeAll capacity rate times).refill capacity rate time).level := by
  induction times generalizing bucket with
  | nil => simp [Serves, takeAll]
  | cons next times ih =>
    rw [List.cons_append, Serves, Serves, ih, and_assoc]
    rfl

theorem takeAll_filledAt_mem :
    (bucket.takeAll capacity rate times).filledAt ∈ bucket.filledAt :: times := by
  induction times using List.reverseRecOn with
  | nil => exact List.mem_cons_self
  | append_singleton times time ih =>
    rw [takeAll_concat, take_filledAt]
    exact List.mem_cons_of_mem _ (List.mem_append_right _ List.mem_cons_self)

theorem takeAll_filledAt_le (ordered : (bucket.filledAt :: (times ++ [time])).Pairwise (· ≤ ·)) :
    (bucket.takeAll capacity rate times).filledAt ≤ time := by
  rw [← List.cons_append, List.pairwise_append] at ordered
  exact ordered.2.2 _ takeAll_filledAt_mem time List.mem_cons_self

end

section

variable [Field 𝕜] [LinearOrder 𝕜] [IsStrictOrderedRing 𝕜] {capacity rate : 𝕜}
  {bucket : Bucket 𝕜} {times : List 𝕜} {time last : 𝕜}

theorem refill_refill (positive : 0 ≤ rate) (forward : time ≤ last) :
    (bucket.refill capacity rate time).refill capacity rate last =
      bucket.refill capacity rate last := by
  have flows : 0 ≤ rate * (last - time) := mul_nonneg positive (sub_nonneg.mpr forward)
  simp only [refill, mk.injEq, and_true]
  rw [← min_add_add_right, ← min_assoc, min_eq_left (le_add_of_nonneg_right flows)]
  congr 1
  ring

theorem take_refill : ((bucket.take capacity rate time).refill capacity rate time).level =
    (bucket.refill capacity rate time).level - 1 := by
  have below : (bucket.refill capacity rate time).level ≤ capacity := refill_level_le_capacity
  rw [refill, take_level, take_filledAt, sub_self, mul_zero, add_zero, min_eq_right]
  linarith

theorem Serves.upTo (serves : bucket.Serves capacity rate times) (positive : 0 ≤ rate)
    (filled : 0 ≤ bucket.level) (ordered : (bucket.filledAt :: times).Pairwise (· ≤ ·))
    (forward : bucket.filledAt ≤ last) :
    (times.countP (· ≤ last) : 𝕜) ≤ bucket.level + rate * (last - bucket.filledAt) := by
  induction times generalizing bucket with
  | nil => simpa using add_nonneg filled (mul_nonneg positive (sub_nonneg.mpr forward))
  | cons time later ih =>
    obtain ⟨token, rest⟩ := serves
    obtain ⟨_, sorted⟩ := List.pairwise_cons.mp ordered
    by_cases before : time ≤ last
    · have tail := ih rest (by simpa using token) sorted before
      have level := @refill_level_le 𝕜 _ _ capacity rate bucket time
      rw [take_level, take_filledAt] at tail
      rw [List.countP_cons_of_pos (by simpa using before)]
      push_cast
      linarith [mul_sub rate last time, mul_sub rate last bucket.filledAt,
        mul_sub rate time bucket.filledAt]
    · have late : ∀ other ∈ time :: later, last < other := by
        intro other member
        rcases List.mem_cons.mp member with rfl | inLater
        · exact not_le.mp before
        · exact (not_le.mp before).trans_le (List.rel_of_pairwise_cons sorted inLater)
      rw [upTo_zero late]
      simpa using add_nonneg filled (mul_nonneg positive (sub_nonneg.mpr forward))

theorem Serves.rateBounded (serves : bucket.Serves capacity rate times) (positive : 0 ≤ rate)
    (filled : 0 ≤ bucket.level) (fits : bucket.level ≤ capacity)
    (ordered : (bucket.filledAt :: times).Pairwise (· ≤ ·)) : RateBounded capacity rate times := by
  intro first last forward
  have flows : 0 ≤ rate * (last - first) := mul_nonneg positive (sub_nonneg.mpr forward)
  induction times generalizing bucket with
  | nil => simpa [countIn] using add_nonneg (filled.trans fits) flows
  | cons time later ih =>
    obtain ⟨token, rest⟩ := serves
    obtain ⟨_, sorted⟩ := List.pairwise_cons.mp ordered
    have kept : 0 ≤ (bucket.take capacity rate time).level := by simpa using token
    have below : (bucket.refill capacity rate time).level ≤ capacity := refill_level_le_capacity
    by_cases after : first ≤ time
    · by_cases before : time ≤ last
      · have tail := rest.upTo positive kept sorted before
        have count : countIn (time :: later) first last ≤ later.countP (· ≤ last) + 1 := by
          rw [countIn_cons_inside after before]
          exact Nat.succ_le_succ countIn_le_upTo
        have cast : (countIn (time :: later) first last : 𝕜) ≤ later.countP (· ≤ last) + 1 := by
          exact_mod_cast count
        have sooner : rate * (last - time) ≤ rate * (last - first) :=
          mul_le_mul_of_nonneg_left (by linarith) positive
        rw [take_level, take_filledAt] at tail
        linarith
      · have late : ∀ other ∈ time :: later, last < other := by
          intro other member
          rcases List.mem_cons.mp member with rfl | inLater
          · exact not_le.mp before
          · exact (not_le.mp before).trans_le (List.rel_of_pairwise_cons sorted inLater)
        have none : countIn (time :: later) first last = 0 :=
          Nat.le_zero.mp (upTo_zero late ▸ countIn_le_upTo)
        rw [none]
        simpa using add_nonneg (filled.trans fits) flows
    · rw [countIn_cons_outside fun inside => after inside.1]
      exact ih rest kept (by simpa using below.trans (by linarith)) sorted

/-- Since some time at which it was full, no more has left the bucket than what the events took. -/
theorem takeAll_spent (start : 𝕜) (ordered : (start :: times).Pairwise (· ≤ ·)) :
    ∃ since, since ≤ ((full capacity start).takeAll capacity rate times).filledAt ∧
      capacity + rate * (((full capacity start).takeAll capacity rate times).filledAt - since) -
          ((full capacity start).takeAll capacity rate times).level ≤
        countIn times since ((full capacity start).takeAll capacity rate times).filledAt := by
  induction times using List.reverseRecOn with
  | nil => exact ⟨start, le_rfl, by simp [takeAll, full, countIn]⟩
  | append_singleton times time ih =>
    have forward := @takeAll_filledAt_le 𝕜 _ _ capacity rate (full capacity start) times time
      ordered
    rw [← List.cons_append, List.pairwise_append] at ordered
    obtain ⟨since, sooner, spent⟩ := ih ordered.1
    set bucket := (full capacity start).takeAll capacity rate times with isBucket
    rw [takeAll_concat, ← isBucket, take_level, take_filledAt]
    rcases le_total capacity (bucket.level + rate * (time - bucket.filledAt)) with capped | grown
    · refine ⟨time, le_rfl, ?_⟩
      rw [countIn_concat_inside le_rfl le_rfl, refill, min_eq_left capped]
      push_cast
      have some : (0 : 𝕜) ≤ countIn times time time := Nat.cast_nonneg _
      linarith [mul_sub rate time time]
    · refine ⟨since, sooner.trans forward, ?_⟩
      have wider : countIn times since bucket.filledAt ≤ countIn times since time :=
        countIn_mono le_rfl forward
      have cast : (countIn times since bucket.filledAt : 𝕜) ≤ countIn times since time := by
        exact_mod_cast wider
      rw [countIn_concat_inside (sooner.trans forward) le_rfl, refill, min_eq_right grown]
      push_cast
      linarith [mul_sub rate time since, mul_sub rate time bucket.filledAt,
        mul_sub rate bucket.filledAt since]

theorem serves_of_rateBounded (start : 𝕜) (ordered : (start :: times).Pairwise (· ≤ ·))
    (bounded : RateBounded capacity rate times) :
    (full capacity start).Serves capacity rate times := by
  induction times using List.reverseRecOn with
  | nil => trivial
  | append_singleton times time ih =>
    have sorted := ordered
    rw [← List.cons_append, List.pairwise_append] at sorted
    have earlier : RateBounded capacity rate times := by
      intro first last forward
      have fewer : (countIn times first last : 𝕜) ≤ countIn (times ++ [time]) first last := by
        exact_mod_cast countIn_concat_le
      exact fewer.trans (bounded first last forward)
    refine serves_concat.mpr ⟨ih sorted.1 earlier, ?_⟩
    obtain ⟨since, sooner, spent⟩ :=
      @takeAll_spent 𝕜 _ _ _ capacity rate times start sorted.1
    set bucket := (full capacity start).takeAll capacity rate times
    have forward : bucket.filledAt ≤ time := takeAll_filledAt_le ordered
    by_contra short
    rw [not_le] at short
    rcases le_total capacity (bucket.level + rate * (time - bucket.filledAt)) with capped | grown
    · have now := bounded time time le_rfl
      rw [countIn_concat_inside le_rfl le_rfl] at now
      rw [refill, min_eq_left capped] at short
      have some : (0 : 𝕜) ≤ countIn times time time := Nat.cast_nonneg _
      push_cast at now
      linarith [mul_sub rate time time]
    · have all := bounded since time (sooner.trans forward)
      rw [countIn_concat_inside (sooner.trans forward) le_rfl] at all
      rw [refill, min_eq_right grown] at short
      have wider : countIn times since bucket.filledAt ≤ countIn times since time :=
        countIn_mono le_rfl forward
      have cast : (countIn times since bucket.filledAt : 𝕜) ≤ countIn times since time := by
        exact_mod_cast wider
      push_cast at all
      linarith [mul_sub rate time since, mul_sub rate time bucket.filledAt,
        mul_sub rate bucket.filledAt since]

theorem serves_iff_rateBounded (start : 𝕜) (positive : 0 ≤ rate) (roomy : 0 ≤ capacity)
    (ordered : (start :: times).Pairwise (· ≤ ·)) :
    (full capacity start).Serves capacity rate times ↔ RateBounded capacity rate times :=
  ⟨fun serves => serves.rateBounded positive roomy le_rfl ordered,
    serves_of_rateBounded start ordered⟩

end

end Bucket

end StoryEngine.Data
