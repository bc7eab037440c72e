import Mathlib.Algebra.Order.Field.Basic
import Mathlib.Data.List.Chain
import Mathlib.Tactic.Linarith
import Mathlib.Tactic.LinearCombination
import Mathlib.Tactic.Ring

namespace StoryEngine.Data

/-! # Isotonic regression

Adjacent violators are pooled from the back until the levels of the blocks are in order.
The level of a block balances its points and lies at or above every suffix of them, which
certifies that no nondecreasing sequence comes closer to the points.
-/

universe u v

section Pooling

variable {β : Type u} {α : Type v} (inOrder : β → β → Bool) (pool : β → β → β)

/-- A block is put on a stack, whose last block is first, and merged backwards while the
two last blocks are out of order. -/
def mergeBack : β → List β → List β
  | last, [] => [last]
  | last, previous :: below =>
    if inOrder previous last then last :: previous :: below
    else mergeBack (pool previous last) below

def poolAdjacent (blocks : List β) : List β :=
  (blocks.foldl (fun stack block => mergeBack inOrder pool block stack) []).reverse

def Covers (Stands : β → List α → Prop) (stack : List β) (items : List α) : Prop :=
  ∃ segments, List.Forall₂ Stands stack segments ∧ segments.reverse.flatten = items

variable {inOrder pool} {Stands : β → List α → Prop}

theorem mergeBack_covers
    (pooled : ∀ {previous last segment later}, Stands previous segment → Stands last later →
      inOrder previous last = false → Stands (pool previous last) (segment ++ later))
    {stack : List β} {items : List α} (covered : Covers Stands stack items) {last : β}
    {later : List α} (stands : Stands last later) :
    Covers Stands (mergeBack inOrder pool last stack) (items ++ later) := by
  induction stack generalizing last later items with
  | nil =>
    obtain ⟨segments, each, rfl⟩ := covered
    cases each
    exact ⟨[later], .cons stands .nil, by simp⟩
  | cons previous below ih =>
    obtain ⟨segments, each, rfl⟩ := covered
    cases each with
    | @cons _ segment _ rest first others =>
      rw [mergeBack]
      cases ordered : inOrder previous last with
      | true => exact ⟨later :: segment :: rest, .cons stands (.cons first others), by simp⟩
      | false =>
        have merged := ih ⟨rest, others, rfl⟩ (pooled first stands ordered)
        simpa using merged

theorem mergeBack_chain {stack : List β} (last : β)
    (ordered : stack.IsChain fun later earlier => inOrder earlier later = true) :
    (mergeBack inOrder pool last stack).IsChain fun later earlier =>
      inOrder earlier later = true := by
  induction stack generalizing last with
  | nil => exact .singleton last
  | cons previous below ih =>
    rw [mergeBack]
    split
    · next first => exact .cons_cons first ordered
    · exact ih (pool previous last) ordered.tail

theorem poolAdjacent_covers
    (pooled : ∀ {previous last segment later}, Stands previous segment → Stands last later →
      inOrder previous last = false → Stands (pool previous last) (segment ++ later))
    {blocks : List β} {segments : List (List α)} (each : List.Forall₂ Stands blocks segments) :
    ∃ larger, List.Forall₂ Stands (poolAdjacent inOrder pool blocks) larger ∧
      larger.flatten = segments.flatten := by
  have folded : ∀ {stack : List β} {items : List α}, Covers Stands stack items →
      Covers Stands (blocks.foldl (fun stack block => mergeBack inOrder pool block stack) stack)
        (items ++ segments.flatten) := by
    induction each with
    | nil => simp
    | cons stands _ ih =>
      intro stack items covered
      have next := ih (mergeBack_covers pooled covered stands)
      simpa using next
  have nothing : Covers Stands ([] : List β) ([] : List α) := ⟨[], .nil, rfl⟩
  obtain ⟨larger, stands, same⟩ := folded nothing
  refine ⟨larger.reverse, List.forall₂_reverse_iff.mpr stands, by simpa using same⟩

theorem poolAdjacent_chain (blocks : List β) :
    (poolAdjacent inOrder pool blocks).IsChain fun earlier later =>
      inOrder earlier later = true := by
  rw [poolAdjacent, List.isChain_reverse]
  have folded : ∀ stack : List β,
      (stack.IsChain fun later earlier => inOrder earlier later = true) →
      (blocks.foldl (fun stack block => mergeBack inOrder pool block stack) stack).IsChain
        fun later earlier => inOrder earlier later = true := by
    induction blocks with
    | nil => exact fun _ ordered => ordered
    | cons block rest ih => exact fun stack ordered => ih _ (mergeBack_chain block ordered)
  exact folded [] .nil

end Pooling

section Levels

variable (K : Type u) [Field K] [LinearOrder K]

structure WeightedPoint where
  value : K
  weight : K
  positive : 0 < weight

variable {K}

def totalWeight (points : List (WeightedPoint K)) : K := (points.map (·.weight)).sum

def excess (level : K) (points : List (WeightedPoint K)) : K :=
  (points.map fun point => point.weight * (level - point.value)).sum

/-- The level is the mean of the points, and no suffix of them lies above it. -/
structure Level (level : K) (points : List (WeightedPoint K)) : Prop where
  balanced : excess level points = 0
  above : ∀ later, later <:+ points → 0 ≤ excess level later

@[simp] theorem totalWeight_nil : totalWeight ([] : List (WeightedPoint K)) = 0 := rfl

@[simp] theorem totalWeight_cons (point : WeightedPoint K) (rest : List (WeightedPoint K)) :
    totalWeight (point :: rest) = point.weight + totalWeight rest := by
  simp [totalWeight]

@[simp] theorem totalWeight_append (points later : List (WeightedPoint K)) :
    totalWeight (points ++ later) = totalWeight points + totalWeight later := by
  simp [totalWeight]

@[simp] theorem excess_nil (level : K) : excess level [] = 0 := rfl

@[simp] theorem excess_cons (level : K) (point : WeightedPoint K)
    (rest : List (WeightedPoint K)) :
    excess level (point :: rest) = point.weight * (level - point.value) + excess level rest := by
  simp [excess]

@[simp] theorem excess_append (level : K) (points later : List (WeightedPoint K)) :
    excess level (points ++ later) = excess level points + excess level later := by
  simp [excess]

theorem excess_moved (level base : K) (points : List (WeightedPoint K)) :
    excess level points = excess base points + (level - base) * totalWeight points := by
  induction points with
  | nil => simp
  | cons point rest ih =>
    rw [excess_cons, excess_cons, totalWeight_cons, ih]
    ring

theorem Level.single (point : WeightedPoint K) : Level point.value [point] := by
  have balanced : excess point.value [point] = 0 := by simp
  refine ⟨balanced, fun later suffix => ?_⟩
  rcases List.suffix_cons_iff.mp suffix with rfl | short
  · exact balanced.ge
  · rw [List.eq_nil_of_suffix_nil short, excess_nil]

variable [IsStrictOrderedRing K]

theorem totalWeight_nonneg (points : List (WeightedPoint K)) : 0 ≤ totalWeight points := by
  induction points with
  | nil => exact le_rfl
  | cons point rest ih =>
    rw [totalWeight_cons]
    exact add_nonneg point.positive.le ih

variable {points : List (WeightedPoint K)} {level : K}

theorem totalWeight_pos (occupied : points ≠ []) :
    0 < totalWeight points := by
  cases points with
  | nil => exact absurd rfl occupied
  | cons point rest =>
    rw [totalWeight_cons]
    exact add_pos_of_pos_of_nonneg point.positive (totalWeight_nonneg rest)

theorem excess_pos (occupied : points ≠ [])
    (below : ∀ point ∈ points, point.value < level) : 0 < excess level points := by
  induction points with
  | nil => exact absurd rfl occupied
  | cons point rest ih =>
    obtain ⟨first, others⟩ := List.forall_mem_cons.mp below
    have term := mul_pos point.positive (sub_pos.mpr first)
    rw [excess_cons]
    cases rest with
    | nil => simpa using term
    | cons next later => exact add_pos term (ih (List.cons_ne_nil next later) others)

theorem excess_neg (occupied : points ≠ [])
    (above : ∀ point ∈ points, level < point.value) : excess level points < 0 := by
  induction points with
  | nil => exact absurd rfl occupied
  | cons point rest ih =>
    obtain ⟨first, others⟩ := List.forall_mem_cons.mp above
    have term := mul_neg_of_pos_of_neg point.positive (sub_neg.mpr first)
    rw [excess_cons]
    cases rest with
    | nil => simpa using term
    | cons next later => exact add_neg term (ih (List.cons_ne_nil next later) others)

theorem Level.between {low high : K}
    (occupied : points ≠ []) (balance : Level level points)
    (within : ∀ point ∈ points, low ≤ point.value ∧ point.value ≤ high) :
    low ≤ level ∧ level ≤ high := by
  constructor
  · by_contra beneath
    have negative := excess_neg occupied fun point member =>
      lt_of_lt_of_le (not_le.mp beneath) (within point member).1
    exact absurd balance.balanced negative.ne
  · by_contra beyond
    have positive := excess_pos occupied fun point member =>
      lt_of_le_of_lt (within point member).2 (not_le.mp beyond)
    exact absurd balance.balanced positive.ne'

/-- The weighted mean of two levels that are out of order is the level of their points
together. -/
theorem Level.pool {high low mean : K} {later : List (WeightedPoint K)}
    (first : Level high points) (second : Level low later) (outOfOrder : low < high)
    (meets : mean * (totalWeight points + totalWeight later) =
      high * totalWeight points + low * totalWeight later)
    (weighs : 0 < totalWeight points + totalWeight later) :
    Level mean (points ++ later) := by
  have share : (mean - low) * totalWeight later = (high - mean) * totalWeight points := by
    linear_combination meets
  have belowHigh : mean ≤ high := by
    refine le_of_mul_le_mul_right ?_ weighs
    rw [meets, mul_add]
    have lighter := mul_le_mul_of_nonneg_right outOfOrder.le (totalWeight_nonneg later)
    linarith
  have aboveLow : low ≤ mean := by
    refine le_of_mul_le_mul_right ?_ weighs
    rw [meets, mul_add]
    have heavier := mul_le_mul_of_nonneg_right outOfOrder.le (totalWeight_nonneg points)
    linarith
  have lastPart : excess mean later = (mean - low) * totalWeight later := by
    rw [excess_moved mean low, second.balanced, zero_add]
  refine ⟨?_, fun suffix within => ?_⟩
  · rw [excess_append, excess_moved mean high, first.balanced, lastPart, share]
    ring
  · rcases List.suffix_or_suffix_of_suffix within (List.suffix_append points later) with
      inLast | beyondLast
    · rw [excess_moved mean low]
      exact add_nonneg (second.above suffix inLast)
        (mul_nonneg (sub_nonneg.mpr aboveLow) (totalWeight_nonneg suffix))
    · obtain ⟨start, rfl⟩ := beyondLast
      obtain ⟨before, parts⟩ := within
      rw [← List.append_assoc] at parts
      have split : before ++ start = points := List.append_cancel_right parts
      have atStart := first.above start ⟨before, split⟩
      have notHeavier : totalWeight start ≤ totalWeight points := by
        rw [← split, totalWeight_append]
        exact le_add_of_nonneg_left (totalWeight_nonneg before)
      have drop := mul_le_mul_of_nonneg_left notHeavier (sub_nonneg.mpr belowHigh)
      rw [excess_append, excess_moved mean high start, lastPart, share]
      linarith

end Levels

section Distance

variable {K : Type u} [Field K] [LinearOrder K]

def distance (points : List (WeightedPoint K)) (values : List K) : K :=
  (List.zipWith (fun point value => point.weight * (value - point.value) ^ 2) points values).sum

def scaledExcess (level : K) (points : List (WeightedPoint K)) (values : List K) : K :=
  (List.zipWith (fun point value => point.weight * (level - point.value) * value) points
    values).sum

variable {points : List (WeightedPoint K)} {values : List K}

theorem distance_append {later : List (WeightedPoint K)} {others : List K}
    (same : values.length = points.length) :
    distance (points ++ later) (values ++ others) = distance points values + distance later others := by
  rw [distance, List.zipWith_append same.symm, List.sum_append]
  rfl

variable [IsStrictOrderedRing K]

theorem floor_le_scaledExcess {level floor : K}
    (above : ∀ later, later <:+ points → 0 ≤ excess level later)
    (ordered : values.Pairwise (· ≤ ·)) (same : values.length = points.length)
    (bounded : ∀ value ∈ values, floor ≤ value) :
    floor * excess level points ≤ scaledExcess level points values := by
  induction points generalizing floor values with
  | nil => simp [scaledExcess]
  | cons point rest ih =>
    cases values with
    | nil => cases same
    | cons value others =>
      obtain ⟨least, orderedRest⟩ := List.pairwise_cons.mp ordered
      have fromValue := ih (fun later suffix => above later (suffix.trans (List.suffix_cons _ _)))
        orderedRest (Nat.succ.inj same) least
      have whole := mul_le_mul_of_nonneg_right (bounded value List.mem_cons_self)
        (above _ List.suffix_rfl)
      have split : scaledExcess level (point :: rest) (value :: others) =
          point.weight * (level - point.value) * value + scaledExcess level rest others := by
        simp [scaledExcess]
      rw [split]
      rw [excess_cons] at whole ⊢
      linarith

theorem distance_level_le (level : K)
    (same : values.length = points.length) :
    distance points (List.replicate points.length level) +
        2 * (scaledExcess level points values - level * excess level points) ≤
      distance points values := by
  induction points generalizing values with
  | nil => simp [distance, scaledExcess]
  | cons point rest ih =>
    cases values with
    | nil => cases same
    | cons value others =>
      have later := ih (Nat.succ.inj same)
      have square := mul_nonneg point.positive.le (sq_nonneg (value - level))
      simp only [distance, scaledExcess, List.length_cons, List.replicate_succ,
        List.zipWith_cons_cons, List.sum_cons, excess_cons] at later ⊢
      linarith

theorem Level.distance_le {level : K} (balance : Level level points)
    (ordered : values.Pairwise (· ≤ ·)) (same : values.length = points.length) :
    distance points (List.replicate points.length level) ≤ distance points values := by
  have closer := distance_level_le level same
  rw [balance.balanced, mul_zero, sub_zero] at closer
  cases values with
  | nil =>
    rw [List.eq_nil_of_length_eq_zero same.symm]
    exact le_rfl
  | cons first rest =>
    have least : ∀ value ∈ first :: rest, first ≤ value := by
      intro value member
      rcases List.mem_cons.mp member with rfl | inRest
      · exact le_rfl
      · exact (List.pairwise_cons.mp ordered).1 value inRest
    have parts := floor_le_scaledExcess balance.above ordered same least
    rw [balance.balanced, mul_zero] at parts
    linarith

theorem distance_levels_le {levels : List K} {segments : List (List (WeightedPoint K))}
    (balanced : List.Forall₂ Level levels segments)
    (ordered : values.Pairwise (· ≤ ·)) (same : values.length = segments.flatten.length) :
    distance segments.flatten
        (List.zipWith (fun level segment => List.replicate segment.length level) levels
          segments).flatten ≤
      distance segments.flatten values := by
  induction balanced generalizing values with
  | nil =>
    rw [List.eq_nil_of_length_eq_zero same]
    exact le_rfl
  | @cons level segment levels segments first _ ih =>
    rw [List.flatten_cons, List.length_append] at same
    obtain ⟨front, back, rfl, sameFront⟩ :
        ∃ front back, values = front ++ back ∧ front.length = segment.length :=
      ⟨values.take segment.length, values.drop segment.length, (List.take_append_drop _ _).symm,
        by rw [List.length_take]; omega⟩
    rw [List.length_append] at same
    obtain ⟨orderedFront, orderedBack, _⟩ := List.pairwise_append.mp ordered
    have atFront := first.distance_le orderedFront sameFront
    have atBack := ih orderedBack (by omega)
    rw [List.zipWith_cons_cons, List.flatten_cons, List.flatten_cons,
      distance_append List.length_replicate, distance_append sameFront]
    exact add_le_add atFront atBack

end Distance

end StoryEngine.Data
