import StoryEngine.Tagging.Calibrator

namespace StoryEngine.Tagging

open Data Schema

/-! # The isotonic fit

The grouping loop ends when every confidence is finite, since a confidence is close to itself
then, and the pooled blocks are the closest nondecreasing sequence to the accuracies.
-/

theorem withinHundredth_self {o : Observation} {value : ℚ} (finite : o.rawConfidence = .finite value) :
    withinHundredth o o = true := by
  simp [withinHundredth, finite]

theorem withinHundredth_nan {first o : Observation} (nan : first.rawConfidence = .nan ∨ o.rawConfidence = .nan) :
    withinHundredth first o = false := by
  rcases nan with atFirst | here
  · simp [withinHundredth, atFirst]
  · simp [withinHundredth, here, JsNumber.sub, JsNumber.add]

theorem groupingTurn_cons {first : Observation} {rest : List Observation} (groups : List Group) :
    groupingTurn { remaining := first :: rest, groups } =
      { remaining := (first :: rest).dropWhile (withinHundredth first)
        groups := groups ++ [groupOf ((first :: rest).takeWhile (withinHundredth first))] } := by
  have behind : (first :: rest).drop ((first :: rest).takeWhile (withinHundredth first)).length =
      (first :: rest).dropWhile (withinHundredth first) := by
    calc (first :: rest).drop ((first :: rest).takeWhile (withinHundredth first)).length
        = ((first :: rest).takeWhile (withinHundredth first) ++
            (first :: rest).dropWhile (withinHundredth first)).drop
              ((first :: rest).takeWhile (withinHundredth first)).length := by
          rw [List.takeWhile_append_dropWhile]
      _ = (first :: rest).dropWhile (withinHundredth first) := List.drop_left
  simp only [groupingTurn, behind]

theorem groupingTurn_done (turns : Nat) (groups : List Group) :
    groupingTurn^[turns] { remaining := [], groups } = { remaining := [], groups } :=
  Function.iterate_fixed rfl turns

/-- Slices as the loop cuts them: up to the first confidence that is not close to the first of
the slice. -/
inductive Clustered : List (List Observation) → Prop where
  | nil : Clustered []
  | cons {first : Observation} {close : List Observation} {later : List (List Observation)}
      (within : ∀ o ∈ first :: close, withinHundredth first o = true)
      (apart : ∀ o ∈ later.flatten.head?, withinHundredth first o = false)
      (rest : Clustered later) : Clustered ((first :: close) :: later)

theorem Clustered.occupied {slices : List (List Observation)} (clustered : Clustered slices) :
    ∀ slice ∈ slices, slice ≠ [] := by
  induction clustered with
  | nil => exact nofun
  | cons _ _ _ ih => exact List.forall_mem_cons.mpr ⟨List.cons_ne_nil _ _, ih⟩

theorem groupingTurn_iterate {turns : Nat} {remaining : List Observation} (groups : List Group)
    (finite : ∀ o ∈ remaining, ∃ value, o.rawConfidence = .finite value)
    (enough : remaining.length ≤ turns) :
    ∃ slices : List (List Observation), Clustered slices ∧ slices.flatten = remaining ∧
      groupingTurn^[turns] { remaining, groups } =
        { remaining := [], groups := groups ++ slices.map groupOf } := by
  induction turns generalizing remaining groups with
  | zero =>
    have empty := List.eq_nil_of_length_eq_zero (Nat.le_zero.mp enough)
    subst empty
    exact ⟨[], .nil, rfl, by simp⟩
  | succ turns ih =>
    cases remaining with
    | nil => exact ⟨[], .nil, rfl, by simp [groupingTurn_done]⟩
    | cons first rest =>
      obtain ⟨value, atFirst⟩ := finite first List.mem_cons_self
      have own := withinHundredth_self atFirst
      have slice : (first :: rest).takeWhile (withinHundredth first) =
          first :: rest.takeWhile (withinHundredth first) := by simp [own]
      have behind : (first :: rest).dropWhile (withinHundredth first) =
          rest.dropWhile (withinHundredth first) := by simp [own]
      have shorter := List.length_dropWhile_le (withinHundredth first) rest
      have fewer : (rest.dropWhile (withinHundredth first)).length ≤ turns := by
        rw [List.length_cons] at enough
        omega
      obtain ⟨slices, clustered, parts, reached⟩ :=
        ih (groups ++ [groupOf (first :: rest.takeWhile (withinHundredth first))])
          (fun o member => finite o (List.mem_cons_of_mem _ (List.dropWhile_sublist _ |>.mem member)))
          fewer
      refine ⟨(first :: rest.takeWhile (withinHundredth first)) :: slices, ?_, ?_, ?_⟩
      · refine .cons ?_ ?_ clustered
        · rw [← slice]
          intro o member
          exact List.mem_takeWhile_imp member
        · rw [parts]
          intro o isNext
          have apart := List.head?_dropWhile_not (withinHundredth first) rest
          rw [Option.mem_def.mp isNext] at apart
          exact apart
      · rw [List.flatten_cons, parts, List.cons_append, List.takeWhile_append_dropWhile]
      · rw [Function.iterate_succ_apply, groupingTurn_cons, slice, behind, reached]
        simp

theorem groupingTurn_nan_stays {grouping : Grouping} {o : Observation}
    (nan : o.rawConfidence = .nan) (member : o ∈ grouping.remaining) :
    o ∈ (groupingTurn grouping).remaining := by
  obtain ⟨remaining, groups⟩ := grouping
  cases remaining with
  | nil => cases member
  | cons first rest =>
    rw [groupingTurn_cons]
    have parts : (first :: rest).takeWhile (withinHundredth first) ++
        (first :: rest).dropWhile (withinHundredth first) = first :: rest :=
      List.takeWhile_append_dropWhile
    rcases List.mem_append.mp (parts ▸ member) with inSlice | behind
    · have close := List.mem_takeWhile_imp inSlice
      rw [withinHundredth_nan (.inr nan)] at close
      cases close
    · exact behind

theorem groupingEnds_of_finite {sorted : List Observation}
    (finite : ∀ o ∈ sorted, ∃ value, o.rawConfidence = .finite value) : GroupingEnds sorted := by
  obtain ⟨_, _, _, reached⟩ := groupingTurn_iterate [] finite le_rfl
  exact ⟨sorted.length, by rw [reached]⟩

theorem GroupingEnds.no_nan {sorted : List Observation} (ends : GroupingEnds sorted) :
    ∀ o ∈ sorted, o.rawConfidence ≠ .nan := by
  intro o member nan
  obtain ⟨turns, reached⟩ := ends
  have stays : o ∈ (groupingTurn^[turns] { remaining := sorted }).remaining := by
    clear reached
    induction turns with
    | zero => exact member
    | succ turns ih =>
      rw [Function.iterate_succ_apply']
      exact groupingTurn_nan_stays nan ih
  rw [reached] at stays
  cases stays

theorem groupObservations_of_finite {sorted : List Observation}
    (finite : ∀ o ∈ sorted, ∃ value, o.rawConfidence = .finite value) :
    ∃ slices : List (List Observation), Clustered slices ∧ slices.flatten = sorted ∧
      groupObservations sorted = some (slices.map groupOf) := by
  obtain ⟨slices, clustered, parts, reached⟩ := groupingTurn_iterate [] finite le_rfl
  exact ⟨slices, clustered, parts, by simp [groupObservations, reached]⟩

/-- The share of the observations that are correct. -/
def accuracyOf (slice : List Observation) : ℚ := (slice.filter (·.isCorrect)).length / slice.length

theorem groupOf_value {slice : List Observation} (occupied : slice ≠ []) :
    (groupOf slice).value = .finite (accuracyOf slice) := by
  have positive : (0 : ℚ) < slice.length := by exact_mod_cast List.length_pos_iff.mpr occupied
  simp only [groupOf, JsNumber.ofNat]
  exact JsNumber.div_finite _ positive.ne'

/-- A group weighs as much as a point, at the point's value. -/
structure Group.Weighs (group : Group) (point : WeightedPoint ℚ) : Prop where
  value : group.value = .finite point.value
  weight : (group.weight : ℚ) = point.weight

theorem groupOf_weighs {slice : List Observation} (occupied : slice ≠ []) :
    ∃ point, (groupOf slice).Weighs point := by
  have positive : (0 : ℚ) < slice.length := by exact_mod_cast List.length_pos_iff.mpr occupied
  exact ⟨⟨accuracyOf slice, slice.length, positive⟩, groupOf_value occupied, rfl⟩

theorem groupsOf_weigh {slices : List (List Observation)} (occupied : ∀ slice ∈ slices, slice ≠ []) :
    ∃ points, List.Forall₂ Group.Weighs (slices.map groupOf) points := by
  induction slices with
  | nil => exact ⟨[], .nil⟩
  | cons slice rest ih =>
    obtain ⟨first, others⟩ := List.forall_mem_cons.mp occupied
    obtain ⟨point, weighs⟩ := groupOf_weighs first
    obtain ⟨points, weigh⟩ := ih others
    exact ⟨point :: points, .cons weighs weigh⟩

/-- A block stands for the points from its first index to its last, at their level. -/
structure Block.Stands (block : Block) (segment : List (WeightedPoint ℚ × Nat)) : Prop where
  level : ∃ level, block.value = .finite level ∧ Level level (segment.map (·.1))
  weight : (block.weight : ℚ) = totalWeight (segment.map (·.1))
  first : ∃ point rest, segment = (point, block.startIdx) :: rest
  last : ∃ before point, segment = before ++ [(point, block.endIdx)]

theorem Block.Stands.weight_pos {block : Block} {segment : List (WeightedPoint ℚ × Nat)}
    (stands : block.Stands segment) : (0 : ℚ) < block.weight := by
  obtain ⟨point, rest, rfl⟩ := stands.first
  rw [stands.weight]
  exact totalWeight_pos (List.cons_ne_nil _ _)

theorem groupBlock_stands {group : Group} {point : WeightedPoint ℚ} (weighs : group.Weighs point)
    (g : Nat) : (groupBlock group g).Stands [(point, g)] where
  level := ⟨point.value, weighs.value, .single point⟩
  weight := by simpa [groupBlock, totalWeight] using weighs.weight
  first := ⟨point, [], rfl⟩
  last := ⟨[], point, rfl⟩

theorem Block.Stands.pool {previous last : Block} {segment later : List (WeightedPoint ℚ × Nat)}
    (before : previous.Stands segment) (behind : last.Stands later)
    (outOfOrder : previous.inOrder last = false) :
    (previous.pool last).Stands (segment ++ later) := by
  obtain ⟨high, atHigh, first⟩ := before.level
  obtain ⟨low, atLow, second⟩ := behind.level
  have falls : low < high := by
    simpa [Block.inOrder, atHigh, atLow] using outOfOrder
  have weighs : (0 : ℚ) < previous.weight + last.weight :=
    add_pos before.weight_pos behind.weight_pos
  refine ⟨⟨(high * previous.weight + low * last.weight) / (previous.weight + last.weight), ?_, ?_⟩,
    ?_, ?_, ?_⟩
  · simp only [Block.pool, atHigh, atLow, JsNumber.ofNat, JsNumber.mul_finite, JsNumber.add_finite,
      Nat.cast_add]
    exact JsNumber.div_finite _ weighs.ne'
  · rw [List.map_append]
    refine first.pool second falls ?_ ?_
    · rw [← before.weight, ← behind.weight, div_mul_cancel₀ _ weighs.ne']
    · rwa [← before.weight, ← behind.weight]
  · rw [List.map_append, totalWeight_append, ← before.weight, ← behind.weight]
    exact Nat.cast_add _ _
  · obtain ⟨point, rest, rfl⟩ := before.first
    exact ⟨point, rest ++ later, rfl⟩
  · obtain ⟨start, point, rfl⟩ := behind.last
    exact ⟨segment ++ start, point, by rw [List.append_assoc]; rfl⟩

theorem groupBlocks_stand {groups : List Group} {points : List (WeightedPoint ℚ)}
    (weigh : List.Forall₂ Group.Weighs groups points) (start : Nat) :
    List.Forall₂ Block.Stands ((groups.zipIdx start).map fun (group, g) => groupBlock group g)
      ((points.zipIdx start).map fun item => [item]) := by
  induction weigh generalizing start with
  | nil => exact .nil
  | cons weighs _ ih => exact .cons (groupBlock_stands weighs start) (ih (start + 1))

theorem pooledBlocks_stand {groups : List Group} {points : List (WeightedPoint ℚ)}
    (weigh : List.Forall₂ Group.Weighs groups points) :
    ∃ segments, List.Forall₂ Block.Stands (pooledBlocks groups) segments ∧
      segments.flatten = points.zipIdx := by
  obtain ⟨segments, stand, same⟩ := poolAdjacent_covers Block.Stands.pool (groupBlocks_stand weigh 0)
  refine ⟨segments, stand, same.trans ?_⟩
  rw [← List.flatMap_def]
  exact List.flatMap_pure_eq_map _ _ |>.trans (List.map_id _)

def groupValues (blocks : List Block) : List JsNumber :=
  blocks.flatMap fun block => List.replicate (block.endIdx + 1 - block.startIdx) block.value

theorem index_eq {items : List (WeightedPoint ℚ)} {before after : List (WeightedPoint ℚ × Nat)}
    {item : WeightedPoint ℚ × Nat} (parts : before ++ item :: after = items.zipIdx) :
    item.2 = before.length := by
  have here := congrArg (fun list => list[before.length]?) parts
  simp only [List.getElem?_append_right le_rfl, Nat.sub_self, List.getElem?_cons_zero,
    List.getElem?_zipIdx, Option.map_eq_some_iff, eq_comm (a := some item), Nat.zero_add] at here
  obtain ⟨_, _, rfl⟩ := here
  rfl

theorem Block.Stands.indices {block : Block} {before after segment : List (WeightedPoint ℚ × Nat)}
    {items : List (WeightedPoint ℚ)} (stands : block.Stands segment)
    (parts : before ++ (segment ++ after) = items.zipIdx) :
    block.startIdx = before.length ∧ block.endIdx + 1 = before.length + segment.length ∧
      0 < segment.length := by
  obtain ⟨point, rest, atFirst⟩ := stands.first
  obtain ⟨start, final, atLast⟩ := stands.last
  have first : block.startIdx = before.length := by
    rw [atFirst, List.cons_append] at parts
    exact index_eq parts
  have last : block.endIdx = (before ++ start).length := by
    rw [atLast, List.append_assoc, ← List.append_assoc before] at parts
    exact index_eq parts
  rw [last, atLast, List.length_append, List.length_append, List.length_singleton]
  refine ⟨first, ?_, ?_⟩
  · omega
  · omega

theorem Block.Stands.width {block : Block} {before after segment : List (WeightedPoint ℚ × Nat)}
    {items : List (WeightedPoint ℚ)} (stands : block.Stands segment)
    (parts : before ++ (segment ++ after) = items.zipIdx) :
    block.endIdx + 1 - block.startIdx = segment.length := by
  obtain ⟨first, last, _⟩ := stands.indices parts
  omega

theorem groupValues_levels {blocks : List Block}
    {segments : List (List (WeightedPoint ℚ × Nat))} {items : List (WeightedPoint ℚ)}
    (stand : List.Forall₂ Block.Stands blocks segments)
    {before : List (WeightedPoint ℚ × Nat)} (parts : before ++ segments.flatten = items.zipIdx)
    (ordered : blocks.IsChain fun earlier later => earlier.inOrder later = true) :
    ∃ levels : List ℚ, List.Forall₂ Level levels (segments.map (·.map (·.1))) ∧
      levels.IsChain (· ≤ ·) ∧
      groupValues blocks = (List.zipWith (fun level segment => List.replicate segment.length level)
        levels (segments.map (·.map (·.1)))).flatten.map .finite ∧
      ∀ block rest, blocks = block :: rest → ∃ level later, levels = level :: later ∧
        block.value = .finite level := by
  induction stand generalizing before with
  | nil => exact ⟨[], .nil, .nil, rfl, nofun⟩
  | @cons block segment blocks segments stands others ih =>
    obtain ⟨level, atLevel, balance⟩ := stands.level
    rw [List.flatten_cons] at parts
    have width := stands.width parts
    obtain ⟨levels, balanced, chain, values, head⟩ :=
      ih (by rw [List.append_assoc]; exact parts) ordered.tail
    refine ⟨level :: levels, .cons balance balanced, ?_, ?_, ?_⟩
    · cases blocks with
      | nil =>
        cases others
        cases balanced
        exact .singleton level
      | cons next rest =>
        obtain ⟨nextLevel, later, rfl, atNext⟩ := head next rest rfl
        have rises := (List.isChain_cons_cons.mp ordered).1
        rw [Block.inOrder, atLevel, atNext, JsNumber.le_finite] at rises
        exact .cons_cons (of_decide_eq_true rises) chain
    · rw [groupValues, List.flatMap_cons, width, atLevel, List.map_cons, List.zipWith_cons_cons,
        List.flatten_cons, List.map_append, List.map_replicate, List.length_map]
      exact congrArg _ values
    · rintro first rest ⟨rfl, rfl⟩
      exact ⟨level, levels, rfl, atLevel⟩

theorem replicated_pairwise {levels : List ℚ} (ordered : levels.Pairwise (· ≤ ·))
    {β : Type} (segments : List (List β)) :
    (List.zipWith (fun level (segment : List β) => List.replicate segment.length level) levels
      segments).flatten.Pairwise (· ≤ ·) := by
  induction levels generalizing segments with
  | nil => simp
  | cons level rest ih =>
    cases segments with
    | nil => simp
    | cons segment others =>
      obtain ⟨least, orderedRest⟩ := List.pairwise_cons.mp ordered
      rw [List.zipWith_cons_cons, List.flatten_cons]
      refine List.pairwise_append.mpr ⟨?_, ih orderedRest others, ?_⟩
      · exact List.pairwise_replicate.mpr (.inr le_rfl)
      · intro value here later member
        obtain ⟨_, rfl⟩ := List.mem_replicate.mp here
        obtain ⟨piece, inPieces, inPiece⟩ := List.mem_flatten.mp member
        obtain ⟨index, bound, rfl⟩ := List.mem_iff_getElem.mp inPieces
        rw [List.getElem_zipWith] at inPiece
        obtain ⟨_, rfl⟩ := List.mem_replicate.mp inPiece
        exact least _ (List.getElem_mem _)

theorem replicated_length {levels : List ℚ} {segments : List (List (WeightedPoint ℚ))}
    (balanced : List.Forall₂ Level levels segments) :
    (List.zipWith (fun level (segment : List (WeightedPoint ℚ)) =>
      List.replicate segment.length level) levels segments).flatten.length =
        segments.flatten.length := by
  induction balanced with
  | nil => rfl
  | cons _ _ ih =>
    rw [List.zipWith_cons_cons, List.flatten_cons, List.flatten_cons, List.length_append,
      List.length_append, List.length_replicate, ih]

def weightedDistance (weights : List Nat) (accuracies values : List ℚ) : ℚ :=
  (List.zipWith (fun weighed value => (weighed.1 : ℚ) * (value - weighed.2) ^ 2)
    (weights.zip accuracies) values).sum

theorem weightedDistance_eq {groups : List Group} {points : List (WeightedPoint ℚ)}
    (weigh : List.Forall₂ Group.Weighs groups points) (values : List ℚ) :
    weightedDistance (groups.map (·.weight)) (points.map (·.value)) values =
      distance points values := by
  induction weigh generalizing values with
  | nil => rfl
  | cons weighs _ ih =>
    cases values with
    | nil => rfl
    | cons value rest =>
      have later := ih rest
      simp only [weightedDistance, distance, List.map_cons, List.zip_cons_cons,
        List.zipWith_cons_cons, List.sum_cons, weighs.weight] at later ⊢
      rw [later]

theorem blocks_totalWeight {blocks : List Block}
    {segments : List (List (WeightedPoint ℚ × Nat))}
    (stand : List.Forall₂ Block.Stands blocks segments) :
    (((blocks.map (·.weight)).sum : Nat) : ℚ) = totalWeight (segments.flatten.map (·.1)) := by
  induction stand with
  | nil => rfl
  | cons stands _ ih =>
    rw [List.map_cons, List.sum_cons, List.flatten_cons, List.map_append, totalWeight_append,
      ← stands.weight, ← ih]
    exact Nat.cast_add _ _

theorem groups_values {groups : List Group} {points : List (WeightedPoint ℚ)}
    (weigh : List.Forall₂ Group.Weighs groups points) :
    groups.map (·.value) = (points.map (·.value)).map .finite := by
  induction weigh with
  | nil => rfl
  | cons weighs _ ih => rw [List.map_cons, ih, weighs.value, List.map_cons, List.map_cons]

theorem groups_totalWeight {groups : List Group} {points : List (WeightedPoint ℚ)}
    (weigh : List.Forall₂ Group.Weighs groups points) :
    (((groups.map (·.weight)).sum : Nat) : ℚ) = totalWeight points := by
  induction weigh with
  | nil => rfl
  | cons weighs _ ih =>
    rw [List.map_cons, List.sum_cons, totalWeight_cons, ← weighs.weight, ← ih]
    exact Nat.cast_add _ _

theorem groupOf_values {slices : List (List Observation)} (occupied : ∀ slice ∈ slices, slice ≠ []) :
    (slices.map groupOf).map (·.value) = (slices.map accuracyOf).map .finite := by
  rw [List.map_map, List.map_map]
  exact List.map_congr_left fun slice member => groupOf_value (occupied slice member)

theorem groupOf_weights (slices : List (List Observation)) :
    ((slices.map groupOf).map (·.weight)).sum = slices.flatten.length := by
  rw [List.map_map, List.length_flatten]
  rfl

/-- The pooled blocks, read as one value for each group, are the nondecreasing sequence that
comes closest to the accuracies of the groups. -/
structure IsotonicFit (groups : List Group) (accuracies fitted : List ℚ) : Prop where
  accurate : groups.map (·.value) = accuracies.map .finite
  values : groupValues (pooledBlocks groups) = fitted.map .finite
  width : fitted.length = groups.length
  nondecreasing : fitted.Pairwise (· ≤ ·)
  closest : ∀ values : List ℚ, values.length = groups.length → values.Pairwise (· ≤ ·) →
    weightedDistance (groups.map (·.weight)) accuracies fitted ≤
      weightedDistance (groups.map (·.weight)) accuracies values

/-- The fit is optimal whatever order the observations come in. -/
theorem pooledBlocks_optimal {observations : List Observation}
    (inUnit : ∀ o ∈ observations, o.rawConfidence.InUnit) :
    ∃ (slices : List (List Observation)) (fitted : List ℚ),
      Clustered slices ∧ slices.flatten = observations ∧
      groupObservations observations = some (slices.map groupOf) ∧
      IsotonicFit (slices.map groupOf) (slices.map accuracyOf) fitted ∧
      ((pooledBlocks (slices.map groupOf)).map (·.weight)).sum = observations.length := by
  have finite : ∀ o ∈ observations, ∃ value, o.rawConfidence = .finite value := by
    intro o member
    obtain ⟨value, atValue, _⟩ := inUnit o member
    exact ⟨value, atValue⟩
  obtain ⟨slices, clustered, parts, grouped⟩ := groupObservations_of_finite finite
  obtain ⟨points, weigh⟩ := groupsOf_weigh clustered.occupied
  obtain ⟨segments, stand, covered⟩ := pooledBlocks_stand weigh
  obtain ⟨levels, balanced, chain, values, _⟩ :=
    @groupValues_levels _ _ _ stand [] covered (poolAdjacent_chain _)
  have flat : (segments.map (·.map (·.1))).flatten = points := by
    rw [← List.map_flatten, covered, List.zipIdx_map_fst]
  have count : (slices.map groupOf).length = points.length := weigh.length_eq
  have accurate := groupOf_values clustered.occupied
  have same : points.map (·.value) = slices.map accuracyOf :=
    List.map_injective_iff.mpr (fun _ _ equal => JsNumber.finite.inj equal)
      ((groups_values weigh).symm.trans accurate)
  refine ⟨slices, _, clustered, parts, grouped,
    ⟨accurate, values, ?_, replicated_pairwise chain.pairwise _, ?_⟩, ?_⟩
  · rw [replicated_length balanced, flat, count]
  · intro others sameLength rises
    rw [← same, weightedDistance_eq weigh, weightedDistance_eq weigh]
    have closest := distance_levels_le balanced rises (by rw [flat, sameLength, count])
    rwa [flat] at closest
  · have weights : ((pooledBlocks (slices.map groupOf)).map (·.weight)).sum =
        ((slices.map groupOf).map (·.weight)).sum := by
      have total := blocks_totalWeight stand
      rw [covered, List.zipIdx_map_fst, ← groups_totalWeight weigh] at total
      exact_mod_cast total
    rw [weights, groupOf_weights, parts]

def fallingSample : List Observation :=
  [⟨.finite (1 / 5), true⟩, ⟨.finite (1 / 5), true⟩, ⟨.finite (9 / 10), false⟩,
   ⟨.finite (9 / 10), true⟩]

theorem fallingSample_inUnit : ∀ o ∈ fallingSample, o.rawConfidence.InUnit := by
  intro o member
  simp only [fallingSample, List.mem_cons, List.not_mem_nil, or_false] at member
  rcases member with rfl | rfl | rfl | rfl
  · exact ⟨1 / 5, rfl, by norm_num, by norm_num⟩
  · exact ⟨1 / 5, rfl, by norm_num, by norm_num⟩
  · exact ⟨9 / 10, rfl, by norm_num, by norm_num⟩
  · exact ⟨9 / 10, rfl, by norm_num, by norm_num⟩

theorem fallingSample_fit :
    ∃ (slices : List (List Observation)) (fitted : List ℚ),
      Clustered slices ∧ slices.flatten = fallingSample ∧
      groupObservations fallingSample = some (slices.map groupOf) ∧
      IsotonicFit (slices.map groupOf) (slices.map accuracyOf) fitted ∧
      ((pooledBlocks (slices.map groupOf)).map (·.weight)).sum = fallingSample.length :=
  pooledBlocks_optimal fallingSample_inUnit

/-- The two groups of accuracies 1 and 1/2 are pooled at 3/4. -/
example : (fitIsotonicRegression fallingSample) =
    some [⟨.finite (1 / 5), .finite (3 / 4)⟩] := by decide +kernel

end StoryEngine.Tagging
