import Mathlib.Algebra.Order.BigOperators.Group.List
import StoryEngine.Data.PiecewiseLinear
import StoryEngine.Tagging.IsotonicFit

namespace StoryEngine.Tagging

open Data Schema

/-! # The curve of a calibration

The groups lie a hundredth apart or more from first to first, so that their means rise, and each
block is put at one of its own groups.  So the curve goes to the right, and since the blocks are in
order it does not fall.
-/

/-- An adjustment is read off the curve: at one of its ends, or between two neighbours that do not
lie at the same place. -/
def ReadsCurve (calibrator : ConfidenceCalibrator) (rawConfidence : JsNumber) : Prop :=
  let clamped := JsNumber.max (.finite 0) (JsNumber.min (.finite 1) rawConfidence)
  let adjusted := adjustConfidence calibrator rawConfidence
  calibrator.isCalibrated = true ∧
    ((∃ first ∈ calibrator.calibrationCurve.head?,
        clamped.le first.rawConfidence = true ∧ adjusted = first.empiricalAccuracy) ∨
      (∃ last ∈ calibrator.calibrationCurve.getLast?,
        last.rawConfidence.le clamped = true ∧ adjusted = last.empiricalAccuracy) ∨
      ∃ lo hi, surrounding clamped calibrator.calibrationCurve = some (lo, hi) ∧
        hi.rawConfidence.sub lo.rawConfidence ≠ .finite 0 ∧
          adjusted = interpolate clamped lo hi)

structure MonotoneMap (calibrator : ConfidenceCalibrator) : Prop where
  monotone : ∀ first second : ℚ, first ≤ second →
    (adjustConfidence calibrator (.finite first)).le
      (adjustConfidence calibrator (.finite second)) = true
  inUnit : ∀ value : ℚ, (adjustConfidence calibrator (.finite value)).InUnit
  reads : ∀ value : ℚ, ReadsCurve calibrator (.finite value)

def ofPair (point : ℚ × ℚ) : CalibrationPoint where
  rawConfidence := .finite point.1
  empiricalAccuracy := .finite point.2

section

variable {left : ℚ × ℚ} {rest : List (ℚ × ℚ)} {argument : ℚ}

theorem surrounding_ofPair (rising : (left :: rest).IsChain Rises) (after : left.1 < argument)
    (before : argument < ((left :: rest).getLast (List.cons_ne_nil left rest)).1) :
    ∃ lo hi, surrounding (.finite argument) ((left :: rest).map ofPair) =
        some (ofPair lo, ofPair hi) ∧ Rises lo hi ∧
      lineAt lo hi argument = curveAt argument left rest := by
  induction rest generalizing left with
  | nil => exact absurd (lt_trans after before) (lt_irrefl _)
  | cons right rest ih =>
    obtain ⟨rises, later⟩ := List.isChain_cons_cons.mp rising
    have beyond : (JsNumber.finite left.1).le (.finite argument) = true := decide_eq_true after.le
    rw [curveAt, if_neg (not_le.mpr after), List.map_cons, List.map_cons, surrounding]
    by_cases within : argument ≤ right.1
    · have inside : (JsNumber.finite argument).le (.finite right.1) = true := decide_eq_true within
      refine ⟨left, right, ?_, rises, (if_pos within).symm⟩
      simp only [ofPair, beyond, inside, Bool.and_self, if_true]
    · have outside : (JsNumber.finite argument).le (.finite right.1) = false :=
        decide_eq_false within
      rw [List.getLast_cons_cons] at before
      obtain ⟨lo, hi, found, loHi, line⟩ := ih later (not_le.mp within) before
      refine ⟨lo, hi, ?_, loHi, ?_⟩
      · simp only [ofPair, beyond, outside, Bool.and_false, Bool.false_eq_true, if_false]
        exact found
      · rw [if_neg within]
        exact line

theorem interpolate_ofPair {lo hi : ℚ × ℚ} (rises : Rises lo hi) :
    interpolate (.finite argument) (ofPair lo) (ofPair hi) = .finite (lineAt lo hi argument) := by
  have width : hi.1 - lo.1 ≠ 0 := (sub_pos.mpr rises.1).ne'
  have some : JsNumber.finite (hi.1 - lo.1) ≠ .finite 0 := by
    intro same
    exact width (JsNumber.finite.inj same)
  simp only [interpolate, ofPair, JsNumber.sub_finite, if_neg some, JsNumber.div_finite _ width,
    JsNumber.mul_finite, JsNumber.add_finite]
  rfl

theorem last_ofPair (left : ℚ × ℚ) (rest : List (ℚ × ℚ)) :
    (ofPair left :: rest.map ofPair).getLast (List.cons_ne_nil _ _) =
      ofPair ((left :: rest).getLast (List.cons_ne_nil left rest)) := by
  have mapped : (left :: rest).map ofPair ≠ [] := List.cons_ne_nil _ _
  exact List.getLast_map mapped

def clampUnit (value : ℚ) : ℚ := max 0 (min 1 value)

theorem clampUnit_mono {first second : ℚ} (before : first ≤ second) :
    clampUnit first ≤ clampUnit second :=
  max_le_max le_rfl (min_le_min le_rfl before)

theorem max_min_finite (value : ℚ) :
    JsNumber.max (.finite 0) (JsNumber.min (.finite 1) (.finite value)) =
      .finite (clampUnit value) := by
  rw [JsNumber.min_finite, JsNumber.max_finite, clampUnit]

theorem adjustConfidence_ofPair (rising : (left :: rest).IsChain Rises) (value : ℚ) :
    adjustConfidence { calibrationCurve := (left :: rest).map ofPair, isCalibrated := true }
        (.finite value) = .finite (curveAt (clampUnit value) left rest) ∧
      ReadsCurve { calibrationCurve := (left :: rest).map ofPair, isCalibrated := true }
        (.finite value) := by
  simp only [ReadsCurve, max_min_finite, adjustConfidence, List.map_cons]
  rw [last_ofPair]
  generalize clampUnit value = argument
  by_cases first : argument ≤ left.1
  · have within : (JsNumber.finite argument).le (.finite left.1) = true := decide_eq_true first
    refine ⟨?_, trivial, .inl ⟨ofPair left, rfl, within, if_pos within⟩⟩
    simp only [ofPair, within, if_true]
    cases rest with
    | nil => rfl
    | cons right rest => rw [curveAt, if_pos first]
  · have beyondFirst : (JsNumber.finite argument).le (.finite left.1) = false :=
      decide_eq_false first
    have notFirst : ¬(JsNumber.finite argument).le (ofPair left).rawConfidence = true :=
      ne_true_of_eq_false beyondFirst
    by_cases last : ((left :: rest).getLast (List.cons_ne_nil left rest)).1 ≤ argument
    · have beyond := decide_eq_true last
      refine ⟨?_, trivial, .inr (.inl ⟨_, List.getLast?_eq_some_getLast (List.cons_ne_nil _ _), ?_⟩)⟩
      · rw [curveAt_beyond rising last]
        simp only [ofPair, beyondFirst, Bool.false_eq_true, if_false, JsNumber.le_finite, beyond,
          if_true]
      · rw [last_ofPair]
        exact ⟨beyond, (if_neg notFirst).trans (if_pos beyond)⟩
    · have inner : (JsNumber.finite ((left :: rest).getLast (List.cons_ne_nil left rest)).1).le
          (.finite argument) = false := decide_eq_false last
      obtain ⟨lo, hi, found, rises, line⟩ :=
        surrounding_ofPair rising (not_le.mp first) (not_le.mp last)
      rw [List.map_cons] at found
      refine ⟨?_, trivial, .inr (.inr ⟨ofPair lo, ofPair hi, found, ?_, ?_⟩)⟩
      · have interpolated := @interpolate_ofPair argument lo hi rises
        rw [line] at interpolated
        rw [found]
        simp only [interpolated]
        simp only [ofPair, beyondFirst, inner, Bool.false_eq_true, if_false]
      · intro same
        have width := JsNumber.finite.inj ((JsNumber.sub_finite hi.1 lo.1).symm.trans same)
        exact absurd width (sub_pos.mpr rises.1).ne'
      · rw [if_neg notFirst, found]
        exact if_neg (ne_true_of_eq_false inner)

theorem monotoneMap_ofPair (rising : (left :: rest).IsChain Rises)
    (unit : ∀ point ∈ left :: rest, 0 ≤ point.2 ∧ point.2 ≤ 1) :
    MonotoneMap { calibrationCurve := (left :: rest).map ofPair, isCalibrated := true } where
  monotone := by
    intro first second before
    rw [(adjustConfidence_ofPair rising first).1, (adjustConfidence_ofPair rising second).1]
    exact decide_eq_true (curveAt_mono rising (clampUnit_mono before))
  inUnit := by
    intro value
    obtain ⟨atLeft, others⟩ := List.forall_mem_cons.mp unit
    refine ⟨_, (adjustConfidence_ofPair rising value).1, ?_, ?_⟩
    · exact le_trans atLeft.1 (left_le_curveAt rising)
    · exact curveAt_le rising atLeft.2 fun point member => (others point member).2
  reads := fun value => (adjustConfidence_ofPair rising value).2

end

def valueOf : JsNumber → ℚ
  | .finite value => value
  | .nan | .infinite _ => 0

theorem eq_finite {number : JsNumber} (finite : number.IsFinite) :
    number = .finite (valueOf number) := by
  obtain ⟨value, rfl⟩ := finite
  rfl

theorem sum_eq {numbers : List JsNumber} (finite : ∀ number ∈ numbers, number.IsFinite) :
    JsNumber.sum numbers = .finite (numbers.map valueOf).sum := by
  have folded : ∀ total : ℚ, numbers.foldl JsNumber.add (.finite total) =
      .finite (total + (numbers.map valueOf).sum) := by
    induction numbers with
    | nil => simp
    | cons first rest ih =>
      obtain ⟨atFirst, others⟩ := List.forall_mem_cons.mp finite
      intro total
      rw [List.foldl_cons, eq_finite atFirst, JsNumber.add_finite, ih others, List.map_cons,
        List.sum_cons, add_assoc]
      rfl
  have whole := folded 0
  rw [zero_add] at whole
  exact whole

def meanOf (slice : List Observation) : ℚ :=
  (slice.map fun o => valueOf o.rawConfidence).sum / slice.length

section

variable {slice : List Observation} {slices : List (List Observation)} {bound : ℚ}

theorem groupOf_mean (occupied : slice ≠ []) (finite : ∀ o ∈ slice, o.rawConfidence.IsFinite) :
    (groupOf slice).rawConfidence = .finite (meanOf slice) := by
  have positive : (slice.length : ℚ) ≠ 0 := by
    exact_mod_cast (List.length_pos_iff.mpr occupied).ne'
  have total := sum_eq (List.forall_mem_map.mpr finite)
  rw [List.map_map] at total
  rw [groupOf, total]
  exact JsNumber.div_finite _ positive

theorem meanOf_lt (occupied : slice ≠ []) (below : ∀ o ∈ slice, valueOf o.rawConfidence < bound) :
    meanOf slice < bound := by
  have positive : (0 : ℚ) < slice.length := by exact_mod_cast List.length_pos_iff.mpr occupied
  have less := List.sum_lt_sum_of_ne_nil occupied (fun o => valueOf o.rawConfidence)
    (fun _ => bound) below
  rw [List.map_const', List.sum_replicate, nsmul_eq_mul] at less
  rw [meanOf, div_lt_iff₀ positive, mul_comm]
  exact less

theorem le_meanOf (occupied : slice ≠ []) (above : ∀ o ∈ slice, bound ≤ valueOf o.rawConfidence) :
    bound ≤ meanOf slice := by
  have positive : (0 : ℚ) < slice.length := by exact_mod_cast List.length_pos_iff.mpr occupied
  have more := List.card_nsmul_le_sum (slice.map fun o => valueOf o.rawConfidence) bound
    (List.forall_mem_map.mpr above)
  rw [List.length_map, nsmul_eq_mul] at more
  rw [meanOf, le_div_iff₀ positive, mul_comm]
  exact more

theorem withinHundredth_iff {first o : Observation} (atFirst : first.rawConfidence.IsFinite)
    (here : o.rawConfidence.IsFinite) :
    withinHundredth first o = true ↔
      valueOf o.rawConfidence < valueOf first.rawConfidence + 1 / 100 := by
  rw [withinHundredth, eq_finite atFirst, eq_finite here, JsNumber.sub_finite, JsNumber.lt_finite,
    decide_eq_true_iff, sub_lt_iff_lt_add']
  rfl

theorem Clustered.means_rise (clustered : Clustered slices)
    (finite : ∀ o ∈ slices.flatten, o.rawConfidence.IsFinite)
    (sorted : (slices.flatten.map fun o => valueOf o.rawConfidence).Pairwise (· ≤ ·)) :
    (slices.map meanOf).Pairwise (· < ·) := by
  induction clustered with
  | nil => exact .nil
  | @cons first close later within apart rest ih =>
    rw [List.flatten_cons] at finite sorted
    rw [List.map_append] at sorted
    have finiteLater : ∀ o ∈ later.flatten, o.rawConfidence.IsFinite :=
      fun o member => finite o (List.mem_append_right _ member)
    have atFirst := finite first (List.mem_append_left _ List.mem_cons_self)
    have sortedLater := (List.pairwise_append.mp sorted).2.1
    refine List.pairwise_cons.mpr ⟨?_, ih finiteLater sortedLater⟩
    have below : meanOf (first :: close) < valueOf first.rawConfidence + 1 / 100 := by
      apply meanOf_lt (List.cons_ne_nil first close)
      intro o member
      exact (withinHundredth_iff atFirst (finite o (List.mem_append_left _ member))).mp
        (within o member)
    have above : ∀ o ∈ later.flatten,
        valueOf first.rawConfidence + 1 / 100 ≤ valueOf o.rawConfidence := by
      cases atLater : later.flatten with
      | nil => exact fun o absent => absurd absent List.not_mem_nil
      | cons next others =>
        rw [atLater] at apart sortedLater finiteLater
        have farNext : valueOf first.rawConfidence + 1 / 100 ≤ valueOf next.rawConfidence := by
          by_contra close
          have near := (withinHundredth_iff atFirst (finiteLater next List.mem_cons_self)).mpr
            (not_le.mp close)
          rw [apart next rfl] at near
          cases near
        rw [List.map_cons] at sortedLater
        intro o member
        rcases List.mem_cons.mp member with rfl | inOthers
        · exact farNext
        · have least := (List.pairwise_cons.mp sortedLater).1 _
            (List.mem_map_of_mem inOthers)
          exact le_trans farNext least
    intro mean isMean
    obtain ⟨slice, inLater, rfl⟩ := List.mem_map.mp isMean
    refine lt_of_lt_of_le below (le_meanOf (rest.occupied slice inLater) ?_)
    intro o member
    exact above o (List.mem_flatten.mpr ⟨slice, inLater, member⟩)

theorem groupOf_value_inUnit (occupied : slice ≠ []) : (groupOf slice).value.InUnit := by
  have positive : (0 : ℚ) < slice.length := by exact_mod_cast List.length_pos_iff.mpr occupied
  have fewer : ((slice.filter (·.isCorrect)).length : ℚ) ≤ slice.length := by
    exact_mod_cast List.length_filter_le _ slice
  refine ⟨_, groupOf_value occupied, ?_, ?_⟩
  · exact div_nonneg (Nat.cast_nonneg _) positive.le
  · exact (div_le_one positive).mpr fewer

end

section

variable {groups : List Group} {points : List (WeightedPoint ℚ)} {means : List ℚ}

def blockPair (means : List ℚ) (block : Block) : ℚ × ℚ :=
  (means.getD ((block.startIdx + block.endIdx) / 2) 0, valueOf block.value)

variable {blocks : List Block} {segments : List (List (WeightedPoint ℚ × Nat))} {block : Block}

theorem blocks_follow
    (stand : List.Forall₂ Block.Stands blocks segments) {before : List (WeightedPoint ℚ × Nat)}
    (parts : before ++ segments.flatten = points.zipIdx) :
    blocks.Pairwise (fun earlier later => earlier.endIdx < later.startIdx) ∧
      ∀ block ∈ blocks, before.length ≤ block.startIdx ∧ block.startIdx ≤ block.endIdx ∧
        block.endIdx < points.length := by
  induction stand generalizing before with
  | nil => exact ⟨.nil, fun block absent => absurd absent List.not_mem_nil⟩
  | @cons block segment blocks segments stands others ih =>
    rw [List.flatten_cons] at parts
    obtain ⟨first, last, some⟩ := stands.indices parts
    have lengths := congrArg List.length parts
    rw [List.length_append, List.length_append, List.length_zipIdx] at lengths
    obtain ⟨following, within⟩ := @ih (before ++ segment) (by rw [List.append_assoc]; exact parts)
    rw [List.length_append] at within
    constructor
    · refine List.pairwise_cons.mpr ⟨?_, following⟩
      intro later member
      have behind := (within later member).1
      omega
    · refine List.forall_mem_cons.mpr ⟨?_, ?_⟩
      · omega
      · intro later member
        have behind := within later member
        omega

theorem stands_inUnit {segment : List (WeightedPoint ℚ × Nat)}
    (stands : block.Stands segment)
    (unit : ∀ item ∈ segment, 0 ≤ item.1.value ∧ item.1.value ≤ 1) : block.value.InUnit := by
  obtain ⟨level, atLevel, balance⟩ := stands.level
  obtain ⟨point, rest, atFirst⟩ := stands.first
  refine ⟨level, atLevel, balance.between ?_ (List.forall_mem_map.mpr unit)⟩
  rw [atFirst]
  exact List.cons_ne_nil _ _

theorem blocks_inUnit
    (stand : List.Forall₂ Block.Stands blocks segments)
    (unit : ∀ item ∈ segments.flatten, 0 ≤ item.1.value ∧ item.1.value ≤ 1) :
    ∀ block ∈ blocks, block.value.InUnit := by
  induction stand with
  | nil => exact fun block absent => absurd absent List.not_mem_nil
  | cons stands _ ih =>
    rw [List.flatten_cons] at unit
    refine List.forall_mem_cons.mpr ⟨?_, ?_⟩
    · exact stands_inUnit stands fun item member => unit item (List.mem_append_left _ member)
    · exact ih fun item member => unit item (List.mem_append_right _ member)

theorem blockPoint_eq (raw : groups.map (·.rawConfidence) = means.map .finite)
    (ordered : block.startIdx ≤ block.endIdx) (within : block.endIdx < groups.length)
    (inUnit : block.value.InUnit) :
    blockPoint groups block = some (ofPair (blockPair means block)) := by
  have lengths := congrArg List.length raw
  rw [List.length_map, List.length_map] at lengths
  have middle : (block.startIdx + block.endIdx) / 2 < groups.length := by omega
  have here := congrArg (fun list => list[(block.startIdx + block.endIdx) / 2]?) raw
  simp only [List.getElem?_map] at here
  rw [List.getElem?_eq_getElem middle, List.getElem?_eq_getElem (lengths ▸ middle),
    Option.map_some, Option.map_some] at here
  rw [blockPoint, List.getElem?_eq_getElem middle, Option.map_some, Option.some.inj here,
    eq_finite inUnit.isFinite, ofPair, blockPair, List.getD_eq_getElem?_getD,
    List.getElem?_eq_getElem (lengths ▸ middle), Option.getD_some]

theorem blockPair_rises {next : Block} (follows : block.endIdx < next.startIdx)
    (first : block.startIdx ≤ block.endIdx) (second : next.startIdx ≤ next.endIdx)
    (within : next.endIdx < means.length) (atBlock : block.value.IsFinite)
    (atNext : next.value.IsFinite) (ordered : block.inOrder next = true)
    (rising : means.Pairwise (· < ·)) : Rises (blockPair means block) (blockPair means next) := by
  have before : (block.startIdx + block.endIdx) / 2 < (next.startIdx + next.endIdx) / 2 := by omega
  have inside : (next.startIdx + next.endIdx) / 2 < means.length := by omega
  constructor
  · have less := List.pairwise_iff_getElem.mp rising _ _ (by omega) inside before
    simp only [blockPair, List.getD_eq_getElem?_getD]
    rw [List.getElem?_eq_getElem (by omega), List.getElem?_eq_getElem inside, Option.getD_some,
      Option.getD_some]
    exact less
  · rw [Block.inOrder, eq_finite atBlock, eq_finite atNext, JsNumber.le_finite] at ordered
    exact of_decide_eq_true ordered

theorem blockPairs_rise
    (following : blocks.Pairwise fun earlier later => earlier.endIdx < later.startIdx)
    (within : ∀ block ∈ blocks, block.startIdx ≤ block.endIdx ∧ block.endIdx < means.length)
    (inUnit : ∀ block ∈ blocks, block.value.InUnit)
    (ordered : blocks.IsChain fun earlier later => earlier.inOrder later = true)
    (rising : means.Pairwise (· < ·)) : (blocks.map (blockPair means)).IsChain Rises := by
  induction blocks with
  | nil => exact .nil
  | cons block rest ih =>
    obtain ⟨first, followingRest⟩ := List.pairwise_cons.mp following
    obtain ⟨here, withinRest⟩ := List.forall_mem_cons.mp within
    obtain ⟨unit, unitRest⟩ := List.forall_mem_cons.mp inUnit
    have later := ih followingRest withinRest unitRest ordered.tail
    cases rest with
    | nil => exact .singleton _
    | cons next others =>
      have there := withinRest next List.mem_cons_self
      refine .cons_cons ?_ later
      exact blockPair_rises (first next List.mem_cons_self) here.1 there.1 there.2 unit.isFinite
        (unitRest next List.mem_cons_self).isFinite (List.isChain_cons_cons.mp ordered).1 rising

end

theorem points_inUnit {slices : List (List Observation)} {points : List (WeightedPoint ℚ)}
    (occupied : ∀ slice ∈ slices, slice ≠ [])
    (weigh : List.Forall₂ Group.Weighs (slices.map groupOf) points) :
    ∀ point ∈ points, 0 ≤ point.value ∧ point.value ≤ 1 := by
  induction slices generalizing points with
  | nil =>
    cases weigh
    exact fun point absent => absurd absent List.not_mem_nil
  | cons slice rest ih =>
    obtain ⟨here, later⟩ := List.forall_mem_cons.mp occupied
    cases weigh with
    | cons weighs weighRest =>
      refine List.forall_mem_cons.mpr ⟨?_, ih later weighRest⟩
      obtain ⟨value, same, low, high⟩ := groupOf_value_inUnit here
      rw [weighs.value] at same
      rw [JsNumber.finite.inj same]
      exact ⟨low, high⟩

theorem fit_rises {sorted : List Observation} (occupied : sorted ≠ [])
    (finite : ∀ o ∈ sorted, o.rawConfidence.IsFinite)
    (ordered : (sorted.map fun o => valueOf o.rawConfidence).Pairwise (· ≤ ·)) :
    ∃ left rest, fitIsotonicRegression sorted = some ((left :: rest).map ofPair) ∧
      (left :: rest).IsChain Rises ∧ ∀ point ∈ left :: rest, 0 ≤ point.2 ∧ point.2 ≤ 1 := by
  obtain ⟨slices, clustered, parts, grouped⟩ := groupObservations_of_finite finite
  have some := clustered.occupied
  rw [← parts] at finite ordered
  have rising := clustered.means_rise finite ordered
  have raw : (slices.map groupOf).map (·.rawConfidence) = (slices.map meanOf).map .finite := by
    rw [List.map_map, List.map_map]
    refine List.map_congr_left fun slice member => ?_
    exact groupOf_mean (some slice member) fun o inSlice =>
      finite o (List.mem_flatten.mpr ⟨slice, member, inSlice⟩)
  obtain ⟨points, weigh⟩ := groupsOf_weigh some
  have counts := weigh.length_eq
  obtain ⟨segments, stand, covered⟩ := pooledBlocks_stand weigh
  have unit : ∀ item ∈ segments.flatten, 0 ≤ item.1.value ∧ item.1.value ≤ 1 := by
    intro item member
    rw [covered] at member
    exact points_inUnit some weigh item.1 (List.fst_mem_of_mem_zipIdx member)
  have inUnit := blocks_inUnit stand unit
  obtain ⟨following, bounds⟩ := @blocks_follow points _ _ stand [] covered
  have within : ∀ block ∈ pooledBlocks (slices.map groupOf),
      block.startIdx ≤ block.endIdx ∧ block.endIdx < (slices.map meanOf).length := by
    intro block member
    have bounded := bounds block member
    rw [List.length_map] at counts ⊢
    omega
  have rises := blockPairs_rise following within inUnit (poolAdjacent_chain _) rising
  have curve : (pooledBlocks (slices.map groupOf)).filterMap (blockPoint (slices.map groupOf)) =
      ((pooledBlocks (slices.map groupOf)).map (blockPair (slices.map meanOf))).map ofPair := by
    rw [List.map_map]
    apply List.filterMap_eq_map_iff_forall_eq_some.mpr
    intro block member
    obtain ⟨ordered, bounded⟩ := within block member
    rw [List.length_map] at bounded
    exact blockPoint_eq raw ordered (by rw [List.length_map]; exact bounded) (inUnit block member)
  have nonempty : pooledBlocks (slices.map groupOf) ≠ [] := by
    intro empty
    rw [empty] at stand
    cases stand
    have none := congrArg List.length covered
    rw [List.length_zipIdx, ← counts, List.length_map] at none
    rw [List.eq_nil_of_length_eq_zero none.symm] at parts
    exact occupied parts.symm
  cases atBlocks : pooledBlocks (slices.map groupOf) with
  | nil => exact absurd atBlocks nonempty
  | cons block rest =>
    rw [atBlocks] at curve rises inUnit
    refine ⟨blockPair (slices.map meanOf) block, rest.map (blockPair (slices.map meanOf)), ?_,
      rises, ?_⟩
    · rw [fitIsotonicRegression, grouped, Option.map_some, atBlocks, curve]
      rfl
    · intro point member
      rw [← List.map_cons] at member
      obtain ⟨source, inBlocks, rfl⟩ := List.mem_map.mp member
      obtain ⟨value, same, low, high⟩ := inUnit source inBlocks
      rw [blockPair, same]
      exact ⟨low, high⟩

theorem sort_ordered (engine : ObservationSort) {observations : List Observation}
    (finite : ∀ o ∈ observations, o.rawConfidence.IsFinite) :
    ((engine.sort observations).map fun o => valueOf o.rawConfidence).Pairwise (· ≤ ·) := by
  have numbers : ∀ o ∈ observations, o.rawConfidence ≠ .nan := by
    intro o member nan
    obtain ⟨value, same⟩ := finite o member
    rw [nan] at same
    cases same
  have compared : ∀ a ∈ observations, ∀ b ∈ observations,
      (a.rawConfidence.le b.rawConfidence = true ↔
        valueOf a.rawConfidence ≤ valueOf b.rawConfidence) := by
    intro a inA b inB
    obtain ⟨first, atFirst⟩ := finite a inA
    obtain ⟨second, atSecond⟩ := finite b inB
    rw [atFirst, atSecond, JsNumber.le_finite, decide_eq_true_iff]
    rfl
  have mapped := List.map_insertionSort (fun a b => a.rawConfidence.le b.rawConfidence = true)
    (· ≤ ·) (fun o : Observation => valueOf o.rawConfidence) observations compared
  rw [engine.stable observations numbers, mapped]
  exact List.pairwise_insertionSort (· ≤ ·) _

/-- After a calibration on observations between 0 and 1, confidences are adjusted along a curve
that does not fall. -/
theorem buildCalibration_monotone (engine : ObservationSort) {observations : List Observation}
    (occupied : observations ≠ []) (inUnit : ∀ o ∈ observations, o.rawConfidence.InUnit) :
    ∃ report calibrator, buildCalibration engine observations = some (report, calibrator) ∧
      MonotoneMap calibrator := by
  have finite : ∀ o ∈ observations, o.rawConfidence.IsFinite :=
    fun o member => (inUnit o member).isFinite
  have same := engine.perm observations
  have sortedOccupied : engine.sort observations ≠ [] := by
    intro empty
    rw [empty] at same
    exact occupied same.symm.eq_nil
  obtain ⟨left, rest, fit, rises, unit⟩ := fit_rises sortedOccupied
    (fun o member => finite o (same.mem_iff.mp member)) (sort_ordered engine finite)
  rw [buildCalibration, if_neg occupied]
  simp only [fit, Option.map_some]
  exact ⟨_, _, rfl, monotoneMap_ofPair rises unit⟩

theorem fallingSample_monotone :
    ∃ report calibrator, buildCalibration insertionEngine fallingSample = some (report, calibrator) ∧
      MonotoneMap calibrator :=
  buildCalibration_monotone insertionEngine (by decide) fallingSample_inUnit

end StoryEngine.Tagging
