import Mathlib.Data.List.Pairwise
import StoryEngine.Pii.Masking

namespace StoryEngine.Pii

open Text Pattern

/-! # Masking as a substitution

The detections are put in from the last to the first, each into a text that has changed behind it
only, so that all of them are put in at their places in the text as it was.
-/

/-- The texts of the detections stand in the text at their places, and in the other text their tags
stand instead, with the same between them. -/
inductive Replaced : (place : Nat) → (text : Text) → List PiiDetection → (masked : Text) → Prop where
  | rest (place : Nat) (text : Text) : Replaced place text [] text
  | next {place : Nat} {between text masked : Text} {detection : PiiDetection}
      {detections : List PiiDetection} (starts : detection.startIndex = place + between.length)
      (ends : detection.endIndex = detection.startIndex + detection.original.length)
      (later : Replaced detection.endIndex text detections masked) :
      Replaced place (between ++ (detection.original ++ text)) (detection :: detections)
        (between ++ (detection.replacement ++ masked))

def piiCandidates (text : Text) : List DetectionCandidate :=
  collectRegexCandidates text ++ collectHeuristicCandidates text

/-- A detection of the text that is as good as the candidate and in its place. -/
def Preferred (text : Text) (detections : List PiiDetection) (candidate : DetectionCandidate) :
    Prop :=
  ∃ selected ∈ piiCandidates text, selected.toPiiDetection ∈ detections ∧
    candidate.overlaps selected.toPiiDetection = true ∧ candidate.priority ≤ selected.priority

structure ExactMasking (text : Text) (result : MaskingResult) : Prop where
  sorted : result.detections.Pairwise fun first second => first.startIndex ≤ second.startIndex
  disjoint : result.detections.Pairwise Apart
  within : ∀ detection ∈ result.detections,
    detection.startIndex < detection.endIndex ∧ detection.endIndex ≤ text.length
  original : ∀ detection ∈ result.detections, detection.original =
    (text.drop detection.startIndex).take (detection.endIndex - detection.startIndex)
  replaced : Replaced 0 text result.detections result.maskedText
  preferred : ∀ candidate ∈ piiCandidates text,
    candidate.toPiiDetection ∉ result.detections → Preferred text result.detections candidate

/-- The text of the detection is what stands at its place. -/
structure Located (text : Text) (detection : PiiDetection) : Prop where
  nonempty : detection.original ≠ []
  ends : detection.endIndex = detection.startIndex + detection.original.length
  stands : ∃ before after, text = before ++ (detection.original ++ after) ∧
    before.length = detection.startIndex

section

variable {text part before after : Text} {found : Found} {candidate : DetectionCandidate}
  {detection : PiiDetection}

theorem Located.slice (located : Located text detection) : detection.original =
    (text.drop detection.startIndex).take (detection.endIndex - detection.startIndex) := by
  obtain ⟨_, ends, before, after, rfl, starts⟩ := located
  rw [ends, Nat.add_sub_cancel_left, ← starts, List.drop_left, List.take_left]

theorem Located.within (located : Located text detection) :
    detection.startIndex < detection.endIndex ∧ detection.endIndex ≤ text.length := by
  obtain ⟨nonempty, ends, before, after, rfl, starts⟩ := located
  have long := List.length_pos_iff.mpr nonempty
  simp only [List.length_append]
  omega

theorem regexCandidate_located {pattern : PiiPattern} (consumes : pattern.regex.consumes = true)
    (member : candidate ∈ regexCandidates text pattern) :
    Located text candidate.toPiiDetection := by
  obtain ⟨found, inFound, rfl⟩ := List.mem_map.mp member
  obtain ⟨behind, ahead, whole, index, start, next, inEnds, _, upTo, _⟩ :=
    execAll_found consumes inFound
  have some := upTo_ne_nil consumes inEnds
  rw [upTo] at some
  refine ⟨some, rfl, behind, ahead, ?_, index⟩
  rw [whole, List.append_assoc]

theorem captured_suffix {opening body : Pattern} {start next : Cursor}
    (inEnds : next ∈ (Pattern.seq opening (.seq (.group body) .wordBoundary)).ends start) :
    ∃ before captured, next.captured = some captured ∧ start.upTo next = before ++ captured := by
  have whole := (ends_reaches _ start next inEnds).ahead_eq
  obtain ⟨middle, inOpening, inRest⟩ := List.mem_flatMap.mp inEnds
  obtain ⟨grouped, inGroup, atEnd⟩ := List.mem_flatMap.mp inRest
  obtain ⟨inner, inBody, rfl⟩ := List.mem_map.mp inGroup
  have stays : next = { inner with captured := some (middle.upTo inner) } := by
    rw [ends] at atEnd
    split at atEnd
    · exact List.mem_singleton.mp atEnd
    · cases atEnd
  subst stays
  refine ⟨start.upTo middle, middle.upTo inner, rfl, ?_⟩
  have first := (ends_reaches _ start middle inOpening).ahead_eq
  have second := (ends_reaches _ middle inner inBody).ahead_eq
  rw [first, second, ← List.append_assoc] at whole
  exact (List.append_cancel_right whole).symm

theorem lastIndexOf_suffix (nonempty : part ≠ []) (before : Text) :
    lastIndexOf part (before ++ part) = some before.length := by
  induction before with
  | nil =>
    cases part with
    | nil => exact absurd rfl nonempty
    | cons c rest =>
      have absent : lastIndexOf (c :: rest) rest = none := by
        cases found : lastIndexOf (c :: rest) rest with
        | none => rfl
        | some offset =>
          obtain ⟨left, right, whole, _⟩ := lastIndexOf_some found
          have lengths := congrArg List.length whole
          simp only [List.length_append, List.length_cons] at lengths
          omega
      have itself : (c :: rest).isPrefixOf (c :: rest) = true :=
        List.isPrefixOf_iff_prefix.mpr (List.prefix_refl _)
      simp only [List.nil_append, lastIndexOf, absent, itself, if_true, List.length_nil]
  | cons c rest ih => simp only [List.cons_append, lastIndexOf, ih, List.length_cons]

theorem execAll_suffix {regex opening body : Pattern}
    (regexIs : regex = .seq opening (.seq (.group body) .wordBoundary))
    (consumes : regex.consumes = true) (member : found ∈ execAll regex text) :
    ∃ behind ahead before captured, text = behind ++ (before ++ captured) ++ ahead ∧
      behind.length = found.index ∧ found.matched = before ++ captured ∧
      found.captured = some captured := by
  obtain ⟨behind, ahead, whole, index, start, next, inEnds, _, upTo, same⟩ :=
    execAll_found consumes member
  rw [regexIs] at inEnds
  obtain ⟨before, captured, isCaptured, isMatched⟩ := captured_suffix inEnds
  rw [upTo] at isMatched
  rw [same] at isCaptured
  exact ⟨behind, ahead, before, captured, by rw [whole, isMatched], index, isMatched, isCaptured⟩

theorem captured_ne_nil {regex opening body : Pattern} {captured : Text}
    (regexIs : regex = .seq opening (.seq (.group body) .wordBoundary))
    (consumes : body.consumes = true) (member : found ∈ execAll regex text)
    (isCaptured : found.captured = some captured) : captured ≠ [] := by
  have reads : regex.consumes = true := by
    rw [regexIs]
    simp [Pattern.consumes, consumes]
  obtain ⟨_, _, _, _, start, next, inEnds, _, _, same⟩ := execAll_found reads member
  rw [regexIs] at inEnds
  obtain ⟨middle, _, inner, inBody, isGroup⟩ := captured_group inEnds
  rw [same, isCaptured] at isGroup
  rw [Option.some.inj isGroup]
  exact upTo_ne_nil consumes inBody

theorem nameCandidate_located (member : found ∈ execAll nameRegex text)
    (isCandidate : nameCandidate found = some candidate) :
    Located text candidate.toPiiDetection := by
  have consumes : nameRegex.consumes = true := by decide +kernel
  simp only [nameCandidate, Option.bind_eq_bind, Option.bind_eq_some_iff, Option.pure_def,
    Option.some.injEq] at isCandidate
  obtain ⟨captured, isCaptured, offset, isOffset, rfl⟩ := isCandidate
  obtain ⟨behind, ahead, whole, index, _⟩ := execAll_found consumes member
  obtain ⟨left, right, split, rfl⟩ := indexOf_some isOffset
  refine ⟨captured_ne_nil rfl (by decide +kernel) member isCaptured, rfl, behind ++ left,
    right ++ ahead, ?_, ?_⟩
  · rw [whole, split]
    simp only [List.append_assoc]
  · rw [List.length_append, index]

theorem idCandidate_located (member : found ∈ execAll idRegex text)
    (isCandidate : idCandidate found = some candidate) :
    Located text candidate.toPiiDetection := by
  have consumes : idRegex.consumes = true := by decide +kernel
  simp only [idCandidate, Option.bind_eq_bind, Option.bind_eq_some_iff, Option.pure_def,
    Option.some.injEq] at isCandidate
  obtain ⟨captured, isCaptured, offset, isOffset, rfl⟩ := isCandidate
  have some := captured_ne_nil rfl (by decide +kernel) member isCaptured
  obtain ⟨behind, ahead, left, suffix, whole, index, split, isSuffix⟩ :=
    execAll_suffix rfl consumes member
  rw [isCaptured] at isSuffix
  obtain rfl := Option.some.inj isSuffix
  have lower : captured.map Char.toLower ≠ [] := by
    intro empty
    exact some (List.map_eq_nil_iff.mp empty)
  -- The captured text ends the match, so no later place is found.
  rw [split, List.map_append, lastIndexOf_suffix lower, List.length_map] at isOffset
  obtain rfl := Option.some.inj isOffset
  refine ⟨some, rfl, behind ++ left, ahead, ?_, ?_⟩
  · rw [whole]
    simp only [List.append_assoc]
  · rw [List.length_append, index]

theorem candidate_located (member : candidate ∈ piiCandidates text) :
    Located text candidate.toPiiDetection := by
  rcases List.mem_append.mp member with byPattern | byWords
  · obtain ⟨pattern, inPatterns, isCandidate⟩ := List.mem_flatMap.mp byPattern
    exact regexCandidate_located (piiPatterns_unsigned pattern inPatterns).1 isCandidate
  · rcases List.mem_append.mp byWords with isName | isId
    · obtain ⟨found, inFound, isCandidate⟩ := List.mem_filterMap.mp isName
      exact nameCandidate_located inFound isCandidate
    · obtain ⟨found, inFound, isCandidate⟩ := List.mem_filterMap.mp isId
      exact idCandidate_located inFound isCandidate

theorem detection_candidate (member : detection ∈ collectPiiDetections text) :
    ∃ candidate ∈ piiCandidates text, candidate.toPiiDetection = detection := by
  obtain ⟨candidate, inSorted, same⟩ := List.mem_map.mp member
  have inSelected := (List.mem_insertionSort _).mp inSorted
  rcases (selectCandidates List.Pairwise.nil).2 candidate inSelected with absent | inPrioritized
  · cases absent
  · exact ⟨candidate, (List.mem_insertionSort _).mp inPrioritized, same⟩

theorem detection_located (member : detection ∈ collectPiiDetections text) :
    Located text detection := by
  obtain ⟨candidate, isCandidate, rfl⟩ := detection_candidate member
  exact candidate_located isCandidate

theorem before_total : Std.Total fun first second : DetectionCandidate =>
    first.before second = true := by
  refine ⟨fun first second => ?_⟩
  simp only [DetectionCandidate.before]
  split_ifs <;> simp only [decide_eq_true_eq] <;> omega

theorem before_trans : IsTrans DetectionCandidate fun first second =>
    first.before second = true := by
  refine ⟨fun first second third => ?_⟩
  simp only [DetectionCandidate.before]
  split_ifs <;> simp only [decide_eq_true_eq] <;> omega

theorem before_priority {first second : DetectionCandidate} (before : first.before second = true) :
    second.priority ≤ first.priority := by
  simp only [DetectionCandidate.before] at before
  split_ifs at before with priority
  · exact Nat.le_of_lt (of_decide_eq_true before)
  · omega
  · omega

theorem mem_selectCandidates {candidate : DetectionCandidate} {selected : List DetectionCandidate}
    (member : candidate ∈ selected) (prioritized : List DetectionCandidate) :
    candidate ∈ prioritized.foldl selectCandidate selected := by
  induction prioritized generalizing selected with
  | nil => exact member
  | cons first rest ih =>
    apply ih
    rw [selectCandidate]
    split
    · exact member
    · exact List.mem_append_left [first] member

theorem selectCandidates_prefers {prioritized selected : List DetectionCandidate}
    (sorted : prioritized.Pairwise fun first second => second.priority ≤ first.priority)
    (above : ∀ row ∈ selected, ∀ candidate ∈ prioritized, candidate.priority ≤ row.priority) :
    ∀ candidate ∈ prioritized, candidate ∈ prioritized.foldl selectCandidate selected ∨
      ∃ row ∈ prioritized.foldl selectCandidate selected,
        candidate.overlaps row.toPiiDetection = true ∧ candidate.priority ≤ row.priority := by
  induction prioritized generalizing selected with
  | nil =>
    intro candidate member
    cases member
  | cons first rest ih =>
    obtain ⟨least, sortedRest⟩ := List.pairwise_cons.mp sorted
    have onward : ∀ row ∈ selectCandidate selected first, ∀ candidate ∈ rest,
        candidate.priority ≤ row.priority := by
      intro row inRows candidate inRest
      rcases mem_selectCandidate inRows with inSelected | rfl
      · exact above row inSelected candidate (List.mem_cons_of_mem first inRest)
      · exact least candidate inRest
    intro candidate member
    rcases List.mem_cons.mp member with rfl | inRest
    · by_cases taken : (selected.any fun existing =>
          candidate.overlaps existing.toPiiDetection) = true
      · obtain ⟨row, inSelected, overlaps⟩ := List.any_eq_true.mp taken
        refine .inr ⟨row, ?_, overlaps, above row inSelected candidate List.mem_cons_self⟩
        exact mem_selectCandidates inSelected (candidate :: rest)
      · refine .inl (mem_selectCandidates ?_ rest)
        rw [selectCandidate, if_neg taken]
        exact List.mem_append_right selected (List.mem_singleton_self candidate)
    · exact ih sortedRest onward candidate inRest

theorem collectPiiDetections_preferred {candidate : DetectionCandidate}
    (member : candidate ∈ piiCandidates text)
    (leftOut : candidate.toPiiDetection ∉ collectPiiDetections text) :
    Preferred text (collectPiiDetections text) candidate := by
  have total := before_total
  have transitive := before_trans
  have sorted := (List.pairwise_insertionSort (fun first second : DetectionCandidate =>
    first.before second = true) (piiCandidates text)).imp before_priority
  have detected {row : DetectionCandidate} (inSelected : row ∈ ((piiCandidates text).insertionSort
      fun first second => first.before second).foldl selectCandidate []) :
      row.toPiiDetection ∈ collectPiiDetections text :=
    List.mem_map_of_mem ((List.mem_insertionSort _).mpr inSelected)
  rcases selectCandidates_prefers sorted (fun row absent => absurd absent List.not_mem_nil)
      candidate ((List.mem_insertionSort _).mpr member) with inSelected | ⟨row, inSelected, better⟩
  · exact absurd (detected inSelected) leftOut
  · refine ⟨row, ?_, detected inSelected, better⟩
    rcases (selectCandidates List.Pairwise.nil).2 row inSelected with absent | inPrioritized
    · cases absent
    · exact (List.mem_insertionSort _).mp inPrioritized

theorem collectPiiDetections_sorted (text : Text) : (collectPiiDetections text).Pairwise
    fun first second => first.startIndex ≤ second.startIndex := by
  have total : Std.Total fun first second : DetectionCandidate =>
      first.startIndex ≤ second.startIndex := ⟨fun _ _ => Nat.le_total _ _⟩
  have transitive : IsTrans DetectionCandidate fun first second =>
      first.startIndex ≤ second.startIndex :=
    ⟨fun _ _ _ before after => Nat.le_trans before after⟩
  have sorted := List.pairwise_insertionSort (fun first second : DetectionCandidate =>
    first.startIndex ≤ second.startIndex)
  exact (sorted _).map _ fun _ _ before => before

theorem collectPiiDetections_ascending (text : Text) : (collectPiiDetections text).Pairwise
    fun first second => first.endIndex ≤ second.startIndex := by
  refine ((collectPiiDetections_disjoint text).and (collectPiiDetections_sorted text)).imp_of_mem ?_
  intro first second isFirst isSecond ⟨apart, ordered⟩
  have some := (detection_located isSecond).within.1
  simp only [Apart, PiiDetection.overlaps, rangesOverlap, Bool.and_eq_false_iff,
    decide_eq_false_iff_not, Nat.not_lt] at apart
  have occupied := (detection_located isFirst).within.1
  omega

theorem foldr_replaceRange {detections : List PiiDetection} {place : Nat}
    (ascending : detections.Pairwise fun first second => first.endIndex ≤ second.startIndex)
    (located : ∀ detection ∈ detections, Located text detection)
    (behind : ∀ detection ∈ detections, place ≤ detection.startIndex) :
    ∃ masked, detections.foldr (fun detection text => replaceRange text detection) text =
        text.take place ++ masked ∧
      Replaced place (text.drop place) detections masked := by
  induction detections generalizing place with
  | nil => exact ⟨text.drop place, (List.take_append_drop place text).symm, .rest place _⟩
  | cons first rest ih =>
    obtain ⟨following, ascendingRest⟩ := List.pairwise_cons.mp ascending
    obtain ⟨nonempty, ends, before, after, whole, starts⟩ := located first List.mem_cons_self
    have reached := behind first List.mem_cons_self
    obtain ⟨masked, folded, replaced⟩ := @ih first.endIndex ascendingRest
      (fun detection member => located detection (List.mem_cons_of_mem first member)) following
    have upToEnd : text.take first.endIndex = before ++ first.original := by
      rw [whole, ← List.append_assoc, ends, ← starts, ← List.length_append, List.take_left]
    have fromEnd : text.drop first.endIndex = after := by
      rw [whole, ← List.append_assoc, ends, ← starts, ← List.length_append, List.drop_left]
    rw [fromEnd] at replaced
    have split : before = text.take place ++ before.drop place := by
      rw [whole, List.take_append_of_le_length (by omega), List.take_append_drop]
    refine ⟨before.drop place ++ (first.replacement ++ masked), ?_, ?_⟩
    · have kept : (before ++ (first.original ++ masked)).take first.startIndex = before := by
        rw [← starts, List.take_left]
      have later : (before ++ (first.original ++ masked)).drop first.endIndex = masked := by
        rw [← List.append_assoc, ends, ← starts, ← List.length_append, List.drop_left]
      rw [List.foldr_cons, folded, upToEnd, List.append_assoc, replaceRange, kept, later]
      conv => lhs; rw [split]
      simp only [List.append_assoc]
    · have remaining : text.drop place = before.drop place ++ (first.original ++ after) := by
        rw [whole, List.drop_append_of_le_length (by omega)]
      rw [remaining]
      refine .next ?_ ends replaced
      rw [List.length_drop]
      omega

theorem descending_eq_reverse (text : Text) :
    (collectPiiDetections text).insertionSort (fun first second =>
      second.startIndex ≤ first.startIndex) = (collectPiiDetections text).reverse := by
  have total : Std.Total fun first second : PiiDetection =>
      second.startIndex ≤ first.startIndex := ⟨fun _ _ => Nat.le_total _ _⟩
  have transitive : IsTrans PiiDetection fun first second =>
      second.startIndex ≤ first.startIndex :=
    ⟨fun _ _ _ before after => Nat.le_trans after before⟩
  have sorted := List.pairwise_insertionSort (fun first second : PiiDetection =>
    second.startIndex ≤ first.startIndex) (collectPiiDetections text)
  have disjoint := collectPiiDetections_disjoint text
  have reversed := List.pairwise_reverse.mpr (collectPiiDetections_sorted text)
  refine List.Perm.eq_of_pairwise ?_ sorted reversed
    ((List.perm_insertionSort _ _).trans (List.reverse_perm _).symm)
  intro first second isFirst isSecond before after
  rw [List.mem_insertionSort] at isFirst
  rw [List.mem_reverse] at isSecond
  by_contra differ
  have symmetric : Std.Symm Apart := ⟨fun _ _ apart => apart.symm⟩
  have apart : Apart first second := disjoint.forall isFirst isSecond differ
  have some := (detection_located isFirst).within.1
  have occupied := (detection_located isSecond).within.1
  simp only [Apart, PiiDetection.overlaps, rangesOverlap, Bool.and_eq_false_iff,
    decide_eq_false_iff_not, Nat.not_lt] at apart
  omega

/-- The detections are the preferred candidates, and they alone are replaced, all at once. -/
theorem maskPii_exact (text : Text) : ExactMasking text (maskPii text) where
  sorted := collectPiiDetections_sorted text
  disjoint := collectPiiDetections_disjoint text
  within := fun _ member => (detection_located member).within
  original := fun _ member => (detection_located member).slice
  replaced := by
    obtain ⟨masked, folded, replaced⟩ := foldr_replaceRange (collectPiiDetections_ascending text)
      (fun _ member => detection_located member) fun detection _ => Nat.zero_le detection.startIndex
    rw [List.take_zero, List.nil_append] at folded
    rw [List.drop_zero] at replaced
    have same : (maskPii text).maskedText = masked := by
      rw [maskPii, descending_eq_reverse, List.foldl_reverse, folded]
    rw [same]
    exact replaced
  preferred := fun _ member leftOut => collectPiiDetections_preferred member leftOut

end

end StoryEngine.Pii
