import StoryEngine.Pii.Masker
import StoryEngine.Text.Reading

namespace StoryEngine.Pii

open Text Pattern

/-! # What masking keeps

Detections are disjoint ranges of the text.  No detection and no tag has a number sign, so that
a text and its masked form have equally many.
-/

/-- A range of the text that has a character, and no number sign in it or in its tag. -/
structure Unsigned (text : Text) (detection : PiiDetection) : Prop where
  nonempty : detection.startIndex < detection.endIndex
  within : detection.endIndex ≤ text.length
  range : '#' ∉ (text.drop detection.startIndex).take (detection.endIndex - detection.startIndex)
  replacement : '#' ∉ detection.replacement

section

variable {text part whole matched captured before after : Text} {found : Found} {regex : Pattern}
  {detection : PiiDetection} {candidate : DetectionCandidate}

theorem execAll_found (consumes : regex.consumes = true) (member : found ∈ execAll regex text) :
    ∃ behind ahead, text = behind ++ found.matched ++ ahead ∧ behind.length = found.index ∧
      ∃ start next, next ∈ regex.ends start ∧ start.captured = none ∧
        start.upTo next = found.matched ∧ next.captured = found.captured := by
  obtain ⟨piece, inScan, isFound⟩ := List.mem_filterMap.mp member
  cases piece with
  | plain c => cases isFound
  | hit behind matched ahead captured =>
    obtain rfl := Option.some.inj isFound
    obtain ⟨whole, start, next, inEnds, fresh, upTo, same⟩ :=
      scanFrom_hit consumes rfl rfl inScan
    exact ⟨behind.reverse, ahead, whole.symm, List.length_reverse, start, next, inEnds, fresh,
      upTo, same⟩

theorem upTo_ne_nil {start next : Cursor} (consumes : regex.consumes = true)
    (inEnds : next ∈ regex.ends start) : start.upTo next ≠ [] := by
  have less := regex.ends_consume consumes start next inEnds
  intro empty
  have reaches := (regex.ends_reaches start next inEnds).ahead_eq
  rw [empty, List.nil_append] at reaches
  rw [reaches] at less
  exact Nat.lt_irrefl _ less

theorem regexCandidate_unsigned {pattern : PiiPattern}
    (consumes : pattern.regex.consumes = true) (avoids : pattern.regex.avoids '#' = true)
    (tag : '#' ∉ pattern.replacement) (member : candidate ∈ regexCandidates text pattern) :
    Unsigned text candidate.toPiiDetection := by
  obtain ⟨found, inFound, rfl⟩ := List.mem_map.mp member
  obtain ⟨behind, ahead, whole, index, start, next, inEnds, fresh, upTo, _⟩ :=
    execAll_found consumes inFound
  have some := upTo_ne_nil consumes inEnds
  have clean := (ends_avoid pattern.regex avoids start (by simp [fresh]) next inEnds).upTo
  rw [upTo] at some clean
  refine ⟨?_, ?_, ?_, tag⟩
  · exact Nat.lt_add_of_pos_right (List.length_pos_of_ne_nil some)
  · rw [whole]
    simp [index]
  · rw [whole]
    simpa [← index] using clean

theorem indexOf_some {offset : Nat} (found : indexOf part whole = some offset) :
    ∃ before after, whole = before ++ part ++ after ∧ before.length = offset := by
  induction whole generalizing offset with
  | nil =>
    unfold indexOf at found
    split at found
    · next empty =>
        obtain rfl := Option.some.inj found
        exact ⟨[], [], by simp [List.isEmpty_iff.mp empty], rfl⟩
    · cases found
  | cons c rest ih =>
    unfold indexOf at found
    split at found
    · next isPrefix =>
        obtain ⟨after, same⟩ := List.isPrefixOf_iff_prefix.mp isPrefix
        obtain rfl := Option.some.inj found
        exact ⟨[], after, same.symm, rfl⟩
    · obtain ⟨later, inRest, rfl⟩ := Option.map_eq_some_iff.mp found
      obtain ⟨before, after, rfl, rfl⟩ := ih inRest
      exact ⟨c :: before, after, rfl, rfl⟩

theorem lastIndexOf_some {offset : Nat} (found : lastIndexOf part whole = some offset) :
    ∃ before after, whole = before ++ part ++ after ∧ before.length = offset := by
  induction whole generalizing offset with
  | nil =>
    unfold lastIndexOf at found
    split at found
    · next empty =>
        obtain rfl := Option.some.inj found
        exact ⟨[], [], by simp [List.isEmpty_iff.mp empty], rfl⟩
    · cases found
  | cons c rest ih =>
    unfold lastIndexOf at found
    split at found
    · next later inRest =>
        obtain rfl := Option.some.inj found
        obtain ⟨before, after, rfl, rfl⟩ := ih inRest
        exact ⟨c :: before, after, rfl, rfl⟩
    · split at found
      · next isPrefix =>
          obtain ⟨after, same⟩ := List.isPrefixOf_iff_prefix.mp isPrefix
          obtain rfl := Option.some.inj found
          exact ⟨[], after, same.symm, rfl⟩
      · cases found

theorem captured_group {opening body : Pattern} {start next : Cursor}
    (inEnds : next ∈ (Pattern.seq opening (.seq (.group body) .wordBoundary)).ends start) :
    ∃ middle ∈ opening.ends start, ∃ inner ∈ body.ends middle,
      next.captured = some (middle.upTo inner) := by
  obtain ⟨middle, inOpening, inRest⟩ := List.mem_flatMap.mp inEnds
  obtain ⟨grouped, inGroup, atEnd⟩ := List.mem_flatMap.mp inRest
  obtain ⟨inner, inBody, rfl⟩ := List.mem_map.mp inGroup
  refine ⟨middle, inOpening, inner, inBody, ?_⟩
  rw [ends_captured .wordBoundary rfl _ next atEnd]

theorem toLower_numberSign {c : Char} (sign : c.toLower = '#') : c = '#' := by
  delta Char.toLower at sign
  split at sign
  · next upper =>
      have value : c.val + 32 = 35 := congrArg Char.val sign
      have number := congrArg UInt32.toNat value
      have above : 65 ≤ c.val.toNat := upper.1
      have below : c.val.toNat ≤ 90 := upper.2
      rw [UInt32.toNat_add] at number
      have small : (32 : UInt32).toNat = 32 ∧ (35 : UInt32).toNat = 35 := ⟨rfl, rfl⟩
      omega
  · exact sign

theorem captured_unsigned (whole : text = before ++ matched ++ after)
    (index : before.length = found.index) (some : captured ≠ []) (clean : '#' ∉ captured)
    {left right : Text} (same : matched.map Char.toLower =
      left ++ captured.map Char.toLower ++ right) (tag : '#' ∉ detection.replacement)
    (starts : detection.startIndex = found.index + left.length)
    (ends : detection.endIndex = found.index + left.length + captured.length) :
    Unsigned text detection := by
  have long : matched.length = left.length + captured.length + right.length := by
    simpa [Nat.add_assoc] using congrArg List.length same
  refine ⟨?_, ?_, ?_, tag⟩
  · rw [starts, ends]
    exact Nat.lt_add_of_pos_right (List.length_pos_of_ne_nil some)
  · rw [ends, whole, ← index]
    simp only [List.length_append]
    omega
  · have range : (text.drop detection.startIndex).take
        (detection.endIndex - detection.startIndex) =
          (matched.drop left.length).take captured.length := by
      have enough : captured.length ≤ (matched.drop left.length).length := by
        rw [List.length_drop]
        omega
      rw [starts, ends, whole, ← index, List.append_assoc, ← List.drop_drop, List.drop_left,
        List.drop_append_of_le_length (by omega), Nat.add_sub_cancel_left,
        List.take_append_of_le_length enough]
    have lower : ((matched.drop left.length).take captured.length).map Char.toLower =
        captured.map Char.toLower := by
      rw [List.map_take, List.map_drop, same, List.append_assoc, List.drop_left]
      have width : captured.length = (captured.map Char.toLower).length := by simp
      rw [width, List.take_left]
    rw [range]
    intro inRange
    have inLower : ('#' : Char).toLower ∈ captured.map Char.toLower :=
      lower ▸ List.mem_map_of_mem inRange
    obtain ⟨c, inCaptured, isSign⟩ := List.mem_map.mp inLower
    exact clean (toLower_numberSign isSign ▸ inCaptured)

theorem execAll_captured {opening body : Pattern}
    (regexIs : regex = .seq opening (.seq (.group body) .wordBoundary))
    (plain : opening.capturesNothing = true) (consumes : body.consumes = true)
    (avoids : body.avoids '#' = true) (member : found ∈ execAll regex text)
    (isCaptured : found.captured = some captured) :
    ∃ behind ahead, text = behind ++ found.matched ++ ahead ∧ behind.length = found.index ∧
      captured ≠ [] ∧ '#' ∉ captured := by
  have reads : regex.consumes = true := by
    rw [regexIs]
    simp [Pattern.consumes, consumes]
  obtain ⟨behind, ahead, whole, index, start, next, inEnds, fresh, _, same⟩ :=
    execAll_found reads member
  rw [regexIs] at inEnds
  obtain ⟨middle, inOpening, inner, inBody, isGroup⟩ := captured_group inEnds
  have unread := ends_captured opening plain start middle inOpening
  have clean := (ends_avoid body avoids middle (by simp [unread, fresh]) inner inBody).upTo
  rw [same, isCaptured] at isGroup
  rw [Option.some.inj isGroup]
  exact ⟨behind, ahead, whole, index, upTo_ne_nil consumes inBody, clean⟩

theorem nameCandidate_unsigned (member : found ∈ execAll nameRegex text)
    (isCandidate : nameCandidate found = some candidate) :
    Unsigned text candidate.toPiiDetection := by
  simp only [nameCandidate, Option.bind_eq_bind, Option.bind_eq_some_iff, Option.pure_def,
    Option.some.injEq] at isCandidate
  obtain ⟨captured, isCaptured, offset, isOffset, rfl⟩ := isCandidate
  obtain ⟨behind, ahead, whole, index, some, clean⟩ :=
    execAll_captured rfl (by decide) (by decide) (by decide) member
      isCaptured
  obtain ⟨left, right, split, rfl⟩ := indexOf_some isOffset
  have lower : found.matched.map Char.toLower =
      left.map Char.toLower ++ captured.map Char.toLower ++ right.map Char.toLower := by
    rw [split]
    simp
  have tag : '#' ∉ ("[NAME_REDACTED]" : String).toList := by decide
  exact captured_unsigned whole index some clean lower tag (by simp) (by simp)

theorem idCandidate_unsigned (member : found ∈ execAll idRegex text)
    (isCandidate : idCandidate found = some candidate) :
    Unsigned text candidate.toPiiDetection := by
  simp only [idCandidate, Option.bind_eq_bind, Option.bind_eq_some_iff, Option.pure_def,
    Option.some.injEq] at isCandidate
  obtain ⟨captured, isCaptured, offset, isOffset, rfl⟩ := isCandidate
  obtain ⟨behind, ahead, whole, index, some, clean⟩ :=
    execAll_captured rfl (by decide) (by decide) (by decide) member
      isCaptured
  obtain ⟨left, right, split, rfl⟩ := lastIndexOf_some isOffset
  have tag : '#' ∉ ("[ID_REDACTED]" : String).toList := by decide
  exact captured_unsigned whole index some clean split tag rfl rfl

theorem piiPatterns_unsigned : ∀ pattern ∈ piiPatterns, pattern.regex.consumes = true ∧
    pattern.regex.avoids '#' = true ∧ '#' ∉ pattern.replacement := by
  simp only [piiPatterns, List.forall_mem_cons]
  decide +kernel

theorem candidates_unsigned
    (member : candidate ∈ collectRegexCandidates text ++ collectHeuristicCandidates text) :
    Unsigned text candidate.toPiiDetection := by
  rcases List.mem_append.mp member with byPattern | byWords
  · obtain ⟨pattern, inPatterns, isCandidate⟩ := List.mem_flatMap.mp byPattern
    obtain ⟨consumes, avoids, tag⟩ := piiPatterns_unsigned pattern inPatterns
    exact regexCandidate_unsigned consumes avoids tag isCandidate
  · rcases List.mem_append.mp byWords with isName | isId
    · obtain ⟨found, inFound, isCandidate⟩ := List.mem_filterMap.mp isName
      exact nameCandidate_unsigned inFound isCandidate
    · obtain ⟨found, inFound, isCandidate⟩ := List.mem_filterMap.mp isId
      exact idCandidate_unsigned inFound isCandidate

def Apart (first second : PiiDetection) : Prop := first.overlaps second = false

theorem Apart.symm {first second : PiiDetection} (apart : Apart first second) :
    Apart second first := by
  simp only [Apart, PiiDetection.overlaps, rangesOverlap] at apart ⊢
  rwa [Bool.and_comm]

theorem selectCandidate_disjoint {selected : List DetectionCandidate}
    (disjoint : (selected.map (·.toPiiDetection)).Pairwise Apart)
    (candidate : DetectionCandidate) :
    ((selectCandidate selected candidate).map (·.toPiiDetection)).Pairwise Apart := by
  unfold selectCandidate
  split
  · exact disjoint
  · next free =>
      rw [List.map_append, List.pairwise_append]
      refine ⟨disjoint, List.pairwise_singleton _ _, ?_⟩
      intro existing inSelected added isAdded
      obtain ⟨row, inRows, rfl⟩ := List.mem_map.mp inSelected
      obtain rfl := List.mem_singleton.mp isAdded
      have apart : Apart candidate.toPiiDetection row.toPiiDetection := by
        cases overlaps : candidate.overlaps row.toPiiDetection with
        | false => exact overlaps
        | true => exact absurd (List.any_eq_true.mpr ⟨row, inRows, overlaps⟩) free
      exact apart.symm

theorem mem_selectCandidate {selected : List DetectionCandidate} {other : DetectionCandidate}
    (member : candidate ∈ selectCandidate selected other) :
    candidate ∈ selected ∨ candidate = other := by
  unfold selectCandidate at member
  split at member
  · exact Or.inl member
  · exact (List.mem_append.mp member).imp_right List.mem_singleton.mp

theorem selectCandidates {prioritized selected : List DetectionCandidate}
    (disjoint : (selected.map (·.toPiiDetection)).Pairwise Apart) :
    ((prioritized.foldl selectCandidate selected).map (·.toPiiDetection)).Pairwise Apart ∧
      ∀ candidate ∈ prioritized.foldl selectCandidate selected,
        candidate ∈ selected ∨ candidate ∈ prioritized := by
  induction prioritized generalizing selected with
  | nil => exact ⟨disjoint, fun _ => Or.inl⟩
  | cons first rest ih =>
    obtain ⟨stays, origin⟩ := ih (selectCandidate_disjoint disjoint first)
    refine ⟨stays, ?_⟩
    intro candidate member
    rcases origin candidate member with inSelected | inRest
    · rcases mem_selectCandidate inSelected with before | rfl
      · exact Or.inl before
      · exact Or.inr List.mem_cons_self
    · exact Or.inr (List.mem_cons_of_mem _ inRest)

theorem collectPiiDetections_disjoint (text : Text) :
    (collectPiiDetections text).Pairwise Apart := by
  have selected := (@selectCandidates ((collectRegexCandidates text ++
    collectHeuristicCandidates text).insertionSort fun first second => first.before second) []
      List.Pairwise.nil).1
  refine selected.perm ?_ Apart.symm
  apply List.Perm.map
  exact (List.perm_insertionSort _ _).symm

theorem collectPiiDetections_unsigned (member : detection ∈ collectPiiDetections text) :
    Unsigned text detection := by
  obtain ⟨candidate, inSorted, rfl⟩ := List.mem_map.mp member
  have inSelected := (List.mem_insertionSort _).mp inSorted
  rcases (selectCandidates List.Pairwise.nil).2 candidate inSelected with absent | inPrioritized
  · cases absent
  · exact candidates_unsigned ((List.mem_insertionSort _).mp inPrioritized)

/-- Ranges from the last to the first, each before the one that comes before it in the list. -/
def Descending (detections : List PiiDetection) : Prop :=
  detections.Pairwise fun later earlier => earlier.endIndex ≤ later.startIndex

theorem replaceRange_count (unsigned : Unsigned text detection) :
    (replaceRange text detection).count '#' = text.count '#' := by
  have split : text = text.take detection.startIndex ++
      ((text.drop detection.startIndex).take (detection.endIndex - detection.startIndex) ++
        text.drop detection.endIndex) := by
    have ends : detection.startIndex + (detection.endIndex - detection.startIndex) =
        detection.endIndex := Nat.add_sub_cancel' (Nat.le_of_lt unsigned.nonempty)
    rw [← ends, ← List.drop_drop, ends, List.take_append_drop, List.take_append_drop]
  conv => rhs; rw [split]
  simp only [replaceRange, List.count_append, List.count_eq_zero.mpr unsigned.range,
    List.count_eq_zero.mpr unsigned.replacement, Nat.zero_add, Nat.add_zero]

theorem Unsigned.afterReplaceRange {earlier : PiiDetection} (before : Unsigned text earlier)
    (ordered : earlier.endIndex ≤ detection.startIndex) :
    Unsigned (replaceRange text detection) earlier := by
  have fits : earlier.endIndex ≤ (text.take detection.startIndex).length := by
    rw [List.length_take]
    exact Nat.le_min.mpr ⟨ordered, before.within⟩
  refine { before with within := ?_, range := ?_ }
  · simp only [replaceRange, List.append_assoc, List.length_append]
    exact Nat.le_trans fits (Nat.le_add_right _ _)
  · have same : ((replaceRange text detection).drop earlier.startIndex).take
        (earlier.endIndex - earlier.startIndex) =
          (text.drop earlier.startIndex).take (earlier.endIndex - earlier.startIndex) := by
      have starts := before.nonempty
      rw [← List.drop_take, ← List.drop_take]
      simp only [replaceRange, List.append_assoc]
      rw [List.take_append_of_le_length fits, List.take_take, Nat.min_eq_left ordered]
    rw [same]
    exact before.range

theorem foldl_replaceRange_count {detections : List PiiDetection}
    (descending : Descending detections)
    (unsigned : ∀ detection ∈ detections, Unsigned text detection) :
    (detections.foldl replaceRange text).count '#' = text.count '#' := by
  induction detections generalizing text with
  | nil => rfl
  | cons last rest ih =>
    obtain ⟨ordered, descendingRest⟩ := List.pairwise_cons.mp descending
    have first := unsigned last List.mem_cons_self
    rw [List.foldl_cons, ih descendingRest, replaceRange_count first]
    intro earlier member
    exact (unsigned earlier (List.mem_cons_of_mem _ member)).afterReplaceRange
      (ordered earlier member)

theorem maskPii_count (text : Text) : (maskPii text).maskedText.count '#' = text.count '#' := by
  have unsigned {detection : PiiDetection} (member : detection ∈
      (collectPiiDetections text).insertionSort fun first second =>
        second.startIndex ≤ first.startIndex) : Unsigned text detection :=
    collectPiiDetections_unsigned ((List.mem_insertionSort _).mp member)
  apply foldl_replaceRange_count _ fun detection member => unsigned member
  have disjoint := (collectPiiDetections_disjoint text).perm
    (List.perm_insertionSort (fun first second : PiiDetection =>
      second.startIndex ≤ first.startIndex) _).symm Apart.symm
  have total : Std.Total fun first second : PiiDetection =>
      second.startIndex ≤ first.startIndex := ⟨fun _ _ => Nat.le_total _ _⟩
  have transitive : IsTrans PiiDetection fun first second =>
      second.startIndex ≤ first.startIndex :=
    ⟨fun _ _ _ before after => Nat.le_trans after before⟩
  have sorted := List.pairwise_insertionSort (fun first second : PiiDetection =>
    second.startIndex ≤ first.startIndex) (collectPiiDetections text)
  refine (disjoint.and sorted).imp_of_mem ?_
  intro later earlier inSorted _ ⟨apart, starts⟩
  have some := (unsigned inSorted).nonempty
  simp only [Apart, PiiDetection.overlaps, rangesOverlap, Bool.and_eq_false_iff,
    decide_eq_false_iff_not, Nat.not_lt] at apart
  omega

end

end StoryEngine.Pii
