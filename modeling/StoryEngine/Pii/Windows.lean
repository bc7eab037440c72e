import StoryEngine.Data.Ordered
import StoryEngine.Pii.Residue
import StoryEngine.Text.Windows

namespace StoryEngine.Pii

open Text Pattern Data

/-! # Masking a part of a text

Where the edges of a part cut no match of a detector, the detections in the part are those of the
part alone: the candidates are the same, no candidate of the rest overlaps them, and so the same
ones are preferred.
-/

def UncutPart (before inside after : Text) : Prop :=
  ∀ regex ∈ piiRegexes, regex.Uncut before inside after

instance (before inside after : Text) : Decidable (UncutPart before inside after) :=
  inferInstanceAs (Decidable (∀ regex ∈ piiRegexes, _))

def Covered (detections : List PiiDetection) (place : Nat) : Prop :=
  ∃ detection ∈ detections, detection.startIndex ≤ place ∧ place < detection.endIndex

instance (detections : List PiiDetection) : DecidablePred (Covered detections) :=
  fun place => inferInstanceAs (Decidable (∃ detection ∈ detections,
    detection.startIndex ≤ place ∧ place < detection.endIndex))

def foundIn : Piece → Option Found
  | .plain _ => none
  | .hit behind matched _ captured => some { index := behind.length, matched, captured }

def Found.shift (width : Nat) (found : Found) : Found := { found with index := width + found.index }

def DetectionCandidate.shift (width : Nat) (candidate : DetectionCandidate) : DetectionCandidate :=
  { candidate with
    startIndex := width + candidate.startIndex, endIndex := width + candidate.endIndex }

@[simp] theorem DetectionCandidate.shift_startIndex (candidate : DetectionCandidate) (width : Nat) :
    (candidate.shift width).startIndex = width + candidate.startIndex := rfl

@[simp] theorem DetectionCandidate.shift_endIndex (candidate : DetectionCandidate) (width : Nat) :
    (candidate.shift width).endIndex = width + candidate.endIndex := rfl

def DetectionCandidate.isWithin (first last : Nat) (candidate : DetectionCandidate) : Bool :=
  decide (first ≤ candidate.startIndex) && decide (candidate.endIndex ≤ last)

theorem DetectionCandidate.isWithin_iff {first last : Nat} {candidate : DetectionCandidate} :
    candidate.isWithin first last = true ↔
      first ≤ candidate.startIndex ∧ candidate.endIndex ≤ last := by
  rw [isWithin, Bool.and_eq_true, decide_eq_true_eq, decide_eq_true_eq]

/-- The candidates of a text in a part of it are those of the part, and the others are before it or
behind it. -/
structure PartCandidates (before inside : Text) (candidates part : List DetectionCandidate) :
    Prop where
  selected : candidates.filter (·.isWithin before.length (before.length + inside.length)) =
    part.map (·.shift before.length)
  apart : ∀ candidate ∈ candidates,
    candidate.isWithin before.length (before.length + inside.length) = true ∨
      candidate.endIndex ≤ before.length ∨ before.length + inside.length ≤ candidate.startIndex

section

variable {before inside after : Text} {regex : Pattern}

theorem execAll_eq (text : Text) : execAll regex text = (regex.scan text).filterMap foundIn := by
  apply List.filterMap_congr
  intro piece _
  cases piece with
  | plain c => rfl
  | hit behind matched ahead captured => rfl

theorem execAll_part (consumes : regex.consumes = true) (uncut : regex.Uncut before inside after) :
    ∃ earlier later, (∀ found ∈ earlier, found.index + found.matched.length ≤ before.length) ∧
      (∀ found ∈ later, before.length + inside.length ≤ found.index) ∧
      execAll regex (before ++ (inside ++ after)) =
        earlier ++ ((execAll regex inside).map (·.shift before.length) ++ later) := by
  obtain ⟨earlier, later, ending, starting, whole⟩ := scan_part consumes uncut
  have shifted : ((regex.scan inside).map (Piece.within before.reverse after)).filterMap foundIn =
      ((regex.scan inside).filterMap foundIn).map (·.shift before.length) := by
    rw [List.filterMap_map, List.map_filterMap]
    apply List.filterMap_congr
    intro piece _
    cases piece with
    | plain c => rfl
    | hit behind matched ahead captured =>
      simp only [Function.comp_apply, Piece.within, foundIn, Option.map_some, Found.shift,
        List.length_append, List.length_reverse, Nat.add_comm]
  refine ⟨earlier.filterMap foundIn, later.filterMap foundIn, ?_, ?_, ?_⟩
  · intro found member
    obtain ⟨piece, inEarlier, isFound⟩ := List.mem_filterMap.mp member
    cases piece with
    | plain c => cases isFound
    | hit behind matched ahead captured =>
      obtain rfl := Option.some.inj isFound
      exact ending behind matched ahead captured inEarlier
  · intro found member
    obtain ⟨piece, inLater, isFound⟩ := List.mem_filterMap.mp member
    cases piece with
    | plain c => cases isFound
    | hit behind matched ahead captured =>
      obtain rfl := Option.some.inj isFound
      exact starting behind matched ahead captured inLater
  · rw [execAll_eq, whole, List.filterMap_append, List.filterMap_append, shifted, execAll_eq]

/-- How a detector makes candidates: each from its match, in it and at a place that moves with it. -/
structure Follows (candidate : Found → Option DetectionCandidate) : Prop where
  moves : ∀ width found, candidate (found.shift width) =
    (candidate found).map (·.shift width)
  inMatch : ∀ found row, candidate found = some row →
    found.index ≤ row.startIndex ∧ row.endIndex ≤ found.index + found.matched.length

theorem partCandidates_of {candidate : Found → Option DetectionCandidate}
    (follows : Follows candidate) (consumes : regex.consumes = true)
    (uncut : regex.Uncut before inside after)
    (located : ∀ text, ∀ row ∈ (execAll regex text).filterMap candidate,
      Located text row.toPiiDetection) :
    PartCandidates before inside
      ((execAll regex (before ++ (inside ++ after))).filterMap candidate)
      ((execAll regex inside).filterMap candidate) := by
  obtain ⟨earlier, later, ending, starting, whole⟩ := execAll_part consumes uncut
  have all := located (before ++ (inside ++ after))
  have part := located inside
  rw [whole] at all
  have moved : ((execAll regex inside).map (·.shift before.length)).filterMap candidate =
      ((execAll regex inside).filterMap candidate).map (·.shift before.length) := by
    rw [List.filterMap_map, List.map_filterMap]
    apply List.filterMap_congr
    intro found _
    exact follows.moves before.length found
  rw [whole]
  rw [List.filterMap_append, List.filterMap_append, moved] at all ⊢
  have isEarlier : ∀ row ∈ earlier.filterMap candidate, row.endIndex ≤ before.length := by
    intro row member
    obtain ⟨found, inEarlier, isRow⟩ := List.mem_filterMap.mp member
    have inMatch := follows.inMatch found row isRow
    have ends := ending found inEarlier
    omega
  have isLater : ∀ row ∈ later.filterMap candidate,
      before.length + inside.length ≤ row.startIndex := by
    intro row member
    obtain ⟨found, inLater, isRow⟩ := List.mem_filterMap.mp member
    have inMatch := follows.inMatch found row isRow
    have starts := starting found inLater
    omega
  have isInside : ∀ row ∈ ((execAll regex inside).filterMap candidate).map (·.shift before.length),
      row.isWithin before.length (before.length + inside.length) = true := by
    intro row member
    obtain ⟨other, inPart, rfl⟩ := List.mem_map.mp member
    have within := (part other inPart).within
    rw [DetectionCandidate.isWithin_iff, other.shift_startIndex, other.shift_endIndex]
    omega
  constructor
  · rw [List.filter_append, List.filter_append, List.filter_eq_self.mpr isInside,
      List.filter_eq_nil_iff.mpr, List.filter_eq_nil_iff.mpr, List.nil_append, List.append_nil]
    · intro row member inRange
      have outside := isLater row member
      have within := (all row (by simp [member])).within
      rw [DetectionCandidate.isWithin_iff] at inRange
      omega
    · intro row member inRange
      have outside := isEarlier row member
      have within := (all row (by simp [member])).within
      rw [DetectionCandidate.isWithin_iff] at inRange
      omega
  · intro row member
    rcases List.mem_append.mp member with first | others
    · exact .inr (.inl (isEarlier row first))
    · rcases List.mem_append.mp others with middle | last
      · exact .inl (isInside row middle)
      · exact .inr (.inr (isLater row last))

theorem PartCandidates.append {first second partFirst partSecond : List DetectionCandidate}
    (left : PartCandidates before inside first partFirst)
    (right : PartCandidates before inside second partSecond) :
    PartCandidates before inside (first ++ second) (partFirst ++ partSecond) := by
  constructor
  · rw [List.filter_append, left.selected, right.selected, List.map_append]
  · intro candidate member
    rcases List.mem_append.mp member with inFirst | inSecond
    · exact left.apart candidate inFirst
    · exact right.apart candidate inSecond

theorem PartCandidates.flatMap {patterns : List PiiPattern}
    {candidates part : PiiPattern → List DetectionCandidate}
    (each : ∀ pattern ∈ patterns, PartCandidates before inside (candidates pattern) (part pattern)) :
    PartCandidates before inside (patterns.flatMap candidates) (patterns.flatMap part) := by
  induction patterns with
  | nil =>
    refine ⟨rfl, fun candidate absent => ?_⟩
    cases absent
  | cons pattern rest ih =>
    rw [List.flatMap_cons, List.flatMap_cons]
    exact (each pattern List.mem_cons_self).append
      (ih fun other member => each other (List.mem_cons_of_mem pattern member))

theorem located_follows {locate : Text → Text → Option Nat} {row : Text → DetectionCandidate}
    (inside : ∀ captured matched offset, locate captured matched = some offset →
      offset + captured.length ≤ matched.length) :
    Follows fun found => do
      let captured ← found.captured
      let offset ← locate captured found.matched
      return { row captured with
        startIndex := found.index + offset
        endIndex := found.index + offset + captured.length } := by
  constructor
  · intro width found
    unfold Found.shift
    cases captured : found.captured with
    | none => rfl
    | some text =>
      cases offset : locate text found.matched with
      | none => simp [offset]
      | some index => simp [offset, DetectionCandidate.shift, Nat.add_assoc]
  · intro found candidate isCandidate
    simp only [Option.bind_eq_bind, Option.bind_eq_some_iff, Option.pure_def,
      Option.some.injEq] at isCandidate
    obtain ⟨captured, _, offset, isOffset, rfl⟩ := isCandidate
    have fits := inside captured found.matched offset isOffset
    simp only
    omega

theorem nameCandidate_follows : Follows nameCandidate :=
  @located_follows indexOf
    (fun captured => {
      type := .personName
      original := captured
      replacement := "[NAME_REDACTED]"
      startIndex := 0
      endIndex := 0
      priority := 86 })
    fun captured matched offset isOffset => by
      obtain ⟨left, right, split, rfl⟩ := indexOf_some isOffset
      have lengths := congrArg List.length split
      simp only [List.length_append] at lengths
      omega

theorem idCandidate_follows : Follows idCandidate :=
  @located_follows
    (fun captured matched =>
      lastIndexOf (captured.map Char.toLower) (matched.map Char.toLower))
    (fun captured => {
      type := .accountIdentifier
      original := captured
      replacement := "[ID_REDACTED]"
      startIndex := 0
      endIndex := 0
      priority := 84 })
    fun captured matched offset isOffset => by
      obtain ⟨left, right, split, rfl⟩ := lastIndexOf_some isOffset
      have lengths := congrArg List.length split
      simp only [List.length_append, List.length_map] at lengths
      omega

def patternCandidate (pattern : PiiPattern) (found : Found) : Option DetectionCandidate :=
  some {
    type := pattern.type
    original := found.matched
    replacement := pattern.replacement
    startIndex := found.index
    endIndex := found.index + found.matched.length
    priority := pattern.priority }

theorem regexCandidates_eq (text : Text) (pattern : PiiPattern) : regexCandidates text pattern =
    (execAll pattern.regex text).filterMap (patternCandidate pattern) := by
  rw [regexCandidates, ← List.filterMap_eq_map]
  rfl

theorem patternCandidate_follows (pattern : PiiPattern) : Follows (patternCandidate pattern) := by
  constructor
  · intro width found
    simp [patternCandidate, Found.shift, DetectionCandidate.shift, Nat.add_assoc]
  · intro found row isRow
    obtain rfl := Option.some.inj isRow
    exact ⟨le_rfl, le_rfl⟩

theorem piiCandidates_part (uncut : UncutPart before inside after) :
    PartCandidates before inside (piiCandidates (before ++ (inside ++ after)))
      (piiCandidates inside) := by
  have regexes : PartCandidates before inside
      (collectRegexCandidates (before ++ (inside ++ after))) (collectRegexCandidates inside) := by
    apply PartCandidates.flatMap
    intro pattern member
    have consumes := (piiPatterns_unsigned pattern member).1
    rw [regexCandidates_eq, regexCandidates_eq]
    apply partCandidates_of (patternCandidate_follows pattern) consumes
    · exact uncut _ (List.mem_append_left _ (List.mem_map_of_mem member))
    · intro text row isRow
      rw [← regexCandidates_eq] at isRow
      exact regexCandidate_located consumes isRow
  have names := @partCandidates_of before inside after nameRegex nameCandidate
    nameCandidate_follows (by decide +kernel) (uncut nameRegex (by simp [piiRegexes]))
    (fun text row isRow => by
      obtain ⟨found, inFound, isCandidate⟩ := List.mem_filterMap.mp isRow
      exact nameCandidate_located inFound isCandidate)
  have ids := @partCandidates_of before inside after idRegex idCandidate
    idCandidate_follows (by decide +kernel) (uncut idRegex (by simp [piiRegexes]))
    (fun text row isRow => by
      obtain ⟨found, inFound, isCandidate⟩ := List.mem_filterMap.mp isRow
      exact idCandidate_located inFound isCandidate)
  exact regexes.append (names.append ids)

def selectedCandidates (text : Text) : List DetectionCandidate :=
  ((piiCandidates text).insertionSort fun first second => first.before second).foldl
    selectCandidate []

theorem mem_collectPiiDetections {text : Text} {detection : PiiDetection} :
    detection ∈ collectPiiDetections text ↔
      ∃ candidate ∈ selectedCandidates text, candidate.toPiiDetection = detection := by
  simp only [collectPiiDetections, List.mem_map, List.mem_insertionSort]
  rfl

theorem filter_selectCandidates {selects : DetectionCandidate → Bool}
    {prioritized selected : List DetectionCandidate}
    (apart : ∀ row ∈ selected ++ prioritized, ∀ other ∈ prioritized,
      selects row ≠ selects other → other.overlaps row.toPiiDetection = false) :
    (prioritized.foldl selectCandidate selected).filter selects =
      (prioritized.filter selects).foldl selectCandidate (selected.filter selects) := by
  induction prioritized generalizing selected with
  | nil => rfl
  | cons first rest ih =>
    have onward : ∀ row ∈ selectCandidate selected first ++ rest, ∀ other ∈ rest,
        selects row ≠ selects other → other.overlaps row.toPiiDetection = false := by
      intro row member other inRest differ
      refine apart row ?_ other (List.mem_cons_of_mem first inRest) differ
      rcases List.mem_append.mp member with inSelected | later
      · rcases mem_selectCandidate inSelected with before | rfl
        · exact List.mem_append_left _ before
        · exact List.mem_append_right _ List.mem_cons_self
      · exact List.mem_append_right _ (List.mem_cons_of_mem first later)
    rw [List.foldl_cons, ih onward]
    cases kind : selects first with
    | false =>
      have same : (selectCandidate selected first).filter selects = selected.filter selects := by
        rw [selectCandidate]
        split
        · rfl
        · rw [List.filter_append, List.filter_cons_of_neg (by simp [kind]), List.filter_nil,
            List.append_nil]
      rw [same, List.filter_cons_of_neg (by simp [kind])]
    | true =>
      have taken : (selected.any fun row => first.overlaps row.toPiiDetection) =
          (selected.filter selects).any fun row => first.overlaps row.toPiiDetection := by
        rw [Bool.eq_iff_iff, List.any_eq_true, List.any_eq_true]
        constructor
        · rintro ⟨row, member, overlaps⟩
          refine ⟨row, List.mem_filter.mpr ⟨member, ?_⟩, overlaps⟩
          by_contra other
          have free := apart row (List.mem_append_left _ member) first List.mem_cons_self
            (by rw [kind]; exact other)
          rw [free] at overlaps
          cases overlaps
        · rintro ⟨row, member, overlaps⟩
          exact ⟨row, List.mem_of_mem_filter member, overlaps⟩
      rw [List.filter_cons_of_pos kind, List.foldl_cons]
      congr 1
      rw [selectCandidate, selectCandidate, taken]
      split
      · rfl
      · rw [List.filter_append, List.filter_cons_of_pos kind, List.filter_nil]

theorem selectCandidates_shift (width : Nat) (prioritized selected : List DetectionCandidate) :
    (prioritized.map (·.shift width)).foldl selectCandidate (selected.map (·.shift width)) =
      (prioritized.foldl selectCandidate selected).map (·.shift width) := by
  induction prioritized generalizing selected with
  | nil => rfl
  | cons first rest ih =>
    have overlaps (row : DetectionCandidate) :
        (first.shift width).overlaps (row.shift width).toPiiDetection =
          first.overlaps row.toPiiDetection := by
      simp only [PiiDetection.overlaps, rangesOverlap, DetectionCandidate.shift_startIndex,
        DetectionCandidate.shift_endIndex, Nat.add_lt_add_iff_left]
    have moved : selectCandidate (selected.map (·.shift width)) (first.shift width) =
        (selectCandidate selected first).map (·.shift width) := by
      rw [selectCandidate, selectCandidate, List.any_map]
      simp only [Function.comp_def, overlaps]
      split
      · rfl
      · rw [List.map_append, List.map_singleton]
    rw [List.map_cons, List.foldl_cons, List.foldl_cons, moved, ih]

theorem before_shift (width : Nat) (first second : DetectionCandidate) :
    (first.shift width).before (second.shift width) = first.before second := by
  simp only [DetectionCandidate.before, DetectionCandidate.shift_startIndex,
    DetectionCandidate.shift_endIndex, Nat.add_sub_add_left, Nat.add_le_add_iff_left]
  rfl

theorem selectedCandidates_part (uncut : UncutPart before inside after) :
    (selectedCandidates (before ++ (inside ++ after))).filter
        (·.isWithin before.length (before.length + inside.length)) =
      (selectedCandidates inside).map (·.shift before.length) := by
  have total := before_total
  have transitive := before_trans
  have part := piiCandidates_part uncut
  have apart : ∀ row ∈ [] ++ (piiCandidates (before ++ (inside ++ after))).insertionSort
        (fun first second => first.before second),
      ∀ other ∈ (piiCandidates (before ++ (inside ++ after))).insertionSort
        (fun first second => first.before second),
      row.isWithin before.length (before.length + inside.length) ≠
        other.isWithin before.length (before.length + inside.length) →
      other.overlaps row.toPiiDetection = false := by
    intro row inRows other inOthers differ
    rw [List.nil_append, List.mem_insertionSort] at inRows
    rw [List.mem_insertionSort] at inOthers
    have rowWhere := part.apart row inRows
    have otherWhere := part.apart other inOthers
    have rowWithin := (candidate_located inRows).within
    have otherWithin := (candidate_located inOthers).within
    simp only [PiiDetection.overlaps, rangesOverlap, Bool.and_eq_false_iff, decide_eq_false_iff_not]
    rw [ne_eq, Bool.eq_iff_iff] at differ
    simp only [DetectionCandidate.isWithin_iff] at differ rowWhere otherWhere
    omega
  have moved := List.map_insertionSort (fun first second : DetectionCandidate => first.before second)
    (fun first second : DetectionCandidate => first.before second) (·.shift before.length)
    (piiCandidates inside) fun first _ second _ => by rw [before_shift]
  rw [selectedCandidates, filter_selectCandidates apart, filter_insertionSort, part.selected,
    ← moved]
  exact selectCandidates_shift before.length _ []

theorem uncutPart_of_stops {stops : Char → Prop}
    (unread : ∀ c, stops c → ∀ regex ∈ piiRegexes, regex.Stop c)
    (leftEdge : ∀ c ∈ before.getLast?, stops c)
    (rightEdge : (∀ c ∈ inside.getLast?, stops c) ∨ ∀ c ∈ after.head?, stops c) :
    UncutPart before inside after := by
  intro regex member
  apply uncut_of_stops (piiRegexes_local regex member).unanchored
  · intro c isLast
    exact unread c (leftEdge c isLast) regex member
  · apply rightEdge.imp
    · intro edge c isLast
      exact unread c (edge c isLast) regex member
    · intro edge c isFirst
      exact unread c (edge c isFirst) regex member

theorem covered_part (uncut : UncutPart before inside after) {place : Nat}
    (within : place < inside.length) :
    Covered (collectPiiDetections (before ++ (inside ++ after))) (before.length + place) ↔
      Covered (collectPiiDetections inside) place := by
  have selected := selectedCandidates_part uncut
  have part := piiCandidates_part uncut
  constructor
  · rintro ⟨detection, member, starts, ends⟩
    obtain ⟨candidate, isSelected, rfl⟩ := mem_collectPiiDetections.mp member
    have isCandidate : candidate ∈ piiCandidates (before ++ (inside ++ after)) := by
      rcases (selectCandidates List.Pairwise.nil).2 candidate isSelected with absent | inPrioritized
      · cases absent
      · exact (List.mem_insertionSort _).mp inPrioritized
    have isInside : candidate.isWithin before.length (before.length + inside.length) = true := by
      rcases part.apart candidate isCandidate with inside | outside
      · exact inside
      · omega
    have inFilter := List.mem_filter.mpr ⟨isSelected, isInside⟩
    rw [selected] at inFilter
    obtain ⟨row, inPart, rfl⟩ := List.mem_map.mp inFilter
    refine ⟨row.toPiiDetection, mem_collectPiiDetections.mpr ⟨row, inPart, rfl⟩, ?_, ?_⟩
    · rw [row.shift_startIndex] at starts
      omega
    · rw [row.shift_endIndex] at ends
      omega
  · rintro ⟨detection, member, starts, ends⟩
    obtain ⟨candidate, isSelected, rfl⟩ := mem_collectPiiDetections.mp member
    have inFilter : candidate.shift before.length ∈
        (selectedCandidates inside).map (·.shift before.length) := List.mem_map_of_mem isSelected
    rw [← selected] at inFilter
    refine ⟨(candidate.shift before.length).toPiiDetection,
      mem_collectPiiDetections.mpr ⟨_, List.mem_of_mem_filter inFilter, rfl⟩, ?_, ?_⟩
    · rw [candidate.shift_startIndex]
      omega
    · rw [candidate.shift_endIndex]
      omega

end

end StoryEngine.Pii
