import StoryEngine.Pii.ExactMasking
import StoryEngine.Text.Stops

namespace StoryEngine.Pii

open Text Pattern

/-! # What masking leaves

No detector reads a bracket, so each reads the tags and the texts between them one by one.  There is
nothing in the tags for them.  In the texts between them there can be something that was not there
before: a part of a candidate that was left out for a better one, or a match beside a detection,
where a word now ends.
-/

def uncoveredFrom (text : Text) : (place : Nat) → List PiiDetection → List Text
  | place, [] => [text.drop place]
  | place, detection :: later =>
    (text.drop place).take (detection.startIndex - place) ::
      uncoveredFrom text detection.endIndex later

def uncovered (text : Text) : List Text := uncoveredFrom text 0 (collectPiiDetections text)

def piiRegexes : List Pattern := piiPatterns.map (·.regex) ++ [nameRegex, idRegex]

def Closed (tag : Text) : Prop :=
  ∃ name, tag = '[' :: (name ++ [']']) ∧ containsPii name = false

section

variable {text part : Text}

/-- A detector that looks no further than the characters beside it, and reads no bracket. -/
structure ReadsNoBracket (regex : Pattern) : Prop where
  unanchored : regex.unanchored = true
  opening : regex.stopsAt '[' = true
  closing : regex.stopsAt ']' = true

instance (regex : Pattern) : Decidable (ReadsNoBracket regex) :=
  decidable_of_iff (regex.unanchored = true ∧ regex.stopsAt '[' = true ∧ regex.stopsAt ']' = true)
    ⟨fun ⟨unanchored, opening, closing⟩ => ⟨unanchored, opening, closing⟩,
      fun reads => ⟨reads.unanchored, reads.opening, reads.closing⟩⟩

theorem piiRegexes_local : ∀ regex ∈ piiRegexes, ReadsNoBracket regex := by
  decide +kernel

theorem execAll_eq_nil {regex : Pattern} : execAll regex text = [] ↔ regex.test text = false := by
  have hits := @scanFrom_hits regex (text.length + 1) (Cursor.ofText text) rfl (Nat.lt_succ_self _)
  have nowhere : regex.test text = false ↔ ∀ read rest, text = read ++ rest →
      regex.ends { behind := read.reverse, ahead := rest } = [] := by
    rw [← Bool.not_eq_true, test_iff]
    push Not
    rfl
  rw [nowhere, execAll, List.filterMap_eq_nil_iff]
  simp only [Cursor.ofText, List.append_nil] at hits
  rw [← hits]
  constructor
  · intro none piece member
    cases piece with
    | plain c => exact ⟨c, rfl⟩
    | hit behind matched ahead captured => cases none _ member
  · intro plain piece member
    obtain ⟨c, rfl⟩ := plain piece member
    rfl

theorem indexOf_inside {before after : Text} : indexOf part (before ++ (part ++ after)) ≠ none := by
  induction before with
  | nil =>
    cases part with
    | nil =>
      cases after with
      | nil => exact Option.some_ne_none _
      | cons c rest => exact Option.some_ne_none _
    | cons c rest =>
      have begins : (c :: rest).isPrefixOf (c :: rest ++ after) = true :=
        List.isPrefixOf_iff_prefix.mpr (List.prefix_append _ _)
      rw [List.nil_append, List.cons_append, indexOf, ← List.cons_append, if_pos begins]
      exact Option.some_ne_none _
  | cons c rest ih =>
    rw [List.cons_append, indexOf]
    split
    · exact Option.some_ne_none _
    · exact fun none => ih (Option.map_eq_none_iff.mp none)

theorem nameCandidate_some {found : Found} (member : found ∈ execAll nameRegex text) :
    ∃ candidate, nameCandidate found = some candidate := by
  obtain ⟨_, _, before, captured, _, _, split, isCaptured⟩ :=
    execAll_suffix rfl (by decide) member
  have some := @indexOf_inside captured before []
  rw [List.append_nil, ← split] at some
  obtain ⟨offset, isOffset⟩ := Option.ne_none_iff_exists'.mp some
  simp only [nameCandidate, isCaptured, Option.bind_eq_bind, Option.bind_some, isOffset]
  exact ⟨_, rfl⟩

theorem idCandidate_some {found : Found} (member : found ∈ execAll idRegex text) :
    ∃ candidate, idCandidate found = some candidate := by
  obtain ⟨_, _, before, captured, _, _, split, isCaptured⟩ :=
    execAll_suffix rfl (by decide) member
  have some := captured_ne_nil rfl (by decide) member isCaptured
  have lower : captured.map Char.toLower ≠ [] := fun empty => some (List.map_eq_nil_iff.mp empty)
  have isOffset := lastIndexOf_suffix lower (before.map Char.toLower)
  rw [← List.map_append, ← split] at isOffset
  simp only [idCandidate, isCaptured, Option.bind_eq_bind, Option.bind_some, isOffset]
  exact ⟨_, rfl⟩

theorem filterMap_eq_nil {regex : Pattern} {candidate : Found → Option DetectionCandidate}
    (some : ∀ found ∈ execAll regex text, ∃ row, candidate found = some row) :
    (execAll regex text).filterMap candidate = [] ↔ regex.test text = false := by
  rw [← execAll_eq_nil]
  constructor
  · intro none
    apply List.eq_nil_iff_forall_not_mem.mpr
    intro found member
    obtain ⟨row, isRow⟩ := some found member
    have absent := List.filterMap_eq_nil_iff.mp none found member
    rw [isRow] at absent
    cases absent
  · intro none
    rw [none]
    rfl

theorem piiCandidates_eq_nil :
    piiCandidates text = [] ↔ ∀ regex ∈ piiRegexes, regex.test text = false := by
  have byPattern : collectRegexCandidates text = [] ↔
      ∀ pattern ∈ piiPatterns, pattern.regex.test text = false := by
    rw [collectRegexCandidates, List.flatMap_eq_nil_iff]
    simp only [regexCandidates, List.map_eq_nil_iff, execAll_eq_nil]
  have byName := @filterMap_eq_nil text nameRegex nameCandidate fun _ => nameCandidate_some
  have byId := @filterMap_eq_nil text idRegex idCandidate fun _ => idCandidate_some
  rw [piiCandidates, collectHeuristicCandidates, List.append_eq_nil_iff, List.append_eq_nil_iff,
    byPattern, byName, byId]
  simp only [piiRegexes, List.forall_mem_append, List.forall_mem_map, List.forall_mem_cons,
    List.not_mem_nil, false_implies, implies_true, and_true]

theorem containsPii_iff (text : Text) :
    containsPii text = piiRegexes.any fun regex => regex.test text := by
  have detected : collectPiiDetections text = [] ↔ piiCandidates text = [] := by
    constructor
    · intro none
      apply List.eq_nil_iff_forall_not_mem.mpr
      intro candidate member
      obtain ⟨_, _, isDetected, _⟩ := collectPiiDetections_preferred member
        (by rw [none]; exact List.not_mem_nil)
      rw [none] at isDetected
      cases isDetected
    · intro none
      apply List.eq_nil_iff_forall_not_mem.mpr
      intro detection member
      obtain ⟨candidate, isCandidate, _⟩ := detection_candidate member
      rw [none] at isCandidate
      cases isCandidate
  rw [Bool.eq_iff_iff, ← not_iff_not, Bool.not_eq_true, Bool.not_eq_true, containsPii,
    Bool.not_eq_false', List.isEmpty_iff, detected, piiCandidates_eq_nil, List.any_eq_false]
  simp only [Bool.not_eq_true]

theorem containsPii_append_stop {stop : Char}
    (stops : ∀ regex ∈ piiRegexes, regex.unanchored = true ∧ regex.stopsAt stop = true)
    (noWord : isWordChar stop = false) (before after : Text) :
    containsPii (before ++ stop :: after) = (containsPii before || containsPii after) := by
  have split : ∀ regex ∈ piiRegexes, regex.test (before ++ stop :: after) =
      (regex.test before || regex.test after) := by
    intro regex member
    exact test_append_stop (stops regex member).1 (stops regex member).2 noWord before after
  rw [Bool.eq_iff_iff, Bool.or_eq_true]
  simp only [containsPii_iff, List.any_eq_true]
  constructor
  · rintro ⟨regex, member, found⟩
    rw [split regex member, Bool.or_eq_true] at found
    exact found.imp (⟨regex, member, ·⟩) (⟨regex, member, ·⟩)
  · rintro (⟨regex, member, found⟩ | ⟨regex, member, found⟩)
    · exact ⟨regex, member, by rw [split regex member, found, Bool.true_or]⟩
    · exact ⟨regex, member, by rw [split regex member, found, Bool.or_true]⟩

theorem Closed.containsPii {tag : Text} (closed : Closed tag) (before after : Text) :
    Pii.containsPii (before ++ (tag ++ after)) =
      (Pii.containsPii before || Pii.containsPii after) := by
  obtain ⟨name, rfl, clean⟩ := closed
  have opens := @containsPii_append_stop '['
    (fun regex member =>
      ⟨(piiRegexes_local regex member).unanchored, (piiRegexes_local regex member).opening⟩)
    (by decide)
  have closes := @containsPii_append_stop ']'
    (fun regex member =>
      ⟨(piiRegexes_local regex member).unanchored, (piiRegexes_local regex member).closing⟩)
    (by decide)
  simp only [List.cons_append, List.append_assoc, List.nil_append]
  rw [opens, closes, clean, Bool.false_or]

def tagNames : List String :=
  ["EMAIL_REDACTED", "SSN_REDACTED", "CC_REDACTED", "PHONE_REDACTED", "IP_REDACTED",
    "ADDRESS_REDACTED", "DOB_REDACTED", "NAME_REDACTED", "ID_REDACTED"]

theorem tagNames_clean : ∀ name ∈ tagNames, Pii.containsPii name.toList = false := by
  decide +kernel

theorem piiPatterns_closed : ∀ pattern ∈ piiPatterns, Closed pattern.replacement := by
  have names : ∀ pattern ∈ piiPatterns, ∃ name ∈ tagNames,
      pattern.replacement = '[' :: (name.toList ++ [']']) := by
    decide +kernel
  intro pattern member
  obtain ⟨name, inNames, whole⟩ := names pattern member
  exact ⟨name.toList, whole, tagNames_clean name inNames⟩

theorem wordTags_closed :
    Closed ("[NAME_REDACTED]" : String).toList ∧ Closed ("[ID_REDACTED]" : String).toList :=
  ⟨⟨("NAME_REDACTED" : String).toList, rfl, tagNames_clean _ (by decide)⟩,
    ⟨("ID_REDACTED" : String).toList, rfl, tagNames_clean _ (by decide)⟩⟩

theorem detection_closed {detection : PiiDetection}
    (member : detection ∈ collectPiiDetections text) : Closed detection.replacement := by
  obtain ⟨candidate, isCandidate, rfl⟩ := detection_candidate member
  rcases List.mem_append.mp isCandidate with byPattern | byWords
  · obtain ⟨pattern, inPatterns, isFound⟩ := List.mem_flatMap.mp byPattern
    obtain ⟨found, _, rfl⟩ := List.mem_map.mp isFound
    exact piiPatterns_closed pattern inPatterns
  · rcases List.mem_append.mp byWords with isName | isId
    · obtain ⟨found, _, isFound⟩ := List.mem_filterMap.mp isName
      simp only [nameCandidate, Option.bind_eq_bind, Option.bind_eq_some_iff, Option.pure_def,
        Option.some.injEq] at isFound
      obtain ⟨_, _, _, _, rfl⟩ := isFound
      exact wordTags_closed.1
    · obtain ⟨found, _, isFound⟩ := List.mem_filterMap.mp isId
      simp only [idCandidate, Option.bind_eq_bind, Option.bind_eq_some_iff, Option.pure_def,
        Option.some.injEq] at isFound
      obtain ⟨_, _, _, _, rfl⟩ := isFound
      exact wordTags_closed.2

theorem Replaced.containsPii {whole masked : Text} {place : Nat} {detections : List PiiDetection}
    (replaced : Replaced place text detections masked) (remains : whole.drop place = text)
    (closed : ∀ detection ∈ detections, Closed detection.replacement) :
    Pii.containsPii masked = (uncoveredFrom whole place detections).any Pii.containsPii := by
  induction replaced with
  | rest place text => simp only [uncoveredFrom, remains, List.any_cons, List.any_nil, Bool.or_false]
  | @next place between text masked detection detections starts ends later ih =>
    have upToStart : (whole.drop place).take (detection.startIndex - place) = between := by
      rw [remains, starts, Nat.add_sub_cancel_left, List.take_left]
    have onward : whole.drop detection.endIndex = text := by
      have width : detection.endIndex =
          place + (between.length + detection.original.length) := by omega
      rw [width, ← List.drop_drop, remains, ← List.append_assoc, ← List.length_append,
        List.drop_left]
    have first := closed detection List.mem_cons_self
    rw [first.containsPii, uncoveredFrom, upToStart, List.any_cons,
      ih onward fun other member => closed other (List.mem_cons_of_mem detection member)]

/-- Nothing is detected in a masked text exactly when nothing is in any part that no detection of
the text covers, read by itself. -/
theorem maskPii_clean_iff (text : Text) : containsPii (maskPii text).maskedText = false ↔
    ∀ part ∈ uncovered text, containsPii part = false := by
  obtain ⟨masked, folded, replaced⟩ := foldr_replaceRange (collectPiiDetections_ascending text)
    (fun _ member => detection_located member) fun detection _ => Nat.zero_le detection.startIndex
  rw [List.take_zero, List.nil_append] at folded
  have same : (maskPii text).maskedText = masked := by
    rw [maskPii, descending_eq_reverse, List.foldl_reverse, folded]
  rw [same, replaced.containsPii rfl fun _ member => detection_closed member, ← uncovered,
    List.any_eq_false]
  simp only [Bool.not_eq_true]

/-- The address is left out for the phone number, and the rest of it is an address. -/
theorem maskPii_not_clean :
    containsPii (maskPii "555-123-4567 12 Main Street".toList).maskedText = true ∧
      (maskPii "555-123-4567 12 Main Street".toList).maskedText =
        "[PHONE_REDACTED] 12 Main Street".toList := by
  decide +kernel

end

end StoryEngine.Pii
