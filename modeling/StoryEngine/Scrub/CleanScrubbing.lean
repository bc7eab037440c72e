import StoryEngine.Scrub.NameScrubbing
import StoryEngine.Text.Stops

namespace StoryEngine.Scrub

open Text Pattern

/-! # The leak check of scrubbed texts

The scrubber and the leak check look for the account's name and domains with patterns of their own.
The check finds what the scrubber's patterns leave: short names in another letter case, names of
three letters without their legal form, candidates beside letters, and the words of the labels.
-/

section

variable (cases : CaseMapping)

/-- One of the two is a word character: `\b`. -/
def Bounds (before after : Option Char) : Prop := before.any isWordChar ≠ after.any isWordChar

/-- The check reads the candidate in the lower case of what is found there, from its first to its
last character. -/
def Spotted (candidate left found right : Text) : Prop :=
  ∃ opening closing,
    cases.lowered found = opening ++ (cases.lowered candidate ++ closing) ∧
    (∀ c ∈ found.head?, opening.length < (cases.lowered [c]).length) ∧
    (∀ c ∈ found.getLast?, closing.length < (cases.lowered [c]).length) ∧
    ('.' ∈ cases.toLowerCase candidate ∨
      Bounds (cases.lowered left ++ opening).getLast? (cases.lowered candidate).head? ∧
        Bounds (cases.lowered candidate).getLast? (closing ++ cases.lowered right).head?)

/-- No candidate that the check searches for stands in the text where every pass leaves it, and no
label makes one, with the text beside it, for good. -/
def CandidatesTaken (account : ScrubAccount) (config : ScrubConfig) (text : Text) : Prop :=
  ∀ candidate ∈ leakCandidates cases account, 3 ≤ length16 (cases.toLowerCase candidate) →
    (∀ left found right, text = left ++ (found ++ right) →
      ¬Survives (Spotted cases candidate) (scrubPasses cases account config) left found right) ∧
    ¬Arises (Spotted cases candidate) (scrubPasses cases account config) text

end

section

variable {cases : CaseMapping} {isAlphanumeric : Char → Bool} {account : ScrubAccount}
  {config : ScrubConfig} {text candidate : Text}

theorem atBoundary_opening (keeps : ∀ c, isWordChar (cases.canonicalize c) = isWordChar c)
    {found : Text} (nonempty : found ≠ []) (before after : Text) :
    ({ behind := before.reverse, ahead := found ++ after } : Cursor).atBoundary = true ↔
      Bounds (before.map cases.canonicalize).getLast? (found.map cases.canonicalize).head? := by
  rw [Cursor.atBoundary, List.head?_reverse, head_append nonempty, bne_iff_ne, Bounds,
    List.getLast?_map, List.head?_map, any_letter keeps, any_letter keeps]

theorem atBoundary_closing (keeps : ∀ c, isWordChar (cases.canonicalize c) = isWordChar c)
    {found : Text} (nonempty : found ≠ []) (before after : Text) :
    ({ behind := found.reverse ++ before.reverse, ahead := after } : Cursor).atBoundary = true ↔
      Bounds (found.map cases.canonicalize).getLast? (after.map cases.canonicalize).head? := by
  have turned : found.reverse ≠ [] := by
    intro empty
    exact nonempty (List.reverse_eq_nil_iff.mp empty)
  rw [Cursor.atBoundary, head_append turned, List.head?_reverse, bne_iff_ne, Bounds,
    List.getLast?_map, List.head?_map, any_letter keeps, any_letter keeps]

/-- Whether the check's pattern matches is seen in the canonical forms of the letters. -/
theorem leakRegex_test (keeps : ∀ c, isWordChar (cases.canonicalize c) = isWordChar c)
    (some : candidate ≠ []) : (leakRegex cases candidate).test text = true ↔
      ∃ before after, text.map cases.canonicalize =
          before ++ (candidate.map cases.canonicalize ++ after) ∧
        ('.' ∈ candidate ∨
          Bounds before.getLast? (candidate.map cases.canonicalize).head? ∧
            Bounds (candidate.map cases.canonicalize).getLast? after.head?) := by
  have nonempty {found : Text}
      (same : found.map cases.canonicalize = candidate.map cases.canonicalize) : found ≠ [] := by
    rintro rfl
    exact some (List.map_eq_nil_iff.mp same.symm)
  have reads {before ahead : Text} {next : Cursor}
      (inEnds : next ∈ (Pattern.literal cases true candidate).ends
        { behind := before.reverse, ahead }) :
      ∃ found, found.map cases.canonicalize = candidate.map cases.canonicalize ∧
        ahead = found ++ next.ahead ∧ next.behind = found.reverse ++ before.reverse := by
    have reaches := Pattern.ends_reaches _ _ next inEnds
    exact ⟨_, literal_reads candidate _ next inEnds, reaches.ahead_eq, reaches.behind_eq⟩
  rw [test_iff, leakRegex]
  by_cases dotted : '.' ∈ candidate
  · rw [if_pos (List.contains_iff_mem.mpr dotted)]
    constructor
    · rintro ⟨before, ahead, rfl, matched⟩
      obtain ⟨next, inEnds⟩ := List.exists_mem_of_ne_nil _ matched
      obtain ⟨found, same, rfl, _⟩ := reads inEnds
      exact ⟨before.map cases.canonicalize, next.ahead.map cases.canonicalize, by simp [same],
        .inl dotted⟩
    · rintro ⟨left, right, whole, _⟩
      obtain ⟨before, ahead, rfl, _, rest⟩ := List.map_eq_append_iff.mp whole
      obtain ⟨found, after, rfl, same, _⟩ := List.map_eq_append_iff.mp rest
      refine ⟨before, found ++ after, rfl, ?_⟩
      rw [ends_literal same.symm]
      exact List.cons_ne_nil _ _
  · rw [if_neg (fun contained => dotted (List.contains_iff_mem.mp contained))]
    constructor
    · rintro ⟨before, ahead, rfl, matched⟩
      obtain ⟨next, inEnds⟩ := List.exists_mem_of_ne_nil _ matched
      obtain ⟨inLiteral, opens, closes⟩ := mem_bounded inEnds
      obtain ⟨found, same, rfl, behind⟩ := reads inLiteral
      refine ⟨before.map cases.canonicalize, next.ahead.map cases.canonicalize, by simp [same],
        .inr ?_⟩
      rw [Cursor.atBoundary, behind] at closes
      rw [← same]
      exact ⟨(atBoundary_opening keeps (nonempty same) before next.ahead).mp opens,
        (atBoundary_closing keeps (nonempty same) before next.ahead).mp closes⟩
    · rintro ⟨left, right, whole, isDotted | ⟨opens, closes⟩⟩
      · exact absurd isDotted dotted
      · obtain ⟨before, ahead, rfl, rfl, rest⟩ := List.map_eq_append_iff.mp whole
        obtain ⟨found, after, rfl, same, rfl⟩ := List.map_eq_append_iff.mp rest
        rw [← same, ← atBoundary_opening keeps (nonempty same) before after] at opens
        rw [← same, ← atBoundary_closing keeps (nonempty same) before after] at closes
        refine ⟨before, found ++ after, rfl, List.ne_nil_of_mem (mem_bounded_iff.mpr
          ⟨?_, opens, closes⟩)⟩
        rw [ends_literal same.symm]
        exact List.mem_singleton_self _

/-- The check finds the candidate where a stretch of the text shows it. -/
theorem leaks_iff (lawful : cases.Lawful isAlphanumeric)
    (some : cases.toLowerCase candidate ≠ []) :
    (leakRegex cases (cases.toLowerCase candidate)).test (cases.toLowerCase text) = true ↔
      ∃ left found right, text = left ++ (found ++ right) ∧
        Spotted cases candidate left found right := by
  rw [leakRegex_test lawful.isWordChar_canonicalize some]
  constructor
  · rintro ⟨before, after, whole, shape⟩
    have nonempty : cases.lowered candidate ≠ [] := by
      intro empty
      exact some (List.map_eq_nil_iff.mp empty)
    have parts : (text.flatMap fun c => cases.lowered [c]) =
        before ++ (cases.lowered candidate ++ after) := by
      rw [← lawful.lower_flatMap]
      exact whole
    obtain ⟨left, found, right, opening, closing, rfl, rfl, isFound, rfl, first, last⟩ :=
      flatMap_stretch parts nonempty
    rw [← lawful.lower_flatMap] at isFound
    rw [← lawful.lower_flatMap, ← lawful.lower_flatMap] at shape
    exact ⟨left, found, right, rfl, opening, closing, isFound, first, last, shape⟩
  · rintro ⟨left, found, right, rfl, opening, closing, isFound, _, _, shape⟩
    refine ⟨cases.lowered left ++ opening, closing ++ cases.lowered right, ?_, shape⟩
    have parts : cases.lowered (left ++ (found ++ right)) =
        cases.lowered left ++ (cases.lowered found ++ cases.lowered right) := by
      rw [CaseMapping.lowered, lawful.lower_append, lawful.lower_append]
      rfl
    rw [isFound] at parts
    refine parts.trans ?_
    simp only [CaseMapping.lowered, List.append_assoc]

end

def incorporated : ScrubAccount where
  name := ("Acme Inc." : String)
  normalizedName := ("acme" : String)
  domain := some ("acme.com" : String)
  domainAliases := []
  contacts := [{ name := some ("Jane Doe" : String), title := none }]
  companyNameReplacements := []

def incorporatedText : Text := ("Ask JANE DOE of Acme Inc. (jane@ACME.com)" : String)

def acronym : ScrubAccount :=
  { incorporated with name := ("IBM" : String), normalizedName := ("ibm" : String) }

end StoryEngine.Scrub
