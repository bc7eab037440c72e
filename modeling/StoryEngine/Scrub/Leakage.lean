import StoryEngine.Scrub.CompanyScrubber

namespace StoryEngine.Scrub

open Text

/-! # Leak detection

After scrubbing, the account's name and domains are searched for once more by
patterns of their own. -/

section

variable (cases : CaseMapping)

def leakCandidates (account : ScrubAccount) : List Text :=
  let name :=
    if account.name.isEmpty then []
    else
      let normalized := normalizeCompanyName cases account.name
      trim account.name :: if normalized.isEmpty then [] else [normalized]
  let domains := (account.domain.toList ++ account.domainAliases).filter fun domain =>
    !domain.isEmpty
  (name ++ domains.map trim).eraseDups

def leakRegex (candidate : Text) : Pattern :=
  if candidate.contains '.' then .literal cases true candidate
  else bounded (.literal cases true candidate)

def detectScrubLeakage (account : ScrubAccount) (textFragments : List Text) : List Text :=
  let combined := cases.toLowerCase (join ['\n'] textFragments)
  let leaks (rawCandidate : Text) : Bool :=
    let candidate := cases.toLowerCase rawCandidate
    !(length16 candidate < 3) && (leakRegex cases candidate).test combined
  ((leakCandidates cases account).filter leaks).take 10

end

/-- What must not survive: the account's name, its domain, and its domain
aliases, where they are not empty. -/
def ScrubAccount.Identifies (account : ScrubAccount) (identifier : Text) : Prop :=
  identifier ≠ [] ∧ ((identifier = account.name ∧ 3 ≤ length16 identifier) ∨
    account.domain = some identifier ∨ identifier ∈ account.domainAliases)

/-- An occurrence, in any letter case, without a letter or digit next to it. -/
def Shown (cases : CaseMapping) (isAlphanumeric : Char → Bool) (identifier before found after : Text) :
    Prop :=
  cases.SameIgnoringCase found identifier ∧
    before.getLast?.any isAlphanumeric = false ∧ after.head?.any isAlphanumeric = false

def Exposes (cases : CaseMapping) (isAlphanumeric : Char → Bool) (text identifier : Text) : Prop :=
  ∃ before found after, text = before ++ (found ++ after) ∧
    Shown cases isAlphanumeric identifier before found after

/-- The detector's candidate for an identifier is long enough to be searched. -/
def Searched (cases : CaseMapping) (identifier : Text) : Prop :=
  3 ≤ length16 (cases.toLowerCase (trim identifier))

def Dotted (cases : CaseMapping) (identifier : Text) : Prop :=
  '.' ∈ cases.toLowerCase (trim identifier)

def WordEdged (cases : CaseMapping) (identifier : Text) : Prop :=
  (cases.toLowerCase (trim identifier)).head?.any isWordChar = true ∧
    (cases.toLowerCase (trim identifier)).getLast?.any isWordChar = true

instance (cases : CaseMapping) (identifier : Text) : Decidable (Searched cases identifier) :=
  inferInstanceAs (Decidable (_ ≤ _))

instance (cases : CaseMapping) (identifier : Text) : Decidable (WordEdged cases identifier) :=
  inferInstanceAs (Decidable (_ ∧ _))

/-- The detector's pattern for the identifier matches an occurrence between the two texts. -/
def Reached (cases : CaseMapping) (identifier before after : Text) : Prop :=
  Searched cases identifier ∧
    (Dotted cases identifier ∨
      WordEdged cases identifier ∧ before.getLast? ≠ some '_' ∧ after.head? ≠ some '_')

section

variable {cases : CaseMapping} {isAlphanumeric : Char → Bool}

private theorem mem_join {separator part : Text} {parts : List Text} (member : part ∈ parts) :
    ∃ before after, join separator parts = before ++ (part ++ after) ∧
      (before = [] ∨ ∃ earlier, before = earlier ++ separator) ∧
      (after = [] ∨ ∃ later, after = separator ++ later) := by
  induction parts with
  | nil => cases member
  | cons first rest ih =>
    cases rest with
    | nil =>
      rw [List.mem_singleton.mp member]
      exact ⟨[], [], by simp [join], .inl rfl, .inl rfl⟩
    | cons second others =>
      rcases List.mem_cons.mp member with same | later
      · subst same
        exact ⟨[], separator ++ join separator (second :: others), by simp [join], .inl rfl,
          .inr ⟨_, rfl⟩⟩
      · obtain ⟨before, after, joined, opens, closes⟩ := ih later
        refine ⟨first ++ separator ++ before, after, ?_, .inr ?_, closes⟩
        · rw [join, joined]
          · simp
          · simp
        · rcases opens with none | ⟨earlier, some⟩
          · exact ⟨first, by simp [none]⟩
          · exact ⟨first ++ separator ++ earlier, by simp [some]⟩

private def isSymbol (isAlphanumeric : Char → Bool) (c : Char) : Bool :=
  !isAlphanumeric c && c != '_'

private theorem isSymbol_space (lawful : cases.Lawful isAlphanumeric) {c : Char}
    (space : isSpace c = true) : isSymbol isAlphanumeric c = true := by
  have notUnderscore : c ≠ '_' := by
    rintro rfl
    revert space
    decide
  simp [isSymbol, lawful.space_symbol c space, notUnderscore]

private theorem any_isWordChar_canonicalize (lawful : cases.Lawful isAlphanumeric)
    (found : Option Char) :
    (found.map cases.canonicalize).any isWordChar = found.any isWordChar := by
  cases found with
  | none => rfl
  | some c => exact lawful.isWordChar_canonicalize c

private theorem lower_nil (lawful : cases.Lawful isAlphanumeric) : cases.toLowerCase [] = [] := by
  have lengths := congrArg List.length (lawful.lower_append [] [])
  simp only [List.append_nil, List.length_map, List.length_append] at lengths
  exact List.eq_nil_of_length_eq_zero (by omega)

private theorem lower_symbol (lawful : cases.Lawful isAlphanumeric) {c d : Char}
    (symbol : isSymbol isAlphanumeric c = true) (member : d ∈ cases.toLowerCase [c]) :
    isWordChar d = false := by
  simp only [isSymbol, Bool.and_eq_true, Bool.not_eq_true', bne_iff_ne] at symbol
  exact lawful.lower_word c symbol.1 symbol.2 d member

variable {text identifier : Text} {fragments : List Text} {account : ScrubAccount}

private theorem lower_getLast (lawful : cases.Lawful isAlphanumeric)
    (symbol : ∀ c ∈ text.getLast?, isSymbol isAlphanumeric c = true) :
    (cases.toLowerCase text).getLast?.any isWordChar = false := by
  rcases List.eq_nil_or_concat text with empty | ⟨rest, c, split⟩
  · rw [empty, lower_nil lawful]
    rfl
  · have ends : isSymbol isAlphanumeric c = true := symbol c (by simp [split])
    have parts := congrArg List.getLast? (lawful.lower_append rest [c])
    rw [← any_isWordChar_canonicalize lawful, ← List.getLast?_map, split, List.concat_eq_append,
      parts, List.getLast?_append, List.getLast?_map]
    cases known : (cases.toLowerCase [c]).getLast? with
    | none => exact absurd (List.getLast?_eq_none_iff.mp known) (lawful.lower_nonempty c)
    | some d =>
      have member := List.mem_of_getLast? known
      simp [lawful.isWordChar_canonicalize, lower_symbol lawful ends member]

private theorem lower_head (lawful : cases.Lawful isAlphanumeric)
    (symbol : ∀ c ∈ text.head?, isSymbol isAlphanumeric c = true) :
    (cases.toLowerCase text).head?.any isWordChar = false := by
  cases text with
  | nil =>
    rw [lower_nil lawful]
    rfl
  | cons c rest =>
    have starts : isSymbol isAlphanumeric c = true := symbol c (by simp)
    have parts := congrArg List.head? (lawful.lower_append [c] rest)
    rw [← any_isWordChar_canonicalize lawful, ← List.head?_map,
      show c :: rest = [c] ++ rest from rfl, parts, List.head?_append, List.head?_map]
    cases known : (cases.toLowerCase [c]).head? with
    | none => exact absurd (List.head?_eq_none_iff.mp known) (lawful.lower_nonempty c)
    | some d =>
      have member := List.mem_of_head? known
      simp [lawful.isWordChar_canonicalize, lower_symbol lawful starts member]

private theorem lower_occurrence (lawful : cases.Lawful isAlphanumeric)
    {found leading trailing : Text} (before after : Text)
    (same : cases.SameIgnoringCase found identifier)
    (trimmed : identifier = leading ++ trim identifier ++ trailing) :
    ∃ start middle rest, cases.toLowerCase (before ++ (found ++ after)) = start ++ (middle ++ rest) ∧
      start.map cases.canonicalize =
        (cases.toLowerCase (before ++ leading)).map cases.canonicalize ∧
      (cases.toLowerCase (trim identifier)).map cases.canonicalize =
        middle.map cases.canonicalize ∧
      rest.map cases.canonicalize =
        (cases.toLowerCase (trailing ++ after)).map cases.canonicalize := by
  have whole : (cases.toLowerCase (before ++ (found ++ after))).map cases.canonicalize =
      (cases.toLowerCase (before ++ leading)).map cases.canonicalize ++
        ((cases.toLowerCase (trim identifier)).map cases.canonicalize ++
          (cases.toLowerCase (trailing ++ after)).map cases.canonicalize) := by
    have middle := congrArg (fun text => (cases.toLowerCase text).map cases.canonicalize) trimmed
    simp only [lawful.lower_append] at middle
    simp only [lawful.lower_append, List.append_assoc]
    rw [show cases.toLowerCase found = cases.toLowerCase identifier from same, middle]
    simp only [List.append_assoc]
  obtain ⟨start, later, text, starts, others⟩ := List.map_eq_append_iff.mp whole
  obtain ⟨middle, rest, split, found, ends⟩ := List.map_eq_append_iff.mp others
  exact ⟨start, middle, rest, by rw [text, split], starts, found.symm, ends⟩

private theorem getLast_append_symbol {left right : Text}
    (inRight : ∀ c ∈ right.getLast?, isSymbol isAlphanumeric c = true)
    (inLeft : right = [] → ∀ c ∈ left.getLast?, isSymbol isAlphanumeric c = true) :
    ∀ c ∈ (left ++ right).getLast?, isSymbol isAlphanumeric c = true := by
  intro c member
  rw [List.getLast?_append] at member
  cases known : right.getLast? with
  | none =>
    rw [known] at member
    exact inLeft (List.getLast?_eq_none_iff.mp known) c (by simpa using member)
  | some d =>
    rw [known] at member
    exact inRight c (by simpa [known] using member)

private theorem head_append_symbol {left right : Text}
    (inLeft : ∀ c ∈ left.head?, isSymbol isAlphanumeric c = true)
    (inRight : left = [] → ∀ c ∈ right.head?, isSymbol isAlphanumeric c = true) :
    ∀ c ∈ (left ++ right).head?, isSymbol isAlphanumeric c = true := by
  cases left with
  | nil => simpa using inRight rfl
  | cons d rest => simpa using inLeft

private theorem isSymbol_neighbour {neighbour : Option Char} (other : neighbour ≠ some '_')
    (notAlphanumeric : neighbour.any isAlphanumeric = false) :
    ∀ c ∈ neighbour, isSymbol isAlphanumeric c = true := by
  intro c member
  rw [Option.mem_def.mp member] at other notAlphanumeric
  have symbol : isAlphanumeric c = false := by simpa using notAlphanumeric
  have notUnderscore : c ≠ '_' := by simpa using other
  simp [isSymbol, symbol, notUnderscore]

private theorem leakRegex_finds (lawful : cases.Lawful isAlphanumeric)
    {before found after : Text} (member : before ++ (found ++ after) ∈ fragments)
    (reached : Reached cases identifier before after)
    (shown : Shown cases isAlphanumeric identifier before found after) :
    (leakRegex cases (cases.toLowerCase (trim identifier))).test
      (cases.toLowerCase (join ['\n'] fragments)) = true := by
  obtain ⟨same, noneBefore, noneAfter⟩ := shown
  obtain ⟨earlier, later, joined, opens, closes⟩ := mem_join member
  obtain ⟨leading, trailing, trimmed, leadingSpace, trailingSpace⟩ := trim_decomposition identifier
  have placed : join ['\n'] fragments = (earlier ++ before) ++ (found ++ (after ++ later)) := by
    rw [joined]
    simp only [List.append_assoc]
  obtain ⟨start, middle, rest, lowered, starts, agrees, ends⟩ :=
    lower_occurrence lawful (earlier ++ before) (after ++ later) same trimmed
  rw [placed, lowered]
  by_cases dotted : Dotted cases identifier
  · have plain : (cases.toLowerCase (trim identifier)).contains '.' = true := by
      simpa [Dotted] using dotted
    rw [leakRegex, if_pos plain]
    exact Pattern.test_literal agrees
  · obtain ⟨⟨firstWord, lastWord⟩, otherBefore, otherAfter⟩ := reached.2.resolve_left dotted
    have undotted : ¬(cases.toLowerCase (trim identifier)).contains '.' = true := by
      simpa [Dotted] using dotted
    rw [leakRegex, if_neg undotted]
    have newline : isSymbol isAlphanumeric '\n' = true := isSymbol_space lawful (by decide)
    have leftSymbol : ∀ c ∈ (earlier ++ before ++ leading).getLast?,
        isSymbol isAlphanumeric c = true := by
      refine getLast_append_symbol ?_ fun _ => getLast_append_symbol ?_ fun _ => ?_
      · intro c last
        exact isSymbol_space lawful (leadingSpace c (List.mem_of_getLast? last))
      · exact isSymbol_neighbour otherBefore noneBefore
      · rcases opens with none | ⟨first, some⟩
        · simp [none]
        · simpa [some] using newline
    have rightSymbol : ∀ c ∈ (trailing ++ (after ++ later)).head?,
        isSymbol isAlphanumeric c = true := by
      refine head_append_symbol ?_ fun _ => head_append_symbol ?_ fun _ => ?_
      · intro c first
        exact isSymbol_space lawful (trailingSpace c (List.mem_of_head? first))
      · exact isSymbol_neighbour otherAfter noneAfter
      · rcases closes with none | ⟨last, some⟩
        · simp [none]
        · simpa [some] using newline
    refine Pattern.test_bounded_literal agrees ?_ ?_ ?_ ?_
    · rw [← any_isWordChar_canonicalize lawful, ← List.head?_map, ← agrees, List.head?_map,
        any_isWordChar_canonicalize lawful]
      exact firstWord
    · rw [← any_isWordChar_canonicalize lawful, ← List.getLast?_map, ← agrees,
        List.getLast?_map, any_isWordChar_canonicalize lawful]
      exact lastWord
    · rw [← any_isWordChar_canonicalize lawful, ← List.getLast?_map, starts,
        List.getLast?_map, any_isWordChar_canonicalize lawful]
      exact lower_getLast lawful leftSymbol
    · rw [← any_isWordChar_canonicalize lawful, ← List.head?_map, ends, List.head?_map,
        any_isWordChar_canonicalize lawful]
      exact lower_head lawful rightSymbol

private theorem trim_mem_leakCandidates
    (identifies : account.Identifies identifier) :
    trim identifier ∈ leakCandidates cases account := by
  obtain ⟨nonempty, kind⟩ := identifies
  have notEmpty : identifier.isEmpty = false := by simpa using nonempty
  simp only [leakCandidates, List.mem_eraseDups, List.mem_append]
  rcases kind with ⟨rfl, _⟩ | domain | inAliases
  · simp [notEmpty]
  · exact .inr (List.mem_map_of_mem (by simp [domain, notEmpty]))
  · refine .inr (List.mem_map_of_mem (List.mem_filter.mpr ⟨?_, by simp [notEmpty]⟩))
    exact List.mem_append_right _ inAliases

theorem detectScrubLeakage_reports (lawful : cases.Lawful isAlphanumeric)
    {before found after : Text} (identifies : account.Identifies identifier)
    (member : before ++ (found ++ after) ∈ fragments)
    (reached : Reached cases identifier before after)
    (shown : Shown cases isAlphanumeric identifier before found after) :
    detectScrubLeakage cases account fragments ≠ [] := by
  have candidate : trim identifier ∈ leakCandidates cases account :=
    trim_mem_leakCandidates identifies
  have finds := leakRegex_finds lawful member reached shown
  have kept : trim identifier ∈ (leakCandidates cases account).filter fun rawCandidate =>
      !(length16 (cases.toLowerCase rawCandidate) < 3) &&
        (leakRegex cases (cases.toLowerCase rawCandidate)).test
          (cases.toLowerCase (join ['\n'] fragments)) := by
    refine List.mem_filter.mpr ⟨candidate, ?_⟩
    have long : ¬length16 (cases.toLowerCase (trim identifier)) < 3 := Nat.not_lt.mpr reached.1
    simp [long, finds]
  intro nothing
  have empty := List.take_eq_nil_iff.mp nothing
  simp only [reduceCtorEq, false_or] at empty
  exact absurd kept (empty ▸ List.not_mem_nil)

end

end StoryEngine.Scrub
