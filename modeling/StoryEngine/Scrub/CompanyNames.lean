import StoryEngine.Scrub.CompanyScrubber
import StoryEngine.Text.Classes

namespace StoryEngine

/-- The Unicode facts about lower case that a second pass relies on: letters that come out of
lower casing are their own lower case, alone and together. -/
structure CaseMapping.LowersOnce (cases : CaseMapping) : Prop where
  lowered : ∀ text, ∀ c ∈ cases.toLowerCase text, cases.toLowerCase [c] = [c]
  together : ∀ text, (∀ c ∈ text, cases.toLowerCase [c] = [c]) → cases.toLowerCase text = text
  blank : cases.toLowerCase [' '] = [' ']

namespace Scrub

open Text

/-! # The canonical form of a company name

The suffixes go first.  Each stands between word boundaries, so that what is left has the runs of
word characters that it had, without the suffixes; punctuation and whitespace have no word
characters.
-/

def companySuffixes : List (String × Bool) := [
  ("inc", true), ("incorporated", false), ("corp", true), ("corporation", false), ("llc", false),
  ("ltd", true), ("limited", false), ("co", true), ("company", false), ("group", false),
  ("holdings", false), ("plc", false), ("gmbh", false), ("sa", false), ("ag", false)]

def suffixPattern (cases : CaseMapping) (suffix : String × Bool) : Pattern :=
  let name : Pattern := .literal cases true suffix.1.toList
  if suffix.2 then .seq name (.optional (.accept (· == '.'))) else name

def isPunctuation (c : Char) : Bool := c ∈ ['.', ',', '-', '(', ')']

section

variable {cases : CaseMapping}

theorem companySuffix_eq :
    companySuffix cases = .choice (companySuffixes.map (suffixPattern cases)) := rfl

theorem mem_choice {parts : List Pattern} {cursor next : Cursor} :
    next ∈ (Pattern.choice parts).ends cursor ↔ ∃ part ∈ parts, next ∈ part.ends cursor := by
  induction parts with
  | nil =>
    have nothing : (Pattern.choice []).ends cursor = [] := by
      simp only [Pattern.choice, List.foldr_nil, Pattern.ends]
      split <;> rfl
    simp [nothing]
  | cons part rest ih =>
    have first : (Pattern.choice (part :: rest)).ends cursor =
        part.ends cursor ++ (Pattern.choice rest).ends cursor := rfl
    rw [first, List.mem_append, ih]
    simp

theorem suffixPattern_reads {suffix : String × Bool} {cursor next : Cursor}
    (inEnds : next ∈ (suffixPattern cases suffix).ends cursor) :
    ∃ name, name.map cases.canonicalize = suffix.1.toList.map cases.canonicalize ∧
      (cursor.upTo next = name ∨ cursor.upTo next = name ++ ['.']) := by
  simp only [suffixPattern] at inEnds
  split at inEnds
  · obtain ⟨middle, inName, inStop, reads⟩ := Pattern.upTo_seq inEnds
    refine ⟨cursor.upTo middle, Pattern.literal_reads _ cursor middle inName, ?_⟩
    rcases List.mem_append.mp inStop with isStop | isEmpty
    · obtain ⟨c, accepted, single⟩ := Pattern.upTo_accept isStop
      obtain rfl : c = '.' := by simpa using accepted
      exact .inr (by rw [reads, single])
    · rw [List.mem_singleton.mp isEmpty, Cursor.upTo_self, List.append_nil] at reads
      rw [List.mem_singleton.mp isEmpty]
      exact .inl rfl
  · exact ⟨_, Pattern.literal_reads _ cursor next inEnds, .inl rfl⟩

theorem suffixPattern_matches {suffix : String × Bool} {run behind ahead : Text}
    (same : run.map cases.canonicalize = suffix.1.toList.map cases.canonicalize) :
    ({ behind := run.reverse ++ behind, ahead } : Cursor) ∈
      (suffixPattern cases suffix).ends { behind, ahead := run ++ ahead } := by
  have name := Pattern.ends_literal same.symm behind ahead none
  simp only [suffixPattern]
  split
  · rw [Pattern.ends, name, List.flatMap_singleton]
    exact List.mem_append_right _ (List.mem_singleton_self _)
  · rw [name]
    exact List.mem_singleton_self _

theorem companySuffixes_words {suffix : String × Bool} (isSuffix : suffix ∈ companySuffixes) :
    suffix.1.toList ≠ [] ∧ ∀ c ∈ suffix.1.toList, isWordChar c = true := by
  have table : companySuffixes.all fun suffix =>
      !suffix.1.toList.isEmpty && suffix.1.toList.all isWordChar := by decide
  have row := List.all_eq_true.mp table suffix isSuffix
  simpa using row

/-- None of the runs of word characters is a suffix, in whatever case. -/
def NoSuffix (cases : CaseMapping) (text : Text) : Prop :=
  ∀ run, Run text run → ∀ suffix ∈ companySuffixes,
    run.map cases.canonicalize ≠ suffix.1.toList.map cases.canonicalize

section

variable (keeps : ∀ c, isWordChar (cases.canonicalize c) = isWordChar c)

include keeps

theorem words_of_suffix {name : Text} {suffix : String × Bool} (isSuffix : suffix ∈ companySuffixes)
    (same : name.map cases.canonicalize = suffix.1.toList.map cases.canonicalize) :
    name ≠ [] ∧ ∀ c ∈ name, isWordChar c = true := by
  obtain ⟨nonempty, words⟩ := companySuffixes_words isSuffix
  refine ⟨?_, ?_⟩
  · rintro rfl
    exact nonempty (List.map_eq_nil_iff.mp same.symm)
  · intro c member
    have image : cases.canonicalize c ∈ suffix.1.toList.map cases.canonicalize :=
      same ▸ List.mem_map_of_mem member
    obtain ⟨d, isLetter, isImage⟩ := List.mem_map.mp image
    rw [← keeps c, ← isImage, keeps d]
    exact words d isLetter

theorem companySuffix_startsWord : (companySuffix cases).StartsWord := by
  intro cursor next inEnds
  rw [companySuffix_eq, mem_choice] at inEnds
  obtain ⟨_, isPart, inPart⟩ := inEnds
  obtain ⟨suffix, isSuffix, rfl⟩ := List.mem_map.mp isPart
  obtain ⟨name, same, reads⟩ := suffixPattern_reads inPart
  obtain ⟨nonempty, words⟩ := words_of_suffix keeps isSuffix same
  have starts := (Edged.of_words nonempty words).1
  rcases reads with reads | reads
  · rw [reads]
    exact starts
  · rw [reads, head_append nonempty]
    exact starts

theorem noSuffix_removed (text : Text) :
    NoSuffix cases ((Pattern.seq .wordBoundary (.seq (companySuffix cases) .wordBoundary)).replace
      [] text) := by
  intro run isRun suffix isSuffix same
  have consumes : (companySuffix cases).consumes = true := rfl
  obtain ⟨before, after, _, opens, closes, unmatched⟩ :=
    Pattern.run_of_removed consumes (companySuffix_startsWord keeps) isRun
  have matched : ({ behind := run.reverse ++ before.reverse, ahead := after } : Cursor) ∈
      (companySuffix cases).ends { behind := before.reverse, ahead := run ++ after } := by
    rw [companySuffix_eq, mem_choice]
    exact ⟨_, List.mem_map_of_mem isSuffix, suffixPattern_matches same⟩
  refine Pattern.bounded_ends (Edged.of_words isRun.nonempty isRun.words) ?_ closes matched
    unmatched
  rwa [List.head?_reverse]

end

theorem isPunctuation_symbol (c : Char) : isPunctuation c = true → isWordChar c = false := by
  intro punctuation
  have among : c = '.' ∨ c = ',' ∨ c = '-' ∨ c = '(' ∨ c = ')' := by
    simpa [isPunctuation] using punctuation
  rcases among with rfl | rfl | rfl | rfl | rfl <;> decide

structure Normalized (cases : CaseMapping) (text : Text) : Prop where
  first : ∀ c ∈ text.head?, isSpace c = false
  last : ∀ c ∈ text.getLast?, isSpace c = false
  single : Collapsed isSpace text
  blanks : ∀ c ∈ text, isSpace c = true → c = ' '
  unpunctuated : ∀ c ∈ text, isPunctuation c = false
  noSuffix : NoSuffix cases text

theorem normalizeCompanyName_eq (name : Text) :
    normalizeCompanyName cases name = trim (Pattern.runsTo isSpace ' '
      (((Pattern.seq .wordBoundary (.seq (companySuffix cases) .wordBoundary)).replace []
        (cases.toLowerCase name)).map fun c => if isPunctuation c then ' ' else c)) := by
  rw [← Pattern.replace_accept (by decide), ← Pattern.replace_plus (by decide)]
  rfl

theorem normalizeCompanyName_normalized
    (keeps : ∀ c, isWordChar (cases.canonicalize c) = isWordChar c) (name : Text) :
    Normalized cases (normalizeCompanyName cases name) := by
  rw [normalizeCompanyName_eq]
  generalize isStripped : (Pattern.seq .wordBoundary
    (.seq (companySuffix cases) .wordBoundary)).replace [] (cases.toLowerCase name) = stripped
  have noSuffix : NoSuffix cases stripped := isStripped ▸ noSuffix_removed keeps _
  have inside : ∀ {text : Text} {c : Char}, c ∈ trim text → c ∈ text := by
    intro text c member
    obtain ⟨leading, trailing, whole, _⟩ := trim_decomposition text
    rw [whole]
    simp [member]
  have kinds : ∀ c ∈ Pattern.runsTo isSpace ' '
      (stripped.map fun c => if isPunctuation c then ' ' else c),
        c = ' ' ∨ isSpace c = false ∧ isPunctuation c = false := by
    intro c member
    obtain ⟨d, inCollapsed, rfl⟩ := List.mem_map.mp member
    split
    · exact .inl rfl
    · next solid =>
        obtain ⟨e, _, isKept⟩ := List.mem_map.mp (mem_collapseRuns inCollapsed)
        split at isKept
        · rw [← isKept] at solid
          exact absurd (by decide) solid
        · next plain =>
            subst isKept
            exact .inr ⟨by simpa using solid, by simpa using plain⟩
  refine ⟨(trim_ends _).1, (trim_ends _).2, ?_, ?_, ?_, ?_⟩
  · obtain ⟨leading, trailing, whole, _⟩ := trim_decomposition (Pattern.runsTo isSpace ' '
      (stripped.map fun c => if isPunctuation c then ' ' else c))
    have collapsed : Collapsed isSpace (Pattern.runsTo isSpace ' '
      (stripped.map fun c => if isPunctuation c then ' ' else c)) := .runsTo (by decide) _
    exact collapsed.infix ⟨leading, trailing, whole.symm⟩
  · intro c member space
    rcases kinds c (inside member) with blank | ⟨solid, _⟩
    · exact blank
    · rw [solid] at space
      cases space
  · intro c member
    rcases kinds c (inside member) with rfl | ⟨_, unpunctuated⟩
    · decide
    · exact unpunctuated
  · intro run isRun
    exact noSuffix run (Run.of_blanked isPunctuation_symbol
      (Run.of_collapseRuns isSpace_of_word (Run.of_blanked isWordChar_of_space (Run.of_trim isRun))))

theorem Normalized.normalize_eq {text : Text}
    (keeps : ∀ c, isWordChar (cases.canonicalize c) = isWordChar c)
    (normalized : Normalized cases text) (lowered : cases.toLowerCase text = text) :
    normalizeCompanyName cases text = text := by
  have consumes : (Pattern.seq .wordBoundary
    (.seq (companySuffix cases) .wordBoundary)).consumes = true := rfl
  have unremoved : (Pattern.seq .wordBoundary
      (.seq (companySuffix cases) .wordBoundary)).replace [] text = text := by
    refine Pattern.replace_eq_self (by simp) consumes ?_
    intro before matched after whole next inEnds reads
    have inBody := (Pattern.mem_bounded inEnds).1
    rw [companySuffix_eq, mem_choice] at inBody
    obtain ⟨_, isPart, inPart⟩ := inBody
    obtain ⟨suffix, isSuffix, rfl⟩ := List.mem_map.mp isPart
    obtain ⟨name, same, either⟩ := suffixPattern_reads inPart
    obtain ⟨nonempty, words⟩ := words_of_suffix keeps isSuffix same
    rcases either with isName | dotted
    · obtain rfl : name = matched := isName.symm.trans reads
      obtain ⟨opens, closes⟩ := Pattern.bounded_free inEnds
      obtain ⟨firstWord, lastWord⟩ := Edged.of_words nonempty words
      have rest : next.ahead = after := by
        have ahead := ((Pattern.ends_reaches _ _ next inEnds).ahead_eq).symm
        rw [reads] at ahead
        exact List.append_cancel_left ahead
      rw [reads, rest] at closes
      rw [reads, List.head?_reverse] at opens
      exact normalized.noSuffix name
        ⟨nonempty, words, before, after, whole, opens firstWord, closes lastWord⟩ suffix isSuffix same
    · have stop : '.' ∈ text := by
        rw [whole, ← reads, dotted]
        simp
      have unpunctuated := normalized.unpunctuated '.' stop
      cases unpunctuated
  have unblanked : (text.map fun c => if isPunctuation c then ' ' else c) = text := by
    refine (List.map_congr_left fun c member => ?_).trans (List.map_id' text)
    rw [normalized.unpunctuated c member, if_neg (by simp)]
  rw [normalizeCompanyName_eq, lowered, unremoved, unblanked,
    normalized.single.runsTo_eq normalized.blanks]
  exact trim_eq_self normalized.first normalized.last

theorem mem_normalizeCompanyName {name : Text} {c : Char}
    (member : c ∈ normalizeCompanyName cases name) : c = ' ' ∨ c ∈ cases.toLowerCase name := by
  obtain ⟨leading, trailing, whole, _⟩ := trim_decomposition
    ((Pattern.plus .space).replace [' '] ((Pattern.accept isPunctuation).replace [' ']
      ((Pattern.seq .wordBoundary (.seq (companySuffix cases) .wordBoundary)).replace []
        (cases.toLowerCase name))))
  have inside : c ∈ (Pattern.plus .space).replace [' '] ((Pattern.accept isPunctuation).replace [' ']
      ((Pattern.seq .wordBoundary (.seq (companySuffix cases) .wordBoundary)).replace []
        (cases.toLowerCase name))) := by
    rw [whole]
    exact List.mem_append_left _ (List.mem_append_right _ member)
  rcases Pattern.mem_replace inside with spaced | blank
  · rcases Pattern.mem_replace spaced with stripped | blank
    · rcases Pattern.mem_replace stripped with lowered | none
      · exact .inr lowered
      · cases none
    · exact .inl (List.mem_singleton.mp blank)
  · exact .inl (List.mem_singleton.mp blank)

end

/-- The normalized name is a canonical form: without blanks at its ends or side by side, without
punctuation and without suffixes, it is its own normalization. -/
theorem normalizeCompanyName_canonical {cases : CaseMapping} {isAlphanumeric : Char → Bool}
    (lawful : cases.Lawful isAlphanumeric) (lowersOnce : cases.LowersOnce) (name : Text) :
    let normalized := normalizeCompanyName cases name
    normalizeCompanyName cases normalized = normalized ∧
      (∀ c ∈ normalized.head?, isSpace c = false) ∧
      (∀ c ∈ normalized.getLast?, isSpace c = false) ∧
      (∀ before first second after, normalized = before ++ first :: second :: after →
        ¬(isSpace first = true ∧ isSpace second = true)) ∧
      (∀ c ∈ normalized, c ∉ ['.', ',', '-', '(', ')']) ∧
      ∀ run, Run normalized run → ∀ suffix ∈ companySuffixes, run ≠ suffix.1.toList := by
  intro normalized
  have keeps := lawful.isWordChar_canonicalize
  have isNormalized : Normalized cases normalized := normalizeCompanyName_normalized keeps name
  refine ⟨?_, isNormalized.first, isNormalized.last, ?_, ?_, ?_⟩
  · refine isNormalized.normalize_eq keeps (lowersOnce.together _ ?_)
    intro c member
    rcases mem_normalizeCompanyName member with rfl | lowered
    · exact lowersOnce.blank
    · exact lowersOnce.lowered name c lowered
  · intro before first second after whole
    have collapsed : Collapsed isSpace (before ++ first :: second :: after) :=
      whole ▸ isNormalized.single
    exact (List.isChain_cons_cons.mp (List.isChain_append.mp collapsed).2.1).1
  · intro c member
    simpa [isPunctuation] using isNormalized.unpunctuated c member
  · intro run isRun suffix isSuffix same
    exact isNormalized.noSuffix run isRun suffix isSuffix (by rw [same])

private theorem ascii_toLower_twice :
    ∀ code < 128, (Char.ofNat code).toLower.toLower = (Char.ofNat code).toLower := by
  decide

theorem toLower_twice (c : Char) : c.toLower.toLower = c.toLower := by
  by_cases narrow : c.toNat < 128
  · have table := ascii_toLower_twice c.toNat narrow
    rwa [Char.ofNat_toNat] at table
  · have wide := CaseMapping.toLower_wide (Nat.le_of_not_lt narrow)
    rw [wide, wide]

theorem ascii_lowersOnce : CaseMapping.ascii.LowersOnce where
  lowered text c member := by
    obtain ⟨d, _, rfl⟩ := List.mem_map.mp member
    exact congrArg (fun e => [e]) (toLower_twice d)
  together text fixed := by
    refine (List.map_congr_left fun c member => ?_).trans (List.map_id' text)
    exact (List.cons.inj (fixed c member)).1
  blank := rfl

theorem normalizeCompanyName_acme :
    normalizeCompanyName .ascii (normalizeCompanyName .ascii "Acme (Holdings), Inc.") =
      normalizeCompanyName .ascii "Acme (Holdings), Inc." :=
  (normalizeCompanyName_canonical CaseMapping.ascii_lawful ascii_lowersOnce
    "Acme (Holdings), Inc.").1

end Scrub

end StoryEngine
