import StoryEngine.Scrub.Leakage
import StoryEngine.Text.PassRuns

namespace StoryEngine.Scrub

open Text Pattern

/-! # The passes of the scrubber

Scrubbing replaces the matches of one pattern after the other: attributions, domains, the company's
terms and at last the names of the contacts.
-/

section

variable (cases : CaseMapping)

def attributionPasses (contact : ContactInfo) : List Pass :=
  match contact.name, contact.title with
  | some name, some title =>
    if name.isEmpty || title.isEmpty then []
    else [
      { regex := commaPattern cases name title, label := anonymizeTitle cases title },
      { regex := parenPattern cases name title, label := anonymizeTitle cases title }]
  | _, _ => []

def domainPass (domain : Text) : Pass :=
  { regex := .literal cases true domain, label := domainPlaceholder }

def termPass (term : ReplacementTerm) : Pass :=
  { regex := term.regex, label := term.replacement }

def bareLabel (placeholder : Text) (contact : ContactInfo) : Text :=
  match contact.title with
  | some title =>
    if title.isEmpty then ("a team member at " : String).toList ++ placeholder
    else anonymizeTitle cases title
  | none => ("a team member at " : String).toList ++ placeholder

def namePass (name label : Text) : Pass :=
  { regex := bounded (.literal cases true name), label }

def barePasses (placeholder : Text) (contact : ContactInfo) : List Pass :=
  match contact.name with
  | none => []
  | some name =>
    if length16 name < 4 then [] else [namePass cases name (bareLabel cases placeholder contact)]

def termEntries (account : ScrubAccount) (customMappings : List (Text × Text))
    (placeholder : Text) : List (Text × Text) :=
  let normalized :=
    if account.normalizedName ≠ cases.toLowerCase account.name ∧
        minAutoTermLength ≤ length16 account.normalizedName then
      [(account.normalizedName, placeholder)]
    else []
  ((customMappings.filter fun entry => 2 ≤ length16 entry.1) ++
      (generateNameVariations cases account.name).map (fun variation => (variation, placeholder)) ++
      normalized).insertionSort fun first second => length16 second.1 ≤ length16 first.1

def termPasses (account : ScrubAccount) (config : ScrubConfig) : List Pass :=
  (termEntries cases account (config.customMappings.getD account.companyNameReplacements)
    (config.placeholder.getD defaultPlaceholder)).map fun entry =>
      termPass (replacementTerm cases entry.1 entry.2)

def earlyPasses (account : ScrubAccount) (config : ScrubConfig) : List Pass :=
  account.contacts.flatMap (attributionPasses cases) ++
    (collectDomains account).map (domainPass cases) ++ termPasses cases account config

def latePasses (account : ScrubAccount) (config : ScrubConfig) : List Pass :=
  account.contacts.flatMap (barePasses cases (config.placeholder.getD defaultPlaceholder))

def scrubPasses (account : ScrubAccount) (config : ScrubConfig) : List Pass :=
  earlyPasses cases account config ++ latePasses cases account config

end

section

variable {cases : CaseMapping}

theorem substitute_text (result : ScrubResult) (regex : Pattern) (replacement label : Text) :
    (result.substitute regex replacement label).scrubbedText =
      regex.replace replacement result.scrubbedText := by
  rw [ScrubResult.substitute]
  split
  · next none => exact (replace_of_no_match (List.isEmpty_iff.mp none) replacement).symm
  · rfl

theorem foldl_passes {β : Type} {pass : ScrubResult → β → ScrubResult} {passes : β → List Pass}
    (each : ∀ result item, (pass result item).scrubbedText =
      applyPasses (passes item) result.scrubbedText) (items : List β) (result : ScrubResult) :
    (items.foldl pass result).scrubbedText =
      applyPasses (items.flatMap passes) result.scrubbedText := by
  induction items generalizing result with
  | nil => rfl
  | cons item rest ih =>
    rw [List.foldl_cons, ih, each, List.flatMap_cons, applyPasses_append]

theorem scrubContactIdentity_text (result : ScrubResult) (contact : ContactInfo) :
    (scrubContactIdentity cases result contact).scrubbedText =
      applyPasses (attributionPasses cases contact) result.scrubbedText := by
  obtain ⟨name, title⟩ := contact
  cases name with
  | none => rfl
  | some name =>
    cases title with
    | none => rfl
    | some title =>
      simp only [scrubContactIdentity, attributionPasses]
      split
      · rfl
      · rw [substitute_text, substitute_text]
        rfl

theorem barePasses_long {placeholder name : Text} {title : Option Text}
    (long : ¬length16 name < 4) : barePasses cases placeholder { name := some name, title } =
      [namePass cases name (bareLabel cases placeholder { name := some name, title })] :=
  if_neg long

theorem scrubBareName_text (placeholder : Text) (result : ScrubResult) (contact : ContactInfo) :
    (scrubBareName cases placeholder result contact).scrubbedText =
      applyPasses (barePasses cases placeholder contact) result.scrubbedText := by
  obtain ⟨name, title⟩ := contact
  cases name with
  | none => rfl
  | some name =>
    simp only [scrubBareName, barePasses]
    split
    · rfl
    · rw [substitute_text]
      rfl

theorem buildReplacementTerms_eq (account : ScrubAccount) (customMappings : List (Text × Text))
    (placeholder : Text) : buildReplacementTerms cases account customMappings placeholder =
      (termEntries cases account customMappings placeholder).map fun entry =>
        replacementTerm cases entry.1 entry.2 := by
  rw [buildReplacementTerms, termEntries]
  symm
  refine (List.map_insertionSort _ (s := fun first second : ReplacementTerm =>
    length16 second.label ≤ length16 first.label) _ _ fun _ _ _ _ => Iff.rfl).trans ?_
  simp only [List.map_append, List.map_map, apply_ite (List.map _), List.map_nil, List.map_cons]
  rfl

theorem termPasses_eq (account : ScrubAccount) (config : ScrubConfig) :
    termPasses cases account config =
      (buildReplacementTerms cases account
          (config.customMappings.getD account.companyNameReplacements)
          (config.placeholder.getD defaultPlaceholder)).flatMap fun term => [termPass term] := by
  rw [buildReplacementTerms_eq, ← List.map_eq_flatMap, List.map_map]
  rfl

theorem scrubForAccount_text (account : ScrubAccount) (config : ScrubConfig)
    (active : config.skipScrub = false) (text : Text) :
    (scrubForAccount cases account text config).scrubbedText =
      applyPasses (scrubPasses cases account config) text := by
  have inactive : ¬config.skipScrub = true := by
    rw [active]
    exact Bool.false_ne_true
  have domains : ∀ result domain, (scrubDomain cases result domain).scrubbedText =
      applyPasses [domainPass cases domain] result.scrubbedText := by
    intro result domain
    rw [scrubDomain, substitute_text]
    rfl
  have terms : ∀ (result : ScrubResult) (term : ReplacementTerm),
      (result.substitute term.regex term.replacement term.label).scrubbedText =
        applyPasses [termPass term] result.scrubbedText := by
    intro result term
    rw [substitute_text]
    rfl
  rw [scrubForAccount, if_neg inactive]
  dsimp only
  rw [foldl_passes (scrubBareName_text _), foldl_passes terms, foldl_passes domains,
    scrubContactIdentities, foldl_passes scrubContactIdentity_text, scrubPasses, earlyPasses,
    latePasses, termPasses_eq, List.map_eq_flatMap, applyPasses_append, applyPasses_append,
    applyPasses_append]

end

section

variable {cases : CaseMapping} {name label found : Text}

theorem namePass_consumes (some : name ≠ []) :
    (namePass cases name label).regex.consumes = true := by
  have body := @literal_consumes cases true name some
  simp only [namePass, bounded, Pattern.consumes, body, Bool.true_or, Bool.or_true]

/-- The name is matched where it stands between word boundaries. -/
theorem namePass_matches (edged : Edged found)
    (same : found.map cases.canonicalize = name.map cases.canonicalize) {behind ahead : Text}
    (opens : Free behind.head?) (closes : Free ahead.head?) :
    (namePass cases name label).regex.ends { behind, ahead := found ++ ahead } ≠ [] := by
  apply bounded_ends edged opens closes
  rw [ends_literal same.symm]
  exact List.mem_singleton_self _

end

end StoryEngine.Scrub
