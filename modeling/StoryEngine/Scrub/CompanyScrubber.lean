import Mathlib.Data.List.Sort
import StoryEngine.Text.Matching

namespace StoryEngine.Scrub

open Text

def companySuffix (cases : CaseMapping) : Pattern :=
  let suffix (name : String) : Pattern := .literal cases true name.toList
  let dotted (name : String) : Pattern := .seq (suffix name) (.optional (.accept (· == '.')))
  .choice [dotted "inc", suffix "incorporated", dotted "corp", suffix "corporation", suffix "llc",
    dotted "ltd", suffix "limited", dotted "co", suffix "company", suffix "group",
    suffix "holdings", suffix "plc", suffix "gmbh", suffix "sa", suffix "ag"]

/-- Lower case, legal-form suffixes removed, punctuation and whitespace
collapsed to single blanks. -/
def normalizeCompanyName (cases : CaseMapping) (name : Text) : Text :=
  let lowered := cases.toLowerCase name
  let stripped :=
    (Pattern.seq .wordBoundary (.seq (companySuffix cases) .wordBoundary)).replace [] lowered
  let spaced :=
    (Pattern.accept fun c => c ∈ ['.', ',', '-', '(', ')']).replace [' '] stripped
  trim ((Pattern.plus .space).replace [' '] spaced)

/-! # Company scrubber

Four passes of ordered replacements: attributions "Name, Title", domains,
the company name with its variations, and the remaining contact names. -/

structure ContactInfo where
  name : Option Text
  title : Option Text
deriving DecidableEq

/-- An account as the scrubber and the leak detector load it. -/
structure ScrubAccount where
  name : Text
  normalizedName : Text
  domain : Option Text
  domainAliases : List Text
  contacts : List ContactInfo
  /-- `orgSettings.companyNameReplacements`, in `Object.entries` order. -/
  companyNameReplacements : List (Text × Text)
deriving DecidableEq

structure ScrubResult where
  scrubbedText : Text
  replacementsMade : Nat := 0
  termsReplaced : List Text := []

structure ReplacementTerm where
  regex : Pattern
  replacement : Text
  label : Text

def defaultPlaceholder : Text := ("the client" : String)

def domainPlaceholder : Text := ("[client-domain]" : String)

def minAutoTermLength : Nat := 4

def acronymCaseSensitiveThreshold : Nat := 4

def titleAnonymizer : List (List String × String) := [
  (["SVP", "Senior Vice President", "EVP", "Executive Vice President"],
    "a senior leader at the client"),
  (["VP", "Vice President"], "a VP at the client"),
  (["CEO", "Chief Executive Officer", "Founder", "Co-Founder", "President"],
    "a senior executive at the client"),
  (["CFO", "Chief Financial Officer"], "a finance leader at the client"),
  (["CTO", "Chief Technology Officer", "CIO", "Chief Information Officer"],
    "a technology leader at the client"),
  (["CMO", "Chief Marketing Officer"], "a marketing leader at the client"),
  (["COO", "Chief Operating Officer"], "an operations leader at the client"),
  (["CRO", "Chief Revenue Officer"], "a revenue leader at the client"),
  (["CISO", "Chief Information Security Officer"], "a security leader at the client"),
  (["Director"], "a director at the client"),
  (["Head of"], "a department head at the client"),
  (["Manager", "Senior Manager"], "a manager at the client"),
  (["Engineer", "Developer", "Architect"], "a technical team member at the client")]

section

variable (cases : CaseMapping)

def bounded (body : Pattern) : Pattern := .seq .wordBoundary (.seq body .wordBoundary)

def anonymizeTitle (title : Text) : Text :=
  let matchesTitle (entry : List String × String) : Bool :=
    (bounded (.choice (entry.1.map fun name => .literal cases true name.toList))).test title
  match titleAnonymizer.find? matchesTitle with
  | some entry => entry.2.toList
  | none => ("a team member at the client" : String)

/-- `match`, count, record the label, `replace`: what every pass does with a
pattern. -/
def ScrubResult.substitute (result : ScrubResult) (regex : Pattern) (replacement label : Text) :
    ScrubResult :=
  let found := regex.matchAll result.scrubbedText
  if found.isEmpty then result
  else
    { scrubbedText := regex.replace replacement result.scrubbedText
      replacementsMade := result.replacementsMade + found.length
      termsReplaced := result.termsReplaced ++ [label] }

/-- `Name, Title`, with an optional `of Company` or `at Company`. -/
def commaPattern (name title : Text) : Pattern :=
  let lit (text : Text) : Pattern := .literal cases true text
  .sequence [.wordBoundary, lit name, .optional (.accept (· == ',')), .plus .space, lit title,
    .optional (.sequence [.plus .space, .alt (lit ("of" : String)) (lit ("at" : String)),
      .plus .space, .plus (.accept fun c => !isSpace c)]),
    .wordBoundary]

/-- `Name (Title)`. -/
def parenPattern (name title : Text) : Pattern :=
  .sequence [.wordBoundary, .literal cases true name, .star .space, .accept (· == '('),
    .literal cases true title, .accept (· == ')')]

def scrubContactIdentity (result : ScrubResult) (contact : ContactInfo) : ScrubResult :=
  match contact.name, contact.title with
  | some name, some title =>
    if name.isEmpty || title.isEmpty then result
    else
      let anonLabel := anonymizeTitle cases title
      (result.substitute (commaPattern cases name title) anonLabel
          (name ++ (", " : String).toList ++ title)).substitute
        (parenPattern cases name title) anonLabel
        (name ++ (" (" : String).toList ++ title ++ [')'])
  | _, _ => result

def scrubContactIdentities (result : ScrubResult) (contacts : List ContactInfo) : ScrubResult :=
  contacts.foldl (scrubContactIdentity cases) result

/-- A term between word boundaries, with an optional possessive or hyphenated
suffix; short all-capital terms match case-sensitively. -/
def buildWordBoundaryRegex (term : Text) : Pattern :=
  let isShortAcronym :=
    decide (length16 term ≤ acronymCaseSensitiveThreshold) && term == cases.toUpperCase term
  let possessive : Pattern := .literal cases (!isShortAcronym) ("'s" : String)
  let hyphenated : Pattern := .seq (.accept (· == '-')) (.plus .word)
  bounded (.seq (.literal cases (!isShortAcronym) term) (.optional (.alt possessive hyphenated)))

/-- `w.charAt(0).toUpperCase() + w.slice(1)`. -/
def capitalize : Text → Text
  | [] => []
  | c :: rest => (if c.toNat < 0x10000 then cases.toUpperCase [c] else [c]) ++ rest

def generateNameVariations (name : Text) : List Text :=
  let normalized := normalizeCompanyName cases name
  let titleCase := join [' '] ((splitAt (· == ' ') normalized).map (capitalize cases))
  let words := splitSpaces name
  let shortName := join [' '] (words.take 2)
  let acronym := cases.toUpperCase (words.flatMap (List.take 1))
  let variations :=
    [name] ++ (if minAutoTermLength ≤ length16 normalized then [normalized] else []) ++
      (if minAutoTermLength ≤ length16 titleCase then [titleCase] else []) ++
      (if 2 ≤ words.length ∧ minAutoTermLength ≤ length16 shortName then [shortName] else []) ++
      (if 3 ≤ words.length ∧ 3 ≤ length16 acronym then [acronym] else [])
  variations.eraseDups.filter fun variation => 2 ≤ length16 variation

def replacementTerm (label replacement : Text) : ReplacementTerm :=
  { regex := buildWordBoundaryRegex cases label, replacement, label }

def buildReplacementTerms (account : ScrubAccount) (customMappings : List (Text × Text))
    (placeholder : Text) : List ReplacementTerm :=
  let custom := (customMappings.filter fun entry => 2 ≤ length16 entry.1).map fun entry =>
    replacementTerm cases entry.1 entry.2
  let variations := (generateNameVariations cases account.name).map fun variation =>
    replacementTerm cases variation placeholder
  let normalized :=
    if account.normalizedName ≠ cases.toLowerCase account.name ∧
        minAutoTermLength ≤ length16 account.normalizedName then
      [replacementTerm cases account.normalizedName placeholder]
    else []
  (custom ++ variations ++ normalized).insertionSort fun first second =>
    length16 second.label ≤ length16 first.label

def collectDomains (account : ScrubAccount) : List Text :=
  (account.domain.toList.filter fun domain => !domain.isEmpty) ++ account.domainAliases

def scrubDomain (result : ScrubResult) (domain : Text) : ScrubResult :=
  result.substitute (.literal cases true domain) domainPlaceholder domain

def scrubBareName (placeholder : Text) (result : ScrubResult) (contact : ContactInfo) :
    ScrubResult :=
  match contact.name with
  | none => result
  | some name =>
    if length16 name < 4 then result
    else
      let anonLabel := match contact.title with
        | some title =>
          if title.isEmpty then ("a team member at " : String).toList ++ placeholder
          else anonymizeTitle cases title
        | none => ("a team member at " : String).toList ++ placeholder
      result.substitute (bounded (.literal cases true name)) anonLabel name

structure ScrubConfig where
  placeholder : Option Text := none
  customMappings : Option (List (Text × Text)) := none
  skipScrub : Bool := false

def scrubForAccount (account : ScrubAccount) (text : Text) (configOverrides : ScrubConfig := {}) :
    ScrubResult :=
  if configOverrides.skipScrub then { scrubbedText := text }
  else
    let customMappings := configOverrides.customMappings.getD account.companyNameReplacements
    let placeholder := configOverrides.placeholder.getD defaultPlaceholder
    let attributions := scrubContactIdentities cases { scrubbedText := text } account.contacts
    let domains := (collectDomains account).foldl (scrubDomain cases) attributions
    let names := (buildReplacementTerms cases account customMappings placeholder).foldl
      (fun result term => result.substitute term.regex term.replacement term.label) domains
    let bare := account.contacts.foldl (scrubBareName cases placeholder) names
    { bare with termsReplaced := bare.termsReplaced.eraseDups }

end

end StoryEngine.Scrub
