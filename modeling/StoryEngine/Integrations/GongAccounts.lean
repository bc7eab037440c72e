import Mathlib.Data.List.Sort
import StoryEngine.Data.Run
import StoryEngine.Text.Classes

namespace StoryEngine.Integrations

open Data Text

/-! # Accounts of Gong calls

The names of accounts are read from what Gong knows of a call: from the fields of the CRM, the
e-mail addresses of the participants and the title.
-/

def includes (text part : Text) : Bool := decide (part <:+: text)

def accountFieldNames : List Text :=
  ["name", "account", "accountname", "account_name", "company", "companyname", "company_name",
    "organization", "organization_name", "org_name", "account id", "account_name__c",
    "company_name__c"].map String.toList

def excludedEmailDomains : List Text :=
  ["gmail.com", "googlemail.com", "yahoo.com", "yahoo.co.uk", "hotmail.com", "outlook.com",
    "live.com", "icloud.com", "me.com", "mac.com", "aol.com", "proton.me", "protonmail.com"].map
    String.toList

def genericTitleTokens : List Text :=
  ["call", "meeting", "demo", "discovery", "conversation", "sync", "followup", "follow", "intro",
    "api", "qa", "q&a", "zoom", "google", "meet", "teams", "recording", "outbound", "inbound",
    "test", "inc", "llc", "ltd", "corp", "co", "company"].map String.toList

def companyHintTokens : List Text :=
  ["inc", "llc", "ltd", "group", "partners", "partner", "assoc", "associates", "architects",
    "architecture", "engineering", "design", "consulting", "consultants", "technologies",
    "technology", "software", "systems", "solutions", "holdings", "capital", "ventures", "labs",
    "studio", "studios", "agency", "corp", "corporation", "company"].map String.toList

structure GongField where
  name : Option Text := none
  value : Option Text := none

structure GongContextObject where
  objectType : Option Text := none
  fields : List GongField := []

structure GongContext where
  objects : List GongContextObject := []

structure GongParty where
  affiliation : Option Text := none
  emailAddress : Option Text := none
  email : Option Text := none
  name : Option Text := none
  displayName : Option Text := none
  context : List GongContext := []

structure GongCallMeta where
  title : Option Text := none
  parties : Option (List GongParty) := none

structure GongCall extends GongCallMeta where
  metaData : Option GongCallMeta := none

def partyEmailAddress (party : GongParty) : Text := (party.emailAddress.or party.email).getD []

def partyDisplayName (party : GongParty) : Text := (party.name.or party.displayName).getD []

/-- `unwrapGongCall(call).parties`. -/
def partiesOf (call : GongCall) : List GongParty :=
  (call.parties.or (call.metaData.getD call.toGongCallMeta).parties).getD []

/-- `unwrapGongCall(call).title`. -/
def titleOf (call : GongCall) : Text :=
  ((call.metaData.getD call.toGongCallMeta).title.or call.title).getD []

def isEdge (c : Char) : Bool := c == '-' || c == '_' || c == '.' || isSpace c

def normalizeAccountName (input : Text) : Text :=
  (((Pattern.plus .space).replace [' '] (trim input)).dropWhile isEdge).rdropWhile isEdge

/-- `[a-z0-9]` -/
def isMatchChar (c : Char) : Bool := ('a' ≤ c && c ≤ 'z') || ('0' ≤ c && c ≤ '9')

/-- `[A-Za-z'.-]` -/
def isNameChar (c : Char) : Bool :=
  ('A' ≤ c && c ≤ 'Z') || ('a' ≤ c && c ≤ 'z') || c.toNat == 0x27 || c == '.' || c == '-'

/-- `/^[A-Z][a-z'.-]+$/` -/
def isCapitalized : Text → Bool
  | [] => false
  | first :: rest =>
    ('A' ≤ first && first ≤ 'Z') && !rest.isEmpty &&
      rest.all fun c => isNameChar c && !('A' ≤ c && c ≤ 'Z')

inductive Affiliation where
  | internal
  | external
  | unknown
deriving DecidableEq

section

variable (cases : CaseMapping)

def normalizeGongAccountMatch (input : Text) : Text :=
  (cases.toLowerCase (normalizeAccountName input)).filter isMatchChar

def toTitleCase (input : Text) : Text :=
  join [' '] (((splitSpaces input).filter (!·.isEmpty)).map fun
    | [] => []
    | c :: rest =>
      (if c.toNat < 0x10000 then cases.toUpperCase [c] else [c]) ++ cases.toLowerCase rest)

def classifyAffiliation (affiliation : Option Text) : Affiliation :=
  let value := cases.toLowerCase (affiliation.getD [])
  if value.isEmpty then .unknown
  else if includes value ("external" : String) || includes value ("customer" : String) ||
      includes value ("client" : String) || includes value ("prospect" : String) ||
      includes value ("partner" : String) then .external
  else if includes value ("internal" : String) || includes value ("company" : String) ||
      includes value ("employee" : String) || includes value ("organizer" : String) ||
      includes value ("host" : String) then .internal
  else .unknown

/-- `email.split("@")[1]`, if the address has an `@`. -/
def domainPart (email : Text) : Option Text := (splitAt (· == '@') email)[1]?

def companyFromEmail (email : Text) : Text :=
  match domainPart email with
  | none => []
  | some domain =>
    if excludedEmailDomains.contains (cases.toLowerCase domain) then []
    else
      let root := (splitAt (· == '.') domain).headD []
      toTitleCase cases (normalizeAccountName
        ((Pattern.plus (.accept fun c => c == '-' || c == '_')).replace [' '] root))

def emailDomain (email : Text) : Text :=
  ((domainPart email).map fun domain => cases.toLowerCase (trim domain)).getD []

def looksLikePersonName (value : Text) : Bool :=
  let parts := (splitAt (· == ' ') (normalizeAccountName value)).filter (!·.isEmpty)
  (2 ≤ parts.length && parts.length ≤ 3) && parts.all (·.all isNameChar) &&
    !(parts.any fun part => companyHintTokens.contains (cases.toLowerCase part)) &&
    parts.all isCapitalized

def maybeMeaningfulTitleCandidate (value : Text) : Text :=
  let normalized := normalizeAccountName value
  let simplified := trim ((Pattern.plus .space).replace [' ']
    ((Pattern.accept fun c => !isWordChar c && !isSpace c).replace [' ']
      (cases.toLowerCase normalized)))
  let words := (splitAt (· == ' ') simplified).filter (!·.isEmpty)
  if normalized.isEmpty || looksLikePersonName cases normalized || words.isEmpty ||
      words.all genericTitleTokens.contains || length16 normalized < 2 ||
      90 < length16 normalized then []
  else normalized

def titlePrefixPattern : Pattern :=
  let word (name : String) : Pattern := .literal cases true name.toList
  let followUp : Pattern :=
    .seq (word "follow") (.seq (.optional (.alt (.accept (· == '-')) .space)) (word "up"))
  .seq .atStart (.seq (.choice [word "call", word "meeting", word "demo", word "discovery",
    word "intro", word "conversation", word "sync", followUp])
    (.seq (.plus .space) (.seq (word "with") (.plus .space))))

def titleSeparator : Pattern :=
  .choice [.seq .space (.seq (.accept fun c => c == '-' || c == '|' || c == ':') .space),
    .literal cases false (" – " : String), .literal cases false (" — " : String)]

def titleCandidates (title : Text) : List Text :=
  let bracketed (opening closing : Char) : Pattern :=
    .seq (.accept (· == opening)) (.seq (.plus (.accept (· != closing))) (.accept (· == closing)))
  let cleaned := trim ((Pattern.plus .space).replace [' ']
    ((bracketed '(' ')').replace [' '] ((bracketed '[' ']').replace [' '] (trim title))))
  let base := (titlePrefixPattern cases).removeFirst cleaned
  let firstSegment := ((titleSeparator cases).split base).headD []
  [maybeMeaningfulTitleCandidate cases firstSegment].filter (!·.isEmpty)

def crossSeparator : Pattern :=
  let between (middle : Pattern) : Pattern := .seq .space (.seq middle .space)
  .choice [
    between (.choice [.literal cases true ['x'], .literal cases true ['×'],
      .literal cases true ['v', 's']]),
    between (.accept (· == '/')), .seq (.accept (· == ',')) (.plus .space)]

def explodeCrossCandidate (candidate : Text) : List Text :=
  let raw := normalizeAccountName candidate
  if raw.isEmpty then []
  else
    let parts := (((crossSeparator cases).split raw).map (maybeMeaningfulTitleCandidate cases)).filter
      (!·.isEmpty)
    if 1 < parts.length then parts else []

def collectFromContext (party : GongParty) : List Text :=
  (party.context.flatMap (·.objects)).flatMap fun object =>
    let objectType := cases.toLowerCase (object.objectType.getD [])
    if includes objectType ("account" : String) || includes objectType ("company" : String) ||
        includes objectType ("organization" : String) then
      object.fields.filterMap fun field =>
        let fieldName := cases.toLowerCase (field.name.getD [])
        let value := normalizeAccountName (field.value.getD [])
        if !value.isEmpty && (accountFieldNames.contains fieldName ||
            includes fieldName ("account" : String) || includes fieldName ("company" : String)) then
          some value
        else none
    else []

def collectInternalDomains (parties : List GongParty) : List Text :=
  parties.filterMap fun party =>
    let domain := emailDomain cases (partyEmailAddress party)
    if classifyAffiliation cases party.affiliation = .internal && !domain.isEmpty then some domain
    else none

def aliasEnding : Pattern :=
  let word (name : String) : Pattern := .literal cases true name.toList
  .seq (.choice [word "app", word "hq", word "inc", word "corp", word "llc", word "co",
    word "company", word "team"]) .atEnd

def internalDomainRootAliases (internalDomains : List Text) : List Text :=
  internalDomains.flatMap fun domain =>
    -- `/[^a-z0-9]/gi` leaves the ASCII letters of both cases
    let normalized :=
      cases.toLowerCase (((splitAt (· == '.') domain).headD []).filter Char.isAlphanum)
    let stripped := (aliasEnding cases).removeFirst normalized
    if normalized.isEmpty then []
    else normalized :: if 3 ≤ length16 stripped then [stripped] else []

end

structure Candidate where
  key : Text
  name : Text
  score : Nat
  mentions : Nat := 1

/-- The names found so far; those of `preferred` win over those of `fallback`. -/
structure Candidates where
  internalCompanyNames : List Text := []
  preferred : List Candidate := []
  fallback : List Candidate := []

section

variable (cases : CaseMapping)

def pushCandidate (candidates : List Candidate) (name : Text) (score : Nat) : List Candidate :=
  let normalizedName := normalizeAccountName name
  let key := cases.toLowerCase normalizedName
  if normalizedName.isEmpty then candidates
  else if candidates.any (·.key == key) then
    candidates.map fun existing =>
      if existing.key == key then
        { existing with score := existing.score + score, mentions := existing.mentions + 1 }
      else existing
  else candidates ++ [{ key, name := normalizedName, score }]

def Candidates.push (found : Candidates) (name : Text) (fallback : Nat) (preferred : Option Nat) :
    Candidates :=
  { found with
    fallback := pushCandidate cases found.fallback name fallback
    preferred := match preferred with
      | none => found.preferred
      | some score => pushCandidate cases found.preferred name score }

def isLikelyInternal (internalDomains : List Text) (party : GongParty) : Bool :=
  let affiliation := classifyAffiliation cases party.affiliation
  let domain := emailDomain cases (partyEmailAddress party)
  let domainIsInternal := !domain.isEmpty && internalDomains.contains domain
  affiliation == .internal || (affiliation != .external && domainIsInternal)

def addInternalCompany (internalDomains : List Text) (found : Candidates) (party : GongParty) :
    Candidates :=
  let internalCompany := companyFromEmail cases (partyEmailAddress party)
  if isLikelyInternal cases internalDomains party && !internalCompany.isEmpty then
    { found with
      internalCompanyNames := found.internalCompanyNames ++ [cases.toLowerCase internalCompany] }
  else found

def addParty (internalDomains : List Text) (found : Candidates) (party : GongParty) : Candidates :=
  let isExplicitExternal := classifyAffiliation cases party.affiliation == .external
  let isLikelyInternal := isLikelyInternal cases internalDomains party
  let emailCompany := companyFromEmail cases (partyEmailAddress party)
  let contextScore := if isExplicitExternal then 6 else if isLikelyInternal then 2 else 4
  let named := (collectFromContext cases party).foldl
    (fun found contextName => found.push cases contextName 3 (some contextScore))
    (addInternalCompany cases internalDomains found party)
  if emailCompany.isEmpty then named
  else named.push cases emailCompany 1
    (if isLikelyInternal then none else some (if isExplicitExternal then 3 else 1))

def addTitle (found : Candidates) (candidate : Text) : Candidates :=
  (explodeCrossCandidate cases candidate).foldl (fun found exploded =>
    found.push cases exploded 2 (some 2)) (found.push cases candidate 2 (some 2))

def collectCandidates (call : GongCall) : Candidates :=
  let parties := partiesOf call
  (titleCandidates cases (titleOf call)).foldl (addTitle cases)
    (parties.foldl (addParty cases (collectInternalDomains cases parties)) {})

def namesOwnCompany (internalCompanyNames internalRoots : List Text) (name : Text) : Bool :=
  let lower := cases.toLowerCase name
  let normalized := normalizeGongAccountMatch cases name
  internalCompanyNames.contains lower ||
    (internalCompanyNames.any fun internalName =>
      startsWith lower (internalName ++ (" x " : String).toList) ||
        ((" x " : String).toList ++ internalName).isSuffixOf lower ||
        startsWith lower (internalName ++ (" / " : String).toList) ||
        ((" / " : String).toList ++ internalName).isSuffixOf lower) ||
    internalRoots.any fun root =>
      startsWith normalized root || root.isSuffixOf normalized

/-- `String.prototype.localeCompare` is that of the environment. -/
def Candidate.before (localeCompare : Text → Text → Int) (first second : Candidate) : Prop :=
  second.score < first.score ∨ second.score = first.score ∧
    (second.mentions < first.mentions ∨ second.mentions = first.mentions ∧
      localeCompare first.name second.name ≤ 0)

instance (localeCompare : Text → Text → Int) : DecidableRel (Candidate.before localeCompare) :=
  fun _ _ => inferInstanceAs (Decidable (_ ∨ _))

variable (localeCompare : Text → Text → Int)

def Candidates.best (found : Candidates) : List Candidate :=
  if found.preferred.isEmpty then found.fallback else found.preferred

def withoutOwnCompany (found : Candidates) (internalRoots : List Text) : List Candidate :=
  let candidates := found.best
  let hasExternalAlternative := candidates.any fun row =>
    !found.internalCompanyNames.contains (cases.toLowerCase row.name)
  if hasExternalAlternative then
    candidates.filter fun row =>
      !namesOwnCompany cases found.internalCompanyNames internalRoots row.name
  else candidates

def accountCandidates (call : GongCall) : List Candidate :=
  withoutOwnCompany cases (collectCandidates cases call)
    (internalDomainRootAliases cases (collectInternalDomains cases (partiesOf call)))

def extractGongCallAccountNames (call : GongCall) : List Text :=
  ((accountCandidates cases call).insertionSort (Candidate.before localeCompare)).map (·.name)

structure AccountCount where
  key : Text
  name : Text
  count : Nat
deriving DecidableEq

def countAccount (counts : List AccountCount) (name : Text) : List AccountCount :=
  let key := cases.toLowerCase name
  if counts.any (·.key == key) then
    counts.map fun existing =>
      if existing.key == key then { existing with count := existing.count + 1 } else existing
  else counts ++ [{ key, name, count := 1 }]

def AccountCount.before (first second : AccountCount) : Prop :=
  second.count < first.count ∨ second.count = first.count ∧
    localeCompare first.name second.name ≤ 0

instance : DecidableRel (AccountCount.before localeCompare) :=
  fun _ _ => inferInstanceAs (Decidable (_ ∨ _))

def buildGongAccountCounts (calls : List GongCall) : List AccountCount :=
  ((calls.flatMap (extractGongCallAccountNames cases localeCompare)).foldl (countAccount cases)
    []).insertionSort (AccountCount.before localeCompare)

def meetsTarget (text target : Text) : Bool :=
  !text.isEmpty && (includes text target || includes target text)

def gongCallMatchesSelectedAccounts (call : GongCall) (selectedAccountNames : List Text) : Bool :=
  let targets :=
    (selectedAccountNames.map (normalizeGongAccountMatch cases)).filter (!·.isEmpty)
  let accounts := extractGongCallAccountNames cases localeCompare call
  targets.isEmpty ||
    (accounts.any fun accountName =>
      targets.any (meetsTarget (normalizeGongAccountMatch cases accountName))) ||
    targets.any (meetsTarget (normalizeGongAccountMatch cases (titleOf call))) ||
    (partiesOf call).any fun party =>
      let participantName := normalizeGongAccountMatch cases (partyDisplayName party)
      let participantEmail := normalizeGongAccountMatch cases (partyEmailAddress party)
      targets.any fun target =>
        meetsTarget participantName target ||
          (!participantEmail.isEmpty && includes participantEmail target)

end

section

variable {text left right : Text}

theorem isEdge_of_space {c : Char} (space : isSpace c = true) : isEdge c = true := by
  simp [isEdge, space]

theorem normalizeAccountName_eq (input : Text) : normalizeAccountName input =
    ((Pattern.runsTo isSpace ' ' (trim input)).dropWhile isEdge).rdropWhile isEdge := by
  rw [normalizeAccountName, Pattern.space, Pattern.replace_plus (by decide)]

theorem normalizeAccountName_idem (input : Text) :
    normalizeAccountName (normalizeAccountName input) = normalizeAccountName input := by
  obtain ⟨first, last⟩ := stripped_ends isEdge (Pattern.runsTo isSpace ' ' (trim input))
  have inner : normalizeAccountName input <:+: Pattern.runsTo isSpace ' ' (trim input) := by
    rw [normalizeAccountName_eq]
    exact (List.rdropWhile_prefix isEdge _).isInfix.trans (List.dropWhile_suffix isEdge).isInfix
  have whole : Collapsed isSpace (Pattern.runsTo isSpace ' ' (trim input)) :=
    Collapsed.runsTo (by decide) (trim input)
  have collapsed : Collapsed isSpace (normalizeAccountName input) := whole.infix inner
  have blanks : ∀ c ∈ normalizeAccountName input, isSpace c = true → c = ' ' := by
    intro c member space
    obtain ⟨d, _, rfl⟩ := List.mem_map.mp (inner.subset member)
    by_cases inRun : isSpace d = true
    · rw [if_pos inRun]
    · rw [if_neg inRun] at space
      contradiction
  rw [← normalizeAccountName_eq] at first last
  have solid : ∀ c, isEdge c = false → isSpace c = false := by
    intro c inside
    by_contra space
    rw [isEdge_of_space (by simpa using space)] at inside
    cases inside
  have trimmed : trim (normalizeAccountName input) = normalizeAccountName input := by
    refine trim_eq_self ?_ ?_
    · exact fun c isFirst => solid c (first c isFirst)
    · exact fun c isLast => solid c (last c isLast)
  rw [normalizeAccountName_eq (normalizeAccountName input), trimmed, collapsed.runsTo_eq blanks]
  exact stripped_eq_self first last

theorem mem_normalizeAccountName {c : Char} (member : c ∈ normalizeAccountName text) :
    c ∈ text ∨ c = ' ' := by
  rw [normalizeAccountName_eq] at member
  have inner := (List.dropWhile_sublist isEdge).subset
    ((List.rdropWhile_prefix isEdge _).subset member)
  obtain ⟨d, inRuns, rfl⟩ := List.mem_map.mp inner
  split
  · exact .inr rfl
  · obtain ⟨before, after, whole, _⟩ := trim_decomposition text
    refine .inl ?_
    rw [whole]
    exact List.mem_append_left _ (List.mem_append_right _ (mem_collapseRuns inRuns))

end

def Normal (candidates : List Candidate) : Prop :=
  ∀ row ∈ candidates, normalizeAccountName row.name = row.name

section

variable {cases : CaseMapping} {localeCompare : Text → Text → Int}

theorem Normal.push {candidates : List Candidate} (normal : Normal candidates) (name : Text)
    (score : Nat) : Normal (pushCandidate cases candidates name score) := by
  intro row member
  rw [pushCandidate] at member
  split at member
  · exact normal row member
  · split at member
    · obtain ⟨existing, inRows, rfl⟩ := List.mem_map.mp member
      split
      · exact normal existing inRows
      · exact normal existing inRows
    · rcases List.mem_append.mp member with old | new
      · exact normal row old
      · rw [List.mem_singleton.mp new]
        exact normalizeAccountName_idem name

def Candidates.Normal (found : Candidates) : Prop :=
  Integrations.Normal found.preferred ∧ Integrations.Normal found.fallback

theorem Candidates.Normal.push {found : Candidates} (normal : found.Normal) (name : Text)
    (fallback : Nat) (preferred : Option Nat) :
    (found.push cases name fallback preferred).Normal := by
  refine ⟨?_, ?_⟩
  · cases preferred with
    | none => exact normal.1
    | some score =>
      simp only [Candidates.push]
      exact normal.1.push name score
  · simp only [Candidates.push]
    exact normal.2.push name fallback

theorem addParty_normal (internalDomains : List Text) (found : Candidates) (party : GongParty)
    (normal : found.Normal) : (addParty cases internalDomains found party).Normal := by
  have internal : (addInternalCompany cases internalDomains found party).Normal := by
    rw [addInternalCompany]
    split
    · exact normal
    · exact normal
  have named (score : Nat) : ((collectFromContext cases party).foldl
      (fun found contextName => found.push cases contextName 3 (some score))
      (addInternalCompany cases internalDomains found party)).Normal := by
    apply run_invariant Candidates.Normal
    · intro state contextName normalState
      exact normalState.push contextName 3 (some score)
    · exact internal
  rw [addParty]
  split
  · exact named _
  · exact (named _).push _ 1 _

theorem addTitle_normal (found : Candidates) (candidate : Text) (normal : found.Normal) :
    (addTitle cases found candidate).Normal := by
  rw [addTitle]
  apply run_invariant Candidates.Normal
  · intro state exploded normalState
    exact normalState.push exploded 2 (some 2)
  · exact normal.push candidate 2 (some 2)

theorem collectCandidates_normal (cases : CaseMapping) (call : GongCall) :
    (collectCandidates cases call).Normal := by
  rw [collectCandidates]
  apply run_invariant Candidates.Normal addTitle_normal
  apply run_invariant Candidates.Normal (addParty_normal _)
  refine ⟨?_, ?_⟩
  · intro row absent
    cases absent
  · intro row absent
    cases absent

theorem Candidates.Normal.withoutOwnCompany (cases : CaseMapping) {found : Candidates}
    (normal : found.Normal) (internalRoots : List Text) :
    Integrations.Normal (withoutOwnCompany cases found internalRoots) := by
  have best : Integrations.Normal found.best := by
    rw [Candidates.best]
    split
    · exact normal.2
    · exact normal.1
  intro row member
  rw [Integrations.withoutOwnCompany] at member
  split at member
  · exact best row (List.mem_of_mem_filter member)
  · exact best row member

theorem extracted_normal {call : GongCall} {name : Text}
    (extracted : name ∈ extractGongCallAccountNames cases localeCompare call) :
    normalizeAccountName name = name := by
  have normal := (collectCandidates_normal cases call).withoutOwnCompany cases
    (internalDomainRootAliases cases (collectInternalDomains cases (partiesOf call)))
  rw [extractGongCallAccountNames, List.mem_map] at extracted
  obtain ⟨row, inRows, same⟩ := extracted
  rw [← same]
  exact normal row ((List.mem_insertionSort _).mp inRows)

theorem countAccount_names {counts : List AccountCount} {name : Text} {row : AccountCount}
    (member : row ∈ countAccount cases counts name) :
    row.name = name ∨ ∃ old ∈ counts, old.name = row.name := by
  rw [countAccount] at member
  split at member
  · obtain ⟨old, inCounts, rfl⟩ := List.mem_map.mp member
    refine .inr ⟨old, inCounts, ?_⟩
    split
    · rfl
    · rfl
  · rcases List.mem_append.mp member with old | new
    · exact .inr ⟨row, old, rfl⟩
    · rw [List.mem_singleton.mp new]
      exact .inl rfl

theorem counted_names (names : List Text) :
    ∀ row ∈ names.foldl (countAccount cases) [], row.name ∈ names := by
  apply run_taken_invariant fun (taken : List Text) (counts : List AccountCount) => ∀ row ∈ counts, row.name ∈ taken
  · intro taken counts name before row member
    rcases countAccount_names member with same | ⟨old, inCounts, same⟩
    · rw [same]
      exact List.mem_append_right _ List.mem_cons_self
    · rw [← same]
      exact List.mem_append_left _ (before old inCounts)
  · intro row absent
    cases absent

theorem listed_normal {calls : List GongCall} {row : AccountCount}
    (listed : row ∈ buildGongAccountCounts cases localeCompare calls) :
    normalizeAccountName row.name = row.name := by
  rw [buildGongAccountCounts, List.mem_insertionSort] at listed
  obtain ⟨call, _, extracted⟩ := List.mem_flatMap.mp (counted_names _ row listed)
  exact extracted_normal extracted

end

/-- Lower case has the ASCII letters and digits of the lower case of each character. -/
structure LowersEach (cases : CaseMapping) : Prop where
  mem : ∀ text c, isMatchChar c = true →
    (c ∈ cases.toLowerCase text ↔ ∃ d ∈ text, c ∈ cases.toLowerCase [d])
  blank : cases.toLowerCase [' '] = [' ']
  empty : cases.toLowerCase [] = []

def SharesLetter (cases : CaseMapping) (letterOrDigit : Char → Bool) (left right : Text) : Prop :=
  ∃ c ∈ cases.toLowerCase left, c ∈ cases.toLowerCase right ∧ letterOrDigit c = true

instance (cases : CaseMapping) (letterOrDigit : Char → Bool) (left right : Text) :
    Decidable (SharesLetter cases letterOrDigit left right) :=
  List.decidableBEx _ _

def shownTexts (cases : CaseMapping) (localeCompare : Text → Text → Int) (call : GongCall) :
    List Text :=
  extractGongCallAccountNames cases localeCompare call ++ titleOf call ::
    (partiesOf call).flatMap fun party => [partyDisplayName party, partyEmailAddress party]

section

variable {cases : CaseMapping} {localeCompare : Text → Text → Int} {letterOrDigit : Char → Bool}
  {name text target : Text} {call : GongCall}

theorem mem_of_match (lowers : LowersEach cases) {c : Char}
    (member : c ∈ normalizeGongAccountMatch cases text) :
    c ∈ cases.toLowerCase text ∧ isMatchChar c = true := by
  obtain ⟨inLower, isMatch⟩ := List.mem_filter.mp member
  refine ⟨?_, isMatch⟩
  obtain ⟨d, inName, inLetter⟩ := (lowers.mem _ c isMatch).mp inLower
  rcases mem_normalizeAccountName inName with inText | isBlank
  · exact (lowers.mem _ c isMatch).mpr ⟨d, inText, inLetter⟩
  · rw [isBlank, lowers.blank, List.mem_singleton] at inLetter
    rw [inLetter] at isMatch
    cases isMatch

theorem mem_of_includes {part : Text} (nonempty : part ≠ []) (included : includes text part = true) :
    ∃ c ∈ text, c ∈ part := by
  obtain ⟨c, member⟩ := List.exists_mem_of_ne_nil part nonempty
  exact ⟨c, (of_decide_eq_true included).subset member, member⟩

theorem shares_of_common (lowers : LowersEach cases)
    (letters : ∀ c, isMatchChar c = true → letterOrDigit c = true) {c : Char}
    (inText : c ∈ normalizeGongAccountMatch cases text)
    (inName : c ∈ normalizeGongAccountMatch cases name) :
    SharesLetter cases letterOrDigit text name := by
  obtain ⟨lowerText, isMatch⟩ := mem_of_match lowers inText
  exact ⟨c, lowerText, (mem_of_match lowers inName).1, letters c isMatch⟩

theorem shares_of_meetsTarget (lowers : LowersEach cases)
    (letters : ∀ c, isMatchChar c = true → letterOrDigit c = true)
    (nonempty : normalizeGongAccountMatch cases name ≠ [])
    (meets : meetsTarget (normalizeGongAccountMatch cases text)
      (normalizeGongAccountMatch cases name) = true) :
    SharesLetter cases letterOrDigit text name := by
  simp only [meetsTarget, Bool.and_eq_true, Bool.or_eq_true, Bool.not_eq_true',
    List.isEmpty_eq_false_iff] at meets
  obtain ⟨some, included | included⟩ := meets
  · obtain ⟨c, inText, inName⟩ := mem_of_includes nonempty included
    exact shares_of_common lowers letters inText inName
  · obtain ⟨c, inName, inText⟩ := mem_of_includes some included
    exact shares_of_common lowers letters inText inName

theorem shows_nothing (lowers : LowersEach cases)
    (letters : ∀ c, isMatchChar c = true → letterOrDigit c = true)
    (nonempty : normalizeGongAccountMatch cases name ≠ [])
    (apart : ∀ text ∈ shownTexts cases localeCompare call,
      ¬SharesLetter cases letterOrDigit text name) :
    gongCallMatchesSelectedAccounts cases localeCompare call [name] = false := by
  have target : ([name].map (normalizeGongAccountMatch cases)).filter (!·.isEmpty) =
      [normalizeGongAccountMatch cases name] := by
    rw [List.map_singleton, List.filter_cons_of_pos (by simpa using nonempty), List.filter_nil]
  have misses : ∀ text ∈ shownTexts cases localeCompare call,
      meetsTarget (normalizeGongAccountMatch cases text) (normalizeGongAccountMatch cases name) =
        false := by
    intro text shown
    by_contra meets
    exact apart text shown (shares_of_meetsTarget lowers letters nonempty (by simpa using meets))
  have title := misses (titleOf call) (List.mem_append_right _ List.mem_cons_self)
  have accounts : (extractGongCallAccountNames cases localeCompare call).any (fun accountName =>
      meetsTarget (normalizeGongAccountMatch cases accountName)
        (normalizeGongAccountMatch cases name)) = false := by
    refine List.any_eq_false.mpr fun accountName extracted => ?_
    rw [misses accountName (List.mem_append_left _ extracted)]
    simp
  have participants : (partiesOf call).any (fun party =>
      meetsTarget (normalizeGongAccountMatch cases (partyDisplayName party))
          (normalizeGongAccountMatch cases name) ||
        (!(normalizeGongAccountMatch cases (partyEmailAddress party)).isEmpty &&
          includes (normalizeGongAccountMatch cases (partyEmailAddress party))
            (normalizeGongAccountMatch cases name))) = false := by
    refine List.any_eq_false.mpr fun party member => ?_
    have shown : ∀ text ∈ [partyDisplayName party, partyEmailAddress party],
        text ∈ shownTexts cases localeCompare call := by
      intro text ofParty
      refine List.mem_append_right _ (List.mem_cons_of_mem _ ?_)
      exact List.mem_flatMap.mpr ⟨party, member, ofParty⟩
    have displayName := misses _ (shown _ List.mem_cons_self)
    have emailAddress := misses _ (shown _ (List.mem_cons_of_mem _ List.mem_cons_self))
    rw [meetsTarget, Bool.and_or_distrib_left, Bool.or_eq_false_iff] at emailAddress
    rw [displayName, emailAddress.1]
    simp
  simp only [gongCallMatchesSelectedAccounts, target, List.isEmpty_cons, List.any_cons, List.any_nil,
    Bool.or_false, title, accounts, participants]

theorem selects_counted (normal : normalizeAccountName name = name)
    (counted : ∃ extracted ∈ extractGongCallAccountNames cases localeCompare call,
      cases.toLowerCase extracted = cases.toLowerCase name) :
    gongCallMatchesSelectedAccounts cases localeCompare call [name] = true := by
  obtain ⟨extracted, inCall, same⟩ := counted
  have sameMatch : normalizeGongAccountMatch cases extracted =
      normalizeGongAccountMatch cases name := by
    rw [normalizeGongAccountMatch, normalizeGongAccountMatch, extracted_normal inCall, normal, same]
  by_cases empty : normalizeGongAccountMatch cases name = []
  · simp [gongCallMatchesSelectedAccounts, empty]
  · have meets : meetsTarget (normalizeGongAccountMatch cases extracted)
        (normalizeGongAccountMatch cases name) = true := by
      simp [meetsTarget, sameMatch, includes, empty]
    have some : (extractGongCallAccountNames cases localeCompare call).any (fun accountName =>
        meetsTarget (normalizeGongAccountMatch cases accountName)
          (normalizeGongAccountMatch cases name)) = true :=
      List.any_eq_true.mpr ⟨extracted, inCall, meets⟩
    simp [gongCallMatchesSelectedAccounts, empty, some]

theorem titleCandidates_nil : titleCandidates cases [] = [] := by
  have cleaned : trim ((Pattern.plus .space).replace [' ']
      ((Pattern.seq (.accept (· == '(')) (.seq (.plus (.accept (· != ')'))) (.accept (· == ')')))).replace
        [' '] ((Pattern.seq (.accept (· == '[')) (.seq (.plus (.accept (· != ']')))
          (.accept (· == ']')))).replace [' '] (trim [])))) = [] := by decide
  have candidate : maybeMeaningfulTitleCandidate cases [] = [] := by
    have normalized : normalizeAccountName [] = [] := by decide
    simp only [maybeMeaningfulTitleCandidate, normalized, List.isEmpty_nil, Bool.true_or, if_true]
  simp only [titleCandidates, cleaned, Pattern.removeFirst_nil, Pattern.split_nil, candidate]
  rfl

theorem shownTexts_silent : shownTexts cases localeCompare {} = [[]] := by
  have none : collectCandidates cases {} = {} := by
    have noTitle : titleOf {} = [] := rfl
    have noParties : partiesOf {} = [] := rfl
    rw [collectCandidates, noTitle, noParties, titleCandidates_nil]
    rfl
  rw [shownTexts, extractGongCallAccountNames, accountCandidates, none]
  rfl

/-- The selection of a listed account selects the calls that it was counted from, and no call that
shows nothing of it, exactly if the account has an ASCII letter or digit to be matched by. -/
theorem accountSelection_iff (cases : CaseMapping) (lowers : LowersEach cases)
    (localeCompare : Text → Text → Int) (letterOrDigit : Char → Bool)
    (letters : ∀ c, isMatchChar c = true → letterOrDigit c = true) (calls : List GongCall)
    (row : AccountCount) (listed : row ∈ buildGongAccountCounts cases localeCompare calls) :
    ((∀ call ∈ calls, (∃ extracted ∈ extractGongCallAccountNames cases localeCompare call,
          cases.toLowerCase extracted = cases.toLowerCase row.name) →
        gongCallMatchesSelectedAccounts cases localeCompare call [row.name] = true) ∧
      ∀ call, (∀ text ∈ shownTexts cases localeCompare call,
          ¬SharesLetter cases letterOrDigit text row.name) →
        gongCallMatchesSelectedAccounts cases localeCompare call [row.name] = false) ↔
      normalizeGongAccountMatch cases row.name ≠ [] := by
  constructor
  · rintro ⟨_, rejects⟩ empty
    have rejected := rejects {} (by
      intro text shown
      rw [shownTexts_silent, List.mem_singleton] at shown
      rw [shown]
      rintro ⟨c, absent, _⟩
      rw [lowers.empty] at absent
      cases absent)
    simp [gongCallMatchesSelectedAccounts, empty] at rejected
  · intro nonempty
    refine ⟨?_, ?_⟩
    · intro call _ counted
      exact selects_counted (listed_normal listed) counted
    · intro call apart
      exact shows_nothing lowers letters nonempty apart

end

theorem ascii_lowersEach : LowersEach CaseMapping.ascii where
  mem := by
    intro text c _
    simp [CaseMapping.ascii, eq_comm]
  blank := by decide
  empty := rfl

def accountCall (name : String) : GongCall where
  parties := some [GongParty.mk none none none none none [GongContext.mk [
    GongContextObject.mk (some ("Account" : String).toList) [
      GongField.mk (some ("name" : String).toList) (some name.toList)]]]]

def titledCall (title : String) : GongCall where
  title := some title.toList

theorem acme_selected : gongCallMatchesSelectedAccounts CaseMapping.ascii (fun _ _ => 0)
    (accountCall "Acme") [("Acme" : String).toList] = true := by
  have selection := accountSelection_iff CaseMapping.ascii ascii_lowersEach (fun _ _ => 0) isMatchChar
    (fun _ isMatch => isMatch) [accountCall "Acme"]
    { key := ("acme" : String).toList, name := ("Acme" : String).toList, count := 1 }
    (by decide +kernel)
  exact (selection.mpr (by decide +kernel)).1 (accountCall "Acme") List.mem_cons_self
    (by decide +kernel)

/-- The selection of a name in another script selects every call. -/
theorem romashka_selectsAll :
    (buildGongAccountCounts CaseMapping.ascii (fun _ _ => 0) [accountCall "Ромашка"]).any
        (·.name == ("Ромашка" : String).toList) = true ∧
      (∀ text ∈ shownTexts CaseMapping.ascii (fun _ _ => 0) (titledCall "Zebra"),
        ¬SharesLetter CaseMapping.ascii (fun _ => true) text ("Ромашка" : String).toList) ∧
      gongCallMatchesSelectedAccounts CaseMapping.ascii (fun _ _ => 0) (titledCall "Zebra")
        [("Ромашка" : String).toList] = true := by
  refine ⟨?_, ?_, ?_⟩
  · decide +kernel
  · decide +kernel
  · decide +kernel

end StoryEngine.Integrations
