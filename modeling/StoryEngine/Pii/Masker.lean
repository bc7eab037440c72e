import Mathlib.Data.List.Sort
import StoryEngine.Text.Pattern

namespace StoryEngine.Pii

open Text Pattern

/-! # The PII masker

Candidates are found by patterns and by the words that stand before them, overlapping
candidates are collapsed to one, and each detection is replaced by the tag of its type.
-/

inductive PiiType where
  | email
  | phone
  | ssn
  | creditCard
  | ipAddress
  | streetAddress
  | dateOfBirth
  | personName
  | accountIdentifier
deriving DecidableEq

structure PiiDetection where
  type : PiiType
  original : Text
  replacement : Text
  startIndex : Nat
  endIndex : Nat
deriving DecidableEq

structure DetectionCandidate extends PiiDetection where
  priority : Nat

structure MaskingResult where
  maskedText : Text
  detections : List PiiDetection

/-! ## Patterns

With the `i` flag and without the `u` flag no character outside ASCII equals an ASCII letter,
so ignoring case means ignoring it in ASCII.
-/

def isDigit (c : Char) : Bool := decide (0x30 ≤ c.toNat) && decide (c.toNat ≤ 0x39)

def isLetter (c : Char) : Bool :=
  decide (0x61 ≤ c.toNat) && decide (c.toNat ≤ 0x7A) ||
    decide (0x41 ≤ c.toNat) && decide (c.toNat ≤ 0x5A)

def apostrophe : Char := Char.ofNat 0x27

def oneOf (accepts : Char → Bool) (others : String) : Pattern :=
  .accept fun c => accepts c || others.toList.contains c

def digit : Pattern := .accept isDigit

def letter : Pattern := .accept isLetter

def char (wanted : Char) : Pattern := .accept (· == wanted)

def exactly (text : String) : Pattern := sequence (text.toList.map char)

def anyCase (text : String) : Pattern :=
  sequence (text.toList.map fun wanted => .accept (·.toLower == wanted.toLower))

def anyCaseOf (words : List String) : Pattern := choice (words.map anyCase)

structure PiiPattern where
  type : PiiType
  regex : Pattern
  replacement : Text
  priority : Nat

def emailRegex : Pattern :=
  sequence [
    plus (oneOf (fun c => isLetter c || isDigit c) "._%+-"), char '@',
    plus (oneOf (fun c => isLetter c || isDigit c) ".-"), char '.', atLeast 2 letter]

def ssnRegex : Pattern :=
  sequence [
    .wordBoundary,
    .notAhead (choice [exactly "000", exactly "666", .seq (char '9') (times 2 digit)]),
    times 3 digit, .group (oneOf isSpace "-"),
    .notAhead (exactly "00"), times 2 digit, .backReference,
    .notAhead (exactly "0000"), times 4 digit, .wordBoundary]

def creditCardRegex : Pattern :=
  let four := times 4 digit
  let delimiter := optional (oneOf isSpace "-")
  sequence [
    .wordBoundary, four, delimiter, four, delimiter, four, delimiter, four, .wordBoundary]

def phoneRegex : Pattern :=
  let delimiter := optional (oneOf isSpace "-.")
  sequence [
    optional (sequence [optional (char '+'), char '1', delimiter]),
    optional (char '('), times 3 digit, optional (char ')'), delimiter, times 3 digit, delimiter,
    times 4 digit, .wordBoundary]

def ipAddressRegex : Pattern :=
  sequence [
    .wordBoundary, times 3 (.seq (between 1 3 digit) (char '.')), between 1 3 digit, .wordBoundary]

def streetWords : List String := [
  "Street", "St", "Avenue", "Ave", "Road", "Rd", "Boulevard", "Blvd", "Lane", "Ln", "Drive", "Dr",
  "Court", "Ct", "Way", "Place", "Pl", "Terrace", "Ter"]

def streetAddressRegex : Pattern :=
  sequence [
    .wordBoundary, between 1 6 digit, plus space,
    between 2 40 (oneOf (fun c => isLetter c || isDigit c || isSpace c || c == apostrophe) ".-"),
    space, anyCaseOf streetWords, .wordBoundary,
    optional (sequence [
      char ',', .star space, between 2 30 (oneOf (fun c => isLetter c || c == apostrophe) " .-")]),
    optional (sequence [char ',', .star space, times 2 letter]),
    optional (sequence [
      plus space, times 5 digit, optional (.seq (char '-') (times 4 digit))])]

def dateOfBirthRegex : Pattern :=
  let slash := oneOf (fun _ => false) "/-"
  sequence [
    anyCaseOf ["date of birth", "DOB", "born on"], plus (oneOf isSpace ":"),
    between 1 2 digit, slash, between 1 2 digit, slash, between 2 4 digit]

def piiPatterns : List PiiPattern := [
  { type := .email, regex := emailRegex, replacement := "[EMAIL_REDACTED]", priority := 120 },
  { type := .ssn, regex := ssnRegex, replacement := "[SSN_REDACTED]", priority := 115 },
  { type := .creditCard, regex := creditCardRegex, replacement := "[CC_REDACTED]",
    priority := 110 },
  { type := .phone, regex := phoneRegex, replacement := "[PHONE_REDACTED]", priority := 100 },
  { type := .ipAddress, regex := ipAddressRegex, replacement := "[IP_REDACTED]", priority := 95 },
  { type := .streetAddress, regex := streetAddressRegex, replacement := "[ADDRESS_REDACTED]",
    priority := 92 },
  { type := .dateOfBirth, regex := dateOfBirthRegex, replacement := "[DOB_REDACTED]",
    priority := 90 }]

structure Found where
  index : Nat
  matched : Text
  captured : Option Text

/-- What `exec` returns, call after call, for a pattern with the `g` flag. -/
def execAll (regex : Pattern) (text : Text) : List Found :=
  (regex.scan text).filterMap fun
    | .plain _ => none
    | .hit behind matched _ captured => some { index := behind.length, matched, captured }

def regexCandidates (text : Text) (pattern : PiiPattern) : List DetectionCandidate :=
  (execAll pattern.regex text).map fun found => {
    type := pattern.type
    original := found.matched
    replacement := pattern.replacement
    startIndex := found.index
    endIndex := found.index + found.matched.length
    priority := pattern.priority }

def collectRegexCandidates (text : Text) : List DetectionCandidate :=
  piiPatterns.flatMap (regexCandidates text)

def indexOf (part : Text) : Text → Option Nat
  | [] => if part.isEmpty then some 0 else none
  | c :: rest =>
    if part.isPrefixOf (c :: rest) then some 0 else (indexOf part rest).map (· + 1)

def lastIndexOf (part : Text) : Text → Option Nat
  | [] => if part.isEmpty then some 0 else none
  | c :: rest =>
    match lastIndexOf part rest with
    | some index => some (index + 1)
    | none => if part.isPrefixOf (c :: rest) then some 0 else none

def nameIntroductions : List String := [
  "my name is", "name is", "this is", "i am", "i'm", "spoke with", "met with", "contact is"]

def nameRegex : Pattern :=
  let capitalized := .seq letter (plus letter)
  .seq (sequence [.wordBoundary, anyCaseOf nameIntroductions, plus space])
    (.seq (.group (.seq capitalized (between 1 2 (.seq (plus space) capitalized)))) .wordBoundary)

def nameCandidate (found : Found) : Option DetectionCandidate := do
  let captured ← found.captured
  let offset ← indexOf captured found.matched
  return {
    type := .personName
    original := captured
    replacement := "[NAME_REDACTED]"
    startIndex := found.index + offset
    endIndex := found.index + offset + captured.length
    priority := 86 }

def idOwners : List String := ["customer", "employee", "member", "account", "case", "ticket"]

def idRegex : Pattern :=
  let isIdChar (c : Char) : Bool := isLetter c || isDigit c
  .seq
    (sequence [
      .wordBoundary, anyCaseOf idOwners, .star space, anyCaseOf ["identifier", "id"],
      .star (oneOf isSpace ":#-")])
    (.seq (.group (.seq (.accept isIdChar) (atLeast 5 (oneOf isIdChar "-")))) .wordBoundary)

def idCandidate (found : Found) : Option DetectionCandidate := do
  let captured ← found.captured
  let offset ← lastIndexOf (captured.map Char.toLower) (found.matched.map Char.toLower)
  return {
    type := .accountIdentifier
    original := captured
    replacement := "[ID_REDACTED]"
    startIndex := found.index + offset
    endIndex := found.index + offset + captured.length
    priority := 84 }

def collectHeuristicCandidates (text : Text) : List DetectionCandidate :=
  (execAll nameRegex text).filterMap nameCandidate ++ (execAll idRegex text).filterMap idCandidate

def DetectionCandidate.before (first second : DetectionCandidate) : Bool :=
  let firstLength := first.endIndex - first.startIndex
  let secondLength := second.endIndex - second.startIndex
  if second.priority ≠ first.priority then second.priority < first.priority
  else if secondLength ≠ firstLength then secondLength < firstLength
  else first.startIndex ≤ second.startIndex

def rangesOverlap (startA endA startB endB : Nat) : Bool :=
  decide (startA < endB) && decide (startB < endA)

def PiiDetection.overlaps (first second : PiiDetection) : Bool :=
  rangesOverlap first.startIndex first.endIndex second.startIndex second.endIndex

def selectCandidate (selected : List DetectionCandidate) (candidate : DetectionCandidate) :
    List DetectionCandidate :=
  if selected.any fun existing => candidate.overlaps existing.toPiiDetection then selected
  else selected ++ [candidate]

def collectPiiDetections (text : Text) : List PiiDetection :=
  let candidates := collectRegexCandidates text ++ collectHeuristicCandidates text
  let prioritized := candidates.insertionSort fun first second => first.before second
  let selected := prioritized.foldl selectCandidate []
  (selected.insertionSort fun first second => first.startIndex ≤ second.startIndex).map
    (·.toPiiDetection)

def replaceRange (text : Text) (detection : PiiDetection) : Text :=
  text.take detection.startIndex ++ detection.replacement ++ text.drop detection.endIndex

def maskPii (text : Text) : MaskingResult :=
  let detections := collectPiiDetections text
  let descending := detections.insertionSort fun first second =>
    second.startIndex ≤ first.startIndex
  { maskedText := descending.foldl replaceRange text, detections }

def containsPii (text : Text) : Bool := !(collectPiiDetections text).isEmpty

end StoryEngine.Pii
