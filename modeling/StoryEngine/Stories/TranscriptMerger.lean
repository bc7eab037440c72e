import Mathlib.Algebra.Ring.Int.Defs
import Mathlib.Data.List.Sort
import StoryEngine.Schema.Database
import StoryEngine.Stories.Prompts

namespace StoryEngine.Stories

open Schema

/-! # Merging the transcripts of an account

The transcripts are put into one Markdown document in the order of their calls.  Calls are left
out, from the oldest or from the newest on, while there are too many words.
-/

structure MergedTranscriptOptions where
  accountId : RowId
  organizationId : RowId
  maxWords : Option Int := none
  truncationMode : Option TruncationMode := none
  afterDate : Option Date := none
  beforeDate : Option Date := none

structure MergedTranscriptResult where
  markdown : Text
  wordCount : Nat
  totalCalls : Nat
  includedCalls : Nat
  truncated : Bool
  truncationBoundary : Option Date
  truncationMode : TruncationMode

structure EntryParticipant where
  name : Option Text
  email : Option Text
  isHost : Bool
deriving DecidableEq

structure CallTranscriptEntry where
  callId : RowId
  title : Option Text
  occurredAt : Date
  duration : Option Nat
  participants : List EntryParticipant
  fullText : Text
  wordCount : Nat
deriving DecidableEq

def defaultTranscriptMergeMaxWords : Int := 600000

def defaultTruncationMode : TruncationMode := .oldestFirst

def padded (width number : Nat) : Text := (numeral number).leftpad width '0'

/-- `toISOString().split("T")[0]`: the day in the Gregorian calendar, with years that begin in
March while it is computed. -/
def isoDay (moment : Date) : Text :=
  let days := moment / 86400000 + 719468
  let dayOfEra := days % 146097
  let yearOfEra := (dayOfEra - dayOfEra / 1460 + dayOfEra / 36524 - dayOfEra / 146096) / 365
  let dayOfYear := dayOfEra - (365 * yearOfEra + yearOfEra / 4 - yearOfEra / 100)
  let monthFromMarch := (5 * dayOfYear + 2) / 153
  let day := dayOfYear - (153 * monthFromMarch + 2) / 5 + 1
  let month := if monthFromMarch < 10 then monthFromMarch + 3 else monthFromMarch - 9
  let year := yearOfEra + days / 146097 * 400 + (if month ≤ 2 then 1 else 0)
  let yearText := if year ≤ 9999 then padded 4 year else '+' :: padded 6 year
  template [yearText, "-", padded 2 month, "-", padded 2 day]

example : isoDay 951782400000 = ("2000-02-29" : String).toList := by decide +kernel

def entryWords (entry : CallTranscriptEntry) : Int := entry.wordCount + 30

/-- Drops calls from the beginning, all but the last one if need be; the date is that of the call
dropped last. -/
def dropFirst (maxWords totalWords : Int) (boundary : Option Date) :
    List CallTranscriptEntry → List CallTranscriptEntry × Option Date
  | first :: second :: rest =>
    if maxWords < totalWords then
      dropFirst maxWords (totalWords - entryWords first) (some first.occurredAt) (second :: rest)
    else (first :: second :: rest, boundary)
  | entries => (entries, boundary)

structure Truncation where
  included : List CallTranscriptEntry
  truncated : Bool
  truncationBoundary : Option Date
deriving DecidableEq

def applyTruncation (entries : List CallTranscriptEntry) (maxWords : Int) (mode : TruncationMode) :
    Truncation :=
  let totalWords := (entries.map entryWords).sum
  if totalWords ≤ maxWords then
    { included := entries, truncated := false, truncationBoundary := none }
  else
    match mode with
    | .oldestFirst =>
      let (included, truncationBoundary) := dropFirst maxWords totalWords none entries
      { included, truncated := true, truncationBoundary }
    | .newestFirst =>
      let (included, truncationBoundary) := dropFirst maxWords totalWords none entries.reverse
      { included := included.reverse, truncated := true, truncationBoundary }

def participantName (participant : EntryParticipant) : Text :=
  let name := (participant.name.or participant.email).getD "Unknown"
  if participant.isHost then template ["**", name, "** (host)"] else name

def entryTitle (entry : CallTranscriptEntry) : Text :=
  let duration : Text :=
    match entry.duration.filter (· != 0) with
    | some seconds => template [" (", numeral ((seconds + 30) / 60), " min)"]
    | none => []
  template [entry.title.getD "Untitled Call", " — ", isoDay entry.occurredAt, duration, "\n"]

def participantSections (entry : CallTranscriptEntry) : List Text :=
  if entry.participants.isEmpty then []
  else [template [
    "**Participants:** ", Text.join ", " (entry.participants.map participantName), "\n"]]

def entryHeader (entry : CallTranscriptEntry) : List Text :=
  ["---\n", template ["## ", entryTitle entry]]

def entrySections (entry : CallTranscriptEntry) : List Text :=
  entryHeader entry ++ participantSections entry ++ [entry.fullText, []]

def documentHeader (entries : List CallTranscriptEntry) : Text :=
  let dayOf (entry : Option CallTranscriptEntry) : Text :=
    (entry.map fun entry => isoDay entry.occurredAt).getD []
  template [
    "# Merged Transcripts (", numeral entries.length, " calls, ", dayOf entries.head?, " to ",
    dayOf entries.getLast?, ")\n"]

def buildMarkdown (entries : List CallTranscriptEntry) : Text :=
  Text.join ['\n'] (documentHeader entries :: entries.flatMap entrySections)

def countWords (text : Text) : Nat := ((Text.splitSpaces text).filter (!·.isEmpty)).length

def transcriptEntry (db : Database) (call : Call) : Option CallTranscriptEntry :=
  (db.transcripts.find? (·.callId == call.id)).map fun transcript => {
    callId := call.id
    title := call.title
    occurredAt := call.occurredAt
    duration := call.duration
    participants := (db.callParticipants.filter (·.callId == call.id)).map fun row => {
      name := row.name, email := row.email, isHost := row.isHost }
    fullText := transcript.fullText
    wordCount := transcript.wordCount }

def transcriptEntries (db : Database) (options : MergedTranscriptOptions) :
    List CallTranscriptEntry :=
  let calls := db.calls.filter fun call =>
    call.accountId == some options.accountId && call.organizationId == options.organizationId &&
      options.afterDate.all (· ≤ call.occurredAt) &&
      options.beforeDate.all (call.occurredAt ≤ ·)
  (calls.insertionSort fun first second => first.occurredAt ≤ second.occurredAt).filterMap
    (transcriptEntry db)

def mergedEntries (db : Database) (options : MergedTranscriptOptions) :
    Truncation × TruncationMode :=
  let orgSettings := db.orgSettings.find? (·.organizationId == options.organizationId)
  let maxWords := (options.maxWords.or (orgSettings.map (·.transcriptMergeMaxWords))).getD
    defaultTranscriptMergeMaxWords
  let truncationMode :=
    (options.truncationMode.or (orgSettings.map (·.transcriptTruncationMode))).getD
      defaultTruncationMode
  (applyTruncation (transcriptEntries db options) maxWords truncationMode, truncationMode)

def mergeTranscripts (db : Database) (options : MergedTranscriptOptions) :
    MergedTranscriptResult :=
  let totalCalls := (transcriptEntries db options).length
  let (truncation, truncationMode) := mergedEntries db options
  if totalCalls = 0 then
    { markdown := []
      wordCount := 0
      totalCalls := 0
      includedCalls := 0
      truncated := false
      truncationBoundary := none
      truncationMode }
  else
    let markdown := buildMarkdown truncation.included
    { markdown
      wordCount := countWords markdown
      totalCalls
      includedCalls := truncation.included.length
      truncated := truncation.truncated
      truncationBoundary := truncation.truncationBoundary
      truncationMode }

end StoryEngine.Stories
