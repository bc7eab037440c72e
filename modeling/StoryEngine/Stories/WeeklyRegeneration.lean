import StoryEngine.Stories.StoryBuilder

namespace StoryEngine.Stories

open Data Schema

/-! # Weekly regeneration of stories

A run looks for calls of an account that are newer than its latest full journey, and builds the
journey again when there is one.  Calls and transcripts arrive between any two steps of a run, and
any step may fail; one run follows another, since their worker takes one job at a time.
-/

structure EligibleAccount where
  accountId : RowId
  accountName : Text
  organizationId : RowId
  lastStoryId : Option RowId
  lastStoryMarkdown : Option Text
  lastStoryGeneratedAt : Option Date
  newCallCount : Nat
deriving DecidableEq

def hasTranscript (db : Database) (call : Call) : Bool :=
  db.transcripts.any (·.callId == call.id)

section

variable (db : Database) (organizationId accountId : RowId)

def listedAccount : Option Account :=
  db.accounts.find? fun account =>
    account.id == accountId && account.organizationId == organizationId &&
      db.calls.any fun call => call.accountId == some account.id && hasTranscript db call

def latestJourney : Option Story :=
  let journeys := db.stories.filter fun story =>
    story.accountId == accountId && story.organizationId == organizationId &&
      story.storyType == .fullJourney
  (journeys.insertionSort fun first second => second.generatedAt ≤ first.generatedAt).head?

def accountCalls : List Call :=
  db.calls.filter fun call =>
    call.accountId == some accountId && call.organizationId == organizationId

def countNewCalls (latestStory : Option Story) : Nat :=
  ((accountCalls db organizationId accountId).filter fun call =>
    hasTranscript db call && latestStory.all (·.generatedAt < call.createdAt)).length

def regenerationOptions : StoryBuilderOptions := { accountId, organizationId }

def regenerationMerge : MergedTranscriptOptions := { accountId, organizationId }

def createStory (now : Date) (markdownBody : Text) : Database :=
  { db with
    nextId := db.nextId + 1
    stories := db.stories ++ [{
      id := db.nextId
      organizationId
      accountId
      markdownBody
      storyType := inferStoryType (regenerationOptions organizationId accountId)
      generatedAt := now }] }

end

def createRegenLog (db : Database) (account : EligibleAccount) (newStoryId : RowId) : Database :=
  { db with
    nextId := db.nextId + 1
    storyRegenLogs := db.storyRegenLogs ++ [{
      id := db.nextId
      organizationId := account.organizationId
      accountId := account.accountId
      previousStoryId := account.lastStoryId
      newStoryId
      callsProcessed := account.newCallCount }] }

/-- The calls that a merge read, before any was left out, and how many transcripts were stored
then. -/
structure Generation where
  entries : List CallTranscriptEntry
  transcripts : Nat
deriving DecidableEq

inductive RegenStage where
  | idle
  | findingAccounts
  | findingLatest (accountName : Text)
  | countingCalls (accountName : Text) (latestStory : Option Story)
  | merging (account : EligibleAccount)
  | narrating (account : EligibleAccount) (generation : Generation)
  | extractingQuotes (account : EligibleAccount) (generation : Generation) (markdown : Text)
  | savingStory (account : EligibleAccount) (generation : Generation) (markdown : Text)
  | savingQuotes (account : EligibleAccount)
  | findingStory (account : EligibleAccount)
  | logging (account : EligibleAccount) (newStoryId : RowId)
  | finished
  | failed
deriving DecidableEq

def RegenStage.atRest : RegenStage → Bool
  | .idle | .finished | .failed => true
  | _ => false

/-- Two fields only say what happened: how many transcripts were stored when the latest run
started, and the generations that stored their story, in order. -/
structure Regeneration where
  clock : Date
  db : Database
  stage : RegenStage := .idle
  started : Nat := 0
  generations : List Generation := []

def advance (organizationId accountId : RowId) (content : Text) (state : Regeneration) :
    Regeneration :=
  match state.stage with
  | .idle | .finished | .failed => state
  | .findingAccounts =>
    match listedAccount state.db organizationId accountId with
    | some account => { state with stage := .findingLatest account.name }
    | none => { state with stage := .finished }
  | .findingLatest accountName =>
    { state with
      stage := .countingCalls accountName (latestJourney state.db organizationId accountId) }
  | .countingCalls accountName latestStory =>
    let newCallCount := countNewCalls state.db organizationId accountId latestStory
    if newCallCount = 0 then { state with stage := .finished }
    else
      { state with
        stage := .merging {
          accountId
          accountName
          organizationId
          lastStoryId := latestStory.map (·.id)
          lastStoryMarkdown := latestStory.map (·.markdownBody)
          lastStoryGeneratedAt := latestStory.map (·.generatedAt)
          newCallCount } }
  | .merging account =>
    let options := regenerationMerge organizationId accountId
    if (mergeTranscripts state.db options).includedCalls = 0 then
      { state with stage := .findingStory account }
    else
      { state with
        stage := .narrating account {
          entries := transcriptEntries state.db options
          transcripts := state.db.transcripts.length } }
  | .narrating account generation =>
    let markdown : Text := if content.isEmpty then "# Story generation failed" else content
    { state with stage := .extractingQuotes account generation markdown }
  | .extractingQuotes account generation markdown =>
    { state with stage := .savingStory account generation markdown }
  | .savingStory account generation markdown =>
    { state with
      db := createStory state.db organizationId accountId state.clock markdown
      stage := .savingQuotes account
      generations := state.generations ++ [generation] }
  | .savingQuotes account => { state with stage := .findingStory account }
  | .findingStory account =>
    match latestJourney state.db organizationId accountId with
    | some story => { state with stage := .logging account story.id }
    | none => { state with stage := .failed }
  | .logging account newStoryId =>
    { state with db := createRegenLog state.db account newStoryId, stage := .finished }

def abort (state : Regeneration) : Regeneration :=
  if state.stage.atRest then state else { state with stage := .failed }

def startRun (state : Regeneration) : Regeneration :=
  if state.stage.atRest then
    { state with stage := .findingAccounts, started := state.db.transcripts.length }
  else state

def callArrives (state : Regeneration) (call : Call) : Regeneration :=
  { state with
    db := { state.db with
      nextId := state.db.nextId + 1
      calls := state.db.calls ++ [{ call with id := state.db.nextId, createdAt := state.clock }] } }

def transcriptArrives (state : Regeneration) (transcript : Transcript) : Regeneration :=
  if state.db.calls.any (·.id == transcript.callId) &&
      !state.db.transcripts.any (·.callId == transcript.callId) then
    { state with
      db := { state.db with transcripts := state.db.transcripts ++ [transcript] } }
  else state

inductive RegenEvent where
  | passes (milliseconds : Nat)
  | callArrives (call : Call)
  | transcriptArrives (transcript : Transcript)
  | starts
  | runs (content : Option Text)

def regenStep (organizationId accountId : RowId) (state : Regeneration) :
    RegenEvent → Regeneration
  | .passes milliseconds => { state with clock := state.clock + milliseconds }
  | .callArrives call => callArrives state call
  | .transcriptArrives transcript => transcriptArrives state transcript
  | .starts => startRun state
  | .runs (some content) => advance organizationId accountId content state
  | .runs none => abort state

end StoryEngine.Stories
