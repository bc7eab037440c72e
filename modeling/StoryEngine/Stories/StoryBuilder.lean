import StoryEngine.Pipeline.ProcessCall
import StoryEngine.Stories.TranscriptMerger

namespace StoryEngine.Stories

open Pipeline Processing Schema

/-! # The story builder

A story takes two prompts: the narrative is written from the merged transcripts of the account,
and quotes are extracted from its chunks.
-/

/-- Without a client of its own, a story asks OpenAI directly. -/
structure StoryBuilderOptions where
  accountId : RowId
  organizationId : RowId
  funnelStages : List FunnelStage := []
  filterTopics : List Text := []
  title : Option Text := none
  format : Option StoryFormat := none
  storyLength : Option StoryLength := none
  storyOutline : Option StoryOutline := none
  storyType : Option StoryType := none
  client : ChatClient := .aiClient

structure TranscriptSegment where
  callId : RowId
  chunkId : RowId
  callTitle : Option Text
  recordingUrl : Option Text
  occurredAt : Date
  chunkText : Text
  speaker : Option Text
  tags : List TagResult

def tagMatches (options : StoryBuilderOptions) (tag : ChunkTag) : Bool :=
  (options.funnelStages.isEmpty || options.funnelStages.contains tag.funnelStage) &&
    (options.filterTopics.isEmpty || options.filterTopics.contains tag.topic)

def hasTagFilter (options : StoryBuilderOptions) : Bool :=
  !options.funnelStages.isEmpty || !options.filterTopics.isEmpty

def chunkSegment (options : StoryBuilderOptions) (search : SearchState) (call : Call)
    (chunk : TranscriptChunk) : Option TranscriptSegment :=
  let tags := search.tags.filter fun tag => tag.chunkId == chunk.id && tagMatches options tag
  if hasTagFilter options && tags.isEmpty then none
  else
    some {
      callId := call.id
      chunkId := chunk.id
      callTitle := call.title
      recordingUrl := call.recordingUrl
      occurredAt := call.occurredAt
      chunkText := chunk.text
      speaker := chunk.speaker
      tags := tags.map fun tag => { funnelStage := tag.funnelStage, topic := tag.topic } }

def gatherSegments (options : StoryBuilderOptions) (search : SearchState) :
    List TranscriptSegment :=
  let calls := search.db.calls.filter fun call =>
    call.accountId == some options.accountId && call.organizationId == options.organizationId
  (calls.insertionSort fun first second => first.occurredAt ≤ second.occurredAt).flatMap fun call =>
    if search.db.transcripts.any (·.callId == call.id) then
      (orderedChunks search call.id).filterMap (chunkSegment options search call)
    else []

/-- The ten labels that stand most often; of two that stand equally often, the one that stands
first comes first. -/
def buildTopicSummary (segments : List TranscriptSegment) : Text :=
  let labels := segments.flatMap fun segment => segment.tags.map fun tag => topicLabel tag.topic
  Text.join ", " <|
    ((labels.eraseDups).insertionSort fun first second =>
      labels.count second ≤ labels.count first).take 10

def truncationNote (truncated : Bool) : Text :=
  if truncated then
    template [
      "\n\nNOTE: Some calls were excluded to fit within context limits. The included calls ",
      "represent the most relevant portion of the account journey."]
  else []

def storySettings (options : StoryBuilderOptions) (savedDefaults : StoryPromptDefaults) :
    StorySettings where
  storyLength := (options.storyLength.or savedDefaults.storyLength).getD .medium
  storyOutline := (options.storyOutline.or savedDefaults.storyOutline).getD .chronologicalJourney
  storyType := (options.storyType.or savedDefaults.storyType).getD .fullAccountJourney
  storyFormat := options.format.or savedDefaults.storyFormat

def narrativeMessages (accountName : Text) (merged : MergedTranscriptResult)
    (segments : List TranscriptSegment) (context : StoryContextSettings)
    (settings : StorySettings) : List ChatMessage := [
  { role := .system, content := buildStorySystemPrompt context settings },
  { role := .user
    content := buildStoryUserPrompt {
      accountName
      callCount := merged.includedCalls
      topicSummary := buildTopicSummary segments
      truncationNote := truncationNote merged.truncated
      mergedMarkdown := merged.markdown
      settings } }]

def isValuable (segment : TranscriptSegment) : Bool :=
  segment.tags.any fun tag =>
    tag.funnelStage == .bofu || tag.funnelStage == .postSale ||
      tag.topic == ("roi_financial_outcomes" : String).toList ||
      tag.topic == ("quantified_operational_metrics" : String).toList

def segmentLine (segment : TranscriptSegment) : Text :=
  let speaker : Text :=
    match segment.speaker.filter (!·.isEmpty) with
    | some speaker => template ["[", speaker, "]:"]
    | none => []
  template [speaker, " ", segment.chunkText]

def quoteMessages (segments : List TranscriptSegment) : List ChatMessage :=
  let valuable := segments.filter isValuable
  let target := if valuable.isEmpty then segments else valuable
  [ { role := .system, content := quoteExtractionPrompt },
    { role := .user
      content := template [
        "Extract high-value quotes with quantified metrics from these transcript segments:\n\n",
        Text.join "\n\n" (target.map segmentLine)] }]

/-- `quotes` is the answer that the quotes are read from. -/
structure StoryResult where
  title : Text
  markdownBody : Text
  quotes : Option Text

def generateTitle (accountName : Text) (filterTopics : List Text) : Text :=
  match filterTopics with
  | [] => template [accountName, ": Account Journey"]
  | topic :: _ => template [accountName, ": ", topicLabel topic, " Story"]

def topicStoryTypes : List (Text × StoredStoryType) := [
  ("implementation_onboarding", .onboarding),
  ("roi_financial_outcomes", .roiAnalysis),
  ("competitive_displacement", .competitiveWin),
  ("upsell_cross_sell_expansion", .expansion)]

def explicitStoryType : Option StoryType → Option StoredStoryType
  | some .fullAccountJourney => some .fullJourney
  | some (.topic topic) => topicStoryTypes.lookup topic
  | none => none

def inferStoryType (options : StoryBuilderOptions) : StoredStoryType :=
  match explicitStoryType options.storyType with
  | some stored => stored
  | none =>
    if options.filterTopics.isEmpty then .fullJourney
    else
      ((topicStoryTypes.find? fun entry => options.filterTopics.contains entry.1).map
        (·.2)).getD .custom

def ask (platform : AiPlatform) (client : ChatClient) (state : PipelineState)
    (messages : List ChatMessage) : Option Text × PipelineState :=
  let sent := state.sent ++ [.chat client messages]
  (platform.answer sent, { state with sent })

def extractQuotes (platform : AiPlatform) (client : ChatClient) (state : PipelineState)
    (segments : List TranscriptSegment) : Option (Option Text) × PipelineState :=
  if segments.isEmpty then (some none, state)
  else
    let (answer, asked) := ask platform client state (quoteMessages segments)
    (answer.map some, asked)

/-- `fails` is an error of the database before anything is sent; the rows of the story are
written after all is sent. -/
def buildStory (platform : AiPlatform) (state : PipelineState) (options : StoryBuilderOptions)
    (fails : Bool) : Option StoryResult × PipelineState :=
  let db := state.search.db
  match db.accounts.find? (·.id == options.accountId), fails with
  | some account, false =>
    let orgSettings := db.orgSettings.find? (·.organizationId == options.organizationId)
    let context := (orgSettings.map (·.storyContext)).getD {}
    let settings := storySettings options
      ((orgSettings.map (·.storyPromptDefaults)).getD {})
    let merged := mergeTranscripts db {
      accountId := options.accountId, organizationId := options.organizationId }
    if merged.includedCalls = 0 then
      (some {
          title := options.title.getD "No Data Available"
          markdownBody := "No transcripts found for this account."
          quotes := none }, state)
    else
      let segments := gatherSegments options state.search
      match ask platform options.client state
          (narrativeMessages account.name merged segments context settings) with
      | (none, asked) => (none, asked)
      | (some content, asked) =>
        let markdownBody : Text :=
          if content.isEmpty then "# Story generation failed" else content
        match extractQuotes platform options.client asked segments with
        | (none, finished) => (none, finished)
        | (some quotes, finished) =>
          (some {
              title := options.title.getD (generateTitle account.name options.filterTopics)
              markdownBody
              quotes }, finished)
  | _, _ => (none, state)

end StoryEngine.Stories
