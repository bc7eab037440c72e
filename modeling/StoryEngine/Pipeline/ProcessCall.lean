import StoryEngine.Pii.Masker
import StoryEngine.Processing.SearchIndex
import StoryEngine.Stories.Prompts

namespace StoryEngine.Pipeline

open Processing Schema Stories

/-! # The AI tagger

Workers take the chunks of a transcript one after the other.  A chunk whose tags are cached is
done at once; for any other the worker waits for the rate limiter, sends its prompt, and waits
for the answer.
-/

inductive ChatClient where
  | aiClient
  | openai

inductive Sent where
  | chat (client : ChatClient) (messages : List ChatMessage)
  | embedding (text : Text)

/-- The provider answers the last of the requests sent so far, or fails. -/
structure AiPlatform where
  answer : List Sent → Option Text
  parseJson : Text → Option Json
  hashText : Text → Text

structure TagResult where
  funnelStage : FunnelStage
  topic : Text
deriving DecidableEq

def taggerSystemPrompt : Text :=
  template [
    "You are an expert B2B sales analyst. Your job is to classify transcript segments from sales and ",
    "customer calls according to a sales-funnel taxonomy.\n\n",
    "Given a transcript segment, identify ALL applicable tags. For each tag, provide:\n",
    "- The funnel stage (TOFU, MOFU, BOFU, POST_SALE, INTERNAL, VERTICAL)\n",
    "- The specific topic key\n",
    "- A confidence score from 0.0 to 1.0\n\n",
    "TAXONOMY REFERENCE:\n\n",
    "**TOFU (Top of Funnel — Awareness & Education)**\n",
    "- industry_trend_validation: Customer navigating macro industry shifts\n",
    "- problem_challenge_identification: Day-in-the-life pain point before solution\n",
    "- digital_transformation_modernization: Digital transformation journeys\n",
    "- regulatory_compliance_challenges: Regulatory/compliance challenges addressed\n",
    "- market_expansion: Expansion into new geographies or segments\n",
    "- thought_leadership_cocreation: Joint research or insights with customer\n\n",
    "**MOFU (Mid-Funnel — Consideration & Evaluation)**\n",
    "- product_capability_deepdive: Specific feature or platform capability in action\n",
    "- competitive_displacement: Migrating off a named competitor\n",
    "- integration_interoperability: Integration with existing tech stacks\n",
    "- implementation_onboarding: Implementation experience, time-to-value\n",
    "- security_compliance_governance: Security, compliance, data governance in practice\n",
    "- customization_configurability: Customization for unique workflows\n",
    "- multi_product_cross_sell: Landing and expanding with multiple products\n",
    "- partner_ecosystem_solution: SI, reseller, or ISV involvement\n",
    "- total_cost_of_ownership: TCO and pricing model validation\n",
    "- pilot_to_production: Pilot or POC to production journey\n\n",
    "**BOFU (Bottom of Funnel — Decision & Purchase)**\n",
    "- roi_financial_outcomes: ROI, cost savings, revenue generated, payback period\n",
    "- quantified_operational_metrics: Efficiency gains, time saved, error reduction\n",
    "- executive_strategic_impact: Board-level or C-suite strategic framing\n",
    "- risk_mitigation_continuity: Risk mitigation and business continuity outcomes\n",
    "- deployment_speed: Speed of deployment vs. expectations\n",
    "- vendor_selection_criteria: Why they chose you over alternatives\n",
    "- procurement_experience: Contract/procurement process experience\n\n",
    "**POST_SALE (Retention, Expansion & Advocacy)**\n",
    "- renewal_partnership_evolution: Renewal and long-term partnership\n",
    "- upsell_cross_sell_expansion: Upsell and cross-sell over time\n",
    "- customer_success_support: CS and support experience\n",
    "- training_enablement_adoption: Training, enablement, adoption programs\n",
    "- community_advisory_participation: Community or customer advisory board\n",
    "- co_innovation_product_feedback: Customer-influenced roadmap\n",
    "- change_management_champion_dev: Internal champion development\n",
    "- scaling_across_org: Scaling across departments, BUs, geographies\n",
    "- platform_governance_coe: Center-of-excellence buildout\n\n",
    "**INTERNAL (Internal Audience)**\n",
    "- sales_enablement: Objection handling, competitive intel, deal strategy\n",
    "- lessons_learned_implementation: What went wrong and how it was fixed\n",
    "- cross_functional_collaboration: Sales + CS + product + engineering stories\n",
    "- voice_of_customer_product: Customer insights feeding product development\n",
    "- pricing_packaging_validation: Pricing and packaging iteration\n",
    "- churn_save_winback: Churn saves and win-back stories\n",
    "- deal_anatomy: How the deal was sourced, structured, and closed\n",
    "- customer_health_sentiment: Health and sentiment trajectory over time\n",
    "- reference_ability_development: Turning customer into referenceable advocate\n",
    "- internal_process_improvement: Process improvements from customer feedback\n\n",
    "**VERTICAL (Segment Cuts)**\n",
    "- industry_specific_usecase: Healthcare, finserv, manufacturing, etc.\n",
    "- company_size_segment: SMB, mid-market, enterprise, strategic\n",
    "- persona_specific_framing: Story framed for CTO vs CFO vs end user\n",
    "- geographic_regional_variation: Geographic or regional variation\n",
    "- regulated_vs_unregulated: Regulated vs. unregulated nuances\n",
    "- public_sector_government: Government-specific procurement/compliance\n\n",
    "RULES:\n",
    "1. A segment can have MULTIPLE tags across different funnel stages.\n",
    "2. Only tag what is clearly present — do not infer or speculate.\n",
    "3. Confidence should reflect how strongly the segment evidences the topic.\n",
    "4. Look especially for QUANTIFIED VALUE (numbers, percentages, dollar amounts) which signals ",
    "BOFU topics.\n",
    "5. Respond ONLY with valid JSON."]

def taggingMessages (chunkText : Text) : List ChatMessage := [
  { role := .system, content := taggerSystemPrompt },
  { role := .user
    content := template [
      "Classify this transcript segment. Return JSON with a \"tags\" array where each element ",
      "has \"funnel_stage\", \"topic\", and \"confidence\".\n\nTRANSCRIPT SEGMENT:\n\"\"\"\n",
      chunkText, "\n\"\"\""] }]

def allFunnelStages : List FunnelStage := [.tofu, .mofu, .bofu, .postSale, .internal, .vertical]

def property (fields : List (String × Json)) (key : String) : Option Json :=
  (fields.find? (·.1 == key)).map (·.2)

def readTag : Json → Option TagResult
  | .object fields =>
    match property fields "funnel_stage", property fields "topic" with
    | some (.string stage), some (.string topic) =>
      if topic ∈ allTopics then
        (allFunnelStages.find? (·.name == stage)).map fun funnelStage => { funnelStage, topic }
      else none
    | _, _ => none
  | _ => none

def confidenceThrows (item : Json) : Bool :=
  match item with
  | .object fields =>
    (readTag item).isSome && (property fields "confidence").any fun value =>
      value.toNumber.isNone
  | _ => false

def parseTagResponse (platform : AiPlatform) (content : Text) : List TagResult :=
  match platform.parseJson content with
  | some (.object fields) =>
    match property fields "tags" with
    | some (.array items) =>
      if .null ∈ items ∨ items.any confidenceThrows = true then [] else items.filterMap readTag
    | _ => []
  | _ => []

structure TagCacheEntry where
  key : Text
  tags : List TagResult
  createdAt : Date
deriving DecidableEq

abbrev TagCache := List TagCacheEntry

structure TaggerConfig where
  concurrency : Nat := 5
  maxSize : Nat := 10000
  ttlMs : Nat := 3600000

def TagCache.get (cache : TagCache) (config : TaggerConfig) (now : Date) (key : Text) :
    Option (List TagResult) × TagCache :=
  match cache.find? (·.key == key) with
  | none => (none, cache)
  | some entry =>
    let others := cache.filter (·.key != key)
    if config.ttlMs < now - entry.createdAt then (none, others)
    else (some entry.tags, others ++ [entry])

def TagCache.set (cache : TagCache) (config : TaggerConfig) (now : Date) (key : Text)
    (tags : List TagResult) : TagCache :=
  let others := cache.filter (·.key != key)
  let kept := if config.maxSize ≤ others.length then others.tail else others
  kept ++ [{ key, tags, createdAt := now }]

inductive Worker where
  | ready
  /-- It waits for the rate limiter. -/
  | asking (index : Nat)
  | waiting (index : Nat) (answer : Option Text)
  | done
  | failed
deriving DecidableEq

structure ChunkTaggingResult where
  chunkId : RowId
  tags : List TagResult
  cached : Bool
deriving DecidableEq

structure Tagging where
  cache : TagCache
  sent : List Sent
  nextIndex : Nat := 0
  workers : List Worker
  results : List (Nat × ChunkTaggingResult) := []

def Tagging.setWorker (tagging : Tagging) (place : Nat) (worker : Worker) : Tagging :=
  { tagging with workers := tagging.workers.set place worker }

def Tagging.finish (tagging : Tagging) (place index : Nat) (result : ChunkTaggingResult) :
    Tagging :=
  { tagging.setWorker place .ready with results := tagging.results ++ [(index, result)] }

section

variable (platform : AiPlatform) (config : TaggerConfig) (chunks : List TranscriptChunk)

def takeChunk (tagging : Tagging) (place : Nat) (now : Date) : Tagging :=
  match chunks[tagging.nextIndex]? with
  | none => tagging.setWorker place .done
  | some chunk =>
    let index := tagging.nextIndex
    let (cached, cache) := tagging.cache.get config now (platform.hashText chunk.text)
    let taken := { tagging with nextIndex := index + 1, cache }
    match cached with
    | some tags => taken.finish place index { chunkId := chunk.id, tags, cached := true }
    | none => taken.setWorker place (.asking index)

def askTags (tagging : Tagging) (place index : Nat) (chunk : TranscriptChunk) : Tagging :=
  let sent := tagging.sent ++ [.chat .aiClient (taggingMessages chunk.text)]
  { tagging with sent }.setWorker place (.waiting index (platform.answer sent))

def receiveTags (tagging : Tagging) (place index : Nat) (chunk : TranscriptChunk) (now : Date)
    (content : Text) : Tagging :=
  if content.isEmpty then
    tagging.finish place index { chunkId := chunk.id, tags := [], cached := false }
  else
    let tags := parseTagResponse platform content
    let cache := tagging.cache.set config now (platform.hashText chunk.text) tags
    { tagging with cache }.finish place index { chunkId := chunk.id, tags, cached := false }

def workerTurn (tagging : Tagging) (turn : Nat × Date) : Tagging :=
  let (place, now) := turn
  match tagging.workers[place]? with
  | some .ready => takeChunk platform config chunks tagging place now
  | some (.asking index) =>
    match chunks[index]? with
    | some chunk => askTags platform tagging place index chunk
    | none => tagging
  | some (.waiting index answer) =>
    match chunks[index]?, answer with
    | some chunk, some content =>
      receiveTags platform config tagging place index chunk now content
    | _, _ => tagging.setWorker place .failed
  | some .done | some .failed | none => tagging

def processChunksWithConcurrency (cache : TagCache) (sent : List Sent)
    (turns : List (Nat × Date)) : Tagging :=
  turns.foldl (workerTurn platform config chunks)
    { cache, sent, workers := List.replicate (min config.concurrency chunks.length) .ready }

def Tagging.outcome (tagging : Tagging) : Option (List ChunkTaggingResult) :=
  if tagging.workers.all (· == .done) then
    some ((tagging.results.insertionSort fun first second => first.1 ≤ second.1).map (·.2))
  else none

end

/-! ## Processing a call

The pipeline of a call with what it passes to the provider: its chunks are masked and stored,
tagged by prompts, and embedded.
-/

/-- The tables and the index, the cache of the tagger, and all that has been sent. -/
structure PipelineState where
  search : SearchState
  cache : TagCache := []
  sent : List Sent := []

def maskedText (text : Text) : Text := (Pii.maskPii text).maskedText

/-- Where a run of `processCall` ends early: after some chunks are stored, when the client is
resolved, after the tags at some places are stored, or after some chunks are indexed, with the
next one embedded or not. -/
inductive PipelineStop where
  | storing (chunks : Nat)
  | resolving
  | tagging (places : List Nat)
  | indexing (chunks : Nat) (embedded : Bool)

/-- What a run of `processCall` meets. -/
structure PipelineRun where
  stop : Option PipelineStop := none
  turns : List (Nat × Date) := []

def storeMasked (state : PipelineState) (callId : RowId) (rawChunks : List RawChunk) :
    PipelineState :=
  { state with search := storeChunks maskedText callId state.search rawChunks }

def storeTag (search : SearchState) (tag : ChunkTag) : SearchState :=
  if tag ∈ search.tags then search else { search with tags := search.tags ++ [tag] }

def storeTags (state : PipelineState) (tags : List ChunkTag) : PipelineState :=
  { state with search := tags.foldl storeTag state.search }

def chunkTags (results : List ChunkTaggingResult) : List ChunkTag :=
  results.flatMap fun result => result.tags.map fun tag => {
    chunkId := result.chunkId, funnelStage := tag.funnelStage, topic := tag.topic }

def orderedChunks (search : SearchState) (callId : RowId) : List TranscriptChunk :=
  (search.chunks.filter (·.callId == callId)).insertionSort fun first second =>
    first.chunkIndex ≤ second.chunkIndex

section

variable (platform : AiPlatform) (config : TaggerConfig)

def indexNext (job : ProcessCallJob) (accountId : RowId) (embeddedOnly : Bool)
    (state : PipelineState) (chunk : TranscriptChunk) : Bool × PipelineState :=
  let sent := state.sent ++ [.embedding chunk.text]
  if (platform.answer sent).isSome && !embeddedOnly then
    (true, { state with sent, search := indexChunk job accountId state.search chunk })
  else (false, { state with sent })

/-- Indexes the chunks one after the other; `stop` counts those that succeed. -/
def indexAll (job : ProcessCallJob) (accountId : RowId) :
    Option (Nat × Bool) → PipelineState → List TranscriptChunk → PipelineState
  | _, state, [] => state
  | some (0, embedded), state, chunk :: _ =>
    if embedded then (indexNext platform job accountId true state chunk).2 else state
  | some (count + 1, embedded), state, chunk :: rest =>
    match indexNext platform job accountId false state chunk with
    | (true, next) => indexAll job accountId (some (count, embedded)) next rest
    | (false, next) => next
  | none, state, chunk :: rest =>
    match indexNext platform job accountId false state chunk with
    | (true, next) => indexAll job accountId none next rest
    | (false, next) => next

def indexCallChunks (job : ProcessCallJob) (state : PipelineState) (stop : Option (Nat × Bool)) :
    PipelineState :=
  match job.accountId with
  | none => state
  | some accountId =>
    indexAll platform job accountId stop state
      (state.search.chunks.filter (·.callId == job.callId))

def tagAndIndex (job : ProcessCallJob) (met : PipelineRun) (state : PipelineState) :
    PipelineState :=
  let tagging := processChunksWithConcurrency platform config
    (orderedChunks state.search job.callId) state.cache state.sent met.turns
  let tagged := { state with cache := tagging.cache, sent := tagging.sent }
  match tagging.outcome with
  | none => tagged
  | some results =>
    let tags := chunkTags results
    match met.stop with
    | some (.tagging places) => storeTags tagged (places.filterMap (tags[·]?))
    | some (.indexing count embedded) =>
      indexCallChunks platform job (storeTags tagged tags) (some (count, embedded))
    | _ => indexCallChunks platform job (storeTags tagged tags) none

def processRawChunks (state : PipelineState) (job : ProcessCallJob) (met : PipelineRun)
    (rawChunks : List RawChunk) : PipelineState :=
  match met.stop with
  | some (.storing count) => storeMasked state job.callId (rawChunks.take count)
  | some .resolving => storeMasked state job.callId rawChunks
  | _ => tagAndIndex platform config job met (storeMasked state job.callId rawChunks)

def processCall (state : PipelineState) (job : ProcessCallJob) (met : PipelineRun) :
    PipelineState :=
  match findTranscript state.search.db job.callId with
  | none => state
  | some fullText => processRawChunks platform config state job met (chunkTranscript fullText)

end

end StoryEngine.Pipeline
