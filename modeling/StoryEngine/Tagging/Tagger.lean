import StoryEngine.Data.OptionSequence
import StoryEngine.Pipeline.ProcessCall
import StoryEngine.Tagging.Calibrator

namespace StoryEngine.Tagging

open Data Pipeline Processing Schema Stories

/-! # Confidences of tags

Tagging and the validation runs of the calibration share one cache.  The tagger is modelled
with the confidences and with what the model answered before they were adjusted.
-/

abbrev TaxonomyTopic := { topic : Text // topic ∈ allTopics }

structure TagResult where
  funnelStage : FunnelStage
  topic : TaxonomyTopic
  confidence : JsNumber
deriving DecidableEq

def taxonomyKey : Json → Option (FunnelStage × TaxonomyTopic)
  | .object fields =>
    match property fields "funnel_stage", property fields "topic" with
    | some (.string stage), some (.string topic) =>
      if listed : topic ∈ allTopics then
        (allFunnelStages.find? (·.name == stage)).map fun funnelStage =>
          (funnelStage, ⟨topic, listed⟩)
      else none
    | _, _ => none
  | _ => none

/-- The confidence of an item as a number; a field that is absent reads as `NaN`. -/
def confidenceNumber : Json → Option JsNumber
  | .object fields =>
    match property fields "confidence" with
    | some value => value.toNumber
    | none => some .nan
  | _ => some .nan

def clampConfidence (confidence : JsNumber) : JsNumber :=
  .max (.finite 0) (.min (.finite 1) confidence)

def acceptedItems (items : List Json) :
    List ((FunnelStage × TaxonomyTopic) × Option JsNumber) :=
  items.filterMap fun item => (taxonomyKey item).map fun key => (key, confidenceNumber item)

def scoredTag (accepted : (FunnelStage × TaxonomyTopic) × Option JsNumber) : Option TagResult :=
  accepted.2.map fun confidence =>
    { funnelStage := accepted.1.1, topic := accepted.1.2, confidence := clampConfidence confidence }

def listedTags (platform : AiPlatform) (content : Text) : Option (List Json) :=
  match platform.parseJson content with
  | some (.object fields) =>
    match property fields "tags" with
    | some (.array items) => if .null ∈ items then none else some items
    | _ => none
  | _ => none

def parseTagResponse (platform : AiPlatform) (content : Text) : List TagResult :=
  match listedTags platform content with
  | some items => ((acceptedItems items).mapM scoredTag).getD []
  | none => []

/-- The code keeps the tags only, not how the model answered. -/
structure TagCacheEntry where
  key : Text
  tags : List TagResult
  answered : List TagResult
  createdAt : Date

abbrev TagCache := List TagCacheEntry

def TagCache.get (cache : TagCache) (config : TaggerConfig) (now : Date) (key : Text) :
    Option TagCacheEntry × TagCache :=
  match cache.find? (·.key == key) with
  | none => (none, cache)
  | some entry =>
    let others := cache.filter (·.key != key)
    if config.ttlMs < now - entry.createdAt then (none, others) else (some entry, others ++ [entry])

def TagCache.set (cache : TagCache) (config : TaggerConfig) (entry : TagCacheEntry) : TagCache :=
  let others := cache.filter (·.key != entry.key)
  let kept := if config.maxSize ≤ others.length then others.tail else others
  kept ++ [entry]

structure Tagger where
  cache : TagCache := []
  calibrator : Option ConfidenceCalibrator := none

structure ChunkTags where
  tags : List TagResult
  answered : List TagResult
  cached : Bool

def calibrate (calibrator : Option ConfidenceCalibrator) (tag : TagResult) : TagResult :=
  match calibrator with
  | some calibrator =>
    if calibrator.isCalibrated then
      { tag with confidence := adjustConfidence calibrator tag.confidence }
    else tag
  | none => tag

section

variable (platform : AiPlatform) (config : TaggerConfig) (engine : ObservationSort)

def lookupTags (tagger : Tagger) (text : Text) (now : Date) : Option ChunkTags × Tagger :=
  let (entry, cache) := tagger.cache.get config now (platform.hashText text)
  (entry.map fun entry => { tags := entry.tags, answered := entry.answered, cached := true },
    { tagger with cache })

def receiveTags (tagger : Tagger) (text : Text) (now : Date) (content : Text) :
    ChunkTags × Tagger :=
  if content.isEmpty then ({ tags := [], answered := [], cached := false }, tagger)
  else
    let answered := parseTagResponse platform content
    let tags := answered.map (calibrate tagger.calibrator)
    let entry := { key := platform.hashText text, tags, answered, createdAt := now }
    ({ tags, answered, cached := false },
      { tagger with cache := tagger.cache.set config entry })

def tagChunk (tagger : Tagger) (text : Text) (now later : Date) (content : Text) :
    ChunkTags × Tagger :=
  match lookupTags platform config tagger text now with
  | (some found, tagger) => (found, tagger)
  | (none, tagger) => receiveTags platform config tagger text later content

structure ValidationSample where
  chunkText : Text
  expectedFunnelStage : Text
  expectedTopic : Text

inductive SampleStatus where
  | waiting
  | asking
  | tagged (result : ChunkTags)

/-- A worker takes a sample, or the model answers for one. -/
inductive SampleTurn where
  | take (index : Nat) (now : Date)
  | receive (index : Nat) (now : Date) (content : Text)

structure Validation where
  tagger : Tagger
  statuses : List SampleStatus

def Validation.setStatus (validation : Validation) (index : Nat) (tagger : Tagger)
    (status : SampleStatus) : Validation :=
  { tagger, statuses := validation.statuses.set index status }

def validationTurn (samples : List ValidationSample) (validation : Validation) :
    SampleTurn → Validation
  | .take index now =>
    match samples[index]?, validation.statuses[index]? with
    | some sample, some .waiting =>
      match lookupTags platform config validation.tagger sample.chunkText now with
      | (some found, tagger) => validation.setStatus index tagger (.tagged found)
      | (none, tagger) => validation.setStatus index tagger .asking
    | _, _ => validation
  | .receive index now content =>
    match samples[index]?, validation.statuses[index]? with
    | some sample, some .asking =>
      let (received, tagger) :=
        receiveTags platform config validation.tagger sample.chunkText now content
      validation.setStatus index tagger (.tagged received)
    | _, _ => validation

def SampleStatus.result : SampleStatus → Option ChunkTags
  | .tagged result => some result
  | .waiting | .asking => none

def Validation.results (validation : Validation) : Option (List ChunkTags) :=
  validation.statuses.mapM SampleStatus.result

def startValidation (tagger : Tagger) (samples : List ValidationSample) : Validation where
  tagger := { tagger with calibrator := none }
  statuses := List.replicate samples.length .waiting

def validate (tagger : Tagger) (samples : List ValidationSample) (turns : List SampleTurn) :
    Validation :=
  run (validationTurn platform config samples) (startValidation tagger samples) turns

def isExpected (sample : ValidationSample) (tag : TagResult) : Bool :=
  tag.funnelStage.name == sample.expectedFunnelStage && tag.topic.val == sample.expectedTopic

def sampleObservations (sample : ValidationSample) (tags : List TagResult) : List Observation :=
  tags.map (fun tag => { rawConfidence := tag.confidence, isCorrect := isExpected sample tag }) ++
    if tags.any (isExpected sample) then [] else [{ rawConfidence := .finite 0, isCorrect := false }]

def observations (samples : List ValidationSample) (results : List (List TagResult)) :
    List Observation :=
  (samples.zip results).flatMap fun (sample, tags) => sampleObservations sample tags

/-- What a validation run feeds to the calibration: without samples it feeds nothing, and a run
that fails has no results. -/
def fedObservations (tagger : Tagger) (samples : List ValidationSample) (turns : List SampleTurn) :
    Option (List Observation) :=
  (validate platform config tagger samples turns).results.map fun results =>
    observations samples (results.map (·.tags))

def runCalibration (tagger : Tagger) (samples : List ValidationSample) (turns : List SampleTurn) :
    Option CalibrationReport × Tagger :=
  match tagger.calibrator with
  | none => (none, tagger)
  | some calibrator =>
    let cache := (validate platform config tagger samples turns).tagger.cache
    match (fedObservations platform config tagger samples turns).bind
      (buildCalibration engine) with
    | some (report, built) => (some report, { cache, calibrator := some built })
    | none => (none, { cache, calibrator := some calibrator })

inductive TaggerCall where
  | tagChunk (text : Text) (now later : Date) (content : Text)
  | runCalibration (samples : List ValidationSample) (turns : List SampleTurn)

def taggerStep (tagger : Tagger) : TaggerCall → Tagger
  | .tagChunk text now later content => (tagChunk platform config tagger text now later content).2
  | .runCalibration samples turns => (runCalibration platform config engine tagger samples turns).2

end

def SampleTurn.contents : SampleTurn → List Text
  | .take _ _ => []
  | .receive _ _ content => [content]

def TaggerCall.contents : TaggerCall → List Text
  | .tagChunk _ _ _ content => [content]
  | .runCalibration _ turns => turns.flatMap SampleTurn.contents

section

variable {Q : List TagResult → List TagResult → Prop}

def TagCache.Holds (Q : List TagResult → List TagResult → Prop) (cache : TagCache) : Prop :=
  ∀ entry ∈ cache, Q entry.tags entry.answered

theorem TagCache.get_mem {cache : TagCache} {config : TaggerConfig} {now : Date} {key : Text}
    {entry : TagCacheEntry} (served : (cache.get config now key).1 = some entry) :
    entry ∈ cache := by
  rw [TagCache.get] at served
  split at served
  · cases served
  · next found lookup =>
      split at served
      · cases served
      · cases served
        exact List.mem_of_find?_eq_some lookup

theorem TagCache.get_key {cache : TagCache} {config : TaggerConfig} {now : Date} {key : Text}
    {entry : TagCacheEntry} (served : (cache.get config now key).1 = some entry) :
    entry.key = key := by
  rw [TagCache.get] at served
  split at served
  · cases served
  · next found lookup =>
      split at served
      · cases served
      · cases served
        have sameKey := List.find?_some lookup
        exact beq_iff_eq.mp sameKey

theorem TagCache.get_subset {cache : TagCache} {config : TaggerConfig} {now : Date} {key : Text} :
    ∀ entry ∈ (cache.get config now key).2, entry ∈ cache := by
  intro entry member
  rw [TagCache.get] at member
  split at member
  · exact member
  · next found lookup =>
      split at member
      · exact List.mem_of_mem_filter member
      · rcases List.mem_append.mp member with inOthers | isFound
        · exact List.mem_of_mem_filter inOthers
        · rw [List.mem_singleton.mp isFound]
          exact List.mem_of_find?_eq_some lookup

theorem TagCache.mem_set {cache : TagCache} {config : TaggerConfig} {stored : TagCacheEntry} :
    ∀ entry ∈ cache.set config stored, entry ∈ cache ∨ entry = stored := by
  intro entry member
  rw [TagCache.set] at member
  rcases List.mem_append.mp member with inKept | isStored
  · split at inKept
    · exact .inl (List.mem_of_mem_filter (List.mem_of_mem_tail inKept))
    · exact .inl (List.mem_of_mem_filter inKept)
  · exact .inr (List.mem_singleton.mp isStored)

theorem TagCache.Holds.get {cache : TagCache} (holds : cache.Holds Q) (config : TaggerConfig)
    (now : Date) (key : Text) : (cache.get config now key).2.Holds Q :=
  fun entry member => holds entry (TagCache.get_subset entry member)

theorem TagCache.Holds.set {cache : TagCache} (holds : cache.Holds Q) (config : TaggerConfig)
    {stored : TagCacheEntry} (related : Q stored.tags stored.answered) :
    (cache.set config stored).Holds Q := by
  intro entry member
  rcases TagCache.mem_set entry member with before | rfl
  · exact holds entry before
  · exact related

variable (platform : AiPlatform) (config : TaggerConfig) (engine : ObservationSort)

theorem lookupTags_holds {tagger : Tagger} (holds : tagger.cache.Holds Q) (text : Text)
    (now : Date) {found : Option ChunkTags} {after : Tagger}
    (looked : lookupTags platform config tagger text now = (found, after)) :
    after.cache.Holds Q ∧ after.calibrator = tagger.calibrator ∧
      ∀ result, found = some result → Q result.tags result.answered := by
  cases looked
  refine ⟨holds.get config now _, rfl, fun result served => ?_⟩
  obtain ⟨entry, atEntry, rfl⟩ := Option.map_eq_some_iff.mp served
  exact holds entry (TagCache.get_mem atEntry)

theorem receiveTags_holds {tagger : Tagger} (holds : tagger.cache.Holds Q) (text : Text)
    (now : Date) {content : Text} (nothing : Q [] [])
    (related : Q ((parseTagResponse platform content).map (calibrate tagger.calibrator))
      (parseTagResponse platform content)) {received : ChunkTags} {after : Tagger}
    (answered : receiveTags platform config tagger text now content = (received, after)) :
    after.cache.Holds Q ∧ after.calibrator = tagger.calibrator ∧
      Q received.tags received.answered := by
  rw [receiveTags] at answered
  split at answered
  · cases answered
    exact ⟨holds, rfl, nothing⟩
  · cases answered
    exact ⟨holds.set config related, rfl, related⟩

theorem tagChunk_calibrator (tagger : Tagger) (text : Text) (now later : Date) (content : Text) :
    (tagChunk platform config tagger text now later content).2.calibrator = tagger.calibrator := by
  rw [tagChunk]
  split
  · next looked => exact (congrArg (·.2.calibrator) looked).symm
  · next looked =>
      have same := congrArg (·.2.calibrator) looked
      rw [receiveTags]
      split <;> exact same.symm

/-- A validation run with the calibration off, and its results so far. -/
structure Validation.Holds (Q : List TagResult → List TagResult → Prop) (validation : Validation) :
    Prop where
  off : validation.tagger.calibrator = none
  cache : validation.tagger.cache.Holds Q
  tagged : ∀ result, .tagged result ∈ validation.statuses → Q result.tags result.answered

theorem Validation.Holds.setStatus {validation : Validation} (holds : validation.Holds Q)
    (index : Nat) {tagger : Tagger} (off : tagger.calibrator = none) (cache : tagger.cache.Holds Q)
    {status : SampleStatus}
    (tagged : ∀ result, status = .tagged result → Q result.tags result.answered) :
    (validation.setStatus index tagger status).Holds Q := by
  refine ⟨off, cache, fun result member => ?_⟩
  rcases List.mem_or_eq_of_mem_set member with before | same
  · exact holds.tagged result before
  · exact tagged result same.symm

@[simp] theorem map_calibrate_none (tags : List TagResult) : tags.map (calibrate none) = tags :=
  List.map_id tags

theorem validationTurn_holds (samples : List ValidationSample) {validation : Validation}
    (holds : validation.Holds Q) (nothing : Q [] []) {turn : SampleTurn}
    (raw : ∀ content ∈ turn.contents,
      Q (parseTagResponse platform content) (parseTagResponse platform content)) :
    (validationTurn platform config samples validation turn).Holds Q := by
  cases turn with
  | take index now =>
    rw [validationTurn]
    split
    · next sample _ _ =>
        split
        · next result tagger looked =>
            obtain ⟨cache, off, found⟩ := lookupTags_holds platform config holds.cache _ _ looked
            refine holds.setStatus index (off.trans holds.off) cache fun result same => ?_
            cases same
            exact found _ rfl
        · next tagger looked =>
            obtain ⟨cache, off, _⟩ := lookupTags_holds platform config holds.cache _ _ looked
            exact holds.setStatus index (off.trans holds.off) cache nofun
    · exact holds
  | receive index now content =>
    rw [validationTurn]
    split
    · next sample _ _ =>
        have related := raw content List.mem_cons_self
        obtain ⟨cache, off, received⟩ := receiveTags_holds platform config holds.cache
          sample.chunkText now nothing (by rw [holds.off, map_calibrate_none]; exact related) rfl
        refine holds.setStatus index (off.trans holds.off) cache fun result same => ?_
        cases same
        exact received
    · exact holds

theorem validate_holds {tagger : Tagger} (cache : tagger.cache.Holds Q)
    (samples : List ValidationSample) {turns : List SampleTurn} (nothing : Q [] [])
    (raw : ∀ turn ∈ turns, ∀ content ∈ turn.contents,
      Q (parseTagResponse platform content) (parseTagResponse platform content)) :
    (validate platform config tagger samples turns).Holds Q := by
  have keeps : ∀ (validation : Validation) (turn : SampleTurn), validation.Holds Q →
      (∀ content ∈ turn.contents,
        Q (parseTagResponse platform content) (parseTagResponse platform content)) →
      (validationTurn platform config samples validation turn).Holds Q :=
    fun validation turn kept answers =>
      validationTurn_holds platform config samples kept nothing answers
  have initial : (startValidation tagger samples).Holds Q := by
    refine ⟨rfl, cache, fun result member => ?_⟩
    cases List.eq_of_mem_replicate member
  refine run_guarded_invariant (Validation.Holds Q) keeps initial fun taken member => ?_
  exact raw taken.2 (trace_action _ _ _ taken member)

theorem results_mem {validation : Validation} {results : List ChunkTags}
    (done : validation.results = some results) :
    ∀ result ∈ results, .tagged result ∈ validation.statuses := by
  intro result member
  obtain ⟨status, inStatuses, same⟩ := (mapM_eq_some done).2 result member
  cases status with
  | waiting => cases same
  | asking => cases same
  | tagged found =>
    cases same
    exact inStatuses

theorem tagChunk_holds {tagger : Tagger} (holds : tagger.cache.Holds Q) (nothing : Q [] [])
    (text : Text) (now later : Date) {content : Text}
    (adjusted : Q ((parseTagResponse platform content).map (calibrate tagger.calibrator))
      (parseTagResponse platform content)) :
    (tagChunk platform config tagger text now later content).2.cache.Holds Q := by
  rw [tagChunk]
  split
  · next looked => exact (lookupTags_holds platform config holds _ _ looked).1
  · next looked =>
      obtain ⟨cache, same, _⟩ := lookupTags_holds platform config holds _ _ looked
      refine (receiveTags_holds platform config cache text later nothing ?_ rfl).1
      rw [same]
      exact adjusted

theorem taggerStep_holds {tagger : Tagger} (holds : tagger.cache.Holds Q) (nothing : Q [] [])
    {call : TaggerCall}
    (raw : ∀ content ∈ call.contents,
      Q (parseTagResponse platform content) (parseTagResponse platform content))
    (adjusted : ∀ content ∈ call.contents,
      Q ((parseTagResponse platform content).map (calibrate tagger.calibrator))
        (parseTagResponse platform content)) :
    (taggerStep platform config engine tagger call).cache.Holds Q := by
  cases call with
  | tagChunk text now later content =>
    exact tagChunk_holds platform config holds nothing text now later
      (adjusted content List.mem_cons_self)
  | runCalibration samples turns =>
    have answers : ∀ turn ∈ turns, ∀ content ∈ turn.contents,
        Q (parseTagResponse platform content) (parseTagResponse platform content) :=
      fun turn inTurns content member =>
        raw content (List.mem_flatMap.mpr ⟨turn, inTurns, member⟩)
    have valid := validate_holds platform config holds samples nothing answers
    rw [taggerStep, runCalibration]
    split
    · exact holds
    · split
      · exact valid.cache
      · exact valid.cache

end

end StoryEngine.Tagging
