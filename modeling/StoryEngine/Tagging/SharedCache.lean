import StoryEngine.Tagging.Tagger

namespace StoryEngine.Tagging

open Data Pipeline Processing Schema Stories

/-! # The cache under the calibration

The cache remembers confidences as they were adjusted, or not, when they were stored.  They are
those of the calibration in force exactly as long as the entries that are served still are.
-/

section

variable (platform : AiPlatform) (config : TaggerConfig) (engine : ObservationSort)

/-- A tagged chunk carries the calibration in force, and a validation run is fed what the model
answered, with a miss for each expected tag that it did not give. -/
def CarriesCalibration (tagger : Tagger) : TaggerCall → Prop
  | .tagChunk text now later content =>
    let result := (tagChunk platform config tagger text now later content).1
    result.tags = result.answered.map (calibrate tagger.calibrator)
  | .runCalibration samples turns =>
    tagger.calibrator.isSome →
      ∀ results ∈ (validate platform config tagger samples turns).results,
        observations samples (results.map (·.tags)) =
          observations samples (results.map (·.answered))

instance (tagger : Tagger) : (call : TaggerCall) →
    Decidable (CarriesCalibration platform config tagger call)
  | .tagChunk _ _ _ _ => inferInstanceAs (Decidable (_ = _))
  | .runCalibration _ _ =>
    inferInstanceAs (Decidable (_ → ∀ results ∈ _, observations _ _ = observations _ _))

def ServesRaw (samples : List ValidationSample) (validation : Validation) : SampleTurn → Prop
  | .take index now =>
    ∀ sample, samples[index]? = some sample → validation.statuses[index]? = some .waiting →
      ∀ entry, (validation.tagger.cache.get config now (platform.hashText sample.chunkText)).1 =
        some entry → entry.tags = entry.answered
  | .receive _ _ _ => True

/-- The entries that serve a call are as the calibration in force has them; for a validation
run that is tagged to its end they are as the model answered. -/
def ServedCurrent (tagger : Tagger) : TaggerCall → Prop
  | .tagChunk text now _ _ =>
    ∀ entry, (tagger.cache.get config now (platform.hashText text)).1 = some entry →
      entry.tags = entry.answered.map (calibrate tagger.calibrator)
  | .runCalibration samples turns =>
    tagger.calibrator.isSome → (validate platform config tagger samples turns).results.isSome →
      Guarded (validationTurn platform config samples) (ServesRaw platform config samples)
        (startValidation tagger samples) turns

theorem tagChunk_carries_iff (tagger : Tagger) (text : Text) (now later : Date) (content : Text) :
    CarriesCalibration platform config tagger (.tagChunk text now later content) ↔
      ServedCurrent platform config tagger (.tagChunk text now later content) := by
  simp only [CarriesCalibration, ServedCurrent, tagChunk, lookupTags]
  cases served : (tagger.cache.get config now (platform.hashText text)).1 with
  | some entry => simp
  | none =>
    simp only [Option.map_none, reduceCtorEq, false_implies, implies_true, iff_true]
    rw [receiveTags]
    split
    · rfl
    · rfl

def SameKeys (tags answered : List TagResult) : Prop :=
  tags.map (fun tag => (tag.funnelStage, tag.topic)) =
    answered.map fun tag => (tag.funnelStage, tag.topic)

theorem calibrate_sameKeys (calibrator : Option ConfidenceCalibrator) (tags : List TagResult) :
    SameKeys (tags.map (calibrate calibrator)) tags := by
  rw [SameKeys, List.map_map]
  refine List.map_congr_left fun tag _ => ?_
  cases calibrator with
  | none => rfl
  | some calibrator =>
    simp only [Function.comp_apply, calibrate]
    split <;> rfl

variable {sample : ValidationSample} {samples : List ValidationSample} {validation : Validation}
  {index : Nat} {result : ChunkTags} {turns : List SampleTurn} {tagger : Tagger}

theorem sampleObservations_inj {tags answered : List TagResult}
    (keys : SameKeys tags answered)
    (same : sampleObservations sample tags = sampleObservations sample answered) :
    tags = answered := by
  have widths : tags.length = answered.length := by
    simpa using congrArg List.length keys
  have parts := (List.append_inj same (by simpa using widths)).1
  clear same
  induction tags generalizing answered with
  | nil => exact (List.eq_nil_of_length_eq_zero widths.symm).symm
  | cons tag rest ih =>
    cases answered with
    | nil => cases widths
    | cons first others =>
      obtain ⟨stage, topic, confidence⟩ := tag
      obtain ⟨otherStage, otherTopic, otherConfidence⟩ := first
      simp only [SameKeys, List.map_cons, List.cons.injEq, Prod.mk.injEq] at keys
      simp only [List.map_cons, List.cons.injEq, Observation.mk.injEq] at parts
      obtain ⟨⟨rfl, rfl⟩, keysRest⟩ := keys
      obtain ⟨⟨rfl, _⟩, partsRest⟩ := parts
      rw [ih keysRest (Nat.succ.inj widths) partsRest]

theorem sampleObservations_length {tags answered : List TagResult}
    (keys : SameKeys tags answered) :
    (sampleObservations sample tags).length = (sampleObservations sample answered).length := by
  have widths : tags.length = answered.length := by
    simpa using congrArg List.length keys
  have expected : tags.any (isExpected sample) = answered.any (isExpected sample) := by
    have found := congrArg (fun keys => keys.any fun key : FunnelStage × TaxonomyTopic =>
      key.1.name == sample.expectedFunnelStage && key.2.val == sample.expectedTopic) keys
    simp only [List.any_map] at found
    exact found
  simp only [sampleObservations, expected, List.length_append, List.length_map, widths]

theorem observations_eq_iff {results : List ChunkTags}
    (paired : samples.length = results.length)
    (keys : ∀ result ∈ results, SameKeys result.tags result.answered) :
    observations samples (results.map (·.tags)) = observations samples (results.map (·.answered)) ↔
      ∀ result ∈ results, result.tags = result.answered := by
  induction samples generalizing results with
  | nil =>
    rw [List.eq_nil_of_length_eq_zero paired.symm]
    simp [observations]
  | cons sample samples ih =>
    cases results with
    | nil => cases paired
    | cons result results =>
      obtain ⟨keysFirst, keysRest⟩ := List.forall_mem_cons.mp keys
      have later := ih (Nat.succ.inj paired) keysRest
      simp only [observations] at later
      simp only [observations, List.map_cons, List.zip_cons_cons, List.flatMap_cons,
        List.forall_mem_cons]
      constructor
      · intro same
        obtain ⟨first, rest⟩ := List.append_inj same (sampleObservations_length keysFirst)
        exact ⟨sampleObservations_inj keysFirst first, later.mp rest⟩
      · rintro ⟨first, rest⟩
        rw [first, later.mpr rest]

theorem tagged_stays (samples : List ValidationSample)
    (tagged : validation.statuses[index]? = some (.tagged result))
    (turn : SampleTurn) :
    (validationTurn platform config samples validation turn).statuses[index]? =
      some (.tagged result) := by
  have elsewhere (place : Nat) (tagger : Tagger) (status : SampleStatus)
      (other : validation.statuses[place]? ≠ some (.tagged result)) :
      (validation.setStatus place tagger status).statuses[index]? = some (.tagged result) := by
    have apart : place ≠ index := by
      rintro rfl
      exact other tagged
    rw [Validation.setStatus, List.getElem?_set_ne apart]
    exact tagged
  cases turn with
  | take place now =>
    rw [validationTurn]
    split
    · next waiting =>
        have other : validation.statuses[place]? ≠ some (.tagged result) := by
          rw [waiting]
          intro same
          cases same
        split <;> exact elsewhere place _ _ other
    · exact tagged
  | receive place now content =>
    rw [validationTurn]
    split
    · next asking =>
        refine elsewhere place _ _ ?_
        rw [asking]
        intro same
        cases same
    · exact tagged

theorem tagged_stays_run (samples : List ValidationSample)
    (tagged : validation.statuses[index]? = some (.tagged result))
    (turns : List SampleTurn) :
    (run (validationTurn platform config samples) validation turns).statuses[index]? =
      some (.tagged result) :=
  run_invariant (fun after : Validation => after.statuses[index]? = some (.tagged result))
    (fun _ turn kept => tagged_stays platform config samples kept turn) turns tagged

theorem servesRaw_of_results (samples : List ValidationSample)
    (raw : ∀ (index : Nat) (result : ChunkTags), (run (validationTurn platform config samples) validation turns).statuses[index]? =
      some (.tagged result) → result.tags = result.answered) :
    Guarded (validationTurn platform config samples) (ServesRaw platform config samples) validation
      turns := by
  induction turns generalizing validation with
  | nil => exact guarded_nil _ _ _
  | cons turn rest ih =>
    refine guarded_cons.mpr ⟨?_, ih raw⟩
    cases turn with
    | receive => exact trivial
    | take index now =>
      intro sample atSample waiting entry served
      have bound := (List.getElem?_eq_some_iff.mp waiting).1
      have after : (validationTurn platform config samples validation (.take index now)).statuses[index]? =
          some (.tagged { tags := entry.tags, answered := entry.answered, cached := true }) := by
        simp only [validationTurn, atSample, waiting, lookupTags, served, Option.map_some,
          Validation.setStatus]
        exact List.getElem?_set_self bound
      exact raw index _ (tagged_stays_run platform config samples after rest)

/-- The calibration is off, and every result is as the model answered. -/
structure RawResults (validation : Validation) : Prop where
  off : validation.tagger.calibrator = none
  raw : ∀ result, .tagged result ∈ validation.statuses → result.tags = result.answered

theorem receiveTags_raw (off : tagger.calibrator = none) (text : Text) (now : Date)
    (content : Text) :
    (receiveTags platform config tagger text now content).2.calibrator = none ∧
      (receiveTags platform config tagger text now content).1.tags =
        (receiveTags platform config tagger text now content).1.answered := by
  rw [receiveTags]
  split
  · exact ⟨off, rfl⟩
  · exact ⟨off, by simp only [off, map_calibrate_none]⟩

theorem rawResults_turn (samples : List ValidationSample) (validation : Validation)
    (turn : SampleTurn) (results : RawResults validation)
    (served : ServesRaw platform config samples validation turn) :
    RawResults (validationTurn platform config samples validation turn) := by
  have updated (place : Nat) {tagger : Tagger} (off : tagger.calibrator = none)
      {status : SampleStatus} (raw : ∀ result, status = .tagged result → result.tags = result.answered) :
      RawResults (validation.setStatus place tagger status) := by
    refine ⟨off, fun result member => ?_⟩
    rcases List.mem_or_eq_of_mem_set member with before | same
    · exact results.raw result before
    · exact raw result same.symm
  cases turn with
  | take place now =>
    rw [validationTurn]
    split
    · next sample atSample waiting =>
        split
        · next found tagger looked =>
            have off : tagger.calibrator = none := by
              rw [← congrArg (·.2.calibrator) looked]
              exact results.off
            refine updated place off fun result same => ?_
            cases same
            obtain ⟨entry, atEntry, rfl⟩ := Option.map_eq_some_iff.mp (congrArg Prod.fst looked)
            exact served sample atSample waiting entry atEntry
        · next tagger looked =>
            have off : tagger.calibrator = none := by
              rw [← congrArg (·.2.calibrator) looked]
              exact results.off
            refine updated place off fun result same => ?_
            cases same
    · exact results
  | receive place now content =>
    rw [validationTurn]
    split
    · next sample _ _ =>
        obtain ⟨off, raw⟩ := receiveTags_raw platform config results.off sample.chunkText now content
        refine updated place off fun result same => ?_
        cases same
        exact raw
    · exact results

theorem rawResults_of_served
    (served : Guarded (validationTurn platform config samples) (ServesRaw platform config samples)
      (startValidation tagger samples) turns) :
    RawResults (validate platform config tagger samples turns) := by
  refine run_guarded_invariant RawResults (rawResults_turn platform config samples)
    ⟨rfl, fun result member => ?_⟩ served
  cases List.eq_of_mem_replicate member

theorem validate_length (tagger : Tagger) (samples : List ValidationSample) (turns : List SampleTurn) :
    (validate platform config tagger samples turns).statuses.length = samples.length := by
  have set (validation : Validation) (place : Nat) (tagger : Tagger) (status : SampleStatus) :
      (validation.setStatus place tagger status).statuses.length = validation.statuses.length :=
    List.length_set
  have keeps (validation : Validation) (turn : SampleTurn)
      (width : validation.statuses.length = samples.length) :
      (validationTurn platform config samples validation turn).statuses.length = samples.length := by
    cases turn with
    | take place now =>
      rw [validationTurn]
      split
      · split <;> exact (set validation place _ _).trans width
      · exact width
    | receive place now content =>
      rw [validationTurn]
      split
      · exact (set validation place _ _).trans width
      · exact width
  exact run_invariant (fun after : Validation => after.statuses.length = samples.length) keeps turns
    List.length_replicate

theorem runCalibration_carries_iff (keys : tagger.cache.Holds SameKeys)
    (samples : List ValidationSample) (turns : List SampleTurn) :
    CarriesCalibration platform config tagger (.runCalibration samples turns) ↔
      ServedCurrent platform config tagger (.runCalibration samples turns) := by
  rw [CarriesCalibration, ServedCurrent]
  refine forall_congr' fun _ => ?_
  cases done : (validate platform config tagger samples turns).results with
  | none => simp
  | some results =>
    have valid := @validate_holds _ platform config _ keys samples turns rfl fun _ _ _ _ => rfl
    have kept : ∀ result ∈ results, SameKeys result.tags result.answered :=
      fun result member => valid.tagged result (results_mem done result member)
    have paired : samples.length = results.length := by
      rw [← mapM_length done, validate_length]
    simp only [Option.isSome_some, Option.mem_some_iff, forall_eq', forall_true_left]
    rw [observations_eq_iff paired kept]
    constructor
    · intro raw
      refine servesRaw_of_results platform config samples fun index result tagged => ?_
      obtain ⟨found, inResults, same⟩ := (mapM_eq_some done).1 _ (List.mem_of_getElem? tagged)
      cases same
      exact raw result inResults
    · intro served result member
      exact (rawResults_of_served platform config served).raw result (results_mem done result member)

theorem taggerStep_keys (tagger : Tagger) (call : TaggerCall) (keys : tagger.cache.Holds SameKeys) :
    (taggerStep platform config engine tagger call).cache.Holds SameKeys :=
  taggerStep_holds platform config engine keys rfl (fun _ _ => rfl)
    fun _ _ => calibrate_sameKeys _ _

/-- From an empty cache, all tags and observations carry the calibration in force exactly when
every entry that serves a call is current. -/
theorem calibration_current_iff (calibrator : Option ConfidenceCalibrator)
    (calls : List TaggerCall) :
    Guarded (taggerStep platform config engine) (CarriesCalibration platform config)
        { calibrator } calls ↔
      Guarded (taggerStep platform config engine) (ServedCurrent platform config)
        { calibrator } calls := by
  refine guarded_iff_guarded (fun tagger : Tagger => tagger.cache.Holds SameKeys)
    (fun tagger call keys _ => taggerStep_keys platform config engine tagger call keys) ?_
    fun _ member => absurd member List.not_mem_nil
  intro tagger call keys
  cases call with
  | tagChunk text now later content =>
    exact tagChunk_carries_iff platform config tagger text now later content
  | runCalibration samples turns => exact runCalibration_carries_iff platform config keys samples turns

theorem tagChunk_stores (tagger : Tagger) (text : Text) (now later : Date) (content : Text) :
    ∀ entry ∈ (tagChunk platform config tagger text now later content).2.cache,
      entry ∈ tagger.cache ∨ entry.tags = entry.answered.map (calibrate tagger.calibrator) := by
  intro entry member
  rw [tagChunk] at member
  split at member
  · next looked =>
      rw [← congrArg (·.2.cache) looked] at member
      exact .inl (TagCache.get_subset entry member)
  · next missed looked =>
      have cache := congrArg (·.2.cache) looked
      have calibrator := congrArg (·.2.calibrator) looked
      rw [receiveTags] at member
      split at member
      · rw [← cache] at member
        exact .inl (TagCache.get_subset entry member)
      · rcases TagCache.mem_set entry member with before | rfl
        · rw [← cache] at before
          exact .inl (TagCache.get_subset entry before)
        · exact .inr (by rw [← calibrator]; rfl)

/-- What chunks have stored since some moment is current as long as nothing is calibrated after it;
only what was there before, of older chunks or of a validation run, need not be. -/
theorem stored_current_since (before : Tagger) {calls : List TaggerCall}
    (chunks : ∀ call ∈ calls, ∃ text now later content, call = .tagChunk text now later content) :
    ∀ taken ∈ trace (taggerStep platform config engine) before calls,
      ∀ entry ∈ taken.1.cache, entry ∈ before.cache ∨
        entry.tags = entry.answered.map (calibrate taken.1.calibrator) := by
  have guarded : Guarded (taggerStep platform config engine)
      (fun _ call => ∃ text now later content, call = TaggerCall.tagChunk text now later content)
      before calls :=
    fun taken member => chunks taken.2 (trace_action _ _ _ taken member)
  have keeps (tagger : Tagger) (call : TaggerCall)
      (holds : tagger.calibrator = before.calibrator ∧ ∀ entry ∈ tagger.cache,
        entry ∈ before.cache ∨ entry.tags = entry.answered.map (calibrate before.calibrator))
      (chunk : ∃ text now later content, call = .tagChunk text now later content) :
      (taggerStep platform config engine tagger call).calibrator = before.calibrator ∧
        ∀ entry ∈ (taggerStep platform config engine tagger call).cache,
          entry ∈ before.cache ∨
            entry.tags = entry.answered.map (calibrate before.calibrator) := by
    obtain ⟨text, now, later, content, rfl⟩ := chunk
    obtain ⟨same, known⟩ := holds
    refine ⟨(tagChunk_calibrator platform config tagger text now later content).trans same, ?_⟩
    intro entry member
    rcases tagChunk_stores platform config tagger text now later content entry member with
      old | current
    · exact known entry old
    · exact .inr (same ▸ current)
  intro taken member
  obtain ⟨⟨same, known⟩, _⟩ := trace_guarded_invariant
    (fun tagger : Tagger => tagger.calibrator = before.calibrator ∧ ∀ entry ∈ tagger.cache,
      entry ∈ before.cache ∨ entry.tags = entry.answered.map (calibrate before.calibrator))
    keeps ⟨rfl, fun _ inCache => .inl inCache⟩ guarded taken member
  rw [same]
  exact known

/-- A text that had no entry at the last calibration is served by current entries only. -/
theorem served_current_since (before : Tagger) {calls : List TaggerCall}
    (chunks : ∀ call ∈ calls, ∃ text now later content, call = .tagChunk text now later content) :
    ∀ taken ∈ trace (taggerStep platform config engine) before calls,
      ∀ text now later content, taken.2 = .tagChunk text now later content →
        (∀ old ∈ before.cache, old.key ≠ platform.hashText text) →
          ServedCurrent platform config taken.1 taken.2 := by
  intro taken member text now later content call new
  rw [call]
  intro entry served
  rcases stored_current_since platform config engine before chunks taken member entry
    (TagCache.get_mem served) with old | current
  · exact absurd (TagCache.get_key served) (new entry old)
  · exact current

end

def scoredContent : Text :=
  template ["\x7b\"tags\":[\x7b\"funnel_stage\":\"TOFU\",\"topic\":\"market_expansion\",",
    "\"confidence\":0.9\x7d]\x7d"]

def scoredPlatform : AiPlatform where
  answer _ := some scoredContent
  parseJson content :=
    if content = scoredContent then
      some (.object [("tags", .array [.object [("funnel_stage", .string "TOFU"),
        ("topic", .string "market_expansion"), ("confidence", .number (9 / 10))]])])
    else none
  hashText text := text

def missedSample (chunkText : Text) : ValidationSample where
  chunkText := chunkText
  expectedFunnelStage := "BOFU"
  expectedTopic := "roi_financial_outcomes"

def chunkAround : List TaggerCall := [
  .tagChunk "We enter new markets." 0 1 scoredContent,
  .runCalibration [missedSample "We open an office."] [.take 0 2, .receive 0 3 scoredContent],
  .tagChunk "We enter new markets." 4 5 scoredContent]

def runAfter : List TaggerCall := [
  .runCalibration [missedSample "We open an office."] [.take 0 0, .receive 0 1 scoredContent],
  .tagChunk "We enter new markets." 2 3 scoredContent,
  .runCalibration [missedSample "We enter new markets."] [.take 0 4]]

/-- A chunk keeps its confidence from before the calibration, and a run is fed an adjusted one. -/
theorem entries_outlive_calibration :
    ¬Guarded (taggerStep scoredPlatform {} insertionEngine) (CarriesCalibration scoredPlatform {})
        { calibrator := some {} } chunkAround ∧
      ¬Guarded (taggerStep scoredPlatform {} insertionEngine)
        (CarriesCalibration scoredPlatform {}) { calibrator := some {} } runAfter := by
  decide +kernel

end StoryEngine.Tagging
