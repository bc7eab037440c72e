import StoryEngine.Tagging.IsotonicFit
import StoryEngine.Tagging.Tagger

namespace StoryEngine.Tagging

open Data Pipeline Processing Schema Stories

/-! # When the calibration ends

The grouping loop stands still at a `NaN`, which an answer brings in whose confidence does not
convert to a number.
-/

/-- The confidences of an answer's tags convert to numbers other than `NaN`, or one of the
conversions throws, which leaves no tags. -/
def Numeric (platform : AiPlatform) (content : Text) : Prop :=
  ∀ items, listedTags platform content = some items →
    (∃ accepted ∈ acceptedItems items, accepted.2 = none) ∨
      ∀ accepted ∈ acceptedItems items, accepted.2 ≠ some .nan

variable {accepted : (FunnelStage × TaxonomyTopic) × Option JsNumber} {tag : TagResult}
  {clamped : JsNumber} {curve : List CalibrationPoint}

theorem scoredTag_eq_none :
    scoredTag accepted = none ↔ accepted.2 = none :=
  Option.map_eq_none_iff

theorem scoredTag_inUnit
    (scored : scoredTag accepted = some tag) :
    tag.confidence.InUnit ↔ accepted.2 ≠ some .nan := by
  obtain ⟨number, converted, rfl⟩ := Option.map_eq_some_iff.mp scored
  rw [converted]
  exact JsNumber.clamped_inUnit.trans (not_congr Option.some_inj.symm)

theorem parse_inUnit_iff (platform : AiPlatform) (content : Text) :
    (∀ tag ∈ parseTagResponse platform content, tag.confidence.InUnit) ↔
      Numeric platform content := by
  rw [parseTagResponse, Numeric]
  cases listed : listedTags platform content with
  | none => simp
  | some items =>
    simp only [Option.some.injEq, forall_eq']
    cases scored : (acceptedItems items).mapM scoredTag with
    | none =>
      obtain ⟨accepted, member, throws⟩ := mapM_eq_none.mp scored
      exact iff_of_true nofun (.inl ⟨accepted, member, scoredTag_eq_none.mp throws⟩)
    | some tags =>
      obtain ⟨forth, back⟩ := mapM_eq_some scored
      rw [Option.getD_some]
      constructor
      · intro inUnit
        refine .inr fun accepted member => ?_
        obtain ⟨tag, inTags, same⟩ := forth accepted member
        exact (scoredTag_inUnit same).mp (inUnit tag inTags)
      · rintro (⟨accepted, member, throws⟩ | numeric) tag inTags
        · obtain ⟨found, _, same⟩ := forth accepted member
          rw [scoredTag_eq_none.mpr throws] at same
          cases same
        · obtain ⟨accepted, member, same⟩ := back tag inTags
          exact (scoredTag_inUnit same).mpr (numeric accepted member)

def FinitePoint (point : CalibrationPoint) : Prop :=
  point.rawConfidence.IsFinite ∧ point.empiricalAccuracy.IsFinite

def FiniteCurve (calibrator : ConfidenceCalibrator) : Prop :=
  ∀ point ∈ calibrator.calibrationCurve, FinitePoint point

theorem surrounding_mem
    {lo hi : CalibrationPoint} (found : surrounding clamped curve = some (lo, hi)) :
    lo ∈ curve ∧ hi ∈ curve := by
  induction curve with
  | nil => cases found
  | cons first rest ih =>
    cases rest with
    | nil => cases found
    | cons second others =>
      rw [surrounding] at found
      split at found
      · cases found
        exact ⟨List.mem_cons_self, List.mem_cons_of_mem _ List.mem_cons_self⟩
      · obtain ⟨inLo, inHi⟩ := ih found
        exact ⟨List.mem_cons_of_mem _ inLo, List.mem_cons_of_mem _ inHi⟩

theorem interpolate_isFinite {lo hi : CalibrationPoint}
    (finite : clamped.IsFinite) (atLo : FinitePoint lo) (atHi : FinitePoint hi) :
    (interpolate clamped lo hi).IsFinite := by
  rw [interpolate]
  split
  · exact atLo.2
  · next nonzero =>
      have t := (finite.sub atLo.1).div (atHi.1.sub atLo.1) nonzero
      exact atLo.2.add (t.mul (atHi.2.sub atLo.2))

theorem adjustConfidence_isFinite {calibrator : ConfidenceCalibrator} (curve : FiniteCurve calibrator)
    {rawConfidence : JsNumber} (finite : rawConfidence.IsFinite) :
    (adjustConfidence calibrator rawConfidence).IsFinite := by
  obtain ⟨points, isCalibrated⟩ := calibrator
  cases isCalibrated with
  | false => simpa using finite
  | true =>
    cases points with
    | nil => exact finite
    | cons first rest =>
      have ordinary : rawConfidence ≠ .nan := by
        obtain ⟨value, rfl⟩ := finite
        exact nofun
      have clamped := (JsNumber.clamped_inUnit.mpr ordinary).isFinite
      simp only [adjustConfidence]
      split
      · exact (curve first List.mem_cons_self).2
      · split
        · exact (curve _ (List.getLast_mem _)).2
        · split
          · next found =>
              obtain ⟨inLo, inHi⟩ := surrounding_mem found
              exact interpolate_isFinite clamped (curve _ inLo) (curve _ inHi)
          · exact finite

theorem groupOf_isFinite {slice : List Observation} (occupied : slice ≠ [])
    (finite : ∀ o ∈ slice, o.rawConfidence.IsFinite) : (groupOf slice).rawConfidence.IsFinite := by
  have total : (JsNumber.sum (slice.map (·.rawConfidence))).IsFinite := by
    refine JsNumber.sum_isFinite fun number member => ?_
    obtain ⟨o, inSlice, rfl⟩ := List.mem_map.mp member
    exact finite o inSlice
  refine total.div ⟨_, rfl⟩ fun zero => ?_
  have empty : (slice.length : ℚ) = 0 := by simpa [JsNumber.ofNat] using zero
  exact occupied (List.eq_nil_of_length_eq_zero (Nat.cast_eq_zero.mp empty))

theorem fit_finite {sorted : List Observation}
    (finite : ∀ o ∈ sorted, o.rawConfidence.IsFinite)
    (fit : fitIsotonicRegression sorted = some curve) : ∀ point ∈ curve, FinitePoint point := by
  obtain ⟨slices, clustered, parts, grouped⟩ := groupObservations_of_finite finite
  have occupied := clustered.occupied
  rw [fitIsotonicRegression, grouped, Option.map_some, Option.some_inj] at fit
  subst fit
  intro point member
  obtain ⟨block, inBlocks, atBlock⟩ := List.mem_filterMap.mp member
  obtain ⟨group, atGroup, rfl⟩ := Option.map_eq_some_iff.mp atBlock
  obtain ⟨slice, inSlices, rfl⟩ := List.mem_map.mp (List.mem_of_getElem? atGroup)
  obtain ⟨points, weigh⟩ := groupsOf_weigh occupied
  obtain ⟨segments, stand, _⟩ := pooledBlocks_stand weigh
  obtain ⟨index, bound, rfl⟩ := List.mem_iff_getElem.mp inBlocks
  obtain ⟨level, atLevel, _⟩ := (List.forall₂_iff_get.mp stand).2 index bound
    (stand.length_eq ▸ bound) |>.level
  refine ⟨groupOf_isFinite (occupied slice inSlices) fun o inSlice => ?_, ⟨level, atLevel⟩⟩
  exact finite o (parts ▸ List.mem_flatten.mpr ⟨slice, inSlices, inSlice⟩)

def FitEnds (engine : ObservationSort) (observations : List Observation) : Prop :=
  observations = [] ∨ GroupingEnds (engine.sort observations)

theorem fitEnds_iff (engine : ObservationSort) {observations : List Observation}
    (clamped : ∀ o ∈ observations, o.rawConfidence ≠ .nan → o.rawConfidence.IsFinite) :
    FitEnds engine observations ↔ ∀ o ∈ observations, o.rawConfidence ≠ .nan := by
  have same (o : Observation) : o ∈ engine.sort observations ↔ o ∈ observations :=
    (engine.perm observations).mem_iff
  constructor
  · rintro (rfl | ends) o member
    · cases member
    · exact ends.no_nan o ((same o).mpr member)
  · intro numbers
    refine .inr (groupingEnds_of_finite fun o member => ?_)
    exact clamped o ((same o).mp member) (numbers o ((same o).mp member))

def FiniteTags (tags : List TagResult) : Prop := ∀ tag ∈ tags, tag.confidence.IsFinite

structure FiniteTagger (tagger : Tagger) : Prop where
  cache : tagger.cache.Holds fun tags _ => FiniteTags tags
  curve : ∀ calibrator, tagger.calibrator = some calibrator → FiniteCurve calibrator

theorem calibrate_isFinite {tagger : Tagger} (finite : FiniteTagger tagger)
    (atTag : tag.confidence.IsFinite) : (calibrate tagger.calibrator tag).confidence.IsFinite := by
  cases attached : tagger.calibrator with
  | none => exact atTag
  | some calibrator =>
    rw [calibrate]
    split
    · exact adjustConfidence_isFinite (finite.curve calibrator attached) atTag
    · exact atTag

theorem Numeric.finiteTags {platform : AiPlatform} {content : Text}
    (numeric : Numeric platform content) : FiniteTags (parseTagResponse platform content) :=
  fun tag member => ((parse_inUnit_iff platform content).mpr numeric tag member).isFinite

theorem observation_isFinite {samples : List ValidationSample} {results : List (List TagResult)}
    (finite : ∀ tags ∈ results, FiniteTags tags) :
    ∀ o ∈ observations samples results, o.rawConfidence.IsFinite := by
  intro o member
  obtain ⟨⟨sample, tags⟩, inSamples, inTags⟩ := List.mem_flatMap.mp member
  rcases List.mem_append.mp inTags with ofTag | missed
  · obtain ⟨tag, inResult, rfl⟩ := List.mem_map.mp ofTag
    exact finite tags (List.of_mem_zip inSamples).2 tag inResult
  · split at missed
    · cases missed
    · rw [List.mem_singleton.mp missed]
      exact ⟨0, rfl⟩

section

variable {platform : AiPlatform} {config : TaggerConfig} {engine : ObservationSort}

variable {tagger : Tagger} {fed : List Observation}

theorem fedObservations_finite (finite : FiniteTagger tagger)
    {samples : List ValidationSample} {turns : List SampleTurn}
    (numeric : ∀ content ∈ (TaggerCall.runCalibration samples turns).contents,
      Numeric platform content)
    (feeds : fedObservations platform config tagger samples turns = some fed) :
    ∀ o ∈ fed, o.rawConfidence.IsFinite := by
  obtain ⟨results, done, rfl⟩ := Option.map_eq_some_iff.mp feeds
  refine observation_isFinite fun tags member => ?_
  obtain ⟨result, inResults, rfl⟩ := List.mem_map.mp member
  have valid := validate_holds platform config finite.cache samples nofun
    fun turn inTurns content answer =>
      (numeric content (List.mem_flatMap.mpr ⟨turn, inTurns, answer⟩)).finiteTags
  exact valid.tagged result (results_mem done result inResults)

theorem buildCalibration_finite (finite : ∀ o ∈ fed, o.rawConfidence.IsFinite)
    {report : CalibrationReport} {built : ConfidenceCalibrator}
    (calibrated : buildCalibration engine fed = some (report, built)) : FiniteCurve built := by
  rw [buildCalibration] at calibrated
  split at calibrated
  · cases calibrated
    intro point member
    rcases List.mem_cons.mp member with rfl | last
    · exact ⟨⟨0, rfl⟩, ⟨0, rfl⟩⟩
    · rw [List.mem_singleton.mp last]
      exact ⟨⟨1, rfl⟩, ⟨1, rfl⟩⟩
  · obtain ⟨curve, fit, same⟩ := Option.map_eq_some_iff.mp calibrated
    cases same
    exact fit_finite (fun o member => finite o ((engine.perm fed).mem_iff.mp member)) fit

theorem taggerStep_finite (finite : FiniteTagger tagger) {call : TaggerCall}
    (numeric : ∀ content ∈ call.contents, Numeric platform content) :
    FiniteTagger (taggerStep platform config engine tagger call) := by
  refine ⟨taggerStep_holds platform config engine finite.cache nofun
    (fun content answer => (numeric content answer).finiteTags) ?_, ?_⟩
  · intro content answer tag member
    obtain ⟨answered, inAnswer, rfl⟩ := List.mem_map.mp member
    exact calibrate_isFinite finite ((numeric content answer).finiteTags answered inAnswer)
  · intro calibrator attached
    cases call with
    | tagChunk text now later content =>
      rw [taggerStep, tagChunk_calibrator] at attached
      exact finite.curve calibrator attached
    | runCalibration samples turns =>
      rw [taggerStep, runCalibration] at attached
      split at attached
      · exact finite.curve calibrator attached
      · next restored =>
          split at attached
          · next report built calibrated =>
              cases attached
              obtain ⟨fed, feeds, build⟩ := Option.bind_eq_some_iff.mp calibrated
              exact buildCalibration_finite (fedObservations_finite finite numeric feeds) build
          · cases attached
            exact finite.curve _ restored

def CalibrationEnds (platform : AiPlatform) (config : TaggerConfig) (engine : ObservationSort)
    (tagger : Tagger) : TaggerCall → Prop
  | .tagChunk _ _ _ _ => True
  | .runCalibration samples turns =>
    tagger.calibrator.isSome → ∀ fed,
      fedObservations platform config tagger samples turns = some fed → FitEnds engine fed

def newTagger (attached : Bool) : Tagger where
  calibrator := if attached then some {} else none

theorem newTagger_finite (attached : Bool) : FiniteTagger (newTagger attached) := by
  refine ⟨nofun, fun calibrator same => ?_⟩
  cases attached with
  | false => cases same
  | true =>
    cases same
    exact nofun

/-- All answers have numbers between 0 and 1 and all calibrations end, exactly when the answers
are numeric. -/
theorem calibrations_end_iff (attached : Bool) (calls : List TaggerCall) :
    ((∀ call ∈ calls, ∀ content ∈ call.contents,
        ∀ tag ∈ parseTagResponse platform content, tag.confidence.InUnit) ∧
      ∀ taken ∈ trace (taggerStep platform config engine) (newTagger attached) calls,
        CalibrationEnds platform config engine taken.1 taken.2) ↔
    ∀ call ∈ calls, ∀ content ∈ call.contents, Numeric platform content := by
  constructor
  · rintro ⟨inUnit, _⟩ call member content answer
    exact (parse_inUnit_iff platform content).mp (inUnit call member content answer)
  · intro numeric
    refine ⟨fun call member content answer =>
      (parse_inUnit_iff platform content).mpr (numeric call member content answer), ?_⟩
    have guarded : Guarded (taggerStep platform config engine)
        (fun _ call => ∀ content ∈ call.contents, Numeric platform content)
        (newTagger attached) calls :=
      fun taken member => numeric taken.2 (trace_action _ _ _ taken member)
    intro taken member
    obtain ⟨finite, answers⟩ := trace_guarded_invariant FiniteTagger
      (fun tagger call kept allowed => taggerStep_finite kept allowed)
      (newTagger_finite attached) guarded taken member
    obtain ⟨tagger, call⟩ := taken
    cases call with
    | tagChunk => exact trivial
    | runCalibration samples turns =>
      intro _ fed feeds
      have values := fedObservations_finite finite answers feeds
      refine (fitEnds_iff engine fun o inFed _ => values o inFed).mpr fun o inFed nan => ?_
      obtain ⟨value, same⟩ := values o inFed
      rw [nan] at same
      cases same

end

def unscoredContent : Text :=
  "\x7b\"tags\":[\x7b\"funnel_stage\":\"TOFU\",\"topic\":\"market_expansion\"\x7d]\x7d"

def unscoredPlatform : AiPlatform where
  answer _ := some unscoredContent
  parseJson content :=
    if content = unscoredContent then
      some (.object [("tags", .array [.object [
        ("funnel_stage", .string "TOFU"), ("topic", .string "market_expansion")]])])
    else none
  hashText text := text

def unscoredRun : TaggerCall :=
  .runCalibration
    [{ chunkText := "We enter new markets.", expectedFunnelStage := "TOFU"
       expectedTopic := "market_expansion" }]
    [.take 0 0, .receive 0 1 unscoredContent]

/-- The tag has no number for a confidence, and the calibration that it is fed to hangs. -/
theorem unscored_tag_hangs :
    (∃ tag ∈ parseTagResponse unscoredPlatform unscoredContent, ¬tag.confidence.InUnit) ∧
      ¬CalibrationEnds unscoredPlatform {} insertionEngine (newTagger true) unscoredRun := by
  have parsed : parseTagResponse unscoredPlatform unscoredContent =
      [{ funnelStage := .tofu, topic := ⟨"market_expansion", by decide +kernel⟩
         confidence := .nan }] := by decide +kernel
  have feeds : fedObservations unscoredPlatform {} (newTagger true)
      [{ chunkText := "We enter new markets.", expectedFunnelStage := "TOFU"
         expectedTopic := "market_expansion" }] [.take 0 0, .receive 0 1 unscoredContent] =
      some [{ rawConfidence := .nan, isCorrect := true }] := by decide +kernel
  constructor
  · rw [parsed]
    exact ⟨_, List.mem_singleton_self _, nofun⟩
  · intro ends
    rcases ends rfl _ feeds with empty | grouped
    · cases empty
    · exact grouped.no_nan _ (List.mem_singleton_self _) rfl

end StoryEngine.Tagging
