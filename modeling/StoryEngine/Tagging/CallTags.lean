import Mathlib.Order.Bounds.Basic
import StoryEngine.Data.Upserts
import StoryEngine.Tagging.Tagger

namespace StoryEngine.Tagging

open Data Processing Schema

/-! # Call tags and chunk tags

Tags of chunks are upserted and stay; the tags of their call are aggregated from the results of
one run.  Both tables hold a confidence under each key.
-/

section

universe u v

variable {κ : Type u} {α : Type v} [BEq κ] [LawfulBEq κ] [LinearOrder α]

def noteTag (tagMap : List (κ × α)) (tag : κ × α) : List (κ × α) :=
  match tagMap.find? (·.1 == tag.1) with
  | some existing => if existing.2 < tag.2 then upsertEntry tagMap tag else tagMap
  | none => upsertEntry tagMap tag

theorem nodup_noteTag {tagMap : List (κ × α)} (distinct : (tagMap.map (·.1)).Nodup) (tag : κ × α) :
    ((noteTag tagMap tag).map (·.1)).Nodup := by
  rw [noteTag]
  split
  · split
    · exact nodup_upsertEntry distinct tag
    · exact distinct
  · exact nodup_upsertEntry distinct tag

def confidencesOf (tags : List (κ × α)) (key : κ) : Set α := {confidence | (key, confidence) ∈ tags}

omit [BEq κ] [LawfulBEq κ] [LinearOrder α] in
theorem confidencesOf_concat_own (tags : List (κ × α)) (key : κ) (confidence : α) :
    confidencesOf (tags ++ [(key, confidence)]) key = insert confidence (confidencesOf tags key) := by
  ext other
  simp [confidencesOf, or_comm]

omit [BEq κ] [LawfulBEq κ] [LinearOrder α] in
theorem confidencesOf_concat_other (tags : List (κ × α)) {key : κ} {tag : κ × α} (other : key ≠ tag.1) :
    confidencesOf (tags ++ [tag]) key = confidencesOf tags key := by
  ext confidence
  have different : (key, confidence) ≠ tag := fun same => other (congrArg Prod.fst same)
  simp [confidencesOf, different]

theorem mem_noteTag_other {tagMap : List (κ × α)} (distinct : (tagMap.map (·.1)).Nodup) {key : κ}
    {tag : κ × α} (other : key ≠ tag.1) (confidence : α) :
    (key, confidence) ∈ noteTag tagMap tag ↔ (key, confidence) ∈ tagMap := by
  have kept : (key, confidence) ∈ upsertEntry tagMap tag ↔ (key, confidence) ∈ tagMap := by
    have different : (key, confidence) ≠ tag := fun same => other (congrArg Prod.fst same)
    rw [mem_upsertEntry distinct]
    simp [other, different]
  rw [noteTag]
  split
  · split
    · exact kept
    · exact Iff.rfl
  · exact kept

theorem mem_noteTag_own {tagMap : List (κ × α)} (distinct : (tagMap.map (·.1)).Nodup) {key : κ}
    {values : Set α} (greatest : ∀ confidence, (key, confidence) ∈ tagMap ↔ IsGreatest values confidence)
    (covered : values.Nonempty → ∃ confidence, (key, confidence) ∈ tagMap) (given confidence : α) :
    (key, confidence) ∈ noteTag tagMap (key, given) ↔ IsGreatest (insert given values) confidence := by
  have replaced (top : IsGreatest (insert given values) given) :
      (key, confidence) ∈ upsertEntry tagMap (key, given) ↔
        IsGreatest (insert given values) confidence := by
    rw [mem_upsertEntry distinct]
    simp only [Prod.mk.injEq, true_and, ne_eq, not_true_eq_false, false_and, or_false]
    exact ⟨fun same => same ▸ top, fun other => other.unique top⟩
  rw [noteTag]
  split
  · next existing found =>
      obtain ⟨existingKey, before⟩ := existing
      have same : existingKey = key := by simpa using List.find?_some found
      subst same
      have top := (greatest before).mp (List.mem_of_find?_eq_some found)
      split
      · next higher =>
          exact replaced ⟨Set.mem_insert _ _, Set.forall_mem_insert.mpr
            ⟨le_rfl, fun other member => (top.2 member).trans higher.le⟩⟩
      · next lower =>
          have still : IsGreatest (insert given values) before :=
            ⟨Set.mem_insert_of_mem _ top.1, Set.forall_mem_insert.mpr
              ⟨not_lt.mp lower, fun other member => top.2 member⟩⟩
          rw [greatest]
          exact ⟨fun other => other.unique top ▸ still, fun other => other.unique still ▸ top⟩
  · next absent =>
      have empty : values = ∅ := by
        refine Set.not_nonempty_iff_eq_empty.mp fun occupied => ?_
        obtain ⟨before, member⟩ := covered occupied
        simpa using List.find?_eq_none.mp absent _ member
      subst empty
      refine replaced ⟨Set.mem_insert _ _, Set.forall_mem_insert.mpr ⟨le_rfl, ?_⟩⟩
      exact fun other member => absurd member (Set.notMem_empty other)

omit [BEq κ] [LawfulBEq κ] in
theorem exists_isGreatest {tags : List (κ × α)} {key : κ} (occupied : (confidencesOf tags key).Nonempty) :
    ∃ confidence, IsGreatest (confidencesOf tags key) confidence := by
  induction tags using List.reverseRecOn with
  | nil => simp [confidencesOf] at occupied
  | append_singleton tags tag ih =>
    obtain ⟨tagKey, given⟩ := tag
    by_cases own : key = tagKey
    · subst own
      rw [confidencesOf_concat_own]
      by_cases before : (confidencesOf tags key).Nonempty
      · obtain ⟨confidence, greatest⟩ := ih before
        exact ⟨max given confidence, greatest.insert given⟩
      · rw [Set.not_nonempty_iff_eq_empty.mp before, insert_empty_eq]
        exact ⟨given, isGreatest_singleton⟩
    · rw [confidencesOf_concat_other tags own] at occupied ⊢
      exact ih occupied

theorem tagMap_isGreatest (tags : List (κ × α)) :
    ((tags.foldl noteTag []).map (·.1)).Nodup ∧
      ∀ key confidence, (key, confidence) ∈ tags.foldl noteTag [] ↔
        IsGreatest (confidencesOf tags key) confidence := by
  induction tags using List.reverseRecOn with
  | nil => simp [confidencesOf, IsGreatest]
  | append_singleton tags tag ih =>
    obtain ⟨distinct, greatest⟩ := ih
    obtain ⟨tagKey, given⟩ := tag
    rw [List.foldl_append, List.foldl_cons, List.foldl_nil]
    refine ⟨nodup_noteTag distinct _, fun key confidence => ?_⟩
    by_cases own : key = tagKey
    · subst own
      rw [confidencesOf_concat_own]
      refine mem_noteTag_own distinct (greatest key) (fun occupied => ?_) given confidence
      obtain ⟨before, top⟩ := exists_isGreatest occupied
      exact ⟨before, (greatest key before).mpr top⟩
    · rw [confidencesOf_concat_other tags own, ← greatest, mem_noteTag_other distinct own]

end

abbrev TagKey := FunnelStage × TaxonomyTopic

structure ChunkTaggingResult where
  chunkId : RowId
  tags : List TagResult

def storedConfidence (tag : TagResult) : Option (TagKey × ℚ) :=
  match tag.confidence with
  | .finite confidence => some ((tag.funnelStage, tag.topic), confidence)
  | .nan | .infinite _ => none

def chunkRows (results : List ChunkTaggingResult) : List ((RowId × TagKey) × ℚ) :=
  results.flatMap fun result =>
    (result.tags.filterMap storedConfidence).map fun tag => ((result.chunkId, tag.1), tag.2)

/-- A run that gets to its call tags: every confidence is a number, or the database refuses it,
and the upserts of the chunk tags take effect in any order. -/
structure TaggingRun where
  results : List ChunkTaggingResult
  numeric : ∀ result ∈ results, ∀ tag ∈ result.tags, tag.confidence.IsFinite
  written : List ((RowId × TagKey) × ℚ)
  perm : written.Perm (chunkRows results)

def TaggingRun.tags (run : TaggingRun) : List (TagKey × ℚ) :=
  (chunkRows run.results).map fun row => (row.1.2, row.2)

structure CallTagging where
  chunkTags : List ((RowId × TagKey) × ℚ) := []
  callTags : List (TagKey × ℚ) := []

def aggregateCallTags (callTags : List (TagKey × ℚ)) (run : TaggingRun) : List (TagKey × ℚ) :=
  (run.tags.foldl noteTag []).foldl upsertEntry callTags

def tagCallTranscript (state : CallTagging) (run : TaggingRun) : CallTagging where
  chunkTags := run.written.foldl upsertEntry state.chunkTags
  callTags := aggregateCallTags state.callTags run

inductive TaggingEvent where
  | tag (run : TaggingRun)
  /-- Chunks are deleted, and their tags with them; new ones have none. -/
  | replace (removed : List RowId)

def taggingStep (state : CallTagging) : TaggingEvent → CallTagging
  | .tag run => tagCallTranscript state run
  | .replace removed =>
    { state with chunkTags := state.chunkTags.filter fun row => !removed.contains row.1.1 }

def CallTagging.chunkConfidences (state : CallTagging) (key : TagKey) : Set ℚ :=
  {confidence | ∃ chunkId, ((chunkId, key), confidence) ∈ state.chunkTags}

/-- The call tags are the keys of the chunk tags, each with its greatest confidence. -/
def Summarises (state : CallTagging) : Prop :=
  ∀ key confidence, (key, confidence) ∈ state.callTags ↔
    IsGreatest (state.chunkConfidences key) confidence

/-- A chunk tag that is there after the run: one written last, or one that is not written. -/
def Remains (state : CallTagging) (run : TaggingRun) (key : TagKey) (confidence : ℚ) : Prop :=
  ∃ chunkId, lastWritten run.written (chunkId, key) = some confidence ∨
    (chunkId, key) ∉ run.written.map (·.1) ∧ ((chunkId, key), confidence) ∈ state.chunkTags

/-- No tag of the run is above all that remain under its key, nor the reverse, and each call tag
that the run does not give again is still that of a chunk. -/
structure Retagged (state : CallTagging) (run : TaggingRun) : Prop where
  reached : ∀ tag ∈ run.tags, ∃ confidence, Remains state run tag.1 confidence ∧ tag.2 ≤ confidence
  kept : ∀ tag ∈ run.tags, ∀ confidence, Remains state run tag.1 confidence →
    ∃ other ∈ run.tags, other.1 = tag.1 ∧ confidence ≤ other.2
  others : ∀ tag ∈ state.callTags, tag.1 ∉ run.tags.map (·.1) →
    tag.2 ∈ state.chunkConfidences tag.1

variable {run : TaggingRun} {key : TagKey} {state : CallTagging}

theorem chunkRows_key {chunkId : RowId}
    (written : (chunkId, key) ∈ run.written.map (·.1)) : key ∈ run.tags.map (·.1) := by
  obtain ⟨row, member, same⟩ := List.mem_map.mp written
  have inRun : (row.1.2, row.2) ∈ run.tags :=
    List.mem_map.mpr ⟨row, run.perm.mem_iff.mp member, rfl⟩
  have own : row.1.2 = key := congrArg Prod.snd same
  exact own ▸ List.mem_map_of_mem inRun

/-- The tables have one row for a key, and no chunk tag is above its call tag. -/
structure Tables (state : CallTagging) : Prop where
  chunkKeys : (state.chunkTags.map (·.1)).Nodup
  callKeys : (state.callTags.map (·.1)).Nodup
  dominated : ∀ key, ∀ confidence ∈ state.chunkConfidences key,
    ∃ above, (key, above) ∈ state.callTags ∧ confidence ≤ above

theorem chunkConfidences_after (tables : Tables state) (run : TaggingRun)
    (key : TagKey) :
    (tagCallTranscript state run).chunkConfidences key = {confidence | Remains state run key confidence} := by
  ext confidence
  exact exists_congr fun chunkId => mem_upsertEntries tables.chunkKeys

theorem callTags_after (tables : Tables state) (run : TaggingRun)
    (key : TagKey) (confidence : ℚ) :
    (key, confidence) ∈ (tagCallTranscript state run).callTags ↔
      IsGreatest (confidencesOf run.tags key) confidence ∨
        key ∉ run.tags.map (·.1) ∧ (key, confidence) ∈ state.callTags := by
  obtain ⟨once, greatest⟩ := tagMap_isGreatest run.tags
  have sameKeys : key ∈ (run.tags.foldl noteTag []).map (·.1) ↔ key ∈ run.tags.map (·.1) := by
    constructor
    · intro inMap
      obtain ⟨tag, member, rfl⟩ := List.mem_map.mp inMap
      exact List.mem_map_of_mem ((greatest tag.1 tag.2).mp member).1
    · intro inRun
      obtain ⟨tag, member, rfl⟩ := List.mem_map.mp inRun
      have occupied : (confidencesOf run.tags tag.1).Nonempty := ⟨tag.2, member⟩
      obtain ⟨top, isTop⟩ := exists_isGreatest occupied
      exact List.mem_map_of_mem (f := (·.1)) ((greatest tag.1 top).mpr isTop)
  rw [tagCallTranscript, aggregateCallTags, mem_upsertEntries tables.callKeys,
    lastWritten_eq_some once, greatest, sameKeys]

/-- Under a key of the run the call tag is right exactly when nothing remains above the run's
tags and they are reached by what remains. -/
theorem summarises_given_iff {values remaining : Set ℚ} {top : ℚ} (greatest : IsGreatest values top) :
    (∀ confidence, IsGreatest values confidence ↔ IsGreatest remaining confidence) ↔
      (∀ given ∈ values, ∃ confidence ∈ remaining, given ≤ confidence) ∧
        ∀ confidence ∈ remaining, ∃ given ∈ values, confidence ≤ given := by
  constructor
  · intro same
    have remains := (same top).mp greatest
    exact ⟨fun given member => ⟨top, remains.1, greatest.2 member⟩,
      fun confidence member => ⟨top, greatest.1, remains.2 member⟩⟩
  · rintro ⟨reached, kept⟩
    have below : ∀ confidence ∈ remaining, confidence ≤ top := by
      intro confidence member
      obtain ⟨given, inValues, higher⟩ := kept confidence member
      exact higher.trans (greatest.2 inValues)
    obtain ⟨found, inRemaining, above⟩ := reached top greatest.1
    have same : found = top := le_antisymm (below found inRemaining) above
    have remains : IsGreatest remaining top := ⟨same ▸ inRemaining, below⟩
    exact fun confidence => ⟨fun other => other.unique greatest ▸ remains,
      fun other => other.unique remains ▸ greatest⟩

theorem summarises_left_iff (tables : Tables state) (key : TagKey) :
    (∀ confidence, (key, confidence) ∈ state.callTags ↔
        IsGreatest (state.chunkConfidences key) confidence) ↔
      ∀ confidence, (key, confidence) ∈ state.callTags →
        confidence ∈ state.chunkConfidences key := by
  constructor
  · exact fun right confidence member => ((right confidence).mp member).1
  · intro attained confidence
    have unique {first second : ℚ} (one : (key, first) ∈ state.callTags)
        (two : (key, second) ∈ state.callTags) : first = second :=
      (Prod.mk.inj (List.inj_on_of_nodup_map tables.callKeys one two rfl)).2
    constructor
    · intro member
      refine ⟨attained confidence member, fun other onChunk => ?_⟩
      obtain ⟨above, inTags, higher⟩ := tables.dominated key other onChunk
      exact unique inTags member ▸ higher
    · intro greatest
      obtain ⟨above, inTags, higher⟩ := tables.dominated key confidence greatest.1
      have lower := greatest.2 (attained above inTags)
      exact le_antisymm lower higher ▸ inTags

theorem callTags_left (tables : Tables state)
    (left : key ∉ run.tags.map (·.1)) (confidence : ℚ) :
    (key, confidence) ∈ (tagCallTranscript state run).callTags ↔ (key, confidence) ∈ state.callTags := by
  have none : ¬IsGreatest (confidencesOf run.tags key) confidence :=
    fun greatest => left (List.mem_map_of_mem (f := (·.1)) greatest.1)
  rw [callTags_after tables]
  simp [none, left]

theorem chunkConfidences_left (tables : Tables state)
    (left : key ∉ run.tags.map (·.1)) :
    (tagCallTranscript state run).chunkConfidences key = state.chunkConfidences key := by
  rw [chunkConfidences_after tables]
  ext confidence
  refine exists_congr fun chunkId => ?_
  have unwritten : (chunkId, key) ∉ run.written.map (·.1) := fun written => left (chunkRows_key written)
  rw [lastWritten_eq_none.mpr unwritten]
  simp [unwritten]

theorem summarises_iff (tables : Tables state) (run : TaggingRun) :
    Summarises (tagCallTranscript state run) ↔ Retagged state run := by
  have given {key : TagKey} (inRun : key ∈ run.tags.map (·.1)) :
      (∀ confidence, (key, confidence) ∈ (tagCallTranscript state run).callTags ↔
          IsGreatest ((tagCallTranscript state run).chunkConfidences key) confidence) ↔
        (∀ given ∈ confidencesOf run.tags key,
            ∃ confidence, Remains state run key confidence ∧ given ≤ confidence) ∧
          ∀ confidence, Remains state run key confidence →
            ∃ given ∈ confidencesOf run.tags key, confidence ≤ given := by
    obtain ⟨tag, member, rfl⟩ := List.mem_map.mp inRun
    have occupied : (confidencesOf run.tags tag.1).Nonempty := ⟨tag.2, member⟩
    obtain ⟨top, greatest⟩ := exists_isGreatest occupied
    refine Iff.trans (forall_congr' fun confidence => ?_) (summarises_given_iff greatest)
    rw [callTags_after tables, chunkConfidences_after tables]
    simp only [inRun, not_true_eq_false, false_and, or_false]
    exact Iff.rfl
  have left {key : TagKey} (outside : key ∉ run.tags.map (·.1)) :
      (∀ confidence, (key, confidence) ∈ (tagCallTranscript state run).callTags ↔
          IsGreatest ((tagCallTranscript state run).chunkConfidences key) confidence) ↔
        ∀ confidence, (key, confidence) ∈ state.callTags →
          confidence ∈ state.chunkConfidences key := by
    refine Iff.trans (forall_congr' fun confidence => ?_) (summarises_left_iff tables key)
    rw [callTags_left tables outside, chunkConfidences_left tables outside]
  constructor
  · intro right
    refine ⟨fun tag member => ?_, fun tag member confidence remains => ?_, fun tag member outside => ?_⟩
    · exact ((given (List.mem_map_of_mem member)).mp (right tag.1)).1 tag.2 member
    · obtain ⟨other, inRun, higher⟩ :=
        ((given (List.mem_map_of_mem member)).mp (right tag.1)).2 confidence remains
      exact ⟨(tag.1, other), inRun, rfl, higher⟩
    · exact (left outside).mp (right tag.1) tag.2 member
  · intro retagged key
    by_cases inRun : key ∈ run.tags.map (·.1)
    · refine (given inRun).mpr ⟨fun value member => retagged.reached (key, value) member, ?_⟩
      intro confidence remains
      obtain ⟨tag, member, rfl⟩ := List.mem_map.mp inRun
      obtain ⟨other, inTags, same, higher⟩ := retagged.kept tag member confidence remains
      exact ⟨other.2, same ▸ inTags, higher⟩
    · exact (left inRun).mpr fun confidence member => retagged.others (key, confidence) member inRun

def SummarisesAfter (state : CallTagging) : TaggingEvent → Prop
  | .tag run => Summarises (tagCallTranscript state run)
  | .replace _ => True

def RetagsAll (state : CallTagging) : TaggingEvent → Prop
  | .tag run => Retagged state run
  | .replace _ => True

theorem exists_chunkGreatest
    (occupied : (state.chunkConfidences key).Nonempty) :
    ∃ confidence, IsGreatest (state.chunkConfidences key) confidence := by
  have listed : state.chunkConfidences key =
      confidencesOf (state.chunkTags.map fun row => (row.1.2, row.2)) key := by
    ext confidence
    simp [CallTagging.chunkConfidences, confidencesOf]
  rw [listed] at occupied ⊢
  exact exists_isGreatest occupied

theorem tables_after (tables : Tables state) {event : TaggingEvent}
    (summarises : SummarisesAfter state event) : Tables (taggingStep state event) := by
  cases event with
  | tag run =>
    refine ⟨nodup_upsertEntries tables.chunkKeys _, nodup_upsertEntries tables.callKeys _, ?_⟩
    intro key confidence onChunk
    obtain ⟨top, greatest⟩ := exists_chunkGreatest ⟨confidence, onChunk⟩
    exact ⟨top, (summarises key top).mpr greatest, greatest.2 onChunk⟩
  | replace removed =>
    refine ⟨tables.chunkKeys.sublist (List.filter_sublist.map _), tables.callKeys, ?_⟩
    rintro key confidence ⟨chunkId, member⟩
    exact tables.dominated key confidence ⟨chunkId, List.mem_of_mem_filter member⟩

/-- From the start on, the call tags summarise the chunk tags after every run exactly when every
run retags all it has to. -/
theorem call_tags_summarise_iff (events : List TaggingEvent) :
    Guarded taggingStep SummarisesAfter {} events ↔ Guarded taggingStep RetagsAll {} events := by
  refine guarded_iff_guarded Tables (fun _ _ tables => tables_after tables) ?_ ?_
  · intro state event tables
    cases event with
    | tag run => exact summarises_iff tables run
    | replace => exact Iff.rfl
  · exact ⟨List.nodup_nil, List.nodup_nil, fun key confidence onChunk => by
      obtain ⟨chunkId, member⟩ := onChunk
      cases member⟩

def marketExpansion : TaxonomyTopic := ⟨"market_expansion", by decide +kernel⟩

def taggedAt (chunkId : RowId) (confidence : ℚ) : TaggingRun where
  results := [{ chunkId, tags := [{
    funnelStage := .tofu, topic := marketExpansion, confidence := .finite confidence }] }]
  numeric := by
    intro result member tag inTags
    rw [List.mem_singleton.mp member] at inTags
    rw [List.mem_singleton.mp inTags]
    exact ⟨confidence, rfl⟩
  written := [((chunkId, .tofu, marketExpansion), confidence)]
  perm := .refl _

/-- The call tag has the last run's 2/5, while the first run's 9/10 stays on its chunk. -/
theorem earlier_chunk_tag_outlasts :
    ¬Guarded taggingStep SummarisesAfter {} [.tag (taggedAt 1 (9 / 10)), .tag (taggedAt 2 (2 / 5))] := by
  intro guarded
  have first := guarded_cons.mp guarded
  have second := (guarded_cons.mp first.2).1
  have called : ((.tofu, marketExpansion), 2 / 5) ∈
      (tagCallTranscript (taggingStep {} (.tag (taggedAt 1 (9 / 10)))) (taggedAt 2 (2 / 5))).callTags := by
    decide +kernel
  have onChunk : (9 / 10 : ℚ) ∈ (tagCallTranscript (taggingStep {} (.tag (taggedAt 1 (9 / 10))))
      (taggedAt 2 (2 / 5))).chunkConfidences (.tofu, marketExpansion) :=
    ⟨1, by decide +kernel⟩
  have bounded := ((second _ _).mp called).2 onChunk
  exact absurd bounded (by decide +kernel)

end StoryEngine.Tagging
