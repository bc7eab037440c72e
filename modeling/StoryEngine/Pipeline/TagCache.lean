import Mathlib.Data.List.Dedup
import Mathlib.Data.List.Perm.Subperm
import StoryEngine.Pipeline.ProcessCall

namespace StoryEngine.Pipeline

open Data Schema

/-! # The cache of the tags

The entries stand in the order in which their texts were last touched.  One that is too old is
dropped where it stands, and a full cache drops the first one for a new text.
-/

inductive CacheCall where
  | get (text : Text) (passed : Nat)
  | set (text : Text) (tags : List TagResult) (passed : Nat)
  | clear

inductive CacheNote where
  | hit (text : Text) (tags : List TagResult)
  | missed (text : Text)
  | stored (text : Text) (tags : List TagResult) (time : Nat)
  | cleared

/-- The cache with the clock, and what happened so far from the latest on. -/
structure CacheHistory where
  cache : TagCache := []
  clock : Nat := 0
  notes : List CacheNote := []

section

variable (hashText : Text → Text) (config : TaggerConfig)

def CacheHistory.lookup (history : CacheHistory) (text : Text) (passed : Nat) :
    Option (List TagResult) × TagCache :=
  history.cache.get config (history.clock + passed) (hashText text)

def cacheStep (history : CacheHistory) : CacheCall → CacheHistory
  | .get text passed =>
    let (found, cache) := history.lookup hashText config text passed
    { cache := cache
      clock := history.clock + passed
      notes := (found.elim (.missed text) (.hit text)) :: history.notes }
  | .set text tags passed =>
    let now := history.clock + passed
    { cache := history.cache.set config now (hashText text) tags
      clock := now
      notes := .stored text tags now :: history.notes }
  | .clear => { history with cache := [], notes := .cleared :: history.notes }

end

def lastStored (text : Text) : List CacheNote → Option (List TagResult × Date)
  | [] => none
  | .stored other tags time :: notes =>
    if other = text then some (tags, time) else lastStored text notes
  | .cleared :: _ => none
  | .hit _ _ :: notes => lastStored text notes
  | .missed _ :: notes => lastStored text notes

def CacheNote.touched : CacheNote → Option Text
  | .hit text _ => some text
  | .stored text _ _ => some text
  | .missed _ => none
  | .cleared => none

def touchedSince (text : Text) : List CacheNote → List Text
  | [] => []
  | note :: notes =>
    match note.touched with
    | none => touchedSince text notes
    | some other => if other = text then [] else other :: touchedSince text notes

section

variable {text other : Text} {notes : List CacheNote} {tags : List TagResult} {time : Nat}

theorem touchedSince_touch {note : CacheNote} (touch : note.touched = some other) :
    touchedSince text (note :: notes) =
      if other = text then [] else other :: touchedSince text notes := by
  rw [touchedSince, touch]

theorem touchedSince_idle {note : CacheNote} (idle : note.touched = none) :
    touchedSince text (note :: notes) = touchedSince text notes := by
  rw [touchedSince, idle]

theorem dedup_length_mono {first second : List Text} (inside : first ⊆ second) :
    first.dedup.length ≤ second.dedup.length := by
  apply List.Subperm.length_le
  apply List.subperm_of_subset (List.nodup_dedup first)
  intro text member
  exact List.mem_dedup.mpr (inside (List.mem_dedup.mp member))

theorem touchedSince_grows {note : CacheNote} (apart : note.touched ≠ some text) :
    touchedSince text notes ⊆ touchedSince text (note :: notes) := by
  cases touch : note.touched with
  | none => rw [touchedSince_idle touch]; exact List.Subset.refl _
  | some other =>
    have differ : other ≠ text := fun same => apart (same ▸ touch)
    rw [touchedSince_touch touch, if_neg differ]
    exact List.subset_cons_self _ _

end

section

variable {hashText : Text → Text} {config : TaggerConfig} {history : CacheHistory}

def IsStored (hashText : Text → Text) (cache : TagCache) (text : Text) : Prop :=
  ∃ entry ∈ cache, entry.key = hashText text

/-- The entries are those last stored, in the order in which their texts were touched; a text that
is not among them is too old or has made way for as many others as there is room for. -/
structure Recent (hashText : Text → Text) (config : TaggerConfig) (history : CacheHistory) :
    Prop where
  stored : ∀ entry ∈ history.cache, ∃ text, entry.key = hashText text ∧
    lastStored text history.notes = some (entry.tags, entry.createdAt)
  distinct : (history.cache.map (·.key)).Nodup
  ordered : history.cache.Pairwise fun older newer => ∀ text other,
    older.key = hashText text → newer.key = hashText other →
      other ∈ touchedSince text history.notes
  small : history.cache.length ≤ config.maxSize
  kept : ∀ text tags time, lastStored text history.notes = some (tags, time) →
    IsStored hashText history.cache text ∨ config.ttlMs < history.clock - time ∨
      config.maxSize ≤ (touchedSince text history.notes).dedup.length

theorem Recent.start : Recent hashText config {} where
  stored := by
    intro entry absent
    cases absent
  distinct := List.nodup_nil
  ordered := List.Pairwise.nil
  small := Nat.zero_le _
  kept := by
    intro text tags time absent
    cases absent

def TagCache.without (cache : TagCache) (key : Text) : TagCache := cache.filter (·.key != key)

theorem TagCache.mem_without {cache : TagCache} {key : Text} {entry : TagCacheEntry} :
    entry ∈ cache.without key ↔ entry ∈ cache ∧ entry.key ≠ key := by
  simp [TagCache.without]

theorem TagCache.without_sublist (cache : TagCache) (key : Text) :
    (cache.without key).Sublist cache := List.filter_sublist

theorem TagCache.without_shorter {cache : TagCache} {key : Text} {entry : TagCacheEntry}
    (member : entry ∈ cache) (same : entry.key = key) :
    (cache.without key).length < cache.length := by
  refine List.length_filter_lt_length_iff_exists.mpr ⟨entry, member, ?_⟩
  simpa using same

theorem TagCache.get_cases (cache : TagCache) (config : TaggerConfig) (now : Nat) (key : Text) :
    (∀ entry ∈ cache, entry.key ≠ key) ∧ cache.get config now key = (none, cache) ∨
      ∃ entry ∈ cache, entry.key = key ∧
        (config.ttlMs < now - entry.createdAt ∧
            cache.get config now key = (none, cache.without key) ∨
          now - entry.createdAt ≤ config.ttlMs ∧
            cache.get config now key = (some entry.tags, cache.without key ++ [entry])) := by
  cases found : cache.find? (·.key == key) with
  | none =>
    refine .inl ⟨?_, by simp only [TagCache.get, found]⟩
    intro entry member
    simpa using List.find?_eq_none.mp found entry member
  | some entry =>
    have same : entry.key = key := by simpa using List.find?_some found
    refine .inr ⟨entry, List.mem_of_find?_eq_some found, same, ?_⟩
    rcases Nat.lt_or_ge config.ttlMs (now - entry.createdAt) with old | young
    · exact .inl ⟨old, by simp only [TagCache.get, found, if_pos old, TagCache.without]⟩
    · refine .inr ⟨young, ?_⟩
      simp only [TagCache.get, found, if_neg (Nat.not_lt.mpr young), TagCache.without]

section

variable {text : Text} {note : CacheNote} {part : TagCache} {entry : TagCacheEntry} {clock : Nat}

theorem Recent.touch (injective : Function.Injective hashText)
    (recent : Recent hashText config history) (touch : note.touched = some text)
    (sub : part.Sublist (history.cache.without (hashText text)))
    (own : entry.key = hashText text) :
    ((part ++ [entry]).map (·.key)).Nodup ∧
      (part ++ [entry]).Pairwise fun older newer => ∀ first second,
        older.key = hashText first → newer.key = hashText second →
          second ∈ touchedSince first (note :: history.notes) := by
  have apart : ∀ other ∈ part, other.key ≠ hashText text := fun other member =>
    (TagCache.mem_without.mp (sub.subset member)).2
  have stays : part.Sublist history.cache := sub.trans (history.cache.without_sublist _)
  refine ⟨?_, ?_⟩
  · rw [List.map_append, List.nodup_append]
    refine ⟨recent.distinct.sublist (stays.map _), List.nodup_singleton _, ?_⟩
    intro key inPart last isLast
    obtain ⟨other, member, rfl⟩ := List.mem_map.mp inPart
    rw [List.map_singleton, List.mem_singleton] at isLast
    rw [isLast, own]
    exact apart other member
  · refine List.pairwise_append.mpr ⟨?_, List.pairwise_singleton _ _, ?_⟩
    · refine (recent.ordered.sublist stays).imp_of_mem ?_
      intro older newer inOlder inNewer order first second ofFirst ofSecond
      refine touchedSince_grows ?_ (order first second ofFirst ofSecond)
      intro same
      rw [touch, Option.some_inj] at same
      exact apart older inOlder (by rw [ofFirst, same])
    · intro older inOlder last isLast first second ofFirst ofSecond
      rw [List.mem_singleton.mp isLast, own] at ofSecond
      have differ : text ≠ first := by
        intro same
        exact apart older inOlder (by rw [ofFirst, same])
      rw [touchedSince_touch touch, if_neg differ, injective ofSecond]
      exact List.mem_cons_self

theorem Recent.kept_on (recent : Recent hashText config history) (later : history.clock ≤ clock)
    (apart : note.touched ≠ some text) {tags : List TagResult} {time : Nat}
    (last : lastStored text history.notes = some (tags, time)) :
    IsStored hashText history.cache text ∨ config.ttlMs < clock - time ∨
      config.maxSize ≤ (touchedSince text (note :: history.notes)).dedup.length := by
  rcases recent.kept text tags time last with here | old | gone
  · exact .inl here
  · exact .inr (.inl (by omega))
  · exact .inr (.inr (gone.trans (dedup_length_mono (touchedSince_grows apart))))

theorem Recent.hit (injective : Function.Injective hashText)
    (recent : Recent hashText config history) (later : history.clock ≤ clock)
    (member : entry ∈ history.cache) (own : entry.key = hashText text) :
    Recent hashText config
      { cache := history.cache.without (hashText text) ++ [entry]
        clock := clock
        notes := .hit text entry.tags :: history.notes } := by
  have touch : (CacheNote.hit text entry.tags).touched = some text := rfl
  obtain ⟨distinct, ordered⟩ := recent.touch injective touch (List.Sublist.refl _) own
  have same : ∀ other ∈ history.cache.without (hashText text) ++ [entry],
      other ∈ history.cache := by
    intro other inCache
    rcases List.mem_append.mp inCache with stays | last
    · exact (TagCache.mem_without.mp stays).1
    · rwa [List.mem_singleton.mp last]
  refine ⟨?_, distinct, ordered, ?_, ?_⟩
  · intro other inCache
    exact recent.stored other (same other inCache)
  · rw [List.length_append, List.length_singleton]
    exact (Nat.succ_le_of_lt (TagCache.without_shorter member own)).trans recent.small
  · intro other tags time last
    by_cases differ : other = text
    · exact .inl ⟨entry, by simp, by rw [own, differ]⟩
    · have apart : (CacheNote.hit text entry.tags).touched ≠ some other := by
        intro same
        exact differ (Option.some_inj.mp same).symm
      refine (recent.kept_on later apart last).imp_left ?_
      rintro ⟨stored, inCache, key⟩
      refine ⟨stored, List.mem_append_left _ (TagCache.mem_without.mpr ⟨inCache, ?_⟩), key⟩
      rw [key]
      exact injective.ne differ

theorem Recent.miss (recent : Recent hashText config history) (later : history.clock ≤ clock) :
    Recent hashText config
      { cache := history.cache, clock := clock, notes := .missed text :: history.notes } where
  stored := recent.stored
  distinct := recent.distinct
  ordered := recent.ordered
  small := recent.small
  kept := by
    intro other tags time last
    exact recent.kept_on later (by simp [CacheNote.touched]) last

theorem Recent.expire (injective : Function.Injective hashText)
    (recent : Recent hashText config history) (later : history.clock ≤ clock)
    (member : entry ∈ history.cache) (own : entry.key = hashText text)
    (old : config.ttlMs < clock - entry.createdAt) :
    Recent hashText config
      { cache := history.cache.without (hashText text)
        clock := clock
        notes := .missed text :: history.notes } := by
  have stays := history.cache.without_sublist (hashText text)
  refine ⟨?_, recent.distinct.sublist (stays.map _), recent.ordered.sublist stays,
    stays.length_le.trans recent.small, ?_⟩
  · intro other inCache
    exact recent.stored other (stays.subset inCache)
  · intro other tags time last
    have idle : (CacheNote.missed text).touched ≠ some other := by simp [CacheNote.touched]
    rcases recent.kept_on later idle last with here | gone
    · obtain ⟨stored, inCache, key⟩ := here
      by_cases same : other = text
      · obtain ⟨of, ofKey, lastOf⟩ := recent.stored entry member
        have lastOther : lastStored other history.notes = some (tags, time) := last
        rw [same, injective (own.symm.trans ofKey), lastOf] at lastOther
        cases lastOther
        exact .inr (.inl old)
      · refine .inl ⟨stored, TagCache.mem_without.mpr ⟨inCache, ?_⟩, key⟩
        rw [key]
        exact injective.ne same
    · exact .inr gone

theorem nodup_length_le_texts (hashText : Text → Text) {keys texts : List Text} (distinct : keys.Nodup)
    (inside : ∀ key ∈ keys, ∃ text ∈ texts, key = hashText text) :
    keys.length ≤ texts.dedup.length := by
  have subset : keys ⊆ texts.dedup.map hashText := by
    intro key member
    obtain ⟨text, inTexts, rfl⟩ := inside key member
    exact List.mem_map_of_mem (List.mem_dedup.mpr inTexts)
  simpa using (List.subperm_of_subset distinct subset).length_le

def TagCache.kept (cache : TagCache) (config : TaggerConfig) (key : Text) : TagCache :=
  if config.maxSize ≤ (cache.without key).length then (cache.without key).tail
  else cache.without key

theorem TagCache.kept_sublist (cache : TagCache) (config : TaggerConfig) (key : Text) :
    (cache.kept config key).Sublist (cache.without key) := by
  rw [TagCache.kept]
  split
  · exact List.tail_sublist _
  · exact List.Sublist.refl _

theorem TagCache.set_eq (cache : TagCache) (config : TaggerConfig) (now : Nat) (key : Text)
    (tags : List TagResult) :
    cache.set config now key tags = cache.kept config key ++ [TagCacheEntry.mk key tags now] := rfl

theorem TagCache.evicted {cache : TagCache} {key : Text} (member : entry ∈ cache.without key)
    (gone : entry ∉ cache.kept config key) :
    config.maxSize ≤ (cache.without key).length ∧
      ∃ rest, cache.without key = entry :: rest ∧ cache.kept config key = rest := by
  rw [TagCache.kept] at gone ⊢
  split at gone
  · next full =>
      refine ⟨full, ?_⟩
      rw [if_pos full]
      cases others : cache.without key with
      | nil =>
        rw [others] at member
        cases member
      | cons first rest =>
        rw [others] at member gone
        rcases List.mem_cons.mp member with same | inRest
        · exact ⟨rest, by rw [same], rfl⟩
        · exact absurd inRest gone
  · exact absurd member gone

theorem Recent.made_way (injective : Function.Injective hashText)
    (recent : Recent hashText config history) {first : Text} {rest : TagCache}
    (others : history.cache.without (hashText text) = entry :: rest)
    (own : entry.key = hashText first) (touch : note.touched = some text) :
    (history.cache.without (hashText text)).length ≤
      (touchedSince first (note :: history.notes)).dedup.length := by
  have inOthers : ∀ other ∈ entry :: rest, other ∈ history.cache ∧ other.key ≠ hashText text := by
    intro other member
    rw [← others] at member
    exact TagCache.mem_without.mp member
  have differ : text ≠ first := by
    intro same
    exact (inOthers entry List.mem_cons_self).2 (by rw [own, same])
  have ordered := recent.ordered.sublist (history.cache.without_sublist (hashText text))
  rw [others] at ordered
  have newer : (TagCacheEntry.mk (hashText text) [] 0).key = hashText text := rfl
  obtain ⟨distinct, _⟩ := recent.touch injective touch
    (others ▸ List.sublist_cons_self entry rest) newer
  have width : (history.cache.without (hashText text)).length =
      ((rest ++ [TagCacheEntry.mk (hashText text) [] 0]).map (·.key)).length := by
    rw [others, List.length_map, List.length_append, List.length_singleton, List.length_cons]
  rw [width, touchedSince_touch touch, if_neg differ]
  refine nodup_length_le_texts hashText distinct ?_
  intro key isKey
  rw [List.map_append] at isKey
  rcases List.mem_append.mp isKey with inRest | isNew
  · obtain ⟨other, member, rfl⟩ := List.mem_map.mp inRest
    obtain ⟨otherText, otherKey, _⟩ :=
      recent.stored other (inOthers other (List.mem_cons_of_mem _ member)).1
    have touched := List.rel_of_pairwise_cons ordered member first otherText own otherKey
    exact ⟨otherText, List.mem_cons_of_mem _ touched, otherKey⟩
  · exact ⟨text, List.mem_cons_self, List.mem_singleton.mp isNew⟩

theorem Recent.store (injective : Function.Injective hashText) (positive : 1 ≤ config.maxSize)
    (recent : Recent hashText config history) (later : history.clock ≤ clock)
    (tags : List TagResult) :
    Recent hashText config
      { cache := history.cache.set config clock (hashText text) tags
        clock := clock
        notes := .stored text tags clock :: history.notes } := by
  have touch : (CacheNote.stored text tags clock).touched = some text := rfl
  have sub := history.cache.kept_sublist config (hashText text)
  obtain ⟨distinct, ordered⟩ := recent.touch injective touch sub
    (rfl : (TagCacheEntry.mk (hashText text) tags clock).key = hashText text)
  have small : (history.cache.without (hashText text)).length ≤ config.maxSize :=
    (List.length_filter_le _ _).trans recent.small
  simp only [TagCache.set_eq]
  refine ⟨?_, distinct, ordered, ?_, ?_⟩
  · intro entry inCache
    rcases List.mem_append.mp inCache with stays | last
    · obtain ⟨member, differ⟩ := TagCache.mem_without.mp (sub.subset stays)
      obtain ⟨other, key, last⟩ := recent.stored entry member
      have apart : text ≠ other := by
        intro same
        exact differ (by rw [key, same])
      refine ⟨other, key, ?_⟩
      rw [lastStored, if_neg apart]
      exact last
    · rw [List.mem_singleton.mp last]
      exact ⟨text, rfl, by rw [lastStored, if_pos rfl]⟩
  · rw [List.length_append, List.length_singleton, TagCache.kept]
    split
    · rw [List.length_tail]
      omega
    · omega
  · intro other otherTags time last
    by_cases same : other = text
    · exact .inl ⟨_, List.mem_append_right _ (List.mem_singleton.mpr rfl), by rw [same]⟩
    · rw [lastStored, if_neg (Ne.symm same)] at last
      have apart : (CacheNote.stored text tags clock).touched ≠ some other := by
        intro touches
        exact same (Option.some_inj.mp touches).symm
      rcases recent.kept_on later apart last with here | gone
      · obtain ⟨entry, inCache, key⟩ := here
        have member : entry ∈ history.cache.without (hashText text) := by
          refine TagCache.mem_without.mpr ⟨inCache, ?_⟩
          rw [key]
          exact injective.ne same
        by_cases stays : entry ∈ history.cache.kept config (hashText text)
        · exact .inl ⟨entry, List.mem_append_left _ stays, key⟩
        · obtain ⟨full, rest, others, left⟩ := TagCache.evicted member stays
          refine .inr (.inr (full.trans ?_))
          exact recent.made_way injective others key touch
      · exact .inr gone

theorem Recent.clear (notes : List CacheNote) (clock : Nat) :
    Recent hashText config { cache := [], clock := clock, notes := .cleared :: notes } where
  stored := by
    intro entry absent
    cases absent
  distinct := List.nodup_nil
  ordered := List.Pairwise.nil
  small := Nat.zero_le _
  kept := by
    intro text tags time absent
    cases absent

theorem Recent.step (injective : Function.Injective hashText) (positive : 1 ≤ config.maxSize)
    (recent : Recent hashText config history) (call : CacheCall) :
    Recent hashText config (cacheStep hashText config history call) := by
  cases call with
  | get text passed =>
    have later := Nat.le_add_right history.clock passed
    rcases history.cache.get_cases config (history.clock + passed) (hashText text) with
      ⟨_, missed⟩ | ⟨entry, member, own, ⟨old, missed⟩ | ⟨_, hit⟩⟩
    · simp only [cacheStep, CacheHistory.lookup, missed, Option.elim_none]
      exact recent.miss later
    · simp only [cacheStep, CacheHistory.lookup, missed, Option.elim_none]
      exact recent.expire injective later member own old
    · simp only [cacheStep, CacheHistory.lookup, hit, Option.elim_some]
      exact recent.hit injective later member own
  | set text tags passed =>
    exact recent.store injective positive (Nat.le_add_right history.clock passed) tags
  | clear => exact Recent.clear history.notes history.clock

theorem recent_run (injective : Function.Injective hashText) (positive : 1 ≤ config.maxSize)
    (calls : List CacheCall) :
    Recent hashText config (run (cacheStep hashText config) {} calls) := by
  apply run_invariant (Recent hashText config)
  · intro history call recent
    exact recent.step injective positive call
  · exact Recent.start

theorem Recent.hit_last (injective : Function.Injective hashText)
    (recent : Recent hashText config history) {passed : Nat} {tags : List TagResult}
    (hit : (history.lookup hashText config text passed).1 = some tags) :
    ∃ time, lastStored text history.notes = some (tags, time) ∧
      history.clock + passed - time ≤ config.ttlMs := by
  rcases history.cache.get_cases config (history.clock + passed) (hashText text) with
    ⟨_, missed⟩ | ⟨entry, member, own, ⟨_, missed⟩ | ⟨young, found⟩⟩
  · rw [CacheHistory.lookup, missed] at hit
    cases hit
  · rw [CacheHistory.lookup, missed] at hit
    cases hit
  · rw [CacheHistory.lookup, found] at hit
    cases hit
    obtain ⟨other, key, last⟩ := recent.stored entry member
    rw [← injective (own.symm.trans key)] at last
    exact ⟨entry.createdAt, last, young⟩

theorem Recent.hits (injective : Function.Injective hashText)
    (recent : Recent hashText config history) {passed time : Nat} {tags : List TagResult}
    (last : lastStored text history.notes = some (tags, time))
    (young : history.clock + passed - time ≤ config.ttlMs)
    (few : (touchedSince text history.notes).dedup.length < config.maxSize) :
    (history.lookup hashText config text passed).1 = some tags := by
  have here : IsStored hashText history.cache text := by
    rcases recent.kept text tags time last with here | old | gone
    · exact here
    · omega
    · omega
  obtain ⟨stored, inCache, storedKey⟩ := here
  rcases history.cache.get_cases config (history.clock + passed) (hashText text) with
    ⟨absent, _⟩ | ⟨entry, member, own, aged⟩
  · exact absurd storedKey (absent stored inCache)
  · obtain ⟨other, key, lastOther⟩ := recent.stored entry member
    rw [← injective (own.symm.trans key), last] at lastOther
    cases lastOther
    rcases aged with ⟨old, _⟩ | ⟨_, found⟩
    · omega
    · rw [CacheHistory.lookup, found]

theorem Recent.evicts (recent : Recent hashText config history)
    {gone : TagCacheEntry} (member : gone ∈ history.cache) (other : gone.key ≠ hashText text)
    (missing : gone ∉ history.cache.kept config (hashText text)) :
    (∀ entry ∈ history.cache, entry.key ≠ hashText text) ∧
      ∃ goneText, gone.key = hashText goneText ∧ ∀ stays ∈ history.cache, stays ≠ gone →
        ∃ staysText, stays.key = hashText staysText ∧
          staysText ∈ touchedSince goneText history.notes := by
  obtain ⟨full, rest, others, _⟩ :=
    TagCache.evicted (TagCache.mem_without.mpr ⟨member, other⟩) missing
  have absent : ∀ entry ∈ history.cache, entry.key ≠ hashText text := by
    intro entry inCache same
    have shorter := TagCache.without_shorter inCache same
    have small := recent.small
    omega
  have all : history.cache = gone :: rest := by
    rw [← others, TagCache.without, List.filter_eq_self.mpr]
    intro entry inCache
    simpa using absent entry inCache
  obtain ⟨goneText, goneKey, _⟩ := recent.stored gone member
  refine ⟨absent, goneText, goneKey, ?_⟩
  intro stays inCache differ
  obtain ⟨staysText, staysKey, _⟩ := recent.stored stays inCache
  have ordered := recent.ordered
  rw [all] at ordered inCache
  have inRest : stays ∈ rest := (List.mem_cons.mp inCache).resolve_left differ
  exact ⟨staysText, staysKey,
    List.rel_of_pairwise_cons ordered inRest goneText staysText goneKey staysKey⟩

end

end

/-- The cache holds no more than it may, answers with what was last stored, in time and since it
was cleared, knows what was stored in time unless as many other texts were touched since, and drops
what was touched least recently. -/
theorem tagCache_leastRecentlyUsed (hashText : Text → Text) (injective : Function.Injective hashText)
    (config : TaggerConfig) (positive : 1 ≤ config.maxSize) (calls : List CacheCall)
    (history : CacheHistory) (reached : history = run (cacheStep hashText config) {} calls) :
    history.cache.length ≤ config.maxSize ∧
    (∀ text passed tags, (history.lookup hashText config text passed).1 = some tags →
      ∃ time, lastStored text history.notes = some (tags, time) ∧
        history.clock + passed - time ≤ config.ttlMs) ∧
    (∀ text passed tags time, lastStored text history.notes = some (tags, time) →
      history.clock + passed - time ≤ config.ttlMs →
        (touchedSince text history.notes).dedup.length < config.maxSize →
          (history.lookup hashText config text passed).1 = some tags) ∧
    ∀ text tags passed, ∀ gone ∈ history.cache, gone.key ≠ hashText text →
      gone ∉ (cacheStep hashText config history (.set text tags passed)).cache →
        (∀ entry ∈ history.cache, entry.key ≠ hashText text) ∧
          ∃ goneText, gone.key = hashText goneText ∧ ∀ stays ∈ history.cache, stays ≠ gone →
            ∃ staysText, stays.key = hashText staysText ∧
              staysText ∈ touchedSince goneText history.notes := by
  have recent : Recent hashText config history := reached ▸ recent_run injective positive calls
  refine ⟨recent.small, ?_, ?_, ?_⟩
  · intro text passed tags hit
    exact recent.hit_last injective hit
  · intro text passed tags time last young few
    exact recent.hits injective last young few
  · intro text tags passed gone member other missing
    apply recent.evicts member other
    intro stays
    exact missing (List.mem_append_left _ stays)

def threeTexts : List CacheCall :=
  [.set ['a'] [] 0, .set ['b'] [] 1, .get ['a'] 1, .set ['c'] [] 1]

theorem threeTexts_kept :
    ((run (cacheStep id { maxSize := 2 }) {} threeTexts).lookup id { maxSize := 2 } ['a'] 1).1 =
      some [] := by
  obtain ⟨_, _, hits, _⟩ := tagCache_leastRecentlyUsed id Function.injective_id { maxSize := 2 }
    (by decide) threeTexts _ rfl
  exact hits ['a'] 1 [] 0 (by decide) (by decide) (by decide)

end StoryEngine.Pipeline
