import StoryEngine.Stories.TranscriptMerger

namespace StoryEngine.Stories

open Schema

/-! # The texts in a merged document

Every call but the first is announced by a line of dashes and a number sign.  So the document
tells the texts of its calls apart, once it is known how many number signs each has.
-/

section

variable {db : Database} {entries : List CallTranscriptEntry} {options : MergedTranscriptOptions}
  {change : CallTranscriptEntry → CallTranscriptEntry}

theorem takeWhile_sign {mark rest : Text} (clean : '#' ∉ mark) :
    (mark ++ '#' :: rest).takeWhile (· != '#') = mark := by
  rw [List.takeWhile_append_of_pos]
  · simp
  · intro c member
    simpa using fun same : c = '#' => clean (same ▸ member)

theorem append_sign_inj {left right mark rest others : Text} (clean : '#' ∉ mark)
    (counts : left.count '#' = right.count '#')
    (same : left ++ (mark ++ '#' :: rest) = right ++ (mark ++ '#' :: others)) : left = right := by
  have longer {shorter more first second : Text} (signs : more.count '#' = 0)
      (equal : mark ++ '#' :: first = more ++ (mark ++ '#' :: second)) :
      shorter = shorter ++ more := by
    have unsigned : '#' ∉ more ++ mark := by
      simpa [clean] using List.count_eq_zero.mp signs
    have marks := congrArg (List.takeWhile (· != '#')) equal
    rw [← List.append_assoc, takeWhile_sign clean, takeWhile_sign unsigned] at marks
    have empty : more = [] := by
      have widths := congrArg List.length marks
      rw [List.length_append] at widths
      exact List.eq_nil_of_length_eq_zero (by omega)
    rw [empty, List.append_nil]
  rcases List.append_eq_append_iff.mp same with ⟨more, rfl, equal⟩ | ⟨more, rfl, equal⟩
  · exact longer (by simpa using counts) equal
  · exact (longer (by simpa using counts) equal).symm

theorem join_cons {separator part : Text} {parts : List Text} (some : parts ≠ []) :
    Text.join separator (part :: parts) = part ++ separator ++ Text.join separator parts := by
  cases parts with
  | nil => exact absurd rfl some
  | cons next rest => rfl

theorem join_append {separator : Text} {first second : List Text} (some : first ≠ [])
    (more : second ≠ []) :
    Text.join separator (first ++ second) =
      Text.join separator first ++ separator ++ Text.join separator second := by
  induction first with
  | nil => exact absurd rfl some
  | cons part rest ih =>
    cases rest with
    | nil => exact join_cons more
    | cons next parts =>
      rw [List.cons_append, join_cons (by simp), ih (List.cons_ne_nil _ _),
        join_cons (List.cons_ne_nil _ _)]
      simp only [List.append_assoc]

structure KeepsHeader (change : CallTranscriptEntry → CallTranscriptEntry) : Prop where
  callId : ∀ entry, (change entry).callId = entry.callId
  occurredAt : ∀ entry, (change entry).occurredAt = entry.occurredAt
  wordCount : ∀ entry, (change entry).wordCount = entry.wordCount
  header : ∀ entry, entryHeader (change entry) = entryHeader entry
  participants : ∀ entry, participantSections (change entry) = participantSections entry

def afterHeader (entry : CallTranscriptEntry) (rest : List CallTranscriptEntry) : Text :=
  entry.fullText ++ ['\n'] ++
    if rest.isEmpty then [] else ['\n'] ++ Text.join ['\n'] (rest.flatMap entrySections)

theorem join_entrySections (entry : CallTranscriptEntry) (rest : List CallTranscriptEntry) :
    Text.join ['\n'] ((entry :: rest).flatMap entrySections) =
      Text.join ['\n'] (entryHeader entry ++ participantSections entry) ++ ['\n'] ++
        afterHeader entry rest := by
  have head : entryHeader entry ++ participantSections entry ≠ [] := by simp [entryHeader]
  cases rest with
  | nil =>
    simp only [List.flatMap_cons, List.flatMap_nil, List.append_nil, entrySections, afterHeader]
    rw [join_append head (by simp)]
    simp [Text.join]
  | cons next others =>
    have more : (next :: others).flatMap entrySections ≠ [] := by
      simp [entrySections, entryHeader]
    rw [List.flatMap_cons, entrySections, List.append_assoc, join_append head (by simp),
      join_append (by simp) more]
    simp [Text.join, afterHeader]

theorem join_entrySections_mark (entry : CallTranscriptEntry) (rest : List CallTranscriptEntry) :
    ∃ later, Text.join ['\n'] ((entry :: rest).flatMap entrySections) =
      ("---\n\n" : String).toList ++ '#' :: later := by
  have begins (tail : List Text) (some : tail ≠ []) : ∃ later,
      Text.join ['\n'] (entryHeader entry ++ tail) =
        ("---\n\n" : String).toList ++ '#' :: later := by
    simp only [entryHeader, List.cons_append, List.nil_append]
    rw [join_cons (by simp), join_cons some]
    exact ⟨_, rfl⟩
  simp only [List.flatMap_cons, entrySections, List.append_assoc]
  exact begins _ (by simp)

theorem afterHeader_inj (keeps : KeepsHeader change)
    (counts : ∀ entry ∈ entries, (change entry).fullText.count '#' = entry.fullText.count '#')
    (same : Text.join ['\n'] ((entries.map change).flatMap entrySections) =
      Text.join ['\n'] (entries.flatMap entrySections)) :
    ∀ entry ∈ entries, (change entry).fullText = entry.fullText := by
  induction entries with
  | nil => simp
  | cons entry rest ih =>
    have signs := counts entry List.mem_cons_self
    rw [List.map_cons, join_entrySections, join_entrySections, keeps.header, keeps.participants]
      at same
    have texts := List.append_cancel_left same
    cases rest with
    | nil =>
      simp only [afterHeader, List.map_nil, List.isEmpty_nil, if_true, List.append_nil] at texts
      simpa using List.append_cancel_right texts
    | cons next others =>
      obtain ⟨later, isLater⟩ := join_entrySections_mark next others
      obtain ⟨changed, isChanged⟩ := join_entrySections_mark (change next) (others.map change)
      have marks : (change entry).fullText ++ (("\n\n---\n\n" : String).toList ++ '#' :: changed)
          = entry.fullText ++ (("\n\n---\n\n" : String).toList ++ '#' :: later) := by
        simpa [afterHeader, ← List.flatMap_cons, isLater, isChanged] using texts
      have first := append_sign_inj (by decide) signs marks
      have remaining : Text.join ['\n'] (((next :: others).map change).flatMap entrySections) =
          Text.join ['\n'] ((next :: others).flatMap entrySections) := by
        rw [first] at marks
        have equal := List.append_cancel_left marks
        rw [List.map_cons, isLater, isChanged]
        simpa using equal
      intro other member
      rcases List.mem_cons.mp member with rfl | inRest
      · exact first
      · exact ih (fun entry inside => counts entry (List.mem_cons_of_mem _ inside)) remaining
          other inRest

theorem documentHeader_map (keeps : KeepsHeader change) (entries : List CallTranscriptEntry) :
    documentHeader (entries.map change) = documentHeader entries := by
  have day (entry : Option CallTranscriptEntry) :
      ((entry.map change).map fun entry => isoDay entry.occurredAt) =
        entry.map fun entry => isoDay entry.occurredAt := by
    cases entry with
    | none => rfl
    | some entry => simp only [Option.map_some, keeps.occurredAt]
  simp only [documentHeader, List.length_map, List.head?_map, List.getLast?_map, day]

theorem buildMarkdown_map_eq_iff (keeps : KeepsHeader change)
    (counts : ∀ entry ∈ entries, (change entry).fullText.count '#' = entry.fullText.count '#') :
    buildMarkdown (entries.map change) = buildMarkdown entries ↔
      ∀ entry ∈ entries, (change entry).fullText = entry.fullText := by
  constructor
  · intro same
    cases entries with
    | nil => simp
    | cons entry rest =>
      apply afterHeader_inj keeps counts
      have some (first : CallTranscriptEntry) (others : List CallTranscriptEntry) :
          (first :: others).flatMap entrySections ≠ [] := by simp [entrySections, entryHeader]
      rw [buildMarkdown, buildMarkdown, documentHeader_map keeps, List.map_cons,
        join_cons (some _ _), join_cons (some _ _)] at same
      exact List.append_cancel_left same
  · intro texts
    have sections : ∀ entry ∈ entries, entrySections (change entry) = entrySections entry := by
      intro entry member
      simp only [entrySections, keeps.header, keeps.participants, texts entry member]
    rw [buildMarkdown, buildMarkdown, documentHeader_map keeps, List.flatMap_map,
      List.flatMap_congr sections]

theorem dropFirst_map (keeps : KeepsHeader change) (maxWords totalWords : Int)
    (boundary : Option Date) (entries : List CallTranscriptEntry) :
    dropFirst maxWords totalWords boundary (entries.map change) =
      ((dropFirst maxWords totalWords boundary entries).1.map change,
        (dropFirst maxWords totalWords boundary entries).2) := by
  induction entries generalizing totalWords boundary with
  | nil => rfl
  | cons first rest ih =>
    cases rest with
    | nil => rfl
    | cons second others =>
      have words : entryWords (change first) = entryWords first := by
        simp only [entryWords, keeps.wordCount]
      simp only [List.map_cons, dropFirst, words, keeps.occurredAt]
      split
      · exact ih _ _
      · rfl

theorem applyTruncation_map (keeps : KeepsHeader change) (entries : List CallTranscriptEntry)
    (maxWords : Int) (mode : TruncationMode) :
    applyTruncation (entries.map change) maxWords mode =
      { applyTruncation entries maxWords mode with
        included := (applyTruncation entries maxWords mode).included.map change } := by
  have words : (entries.map change).map entryWords = entries.map entryWords := by
    rw [List.map_map]
    apply List.map_congr_left
    intro entry _
    simp only [Function.comp_apply, entryWords, keeps.wordCount]
  simp only [applyTruncation, words]
  split
  · rfl
  · cases mode with
    | oldestFirst => simp only [dropFirst_map keeps]
    | newestFirst => simp only [← List.map_reverse, dropFirst_map keeps]

theorem dropFirst_subset (maxWords totalWords : Int) (boundary : Option Date)
    (entries : List CallTranscriptEntry) :
    (dropFirst maxWords totalWords boundary entries).1 ⊆ entries := by
  induction entries generalizing totalWords boundary with
  | nil => exact List.Subset.refl _
  | cons first rest ih =>
    cases rest with
    | nil => exact List.Subset.refl _
    | cons second others =>
      simp only [dropFirst]
      split
      · exact List.Subset.trans (ih _ _) (List.subset_cons_self _ _)
      · exact List.Subset.refl _

theorem applyTruncation_subset (entries : List CallTranscriptEntry) (maxWords : Int)
    (mode : TruncationMode) : (applyTruncation entries maxWords mode).included ⊆ entries := by
  simp only [applyTruncation]
  split
  · exact List.Subset.refl _
  · cases mode with
    | oldestFirst => exact dropFirst_subset _ _ _ _
    | newestFirst =>
      intro entry member
      exact List.mem_reverse.mp (dropFirst_subset _ _ _ _ (List.mem_reverse.mp member))

end

end StoryEngine.Stories
