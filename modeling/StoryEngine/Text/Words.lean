import StoryEngine.Text.Basic

namespace StoryEngine.Text

/-! # Words

A text falls into words at its whitespace.  They are counted where they begin, so that the count of
a text is the sum of the counts of its parts, each read after whitespace or after a word.
-/

/-- The words that begin in a text; `apart` says whether it is read after whitespace. -/
def wordsFrom (apart : Bool) : Text → Nat
  | [] => 0
  | c :: rest =>
    if isSpace c then wordsFrom true rest else (if apart then 1 else 0) + wordsFrom false rest

def endsApart (apart : Bool) : Text → Bool
  | [] => apart
  | c :: rest => endsApart (isSpace c) rest

theorem wordsFrom_append (apart : Bool) (text later : Text) :
    wordsFrom apart (text ++ later) =
      wordsFrom apart text + wordsFrom (endsApart apart text) later := by
  induction text generalizing apart with
  | nil => simp [wordsFrom, endsApart]
  | cons c rest ih =>
    rw [List.cons_append, wordsFrom, wordsFrom, endsApart]
    cases space : isSpace c with
    | true => simpa using ih true
    | false =>
      have onward := ih false
      simp only [Bool.false_eq_true, if_false]
      omega

theorem isSpace_digit {c : Char} (digit : c.isDigit = true) : isSpace c = false := by
  simp only [Char.isDigit, Bool.and_eq_true, decide_eq_true_eq] at digit
  have lower : 48 ≤ c.toNat := digit.1
  have upper : c.toNat ≤ 57 := digit.2
  simp only [isSpace, Bool.or_eq_false_iff, Bool.and_eq_false_iff, decide_eq_false_iff_not,
    beq_eq_false_iff_ne]
  omega

structure Solid (text : Text) : Prop where
  occupied : text ≠ []
  unbroken : ∀ c ∈ text, isSpace c = false

instance : DecidablePred Solid := fun text =>
  decidable_of_iff (text ≠ [] ∧ (text.all fun c => !isSpace c) = true)
    ⟨fun both => ⟨both.1, by simpa using both.2⟩, fun solid => ⟨solid.1, by simpa using solid.2⟩⟩

theorem Solid.append {text later : Text} (solid : Solid text) (more : Solid later) :
    Solid (text ++ later) := by
  refine ⟨fun empty => solid.occupied (List.append_eq_nil_iff.mp empty).1, fun c member => ?_⟩
  cases List.mem_append.mp member with
  | inl inText => exact solid.unbroken c inText
  | inr inLater => exact more.unbroken c inLater

theorem wordsFrom_unbroken {text : Text} (unbroken : ∀ c ∈ text, isSpace c = false) :
    wordsFrom false text = 0 := by
  induction text with
  | nil => rfl
  | cons c rest ih =>
    obtain ⟨first, later⟩ := List.forall_mem_cons.mp unbroken
    simp [wordsFrom, first, ih later]

theorem Solid.wordsFrom {text : Text} (solid : Solid text) (apart : Bool) :
    wordsFrom apart text = if apart then 1 else 0 := by
  cases text with
  | nil => exact absurd rfl solid.occupied
  | cons c rest =>
    obtain ⟨first, later⟩ := List.forall_mem_cons.mp solid.unbroken
    simp [Text.wordsFrom, first, wordsFrom_unbroken later]

theorem Solid.endsApart {text : Text} (solid : Solid text) (apart : Bool) :
    endsApart apart text = false := by
  obtain ⟨occupied, unbroken⟩ := solid
  induction text generalizing apart with
  | nil => exact absurd rfl occupied
  | cons c rest ih =>
    obtain ⟨first, later⟩ := List.forall_mem_cons.mp unbroken
    rw [Text.endsApart, first]
    cases rest with
    | nil => rfl
    | cons next others => exact ih false (List.cons_ne_nil next others) later

theorem wordsFrom_collapseRuns {inside apart : Bool} (agree : inside = true → apart = true)
    (text : Text) : wordsFrom apart (collapseRuns isSpace inside text) = wordsFrom apart text := by
  induction text generalizing inside apart with
  | nil => rfl
  | cons c rest ih =>
    rw [collapseRuns]
    cases space : isSpace c with
    | false =>
      have onward := @ih false false (fun same => same)
      simp [wordsFrom, space, onward]
    | true =>
      have onward := @ih true true (fun _ => rfl)
      cases inside with
      | false => simp [wordsFrom, space, onward]
      | true =>
        rw [agree rfl]
        simp [wordsFrom, space, onward]

theorem splitAt_words (text : Text) :
    ∃ part parts, splitAt isSpace text = part :: parts ∧
      (parts.filter (!·.isEmpty)).length = wordsFrom false text ∧
      ((part :: parts).filter (!·.isEmpty)).length = wordsFrom true text := by
  induction text with
  | nil => exact ⟨[], [], rfl, rfl, rfl⟩
  | cons c rest ih =>
    obtain ⟨part, parts, split, continued, fresh⟩ := ih
    cases space : isSpace c with
    | true =>
      refine ⟨[], part :: parts, ?_, ?_, ?_⟩
      · simp [splitAt, space, split]
      · simpa [wordsFrom, space] using fresh
      · simpa [wordsFrom, space] using fresh
    | false =>
      refine ⟨c :: part, parts, ?_, ?_, ?_⟩
      · simp [splitAt, space, split]
      · simpa [wordsFrom, space] using continued
      · simp [wordsFrom, space, continued, Nat.add_comm]

def words (text : Text) : List Text := (splitSpaces text).filter (!·.isEmpty)

theorem words_length (text : Text) : (words text).length = wordsFrom true text := by
  obtain ⟨part, parts, split, _, fresh⟩ := splitAt_words (collapseRuns isSpace false text)
  have same := @wordsFrom_collapseRuns false true (fun _ => rfl) text
  rw [words, splitSpaces, split, fresh, same]

theorem splitAt_flatten (separates : Char → Bool) (text : Text) :
    (splitAt separates text).flatten = text.filter (!separates ·) := by
  induction text with
  | nil => rfl
  | cons c rest ih =>
    rw [splitAt]
    cases separator : separates c with
    | true => simp [separator, ih]
    | false =>
      simp only [Bool.false_eq_true, if_false]
      cases split : splitAt separates rest with
      | nil =>
        rw [split, List.flatten_nil] at ih
        simp [separator, ← ih]
      | cons part parts =>
        rw [split] at ih
        simp [separator, ← ih]

theorem filter_collapseRuns (inside : Bool) (text : Text) :
    (collapseRuns isSpace inside text).filter (!isSpace ·) = text.filter (!isSpace ·) := by
  induction text generalizing inside with
  | nil => rfl
  | cons c rest ih =>
    rw [collapseRuns]
    cases space : isSpace c with
    | false => simp [space, ih]
    | true =>
      cases inside with
      | false => simp [space, ih]
      | true => simp [space, ih]

theorem flatten_filter_isEmpty (parts : List Text) :
    (parts.filter (!·.isEmpty)).flatten = parts.flatten := by
  induction parts with
  | nil => rfl
  | cons part rest ih =>
    cases part with
    | nil => simpa using ih
    | cons c others => simp [ih]

theorem words_flatten (text : Text) : (words text).flatten = text.filter (!isSpace ·) := by
  rw [words, flatten_filter_isEmpty, splitSpaces, splitAt_flatten, filter_collapseRuns]

theorem words_eq_nil {text : Text} (blank : ∀ c ∈ text, isSpace c = true) : words text = [] := by
  have none : text.filter (!isSpace ·) = [] := by
    rw [List.filter_eq_nil_iff]
    intro c member
    simp [blank c member]
  have empty := words_flatten text
  rw [none] at empty
  cases split : words text with
  | nil => rfl
  | cons word rest =>
    have inWords : word ∈ words text := split ▸ List.mem_cons_self
    have solid := List.of_mem_filter inWords
    rw [split, List.flatten_cons] at empty
    rw [(List.append_eq_nil_iff.mp empty).1] at solid
    cases solid

end StoryEngine.Text
