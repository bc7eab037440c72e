import StoryEngine.Text.Basic

namespace StoryEngine.Text

/-! # Joined texts

Texts that are joined by a separator are not escaped for it.  Two lists that join to the same text
overrun each other: where they first differ, the part of one goes on with the separator where the part
of the other ends, and where they last differ, it does so read backwards.
-/

def joinRest (separator : Text) : List Text → Text
  | [] => []
  | part :: rest => separator ++ join separator (part :: rest)

theorem join_cons_rest (separator part : Text) (rest : List Text) :
    join separator (part :: rest) = part ++ joinRest separator rest := by
  cases rest with
  | nil => exact (List.append_nil part).symm
  | cons next rest => exact List.append_assoc part separator _

theorem join_eq_nil {separator : Text} {parts : List Text} (solid : ∀ part ∈ parts, part ≠ [])
    (empty : join separator parts = []) : parts = [] := by
  cases parts with
  | nil => rfl
  | cons part rest =>
    rw [join_cons_rest] at empty
    exact absurd (List.append_eq_nil_iff.mp empty).1 (solid part List.mem_cons_self)

theorem join_concat {separator last : Text} {parts : List Text} (nonempty : parts ≠ []) :
    join separator (parts ++ [last]) = join separator parts ++ separator ++ last := by
  induction parts with
  | nil => exact absurd rfl nonempty
  | cons part rest ih =>
    cases rest with
    | nil => rfl
    | cons next rest =>
      have later := ih (List.cons_ne_nil next rest)
      rw [List.cons_append, join_cons_rest, join_cons_rest, List.cons_append, joinRest, joinRest,
        ← List.cons_append, later]
      simp only [List.append_assoc]

def backwards (parts : List Text) : List Text := (parts.map List.reverse).reverse

theorem backwards_injective : Function.Injective backwards := by
  intro parts others same
  exact List.map_injective_iff.mpr List.reverse_injective (List.reverse_injective same)

theorem join_backwards (separator : Text) (parts : List Text) :
    join separator.reverse (backwards parts) = (join separator parts).reverse := by
  induction parts with
  | nil => rfl
  | cons part rest ih =>
    have step : backwards (part :: rest) = backwards rest ++ [part.reverse] := by
      rw [backwards, List.map_cons, List.reverse_cons, backwards]
    cases rest with
    | nil => rfl
    | cons next rest =>
      have nonempty : backwards (next :: rest) ≠ [] := by simp [backwards]
      rw [step, join_concat nonempty, ih, join_cons_rest separator part, joinRest]
      simp only [List.reverse_append, List.append_assoc]

/-- Where the lists first differ, the part of one goes on with the mark where that of the other ends. -/
def Overruns (mark : Char) : List Text → List Text → Prop
  | part :: rest, other :: others =>
    if part = other then Overruns mark rest others
    else part ++ [mark] <+: other ∨ other ++ [mark] <+: part
  | _, _ => False

instance (mark : Char) : (parts others : List Text) → Decidable (Overruns mark parts others)
  | part :: rest, other :: others =>
    have := instDecidableOverruns mark rest others
    inferInstanceAs (Decidable (if part = other then Overruns mark rest others
      else part ++ [mark] <+: other ∨ other ++ [mark] <+: part))
  | [], _ => isFalse fun overrun => by cases overrun
  | _ :: _, [] => isFalse fun overrun => by cases overrun

/-- They overrun each other from both ends. -/
def Shifts (mark : Char) (parts others : List Text) : Prop :=
  Overruns mark parts others ∧ Overruns mark (backwards parts) (backwards others)

instance (mark : Char) (parts others : List Text) : Decidable (Shifts mark parts others) :=
  inferInstanceAs (Decidable (_ ∧ _))

/-- Neither list joins to the beginning of what the other joins to for lack of parts. -/
def Comparable (parts others : List Text) : Prop :=
  parts.length = others.length ∨ (∀ part ∈ parts, part ≠ []) ∧ ∀ part ∈ others, part ≠ []

section

variable {mark : Char} {more part other : Text} {parts others rest : List Text}

theorem Comparable.tail (comparable : Comparable (part :: parts) (other :: others)) :
    Comparable parts others := by
  rcases comparable with length | ⟨solid, solidOthers⟩
  · exact .inl (Nat.succ.inj length)
  · exact .inr ⟨(List.forall_mem_cons.mp solid).2, (List.forall_mem_cons.mp solidOthers).2⟩

theorem Comparable.backwards (comparable : Comparable parts others) :
    Comparable (backwards parts) (backwards others) := by
  have reversed {parts : List Text} (solid : ∀ part ∈ parts, part ≠ []) :
      ∀ part ∈ Text.backwards parts, part ≠ [] := by
    intro part member
    obtain ⟨original, isOriginal, rfl⟩ := List.mem_map.mp (List.mem_reverse.mp member)
    exact fun empty => solid original isOriginal (List.reverse_eq_nil_iff.mp empty)
  rcases comparable with length | ⟨solid, solidOthers⟩
  · exact .inl (by simp [Text.backwards, length])
  · exact .inr ⟨reversed solid, reversed solidOthers⟩

theorem Comparable.join_rest (comparable : Comparable parts others)
    (same : joinRest (mark :: more) parts = joinRest (mark :: more) others) :
    join (mark :: more) parts = join (mark :: more) others := by
  cases parts with
  | nil =>
    cases others with
    | nil => rfl
    | cons other others => cases same
  | cons part rest =>
    cases others with
    | nil => cases same
    | cons other others => exact List.append_cancel_left same

theorem joinRest_start {between tail : Text} (solid : between ≠ [])
    (same : joinRest (mark :: more) rest = between ++ tail) : [mark] <+: between := by
  cases between with
  | nil => exact absurd rfl solid
  | cons c between =>
    cases rest with
    | nil => cases same
    | cons next rest =>
      obtain ⟨rfl, _⟩ := List.cons.inj same
      exact ⟨between, rfl⟩

theorem overruns_of_join (comparable : Comparable parts others) (different : parts ≠ others)
    (same : join (mark :: more) parts = join (mark :: more) others) :
    Overruns mark parts others := by
  induction parts generalizing others with
  | nil =>
    cases others with
    | nil => exact absurd rfl different
    | cons other others =>
      rcases comparable with length | ⟨_, solid⟩
      · cases length
      · cases join_eq_nil solid same.symm
  | cons part rest ih =>
    cases others with
    | nil =>
      rcases comparable with length | ⟨solid, _⟩
      · cases length
      · cases join_eq_nil solid same
    | cons other others =>
      rw [join_cons_rest, join_cons_rest] at same
      by_cases equal : part = other
      · subst equal
        rw [Overruns, if_pos rfl]
        have later := comparable.tail.join_rest (List.append_cancel_left same)
        exact ih comparable.tail (fun rests => different (congrArg _ rests)) later
      · rw [Overruns, if_neg equal]
        rcases List.append_eq_append_iff.mp same with ⟨between, rfl, behind⟩ | ⟨between, rfl, behind⟩
        · have solid : between ≠ [] := by
            rintro rfl
            exact equal (List.append_nil part).symm
          exact .inl ((List.prefix_append_right_inj part).mpr (joinRest_start solid behind))
        · have solid : between ≠ [] := by
            rintro rfl
            exact equal (List.append_nil other)
          exact .inr ((List.prefix_append_right_inj other).mpr (joinRest_start solid behind))

/-- Lists that do not overrun each other from both ends are told apart when they are joined. -/
theorem eq_of_join (palindrome : (mark :: more).reverse = mark :: more)
    (comparable : Comparable parts others) (apart : ¬Shifts mark parts others)
    (same : join (mark :: more) parts = join (mark :: more) others) : parts = others := by
  by_contra different
  have reversed : join (mark :: more) (backwards parts) = join (mark :: more) (backwards others) := by
    rw [← palindrome, join_backwards, join_backwards, same]
  exact apart ⟨overruns_of_join comparable different same, overruns_of_join comparable.backwards
    (fun equal => different (backwards_injective equal)) reversed⟩

end

theorem splitAt_join {separator : Char} {parts : List Text} (nonempty : parts ≠ [])
    (free : ∀ part ∈ parts, separator ∉ part) :
    splitAt (· == separator) (join [separator] parts) = parts := by
  have single {part : Text} (clean : separator ∉ part) (later : Text) (split : List Text)
      (rest : splitAt (· == separator) later = [] :: split) :
      splitAt (· == separator) (part ++ later) = part :: split := by
    induction part with
    | nil => exact rest
    | cons c others ih =>
      obtain ⟨first, clean⟩ := not_or.mp (List.mem_cons.not.mp clean)
      have other : (c == separator) = false := beq_eq_false_iff_ne.mpr (Ne.symm first)
      rw [List.cons_append, splitAt]
      simp only [other, ih clean, Bool.false_eq_true, if_false]
  induction parts with
  | nil => exact absurd rfl nonempty
  | cons part rest ih =>
    obtain ⟨clean, cleanRest⟩ := List.forall_mem_cons.mp free
    rw [join_cons_rest]
    cases rest with
    | nil => exact single clean [] [] rfl
    | cons next others =>
      apply single clean
      rw [joinRest, List.singleton_append, splitAt, ih (List.cons_ne_nil next others) cleanRest]
      simp

end StoryEngine.Text
