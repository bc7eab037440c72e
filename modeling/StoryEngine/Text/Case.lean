import StoryEngine.Text.Basic

namespace StoryEngine

/-! # Letter case

The Unicode case tables belong to the JavaScript engine.  They enter as a
parameter; `CaseMapping.Lawful` lists the facts of the Unicode standard that
proofs rely on, and `CaseMapping.ascii` is the restriction to ASCII text. -/

/-- `String.prototype.toLowerCase` and `String.prototype.toUpperCase`. -/
structure CaseMapping where
  toLowerCase : Text → Text
  toUpperCase : Text → Text

namespace CaseMapping

/-- ECMAScript `Canonicalize` for the `i` flag without the `u` flag: the simple
upper case of a code unit, unless it leaves the plane or falls into ASCII. -/
def canonicalize (cases : CaseMapping) (c : Char) : Char :=
  match cases.toUpperCase [c] with
  | [upper] =>
    if 0x10000 ≤ c.toNat ∨ 0x10000 ≤ upper.toNat ∨ (128 ≤ c.toNat ∧ upper.toNat < 128) then c
    else upper
  | _ => c

def SameIgnoringCase (cases : CaseMapping) (left right : Text) : Prop :=
  cases.toLowerCase left = cases.toLowerCase right

/-- The Unicode facts used in proofs.  Lower casing is character by character
except for the two lower-case forms of the Greek sigma, which share their
upper case; letters and digits are those of the general categories L and N. -/
structure Lawful (cases : CaseMapping) (isAlphanumeric : Char → Bool) : Prop where
  upper_ascii : ∀ c : Char, c.toNat < 128 → cases.toUpperCase [c] = [c.toUpper]
  lower_append : ∀ left right : Text,
    (cases.toLowerCase (left ++ right)).map cases.canonicalize =
      (cases.toLowerCase left).map cases.canonicalize ++
        (cases.toLowerCase right).map cases.canonicalize
  lower_nonempty : ∀ c : Char, cases.toLowerCase [c] ≠ []
  lower_word : ∀ c : Char, isAlphanumeric c = false → c ≠ '_' →
    ∀ d ∈ cases.toLowerCase [c], Text.isWordChar d = false
  space_symbol : ∀ c : Char, Text.isSpace c = true → isAlphanumeric c = false

def ascii : CaseMapping where
  toLowerCase text := text.map Char.toLower
  toUpperCase text := text.map Char.toUpper

private theorem isWordChar_toUpper_ascii :
    ∀ code < 128, Text.isWordChar (Char.ofNat code).toUpper = Text.isWordChar (Char.ofNat code) := by
  decide

private theorem isWordChar_wide {c : Char} (wide : 128 ≤ c.toNat) : Text.isWordChar c = false := by
  simp only [Text.isWordChar, Bool.or_eq_false_iff, Bool.and_eq_false_iff, decide_eq_false_iff_not,
    beq_eq_false_iff_ne]
  omega

theorem Lawful.isWordChar_canonicalize {cases : CaseMapping} {isAlphanumeric : Char → Bool}
    (lawful : cases.Lawful isAlphanumeric) (c : Char) :
    Text.isWordChar (cases.canonicalize c) = Text.isWordChar c := by
  by_cases narrow : c.toNat < 128
  · have upper := lawful.upper_ascii c narrow
    have same := isWordChar_toUpper_ascii c.toNat narrow
    rw [Char.ofNat_toNat] at same
    simp only [canonicalize, upper]
    split
    · rfl
    · exact same
  · have wide : 128 ≤ c.toNat := by omega
    rw [isWordChar_wide wide]
    simp only [canonicalize]
    split
    · split
      · exact isWordChar_wide wide
      · exact isWordChar_wide (by omega)
    · exact isWordChar_wide wide

private theorem ascii_word_alphanumeric :
    ∀ code < 128, (Char.ofNat code).isAlphanum = false → Char.ofNat code ≠ '_' →
      Text.isWordChar (Char.ofNat code).toLower = false := by
  decide

theorem toLower_wide {c : Char} (wide : 128 ≤ c.toNat) : c.toLower = c := by
  delta Char.toLower
  split
  · rename_i upper
    have bound : c.toNat ≤ 90 := upper.2
    omega
  · rfl

private theorem isAlphanum_narrow {c : Char} (alphanumeric : c.isAlphanum = true) :
    c.toNat < 128 := by
  have ranges : ((decide (c.val ≥ 65 ∧ c.val ≤ 90) ||
      decide (c.val ≥ 97) && decide (c.val ≤ 122)) ||
        decide (c.val ≥ 48) && decide (c.val ≤ 57)) = true := alphanumeric
  simp only [Bool.or_eq_true, Bool.and_eq_true, decide_eq_true_eq] at ranges
  rcases ranges with (⟨_, below⟩ | ⟨_, below⟩) | ⟨_, below⟩
  · have bound : c.toNat ≤ 90 := below
    omega
  · have bound : c.toNat ≤ 122 := below
    omega
  · have bound : c.toNat ≤ 57 := below
    omega

theorem ascii_lawful : ascii.Lawful Char.isAlphanum where
  upper_ascii _ _ := rfl
  lower_append left right := by simp [ascii]
  lower_nonempty c := by simp [ascii]
  lower_word c symbol notUnderscore d member := by
    have same : d = c.toLower := by simpa [ascii] using member
    subst d
    by_cases narrow : c.toNat < 128
    · have table := ascii_word_alphanumeric c.toNat narrow
      rw [Char.ofNat_toNat] at table
      exact table symbol notUnderscore
    · rw [toLower_wide (by omega)]
      exact isWordChar_wide (by omega)
  space_symbol c space := by
    by_contra alphanumeric
    have narrow := isAlphanum_narrow (Bool.not_eq_false _ ▸ alphanumeric)
    have table : ∀ code < 128, Text.isSpace (Char.ofNat code) = true →
        (Char.ofNat code).isAlphanum = false := by decide
    have symbol := table c.toNat narrow
    rw [Char.ofNat_toNat] at symbol
    exact alphanumeric (symbol space)

/-! ## Letters of lower-cased texts -/

/-- The lower case as patterns that ignore letter case read it. -/
def lowered (cases : CaseMapping) (text : Text) : Text :=
  (cases.toLowerCase text).map cases.canonicalize

section

variable {cases : CaseMapping} {isAlphanumeric : Char → Bool}

theorem Lawful.lower_empty (lawful : cases.Lawful isAlphanumeric) : cases.toLowerCase [] = [] := by
  have lengths := congrArg List.length (lawful.lower_append [] [])
  simp only [List.append_nil, List.length_map, List.length_append] at lengths
  exact List.eq_nil_of_length_eq_zero (by omega)

theorem Lawful.lower_flatMap (lawful : cases.Lawful isAlphanumeric) (text : Text) :
    cases.lowered text = text.flatMap fun c => cases.lowered [c] := by
  induction text with
  | nil =>
    rw [lowered, lawful.lower_empty]
    rfl
  | cons c rest ih =>
    have parts := lawful.lower_append [c] rest
    rw [List.flatMap_cons, ← ih]
    exact parts

end

end CaseMapping

namespace Text

section

variable {f : Char → Text}

theorem flatMap_place (text : Text) : ∀ {left rest : Text}, text.flatMap f = left ++ rest →
    rest ≠ [] → ∃ before c after opening, text = before ++ c :: after ∧
      left = before.flatMap f ++ opening ∧ f c ++ after.flatMap f = opening ++ rest ∧
        opening.length < (f c).length := by
  induction text with
  | nil =>
    intro left rest whole some
    exact absurd (List.append_eq_nil_iff.mp whole.symm).2 some
  | cons c text ih =>
    intro left rest whole some
    rw [List.flatMap_cons] at whole
    by_cases inside : left.length < (f c).length
    · exact ⟨[], c, text, left, rfl, rfl, whole, inside⟩
    · obtain ⟨beyond, rfl⟩ : f c <+: left :=
        List.prefix_of_prefix_length_le ⟨_, whole⟩ ⟨_, rfl⟩ (Nat.not_lt.mp inside)
      rw [List.append_assoc] at whole
      obtain ⟨before, d, after, opening, rfl, rfl, onward, less⟩ :=
        ih (List.append_cancel_left whole) some
      refine ⟨c :: before, d, after, opening, rfl, ?_, onward, less⟩
      rw [List.flatMap_cons, List.append_assoc]

/-- A part of the images comes from a stretch of the text whose first and last characters have a
share in it. -/
theorem flatMap_stretch {text left wanted right : Text}
    (whole : text.flatMap f = left ++ (wanted ++ right)) (solid : wanted ≠ []) :
    ∃ before found after opening closing, text = before ++ (found ++ after) ∧
      left = before.flatMap f ++ opening ∧
      found.flatMap f = opening ++ (wanted ++ closing) ∧
      right = closing ++ after.flatMap f ∧
      (∀ c ∈ found.head?, opening.length < (f c).length) ∧
      ∀ c ∈ found.getLast?, closing.length < (f c).length := by
  obtain ⟨before, c, rest, opening, rfl, isLeft, onward, first⟩ :=
    flatMap_place text whole (List.append_ne_nil_of_left_ne_nil solid right)
  obtain ⟨front, last, rfl⟩ := List.eq_nil_or_concat' wanted |>.resolve_left solid
  have again : (c :: rest).flatMap f = (opening ++ front) ++ (last :: right) := by
    rw [List.flatMap_cons, onward]
    simp
  obtain ⟨inner, d, after, ending, split, isFront, tail, less⟩ :=
    flatMap_place (c :: rest) again (List.cons_ne_nil _ _)
  obtain ⟨closing, image, rfl⟩ : ∃ closing, f d = ending ++ last :: closing ∧
      right = closing ++ after.flatMap f := by
    rcases List.append_eq_append_iff.mp tail with ⟨beyond, isEnding, _⟩ | ⟨share, isImage, others⟩
    · have lengths := congrArg List.length isEnding
      rw [List.length_append] at lengths
      omega
    · cases share with
      | nil =>
        rw [List.append_nil] at isImage
        rw [isImage] at less
        exact absurd less (Nat.lt_irrefl _)
      | cons e closing =>
        obtain ⟨rfl, isRight⟩ := List.cons.inj others
        exact ⟨closing, isImage, isRight⟩
  refine ⟨before, inner ++ [d], after, opening, closing, ?_, isLeft, ?_, rfl, ?_, ?_⟩
  · rw [split]
    simp
  · rw [List.flatMap_append, List.flatMap_singleton, image, ← List.append_assoc, ← isFront]
    simp
  · intro e isFirst
    have same : (inner ++ [d]).head? = some c := by
      cases inner with
      | nil => exact congrArg some (List.cons.inj split).1.symm
      | cons e inner => exact congrArg some (List.cons.inj split).1.symm
    obtain rfl := Option.some.inj (same.symm.trans isFirst)
    exact first
  · intro e isLast
    rw [List.getLast?_append] at isLast
    obtain rfl : d = e := by simpa using isLast
    rw [image]
    simp
    omega

end

end Text

end StoryEngine
