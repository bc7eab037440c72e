import Mathlib.Algebra.GroupWithZero.Nat
import Mathlib.Data.List.Basic
import Mathlib.Data.List.DropRight
import Mathlib.Data.List.Infix

namespace StoryEngine

/-- JavaScript strings, read as sequences of Unicode characters.  Code-unit
lengths are recovered by `Text.length16`; unpaired surrogates do not occur. -/
abbrev Text := List Char

instance : Coe String Text := ⟨String.toList⟩

instance : LawfulBEq Text := List.instLawfulBEq

namespace Text

/-- `String.prototype.length`: the number of UTF-16 code units. -/
def length16 (text : Text) : Nat :=
  (text.map fun c => if c.toNat < 0x10000 then 1 else 2).sum

/-- The characters of `\s`, which are also those `trim` removes. -/
def isSpace (c : Char) : Bool :=
  let code := c.toNat
  (0x9 ≤ code && code ≤ 0xD) || code == 0x20 || code == 0xA0 || code == 0x1680 ||
    (0x2000 ≤ code && code ≤ 0x200A) || code == 0x2028 || code == 0x2029 ||
    code == 0x202F || code == 0x205F || code == 0x3000 || code == 0xFEFF

/-- The characters of `\w` (ASCII only without the `u` and `i` flags together). -/
def isWordChar (c : Char) : Bool :=
  let code := c.toNat
  (0x61 ≤ code && code ≤ 0x7A) || (0x41 ≤ code && code ≤ 0x5A) ||
    (0x30 ≤ code && code ≤ 0x39) || code == 0x5F

def trim (text : Text) : Text := (text.dropWhile isSpace).rdropWhile isSpace

/-- `separator.join`: the parts with the separator between each two. -/
def join (separator : Text) : List Text → Text
  | [] => []
  | [part] => part
  | part :: rest => part ++ separator ++ join separator rest

/-- `split` at every character that `separates` accepts. -/
def splitAt (separates : Char → Bool) : Text → List Text
  | [] => [[]]
  | c :: rest =>
    if separates c then [] :: splitAt separates rest
    else match splitAt separates rest with
      | [] => [[c]]
      | part :: parts => (c :: part) :: parts

/-- Keep only the first character of every maximal run that `runs` accepts;
`inside` says whether the previous character belonged to a run. -/
def collapseRuns (runs : Char → Bool) (inside : Bool) : Text → Text
  | [] => []
  | c :: rest =>
    if runs c then
      if inside then collapseRuns runs true rest else c :: collapseRuns runs true rest
    else c :: collapseRuns runs false rest

/-- `split(/\s+/)`. -/
def splitSpaces (text : Text) : List Text := splitAt isSpace (collapseRuns isSpace false text)

def startsWith (text beginning : Text) : Bool := beginning.isPrefixOf text

theorem trim_decomposition (text : Text) :
    ∃ leading trailing, text = leading ++ trim text ++ trailing ∧
      (∀ c ∈ leading, isSpace c = true) ∧ ∀ c ∈ trailing, isSpace c = true := by
  refine ⟨text.takeWhile isSpace, (text.dropWhile isSpace).rtakeWhile isSpace, ?_, ?_, ?_⟩
  · rw [List.append_assoc, trim, List.rdropWhile_append_rtakeWhile, List.takeWhile_append_dropWhile]
  · intro c member
    exact List.mem_takeWhile_imp member
  · intro c member
    exact List.mem_rtakeWhile_imp member

theorem trim_ne_nil {text : Text} {c : Char} (member : c ∈ text) (solid : isSpace c = false) :
    trim text ≠ [] := by
  intro empty
  obtain ⟨leading, trailing, parts, left, right⟩ := trim_decomposition text
  rw [empty, List.append_nil] at parts
  rw [parts] at member
  rcases List.mem_append.mp member with inLeading | inTrailing
  · rw [left c inLeading] at solid
    cases solid
  · rw [right c inTrailing] at solid
    cases solid

end Text

end StoryEngine
