import Mathlib.Algebra.Order.Field.Rat
import Mathlib.Data.Rat.Defs
import StoryEngine.Text.Basic

namespace StoryEngine.Schema

/-! # JSON columns -/

/-- A JSON value.  The names of the fields are compared with the source's own and with
each other only. -/
inductive Json where
  | null
  | bool (value : Bool)
  | number (value : ℚ)
  | string (value : Text)
  | array (items : List Json)
  | object (fields : List (String × Json))

namespace Json

mutual

def decEq : (left right : Json) → Decidable (left = right)
  | null, null => isTrue rfl
  | bool left, bool right =>
    if same : left = right then isTrue (congrArg bool same)
    else isFalse fun equal => same (by injection equal)
  | number left, number right =>
    if same : left = right then isTrue (congrArg number same)
    else isFalse fun equal => same (by injection equal)
  | string left, string right =>
    if same : left = right then isTrue (congrArg string same)
    else isFalse fun equal => same (by injection equal)
  | array left, array right =>
    match decEqItems left right with
    | isTrue same => isTrue (congrArg array same)
    | isFalse differ => isFalse fun equal => differ (by injection equal)
  | object left, object right =>
    match decEqFields left right with
    | isTrue same => isTrue (congrArg object same)
    | isFalse differ => isFalse fun equal => differ (by injection equal)
  | null, bool _ | null, number _ | null, string _ | null, array _ | null, object _
  | bool _, null | bool _, number _ | bool _, string _ | bool _, array _ | bool _, object _
  | number _, null | number _, bool _ | number _, string _ | number _, array _
  | number _, object _
  | string _, null | string _, bool _ | string _, number _ | string _, array _
  | string _, object _
  | array _, null | array _, bool _ | array _, number _ | array _, string _
  | array _, object _
  | object _, null | object _, bool _ | object _, number _ | object _, string _
  | object _, array _ => isFalse nofun

def decEqItems : (left right : List Json) → Decidable (left = right)
  | [], [] => isTrue rfl
  | [], _ :: _ | _ :: _, [] => isFalse nofun
  | first :: rest, other :: others =>
    match decEq first other, decEqItems rest others with
    | isTrue same, isTrue sameRest => isTrue (by rw [same, sameRest])
    | isFalse differ, _ => isFalse fun equal => differ (List.cons.inj equal).1
    | _, isFalse differ => isFalse fun equal => differ (List.cons.inj equal).2

def decEqFields : (left right : List (String × Json)) → Decidable (left = right)
  | [], [] => isTrue rfl
  | [], _ :: _ | _ :: _, [] => isFalse nofun
  | (key, value) :: rest, (otherKey, other) :: others =>
    if sameKey : key = otherKey then
      match decEq value other, decEqFields rest others with
      | isTrue same, isTrue sameRest => isTrue (by rw [sameKey, same, sameRest])
      | isFalse differ, _ =>
        isFalse fun equal => differ (Prod.mk.inj (List.cons.inj equal).1).2
      | _, isFalse differ => isFalse fun equal => differ (List.cons.inj equal).2
    else isFalse fun equal => sameKey (Prod.mk.inj (List.cons.inj equal).1).1

end

instance : DecidableEq Json := decEq

end Json

/-! ## JavaScript numbers

The finite numbers are exact rationals with one zero; what does not fit a rational is `NaN` or
infinite.
-/

inductive JsNumber where
  | nan
  | infinite (negative : Bool)
  | finite (value : ℚ)
deriving DecidableEq

namespace JsNumber

def ofNat (count : Nat) : JsNumber := .finite count

def add : JsNumber → JsNumber → JsNumber
  | .finite left, .finite right => .finite (left + right)
  | .infinite negative, .finite _ | .finite _, .infinite negative => .infinite negative
  | .infinite left, .infinite right => if left = right then .infinite left else .nan
  | .nan, _ | _, .nan => .nan

def neg : JsNumber → JsNumber
  | .finite value => .finite (-value)
  | .infinite negative => .infinite (!negative)
  | .nan => .nan

def sub (left right : JsNumber) : JsNumber := left.add right.neg

def mul : JsNumber → JsNumber → JsNumber
  | .finite left, .finite right => .finite (left * right)
  | .infinite negative, .finite value | .finite value, .infinite negative =>
    if value = 0 then .nan else .infinite (negative != decide (value < 0))
  | .infinite left, .infinite right => .infinite (left != right)
  | .nan, _ | _, .nan => .nan

def div : JsNumber → JsNumber → JsNumber
  | .finite left, .finite right =>
    if right = 0 then (if left = 0 then .nan else .infinite (decide (left < 0)))
    else .finite (left / right)
  | .infinite negative, .finite value => .infinite (negative != decide (value < 0))
  | .finite _, .infinite _ => .finite 0
  | .infinite _, .infinite _ => .nan
  | .nan, _ | _, .nan => .nan

def lt : JsNumber → JsNumber → Bool
  | .finite left, .finite right => decide (left < right)
  | .infinite negative, .finite _ => negative
  | .finite _, .infinite negative => !negative
  | .infinite left, .infinite right => left && !right
  | .nan, _ | _, .nan => false

def le : JsNumber → JsNumber → Bool
  | .finite left, .finite right => decide (left ≤ right)
  | .infinite negative, .finite _ => negative
  | .finite _, .infinite negative => !negative
  | .infinite left, .infinite right => left || !right
  | .nan, _ | _, .nan => false

/-- `Math.min` and `Math.max`. -/
def min : JsNumber → JsNumber → JsNumber
  | .nan, _ | _, .nan => .nan
  | left, right => if left.le right then left else right

def max : JsNumber → JsNumber → JsNumber
  | .nan, _ | _, .nan => .nan
  | left, right => if left.le right then right else left

/-- `reduce((s, n) => s + n, 0)`. -/
def sum (numbers : List JsNumber) : JsNumber := numbers.foldl add (.finite 0)

def IsFinite (number : JsNumber) : Prop := ∃ value : ℚ, number = .finite value

def InUnit (number : JsNumber) : Prop := ∃ value : ℚ, number = .finite value ∧ 0 ≤ value ∧ value ≤ 1

@[simp] theorem add_finite (left right : ℚ) :
    (finite left).add (finite right) = finite (left + right) := rfl

@[simp] theorem sub_finite (left right : ℚ) :
    (finite left).sub (finite right) = finite (left - right) := by
  simp [sub, neg, sub_eq_add_neg]

@[simp] theorem mul_finite (left right : ℚ) :
    (finite left).mul (finite right) = finite (left * right) := rfl

theorem div_finite (left : ℚ) {right : ℚ} (nonzero : right ≠ 0) :
    (finite left).div (finite right) = finite (left / right) := by
  simp [div, nonzero]

@[simp] theorem lt_finite (left right : ℚ) :
    (finite left).lt (finite right) = decide (left < right) := rfl

@[simp] theorem le_finite (left right : ℚ) :
    (finite left).le (finite right) = decide (left ≤ right) := rfl

@[simp] theorem min_finite (left right : ℚ) :
    (finite left).min (finite right) = finite (Min.min left right) := by
  simp only [min, le_finite, decide_eq_true_eq, min_def]
  split <;> rfl

@[simp] theorem max_finite (left right : ℚ) :
    (finite left).max (finite right) = finite (Max.max left right) := by
  simp only [max, le_finite, decide_eq_true_eq, max_def]
  split <;> rfl

@[simp] theorem sub_nan (number : JsNumber) : number.sub .nan = .nan := by
  cases number <;> rfl

@[simp] theorem nan_lt (number : JsNumber) : (nan).lt number = false := by
  cases number <;> rfl

theorem InUnit.isFinite {number : JsNumber} (inUnit : number.InUnit) : number.IsFinite := by
  obtain ⟨value, same, _⟩ := inUnit
  exact ⟨value, same⟩

theorem IsFinite.add {left right : JsNumber} (first : left.IsFinite) (second : right.IsFinite) :
    (left.add right).IsFinite := by
  obtain ⟨a, rfl⟩ := first
  obtain ⟨b, rfl⟩ := second
  exact ⟨a + b, rfl⟩

theorem IsFinite.sub {left right : JsNumber} (first : left.IsFinite) (second : right.IsFinite) :
    (left.sub right).IsFinite := by
  obtain ⟨a, rfl⟩ := first
  obtain ⟨b, rfl⟩ := second
  exact ⟨a - b, sub_finite a b⟩

theorem IsFinite.mul {left right : JsNumber} (first : left.IsFinite) (second : right.IsFinite) :
    (left.mul right).IsFinite := by
  obtain ⟨a, rfl⟩ := first
  obtain ⟨b, rfl⟩ := second
  exact ⟨a * b, rfl⟩

theorem IsFinite.div {left right : JsNumber} (first : left.IsFinite) (second : right.IsFinite)
    (nonzero : right ≠ .finite 0) : (left.div right).IsFinite := by
  obtain ⟨a, rfl⟩ := first
  obtain ⟨b, rfl⟩ := second
  exact ⟨a / b, div_finite a fun zero => nonzero (congrArg finite zero)⟩

theorem sum_isFinite {numbers : List JsNumber} (finite : ∀ number ∈ numbers, number.IsFinite) :
    (sum numbers).IsFinite := by
  have folded : ∀ total : JsNumber, total.IsFinite → (numbers.foldl JsNumber.add total).IsFinite := by
    induction numbers with
    | nil => exact fun _ kept => kept
    | cons first rest ih =>
      obtain ⟨atFirst, others⟩ := List.forall_mem_cons.mp finite
      exact fun total kept => ih others _ (kept.add atFirst)
  exact folded _ ⟨0, rfl⟩

theorem clamped_inUnit {number : JsNumber} :
    (max (finite 0) (min (finite 1) number)).InUnit ↔ number ≠ .nan := by
  constructor
  · rintro ⟨value, clamped, _, _⟩ rfl
    cases clamped
  · intro ordinary
    cases number with
    | nan => exact absurd rfl ordinary
    | infinite negative =>
      cases negative with
      | true => exact ⟨0, rfl, le_rfl, zero_le_one⟩
      | false => exact ⟨1, rfl, zero_le_one, le_rfl⟩
    | finite value =>
      rw [min_finite, max_finite]
      exact ⟨_, rfl, le_max_left _ _, max_le zero_le_one (min_le_left _ _)⟩

def ofDigits (radix : Nat) (digits : Text) : Nat :=
  digits.foldl (fun number digit => number * radix + digitValue digit) 0
where
  digitValue (digit : Char) : Nat :=
    if digit.isDigit then digit.toNat - '0'.toNat else digit.toLower.toNat - 'a'.toNat + 10

def ofRadix (radix : Nat) (isDigit : Char → Bool) (digits : Text) : JsNumber :=
  if digits ≠ [] ∧ digits.all isDigit then ofNat (ofDigits radix digits) else .nan

def readSign : Text → Bool × Text
  | '+' :: rest => (false, rest)
  | '-' :: rest => (true, rest)
  | text => (false, text)

def readExponent : Text → Option Int
  | [] => some 0
  | mark :: rest =>
    let (negative, digits) := readSign rest
    if (mark = 'e' ∨ mark = 'E') ∧ digits ≠ [] ∧ digits.all Char.isDigit then
      some (if negative then -(ofDigits 10 digits : Int) else ofDigits 10 digits)
    else none

def readFraction : Text → Text × Text
  | '.' :: rest => (rest.takeWhile Char.isDigit, rest.dropWhile Char.isDigit)
  | text => ([], text)

def ofUnsigned (text : Text) : JsNumber :=
  if text = "Infinity".toList then .infinite false
  else
    let whole := text.takeWhile Char.isDigit
    let (fraction, exponentPart) := readFraction (text.dropWhile Char.isDigit)
    match readExponent exponentPart with
    | none => .nan
    | some exponent =>
      if whole ++ fraction = [] then .nan
      else
        let scale := exponent - fraction.length
        .finite (ofDigits 10 (whole ++ fraction) * 10 ^ scale.toNat / 10 ^ (-scale).toNat)

/-- `Number(text)`. -/
def ofText (text : Text) : JsNumber :=
  match text.trim with
  | [] => .finite 0
  | '0' :: 'x' :: digits | '0' :: 'X' :: digits =>
    ofRadix 16 (fun c => c.isDigit || ('a' ≤ c.toLower && c.toLower ≤ 'f')) digits
  | '0' :: 'o' :: digits | '0' :: 'O' :: digits => ofRadix 8 (fun c => '0' ≤ c && c ≤ '7') digits
  | '0' :: 'b' :: digits | '0' :: 'B' :: digits => ofRadix 2 (fun c => c == '0' || c == '1') digits
  | signed =>
    let (negative, unsigned) := readSign signed
    if negative then (ofUnsigned unsigned).neg else ofUnsigned unsigned

end JsNumber

namespace Json

def hasOwnToString (fields : List (String × Json)) : Bool := fields.any (·.1 == "toString")

mutual

/-- The text of the value cannot be had: `String(value)` throws. -/
def textThrows : Json → Bool
  | .object fields => hasOwnToString fields
  | .array items => joinThrows items
  | .null | .bool _ | .number _ | .string _ => false

def joinThrows : List Json → Bool
  | [] => false
  | first :: rest => first.textThrows || joinThrows rest

end

mutual

/-- The number that an item's text reads as within `join`. -/
def itemNumber : Json → JsNumber
  | .null => .finite 0
  | .number value => .finite value
  | .string text => .ofText text
  | .array items => joinNumber items
  | .bool _ | .object _ => .nan

def joinNumber : List Json → JsNumber
  | [] => .finite 0
  | first :: rest =>
    match rest with
    | [] => first.itemNumber
    | _ :: _ => .nan

end

/-- `Number(value)`; it throws on an object without a primitive value. -/
def toNumber : Json → Option JsNumber
  | .null => some (.finite 0)
  | .bool value => some (if value then .finite 1 else .finite 0)
  | .number value => some (.finite value)
  | .string text => some (.ofText text)
  | .array items => if joinThrows items then none else some (joinNumber items)
  | .object fields => if hasOwnToString fields then none else some .nan

end Json

end StoryEngine.Schema
