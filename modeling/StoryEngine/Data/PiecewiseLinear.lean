import Mathlib.Algebra.Order.Field.Basic
import Mathlib.Data.List.Basic
import Mathlib.Tactic.Linarith
import Mathlib.Tactic.Ring

namespace StoryEngine.Data

/-! # Piecewise linear functions

A curve of points is read by the line between the two neighbours of an argument, and constantly
beyond its ends.  A curve that goes to the right and does not fall is a nondecreasing function.
-/

universe u

variable {K : Type u} [Field K]

def lineAt (left right : K × K) (argument : K) : K :=
  left.2 + (argument - left.1) / (right.1 - left.1) * (right.2 - left.2)

def curveAt [LinearOrder K] (argument : K) (left : K × K) : List (K × K) → K
  | [] => left.2
  | right :: rest =>
    if argument ≤ left.1 then left.2
    else if argument ≤ right.1 then lineAt left right argument
    else curveAt argument right rest

theorem lineAt_left (left right : K × K) : lineAt left right left.1 = left.2 := by
  rw [lineAt, sub_self, zero_div, zero_mul, add_zero]

variable [LinearOrder K] [IsStrictOrderedRing K]

def Rises (left right : K × K) : Prop := left.1 < right.1 ∧ left.2 ≤ right.2

variable {left right : K × K} {rest : List (K × K)} {argument : K}

theorem lineAt_right (rises : Rises left right) : lineAt left right right.1 = right.2 := by
  have width : right.1 - left.1 ≠ 0 := (sub_pos.mpr rises.1).ne'
  rw [lineAt, div_self width]
  ring

theorem lineAt_mono (rises : Rises left right) {later : K} (before : argument ≤ later) :
    lineAt left right argument ≤ lineAt left right later := by
  have width : 0 ≤ right.1 - left.1 := (sub_pos.mpr rises.1).le
  have height : 0 ≤ right.2 - left.2 := sub_nonneg.mpr rises.2
  have onward : (argument - left.1) / (right.1 - left.1) ≤ (later - left.1) / (right.1 - left.1) :=
    div_le_div_of_nonneg_right (sub_le_sub_right before left.1) width
  have product := mul_le_mul_of_nonneg_right onward height
  rw [lineAt, lineAt]
  linarith

theorem left_le_curveAt (rising : (left :: rest).IsChain Rises) : left.2 ≤ curveAt argument left rest := by
  induction rest generalizing left with
  | nil => exact le_rfl
  | cons right rest ih =>
    obtain ⟨rises, later⟩ := List.isChain_cons_cons.mp rising
    rw [curveAt]
    split_ifs with before within
    · exact le_rfl
    · rw [← lineAt_left left right]
      exact lineAt_mono rises (not_le.mp before).le
    · exact le_trans rises.2 (ih later)

theorem curveAt_le {bound : K} (rising : (left :: rest).IsChain Rises) (atLeft : left.2 ≤ bound)
    (bounded : ∀ point ∈ rest, point.2 ≤ bound) : curveAt argument left rest ≤ bound := by
  induction rest generalizing left with
  | nil => exact atLeft
  | cons right rest ih =>
    obtain ⟨rises, later⟩ := List.isChain_cons_cons.mp rising
    obtain ⟨atRight, others⟩ := List.forall_mem_cons.mp bounded
    rw [curveAt]
    split_ifs with before within
    · exact atLeft
    · have below := lineAt_mono rises within
      rw [lineAt_right rises] at below
      exact le_trans below atRight
    · exact ih later atRight others

theorem curveAt_mono {later : K} (rising : (left :: rest).IsChain Rises) (onward : argument ≤ later) :
    curveAt argument left rest ≤ curveAt later left rest := by
  induction rest generalizing left with
  | nil => exact le_rfl
  | cons right rest ih =>
    have lowest : left.2 ≤ curveAt later left (right :: rest) := left_le_curveAt rising
    obtain ⟨rises, risingRest⟩ := List.isChain_cons_cons.mp rising
    by_cases before : argument ≤ left.1
    · rw [curveAt, if_pos before]
      exact lowest
    · have beyond : ¬later ≤ left.1 := fun within => before (le_trans onward within)
      rw [curveAt, if_neg before, curveAt, if_neg beyond]
      by_cases within : argument ≤ right.1
      · rw [if_pos within]
        by_cases laterWithin : later ≤ right.1
        · rw [if_pos laterWithin]
          exact lineAt_mono rises onward
        · rw [if_neg laterWithin]
          have below := lineAt_mono rises within
          rw [lineAt_right rises] at below
          exact le_trans below (left_le_curveAt risingRest)
      · have laterBeyond : ¬later ≤ right.1 := fun inside => within (le_trans onward inside)
        rw [if_neg within, if_neg laterBeyond]
        exact ih risingRest

theorem curveAt_beyond (rising : (left :: rest).IsChain Rises)
    (beyond : ((left :: rest).getLast (List.cons_ne_nil left rest)).1 ≤ argument) :
    curveAt argument left rest = ((left :: rest).getLast (List.cons_ne_nil left rest)).2 := by
  induction rest generalizing left with
  | nil => rfl
  | cons right rest ih =>
    obtain ⟨rises, later⟩ := List.isChain_cons_cons.mp rising
    rw [List.getLast_cons_cons] at beyond ⊢
    have last := ih later beyond
    have reached : right.1 ≤ argument := by
      cases rest with
      | nil => exact beyond
      | cons next others =>
        have trans : IsTrans (K × K) Rises := ⟨fun _ _ _ first second =>
          ⟨lt_trans first.1 second.1, le_trans first.2 second.2⟩⟩
        have ordered := (List.pairwise_cons.mp later.pairwise).1
        rw [List.getLast_cons_cons] at beyond
        exact le_trans (ordered _ (List.getLast_mem _)).1.le beyond
    have after : ¬argument ≤ left.1 := not_le.mpr (lt_of_lt_of_le rises.1 reached)
    rw [curveAt, if_neg after]
    split_ifs with within
    · have same : argument = right.1 := le_antisymm within reached
      rw [same, lineAt_right rises, ← last, same]
      cases rest with
      | nil => rfl
      | cons next others => rw [curveAt, if_pos le_rfl]
    · exact last

end StoryEngine.Data
