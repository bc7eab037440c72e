import Mathlib.Data.Nat.Find

namespace StoryEngine.Data

/-! # Calendar

Moments are milliseconds since the epoch, a Thursday, in UTC; days are counted from it.  Where the
window that a moment is in begins never moves back as time passes.
-/

def dayLength : Nat := 24 * 60 * 60 * 1000

def dayOfMonth (day : Nat) : Nat :=
  let dayOfEra := (day + 719468) % 146097
  let yearOfEra := (dayOfEra - dayOfEra / 1460 + dayOfEra / 36524 - dayOfEra / 146096) / 365
  let dayOfYear := dayOfEra - (365 * yearOfEra + yearOfEra / 4 - yearOfEra / 100)
  let monthFromMarch := (5 * dayOfYear + 2) / 153
  dayOfYear - (153 * monthFromMarch + 2) / 5 + 1

def startOfDay (moment : Nat) : Nat := moment / dayLength * dayLength

def startOfWeek (moment : Nat) : Nat :=
  let day := moment / dayLength
  (day - (day + 3) % 7) * dayLength

def startOfMonth (moment : Nat) : Nat :=
  Nat.findGreatest (fun day => dayOfMonth day = 1) (moment / dayLength) * dayLength

example : startOfMonth 951868799999 = 949363200000 := by decide +kernel

section

variable {moment later : Nat}

theorem startOfDay_mono (passes : moment ≤ later) : startOfDay moment ≤ startOfDay later :=
  Nat.mul_le_mul_right _ (Nat.div_le_div_right passes)

theorem startOfWeek_mono (passes : moment ≤ later) : startOfWeek moment ≤ startOfWeek later := by
  have days : moment / dayLength ≤ later / dayLength := Nat.div_le_div_right passes
  apply Nat.mul_le_mul_right
  omega

theorem startOfMonth_mono (passes : moment ≤ later) :
    startOfMonth moment ≤ startOfMonth later :=
  Nat.mul_le_mul_right _ (Nat.findGreatest_mono_right _ (Nat.div_le_div_right passes))

theorem startOfMonth_le_startOfDay : startOfMonth moment ≤ startOfDay moment :=
  Nat.mul_le_mul_right _ (Nat.findGreatest_le _)

theorem other_day (before : moment < startOfDay later) :
    moment / dayLength ≠ later / dayLength := by
  intro same
  have start : startOfDay later ≤ moment := by
    rw [startOfDay, ← same]
    exact Nat.div_mul_le_self moment dayLength
  exact Nat.not_lt.mpr start before

end

end StoryEngine.Data
