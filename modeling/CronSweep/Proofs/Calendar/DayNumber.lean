import CronSweep.Calendar
import Mathlib.Algebra.GroupWithZero.Nat

namespace CronSweep.Calendar

theorem sum_monthLengths (leap : Bool) :
    (monthLengths leap).sum = if leap = true then 366 else 365 := by
  cases leap <;> rfl

theorem daysBeforeYear_succ (year : Int) :
    daysBeforeYear (year + 1) =
      daysBeforeYear year + ((monthLengths (isLeap year)).sum : Nat) := by
  rw [sum_monthLengths]
  simp only [daysBeforeYear, isLeap, Bool.and_eq_true, Bool.or_eq_true, beq_iff_eq, bne_iff_ne]
  split <;> omega

/-- A year of mean length misses the year of a day by one at most. -/
theorem daysBeforeYear_mean (days : Int) :
    daysBeforeYear (400 * days / 146097) ≤ days ∧
      days < daysBeforeYear (400 * days / 146097 + 3) := by
  simp only [daysBeforeYear]
  omega

theorem yearOf_spec (days : Int) :
    daysBeforeYear (yearOf days) ≤ days ∧ days < daysBeforeYear (yearOf days + 1) := by
  -- The year before the guess and the one after it are all that is left besides the guess.
  obtain ⟨hle, hlt⟩ := daysBeforeYear_mean days
  rw [yearOf]
  generalize 400 * days / 146097 = mean at hle hlt
  rw [show mean + 3 = mean + 1 + 1 + 1 by omega] at hlt
  by_cases hbefore : days < daysBeforeYear (mean + 1)
  · simp [hbefore, hle]
  · by_cases hafter : daysBeforeYear (mean + 1 + 1) ≤ days
    · simp [hbefore, hafter, hlt]
    · simp only [hbefore, hafter, if_false]
      omega

theorem splitMonths_spec {ls : List Nat} {days : Nat} (h : days < ls.sum) :
    let split := splitMonths ls days
    (ls.take split.1).sum + split.2 = days ∧ ∃ l, ls[split.1]? = some l ∧ split.2 < l := by
  induction ls generalizing days with
  | nil => cases h
  | cons l ls ih =>
      rw [List.sum_cons] at h
      by_cases hl : days < l
      · simp [splitMonths, hl]
      · obtain ⟨hsum, hlt⟩ := ih (show days - l < ls.sum by omega)
        simp only [splitMonths, hl, if_false, List.take_succ_cons, List.sum_cons,
          List.getElem?_cons_succ]
        exact ⟨by omega, hlt⟩

theorem daysBeforeMonth_eq_sum (leap : Bool) (month : Nat) :
    daysBeforeMonth leap month = ((monthLengths leap).take (month - 1)).sum := rfl

/-- The date of a day is a date of the calendar, and its day is that one again. -/
theorem Date.ofDayNumber_spec (n : Int) :
    (Date.ofDayNumber n).IsValid ∧ (Date.ofDayNumber n).dayNumber = n := by
  obtain ⟨hle, hlt⟩ := yearOf_spec (n + epoch)
  rw [daysBeforeYear_succ] at hlt
  obtain ⟨hsum, l, hl, hday⟩ := splitMonths_spec
    (show (n + epoch - daysBeforeYear (yearOf (n + epoch))).toNat <
      (monthLengths (isLeap (yearOf (n + epoch)))).sum by omega)
  have hmonth := (List.getElem?_eq_some_iff.mp hl).1
  have hlength : (monthLengths (isLeap (yearOf (n + epoch)))).length = 12 := rfl
  constructor
  · simp only [IsValid, ofDayNumber, Nat.add_sub_cancel, hl, Option.getD_some]
    omega
  · simp only [dayNumber, ofDayNumber, daysBeforeMonth_eq_sum, Nat.add_sub_cancel]
    omega

end CronSweep.Calendar
