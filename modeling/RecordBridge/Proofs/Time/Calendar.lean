/-
# The days of the calendar

Every day number has a date.  Whether the date is one of the calendar depends
on its year alone (`Date.isValid_ofDays`): the year from March splits into
months of the right lengths, and ends with a 29 February exactly before a
March in a leap year.
-/

import Mathlib.Tactic.IntervalCases
import RecordBridge.Time.Calendar

namespace RecordBridge
namespace Time

theorem isYear_iff {year : Int} : isYear year = true ↔ 1 ≤ year ∧ year ≤ 9999 := by
  rw [isYear, Bool.and_eq_true, decide_eq_true_iff, decide_eq_true_iff]

namespace Date

/-- January and February are in the year after the one that is counted from
March. -/
theorem year_ofDays (n : Int) :
    (ofDays n).year = (yearAndDay n).1 ∨ (ofDays n).year = (yearAndDay n).1 + 1 := by
  unfold ofDays
  dsimp only
  split
  · exact .inl rfl
  · exact .inr rfl

/-- The days of the years from 1 to 9999 lie between bounds. -/
theorem range_of_isYear {n : Int} (h : isYear (ofDays n).year = true) :
    -719468 ≤ n ∧ n ≤ 2932956 := by
  have hrange := yearAndDay_range n
  have hsum := yearAndDay_sum n
  have hyear := year_ofDays n
  rw [isYear_iff] at h
  simp only [daysToYear, epochShift] at hsum
  omega

/-- A year from March has a day 366 only if it runs into a leap year. -/
theorem isLeap_of_yearAndDay {n : Int} (h : (yearAndDay n).2 = 365) :
    isLeap ((yearAndDay n).1 + 1) = true := by
  simp only [isLeap, Bool.and_eq_true, Bool.or_eq_true, bne_iff_ne, decide_eq_true_eq, ne_eq]
  simp only [yearAndDay] at h ⊢
  have hera : 0 ≤ (n + epochShift) % 146097 ∧ (n + epochShift) % 146097 < 146097 := by omega
  generalize (n + epochShift) % 146097 = inEra at *
  generalize (n + epochShift) / 146097 = era at *
  have hcentury : 0 ≤ min 3 (inEra / 36524) ∧ min 3 (inEra / 36524) ≤ 3 := by omega
  have hlast : inEra - min 3 (inEra / 36524) * 36524 = 36524 → min 3 (inEra / 36524) = 3 := by
    omega
  have hrange : 0 ≤ inEra - min 3 (inEra / 36524) * 36524 ∧
      inEra - min 3 (inEra / 36524) * 36524 ≤ 36524 := by
    omega
  generalize min 3 (inEra / 36524) = century at *
  generalize inEra - century * 36524 = inCentury at *
  -- the day closes four years: the last of a century closes the era as well
  have hfour : inCentury % 1461 = 1460 := by omega
  have hone : min 3 (inCentury % 1461 / 365) = 3 := by omega
  rw [hone]
  have hclose : inCentury / 1461 = 24 → inCentury = 36524 := by omega
  have hle : 0 ≤ inCentury / 1461 ∧ inCentury / 1461 ≤ 24 := by omega
  generalize inCentury / 1461 = four at *
  omega

/-- The months from March, by their first days: the day of a month is at most
its length. -/
theorem day_le {day : Int} (h : 0 ≤ day ∧ day ≤ 365) (year : Int)
    (hleap : day = 365 → isLeap (year + 1) = true) :
    let month := (5 * day + 2) / 153
    let inMonth := day - daysToMonth month + 1
    0 ≤ month ∧ month ≤ 11 ∧ 1 ≤ inMonth ∧
      inMonth ≤ daysInMonth (if month < 10 then year else year + 1)
        (if month < 10 then month + 3 else month - 9).toNat := by
  intro month inMonth
  have hmonth : 0 ≤ month ∧ month ≤ 11 := by omega
  have hlow : daysToMonth month ≤ day := by
    simp only [daysToMonth]
    omega
  refine ⟨hmonth.1, hmonth.2, by omega, ?_⟩
  have hhigh : 153 * month ≤ 5 * day + 2 ∧ 5 * day + 2 < 153 * month + 153 := by omega
  simp only [inMonth, daysToMonth]
  generalize month = m at *
  obtain ⟨hm0, hm11⟩ := hmonth
  by_cases hlast : day = 365
  · have hm : m = 11 := by omega
    subst hm
    simp [daysInMonth, hleap hlast]
    omega
  · have hplain : 28 ≤ (if isLeap (year + 1) = true then 29 else 28) := by split <;> omega
    interval_cases m <;> simp [daysInMonth] <;> omega

/-- A day whose year is in the calendar is a day of the calendar. -/
theorem isValid_ofDays {n : Int} (h : isYear (ofDays n).year = true) :
    (ofDays n).isValid = true := by
  have hbounds := day_le (yearAndDay_range n) (yearAndDay n).1 isLeap_of_yearAndDay
  simp only [ofDays] at h hbounds ⊢
  split at hbounds
  · next hmonth =>
    rw [if_pos hmonth] at h ⊢
    simp only [isValid, h, Bool.true_and, Bool.and_eq_true, decide_eq_true_eq]
    omega
  · next hmonth =>
    rw [if_neg hmonth] at h ⊢
    simp only [isValid, h, Bool.true_and, Bool.and_eq_true, decide_eq_true_eq]
    omega

end Date
end Time
end RecordBridge
