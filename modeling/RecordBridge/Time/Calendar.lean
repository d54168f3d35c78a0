/-
# The calendar

Days are counted from 1970-01-01 in the proleptic Gregorian calendar.  Both
directions count years from March, so that the leap day is the last day of its
year and the months before it have fixed lengths:

| unit          | days                     |
| ------------- | ------------------------ |
| 400 years     | 146097                   |
| century       | 36524, the fourth 36525  |
| four years    | 1461                     |
| year          | 365, the fourth 366      |

`ofDays_toDays` says that the date of a day number has that day number.
-/

namespace RecordBridge
namespace Time

/-- A day of the calendar.  The fields are as written; `isValid` says whether
there is such a day. -/
structure Date where
  year : Int
  month : Nat
  day : Nat
  deriving DecidableEq, Inhabited, Repr

/-- Whether a year has a 29 February. -/
def isLeap (year : Int) : Bool :=
  year % 4 = 0 && (year % 100 != 0 || year % 400 = 0)

/-- The days of a month. -/
def daysInMonth (year : Int) (month : Nat) : Nat :=
  if month = 2 then (if isLeap year then 29 else 28)
  else if month = 4 ∨ month = 6 ∨ month = 9 ∨ month = 11 then 30 else 31

/-- The least and the greatest year a timestamp can have. -/
def isYear (year : Int) : Bool := 1 ≤ year && year ≤ 9999

namespace Date

/-- Whether the calendar has the day, in a year from 1 to 9999. -/
def isValid (d : Date) : Bool :=
  isYear d.year && 1 ≤ d.month && d.month ≤ 12 && 1 ≤ d.day
    && d.day ≤ daysInMonth d.year d.month

/-- The day number of 1 March of the year 0, negated. -/
def epochShift : Int := 719468

/-- The days from 1 March to the first of the month `m` months later. -/
def daysToMonth (m : Int) : Int := (153 * m + 2) / 5

/-- The days from 1 March of the year 0 to 1 March of another year. -/
def daysToYear (y : Int) : Int := 365 * y + y / 4 - y / 100 + y / 400

/-- The day number of a date. -/
def toDays (d : Date) : Int :=
  let late := 2 < d.month
  let year := if late then d.year else d.year - 1
  let month : Int := if late then (d.month : Int) - 3 else (d.month : Int) + 9
  daysToYear year + daysToMonth month + ((d.day : Int) - 1) - epochShift

/-- A day number as a year from March and a day in it. -/
def yearAndDay (n : Int) : Int × Int :=
  let z := n + epochShift
  let era := z / 146097
  let inEra := z % 146097
  let century := min 3 (inEra / 36524)
  let inCentury := inEra - century * 36524
  let four := inCentury / 1461
  let inFour := inCentury % 1461
  let one := min 3 (inFour / 365)
  (400 * era + 100 * century + 4 * four + one, inFour - one * 365)

/-- The date of a day number. -/
def ofDays (n : Int) : Date :=
  let (year, day) := yearAndDay n
  let month := (5 * day + 2) / 153
  let dayOfMonth := (day - daysToMonth month + 1).toNat
  if month < 10 then ⟨year, (month + 3).toNat, dayOfMonth⟩
  else ⟨year + 1, (month - 9).toNat, dayOfMonth⟩

/-- The day of the week, counted from Monday as 0. -/
def weekday (n : Int) : Int := (n + 3) % 7

/-- The Monday of the first week of a year: the week with its first Thursday. -/
def firstMonday (year : Int) : Int :=
  let first := toDays ⟨year, 1, 1⟩
  let late := weekday first
  if 3 < late then first - late + 7 else first - late

/-- Whether a year has a week 53. -/
def isLongYear (year : Int) : Bool :=
  let late := weekday (toDays ⟨year, 1, 1⟩)
  late = 3 || (late = 2 && isLeap year)

/-- The date of a day of a numbered week, if the year has that week. -/
def ofWeek? (year : Int) (week day : Nat) : Option Date :=
  if 1 ≤ week ∧ (week ≤ 52 ∨ (week = 53 ∧ isLongYear year)) ∧ 1 ≤ day ∧ day ≤ 7 then
    some (ofDays (firstMonday year + ((week : Int) - 1) * 7 + ((day : Int) - 1)))
  else none

/-- The day in its year from March is one of 366. -/
theorem yearAndDay_range (n : Int) : 0 ≤ (yearAndDay n).2 ∧ (yearAndDay n).2 ≤ 365 := by
  simp only [yearAndDay, epochShift]
  omega

/-- The days to a year, by its eras, centuries, fours and single years. -/
theorem daysToYear_split {era century four one : Int} (hc : 0 ≤ century ∧ century ≤ 3)
    (hf : 0 ≤ four ∧ four ≤ 24) (ho : 0 ≤ one ∧ one ≤ 3) :
    daysToYear (400 * era + 100 * century + 4 * four + one)
      = 146097 * era + 36524 * century + 1461 * four + 365 * one := by
  have h4 : (400 * era + 100 * century + 4 * four + one) / 4 = 100 * era + 25 * century + four := by
    omega
  have h100 : (400 * era + 100 * century + 4 * four + one) / 100 = 4 * era + century := by omega
  have h400 : (400 * era + 100 * century + 4 * four + one) / 400 = era := by omega
  simp only [daysToYear, h4, h100, h400]
  omega

/-- The days to the year and the day in it make up the day number. -/
theorem yearAndDay_sum (n : Int) :
    daysToYear (yearAndDay n).1 + (yearAndDay n).2 = n + epochShift := by
  simp only [yearAndDay]
  rw [daysToYear_split (by omega) (by omega) (by omega)]
  omega

/-- The date of a day number has that day number. -/
theorem toDays_ofDays (n : Int) : toDays (ofDays n) = n := by
  have hr := yearAndDay_range n
  have hs := yearAndDay_sum n
  simp only [ofDays, daysToMonth]
  split
  · simp only [toDays, daysToMonth, epochShift] at *
    have h1 : 2 < ((5 * (yearAndDay n).2 + 2) / 153 + 3).toNat := by omega
    simp only [h1, if_true]
    omega
  · simp only [toDays, daysToMonth, epochShift] at *
    have h1 : ¬ 2 < ((5 * (yearAndDay n).2 + 2) / 153 - 9).toNat := by omega
    simp only [h1, if_false]
    rw [show (yearAndDay n).1 + 1 - 1 = (yearAndDay n).1 by omega]
    omega

end Date

end Time
end RecordBridge
