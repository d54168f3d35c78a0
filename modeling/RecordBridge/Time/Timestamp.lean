/-
# Timestamps

A timestamp is a date, a time of day to the microsecond and, unless it is
local, its distance east of UTC.  What it denotes is its `instant`, in
microseconds from the start of 1970 on UTC; a local timestamp is read as UTC.
-/

import RecordBridge.Time.Calendar

namespace RecordBridge
namespace Time

/-- Why a value is no point in time that the library can work with. -/
inductive Fault
  /-- The text is no ISO 8601 timestamp. -/
  | malformed (text : String)
  /-- A value that is no time at all, by what a message calls it. -/
  | unconvertible (what : String)
  /-- The number is not a number. -/
  | notANumber
  /-- The year is outside 1 to 9999. -/
  | yearOutOfRange
  /-- The year has more than 32 bits. -/
  | yearTooWide
  /-- The number of seconds is infinite or has more than 64 bits. -/
  | secondsTooWide
  /-- The move to UTC leaves the years 1 to 9999. -/
  | leavesCalendar
  deriving DecidableEq, Repr

/-- Whether the fault lies in the value itself and not in the range of the
machinery; faults of the value are reported as errors of the directive. -/
def Fault.isInValue : Fault → Bool
  | .malformed _ | .unconvertible _ | .notANumber | .yearOutOfRange => true
  | .yearTooWide | .secondsTooWide | .leavesCalendar => false

/-- A date and a time of day.  `offset` is in microseconds east of UTC. -/
structure Timestamp where
  date : Date
  hour : Nat
  minute : Nat
  second : Nat
  microsecond : Nat
  offset : Option Int
  deriving DecidableEq, Inhabited, Repr

/-- The microseconds of a second. -/
def microsPerSecond : Int := 1000000

/-- The microseconds of a day. -/
def microsPerDay : Int := 86400 * microsPerSecond

namespace Timestamp

/-- The microseconds from the start of 1970 as the clock shows them. -/
def onClock (t : Timestamp) : Int :=
  t.date.toDays * microsPerDay
    + (((t.hour : Int) * 60 + t.minute) * 60 + t.second) * microsPerSecond + t.microsecond

/-- The microseconds from the start of 1970 on UTC. -/
def instant (t : Timestamp) : Int := t.onClock - t.offset.getD 0

/-- The timestamp on UTC of an instant. -/
def ofInstant (micros : Int) : Timestamp :=
  let inDay := micros % microsPerDay
  let seconds := inDay / microsPerSecond
  { date := Date.ofDays (micros / microsPerDay)
    hour := (seconds / 3600).toNat
    minute := (seconds / 60 % 60).toNat
    second := (seconds % 60).toNat
    microsecond := (inDay % microsPerSecond).toNat
    offset := some 0 }

/-- Midnight of a day on UTC. -/
def midnight (d : Date) : Timestamp := ⟨d, 0, 0, 0, 0, some 0⟩

/-- The timestamp moved to UTC. -/
def toUtc (t : Timestamp) : Except Fault Timestamp :=
  match t.offset with
  | none => .ok { t with offset := some 0 }
  | some 0 => .ok t
  | some _ =>
    let moved := ofInstant t.instant
    if isYear moved.date.year then .ok moved else .error .leavesCalendar

/-- The timestamp of an instant shows that instant. -/
theorem instant_ofInstant (micros : Int) : (ofInstant micros).instant = micros := by
  simp only [instant, onClock, ofInstant, Date.toDays_ofDays, Option.getD_some]
  simp only [microsPerDay, microsPerSecond]
  omega

end Timestamp

/-- A number with at least two digits. -/
def twoDigits (n : Nat) : String := if n < 10 then "0" ++ toString n else toString n

/-- A number with at least four digits. -/
def fourDigits (n : Int) : String :=
  let s := toString n
  String.ofList (List.replicate (4 - s.length) '0') ++ s

namespace Date

/-- The date with its year as it is, without padding. -/
def plainText (d : Date) : String :=
  toString d.year ++ "-" ++ twoDigits d.month ++ "-" ++ twoDigits d.day

/-- The date with a year of four digits. -/
def isoText (d : Date) : String :=
  fourDigits d.year ++ "-" ++ twoDigits d.month ++ "-" ++ twoDigits d.day

end Date

namespace Timestamp

/-- Hours, minutes and seconds. -/
def clockText (t : Timestamp) : String :=
  twoDigits t.hour ++ ":" ++ twoDigits t.minute ++ ":" ++ twoDigits t.second

/-- A timestamp on UTC as a query literal, to the second. -/
def literal (t : Timestamp) : String := t.date.plainText ++ "T" ++ t.clockText ++ "Z"

end Timestamp

end Time
end RecordBridge
