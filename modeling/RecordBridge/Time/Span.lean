/-
# Spans of time

A span is a number of microseconds.  As text it is a number of days, if there
are any, and a clock reading; a negative span has negative days and a clock
that runs forward from there.
-/

import RecordBridge.Time.Epoch

namespace RecordBridge
namespace Time
namespace Span

/-- A span of whole days. -/
def ofDays (n : Int) : Int := n * microsPerDay

/-- The whole milliseconds of a span. -/
def millis (micros : Int) : Int := Epoch.millisOfMicros micros

/-- The days of a span in words, empty if there are none. -/
def daysText (days : Int) : String :=
  if days = 0 then ""
  else toString days ++ (if days.natAbs = 1 then " day, " else " days, ")

/-- The microseconds behind the seconds, empty if there are none. -/
def fractionText (micros : Nat) : String :=
  if micros = 0 then ""
  else
    let s := toString micros
    "." ++ String.ofList (List.replicate (6 - s.length) '0') ++ s

/-- A span as text. -/
def text (micros : Int) : String :=
  let inDay := (micros % microsPerDay).toNat
  let seconds := inDay / 1000000
  daysText (micros / microsPerDay) ++ toString (seconds / 3600) ++ ":"
    ++ twoDigits (seconds / 60 % 60) ++ ":" ++ twoDigits (seconds % 60)
    ++ fractionText (inDay % 1000000)

end Span
end Time
end RecordBridge
