/-
# Values as points in time

`epochMillis` reads what a remote record or a delta bound holds as
milliseconds since 1970: numbers pass through without their fraction,
timestamps and dates are placed on UTC, texts are read as ISO 8601.
`literalDateTime` and `literalDate` go the other way for numbers and times.

`literalDateTime` has second precision and never moves a time forward.  Years
are written without padding, except those of a plain date.
-/

import RecordBridge.Time.Epoch
import RecordBridge.Time.Iso8601
import RecordBridge.Value.Inspect

namespace RecordBridge
namespace Value

/-- A value as milliseconds since 1970; null stays null. -/
def epochMillis : Value → Except Time.Fault (Option Int)
  | .null => .ok none
  | .int n => .ok (some n)
  | .float .nan => .error .notANumber
  | .float (.infinite _) => .error .secondsTooWide
  | .float x => .ok x.truncate?
  | .instant t => t.toUtc.map fun t => some (Time.Epoch.millis t)
  | .date d => .ok (some (Time.Epoch.millis (.midnight d)))
  | .text s => (Time.Iso8601.parse s).map fun t => some (Time.Epoch.millis t)
  | .bool b => .error (.unconvertible (inspect (.bool b)))
  | v => .error (.unconvertible v.kindName)

/-- The timestamp of a number of milliseconds, where a truth value counts as
one or zero; `none` where the value is no number. -/
def timestampOfMillis? : Value → Option (Except Time.Fault Time.Timestamp)
  | .bool b => some (Time.Epoch.ofMillis (if b then 1 else 0))
  | .int n => some (Time.Epoch.ofMillis n)
  | .float x => some (Time.Epoch.ofMillisDouble x)
  | _ => none

/-- The timestamp of a number or a time; `none` where the value is neither. -/
def timestamp? : Value → Option (Except Time.Fault Time.Timestamp)
  | .instant t => some t.toUtc
  | v => timestampOfMillis? v

/-- A number or a time as a literal with second precision. -/
def literalDateTime? (v : Value) : Option (Except Time.Fault String) :=
  (timestamp? v).map fun r => r.map Time.Timestamp.literal

/-- A number, a time or a date as a date literal. -/
def literalDate? : Value → Option (Except Time.Fault String)
  | .date d => some (.ok d.isoText)
  | v => (timestamp? v).map fun r => r.map fun t => t.date.plainText

/-- Whether a value is a number; truth values are none. -/
def isNumber : Value → Bool
  | .int _ | .float _ => true
  | _ => false

end Value
end RecordBridge
