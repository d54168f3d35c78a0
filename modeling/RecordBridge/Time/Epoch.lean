/-
# Milliseconds since 1970

Directives speak milliseconds since the start of 1970, remote texts speak
seconds with a fraction, and the two meet in double precision.

* An instant becomes milliseconds by way of its seconds: the microseconds over
  10 ^ 6, rounded to a double, times 1000, rounded again, without the fraction.
* Milliseconds become an instant by way of their seconds: the quotient by
  1000, rounded to a double, whose fraction is rounded to whole microseconds,
  half to even.

Seconds of more than 64 bits and years of more than 32 are told apart from
years that are merely outside the calendar.
-/

import RecordBridge.Numeric.Binary64
import RecordBridge.Time.Timestamp

namespace RecordBridge
namespace Time
namespace Epoch

open Numeric (Binary64)

/-- The seconds of a number of microseconds, as a double. -/
def seconds (micros : Int) : Binary64 := Binary64.ofIntRatio micros 1000000

/-- The milliseconds of an instant in microseconds. -/
def millisOfMicros (micros : Int) : Int := (((seconds micros).scale 1000 1).truncate?).getD 0

/-- The milliseconds of a timestamp. -/
def millis (t : Timestamp) : Int := millisOfMicros t.instant

/-- A finite double of seconds in whole microseconds: the whole seconds, and
the fraction times 10 ^ 6, rounded to a double and then to an integer. -/
def microsOfSeconds (negative : Bool) (significand : Nat) (exponent : Int) : Int :=
  let r := Binary64.ratio significand exponent
  let fraction := match Binary64.ofRatio false (r.1 % r.2 * 1000000) r.2 with
    | .finite _ m e =>
      let f := Binary64.ratio m e
      Numeric.roundHalfEven f.1 f.2
    | _ => 0
  Binary64.signed negative (r.1 / r.2 * 1000000 + fraction)

/-- The bound of the seconds that take 64 bits.  The comparison is one of
doubles, and as a double the last of these numbers, 2 ^ 63 - 1, is the bound.
So the bound still counts as one of them, and what is refused there is its
year; that is how such times are seen to fail. -/
def secondsBound : Int := 9223372036854775808

example : Binary64.ofIntRatio (secondsBound - 1) 1 = Binary64.ofIntRatio secondsBound 1 := by
  decide

/-- The years from 1900 that take 32 bits are below this number. -/
def yearsBound : Int := 2147483648

/-- The timestamp of an instant, if the calendar has its year. -/
def timestampOfMicros (micros : Int) : Except Fault Timestamp :=
  let t := Timestamp.ofInstant micros
  let secs := micros / microsPerSecond
  let years := t.date.year - 1900
  if secs < -secondsBound ∨ secondsBound < secs then .error .secondsTooWide
  else if years < -yearsBound ∨ yearsBound ≤ years then .error .yearTooWide
  else if isYear t.date.year then .ok t
  else .error .yearOutOfRange

/-- The timestamp on UTC of a double of seconds. -/
def ofSeconds : Binary64 → Except Fault Timestamp
  | .nan => .error .notANumber
  | .infinite _ => .error .secondsTooWide
  | .finite s m e => timestampOfMicros (microsOfSeconds s m e)

/-- The timestamp on UTC of a whole number of milliseconds. -/
def ofMillis (n : Int) : Except Fault Timestamp := ofSeconds (Binary64.ofIntRatio n 1000)

/-- The timestamp on UTC of a double of milliseconds. -/
def ofMillisDouble (x : Binary64) : Except Fault Timestamp := ofSeconds (x.scale 1 1000)

end Epoch
end Time
end RecordBridge
