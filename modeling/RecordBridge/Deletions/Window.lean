/-
# The window of deletions

The remote side tells deletions between two times, to the second, and refuses
windows that are too narrow.  `Window.between` puts both times on whole
seconds and moves the start back until the window is wide enough:

* its end is the last whole second not after the current time;
* its start is the last whole second that is neither after the lower bound nor
  too close to the end.
-/

import RecordBridge.Error
import RecordBridge.Value.Temporal

namespace RecordBridge
namespace Deletions

/-- The last whole second not after a time in milliseconds. -/
def floorSecond (millis : Int) : Int := millis - millis % 1000

/-- A window between two times in milliseconds since 1970. -/
structure Window where
  start : Int
  stop : Int
  deriving DecidableEq, Repr

namespace Window

/-- The width in milliseconds. -/
def width (w : Window) : Int := w.stop - w.start

/-- The window from a lower bound to the current time. -/
def between (minWidth since now : Int) : Window :=
  let stop := floorSecond now
  let start := floorSecond since
  if stop - start < minWidth then ⟨floorSecond (stop - minWidth), stop⟩ else ⟨start, stop⟩

/-- A time in milliseconds as text. -/
def timeText (millis : Int) : Except Time.Fault String :=
  (Time.Epoch.ofMillis millis).map Time.Timestamp.literal

/-- The start as text. -/
def startText (w : Window) : Except Time.Fault String := timeText w.start

/-- The end as text. -/
def stopText (w : Window) : Except Time.Fault String := timeText w.stop

/-- Both ends as texts. -/
def texts (w : Window) : Except Time.Fault (String × String) := do
  let start ← w.startText
  let stop ← w.stopText
  .ok (start, stop)

/-- The end of a window is a whole second. -/
theorem stop_between (minWidth since now : Int) :
    (between minWidth since now).stop = floorSecond now := by
  unfold between
  dsimp only
  split <;> rfl

end Window

end Deletions
end RecordBridge
