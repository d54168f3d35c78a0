/-
# The lower bound of a delta

A selection whose filter has an object with `$gt` under the time of the last
change is a delta: only what changed since then is wanted, and deletions since
then are to be reported too.  The remote system remembers deletions for a
limited time, so a bound older than that is dropped, and the selection becomes
a full one.

Only the bound is looked at here; the condition with it is dropped as a whole,
with any other operators on the same field.
-/

import RecordBridge.Filter.Error
import RecordBridge.Flow
import RecordBridge.Settings
import RecordBridge.Value.Temporal

namespace RecordBridge
namespace Compile

/-- The bound that a filter has under a field, if it has one. -/
def boundOf? (field : String) (filter : Object) : Option Value :=
  match filter.get? field with
  | some (.object condition) =>
    match Entries.get? condition "$gt" with
    | none | some .null => none
    | some bound => some bound
  | _ => none

/-- A bound in milliseconds.  A value that is no point in time is an error of
the filter; a time out of range is a fault. -/
def boundMillis (field : String) (bound : Value) : Except Failure (Option Int) :=
  match bound.epochMillis with
  | .ok n => .ok n
  | .error f =>
    if f.isInValue then .error (.filter (.invalidBound field bound)) else .error (.time f)

/-- The filter and the bound that remain at a point in time. -/
structure DeltaBound where
  filter : Object
  since : Option Int

/-- The filter without a bound that is too old, and the bound that is kept. -/
def deltaBound (settings : Settings) (now : Int) (filter : Object) : Traced DeltaBound :=
  let field := settings.deltaField
  match boundOf? field filter with
  | none => pure ⟨filter, none⟩
  | some bound => do
    match ← Traced.ofExcept (boundMillis field bound) with
    | none => pure ⟨filter, none⟩
    | some since =>
      if settings.retentionMillis < now - since then do
        Traced.log1 .info .compiler (field ++ " lower bound is older than "
          ++ Time.Span.text settings.retention ++ "; performing a full resync")
        pure ⟨filter.erase field, none⟩
      else pure ⟨filter, some since⟩

end Compile
end RecordBridge
