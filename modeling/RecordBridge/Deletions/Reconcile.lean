/-
# Deletions behind a selection

No query finds a deleted record.  A delta therefore also asks which records
were deleted since its lower bound, and adds one tombstone for each behind the
records that were found.
-/

import RecordBridge.Deletions.Window
import RecordBridge.Record.Materialize
import RecordBridge.Remote

namespace RecordBridge
namespace Deletions

variable {σ : Type}

/-- The records and a tombstone for each deletion since the lower bound. -/
def reconcile (minWidth : Int) (remote : Remote σ) (typeName : String) (since now : Int)
    (records : List Object) : Flow σ (List Object) := do
  let ends ← Flow.ofExcept ((Window.between minWidth since now).texts.mapError Failure.time)
  let ids ← remote.deletedBetween typeName ends.1 ends.2
  if !ids.isEmpty then
    Flow.log .info .delta (toString ids.length ++ " " ++ typeName ++ " records deleted between "
      ++ ends.1 ++ " and " ++ ends.2)
  pure (records ++ ids.map Record.tombstone)

end Deletions
end RecordBridge
