/-
# Work in stages

Each stage takes what the stage before it gave.  The first error of the
directive ends the work with that error, and no later stage starts; a fault
passes through.
-/

import RecordBridge.Flow

namespace RecordBridge
namespace Flow

variable {σ α : Type}

/-- Runs stages one after another from a value. -/
def inStages : List (α → Flow σ α) → α → Flow σ (Except DirectiveError α)
  | [], a => pure (.ok a)
  | stage :: stages, a => do
    match ← (stage a).attempt with
    | .ok b => inStages stages b
    | .error e => pure (.error e)

end Flow
end RecordBridge
