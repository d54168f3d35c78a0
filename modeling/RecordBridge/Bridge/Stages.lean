/-
# The bridge in stages

The work on a submission as six stages over one context:

| stage          | needs           | finds                            |
| -------------- | --------------- | -------------------------------- |
| `reading`      |                 | the directive                    |
| `resolving`    | the directive   | the catalog, unless it invokes   |
| `compiling`    | the directive   | what it is compiled to           |
| `sending`      | the compilation | the answer, or a document        |
| `takingOver`   | the compilation | what the answer says             |
| `burying`      | the compilation | the tombstones of deletions      |

What a stage needs an earlier one has found, and a stage that is run out of
order is a fault.
-/

import RecordBridge.Bridge.Basic
import RecordBridge.Flow.Stages

namespace RecordBridge
namespace Bridge

variable {σ α : Type}

/-- What is known of a submission on its way through the stages. -/
structure Context where
  submission : Submission
  directive : Option Directive := none
  catalog : Option Catalog := none
  compiled : Option Compiled := none
  answer : Option Answer := none
  envelope : Envelope := {}

/-- Something that an earlier stage should have found. -/
def require : Option α → Flow σ α
  | some a => pure a
  | none => Flow.fail (.fault (.collaborator "RuntimeError" "Pipeline stage ran out of order"))

/-- The directive is read. -/
def reading (ctx : Context) : Flow σ Context := do
  let d ← Flow.ofExcept (ctx.submission.read.mapError Failure.directive)
  pure { ctx with directive := some d }

/-- The catalog of its type is found. -/
def resolving (b : Bridge σ) (ctx : Context) : Flow σ Context := do
  let d ← require ctx.directive
  let catalog ← b.resolve d
  pure { ctx with catalog }

/-- The compilation of a directive.  Without a catalog it can only be an
invocation. -/
def compilation (b : Bridge σ) (d : Directive) : Option Catalog → Flow σ Compiled
  | none => Flow.ofTraced (Compile.compileInvoke b.settings d)
  | some catalog => do
    let now ← b.clock
    Flow.ofTraced (Compile.compile b.settings catalog now d)

/-- The directive is compiled, and the envelope has its warnings. -/
def compiling (b : Bridge σ) (ctx : Context) : Flow σ Context := do
  let d ← require ctx.directive
  let c ← b.compilation d ctx.catalog
  pure
    { ctx with
      compiled := some c
      envelope := { ctx.envelope with warnings := ctx.envelope.warnings ++ c.warnings } }

/-- The request is sent, or the operation on a document is carried out. -/
def sending (b : Bridge σ) (ctx : Context) : Flow σ Context := do
  let c ← require ctx.compiled
  match c.action with
  | .invoke i =>
    let e ← b.runDocument ctx.envelope i
    pure { ctx with envelope := e }
  | .request r =>
    let answer ← b.send r
    pure { ctx with answer := some answer }

/-- The answer to a request is taken over; only a page of records needs the
catalog. -/
def takingOver (b : Bridge σ) (ctx : Context) : Flow σ Context := do
  let c ← require ctx.compiled
  match ctx.answer, c.request? with
  | some answer, some r =>
    b.logCreated answer
    if r.method = .get then
      let catalog ← require ctx.catalog
      let e ← b.takePage catalog c answer (identified answer ctx.envelope)
      pure { ctx with envelope := e }
    else pure { ctx with envelope := identified answer ctx.envelope }
  | _, _ => pure ctx

/-- The tombstones of deletions are added to a delta. -/
def burying (b : Bridge σ) (ctx : Context) : Flow σ Context := do
  let c ← require ctx.compiled
  let e ← b.addDeletions c ctx.envelope
  pure { ctx with envelope := e }

/-- The stages, in order. -/
def stages (b : Bridge σ) : List (Context → Flow σ Context) :=
  [reading, b.resolving, b.compiling, b.sending, b.takingOver, b.burying]

end Bridge
end RecordBridge
