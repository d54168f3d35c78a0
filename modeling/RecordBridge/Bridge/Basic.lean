/-
# The bridge

`Bridge.handle` works off one directive and answers with an envelope:

    read → catalog → compile → send → take over records → add deletions

Each step starts only when the one before it came to an end.  The first error
of the directive ends the work and becomes the answer, which then holds that
error and nothing else.  Faults pass through.

The bridge has no state of its own.  The remote side and the clock have; the
clock is read once for the compilation and once for the deletions.
-/

import RecordBridge.Compile.Basic
import RecordBridge.Deletions.Reconcile
import RecordBridge.Directive.Validation
import RecordBridge.Envelope

namespace RecordBridge

/-- A field of the body of an answer; null where there is none. -/
def Answer.field (a : Answer) (key : String) : Value :=
  Value.ofOption ((a.body.object?.getD []).get? key)

/-- What directives are worked off with. -/
structure Bridge (σ : Type) where
  settings : Settings
  remote : Remote σ
  /-- The current time in milliseconds since 1970. -/
  clock : Flow σ Int

/-- A directive as it is handed in: read already, or as a JSON value. -/
inductive Submission
  | directive (d : Directive)
  | raw (v : Value)

namespace Submission

/-- What the log calls the submission: its operation and its type. -/
def subject : Submission → String
  | .directive d => d.op ++ " " ++ d.targetType
  | .raw (.object es) =>
    (Value.ofOption (Entries.get? es "op")).display ++ " "
      ++ (Value.ofOption (Entries.get? es "targetType")).display
  | .raw _ => "? ?"

/-- The directive that was handed in. -/
def read : Submission → Except Directive.Error Directive
  | .directive d => .ok d
  | .raw v => (Directive.validate v).mapError Directive.Error.malformed

end Submission

namespace Bridge

variable {σ : Type}

/-- The catalog that a directive is compiled against; an invocation needs
none. -/
def resolve (b : Bridge σ) (d : Directive) : Flow σ (Option Catalog) := do
  match ← Flow.ofExcept ((Compile.operationOf d).mapError Failure.directive) with
  | .invoke => pure none
  | _ => b.remote.catalog d.targetType

/-- The answer to a request, which has to have the expected status. -/
def send (b : Bridge σ) (r : Request) : Flow σ Answer := do
  let answer ← b.remote.request r.method.name r.resource r.body
  if answer.status = 400 then
    Flow.log .warning .engine ("400, malformed request, resource=" ++ r.resource ++ " values="
      ++ (Value.ofOption (r.body.map .object)).display)
  if answer.status = r.expectedStatus then pure answer
  else
    let e ← Flow.ofExcept ((UnexpectedStatus.ofAnswer r.method.name r.resource answer.status
      answer.body (some r.expectedStatus)).mapError Failure.shape)
    Flow.fail (.error (.status e))

/-- The envelope with the result of a document operation. -/
def runDocument (b : Bridge σ) (e : Envelope) : DocumentInvoke → Flow σ Envelope
  | .fetch name => do
    match ← b.remote.fetchDocument name with
    | none =>
      Flow.log .info .engine ("Document " ++ name ++ " not found")
      pure e
    | some d => pure { e with contentType := d.contentType, url := d.url, content := d.content }
  | .refresh name contentType content => do
    let id ← b.remote.upsertDocument name contentType content
    pure { e with externalId := some id, name := some id }

/-- The identifier of a record that was created. -/
def createdId? (body : Value) : Option String :=
  match body with
  | .object es =>
    match Entries.get? es "id" with
    | none | some .null => none
    | some v => some v.display
  | _ => none

/-- The envelope with the identifier of a record that was created, if there is
one. -/
def identified (answer : Answer) (e : Envelope) : Envelope :=
  match createdId? answer.body with
  | some id => { e with externalId := some id }
  | none => e

/-- The log record of an identifier of a record that was created. -/
def logCreated (b : Bridge σ) (answer : Answer) : Flow σ Unit :=
  match createdId? answer.body with
  | some id =>
    if b.settings.verbose then Flow.log .info .engine ("Returning generated id = " ++ id)
    else pure ()
  | none => pure ()

/-- The envelope with a page of records, their count and the place to go on
from. -/
def paged (answer : Answer) (records : List Object) (e : Envelope) : Envelope :=
  { e with
    cursor := answer.field "nextRecordsUrl"
    count := answer.field "totalSize"
    results := some records }

/-- The envelope with the page of records that an answer holds. -/
def takePage (b : Bridge σ) (catalog : Catalog) (c : Compiled) (answer : Answer) (e : Envelope) :
    Flow σ Envelope := do
  let records ← Flow.ofExcept
    (Record.materialize b.settings.recordMapping catalog (answer.field "records"))
  let cursor := answer.field "nextRecordsUrl"
  if cursor.isPresent then
    Flow.log .info .engine ("Query returned " ++ toString records.length ++ " "
      ++ c.directive.targetType ++ " and a cursor: " ++ cursor.display)
  pure (paged answer records e)

/-- The envelope with what an answer says: a new identifier, and for a
selection its records, its count and the place to go on from. -/
def takeOver (b : Bridge σ) (catalog : Catalog) (c : Compiled) (r : Request) (answer : Answer)
    (e : Envelope) : Flow σ Envelope := do
  b.logCreated answer
  if r.method = .get then b.takePage catalog c answer (identified answer e)
  else pure (identified answer e)

/-- The envelope with a tombstone for each deletion, if the directive is a
delta. -/
def addDeletions (b : Bridge σ) (c : Compiled) (e : Envelope) : Flow σ Envelope :=
  match c.deltaSince with
  | none => pure e
  | some since => do
    let now ← b.clock
    let results ← Deletions.reconcile b.settings.minDeltaWindow b.remote c.directive.targetType
      since now (e.results.getD [])
    pure { e with results := some results }

/-- The answer to an invocation. -/
def workInvocation (b : Bridge σ) (d : Directive) : Flow σ Envelope := do
  let c ← Flow.ofTraced (Compile.compileInvoke b.settings d)
  match c.invoke? with
  | some i => b.runDocument { warnings := c.warnings } i
  | none => pure { warnings := c.warnings }

/-- The answer to a directive on a type with a catalog. -/
def workOn (b : Bridge σ) (catalog : Catalog) (d : Directive) : Flow σ Envelope := do
  let now ← b.clock
  let c ← Flow.ofTraced (Compile.compile b.settings catalog now d)
  let e : Envelope := { warnings := c.warnings }
  match c.action with
  | .invoke i => b.runDocument e i
  | .request r => do
    let answer ← b.send r
    let e ← b.takeOver catalog c r answer e
    b.addDeletions c e

/-- The answer to a submission, as long as nothing fails.  A directive whose
type is not known can only be an operation on a document. -/
def work (b : Bridge σ) (s : Submission) : Flow σ Envelope := do
  let d ← Flow.ofExcept (s.read.mapError Failure.directive)
  match ← b.resolve d with
  | none => b.workInvocation d
  | some catalog => b.workOn catalog d

/-- The answer to a submission. -/
def handle (b : Bridge σ) (s : Submission) : Flow σ Envelope := do
  Flow.log .info .engine ("Handling " ++ s.subject)
  match ← (b.work s).attempt with
  | .ok e =>
    Flow.log .info .engine (s.subject ++ " completed in #ms")
    pure e
  | .error err =>
    Flow.log .warning .engine
      (s.subject ++ " failed after #ms: [" ++ err.code ++ "] " ++ err.message)
    pure (Envelope.failure err)

end Bridge

end RecordBridge
