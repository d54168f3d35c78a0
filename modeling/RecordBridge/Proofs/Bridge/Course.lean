/-
# The course of a submission

What a bridge does for a submission, stage by stage, as relations between the
events of a stage and its outcome.  `Works` is the whole:

    read → catalog → clock → compile → send → take over → clock → deletions

A relation has one rule for each way in which its stage can end, and the stage
after it stands only in the rule for success.
-/

import RecordBridge.Proofs.Bridge.Watching

namespace RecordBridge

/-- The event of a request. -/
def Event.ofRequest (r : Request) (answer : Except Failure Answer) : Event :=
  .request r.method.name r.resource r.body answer

/-- Remote sides that know every type they are asked for. -/
def Remote.KnowsTypes {σ : Type} (r : Remote σ) : Prop :=
  ∀ name s, (r.catalog name s).1.result ≠ .ok none

namespace Bridge

/-- The failure for an answer with another status than the expected one. -/
def unexpected (r : Request) (answer : Answer) : Failure :=
  match UnexpectedStatus.ofAnswer r.method.name r.resource answer.status answer.body
      (some r.expectedStatus) with
  | .ok e => .error (.status e)
  | .error f => .shape f

/-- How a request ends. -/
inductive Sends (r : Request) : List Event → Except Failure Answer → Prop
  | failed {f : Failure} : Sends r [.ofRequest r (.error f)] (.error f)
  | refused {answer : Answer} (h : answer.status ≠ r.expectedStatus) :
    Sends r [.ofRequest r (.ok answer)] (.error (unexpected r answer))
  | accepted {answer : Answer} (h : answer.status = r.expectedStatus) :
    Sends r [.ofRequest r (.ok answer)] (.ok answer)

/-- How an answer is taken over. -/
inductive TakesOver (settings : Settings) (catalog : Catalog) (r : Request) (answer : Answer)
    (e : Envelope) : Except Failure Envelope → Prop
  | unreadable {f : Failure} (hmethod : r.method = .get)
    (h : Record.materialize settings.recordMapping catalog (answer.field "records") = .error f) :
    TakesOver settings catalog r answer e (.error f)
  | page {records : List Object} (hmethod : r.method = .get)
    (h : Record.materialize settings.recordMapping catalog (answer.field "records")
      = .ok records) :
    TakesOver settings catalog r answer e (.ok (paged answer records (identified answer e)))
  | written (hmethod : r.method ≠ .get) :
    TakesOver settings catalog r answer e (.ok (identified answer e))

/-- The two ends of the window of deletions, as texts. -/
def windowTexts (settings : Settings) (since now : Int) : Except Failure (String × String) :=
  (Deletions.Window.between settings.minDeltaWindow since now).texts.mapError Failure.time

/-- The envelope with tombstones behind its records. -/
def buried (ids : List Value) (e : Envelope) : Envelope :=
  { e with results := some (e.results.getD [] ++ ids.map Record.tombstone) }

/-- How deletions are added. -/
inductive AddsDeletions (settings : Settings) (c : Compiled) (e : Envelope) :
    List Event → Except Failure Envelope → Prop
  | full (h : c.deltaSince = none) : AddsDeletions settings c e [] (.ok e)
  | clockFailed {since : Int} {f : Failure} (h : c.deltaSince = some since) :
    AddsDeletions settings c e [.clock (.error f)] (.error f)
  | windowFailed {since now : Int} {f : Failure} (h : c.deltaSince = some since)
    (hw : windowTexts settings since now = .error f) :
    AddsDeletions settings c e [.clock (.ok now)] (.error f)
  | feedFailed {since now : Int} {start stop : String} {f : Failure}
    (h : c.deltaSince = some since) (hw : windowTexts settings since now = .ok (start, stop)) :
    AddsDeletions settings c e
      [.clock (.ok now), .deletedBetween c.directive.targetType start stop (.error f)] (.error f)
  | merged {since now : Int} {start stop : String} {ids : List Value}
    (h : c.deltaSince = some since) (hw : windowTexts settings since now = .ok (start, stop)) :
    AddsDeletions settings c e
      [.clock (.ok now), .deletedBetween c.directive.targetType start stop (.ok ids)]
      (.ok (buried ids e))

/-- How a compiled request ends. -/
inductive Requests (settings : Settings) (catalog : Catalog) (c : Compiled) (r : Request) :
    List Event → Except Failure Envelope → Prop
  | unsent {sent : List Event} {f : Failure} (h : Sends r sent (.error f)) :
    Requests settings catalog c r sent (.error f)
  | unreadable {sent : List Event} {answer : Answer} {f : Failure} (h : Sends r sent (.ok answer))
    (ht : TakesOver settings catalog r answer { warnings := c.warnings } (.error f)) :
    Requests settings catalog c r sent (.error f)
  | answered {sent more : List Event} {answer : Answer} {e : Envelope}
    {result : Except Failure Envelope} (h : Sends r sent (.ok answer))
    (ht : TakesOver settings catalog r answer { warnings := c.warnings } (.ok e))
    (ha : AddsDeletions settings c e more result) :
    Requests settings catalog c r (sent ++ more) result

/-- How a directive on a type with a catalog ends. -/
inductive WorksOn (settings : Settings) (catalog : Catalog) (d : Directive) :
    List Event → Except Failure Envelope → Prop
  | clockFailed {f : Failure} : WorksOn settings catalog d [.clock (.error f)] (.error f)
  | refused {now : Int} {f : Failure}
    (hc : (Compile.compile settings catalog now d).result = .error f) :
    WorksOn settings catalog d [.clock (.ok now)] (.error f)
  | compiled {now : Int} {c : Compiled} {r : Request} {events : List Event}
    {result : Except Failure Envelope}
    (hc : (Compile.compile settings catalog now d).result = .ok c) (ha : c.action = .request r)
    (h : Requests settings catalog c r events result) :
    WorksOn settings catalog d (.clock (.ok now) :: events) result

/-- How an operation on a document ends. -/
inductive RunsDocument (e : Envelope) :
    DocumentInvoke → List Event → Except Failure Envelope → Prop
  | fetchFailed {name : String} {f : Failure} :
    RunsDocument e (.fetch name) [.fetchDocument name (.error f)] (.error f)
  | notFound {name : String} : RunsDocument e (.fetch name) [.fetchDocument name (.ok none)] (.ok e)
  | found {name : String} {document : Document} :
    RunsDocument e (.fetch name) [.fetchDocument name (.ok (some document))]
      (.ok { e with
        contentType := document.contentType, url := document.url, content := document.content })
  | upsertFailed {name contentType content : String} {f : Failure} :
    RunsDocument e (.refresh name contentType content)
      [.upsertDocument name contentType content (.error f)] (.error f)
  | upserted {name contentType content id : String} :
    RunsDocument e (.refresh name contentType content)
      [.upsertDocument name contentType content (.ok id)]
      (.ok { e with externalId := some id, name := some id })

/-- How an invocation ends. -/
inductive Invokes (settings : Settings) (d : Directive) :
    List Event → Except Failure Envelope → Prop
  | refused {f : Failure} (hc : (Compile.compileInvoke settings d).result = .error f) :
    Invokes settings d [] (.error f)
  | compiled {c : Compiled} {i : DocumentInvoke} {events : List Event}
    {result : Except Failure Envelope} (hc : (Compile.compileInvoke settings d).result = .ok c)
    (ha : c.action = .invoke i) (h : RunsDocument { warnings := c.warnings } i events result) :
    Invokes settings d events result

/-- How the catalog of a directive is found; an invocation needs none. -/
inductive Resolves (d : Directive) : List Event → Except Failure (Option Catalog) → Prop
  | unknown {e : Directive.Error} (ho : Compile.operationOf d = .error e) :
    Resolves d [] (.error (.directive e))
  | invocation (ho : Compile.operationOf d = .ok .invoke) : Resolves d [] (.ok none)
  | failed {o : Operation} {f : Failure} (ho : Compile.operationOf d = .ok o) (hne : o ≠ .invoke) :
    Resolves d [.catalog d.targetType (.error f)] (.error f)
  | found {o : Operation} {catalog : Catalog} (ho : Compile.operationOf d = .ok o)
    (hne : o ≠ .invoke) :
    Resolves d [.catalog d.targetType (.ok (some catalog))] (.ok (some catalog))

/-- How a submission ends. -/
inductive Works (settings : Settings) (submission : Submission) :
    List Event → Except Failure Envelope → Prop
  | malformed {e : Directive.Error} (hread : submission.read = .error e) :
    Works settings submission [] (.error (.directive e))
  | unknown {d : Directive} {e : Directive.Error} (hread : submission.read = .ok d)
    (ho : Compile.operationOf d = .error e) :
    Works settings submission [] (.error (.directive e))
  | invocation {d : Directive} {events : List Event} {result : Except Failure Envelope}
    (hread : submission.read = .ok d) (ho : Compile.operationOf d = .ok .invoke)
    (h : Invokes settings d events result) : Works settings submission events result
  | unresolved {d : Directive} {o : Operation} {f : Failure} (hread : submission.read = .ok d)
    (ho : Compile.operationOf d = .ok o) (hne : o ≠ .invoke) :
    Works settings submission [.catalog d.targetType (.error f)] (.error f)
  | resolved {d : Directive} {o : Operation} {catalog : Catalog} {events : List Event}
    {result : Except Failure Envelope} (hread : submission.read = .ok d)
    (ho : Compile.operationOf d = .ok o) (hne : o ≠ .invoke)
    (h : WorksOn settings catalog d events result) :
    Works settings submission (.catalog d.targetType (.ok (some catalog)) :: events) result

/-- What becomes of the outcome of the work: an error of the directive is an
answer, a fault stays a failure. -/
def answered : Except Failure Envelope → Except Failure Envelope
  | .ok e => .ok e
  | .error (.error e) => .ok (Envelope.failure e)
  | .error (.fault f) => .error (.fault f)

end Bridge
end RecordBridge
