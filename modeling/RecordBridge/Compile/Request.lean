/-
# Compiled directives

What a directive becomes: a request with the status that is expected of its
answer, or an operation on a document.  Besides it the compiled directive
keeps the directive with what was left of its fields, the lower bound of a
delta, and the warnings of the gate.
-/

import RecordBridge.Catalog.Gate
import RecordBridge.Directive.Basic

namespace RecordBridge

/-- The methods of requests. -/
inductive Method
  | get
  | post
  | patch
  | delete
  deriving DecidableEq, Repr

/-- The name of a method on the wire. -/
def Method.name : Method → String
  | .get => "GET"
  | .post => "POST"
  | .patch => "PATCH"
  | .delete => "DELETE"

/-- A request, with the status that its answer should have. -/
structure Request where
  method : Method
  resource : String
  expectedStatus : Int
  body : Option Object := none

/-- An operation on a document. -/
inductive DocumentInvoke
  | fetch (name : String)
  | refresh (name contentType content : String)
  deriving DecidableEq, Repr

/-- What is to be done for a directive. -/
inductive Action
  | request (r : Request)
  | invoke (i : DocumentInvoke)

/-- A compiled directive. -/
structure Compiled where
  directive : Directive
  action : Action
  /-- The lower bound of a delta, in milliseconds since 1970. -/
  deltaSince : Option Int := none
  warnings : List Warning := []

namespace Compiled

/-- The request, if there is one. -/
def request? (c : Compiled) : Option Request :=
  match c.action with
  | .request r => some r
  | .invoke _ => none

/-- The document operation, if there is one. -/
def invoke? (c : Compiled) : Option DocumentInvoke :=
  match c.action with
  | .request _ => none
  | .invoke i => some i

end Compiled

end RecordBridge
