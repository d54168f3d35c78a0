/-
# The remote side

What a directive needs of the remote side, as five calls: the catalog of a
type, a request, the identifiers of deleted records, and reading and writing a
document.  A `Remote σ` answers them over a state of its own, and every answer
may be a failure.

`recorded` is the same remote side with a record of its calls, in order.  A
call is recorded when it is made, whatever comes of it.
-/

import RecordBridge.Catalog.Basic
import RecordBridge.Flow

namespace RecordBridge

/-- The answer to a request; an empty body is null. -/
structure Answer where
  status : Int
  body : Value := .null

/-- A document.  Its parts are what the remote side holds in their place; the
content is in base 64. -/
structure Document where
  contentType : Value
  url : Value
  content : Value

/-- The remote side over a state. -/
structure Remote (σ : Type) where
  /-- The catalog of a type; none is given where the type is not known. -/
  catalog : String → Flow σ (Option Catalog)
  request : String → String → Option Object → Flow σ Answer
  /-- The identifiers of the records of a type deleted between two times. -/
  deletedBetween : String → String → String → Flow σ (List Value)
  /-- The document of a name, if there is one. -/
  fetchDocument : String → Flow σ (Option Document)
  /-- A document created or replaced, by its identifier. -/
  upsertDocument : String → String → String → Flow σ String

/-- A call of the remote side. -/
inductive RemoteCall
  | catalog (typeName : String)
  | request (method resource : String) (body : Option Object)
  | deletedBetween (typeName start stop : String)
  | fetchDocument (name : String)
  | upsertDocument (name contentType content : String)

namespace Remote

variable {σ α : Type}

/-- A call that is recorded before it is made. -/
def note (call : RemoteCall) (x : Flow σ α) : Flow (σ × List RemoteCall) α := do
  Flow.modify fun s => (s.1, s.2 ++ [call])
  Flow.onFst x

/-- The remote side with a record of its calls. -/
def recorded (r : Remote σ) : Remote (σ × List RemoteCall) where
  catalog name := note (.catalog name) (r.catalog name)
  request method resource body :=
    note (.request method resource body) (r.request method resource body)
  deletedBetween name start stop :=
    note (.deletedBetween name start stop) (r.deletedBetween name start stop)
  fetchDocument name := note (.fetchDocument name) (r.fetchDocument name)
  upsertDocument name contentType content :=
    note (.upsertDocument name contentType content) (r.upsertDocument name contentType content)

end Remote

end RecordBridge
