/-
# The wire

A session talks to the remote system by HTTP requests.  A `Transport τ`
answers them over a state of its own: with a status and the bytes of a body,
or by saying why there is no answer.  `recorded` is the same transport with a
record of its requests.
-/

import RecordBridge.Flow

namespace RecordBridge
namespace Session

/-- A request as it is sent. -/
structure HttpRequest where
  method : String
  url : String
  headers : List (String × String)
  body : Option Object := none

/-- An answer as it is received. -/
structure Reply where
  status : Int
  body : List UInt8

/-- Why there is no answer. -/
structure NoAnswer where
  reason : String
  detail : String

/-- What carries requests. -/
structure Transport (τ : Type) where
  send : HttpRequest → Flow τ (Except NoAnswer Reply)

/-- The transport with a record of its requests. -/
def Transport.recorded {τ : Type} (t : Transport τ) : Transport (τ × List HttpRequest) where
  send r := do
    Flow.modify fun s => (s.1, s.2 ++ [r])
    Flow.onFst (t.send r)

end Session
end RecordBridge
