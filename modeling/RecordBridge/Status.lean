/-
# Unexpected statuses

A remote answer with another status than the expected one is an error.  Often
its body says more: a list whose first member is an object with a code, under
`code` or else `errorCode`, a message and the fields concerned.  `ofAnswer`
takes these over; without a code the error names only method, status and
resource.
-/

import RecordBridge.Value.Shape

namespace RecordBridge

/-- An answer with an unexpected status. -/
structure UnexpectedStatus where
  method : String
  resource : String
  status : Int
  expected : Option Int := none
  remoteCode : Option String := none
  remoteMessage : Value := .null
  fields : List Value := []

namespace UnexpectedStatus

/-- The message of the error: the remote one, or the remote code where the
message is empty, if there is a code at all. -/
def message (e : UnexpectedStatus) : String :=
  match e.remoteCode with
  | some code =>
    "Salesforce error: " ++ (if e.remoteMessage.isPresent then e.remoteMessage.display else code)
  | none =>
    "Unexpected status code from " ++ e.method ++ ": " ++ toString e.status
      ++ ", resource = " ++ e.resource

/-- The code of the error. -/
def code (e : UnexpectedStatus) : String :=
  match e.remoteCode with
  | some code => "integration.Salesforce." ++ code
  | none => "integration.unexpectedStatus"

/-- What the error says besides code and message. -/
def extra (e : UnexpectedStatus) : Object :=
  ("status", .int e.status) :: (if e.fields.isEmpty then [] else [("fields", .list e.fields)])

/-- The entry of a body that describes the error. -/
def entry? : Value → Option Object
  | .list (.object es :: _) => some es
  | _ => none

/-- The code in an entry: the first of two keys with a value that counts. -/
def entryCode? (entry : Object) : Option Value :=
  let code := Value.ofOption (entry.get? "code")
  let code := if code.isPresent then code else Value.ofOption (entry.get? "errorCode")
  if code.isPresent then some code else none

/-- The members of the fields in an entry; anything empty has none. -/
def entryFields (entry : Object) : Except ShapeFault (List Value) :=
  let fields := Value.ofOption (entry.get? "fields")
  if fields.isPresent then fields.elements else .ok []

/-- The error for an answer, with what its body says. -/
def ofAnswer (method resource : String) (status : Int) (body : Value) (expected : Option Int) :
    Except ShapeFault UnexpectedStatus :=
  let plain : UnexpectedStatus := { method, resource, status, expected }
  match entry? body with
  | none => .ok plain
  | some entry =>
    match entryCode? entry with
    | none => .ok plain
    | some code => do
      let fields ← entryFields entry
      .ok { plain with
        remoteCode := some code.display
        remoteMessage := Value.ofOption (entry.get? "message")
        fields }

end UnexpectedStatus

end RecordBridge
