/-
# What can be wrong with a remote record

A record list that is neither a record nor a list, and a value in the place of
a timestamp that is no point in time.  A collaborator may report a record in
its own words.
-/

import RecordBridge.Value.Inspect

namespace RecordBridge
namespace Record

/-- Why records could not be converted. -/
inductive Error
  /-- What should hold records is a value of this kind. -/
  | notRecords (kind : String)
  /-- The value of a field is no point in time. -/
  | invalidTimestamp (field : String) (value : Value)
  /-- A fault reported in words, at a field if one is named. -/
  | reported (message : String) (field : Option String)

namespace Error

/-- The message of the error. -/
def message : Error → String
  | .notRecords kind => "Expected a record or a list of records, got " ++ kind
  | .invalidTimestamp field value =>
    "Invalid timestamp in field " ++ field ++ ": " ++ value.inspect
  | .reported message _ => message

/-- The field at fault, if it is known. -/
def field? : Error → Option String
  | .notRecords _ => none
  | .invalidTimestamp field _ => some field
  | .reported _ field => field

/-- The code of the error. -/
def code (_ : Error) : String := "integration.record.invalid"

/-- What the error says besides code and message. -/
def extra (e : Error) : Object :=
  match e.field? with
  | some field => [("field", .text field)]
  | none => []

end Error

end Record
end RecordBridge
