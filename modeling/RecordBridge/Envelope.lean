/-
# Answers

An envelope is the answer to one directive: records, the number of a created
record, a document, or errors, with the warnings of the gate.  What came from
the remote side, such as the cursor and the count, is passed on as it is.

`toObject` leaves out what is null, and empty lists of warnings and errors;
inside records nulls stay.  `validate` reads an envelope that a host built.
-/

import RecordBridge.Catalog.Gate
import RecordBridge.Directive.Checked
import RecordBridge.Error
import RecordBridge.Numeric.WholeNumeral

namespace RecordBridge

/-- The answer to one directive. -/
structure Envelope where
  succeeded : Bool := true
  externalId : Option String := none
  cursor : Value := .null
  count : Value := .null
  results : Option (List Object) := none
  warnings : List Warning := []
  errors : List Object := []
  name : Option String := none
  contentType : Value := .null
  url : Value := .null
  content : Value := .null

namespace Envelope

/-- The answer that carries a single error and nothing else. -/
def failure (e : DirectiveError) : Envelope := { succeeded := false, errors := [e.toObject] }

/-- An entry, unless its value is null. -/
def entryUnlessNull (key : String) (value : Value) : Object :=
  if value.isNull then [] else [(key, value)]

/-- An entry for a list of objects, unless there are none. -/
def entryUnlessEmpty (key : String) (objects : List Object) : Object :=
  if objects.isEmpty then [] else [(key, .list (objects.map .object))]

/-- The records as a value. -/
def resultsValue (results : Option (List Object)) : Value :=
  match results with
  | none => .null
  | some records => .list (records.map .object)

/-- The answer as an object. -/
def toObject (e : Envelope) : Object :=
  [("targetType", .text "RestResponse"),
    ("status", .text (if e.succeeded then "SUCCESS" else "ERROR"))]
    ++ entryUnlessNull "externalId" (Value.ofText? e.externalId)
    ++ entryUnlessNull "cursor" e.cursor
    ++ entryUnlessNull "count" e.count
    ++ entryUnlessNull "results" (resultsValue e.results)
    ++ entryUnlessNull "name" (Value.ofText? e.name)
    ++ entryUnlessNull "contentType" e.contentType
    ++ entryUnlessNull "url" e.url
    ++ entryUnlessNull "content" e.content
    ++ entryUnlessEmpty "warnings" (e.warnings.map Warning.toObject)
    ++ entryUnlessEmpty "errors" e.errors

/-- The status, by name. -/
def statusOf : Value → Checked Bool
  | .text "SUCCESS" => .ok true
  | .text "ERROR" => .ok false
  | v => .expected .status v

/-- The integers that a double may stand for lie strictly between this number
and its negative. -/
def doubleCountBound : Int := 9223372036854775808

/-- The count that a double stands for. -/
def countOfDouble (x : Numeric.Binary64) : Except Expectation Int :=
  match x.truncate? with
  | none => .error .finiteNumber
  | some n =>
    if !x.isWhole then .error .wholeNumber
    else if -doubleCountBound < n ∧ n < doubleCountBound then .ok n
    else .error .moderateNumber

/-- The count that a text denotes. -/
def countOfText (s : String) : Except Expectation Int :=
  (Numeric.WholeNumeral.read s.toList).mapError fun
    | .malformed => .numeral
    | .tooLong => .moderateNumber

/-- The integer that a value is as a count: an integer, or a truth value, a
double or a text that stands for one. -/
def countNumber : Value → Except Expectation Int
  | .int n => .ok n
  | .bool b => .ok (if b then 1 else 0)
  | .float x => countOfDouble x
  | .text s => countOfText s
  | _ => .error .number

/-- A count. -/
def countOf (v : Value) : Checked Value :=
  match countNumber v with
  | .ok n => .ok (.int n)
  | .error e => .expected e v

/-- A warning that a value holds. -/
def warningOf : Value → Checked Warning
  | .object es =>
    Warning.mk
      <$> Checked.required es (Checked.plain es "code") Checked.text
      <*> Checked.required es (Checked.plain es "message") Checked.text
      <*> Checked.nullable (Checked.plain es "field") Checked.text
  | v => .expected (.model "DirectiveWarning") v

/-- A value that may be null or missing. -/
def valueOr (found : Checked.Found) (read : Value → Checked Value) : Checked Value :=
  Value.ofOption <$> Checked.nullable found read

/-- A text as a value. -/
def textValue (v : Value) : Checked Value := Value.text <$> Checked.text v

/-- The envelope that a value holds. -/
def validate : Value → Checked Envelope
  | .object es =>
    let field := Checked.plain es
    Envelope.mk
      <$> Checked.optional (field "status") true statusOf
      <*> Checked.nullable (Checked.spelled es "externalId" "external_id") Checked.text
      <*> valueOr (field "cursor") textValue
      <*> valueOr (field "count") countOf
      <*> Checked.nullable (field "results") (Checked.list Checked.dictionary)
      <*> Checked.optional (field "warnings") [] (Checked.list warningOf)
      <*> Checked.optional (field "errors") [] (Checked.list Checked.dictionary)
      <*> Checked.nullable (field "name") Checked.text
      <*> valueOr (Checked.spelled es "contentType" "content_type") textValue
      <*> valueOr (field "url") textValue
      <*> valueOr (field "content") textValue
  | v => .expected (.model "ResponseEnvelope") v

end Envelope

end RecordBridge
