/-
# Errors and faults

Everything that can stop a directive is a `Failure`, of one of two kinds.  An
error of the directive has a stable code and a message and ends in an error
answer.  A fault is anything else, such as a value of an impossible shape or a
collaborator that broke down, and passes through unchanged.
-/

import RecordBridge.Directive.Error
import RecordBridge.Filter.Error
import RecordBridge.Record.Error
import RecordBridge.Session.Error
import RecordBridge.Status

namespace RecordBridge

/-- The areas from which a collaborator reports errors in its own words. -/
inductive Area
  | general
  | query
  | directive
  | session
  deriving DecidableEq, Repr

/-- The code of an error that is reported without one. -/
def Area.code : Area → String
  | .general => "integration.error"
  | .query => "integration.query.invalid"
  | .directive => "integration.directive.invalid"
  | .session => "integration.session.error"

/-- An error of a directive. -/
inductive DirectiveError
  | filter (e : Filter.Error)
  | directive (e : Directive.Error)
  | status (e : UnexpectedStatus)
  | record (e : Record.Error)
  | session (e : Session.Error)
  | reported (area : Area) (text : String) (code : Option String)

namespace DirectiveError

/-- The message of the error. -/
def message : DirectiveError → String
  | .filter e => e.message
  | .directive e => e.message
  | .status e => e.message
  | .record e => e.message
  | .session e => e.message
  | .reported _ text _ => text

/-- The stable code of the error. -/
def code : DirectiveError → String
  | .filter e => e.code
  | .directive e => e.code
  | .status e => e.code
  | .record e => e.code
  | .session e => e.code
  | .reported area _ code => code.getD area.code

/-- What the error says besides code and message. -/
def extra : DirectiveError → Object
  | .filter e => e.extra
  | .status e => e.extra
  | .record e => e.extra
  | .directive _ | .session _ | .reported .. => []

/-- The error as it stands in an answer. -/
def toObject (e : DirectiveError) : Object :=
  [("targetType", .text "CdmError"), ("code", .text e.code), ("message", .text e.message)]
    ++ e.extra

end DirectiveError

/-- Why a computation stopped without an error of the directive. -/
inductive Fault
  /-- A number or a time out of range. -/
  | time (f : Time.Fault)
  /-- A value of the wrong shape. -/
  | shape (f : ShapeFault)
  /-- There is no capability and no operator of this name. -/
  | unknownName (name : String)
  /-- An operator stands where none of its kind can. -/
  | misplacedOperator (key : String)
  /-- A collaborator broke down. -/
  | collaborator (kind message : String)

namespace Fault

/-- What a fault says, if it says anything. -/
def message? : Fault → Option String
  | .time (.malformed text) => some ("Invalid ISO 8601 timestamp: " ++ Text.quoted text)
  | .time (.unconvertible what) => some ("Cannot convert " ++ what ++ " to epoch milliseconds")
  | .collaborator _ message => some message
  | _ => none

end Fault

/-- Why a computation stopped. -/
inductive Failure
  | error (e : DirectiveError)
  | fault (f : Fault)

namespace Failure

/-- A failure of a filter. -/
abbrev filter (e : Filter.Error) : Failure := .error (.filter e)

/-- A failure of a directive. -/
abbrev directive (e : Directive.Error) : Failure := .error (.directive e)

/-- A failure of a session. -/
abbrev session (e : Session.Error) : Failure := .error (.session e)

/-- A fault of a time. -/
abbrev time (f : Time.Fault) : Failure := .fault (.time f)

/-- A fault of a shape. -/
abbrev shape (f : ShapeFault) : Failure := .fault (.shape f)

end Failure

end RecordBridge
