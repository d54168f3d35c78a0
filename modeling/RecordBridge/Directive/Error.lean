/-
# What can be wrong with a directive

First the problems that validation finds in a JSON value: what was expected at
which path, and what stood there.  Then the causes for which a directive that
is well formed has no request.
-/

import RecordBridge.Value.Inspect

namespace RecordBridge

/-- What was expected where a problem stands. -/
inductive Expectation
  /-- A key that is required. -/
  | present
  | text
  | dictionary
  | list
  /-- An object that becomes a value of the named type. -/
  | model (name : String)
  /-- A whole number, where a number with a fraction stood. -/
  | wholeNumber
  /-- A number, where an infinity or no number stood. -/
  | finiteNumber
  /-- A number, where another text stood. -/
  | numeral
  /-- A number of a size that is read, where a greater one stood. -/
  | moderateNumber
  /-- A number, where something else stood. -/
  | number
  /-- One of the two answers to a directive. -/
  | status
  deriving DecidableEq, Repr

namespace Expectation

/-- The tag of the problem. -/
def tag : Expectation → String
  | .present => "missing"
  | .text => "string_type"
  | .dictionary => "dict_type"
  | .list => "list_type"
  | .model _ => "model_type"
  | .wholeNumber => "int_from_float"
  | .finiteNumber => "finite_number"
  | .numeral => "int_parsing"
  | .moderateNumber => "int_parsing_size"
  | .number => "int_type"
  | .status => "enum"

/-- The problem in words. -/
def message : Expectation → String
  | .present => "Field required"
  | .text => "Input should be a valid string"
  | .dictionary => "Input should be a valid dictionary"
  | .list => "Input should be a valid list"
  | .model name => "Input should be a valid dictionary or instance of " ++ name
  | .wholeNumber => "Input should be a valid integer, got a number with a fractional part"
  | .finiteNumber => "Input should be a finite number"
  | .numeral => "Input should be a valid integer, unable to parse string as an integer"
  | .moderateNumber =>
    "Unable to parse input string as an integer, exceeded maximum size"
  | .number => "Input should be a valid integer"
  | .status => "Input should be 'SUCCESS' or 'ERROR'"

end Expectation

/-- A step into a value: an entry by its key or a list element by its place. -/
inductive Step
  | key (k : String)
  | index (n : Nat)
  deriving DecidableEq, Repr

/-- A step as a value. -/
def Step.value : Step → Value
  | .key k => .text k
  | .index n => .int n

/-- A problem at a path, with the value that stood there. -/
structure Problem where
  expectation : Expectation
  path : List Step
  input : Value

namespace Problem

/-- The problem at a longer path. -/
def under (step : Step) (p : Problem) : Problem := { p with path := step :: p.path }

/-- The problem as an object. -/
def toObject (p : Problem) : Object :=
  [("type", .text p.expectation.tag), ("loc", .tuple (p.path.map Step.value)),
    ("msg", .text p.expectation.message), ("input", p.input)]
    ++ (match p.expectation with
      | .model name => [("ctx", .object [("class_name", .text name)])]
      | _ => [])

end Problem

namespace Directive

/-- Why a directive has no request. -/
inductive Error
  /-- The value is no directive. -/
  | malformed (problems : List Problem)
  /-- The operation needs a parameter; an empty message is replaced. -/
  | missingParameter (parameter : String) (message : Option String)
  /-- No such operation is offered on the type. -/
  | unsupportedInvoke (name : Option String) (targetType : String)
  /-- The operation is none of the five. -/
  | unrecognizedOperation (op : Value)

namespace Error

/-- The message of the error. -/
def message : Error → String
  | .malformed problems =>
    "Malformed directive: " ++ (Value.list (problems.map fun p => .object p.toObject)).inspect
  | .missingParameter parameter message =>
    match message with
    | some m => if m.isEmpty then "Directive must include '" ++ parameter ++ "'" else m
    | none => "Directive must include '" ++ parameter ++ "'"
  | .unsupportedInvoke name targetType =>
    "Unsupported INVOKE operation: " ++ (Value.ofText? name).display ++ " on " ++ targetType
  | .unrecognizedOperation op =>
    "Unrecognized REST operation in request: " ++ op.inspect

/-- The code of the error. -/
def code : Error → String
  | .malformed _ => "integration.directive.invalid"
  | .missingParameter .. => "integration.directive.missingParameter"
  | .unsupportedInvoke .. => "integration.directive.unsupportedInvoke"
  | .unrecognizedOperation _ => "integration.directive.unrecognizedOperation"

end Error

end Directive

end RecordBridge
