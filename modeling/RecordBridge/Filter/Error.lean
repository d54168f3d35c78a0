/-
# What can be wrong with a filter

The causes for which a filter is refused, each with its message and its code.
Where a name is unknown the message proposes the names most like it.
-/

import RecordBridge.Filter.Operator
import RecordBridge.Text.Similarity
import RecordBridge.Value.Inspect

namespace RecordBridge
namespace Filter

/-- Why a filter was refused. -/
inductive Error
  /-- A filter is a value of this kind and not an object. -/
  | notAnObject (kind : String)
  /-- The conditions of a connective are not in a list. -/
  | needsList (connective : Connective)
  /-- The condition on a field is an empty object. -/
  | noOperator (field : String)
  /-- The operand of a comparison is a container. -/
  | needsScalar (comparator : Comparator) (field : String)
  /-- The operand list of a comparison is empty. -/
  | needsValue (comparator : Comparator) (field : String)
  /-- The lower bound of a delta is no point in time. -/
  | invalidBound (field : String) (bound : Value)
  /-- The type has no such field; its name is what its description holds. -/
  | unknownField (field : String) (typeName : Value) (available : List String)
  /-- There is no such operator. -/
  | unknownOperator (operator : String) (valid : List String) (context : Option String)
  /-- The regular expression has no pattern that matches the same texts. -/
  | unsupportedPattern (pattern : Value) (reason : Option String)

namespace Error

/-- The names to propose instead, best first. -/
def suggestions : Error → List String
  | .unknownField field _ available => Text.closeMatches field available
  | .unknownOperator operator valid _ => Text.closeMatches operator valid
  | _ => []

/-- The sentence that proposes names, if there are any. -/
def proposal (names : List String) : String :=
  if names.isEmpty then "" else " Did you mean: " ++ Value.joined ", " names ++ "?"

/-- The message of the error. -/
def message : Error → String
  | .notAnObject kind => "Filter must be an object, got " ++ kind
  | .needsList c => "Logical operator '" ++ c.key ++ "' requires a list of conditions"
  | .noOperator field => "No operator given for field '" ++ field ++ "'"
  | .needsScalar c field =>
    "Operator '" ++ c.key ++ "' on '" ++ field ++ "' requires a scalar value"
  | .needsValue c field =>
    "Operator '" ++ c.key ++ "' on '" ++ field ++ "' requires at least one value"
  | .invalidBound field bound => "Invalid lower bound for " ++ field ++ ": " ++ bound.inspect
  | .unknownField field typeName available =>
    "Missing property info in query: '" ++ field ++ "' on '" ++ typeName.display ++ "'."
      ++ proposal (Text.closeMatches field available)
  | .unknownOperator operator valid context =>
    "Unsupported operator: '" ++ operator ++ "'"
      ++ (match context with
        | some c => if c.isEmpty then "" else " in " ++ c
        | none => "")
      ++ "." ++ proposal (Text.closeMatches operator valid)
  | .unsupportedPattern pattern reason =>
    "Unsupported regular expression " ++ pattern.inspect
      ++ (match reason with
        | some r => if r.isEmpty then "" else ": " ++ r
        | none => "")

/-- The code of the error. -/
def code : Error → String
  | .unknownField .. => "integration.query.unknownField"
  | .unknownOperator .. => "integration.query.unsupportedOperator"
  | .unsupportedPattern .. => "integration.query.unsupportedPattern"
  | _ => "integration.query.invalid"

/-- What the error says besides code and message. -/
def extra : Error → Object
  | e@(.unknownField field _ _) =>
    [("field", .text field), ("suggestions", Value.ofTexts e.suggestions)]
  | e@(.unknownOperator operator _ _) =>
    [("operator", .text operator), ("suggestions", Value.ofTexts e.suggestions)]
  | _ => []

end Error

end Filter
end RecordBridge
