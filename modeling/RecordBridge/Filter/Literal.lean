/-
# Literals of the query language

A text stands between single quotes, with a backslash before every quote and
every backslash in it.  Numbers, truth values and null stand for themselves.
A field of points in time takes its literals without quotes: a text is taken
over as it is, a number or a time is written with second precision, and a day
without its time.
-/

import RecordBridge.Catalog.Basic
import RecordBridge.Error
import RecordBridge.Value.Temporal

namespace RecordBridge
namespace Filter

/-- A character between quotes. -/
def quoteChar (c : Char) : List Char := if c = '\\' ∨ c = '\'' then ['\\', c] else [c]

/-- The characters of a text between quotes. -/
def quoteChars (cs : List Char) : List Char := '\'' :: cs.flatMap quoteChar ++ ['\'']

/-- A text between quotes. -/
def quote (s : String) : String := String.ofList (quoteChars s.toList)

/-- An operand by its own kind. -/
def plainLiteral : Value → String
  | .null => "null"
  | .bool b => if b then "true" else "false"
  | .int n => Value.display (.int n)
  | .float x => Value.display (.float x)
  | .decimal d => d.text
  | v => quote v.display

/-- An operand of a field of points in time or of days, if it has a form of
its own there. -/
def temporalLiteral? (f : Catalog.Field) (v : Value) : Option (Except Failure String) :=
  if f.isDateTime then
    match v with
    | .text s => some (.ok s)
    | .bool _ => none
    | v => v.literalDateTime?.map fun r => r.mapError Failure.time
  else if f.isDate then
    match v with
    | .text s => some (.ok s)
    | .bool _ => none
    | v => v.literalDate?.map fun r => r.mapError Failure.time
  else none

/-- An operand as a literal of its field. -/
def literal (f : Catalog.Field) (v : Value) : Except Failure String :=
  (temporalLiteral? f v).getD (.ok (plainLiteral v))

end Filter
end RecordBridge
