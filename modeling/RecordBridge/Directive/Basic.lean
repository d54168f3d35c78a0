/-
# Directives

A directive is a request against a typed entity in neutral terms: select,
insert, update and delete records, or invoke a named operation.  The operation
is kept as the tag that was given, in upper case, so that an unknown one is
reported for what it is.
-/

import RecordBridge.Value.Inspect

namespace RecordBridge

/-- What a directive asks for. -/
inductive Operation
  | select
  | insert
  | update
  | delete
  | invoke
  deriving DecidableEq, Repr

namespace Operation

/-- The tag of an operation. -/
def tag : Operation → String
  | .select => "SELECT"
  | .insert => "INSERT"
  | .update => "UPDATE"
  | .delete => "DELETE"
  | .invoke => "INVOKE"

/-- The operation with a tag. -/
def ofTag? (s : String) : Option Operation :=
  [Operation.select, .insert, .update, .delete, .invoke].find? (·.tag = s)

/-- An operation is found by its tag. -/
theorem ofTag?_tag (o : Operation) : ofTag? o.tag = some o := by cases o <;> decide

end Operation

/-- Options of a directive; all but the cursor are passed over. -/
structure DirectiveOptions where
  cursorId : Option String := none
  extra : Object := []

/-- A directive. -/
structure Directive where
  op : String
  targetType : String
  /-- The filter document. -/
  filter : Option Object := none
  properties : Option (List String) := none
  values : Option Object := none
  options : DirectiveOptions := {}
  /-- The name of an operation to invoke. -/
  name : Option String := none
  params : Option Object := none
  /-- The identifier that the caller gave, if any. -/
  directiveId : Option String := none

namespace Directive

/-- The operation, if the tag is one of the five. -/
def operation? (d : Directive) : Option Operation := Operation.ofTag? d.op

/-- The place to go on from in a result that comes in pages. -/
def cursor? (d : Directive) : Option String := d.options.cursorId

/-- The identifier of the record to update or delete. -/
def externalId? (d : Directive) : Option String :=
  match d.filter.bind (·.get? "externalId") with
  | none | some .null => none
  | some v => some v.display

end Directive

end RecordBridge
