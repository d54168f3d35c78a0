/-
# Reading directives

A directive arrives as a JSON value.  `Directive.validate` checks every field
in the order of the structure and reports all problems at once.  Two keys have
a second spelling; of both the first one counts, and problems are reported
under the key that was used.  Nothing is converted to text but the operation,
which never fails when it is there.
-/

import RecordBridge.Directive.Basic
import RecordBridge.Directive.Checked
import RecordBridge.Text.Casing

namespace RecordBridge

namespace DirectiveOptions

/-- The options that a value holds; null holds the defaults. -/
def validate : Value → Checked DirectiveOptions
  | .null => .ok {}
  | .object es =>
    let cursor := Checked.spelled es "cursorId" "cursor_id"
    (fun id => { cursorId := id, extra := Entries.erase es cursor.key })
      <$> Checked.nullable cursor Checked.text
  | v => .expected (.model "DirectiveOptions") v

end DirectiveOptions

namespace Directive

/-- The tag of an operation: any value as text in upper case. -/
def tagOf (v : Value) : Checked String := .ok (Text.toUpper v.display)

/-- The directive that a value holds. -/
def validate : Value → Checked Directive
  | .object es =>
    let field := Checked.plain es
    Directive.mk
      <$> Checked.required es (field "op") tagOf
      <*> Checked.required es (Checked.spelled es "targetType" "target_type") Checked.text
      <*> Checked.nullable (field "where") Checked.dictionary
      <*> Checked.nullable (field "properties") (Checked.list Checked.text)
      <*> Checked.nullable (field "values") Checked.dictionary
      <*> Checked.optional (field "options") {} DirectiveOptions.validate
      <*> Checked.nullable (field "name") Checked.text
      <*> Checked.nullable (field "params") Checked.dictionary
      <*> Checked.optional (field "directive_id") none (fun v => some <$> Checked.text v)
  | v => .expected (.model "Directive") v

end Directive

end RecordBridge
