/-
# Filters as query text

`render` writes a tree as the condition of a query.  A leaf is a field, an
operator and a literal of the field; a list of literals stands in parentheses.
The members of a group are joined by its connective.  A group that was written
out has parentheses around it, and a conjunction that was not has none, wherever
it stands.

Every field has to be in the catalog, which also says what kind of literals it
takes.
-/

import RecordBridge.Filter.Literal
import RecordBridge.Filter.Parse
import RecordBridge.Pattern.Like

namespace RecordBridge
namespace Filter

/-- The pattern for an operand, ready to stand between quotes. -/
def patternOf (operand : Value) : Except Error String :=
  let read (s : String) : Except Error String :=
    (Pattern.likeOf s).mapError fun r => .unsupportedPattern (.text s) (some r.reason)
  match operand with
  | .text s => read s
  | .pattern s => read s
  | v => .error (.unsupportedPattern v (some Pattern.Refusal.notText.reason))

/-- The failure for a field that is not in the catalog. -/
def unknownField (field : String) (catalog : Catalog) : Failure :=
  match catalog.textNames with
  | .ok names => .filter (.unknownField field catalog.name names)
  | .error kind => .shape (.noLength kind)

/-- The operands of a comparison with a list; a single one counts as a list. -/
def operands (c : Comparison) : Except Error (List Value) :=
  let vs := match c.operand with
    | .list vs | .tuple vs | .set vs => vs
    | v => [v]
  if vs.isEmpty then .error (.needsValue c.comparator c.field) else .ok vs

/-- Whether an operand is a container. -/
def isContainer : Value → Bool
  | .list _ | .tuple _ | .set _ | .object _ => true
  | _ => false

/-- The literals of a list of operands, in order. -/
def literals (f : Catalog.Field) : List Value → Except Failure (List String)
  | [] => .ok []
  | v :: vs => do
    let s ← literal f v
    let ss ← literals f vs
    .ok (s :: ss)

/-- The text after the operator of a comparison on a field of the catalog. -/
def renderOperand (f : Catalog.Field) (c : Comparison) : Except Failure String :=
  match c.comparator with
  | .matches => do
    let p ← (patternOf c.operand).mapError Failure.filter
    .ok ("'" ++ p ++ "'")
  | .isIn | .notIn => do
    let vs ← (operands c).mapError Failure.filter
    let ss ← literals f vs
    .ok ("(" ++ Value.joined "," ss ++ ")")
  | _ =>
    if isContainer c.operand then .error (.filter (.needsScalar c.comparator c.field))
    else literal f c.operand

/-- A comparison as query text. -/
def renderComparison (catalog : Catalog) (c : Comparison) : Except Failure String :=
  match catalog.get? c.field with
  | none => .error (unknownField c.field catalog)
  | some f => (renderOperand f c).map fun s => c.field ++ c.comparator.queryText ++ s

/-- Conditions joined by a connective, in parentheses if they are grouped. -/
def joinConditions (connective : Connective) (grouped : Bool) (parts : List String) : String :=
  let body := Value.joined connective.queryText parts
  if grouped then "(" ++ body ++ ")" else body

mutual
/-- A tree as query text. -/
def render (catalog : Catalog) : Tree → Except Failure String
  | .leaf c => renderComparison catalog c
  | .group connective grouped members => do
    let parts ← renderAll catalog members
    .ok (joinConditions connective grouped parts)

/-- Each tree as query text, in order. -/
def renderAll (catalog : Catalog) : List Tree → Except Failure (List String)
  | [] => .ok []
  | t :: ts => do
    let s ← render catalog t
    let ss ← renderAll catalog ts
    .ok (s :: ss)
end

/-- The condition of a filter document, if it amounts to one.  What is neither
a document nor null is taken for a finished condition, and has no field. -/
def conditionOf (document : Value) : Except Failure (Option Tree) :=
  match document with
  | .null | .object _ => (parse document).mapError Failure.filter
  | v => .error (.shape (.noOperation v.kindName "field"))

/-- A filter document as query text; the empty text is no condition. -/
def renderDocument (catalog : Catalog) (document : Value) : Except Failure String := do
  match ← conditionOf document with
  | none => .ok ""
  | some t => render catalog t

end Filter
end RecordBridge
