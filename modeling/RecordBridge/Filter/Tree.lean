/-
# Filter trees

A filter is a tree of conditions.  A leaf compares one field with one operand;
a group joins its members.  A group that was written out, by `$and` or `$or`,
is `grouped`; the conjunction that the keys of one document form is not, and
neither is that of several operators on one field.

`document` writes a tree as a filter document again.  The members of an
ungrouped conjunction share one object there, so two members with the same key
meet: objects are joined, and anything else is replaced.
-/

import RecordBridge.Filter.Operator
import RecordBridge.Value.Basic

namespace RecordBridge
namespace Filter

/-- A condition on one field. -/
structure Comparison where
  field : String
  comparator : Comparator
  operand : Value
  deriving DecidableEq

/-- A filter. -/
inductive Tree
  | leaf (c : Comparison)
  | group (connective : Connective) (grouped : Bool) (members : List Tree)

instance : Inhabited Tree := ⟨.group .all true []⟩

namespace Tree

/-- The conjunction of the conditions that stand side by side; one condition
stands for itself, and none is no filter. -/
def conjunction? : List Tree → Option Tree
  | [] => none
  | [t] => some t
  | ts => some (.group .all false ts)

mutual
/-- The conditions on fields, from left to right. -/
def leaves : Tree → List Comparison
  | .leaf c => [c]
  | .group _ _ members => leavesAll members

/-- The conditions on fields of several trees. -/
def leavesAll : List Tree → List Comparison
  | [] => []
  | t :: ts => leaves t ++ leavesAll ts
end

/-- An entry put into a document: two objects under one key are joined. -/
def mergeEntry (document : Object) (key : String) (value : Value) : Object :=
  match document.get? key, value with
  | some (.object old), .object new =>
    document.set key (.object (new.foldl (fun es e => Entries.set es e.1 e.2) old))
  | _, _ => document.set key value

/-- The entries of a document put into another one. -/
def mergeInto (document entries : Object) : Object :=
  entries.foldl (fun d e => mergeEntry d e.1 e.2) document

mutual
/-- The tree as a filter document. -/
def document : Tree → Object
  | .leaf c => [(c.field, .object [(c.comparator.key, c.operand)])]
  | .group .all false members => mergedDocument [] members
  | .group connective _ members => [(connective.key, .list (documents members))]

/-- The trees as one document, put into the given one. -/
def mergedDocument (done : Object) : List Tree → Object
  | [] => done
  | t :: ts => mergedDocument (mergeInto done (document t)) ts

/-- Each tree as a document of its own. -/
def documents : List Tree → List Value
  | [] => []
  | t :: ts => .object (document t) :: documents ts
end

mutual
/-- Equality of trees as a test. -/
def sameAs : Tree → Tree → Bool
  | .leaf c, .leaf d => c = d
  | .group c g ts, .group d h us => c = d && g = h && sameAll ts us
  | _, _ => false

/-- Equality of lists of trees as a test. -/
def sameAll : List Tree → List Tree → Bool
  | [], [] => true
  | t :: ts, u :: us => sameAs t u && sameAll ts us
  | _, _ => false
end

mutual
/-- The test decides equality of trees. -/
theorem sameAs_iff : ∀ t u : Tree, sameAs t u = true ↔ t = u
  | .leaf c, u => by cases u <;> simp [sameAs]
  | .group c g ts, u => by cases u <;> simp [sameAs, sameAll_iff ts, and_assoc]

/-- The test decides equality of lists of trees. -/
theorem sameAll_iff : ∀ ts us : List Tree, sameAll ts us = true ↔ ts = us
  | [], us => by cases us <;> simp [sameAll]
  | t :: ts, us => by cases us <;> simp [sameAll, sameAs_iff t, sameAll_iff ts]
end

instance : DecidableEq Tree := fun t u => decidable_of_iff _ (sameAs_iff t u)

end Tree

end Filter
end RecordBridge
