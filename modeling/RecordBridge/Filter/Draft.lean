/-
# Trees put together by hand

A host may put a tree together without a filter document, and nothing keeps it
from naming a comparison where conditions are joined, or a connective where a
field is compared.  A draft is such a tree.  Rendering it stops at the first
operator that is out of place; a tree, where none is, renders as a draft to
the same text (`render_ofTree`).
-/

import RecordBridge.Filter.Render

namespace RecordBridge
namespace Filter

/-- An operator of either kind. -/
inductive Operator
  | comparison (c : Comparator)
  | joining (c : Connective)
  deriving DecidableEq, Repr

namespace Operator

/-- The key of the operator. -/
def key : Operator → String
  | .comparison c => c.key
  | .joining c => c.key

/-- All operators. -/
def every : List Operator := Comparator.every.map .comparison ++ [.joining .all, .joining .any]

/-- The operator with a key, which is matched exactly. -/
def ofKey? (key : String) : Option Operator := every.find? (·.key = key)

end Operator

/-- A tree with any operators. -/
inductive Draft
  | leaf (field : String) (operator : Operator) (operand : Value)
  | group (operator : Operator) (grouped : Bool) (members : List Draft)

instance : Inhabited Draft := ⟨.group (.joining .all) true []⟩

namespace Draft

/-- The failure for an operator that is out of place. -/
def misplaced (operator : Operator) : Failure := .fault (.misplacedOperator operator.key)

mutual
/-- A draft as query text.  A field that the catalog lacks is reported before
the operator on it, and the operator of a group before its members. -/
def render (catalog : Catalog) : Draft → Except Failure String
  | .leaf field (.comparison c) operand => renderComparison catalog ⟨field, c, operand⟩
  | .leaf field (.joining c) _ =>
    .error (if catalog.has field then misplaced (.joining c) else unknownField field catalog)
  | .group (.joining c) grouped members => do
    let parts ← renderAll catalog members
    .ok (joinConditions c grouped parts)
  | .group (.comparison c) _ _ => .error (misplaced (.comparison c))

/-- Each draft as query text, in order. -/
def renderAll (catalog : Catalog) : List Draft → Except Failure (List String)
  | [] => .ok []
  | d :: ds => do
    let s ← render catalog d
    let ss ← renderAll catalog ds
    .ok (s :: ss)
end

mutual
/-- A tree as a draft. -/
def ofTree : Tree → Draft
  | .leaf c => .leaf c.field (.comparison c.comparator) c.operand
  | .group connective grouped members => .group (.joining connective) grouped (ofTrees members)

/-- Trees as drafts. -/
def ofTrees : List Tree → List Draft
  | [] => []
  | t :: ts => ofTree t :: ofTrees ts
end

mutual
/-- A tree renders as a draft to the same text. -/
theorem render_ofTree (catalog : Catalog) :
    ∀ t : Tree, render catalog (ofTree t) = Filter.render catalog t
  | .leaf _ => rfl
  | .group _ _ members => by
    simp only [ofTree, render, Filter.render, renderAll_ofTrees catalog members]

/-- Trees render as drafts to the same texts. -/
theorem renderAll_ofTrees (catalog : Catalog) :
    ∀ ts : List Tree, renderAll catalog (ofTrees ts) = Filter.renderAll catalog ts
  | [] => rfl
  | t :: ts => by
    simp only [ofTrees, renderAll, Filter.renderAll, render_ofTree catalog t,
      renderAll_ofTrees catalog ts]
end

end Draft

end Filter
end RecordBridge
