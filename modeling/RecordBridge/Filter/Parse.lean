/-
# Filter documents

A filter document is an object whose entries are conditions:

    document   = null | { entry* }
    entry      = "$and" : [document*] | "$or" : [document*]
               | field : operand | field : { operator : operand, … }

The keys of connectives are read in any case, those of operators exactly.  A
bare operand is an equality test.  An empty document, and a connective without
a condition in it, is no condition at all.
-/

import RecordBridge.Filter.Error
import RecordBridge.Filter.Tree

namespace RecordBridge
namespace Filter

/-- One operator on a field. -/
def parseOperator (field : String) (entry : String × Value) : Except Error Tree :=
  match Comparator.ofKey? entry.1 with
  | some c => .ok (.leaf ⟨field, c, entry.2⟩)
  | none =>
    .error (.unknownOperator entry.1 Comparator.sortedKeys
      (some ("condition on '" ++ field ++ "'")))

/-- The operators on a field. -/
def parseOperators (field : String) : Object → Except Error (List Tree)
  | [] => .ok []
  | e :: es => do
    let t ← parseOperator field e
    let ts ← parseOperators field es
    .ok (t :: ts)

/-- The condition on a field. -/
def parseField (field : String) : Value → Except Error (Option Tree)
  | .object [] => .error (.noOperator field)
  | .object es => (parseOperators field es).map Tree.conjunction?
  | v => .ok (some (.leaf ⟨field, .eq, v⟩))

/-- The group of the conditions in a list; without any there is no group. -/
def group? (connective : Connective) : List Tree → Option Tree
  | [] => none
  | ts => some (.group connective true ts)

/-- Whether a key names a connective and not a field. -/
def isOperatorKey (key : String) : Bool := key.toList.head? = some '$'

/-- The condition of an entry, if it amounts to one.  `members` holds the
conditions in the value when the value is a list of documents. -/
def entryCondition (key : String) (v : Value) (members : Option (Except Error (List Tree))) :
    Except Error (Option Tree) :=
  if isOperatorKey key then
    match Connective.ofKey? key, members with
    | none, _ => .error (.unknownOperator key Connective.sortedKeys (some "query document"))
    | some c, none => .error (.needsList c)
    | some c, some ts => ts.map (group? c)
  else parseField key v

/-- The entry of a field is the condition on that field. -/
theorem entryCondition_of_field {key : String} (h : isOperatorKey key = false) (v : Value)
    (members : Option (Except Error (List Tree))) :
    entryCondition key v members = parseField key v := by
  unfold entryCondition
  rw [h, if_neg Bool.false_ne_true]

mutual
/-- A filter document as a tree. -/
def parse : Value → Except Error (Option Tree)
  | .null => .ok none
  | .object es => (parseEntries es).map Tree.conjunction?
  | v => .error (.notAnObject v.kindName)

/-- The conditions of a document, in order. -/
def parseEntries : List (String × Value) → Except Error (List Tree)
  | [] => .ok []
  | (key, v) :: es => do
    let t ← entryCondition key v (parseMembers v)
    let ts ← parseEntries es
    .ok (t.toList ++ ts)

/-- The conditions in a value that is a list. -/
def parseMembers : Value → Option (Except Error (List Tree))
  | .list vs | .tuple vs => some (parseAll vs)
  | _ => none

/-- The conditions in a list of documents, in order. -/
def parseAll : List Value → Except Error (List Tree)
  | [] => .ok []
  | v :: vs => do
    let t ← parse v
    let ts ← parseAll vs
    .ok (t.toList ++ ts)
end

end Filter
end RecordBridge
