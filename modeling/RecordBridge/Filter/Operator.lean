/-
# Operators

A filter compares fields by nine comparison operators and joins conditions by
two connectives.  Each has a key, which starts with `$`, and a text in the
query language:

| key               | query text                |
| ----------------- | ------------------------- |
| `$eq` `$ne`       | `=` `!=`                  |
| `$gt` `$gte`      | `>` `>=`                  |
| `$lt` `$lte`      | `<` `<=`                  |
| `$in` `$nin`      | ` IN ` ` NOT IN `         |
| `$regex`          | ` LIKE `                  |
| `$and` `$or`      | ` AND ` ` OR ` as joiners |

The key of a comparison is matched exactly, the key of a connective in any
case.
-/

namespace RecordBridge
namespace Filter

/-- A comparison of a field with an operand. -/
inductive Comparator
  | eq
  | ne
  | gt
  | gte
  | lt
  | lte
  | isIn
  | notIn
  | matches
  deriving DecidableEq, Repr

/-- A way to join conditions. -/
inductive Connective
  | all
  | any
  deriving DecidableEq, Repr

namespace Comparator

/-- The key in a filter document. -/
def key : Comparator → String
  | .eq => "$eq"
  | .ne => "$ne"
  | .gt => "$gt"
  | .gte => "$gte"
  | .lt => "$lt"
  | .lte => "$lte"
  | .isIn => "$in"
  | .notIn => "$nin"
  | .matches => "$regex"

/-- The text between field and operand in a query. -/
def queryText : Comparator → String
  | .eq => "="
  | .ne => "!="
  | .gt => ">"
  | .gte => ">="
  | .lt => "<"
  | .lte => "<="
  | .isIn => " IN "
  | .notIn => " NOT IN "
  | .matches => " LIKE "

/-- All comparisons. -/
def every : List Comparator := [.eq, .ne, .gt, .gte, .lt, .lte, .isIn, .notIn, .matches]

/-- The comparison with a key. -/
def ofKey? (key : String) : Option Comparator := every.find? (·.key = key)

/-- The keys in order of code points. -/
def sortedKeys : List String :=
  ["$eq", "$gt", "$gte", "$in", "$lt", "$lte", "$ne", "$nin", "$regex"]

/-- A comparison is found by its key. -/
theorem ofKey?_key (c : Comparator) : ofKey? c.key = some c := by cases c <;> decide

/-- Only its own key finds a comparison. -/
theorem key_of_ofKey? {key : String} {c : Comparator} (h : ofKey? key = some c) : c.key = key := by
  simpa using List.find?_some h

end Comparator

namespace Connective

/-- The key in a filter document, in lower case. -/
def key : Connective → String
  | .all => "$and"
  | .any => "$or"

/-- The text between two conditions in a query. -/
def queryText : Connective → String
  | .all => " AND "
  | .any => " OR "

/-- A key with its ASCII letters in lower case; no other letter has one of the
letters of a connective as its lower case. -/
def foldCase (key : String) : String := String.ofList (key.toList.map Char.toLower)

/-- The connective with a key in any case. -/
def ofKey? (key : String) : Option Connective :=
  if foldCase key = "$and" then some .all
  else if foldCase key = "$or" then some .any
  else none

/-- The keys in order of code points. -/
def sortedKeys : List String := ["$and", "$or"]

/-- A connective is found by its key. -/
theorem ofKey?_key (c : Connective) : ofKey? c.key = some c := by cases c <;> decide

end Connective

end Filter
end RecordBridge
