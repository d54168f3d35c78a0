/-
# Values

What directives carry, remote records hold and answers return: JSON values,
where integers are unbounded and apart from doubles, objects keep the order of
their keys, and a few values have no JSON form.  A host may hand in decimals,
timestamps, dates, tuples, sets and compiled patterns; messages name all of
them by `kindName`.

Two notions of sameness are kept apart.  Equality is structural and decidable.
`sameKey` is the coarser one under which keys collide: an integer, a double
and a truth value are one key when their numbers are equal.
-/

import RecordBridge.Numeric.DecimalDatum
import RecordBridge.Time.Timestamp
import RecordBridge.Value.Entries

namespace RecordBridge

open Numeric (Binary64 DecimalDatum)

/-- A value. -/
inductive Value
  | null
  | bool (b : Bool)
  | int (n : Int)
  | float (x : Binary64)
  | text (s : String)
  | list (xs : List Value)
  | object (entries : List (String × Value))
  | decimal (d : DecimalDatum)
  | instant (t : Time.Timestamp)
  | date (d : Time.Date)
  | tuple (xs : List Value)
  | set (xs : List Value)
  | pattern (source : String)
  deriving Inhabited

/-- The entries of an object value. -/
abbrev Object := Entries Value

namespace Value

mutual
/-- Structural equality as a test. -/
def sameAs : Value → Value → Bool
  | .null, .null => true
  | .bool a, .bool b => a == b
  | .int a, .int b => a == b
  | .float a, .float b => a == b
  | .text a, .text b => a == b
  | .list a, .list b => sameList a b
  | .object a, .object b => sameEntries a b
  | .decimal a, .decimal b => a == b
  | .instant a, .instant b => a == b
  | .date a, .date b => a == b
  | .tuple a, .tuple b => sameList a b
  | .set a, .set b => sameList a b
  | .pattern a, .pattern b => a == b
  | _, _ => false

/-- Structural equality of lists of values. -/
def sameList : List Value → List Value → Bool
  | [], [] => true
  | x :: xs, y :: ys => sameAs x y && sameList xs ys
  | _, _ => false

/-- Structural equality of entries. -/
def sameEntries : List (String × Value) → List (String × Value) → Bool
  | [], [] => true
  | (k, x) :: xs, (l, y) :: ys => k == l && sameAs x y && sameEntries xs ys
  | _, _ => false
end

mutual
/-- The test decides equality. -/
theorem sameAs_iff : ∀ v w : Value, sameAs v w = true ↔ v = w
  | .list a, w => by cases w <;> simp [sameAs, sameList_iff a]
  | .object a, w => by cases w <;> simp [sameAs, sameEntries_iff a]
  | .tuple a, w => by cases w <;> simp [sameAs, sameList_iff a]
  | .set a, w => by cases w <;> simp [sameAs, sameList_iff a]
  | .null, w | .bool _, w | .int _, w | .float _, w | .text _, w | .decimal _, w
  | .instant _, w | .date _, w | .pattern _, w => by cases w <;> simp [sameAs]

/-- The test decides equality of lists. -/
theorem sameList_iff : ∀ xs ys : List Value, sameList xs ys = true ↔ xs = ys
  | [], ys => by cases ys <;> simp [sameList]
  | x :: xs, ys => by cases ys <;> simp [sameList, sameAs_iff x, sameList_iff xs]

/-- The test decides equality of entries. -/
theorem sameEntries_iff : ∀ xs ys : List (String × Value), sameEntries xs ys = true ↔ xs = ys
  | [], ys => by cases ys <;> simp [sameEntries]
  | (k, x) :: xs, ys => by
    cases ys <;> simp [sameEntries, sameAs_iff x, sameEntries_iff xs, Prod.ext_iff]
end

instance : DecidableEq Value := fun v w => decidable_of_iff _ (sameAs_iff v w)

/-- What messages call the kind of a value. -/
def kindName : Value → String
  | .null => "NoneType"
  | .bool _ => "bool"
  | .int _ => "int"
  | .float _ => "float"
  | .text _ => "str"
  | .list _ => "list"
  | .object _ => "dict"
  | .decimal _ => "Decimal"
  | .instant _ => "datetime"
  | .date _ => "date"
  | .tuple _ => "tuple"
  | .set _ => "set"
  | .pattern _ => "Pattern"

/-- Whether a value counts as present: false are null, false, zero and
everything empty. -/
def isPresent : Value → Bool
  | .null => false
  | .bool b => b
  | .int n => n ≠ 0
  | .float x => !x.isZero
  | .text s => !s.isEmpty
  | .list xs | .tuple xs | .set xs => !xs.isEmpty
  | .object es => !es.isEmpty
  | .decimal d => !d.isZero
  | .instant _ | .date _ | .pattern _ => true

/-- Whether a value is null. -/
def isNull : Value → Bool
  | .null => true
  | _ => false

/-- The entries, if the value is an object. -/
def object? : Value → Option Object
  | .object es => some es
  | _ => none

/-- A value or null. -/
def ofOption (v : Option Value) : Value := v.getD .null

/-- A text or null. -/
def ofText? (s : Option String) : Value := ofOption (s.map .text)

/-- A list of texts. -/
def ofTexts (ss : List String) : Value := .list (ss.map .text)

/-- The integer that a value is as a key, if it is one: an integer, a whole
double or a truth value. -/
def wholeKey? : Value → Option Int
  | .bool b => some (if b then 1 else 0)
  | .int n => some n
  | .float x => if x.isWhole then x.truncate? else none
  | _ => none

/-- Whether two scalar values are one key. -/
def sameKey (v w : Value) : Bool :=
  match v.wholeKey?, w.wholeKey? with
  | some m, some n => m = n
  | none, none => v = w
  | _, _ => false

end Value

end RecordBridge
