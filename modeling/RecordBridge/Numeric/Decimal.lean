/-
# Decimal numerals

A numeral is a sign, a string of digits and a power of ten.  `toBinary64`
reads one as the nearest double, ties to even.  Numerals far outside the range
are settled by their size alone, so a huge exponent costs nothing.
-/

import RecordBridge.Numeric.Binary64

namespace RecordBridge
namespace Numeric

/-- The numeral `± coefficient * 10 ^ exponent`. -/
structure Decimal where
  negative : Bool
  coefficient : Nat
  exponent : Int
  deriving DecidableEq, Repr

namespace Decimal

/-- The value of a digit character. -/
def digitValue (c : Char) : Nat := c.toNat - '0'.toNat

/-- The value of a run of digits, most significant first. -/
def ofDigits (ds : List Char) : Nat := ds.foldl (fun n c => 10 * n + digitValue c) 0

/-- The nearest double.  A numeral of `1e310` or more is infinite and one
below `1e-330` is zero, whatever its digits. -/
def toBinary64 (d : Decimal) : Binary64 :=
  let place : Int := (Nat.toDigits 10 d.coefficient).length + d.exponent
  if d.coefficient = 0 ∨ place < -330 then Binary64.ofRatio d.negative 0 1
  else if 310 < place then .infinite d.negative
  else if 0 ≤ d.exponent then
    Binary64.ofRatio d.negative (d.coefficient * tenPow d.exponent.toNat) 1
  else Binary64.ofRatio d.negative d.coefficient (tenPow (-d.exponent).toNat)

end Decimal

end Numeric
end RecordBridge
