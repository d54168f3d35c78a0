/-
# Double-precision numbers, held exactly

A number that arrives with a fraction or an exponent is a binary64 number.
Here such a number is not a machine word but the value itself: a sign, a
significand and a power of two.  Every operation the rest of the library needs
is one exact rational result, rounded once:

| operation    | exact result          | rounded by    |
| ------------ | --------------------- | ------------- |
| `ofRatio`    | `num / den`           | nearest, even |
| `scale`      | `x * num / den`       | nearest, even |
| `truncate?`  | `x` without fraction  | toward zero   |

The least exponent is `-1074`, the largest `971`, and a significand has at
most 53 bits; a result past the largest finite number is infinite.
`ofRatio_zero` and `roundHalfEven_exact` are the two places where nothing is
rounded at all.
-/

import RecordBridge.Numeric.Power

namespace RecordBridge
namespace Numeric

/-- The natural number nearest to `num / den`; a tie goes to the even one. -/
def roundHalfEven (num den : Nat) : Nat :=
  let q := num / den
  let r := num % den
  if 2 * r < den then q
  else if den < 2 * r then q + 1
  else if q % 2 = 0 then q else q + 1

/-- Rounding to nearest stays within one unit of the quotient. -/
theorem le_roundHalfEven (num den : Nat) : num / den ≤ roundHalfEven num den := by
  unfold roundHalfEven
  dsimp only
  split <;> (try split) <;> (try split) <;> omega

/-- Rounding to nearest never skips past the next whole number. -/
theorem roundHalfEven_le (num den : Nat) : roundHalfEven num den ≤ num / den + 1 := by
  unfold roundHalfEven
  dsimp only
  split <;> (try split) <;> (try split) <;> omega

/-- A quotient that is whole is not moved. -/
theorem roundHalfEven_exact (q : Nat) {den : Nat} (h : 0 < den) :
    roundHalfEven (q * den) den = q := by
  unfold roundHalfEven
  simp [Nat.mul_div_cancel _ h, h]

/-- A binary64 number.  A finite one is `± significand * 2 ^ exponent`. -/
inductive Binary64
  | nan
  | infinite (negative : Bool)
  | finite (negative : Bool) (significand : Nat) (exponent : Int)
  deriving DecidableEq, Inhabited, Repr

namespace Binary64

/-- The exponent of the least positive number. -/
def minExponent : Int := -1074

/-- The exponent of the largest finite numbers. -/
def maxExponent : Int := 971

/-- The bits of a significand. -/
def precision : Nat := 53

/-- The quotient `num / den` in units of `2 ^ exponent`, again as a quotient. -/
def inUnits (num den : Nat) (exponent : Int) : Nat × Nat :=
  if 0 ≤ exponent then (num, den * twoPow exponent.toNat)
  else (num * twoPow (-exponent).toNat, den)

/-- The unit in which `num / den` is to be rounded: the least exponent, at
least `minExponent`, whose units number fewer than `2 ^ precision`. -/
def unitExponent (num den : Nat) : Int :=
  let guess : Int := (num.log2 : Int) - (den.log2 : Int) - precision
  let scaled := inUnits num den guess
  let exact := if scaled.1 / scaled.2 < twoPow precision then guess else guess + 1
  max exact minExponent

/-- A significand of up to `precision` bits and one, put into its normal form,
with the overflow to infinity. -/
def pack (negative : Bool) (significand : Nat) (exponent : Int) : Binary64 :=
  let normal := if significand = twoPow precision then (twoPow (precision - 1), exponent + 1)
    else (significand, exponent)
  if maxExponent < normal.2 then .infinite negative else .finite negative normal.1 normal.2

/-- The number nearest to `± num / den`, ties to an even significand. -/
def ofRatio (negative : Bool) (num den : Nat) : Binary64 :=
  if num = 0 then .finite negative 0 minExponent
  else
    let exponent := unitExponent num den
    let scaled := inUnits num den exponent
    pack negative (roundHalfEven scaled.1 scaled.2) exponent

@[simp] theorem ofRatio_zero (negative : Bool) (den : Nat) :
    ofRatio negative 0 den = .finite negative 0 minExponent := rfl

/-- The number nearest to the quotient of an integer and a natural number. -/
def ofIntRatio (num : Int) (den : Nat) : Binary64 :=
  ofRatio (num < 0) num.natAbs den

/-- The magnitude of a finite number as a quotient of naturals. -/
def ratio (significand : Nat) (exponent : Int) : Nat × Nat :=
  if 0 ≤ exponent then (significand * twoPow exponent.toNat, 1)
  else (significand, twoPow (-exponent).toNat)

/-- The number `x * num / den`, rounded once.  An infinite number stays so. -/
def scale : Binary64 → Nat → Nat → Binary64
  | .nan, _, _ => .nan
  | .infinite s, _, _ => .infinite s
  | .finite s m e, num, den =>
    let r := ratio m e
    ofRatio s (r.1 * num) (r.2 * den)

/-- The integer with the given sign and magnitude. -/
def signed (negative : Bool) (n : Nat) : Int := if negative then -(n : Int) else n

/-- The number without its fraction, toward zero; `none` where there is no
such integer. -/
def truncate? : Binary64 → Option Int
  | .nan | .infinite _ => none
  | .finite s m e =>
    let r := ratio m e
    some (signed s (r.1 / r.2))

/-- Whether a finite number is a whole number. -/
def isWhole : Binary64 → Bool
  | .nan | .infinite _ => false
  | .finite _ m e =>
    let r := ratio m e
    r.1 % r.2 = 0

/-- Whether the number counts as zero; the sign does not matter. -/
def isZero : Binary64 → Bool
  | .finite _ m _ => m = 0
  | _ => false

end Binary64

end Numeric
end RecordBridge
