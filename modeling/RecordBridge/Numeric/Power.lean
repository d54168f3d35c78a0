/-
# Powers of the two bases

Doubles are counted in powers of two and numerals in powers of ten.  A power of
two is positive, so no double is counted in an empty unit.
-/

namespace RecordBridge
namespace Numeric

/-- A power of two. -/
def twoPow (n : Nat) : Nat := Nat.pow 2 n

/-- A power of ten. -/
def tenPow (n : Nat) : Nat := Nat.pow 10 n

/-- The next power of two is twice the last one. -/
theorem twoPow_succ (n : Nat) : twoPow (n + 1) = twoPow n * 2 := rfl

/-- A power of two is positive. -/
theorem twoPow_pos (n : Nat) : 0 < twoPow n := Nat.two_pow_pos n

end Numeric
end RecordBridge
