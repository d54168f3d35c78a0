/-
# The unit of a rounded quotient

A quotient is rounded in units of a power of two, the one in which it has 53
bits.  Where that unit is known (`unitExponent_eq`), so is the double: it is the
nearest whole number of units, and the comparison of that number with an even
one is a comparison of products (`ofRatio_units`).  Even numbers are all that is
asked about, since a tie goes to them.
-/

import RecordBridge.Proofs.Numeric.Rounding

namespace RecordBridge
namespace Numeric

variable {num den q k : Nat}

/-- A common factor does not change the nearest whole number. -/
theorem roundHalfEven_mul_right (num den : Nat) {c : Nat} (hc : 0 < c) :
    roundHalfEven (num * c) (den * c) = roundHalfEven num den := by
  have hrest : ∀ a b : Nat, a * c < b * c ↔ a < b := fun a b => Nat.mul_lt_mul_right hc
  unfold roundHalfEven
  simp only [Nat.mul_div_mul_right _ _ hc, Nat.mul_mod_mul_right, ← Nat.mul_assoc, hrest]

/-- An even number is reached from half a unit before it. -/
theorem le_roundHalfEven_iff (hden : 0 < den) (hq : q % 2 = 0) :
    q ≤ roundHalfEven num den ↔ 2 * (q * den) ≤ 2 * num + den := by
  have hmod : num % den < den := Nat.mod_lt num hden
  have hsplit : num / den * den + num % den = num := by
    rw [Nat.mul_comm]
    exact Nat.div_add_mod num den
  rcases (by omega : q ≤ num / den ∨ q = num / den + 1 ∨ num / den + 2 ≤ q) with h | rfl | h
  · have hle : q * den ≤ num / den * den := Nat.mul_le_mul_right den h
    exact iff_of_true (h.trans (le_roundHalfEven num den)) (by omega)
  · -- the quotient is odd, so a tie goes to the even number after it
    have hnext : num / den + 1 ≤ roundHalfEven num den ↔ den ≤ 2 * (num % den) := by
      unfold roundHalfEven
      dsimp only
      split_ifs <;> omega
    have hsucc : (num / den + 1) * den = num / den * den + den := Nat.succ_mul ..
    rw [hnext, hsucc]
    omega
  · have hle : (num / den + 2) * den ≤ q * den := Nat.mul_le_mul_right den h
    rw [Nat.add_mul] at hle
    have hround := roundHalfEven_le num den
    exact iff_of_false (by omega) (by omega)

namespace Binary64

theorem inUnits_neg (num den k : Nat) : inUnits num den (-(k : Int)) = (num * 2 ^ k, den) := by
  unfold inUnits
  obtain rfl | hk := Nat.eq_zero_or_pos k
  · simp
  · rw [if_neg (by omega), neg_neg, Int.toNat_natCast, twoPow_eq]

/-- The unit in which a quotient has 53 bits is the one in which it is rounded. -/
theorem unitExponent_eq (hden : 0 < den) (hlow : 2 ^ 52 * den ≤ num * 2 ^ k)
    (hhigh : num * 2 ^ k < 2 ^ 53 * den) (hk : k ≤ 1074) : unitExponent num den = -(k : Int) := by
  have hnum : 0 < num := by
    by_contra hzero
    obtain rfl : num = 0 := by omega
    omega
  have hbits : den.log2 + 52 < num.log2 + 1 + k := by
    rw [← Nat.pow_lt_pow_iff_right one_lt_two]
    calc 2 ^ (den.log2 + 52) = 2 ^ 52 * 2 ^ den.log2 := by rw [pow_add, Nat.mul_comm]
      _ ≤ 2 ^ 52 * den := Nat.mul_le_mul_left _ (Nat.log2_self_le hden.ne')
      _ ≤ num * 2 ^ k := hlow
      _ < 2 ^ (num.log2 + 1) * 2 ^ k := by gcongr; exact Nat.lt_log2_self
      _ = 2 ^ (num.log2 + 1 + k) := (pow_add ..).symm
  have hbits' : num.log2 + k < den.log2 + 54 := by
    rw [← Nat.pow_lt_pow_iff_right one_lt_two]
    calc 2 ^ (num.log2 + k) = 2 ^ num.log2 * 2 ^ k := pow_add ..
      _ ≤ num * 2 ^ k := Nat.mul_le_mul_right _ (Nat.log2_self_le hnum.ne')
      _ < 2 ^ 53 * den := hhigh
      _ ≤ 2 ^ 53 * 2 ^ (den.log2 + 1) := Nat.mul_le_mul_left _ Nat.lt_log2_self.le
      _ = 2 ^ (den.log2 + 54) := by rw [← pow_add]; congr 1; omega
  unfold unitExponent minExponent precision
  dsimp only
  rcases (by omega : num.log2 + k = den.log2 + 53 ∨ num.log2 + k = den.log2 + 52) with h | h
  · have hguess : (num.log2 : Int) - den.log2 - (53 : Nat) = -(k : Int) := by omega
    have hfits : num * 2 ^ k / den < 2 ^ 53 := (Nat.div_lt_iff_lt_mul hden).2 hhigh
    rw [hguess, inUnits_neg, twoPow_eq, if_pos hfits]
    omega
  · have hguess : (num.log2 : Int) - den.log2 - (53 : Nat) = -((k + 1 : Nat) : Int) := by omega
    have hover : ¬ num * 2 ^ (k + 1) / den < 2 ^ 53 := by
      rw [Nat.div_lt_iff_lt_mul hden, pow_succ, ← Nat.mul_assoc]
      omega
    rw [hguess, inUnits_neg, twoPow_eq, if_neg hover]
    omega

/-- **A quotient of 53 bits in a unit is rounded to a whole number of units.** -/
theorem ofRatio_units (negative : Bool) (hden : 0 < den) (hlow : 2 ^ 52 * den ≤ num * 2 ^ k)
    (hhigh : num * 2 ^ k < 2 ^ 53 * den) (hk : k ≤ 1074) :
    ∃ m e, ofRatio negative num den = .finite negative m e ∧
      (m : ℚ) * 2 ^ e = roundHalfEven (num * 2 ^ k) den / 2 ^ k := by
  have hnum : num ≠ 0 := by
    rintro rfl
    omega
  unfold ofRatio
  rw [if_neg hnum, unitExponent_eq hden hlow hhigh hk]
  dsimp only
  rw [inUnits_neg]
  obtain ⟨-, hlarge⟩ | ⟨m, e, hfinite, hvalue⟩ :=
    pack_cases negative (roundHalfEven (num * 2 ^ k) den) (-(k : Int))
  · rw [maxExponent] at hlarge
    omega
  · refine ⟨m, e, hfinite, ?_⟩
    rw [hvalue, zpow_neg, zpow_natCast, div_eq_mul_inv]

end Binary64
end Numeric
end RecordBridge
