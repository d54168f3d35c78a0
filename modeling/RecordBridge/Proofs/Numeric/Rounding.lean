/-
# How far rounding goes

A double is the rational number `significand * 2 ^ exponent`, and every
operation on doubles is one exact quotient that is rounded once.  Rounding to
the nearest multiple of a unit moves a quotient by half a unit at most
(`abs_roundHalfEven_sub_le`); the unit is chosen to be a small part of the
quotient (`unit_le`); and so a double is off by a factor of `2 ^ -52` at most
from what it stands for (`ofRatio_cases`).  A quotient that is a whole number
of units is met exactly (`ofRatio_whole`).
-/

import Mathlib.Algebra.Order.Field.Power
import Mathlib.Data.Rat.Floor
import Mathlib.Tactic.FieldSimp
import Mathlib.Tactic.Linarith
import Mathlib.Tactic.Positivity
import Mathlib.Tactic.Ring
import RecordBridge.Numeric.Binary64

namespace RecordBridge
namespace Numeric

@[simp] theorem twoPow_eq (n : Nat) : twoPow n = 2 ^ n := rfl

@[simp] theorem roundHalfEven_zero (den : Nat) : roundHalfEven 0 den = 0 := by
  simp [roundHalfEven]

/-- Rounding to the nearest whole number moves a quotient by half at most, in
units of its denominator. -/
theorem roundHalfEven_near (num den : Nat) (h : 0 < den) :
    2 * num ≤ 2 * (roundHalfEven num den * den) + den ∧
      2 * (roundHalfEven num den * den) ≤ 2 * num + den := by
  have hsplit : num / den * den + num % den = num := by
    rw [Nat.mul_comm]
    exact Nat.div_add_mod num den
  have hmod : num % den < den := Nat.mod_lt num h
  have hsucc : (num / den + 1) * den = num / den * den + den := Nat.succ_mul ..
  unfold roundHalfEven
  dsimp only
  split
  · omega
  · split
    · omega
    · split <;> omega

/-- Rounding to the nearest whole number moves a quotient by half at most. -/
theorem abs_roundHalfEven_sub_le (num : Nat) {den : Nat} (h : 0 < den) :
    |(roundHalfEven num den : ℚ) - num / den| ≤ 1 / 2 := by
  have hden : (0 : ℚ) < den := by exact_mod_cast h
  obtain ⟨hle, hge⟩ := roundHalfEven_near num den h
  have hle' : 2 * (num : ℚ) ≤ 2 * (roundHalfEven num den * den) + den := by exact_mod_cast hle
  have hge' : 2 * (roundHalfEven num den * den : ℚ) ≤ 2 * num + den := by exact_mod_cast hge
  have hnum : (num : ℚ) / den * den = num := div_mul_cancel₀ _ hden.ne'
  rw [abs_le]
  constructor
  · refine le_of_mul_le_mul_right ?_ hden
    rw [sub_mul, hnum]
    linarith
  · refine le_of_mul_le_mul_right ?_ hden
    rw [sub_mul, hnum]
    linarith

namespace Binary64

/-- The quotient that a significand and an exponent stand for. -/
theorem ratio_eq (m : Nat) (e : Int) :
    ((ratio m e).1 : ℚ) / (ratio m e).2 = m * 2 ^ e := by
  unfold ratio
  split
  · next h =>
    obtain ⟨n, rfl⟩ := Int.eq_ofNat_of_zero_le h
    simp
  · next h =>
    obtain ⟨n, hn⟩ := Int.eq_ofNat_of_zero_le (show 0 ≤ -e by omega)
    obtain rfl : e = -(n : Int) := by omega
    simp [div_eq_mul_inv]

theorem ratio_pos (m : Nat) (e : Int) : 0 < (ratio m e).2 := by
  unfold ratio
  split
  · exact Nat.one_pos
  · exact twoPow_pos _

@[simp] theorem ratio_zero (e : Int) : (ratio 0 e).1 = 0 := by
  unfold ratio
  split
  · exact Nat.zero_mul _
  · rfl

theorem inUnits_eq (num den : Nat) (e : Int) :
    ((inUnits num den e).1 : ℚ) / (inUnits num den e).2 = num / den / 2 ^ e := by
  unfold inUnits
  split
  · next h =>
    obtain ⟨n, rfl⟩ := Int.eq_ofNat_of_zero_le h
    simp [div_div]
  · next h =>
    obtain ⟨n, hn⟩ := Int.eq_ofNat_of_zero_le (show 0 ≤ -e by omega)
    obtain rfl : e = -(n : Int) := by omega
    simp [div_eq_mul_inv]
    ring

theorem inUnits_pos (num : Nat) {den : Nat} (h : 0 < den) (e : Int) :
    0 < (inUnits num den e).2 := by
  unfold inUnits
  split
  · exact Nat.mul_pos h (twoPow_pos _)
  · exact h

/-- Packing keeps what a significand and an exponent stand for, unless that is
too large. -/
theorem pack_cases (negative : Bool) (m : Nat) (e : Int) :
    (pack negative m e = .infinite negative ∧ maxExponent ≤ e) ∨
      ∃ m' e', pack negative m e = .finite negative m' e' ∧ (m' : ℚ) * 2 ^ e' = m * 2 ^ e := by
  unfold pack
  by_cases hm : m = twoPow precision
  · rw [if_pos hm]
    by_cases he : maxExponent < e + 1
    · exact .inl ⟨if_pos he, by omega⟩
    · refine .inr ⟨_, _, if_neg he, ?_⟩
      rw [hm, zpow_add_one₀ two_ne_zero, show precision = precision - 1 + 1 from rfl, twoPow_succ]
      push_cast
      ring
  · rw [if_neg hm]
    by_cases he : maxExponent < e
    · exact .inl ⟨if_pos he, he.le⟩
    · exact .inr ⟨_, _, if_neg he, rfl⟩

/-! ### The unit -/

variable {num den : Nat}

/-- The unit is as coarse as the bits of the quotient allow. -/
theorem unitExponent_le (hlow : den.log2 ≤ num.log2 + 1021) :
    unitExponent num den ≤ (num.log2 : Int) - den.log2 - 52 := by
  unfold unitExponent minExponent precision
  dsimp only
  split <;> omega

theorem two_pow_sub_le (hnum : 0 < num) (hden : 0 < den) :
    (2 : ℚ) ^ ((num.log2 : Int) - den.log2 - 1) ≤ num / den := by
  have hden' : (0 : ℚ) < den := by exact_mod_cast hden
  have hlow : ((2 ^ num.log2 : ℕ) : ℚ) ≤ num := by exact_mod_cast Nat.log2_self_le hnum.ne'
  have hhigh : (den : ℚ) ≤ ((2 ^ (den.log2 + 1) : ℕ) : ℚ) := by
    exact_mod_cast Nat.lt_log2_self.le
  push_cast at hlow hhigh
  rw [le_div_iff₀ hden']
  calc (2 : ℚ) ^ ((num.log2 : Int) - den.log2 - 1) * den
      ≤ 2 ^ ((num.log2 : Int) - den.log2 - 1) * 2 ^ (den.log2 + 1) := by gcongr
    _ = 2 ^ num.log2 := by
        rw [← zpow_natCast, ← zpow_natCast, ← zpow_add₀ two_ne_zero]
        congr 1
        push_cast
        ring
    _ ≤ num := hlow

/-- The unit is a small part of the quotient. -/
theorem unit_le (hnum : 0 < num) (hden : 0 < den) (hlow : den.log2 ≤ num.log2 + 1021) :
    (2 : ℚ) ^ unitExponent num den ≤ num / den / 2 ^ 51 := by
  rw [le_div_iff₀ (by positivity)]
  calc (2 : ℚ) ^ unitExponent num den * 2 ^ 51
      ≤ 2 ^ ((num.log2 : Int) - den.log2 - 52) * 2 ^ 51 := by
        gcongr
        · norm_num
        · exact unitExponent_le hlow
    _ = 2 ^ ((num.log2 : Int) - den.log2 - 1) := by
        rw [← zpow_natCast, ← zpow_add₀ two_ne_zero]
        congr 1
        push_cast
        ring
    _ ≤ num / den := two_pow_sub_le hnum hden

/-- A quotient that is not tiny has about as many bits above as below. -/
theorem log2_le_of_le_mul {k : Nat} (hden : 0 < den) (h : den ≤ num * 2 ^ k) :
    den.log2 ≤ num.log2 + k := by
  have hlt : 2 ^ den.log2 < 2 ^ (num.log2 + k + 1) := by
    calc 2 ^ den.log2 ≤ den := Nat.log2_self_le hden.ne'
      _ ≤ num * 2 ^ k := h
      _ < 2 ^ (num.log2 + 1) * 2 ^ k := by gcongr; exact Nat.lt_log2_self
      _ = 2 ^ (num.log2 + k + 1) := by rw [← pow_add]; congr 1; omega
  exact Nat.le_of_lt_succ ((Nat.pow_lt_pow_iff_right one_lt_two).1 hlt)

/-! ### A rounded quotient -/

/-- A quotient in whole units, rounded, is off by half a unit at most. -/
theorem abs_units_sub_le (num : Nat) (hden : 0 < den) (e : Int) :
    |(roundHalfEven (inUnits num den e).1 (inUnits num den e).2 : ℚ) * 2 ^ e - num / den|
      ≤ 2 ^ e / 2 := by
  have hunit : (0 : ℚ) < 2 ^ e := by positivity
  have hround := abs_roundHalfEven_sub_le (inUnits num den e).1 (inUnits_pos num hden e)
  rw [inUnits_eq] at hround
  have hscaled := mul_le_mul_of_nonneg_right hround hunit.le
  rw [← abs_of_pos hunit, ← abs_mul, abs_of_pos hunit, sub_mul, div_mul_cancel₀ _ hunit.ne']
    at hscaled
  linarith

/-- **A quotient is rounded by a small factor.**  A quotient that is not tiny
becomes a double that is off by a factor of `2 ^ -52` at most, or it is
enormous. -/
theorem ofRatio_cases (negative : Bool) (hnum : 0 < num) (hden : 0 < den)
    (hlow : den ≤ num * 2 ^ 200) :
    (ofRatio negative num den = .infinite negative ∧ den * 2 ^ 200 ≤ num) ∨
      ∃ m e, ofRatio negative num den = .finite negative m e ∧
        |(m : ℚ) * 2 ^ e - num / den| ≤ num / den / 2 ^ 52 := by
  have hbits : den.log2 ≤ num.log2 + 1021 := by
    have := log2_le_of_le_mul hden hlow
    omega
  have hunit := unit_le hnum hden hbits
  unfold ofRatio
  rw [if_neg hnum.ne']
  dsimp only
  obtain ⟨hinfinite, hexponent⟩ | ⟨m, e, hfinite, hvalue⟩ := pack_cases negative
    (roundHalfEven (inUnits num den (unitExponent num den)).1
      (inUnits num den (unitExponent num den)).2) (unitExponent num den)
  · refine .inl ⟨hinfinite, ?_⟩
    have hle := unitExponent_le hbits
    rw [maxExponent] at hexponent
    calc den * 2 ^ 200 ≤ 2 ^ (den.log2 + 1) * 2 ^ 200 := by gcongr; exact Nat.lt_log2_self.le
      _ = 2 ^ (den.log2 + 201) := by rw [← pow_add]
      _ ≤ 2 ^ num.log2 := Nat.pow_le_pow_right (by decide) (by omega)
      _ ≤ num := Nat.log2_self_le hnum.ne'
  · refine .inr ⟨m, e, hfinite, ?_⟩
    rw [hvalue]
    calc _ ≤ 2 ^ unitExponent num den / 2 := abs_units_sub_le num hden _
      _ ≤ num / den / 2 ^ 51 / 2 := by gcongr
      _ = num / den / 2 ^ 52 := by ring

/-- A whole quotient is a whole number of units that are no larger than one. -/
theorem units_whole (q : Nat) (hden : 0 < den) {e : Int} (he : e ≤ 0) :
    (roundHalfEven (inUnits (q * den) den e).1 (inUnits (q * den) den e).2 : ℚ) * 2 ^ e = q := by
  obtain ⟨k, hk⟩ := Int.eq_ofNat_of_zero_le (show 0 ≤ -e by omega)
  obtain rfl : e = -(k : Int) := by omega
  unfold inUnits
  split
  · obtain rfl : k = 0 := by omega
    simp [roundHalfEven_exact q hden]
  · have hscaled : q * den * 2 ^ k = q * 2 ^ k * den := by ring
    simp [hscaled, roundHalfEven_exact (q * 2 ^ k) hden]

/-- **A whole number of up to 52 bits is met exactly.** -/
theorem ofRatio_whole (negative : Bool) {q : Nat} (hq : 0 < q) (hbits : q < 2 ^ 52)
    (hden : 0 < den) :
    ∃ m e, ofRatio negative (q * den) den = .finite negative m e ∧ (m : ℚ) * 2 ^ e = q := by
  have hnum : 0 < q * den := Nat.mul_pos hq hden
  have hlow : den.log2 ≤ (q * den).log2 + 1021 := by
    have := log2_le_of_le_mul (k := 0) hden (by simpa using Nat.le_mul_of_pos_left den hq)
    omega
  have hdenq : (0 : ℚ) < den := by exact_mod_cast hden
  have hbitsq : (q : ℚ) < 2 ^ 52 := by exact_mod_cast hbits
  have hunit := unit_le hnum hden hlow
  rw [Nat.cast_mul, mul_div_cancel_right₀ _ hdenq.ne'] at hunit
  have hexponent : unitExponent (q * den) den ≤ 0 := by
    have hlt : (2 : ℚ) ^ unitExponent (q * den) den < 2 ^ (1 : Int) := by
      calc (2 : ℚ) ^ unitExponent (q * den) den ≤ q / 2 ^ 51 := hunit
        _ < 2 ^ 52 / 2 ^ 51 := by gcongr
        _ = 2 ^ (1 : Int) := by norm_num
    have := (zpow_lt_zpow_iff_right₀ (one_lt_two (α := ℚ))).1 hlt
    omega
  unfold ofRatio
  rw [if_neg hnum.ne']
  dsimp only
  obtain ⟨-, hlarge⟩ | ⟨m, e, hfinite, hvalue⟩ := pack_cases negative
    (roundHalfEven (inUnits (q * den) den (unitExponent (q * den) den)).1
      (inUnits (q * den) den (unitExponent (q * den) den)).2) (unitExponent (q * den) den)
  · rw [maxExponent] at hlarge
    omega
  · exact ⟨m, e, hfinite, hvalue.trans (units_whole q hden hexponent)⟩

end Binary64
end Numeric
end RecordBridge
