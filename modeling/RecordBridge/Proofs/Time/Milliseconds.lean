/-
# Instants counted in milliseconds

An instant of whole milliseconds is counted by way of its seconds: a quotient
by 1000 that is rounded to a double, times 1000, rounded again, and cut off.
Take the seconds in units of their last place, `n * 2 ^ k / 1000` of them with
53 bits.  Rounding moves them by half a unit at most, so their product with
1000 is off by 500 at most, in the same units.

* The product has nine or ten bits more than fit, so it is rounded to a multiple
  of 512 or of 1024.  Milliseconds are such a multiple, and an error within half
  of it is mended.
* An error of 500 is within half of 1024.  It is not within half of 512: a
  product that is too small by more than 256 stays too small, and is cut off to
  one millisecond less.

The product is rounded to a multiple of 512 if it is below `2 ^ 62` units, which
is where the seconds are less than 2.4 per cent above a power of two.
`millisOfMicros_eq` says that this is all: `FallsShort` are the milliseconds that
are lost, and every other number of them is counted as it is.
-/

import RecordBridge.Proofs.Numeric.Units
import RecordBridge.Proofs.Time.Seconds

namespace RecordBridge
namespace Time
namespace Epoch

open Numeric (Binary64 roundHalfEven)

/-- Whether the seconds of some milliseconds, as a double, fall short of them by
so much that their product with 1000 does as well: they are 53 bits and a
fraction of more than 0.256 and less than 0.5, above a power of two by less than
2.4 per cent. -/
def FallsShort (n : Nat) : Prop :=
  ∃ k < 63, 1000 * 2 ^ 52 ≤ n * 2 ^ k ∧ n * 2 ^ k < 2 ^ 62 ∧
    256 < n * 2 ^ k % 1000 ∧ n * 2 ^ k % 1000 < 500

instance (n : Nat) : Decidable (FallsShort n) :=
  inferInstanceAs (Decidable (∃ k < 63, _))

/-- The milliseconds that are counted: the ones that fall short lose one. -/
def counted (n : Int) : Int := if FallsShort n.natAbs then n - n.sign else n

variable {n k : Nat}

/-- The seconds of milliseconds have 53 bits in some unit. -/
theorem exists_unit (hpos : 0 < n) (hbits : n < 2 ^ 48) :
    ∃ k, 14 ≤ k ∧ k < 63 ∧ 1000 * 2 ^ 52 ≤ n * 2 ^ k ∧ n * 2 ^ k < 1000 * 2 ^ 53 := by
  have hlast : 1000 * 2 ^ 52 ≤ n * 2 ^ 62 := by omega
  have hexists : ∃ k, 1000 * 2 ^ 52 ≤ n * 2 ^ k := ⟨62, hlast⟩
  have hfound := Nat.find_spec hexists
  have hle : Nat.find hexists ≤ 62 := Nat.find_min' hexists hlast
  have hleast : ∀ j < Nat.find hexists, ¬ 1000 * 2 ^ 52 ≤ n * 2 ^ j := fun _ hj =>
    Nat.find_min hexists hj
  generalize Nat.find hexists = k at *
  have hlow : 14 ≤ k := by
    by_contra hk
    have hpow : n * 2 ^ k ≤ n * 2 ^ 13 :=
      Nat.mul_le_mul_left n (Nat.pow_le_pow_right (by decide) (by omega))
    omega
  obtain ⟨j, rfl⟩ : ∃ j, k = j + 1 := ⟨k - 1, by omega⟩
  have hbefore := hleast j (Nat.lt_succ_self j)
  have hdouble : n * 2 ^ (j + 1) = n * 2 ^ j * 2 := by rw [pow_succ, Nat.mul_assoc]
  exact ⟨j + 1, hlow, by omega, hfound, by omega⟩

/-- There is one such unit only. -/
theorem fallsShort_iff (hk : k < 63) (hlow : 1000 * 2 ^ 52 ≤ n * 2 ^ k)
    (hhigh : n * 2 ^ k < 1000 * 2 ^ 53) :
    FallsShort n ↔ n * 2 ^ k < 2 ^ 62 ∧ 256 < n * 2 ^ k % 1000 ∧ n * 2 ^ k % 1000 < 500 := by
  constructor
  · rintro ⟨j, -, hlow', hhigh', hrest⟩
    have hdouble : ∀ {a b : Nat}, a < b → n * 2 ^ a * 2 ≤ n * 2 ^ b := by
      intro a b hab
      rw [Nat.mul_assoc, ← pow_succ]
      exact Nat.mul_le_mul_left n (Nat.pow_le_pow_right (by decide) hab)
    rcases Nat.lt_trichotomy j k with h | rfl | h
    · have := hdouble h
      omega
    · exact ⟨hhigh', hrest⟩
    · have := hdouble h
      omega
  · rintro ⟨hhigh', hrest⟩
    exact ⟨k, hk, hlow, hhigh', hrest⟩

/-! ### The seconds and their product -/

theorem ratio_mul_eq {m s j : Nat} {e : Int} (h : (m : ℚ) * 2 ^ e = s / 2 ^ j) :
    (Binary64.ratio m e).1 * 2 ^ j = s * (Binary64.ratio m e).2 := by
  have hden : (0 : ℚ) < (Binary64.ratio m e).2 := by exact_mod_cast Binary64.ratio_pos m e
  rw [← Binary64.ratio_eq, div_eq_div_iff hden.ne' (by positivity)] at h
  exact_mod_cast h

/-- Rounded seconds are off by half a unit at most, and the error is what is left
of the milliseconds, since these are a multiple of eight units. -/
theorem rounded_seconds {t : Nat} (ht : t % 8 = 0) :
    2 * t ≤ 2000 * roundHalfEven t 1000 + 1000 ∧ 2000 * roundHalfEven t 1000 ≤ 2 * t + 1000 ∧
      (t % 1000 < 500 → 1000 * roundHalfEven t 1000 + t % 1000 = t) ∧
      (500 ≤ t % 1000 → t ≤ 1000 * roundHalfEven t 1000) := by
  unfold roundHalfEven
  dsimp only
  split_ifs <;> omega

/-- A double that is a whole number of units is cut off to the whole number of
ones in it. -/
theorem truncate?_units (negative : Bool) {m s j : Nat} {e : Int}
    (h : (m : ℚ) * 2 ^ e = s / 2 ^ j) :
    (Binary64.finite negative m e).truncate? = some (Binary64.signed negative (s / 2 ^ j)) := by
  have hdiv : (Binary64.ratio m e).1 / (Binary64.ratio m e).2 = s / 2 ^ j := by
    rw [← Nat.mul_div_mul_right _ _ (Nat.two_pow_pos j), ratio_mul_eq h,
      Nat.mul_comm (Binary64.ratio m e).2, Nat.mul_div_mul_right _ _ (Binary64.ratio_pos m e)]
  unfold Binary64.truncate?
  dsimp only
  rw [hdiv]

/-- A product with 1000 is rounded to a whole number of its units, of which there
are `2 ^ j` to a millisecond. -/
theorem exists_product (negative : Bool) {m r i j : Nat} {e : Int}
    (hvalue : (m : ℚ) * 2 ^ e = r / 2 ^ (j + i)) (hlow : 2 ^ 52 * 2 ^ i ≤ 1000 * r)
    (hhigh : 1000 * r < 2 ^ 53 * 2 ^ i) (hj : j ≤ 1074) :
    ∃ s, ((Binary64.finite negative m e).scale 1000 1).truncate?
        = some (Binary64.signed negative (s / 2 ^ j)) ∧
      ∀ q, q % 2 = 0 → (q ≤ s ↔ 2 * (q * 2 ^ i) ≤ 2000 * r + 2 ^ i) := by
  have hcross := ratio_mul_eq hvalue
  have hden := Binary64.ratio_pos m e
  have hunit : 0 < 2 ^ i := Nat.two_pow_pos i
  unfold Binary64.scale
  dsimp only
  generalize (Binary64.ratio m e).1 = num at *
  generalize (Binary64.ratio m e).2 = den at *
  rw [Nat.mul_one]
  have hscaled : num * 1000 * 2 ^ j * 2 ^ i = 1000 * r * den := by
    rw [pow_add] at hcross
    linarith
  have hfew : 2 ^ 52 * den ≤ num * 1000 * 2 ^ j := by
    refine Nat.le_of_mul_le_mul_right ?_ hunit
    calc 2 ^ 52 * den * 2 ^ i = 2 ^ 52 * 2 ^ i * den := Nat.mul_right_comm ..
      _ ≤ 1000 * r * den := Nat.mul_le_mul_right den hlow
      _ = num * 1000 * 2 ^ j * 2 ^ i := hscaled.symm
  have hmany : num * 1000 * 2 ^ j < 2 ^ 53 * den := by
    refine Nat.lt_of_mul_lt_mul_right (a := 2 ^ i) ?_
    calc num * 1000 * 2 ^ j * 2 ^ i = 1000 * r * den := hscaled
      _ < 2 ^ 53 * 2 ^ i * den := Nat.mul_lt_mul_of_pos_right hhigh hden
      _ = 2 ^ 53 * den * 2 ^ i := Nat.mul_right_comm ..
  obtain ⟨m', e', hfinite, hvalue'⟩ := Binary64.ofRatio_units negative hden hfew hmany hj
  refine ⟨roundHalfEven (num * 1000 * 2 ^ j) den, ?_, fun q hq => ?_⟩
  · rw [hfinite, truncate?_units negative hvalue']
  · rw [Numeric.le_roundHalfEven_iff hden hq]
    have hleft : 2 * (q * den) * 2 ^ i = 2 * (q * 2 ^ i) * den := by ring
    have hright : (2 * (num * 1000 * 2 ^ j) + den) * 2 ^ i = (2000 * r + 2 ^ i) * den := by
      linarith
    rw [← Nat.mul_le_mul_right_iff hunit, hleft, hright, Nat.mul_le_mul_right_iff hden]

/-! ### Milliseconds -/

/-- Milliseconds are a whole number of units of the product, so an error that is
less than a millisecond costs one at most, and none if it is within half a unit. -/
theorem units_div_eq {r i j s : Nat} (hpos : 0 < n) (hi : 9 ≤ i) (hj : 4 ≤ j)
    (hle : 2 * (n * 2 ^ (j + i)) ≤ 2000 * r + 1000)
    (hge : 2000 * r ≤ 2 * (n * 2 ^ (j + i)) + 1000)
    (hs : ∀ q, q % 2 = 0 → (q ≤ s ↔ 2 * (q * 2 ^ i) ≤ 2000 * r + 2 ^ i)) :
    s / 2 ^ j = if 2 * (n * 2 ^ (j + i)) ≤ 2000 * r + 2 ^ i then n else n - 1 := by
  have hunit : 2 ^ 9 ≤ 2 ^ i := Nat.pow_le_pow_right (by decide) hi
  have heven : 2 ^ j % 2 = 0 := Nat.mod_eq_zero_of_dvd (dvd_pow_self 2 (by omega))
  have hmillis : ∀ a, a * 2 ^ j ≤ s ↔ 2 * (a * 2 ^ (j + i)) ≤ 2000 * r + 2 ^ i := by
    intro a
    rw [hs _ (by rw [Nat.mul_mod, heven, Nat.mul_zero, Nat.zero_mod]), pow_add, Nat.mul_assoc]
  have hwide : 2 ^ 4 * 2 ^ i ≤ 2 ^ (j + i) := by
    rw [pow_add]
    exact Nat.mul_le_mul_right _ (Nat.pow_le_pow_right (by decide) hj)
  have hsucc : ∀ a, (a + 1) * 2 ^ (j + i) = a * 2 ^ (j + i) + 2 ^ (j + i) := fun a =>
    Nat.succ_mul a _
  have hnext : ¬ (n + 1) * 2 ^ j ≤ s := by
    rw [hmillis, hsucc]
    omega
  split
  · next h => exact Nat.div_eq_of_lt_le ((hmillis n).2 h) (by omega)
  · next h =>
    obtain ⟨a, rfl⟩ : ∃ a, n = a + 1 := ⟨n - 1, by omega⟩
    rw [hsucc] at hle hge
    have hbelow : ¬ (a + 1) * 2 ^ j ≤ s := mt (hmillis (a + 1)).1 h
    exact Nat.div_eq_of_lt_le ((hmillis a).2 (by omega)) (by rwa [Nat.add_sub_cancel, ← not_le])

/-- Milliseconds in a double of seconds, and back: a millisecond is lost exactly
if the seconds fall short. -/
theorem truncate?_millis (negative : Bool) (hpos : 0 < n) (hbits : n < 2 ^ 48) :
    ((Binary64.ofRatio negative (n * 1000) 1000000).scale 1000 1).truncate?
      = some (Binary64.signed negative (if FallsShort n then n - 1 else n)) := by
  obtain ⟨k, hk, hk', hlow, hhigh⟩ := exists_unit hpos hbits
  have hshort := fallsShort_iff hk' hlow hhigh
  have hpow : 2 ^ k = 2 ^ (k - 14) * 16384 := by
    rw [show 16384 = 2 ^ 14 by norm_num, ← pow_add, Nat.sub_add_cancel hk]
  have hwhole : n * 2 ^ k % 16384 = 0 := by
    rw [hpow, ← Nat.mul_assoc, Nat.mul_mod_left]
  have hmillion : (1000000 : Nat) = 1000 * 1000 := by norm_num
  have hfew : 2 ^ 52 * 1000000 ≤ n * 1000 * 2 ^ k := by
    rw [Nat.mul_right_comm]
    omega
  have hmany : n * 1000 * 2 ^ k < 2 ^ 53 * 1000000 := by
    rw [Nat.mul_right_comm]
    omega
  obtain ⟨m, e, hfinite, hvalue⟩ :=
    Binary64.ofRatio_units negative (by omega) hfew hmany (by omega)
  rw [Nat.mul_right_comm, hmillion, Numeric.roundHalfEven_mul_right _ _ (by omega)] at hvalue
  obtain ⟨hle, hge, hdown, hup⟩ := rounded_seconds (t := n * 2 ^ k) (by omega)
  rw [hfinite]
  generalize roundHalfEven (n * 2 ^ k) 1000 = r at *
  by_cases hproduct : 1000 * r < 2 ^ 62
  · obtain ⟨j, rfl⟩ : ∃ j, k = j + 9 := ⟨k - 9, by omega⟩
    obtain ⟨s, hs, heven⟩ := exists_product negative hvalue (by omega) (by omega) (by omega)
    have hmended : 2 * (n * 2 ^ (j + 9)) ≤ 2000 * r + 2 ^ 9 ↔ ¬ FallsShort n := by
      rw [hshort]
      omega
    rw [hs, units_div_eq hpos le_rfl (by omega) hle hge heven]
    simp only [hmended, ite_not]
  · obtain ⟨j, rfl⟩ : ∃ j, k = j + 10 := ⟨k - 10, by omega⟩
    obtain ⟨s, hs, heven⟩ := exists_product negative hvalue (by omega) (by omega) (by omega)
    have hmended : 2 * (n * 2 ^ (j + 10)) ≤ 2000 * r + 2 ^ 10 ↔ ¬ FallsShort n := by
      rw [hshort]
      omega
    rw [hs, units_div_eq hpos (by omega) (by omega) hle hge heven]
    simp only [hmended, ite_not]

/-- **Milliseconds are counted as they are, unless they fall short.** -/
theorem millisOfMicros_eq {n : Int} (hbits : n.natAbs < 2 ^ 48) :
    millisOfMicros (n * 1000) = counted n := by
  unfold millisOfMicros seconds Binary64.ofIntRatio counted
  rw [Int.natAbs_mul, show (1000 : Int).natAbs = 1000 from rfl]
  have hsign : decide (n * 1000 < 0) = decide (n < 0) := by
    rw [decide_eq_decide]
    omega
  rw [hsign]
  obtain hzero | hpos := Nat.eq_zero_or_pos n.natAbs
  · obtain rfl := Int.natAbs_eq_zero.1 hzero
    simp [Binary64.scale, Binary64.truncate?, Binary64.signed]
  · rw [truncate?_millis _ hpos hbits, Option.getD_some, Binary64.signed]
    rcases lt_trichotomy n 0 with hn | rfl | hn
    · rw [if_pos (decide_eq_true hn), Int.sign_eq_neg_one_of_neg hn]
      split <;> omega
    · exact absurd hpos (lt_irrefl 0)
    · rw [if_neg (by simpa using hn.le), Int.sign_eq_one_of_pos hn]
      split <;> omega

/-- Whole seconds do not fall short. -/
theorem not_fallsShort_of_whole (h : n % 1000 = 0) : ¬ FallsShort n := by
  rintro ⟨k, -, -, -, hfraction, -⟩
  have hwhole : n * 2 ^ k % 1000 = 0 := by
    rw [Nat.mul_mod, h, Nat.zero_mul, Nat.zero_mod]
  omega

/-- **Whole seconds are counted as they are.** -/
theorem counted_of_whole {n : Int} (h : n % 1000 = 0) : counted n = n :=
  if_neg (not_fallsShort_of_whole (by omega))

end Epoch
end Time
end RecordBridge
