/-
# Milliseconds written to the second

Milliseconds become a timestamp by way of two doubles: the seconds, and their
fraction in microseconds.  Both are rounded, so the microseconds of the
timestamp need not be those of the milliseconds.  The seconds are
(`exists_micros`): a whole number of seconds is met exactly, and a number that
is not whole stays far enough from the next ones.

So the literal of a number of milliseconds is that of the last whole second
not after it, and there is one exactly for the years of the calendar
(`literal_ofMillis_iff`).
-/

import RecordBridge.Proofs.Numeric.Rounding
import RecordBridge.Proofs.Outcome
import RecordBridge.Proofs.Time.Calendar
import RecordBridge.Time.Epoch

namespace RecordBridge
namespace Time

/-- Whether a time in milliseconds lies in the years of the calendar. -/
def InCalendar (millis : Int) : Prop := isYear (Date.ofDays (millis / 86400000)).year = true

instance (millis : Int) : Decidable (InCalendar millis) :=
  inferInstanceAs (Decidable (_ = true))

/-- The literal of a number of seconds. -/
def secondLiteral (seconds : Int) : String :=
  (Timestamp.ofInstant (seconds * microsPerSecond)).literal

/-- The literal of an instant does not tell its fraction of a second. -/
theorem Timestamp.literal_ofInstant (micros : Int) :
    (ofInstant micros).literal = secondLiteral (micros / 1000000) := by
  have hday : micros / microsPerDay = micros / 1000000 * microsPerSecond / microsPerDay := by
    simp only [microsPerDay, microsPerSecond]
    omega
  have hclock : micros % microsPerDay / microsPerSecond
      = micros / 1000000 * microsPerSecond % microsPerDay / microsPerSecond := by
    simp only [microsPerDay, microsPerSecond]
    omega
  simp only [secondLiteral, literal, clockText, ofInstant, ← hday, ← hclock]

namespace Epoch

open Numeric (Binary64)

/-- An instant has a timestamp exactly in the years of the calendar. -/
theorem timestampOfMicros_eq_ok_iff {micros : Int} {t : Timestamp} :
    timestampOfMicros micros = .ok t ↔
      isYear (Date.ofDays (micros / microsPerDay)).year = true ∧ t = .ofInstant micros := by
  unfold timestampOfMicros
  dsimp only
  constructor
  · intro h
    split at h
    · exact nomatch h
    · split at h
      · exact nomatch h
      · split at h
        · next hyear => exact ⟨hyear, (Except.ok.inj h).symm⟩
        · exact nomatch h
  · rintro ⟨hyear, rfl⟩
    have hdays := Date.range_of_isYear hyear
    have hyears := isYear_iff.1 hyear
    have hdate : (Timestamp.ofInstant micros).date = Date.ofDays (micros / microsPerDay) := rfl
    rw [hdate, if_neg, if_neg, if_pos hyear]
    · simp only [yearsBound]
      omega
    · simp only [microsPerDay, microsPerSecond, secondsBound] at hdays ⊢
      omega

/-! ### The seconds of a double -/

/-- A double is its whole number and what is left of it. -/
theorem ratio_div {m : Nat} {e : Int} {q : Nat} (hle : (q : ℚ) ≤ m * 2 ^ e)
    (hlt : (m : ℚ) * 2 ^ e < q + 1) :
    (Binary64.ratio m e).1 / (Binary64.ratio m e).2 = q ∧
      (((Binary64.ratio m e).1 % (Binary64.ratio m e).2 : ℕ) : ℚ) / (Binary64.ratio m e).2
        = m * 2 ^ e - q := by
  have hden : (0 : ℚ) < (Binary64.ratio m e).2 := by exact_mod_cast Binary64.ratio_pos m e
  rw [← Binary64.ratio_eq, le_div_iff₀ hden] at hle
  rw [← Binary64.ratio_eq, div_lt_iff₀ hden] at hlt
  have hdiv : (Binary64.ratio m e).1 / (Binary64.ratio m e).2 = q :=
    Nat.div_eq_of_lt_le (by exact_mod_cast hle) (by exact_mod_cast hlt)
  refine ⟨hdiv, ?_⟩
  have hsplit : ((Binary64.ratio m e).2 : ℚ) * q
      + ((Binary64.ratio m e).1 % (Binary64.ratio m e).2 : ℕ) = (Binary64.ratio m e).1 := by
    have := Nat.div_add_mod (Binary64.ratio m e).1 (Binary64.ratio m e).2
    rw [hdiv] at this
    exact_mod_cast this
  rw [← Binary64.ratio_eq, ← hsplit]
  field_simp
  ring

/-- The microseconds of a double of seconds, when those of its fraction are
finite. -/
theorem microsOfSeconds_of_finite (negative : Bool) {m : Nat} {e : Int} {sign : Bool} {f : Nat}
    {g : Int}
    (h : Binary64.ofRatio false ((Binary64.ratio m e).1 % (Binary64.ratio m e).2 * 1000000)
      (Binary64.ratio m e).2 = .finite sign f g) :
    microsOfSeconds negative m e = Binary64.signed negative
      ((Binary64.ratio m e).1 / (Binary64.ratio m e).2 * 1000000
        + Numeric.roundHalfEven (Binary64.ratio f g).1 (Binary64.ratio f g).2) := by
  simp only [microsOfSeconds, h]

/-- The microseconds of a fraction that is not next to the ends of the second
are within the second. -/
theorem exists_fraction {num den : Nat} (hden : 0 < den) (hlow : den ≤ 2000 * num)
    (hhigh : 2000 * num ≤ 1999 * den) :
    ∃ sign f g, Binary64.ofRatio false (num * 1000000) den = .finite sign f g ∧
      0 < Numeric.roundHalfEven (Binary64.ratio f g).1 (Binary64.ratio f g).2 ∧
      Numeric.roundHalfEven (Binary64.ratio f g).1 (Binary64.ratio f g).2 < 1000000 := by
  have hnum : 0 < num := by omega
  have hden' : (0 : ℚ) < den := by exact_mod_cast hden
  have hsmall : den ≤ num * 1000000 * 2 ^ 200 :=
    calc den ≤ 2000 * num := hlow
      _ ≤ num * 1000000 * 1 := by omega
      _ ≤ num * 1000000 * 2 ^ 200 := by gcongr; exact Nat.one_le_two_pow
  obtain ⟨-, hlarge⟩ | ⟨f, g, hfinite, hnear⟩ :=
    Binary64.ofRatio_cases false (show 0 < num * 1000000 by omega) hden hsmall
  · have hhuge : den * 1000000 < den * 2 ^ 200 := by
      gcongr
      exact (show 1000000 < 2 ^ 20 by norm_num).trans (Nat.pow_lt_pow_right (by decide) (by decide))
    omega
  · refine ⟨_, f, g, hfinite, ?_⟩
    have hround := Numeric.abs_roundHalfEven_sub_le (Binary64.ratio f g).1 (Binary64.ratio_pos f g)
    generalize Numeric.roundHalfEven (Binary64.ratio f g).1 (Binary64.ratio f g).2 = micros at *
    rw [Binary64.ratio_eq] at hround
    push_cast at hnear
    have hle : (num : ℚ) * 1000000 / den ≤ 999500 := by
      have : (2000 * num : ℚ) ≤ 1999 * den := by exact_mod_cast hhigh
      rw [div_le_iff₀ hden']
      linarith
    have hge : 500 ≤ (num : ℚ) * 1000000 / den := by
      have : (den : ℚ) ≤ 2000 * num := by exact_mod_cast hlow
      rw [le_div_iff₀ hden']
      linarith
    have hfactor : (num : ℚ) * 1000000 / den / 2 ^ 52 ≤ 1 := by
      rw [div_le_iff₀ (by positivity)]
      linarith
    rw [abs_le] at hround hnear
    have hpos : (0 : ℚ) < micros := by linarith
    have hlt : (micros : ℚ) < 1000000 := by linarith
    exact ⟨by exact_mod_cast hpos, by exact_mod_cast hlt⟩

/-- A whole number of seconds has a million microseconds each. -/
theorem microsOfSeconds_whole (negative : Bool) {m : Nat} {e : Int} {q : Nat}
    (h : (m : ℚ) * 2 ^ e = q) :
    microsOfSeconds negative m e = Binary64.signed negative (q * 1000000) := by
  obtain ⟨hdiv, hmod⟩ := ratio_div h.ge (by rw [h]; exact lt_add_one _)
  have hden : (0 : ℚ) < (Binary64.ratio m e).2 := by exact_mod_cast Binary64.ratio_pos m e
  rw [h, sub_self, div_eq_zero_iff, or_iff_left hden.ne'] at hmod
  have hnum : (Binary64.ratio m e).1 % (Binary64.ratio m e).2 = 0 := by exact_mod_cast hmod
  rw [microsOfSeconds_of_finite negative (by rw [hnum, Nat.zero_mul, Binary64.ofRatio_zero]),
    hdiv, Binary64.ratio_zero, Numeric.roundHalfEven_zero, Nat.add_zero]

/-- A number of seconds that is not next to a whole number of them keeps its
whole seconds. -/
theorem microsOfSeconds_within (negative : Bool) {m : Nat} {e : Int} {q : Nat}
    (hlow : q + 1 / 2000 ≤ (m : ℚ) * 2 ^ e) (hhigh : (m : ℚ) * 2 ^ e ≤ q + 1999 / 2000) :
    ∃ fraction : Nat, 0 < fraction ∧ fraction < 1000000 ∧
      microsOfSeconds negative m e = Binary64.signed negative (q * 1000000 + fraction) := by
  obtain ⟨hdiv, hmod⟩ := ratio_div (m := m) (e := e) (q := q) (by linarith) (by linarith)
  have hden := Binary64.ratio_pos m e
  have hden' : (0 : ℚ) < (Binary64.ratio m e).2 := by exact_mod_cast hden
  rw [div_eq_iff hden'.ne'] at hmod
  have hlow' : ((Binary64.ratio m e).2 : ℚ)
      ≤ 2000 * ((Binary64.ratio m e).1 % (Binary64.ratio m e).2 : ℕ) := by
    rw [hmod]
    nlinarith
  have hhigh' : 2000 * (((Binary64.ratio m e).1 % (Binary64.ratio m e).2 : ℕ) : ℚ)
      ≤ 1999 * (Binary64.ratio m e).2 := by
    rw [hmod]
    nlinarith
  obtain ⟨sign, f, g, hfinite, hpos, hlt⟩ :=
    exists_fraction hden (by exact_mod_cast hlow') (by exact_mod_cast hhigh')
  exact ⟨_, hpos, hlt, by rw [microsOfSeconds_of_finite negative hfinite, hdiv]⟩

/-- No number of seconds has fewer microseconds than its whole seconds. -/
theorem exists_microsOfSeconds (negative : Bool) {m : Nat} {e : Int} {q : Nat}
    (h : (q : ℚ) ≤ m * 2 ^ e) :
    ∃ micros : Nat, microsOfSeconds negative m e = Binary64.signed negative micros ∧
      q * 1000000 ≤ micros := by
  have hden : (0 : ℚ) < (Binary64.ratio m e).2 := by exact_mod_cast Binary64.ratio_pos m e
  rw [← Binary64.ratio_eq, le_div_iff₀ hden] at h
  have hle : q ≤ (Binary64.ratio m e).1 / (Binary64.ratio m e).2 :=
    (Nat.le_div_iff_mul_le (Binary64.ratio_pos m e)).2 (by exact_mod_cast h)
  rw [microsOfSeconds]
  exact ⟨_, rfl, by omega⟩

/-! ### The seconds of milliseconds -/

/-- Milliseconds in a double of seconds, and back in microseconds: the whole
seconds are kept, and so is whether there is a fraction. -/
theorem exists_ofRatio_millis (negative : Bool) {n : Nat} (h : n < 2 ^ 48) :
    ∃ m e fraction, Binary64.ofRatio negative n 1000 = .finite negative m e ∧
      microsOfSeconds negative m e = Binary64.signed negative (n / 1000 * 1000000 + fraction) ∧
      fraction < 1000000 ∧ (fraction = 0 ↔ n % 1000 = 0) := by
  obtain rfl | hpos := Nat.eq_zero_or_pos n
  · exact ⟨0, _, 0, Binary64.ofRatio_zero .., microsOfSeconds_whole negative (q := 0) (by simp),
      by omega, by omega⟩
  by_cases hwhole : n % 1000 = 0
  · obtain ⟨q, rfl⟩ := Nat.dvd_of_mod_eq_zero hwhole
    obtain ⟨m, e, hfinite, hvalue⟩ :=
      Binary64.ofRatio_whole negative (q := q) (by omega) (by omega) (show 0 < 1000 by decide)
    rw [Nat.mul_comm] at hfinite
    exact ⟨m, e, 0, hfinite, by rw [microsOfSeconds_whole negative hvalue,
      Nat.mul_div_cancel_left q (by decide), Nat.add_zero], by omega, by omega⟩
  · -- the error is below a sixteenth of a millisecond, so no whole second is reached
    obtain ⟨-, hlarge⟩ | ⟨m, e, hfinite, hnear⟩ :=
      Binary64.ofRatio_cases negative hpos (show 0 < 1000 by decide) (by omega)
    · omega
    have hsplit : (n : ℚ) = 1000 * (n / 1000 : ℕ) + (n % 1000 : ℕ) := by
      exact_mod_cast (Nat.div_add_mod n 1000).symm
    have hlow : (1 : ℚ) ≤ (n % 1000 : ℕ) := by exact_mod_cast Nat.pos_of_ne_zero hwhole
    have hhigh : ((n % 1000 : ℕ) : ℚ) ≤ 999 := by
      exact_mod_cast Nat.le_of_lt_succ (Nat.mod_lt n (by decide))
    have herror : (n : ℚ) / 1000 / 2 ^ 52 ≤ 1 / 16000 := by
      have : (n : ℚ) ≤ 2 ^ 48 := by exact_mod_cast h.le
      rw [div_div, div_le_div_iff₀ (by positivity) (by positivity)]
      linarith
    rw [abs_le] at hnear
    push_cast at hnear
    obtain ⟨fraction, hfraction, hlt, hmicros⟩ :=
      microsOfSeconds_within negative (m := m) (e := e) (q := n / 1000) (by linarith) (by linarith)
    exact ⟨m, e, fraction, hfinite, hmicros, hlt, by omega⟩

/-- Milliseconds are those of an instant in the same second. -/
theorem exists_micros {n : Int} (h : n.natAbs < 2 ^ 48) :
    ∃ micros, ofMillis n = timestampOfMicros micros ∧ micros / 1000000 = n / 1000 := by
  obtain ⟨m, e, fraction, hfinite, hmicros, hlt, hzero⟩ := exists_ofRatio_millis (n < 0) h
  refine ⟨_, by rw [ofMillis, Binary64.ofIntRatio, hfinite, ofSeconds], ?_⟩
  rw [hmicros, Binary64.signed]
  by_cases hsign : n < 0
  · rw [if_pos (decide_eq_true hsign)]
    omega
  · rw [if_neg (by simpa using hsign)]
    omega

/-- Milliseconds that fill more than 48 bits have no timestamp. -/
theorem ofMillis_ne_ok {n : Int} (h : 2 ^ 48 ≤ n.natAbs) (t : Timestamp) : ofMillis n ≠ .ok t := by
  rw [ofMillis, Binary64.ofIntRatio]
  generalize decide (n < 0) = negative
  generalize n.natAbs = n at h
  obtain ⟨hinfinite, -⟩ | ⟨m, e, hfinite, hnear⟩ :=
    Binary64.ofRatio_cases negative (show 0 < n by omega) (show 0 < 1000 by decide) (by omega)
  · rw [hinfinite]
    exact nofun
  · rw [hfinite, ofSeconds]
    intro hok
    have hle : ((281474976710 : ℕ) : ℚ) ≤ m * 2 ^ e := by
      have : (2 : ℚ) ^ 48 ≤ n := by exact_mod_cast h
      rw [abs_le] at hnear
      push_cast at hnear ⊢
      linarith
    obtain ⟨micros, hmicros, hlarge⟩ := exists_microsOfSeconds negative hle
    have hdays := Date.range_of_isYear (timestampOfMicros_eq_ok_iff.1 hok).1
    rw [hmicros, Binary64.signed] at hdays
    simp only [microsPerDay, microsPerSecond] at hdays
    split at hdays <;> omega

/-- **The literal of milliseconds is that of the last whole second not after
them, and there is one for the years of the calendar.** -/
theorem literal_ofMillis_iff {n : Int} {text : String} :
    (ofMillis n).map Timestamp.literal = .ok text ↔
      InCalendar n ∧ text = secondLiteral (n / 1000) := by
  rw [Outcome.map_eq_ok_iff]
  by_cases hbits : n.natAbs < 2 ^ 48
  · obtain ⟨micros, heq, hsecond⟩ := exists_micros hbits
    have hday : micros / microsPerDay = n / 86400000 := by
      simp only [microsPerDay, microsPerSecond]
      omega
    have hok : ∀ t, ofMillis n = .ok t ↔ InCalendar n ∧ t = .ofInstant micros := by
      intro t
      rw [heq, timestampOfMicros_eq_ok_iff, hday, InCalendar]
    rw [← hsecond, ← Timestamp.literal_ofInstant]
    constructor
    · rintro ⟨t, hof, rfl⟩
      obtain ⟨hyear, rfl⟩ := (hok t).1 hof
      exact ⟨hyear, rfl⟩
    · rintro ⟨hyear, rfl⟩
      exact ⟨_, (hok _).2 ⟨hyear, rfl⟩, rfl⟩
  · constructor
    · rintro ⟨t, hof, -⟩
      exact absurd hof (ofMillis_ne_ok (by omega) t)
    · rintro ⟨hyear, -⟩
      have hdays := Date.range_of_isYear hyear
      omega

end Epoch
end Time
end RecordBridge
