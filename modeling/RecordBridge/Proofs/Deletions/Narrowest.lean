/-
# The narrowest window of deletions

A window of deletions may only begin and end on whole seconds, has to hold the
lower bound and must have its least width.  Of all such windows up to the
current time `between` takes the narrowest (`between_narrowest`): its end is the
greatest whole second that is not after the current time, and its start the
greatest one that is neither after the bound nor too close to the end.

The feed is told both ends as texts.  In the years that have four digits they
are read back as what they are, so nothing is rounded on the way, and a least
width of 60001 milliseconds is more than a minute for the feed as well.
-/

import Mathlib.Order.Bounds.Basic
import RecordBridge.Proofs.Deletions.Coverage
import RecordBridge.Proofs.Value.Times

namespace RecordBridge
namespace Deletions

open Time (HasFullYear)

/-- The whole seconds that are not after a time in milliseconds. -/
def secondsUntil (millis : Int) : Set Int := {t | 1000 ∣ t ∧ t ≤ millis}

theorem isGreatest_floorSecond (millis : Int) :
    IsGreatest (secondsUntil millis) (floorSecond millis) := by
  constructor
  · rw [floorSecond_eq]
    exact ⟨dvd_mul_left _ _, by omega⟩
  · rintro t ⟨⟨q, rfl⟩, hle⟩
    rw [floorSecond_eq]
    omega

namespace Window

variable {minWidth since now : Int}

/-- The start of a window is the greatest whole second that is neither after the
bound nor too close to the end. -/
theorem isGreatest_start (minWidth since now : Int) :
    IsGreatest (secondsUntil since ∩ secondsUntil (floorSecond now - minWidth))
      (between minWidth since now).start := by
  obtain ⟨⟨hwhole, hle⟩, hgreatest⟩ := isGreatest_floorSecond since
  obtain ⟨⟨hwhole', hle'⟩, hgreatest'⟩ := isGreatest_floorSecond (floorSecond now - minWidth)
  rw [start_between]
  split
  · next hnarrow => exact ⟨⟨⟨hwhole', by omega⟩, hwhole', hle'⟩, fun t ht => hgreatest' ht.2⟩
  · next hwide => exact ⟨⟨⟨hwhole, hle⟩, hwhole, by omega⟩, fun t ht => hgreatest ht.1⟩

/-- The text of a whole second is read back as that second. -/
theorem exists_timeText {millis : Int} (hwhole : 1000 ∣ millis) (h : HasFullYear millis) :
    ∃ text, timeText millis = .ok text ∧ (Value.text text).epochMillis = .ok (some millis) := by
  have hread := Value.epochMillis_secondLiteral h
  rw [Int.emod_eq_zero_of_dvd hwhole, sub_zero] at hread
  exact ⟨_, timeText_eq_ok_iff.2 ⟨h.inCalendar, rfl⟩, hread⟩

/-- What the feed is told about a window: one call with two texts, which are read back
as the ends of the window. -/
theorem exists_call {σ : Type} (remote : Remote σ) (s : σ) (typeName : String)
    (records : List Object) (hstart : HasFullYear (between minWidth since now).start)
    (hstop : HasFullYear (between minWidth since now).stop) :
    ∃ start stop, (between minWidth since now).startText = .ok start ∧
      (between minWidth since now).stopText = .ok stop ∧
      calls minWidth remote typeName since now records s = [.deletedBetween typeName start stop] ∧
      (Value.text start).epochMillis = .ok (some (between minWidth since now).start) ∧
      (Value.text stop).epochMillis = .ok (some (between minWidth since now).stop) := by
  have hwhole := (isGreatest_start minWidth since now).1.1.1
  have hwhole' : 1000 ∣ (between minWidth since now).stop := by
    rw [stop_between]
    exact (isGreatest_floorSecond now).1.1
  obtain ⟨start, hfirst, hread⟩ := exists_timeText hwhole hstart
  obtain ⟨stop, hlast, hread'⟩ := exists_timeText hwhole' hstop
  have htexts : (between minWidth since now).texts = .ok (start, stop) :=
    texts_eq_ok_iff.2 ⟨hfirst, hlast⟩
  exact ⟨start, stop, hfirst, hlast, by rw [calls_eq, htexts], hread, hread'⟩

/-- What makes a window the narrowest one for a lower bound, a current time and a least
width, and what the feed sees of it. -/
structure IsNarrowest (minWidth since now : Int) (w : Window) : Prop where
  /-- It ends on the greatest whole second that is not after the current time. -/
  stop : IsGreatest {t | 1000 ∣ t ∧ t ≤ now} w.stop
  /-- It starts on the greatest one that is neither after the bound nor less than the
  least width before the end. -/
  start : IsGreatest {t | 1000 ∣ t ∧ t ≤ since ∧ t ≤ w.stop - minWidth} w.start
  /-- In years of four digits the feed is asked once, with two texts that are read back
  as exactly these ends. -/
  told : HasFullYear w.start → HasFullYear w.stop →
    ∀ {σ : Type} (remote : Remote σ) (s : σ) (typeName : String) (records : List Object),
    ∃ start stop, w.startText = .ok start ∧ w.stopText = .ok stop ∧
      calls minWidth remote typeName since now records s
        = [.deletedBetween typeName start stop] ∧
      (Value.text start).epochMillis = .ok (some w.start) ∧
      (Value.text stop).epochMillis = .ok (some w.stop)
  /-- With a least width of 60001 milliseconds the ends are more than sixty seconds
  apart. -/
  minute : 60001 ≤ minWidth → w.start / 1000 + 60 < w.stop / 1000

/-- **The window is the narrowest one**, for every lower bound, current time and least
width, the bound after the current time or not. -/
theorem between_narrowest (minWidth since now : Int) :
    IsNarrowest minWidth since now (between minWidth since now) := by
  obtain ⟨⟨⟨hwhole, hsince⟩, -, hwidth⟩, hgreatest⟩ := isGreatest_start minWidth since now
  have hstop : (between minWidth since now).stop = floorSecond now :=
    stop_between minWidth since now
  obtain ⟨hwhole', -⟩ := (isGreatest_floorSecond now).1
  refine ⟨hstop ▸ isGreatest_floorSecond now, ⟨⟨hwhole, hsince, hstop ▸ hwidth⟩, ?_⟩,
    fun hfirst hlast _ remote s typeName records =>
      exists_call remote s typeName records hfirst hlast, fun hminute => ?_⟩
  · rintro t ⟨ht, hle, hle'⟩
    exact hgreatest ⟨⟨ht, hle⟩, ht, hstop ▸ hle'⟩
  · rw [hstop]
    have hapart : (between minWidth since now).start ≤ floorSecond now - minWidth := hwidth
    omega

/-- `between_narrowest` for a lower bound after the current time, a minute into March
of 2024. -/
theorem between_narrowest_aheadOfTime :
    between 60001 1709251300000 1709251260001 = ⟨1709251199000, 1709251260000⟩ ∧
      HasFullYear 1709251199000 ∧ HasFullYear 1709251260000 ∧
      (∀ remote : Remote Unit,
        calls 60001 remote "Account" 1709251300000 1709251260001 [] ()
          = [.deletedBetween "Account" "2024-02-29T23:59:59Z" "2024-03-01T00:01:00Z"] ∧
        (Value.text "2024-02-29T23:59:59Z").epochMillis = .ok (some 1709251199000) ∧
        (Value.text "2024-03-01T00:01:00Z").epochMillis = .ok (some 1709251260000)) ∧
      (1709251199000 : Int) / 1000 + 60 < 1709251260000 / 1000 := by
  have hw : between 60001 1709251300000 1709251260001 = ⟨1709251199000, 1709251260000⟩ := by
    decide
  have hfull : HasFullYear 1709251199000 := by decide
  have hfull' : HasFullYear 1709251260000 := by decide
  obtain ⟨-, -, hfeed, hminute⟩ := between_narrowest 60001 1709251300000 1709251260001
  rw [hw] at hfeed hminute
  refine ⟨hw, hfull, hfull', fun remote => ?_, hminute le_rfl⟩
  obtain ⟨start, stop, hstart, hstop, hcall, hread, hread'⟩ :=
    hfeed hfull hfull' remote () "Account" []
  obtain ⟨-, rfl⟩ := timeText_eq_ok_iff.1 hstart
  obtain ⟨-, rfl⟩ := timeText_eq_ok_iff.1 hstop
  have hliteral : Time.secondLiteral (1709251199000 / 1000) = "2024-02-29T23:59:59Z" := by
    decide +kernel
  have hliteral' : Time.secondLiteral (1709251260000 / 1000) = "2024-03-01T00:01:00Z" := by
    decide +kernel
  rw [hliteral] at hcall hread
  rw [hliteral'] at hcall hread'
  exact ⟨hcall, hread, hread'⟩

end Window

end Deletions
end RecordBridge
