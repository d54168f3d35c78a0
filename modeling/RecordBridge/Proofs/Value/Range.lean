/-
# Times out of range

A value stands for a time that the library has no timestamp for in two ways.

* On the way out, milliseconds are written as a point in time or as a day.  The
  calendar has to have the time, and a double has to have seconds at all
  (`Value.OutOfRange`, `timestamp?_eq_error_iff`).
* On the way in, a value is read as milliseconds.  Numbers pass through, so only
  an infinite one has none, but a time with an offset is moved to UTC first and
  may leave the calendar by that (`Value.Overflows`,
  `epochMillis_eq_error_iff`).

Every other value that is no time is wrong in itself (`Time.Fault.isInValue`),
and is reported as an error of the directive or of the record that holds it.
-/

import RecordBridge.Proofs.Time.Seconds
import RecordBridge.Value.Temporal

namespace RecordBridge

namespace Time

/-- Whether the move of a timestamp to UTC leaves the years 1 to 9999. -/
def Timestamp.LeavesCalendar (t : Timestamp) : Prop :=
  ∃ offset, t.offset = some offset ∧ offset ≠ 0 ∧
    isYear (Timestamp.ofInstant t.instant).date.year = false

/-- A timestamp cannot be moved to UTC exactly if it leaves the calendar. -/
theorem Timestamp.toUtc_eq_error_iff {t : Timestamp} {fault : Fault} :
    t.toUtc = .error fault ↔ t.LeavesCalendar ∧ fault = .leavesCalendar := by
  unfold toUtc LeavesCalendar
  split
  · next hlocal => simp [hlocal]
  · next hutc => simp [hutc]
  · next offset hne hoffset =>
    dsimp only
    split
    · next hyear => simp [hyear]
    · next hyear => simp [hyear, hoffset, show offset ≠ 0 from hne, eq_comm]

namespace Epoch

open Numeric (Binary64)

/-- The seconds of a number of milliseconds have no timestamp exactly if the calendar
does not have them. -/
theorem exists_ofMillis_error_iff {n : Int} :
    (∃ fault, ofMillis n = .error fault) ↔ ¬ InCalendar n := by
  have hwritten : (∃ text, (ofMillis n).map Timestamp.literal = .ok text) ↔ InCalendar n := by
    simp only [literal_ofMillis_iff, exists_and_left, exists_eq, and_true]
  rw [← hwritten]
  cases ofMillis n with
  | ok t => exact iff_of_false (fun ⟨_, h⟩ => nomatch h) (fun h => h ⟨_, rfl⟩)
  | error fault => exact iff_of_true ⟨fault, rfl⟩ (fun ⟨_, h⟩ => nomatch h)

/-- Whether a double of seconds is a time of the calendar. -/
def HasSeconds : Binary64 → Prop
  | .finite negative m e =>
    isYear (Date.ofDays (microsOfSeconds negative m e / microsPerDay)).year = true
  | _ => False

/-- A double of seconds has no timestamp exactly if it is no time of the calendar. -/
theorem exists_ofSeconds_error_iff {x : Binary64} :
    (∃ fault, ofSeconds x = .error fault) ↔ ¬ HasSeconds x := by
  cases x with
  | nan => exact iff_of_true ⟨_, rfl⟩ id
  | infinite _ => exact iff_of_true ⟨_, rfl⟩ id
  | finite negative m e =>
    have hok := @timestampOfMicros_eq_ok_iff (microsOfSeconds negative m e)
    rw [ofSeconds, HasSeconds]
    cases h : timestampOfMicros (microsOfSeconds negative m e) with
    | ok t =>
      refine iff_of_false ?_ fun hno => hno (hok.1 h).1
      rintro ⟨_, herror⟩
      cases herror
    | error fault =>
      refine iff_of_true ⟨fault, rfl⟩ fun hyear => ?_
      rw [hok.2 ⟨hyear, rfl⟩] at h
      cases h

end Epoch
end Time

namespace Value

/-- Whether a value is a number or a time that the calendar does not have. -/
inductive OutOfRange : Value → Prop
  | int {n : Int} (h : ¬ Time.InCalendar n) : OutOfRange (.int n)
  /-- A double of milliseconds, whose seconds are a double again. -/
  | float {x : Numeric.Binary64} (h : ¬ Time.Epoch.HasSeconds (x.scale 1 1000)) :
    OutOfRange (.float x)
  | instant {t : Time.Timestamp} (h : t.LeavesCalendar) : OutOfRange (.instant t)

/-- Whether a value has no milliseconds for its size alone: an infinite number, or a
time that leaves the calendar on its way to UTC. -/
inductive Overflows : Value → Prop
  | float (negative : Bool) : Overflows (.float (.infinite negative))
  | instant {t : Time.Timestamp} (h : t.LeavesCalendar) : Overflows (.instant t)
  | text {s : String} {t : Time.Timestamp} (hs : Time.Iso8601.parse? s = some t)
    (h : t.LeavesCalendar) : Overflows (.text s)

variable {v : Value}

/-! ### On the way out -/

/-- **A number or a time has no timestamp exactly if it is out of range.** -/
theorem timestamp?_eq_error_iff :
    (∃ fault, v.timestamp? = some (.error fault)) ↔ v.OutOfRange := by
  cases v with
  | int n =>
    simp only [timestamp?, timestampOfMillis?, Option.some.injEq,
      Time.Epoch.exists_ofMillis_error_iff]
    exact ⟨.int, fun | .int h => h⟩
  | float x =>
    simp only [timestamp?, timestampOfMillis?, Option.some.injEq, Time.Epoch.ofMillisDouble,
      Time.Epoch.exists_ofSeconds_error_iff]
    exact ⟨.float, fun | .float h => h⟩
  | instant t =>
    simp only [timestamp?, Option.some.injEq, Time.Timestamp.toUtc_eq_error_iff,
      exists_and_left, exists_eq, and_true]
    exact ⟨.instant, fun | .instant h => h⟩
  | bool b =>
    -- a truth value is the first or the second millisecond of 1970
    refine iff_of_false ?_ nofun
    rintro ⟨fault, h⟩
    have hfault := Time.Epoch.exists_ofMillis_error_iff.1 ⟨fault, Option.some.inj h⟩
    exact hfault (by cases b <;> decide)
  | _ => exact iff_of_false nofun nofun

/-- A value has no literal as a point in time exactly if it has no timestamp. -/
theorem literalDateTime?_eq_error_iff {fault : Time.Fault} :
    v.literalDateTime? = some (.error fault) ↔ v.timestamp? = some (.error fault) := by
  simp only [literalDateTime?, Option.map_eq_some_iff, Outcome.map_eq_error_iff, exists_eq_right]

/-- A value has no literal as a day exactly if it has no timestamp. -/
theorem literalDate?_eq_error_iff {fault : Time.Fault} :
    v.literalDate? = some (.error fault) ↔ v.timestamp? = some (.error fault) := by
  cases v with
  | date d => exact iff_of_false nofun nofun
  | _ =>
    simp only [literalDate?, Option.map_eq_some_iff, Outcome.map_eq_error_iff, exists_eq_right]

/-! ### On the way in -/

/-- **A value has no milliseconds for its size alone exactly if it overflows.**  The
other causes lie in the value itself. -/
theorem epochMillis_eq_error_iff :
    (∃ fault, v.epochMillis = .error fault ∧ fault.isInValue = false) ↔ v.Overflows := by
  cases v with
  | float x =>
    cases x with
    | infinite negative => exact iff_of_true ⟨_, rfl, rfl⟩ (.float negative)
    | nan =>
      refine iff_of_false ?_ nofun
      rintro ⟨_, h, hin⟩
      obtain rfl := Except.error.inj h
      exact nomatch hin
    | finite => exact iff_of_false nofun nofun
  | instant t =>
    simp only [epochMillis, Outcome.map_eq_error_iff, Time.Timestamp.toUtc_eq_error_iff]
    constructor
    · rintro ⟨_, ⟨h, -⟩, -⟩
      exact .instant h
    · intro h
      cases h with
      | instant h => exact ⟨_, ⟨h, rfl⟩, rfl⟩
  | text s =>
    simp only [epochMillis, Outcome.map_eq_error_iff, Time.Iso8601.parse]
    split
    · next hnone =>
      constructor
      · rintro ⟨_, h, hin⟩
        obtain rfl := Except.error.inj h
        exact nomatch hin
      · intro h
        cases h with
        | text hs _ => exact nomatch hnone.symm.trans hs
    · next t hsome =>
      simp only [Time.Timestamp.toUtc_eq_error_iff]
      constructor
      · rintro ⟨_, ⟨h, -⟩, -⟩
        exact .text hsome h
      · intro h
        cases h with
        | text hs h =>
          obtain rfl := Option.some.inj (hsome.symm.trans hs)
          exact ⟨_, ⟨h, rfl⟩, rfl⟩
  | null => exact iff_of_false nofun nofun
  | int _ => exact iff_of_false nofun nofun
  | date _ => exact iff_of_false nofun nofun
  | _ =>
    refine iff_of_false ?_ nofun
    rintro ⟨_, h, hin⟩
    obtain rfl := Except.error.inj h
    exact nomatch hin

/-- The first midnight of the calendar overflows where it is almost a day ahead of UTC. -/
theorem overflows_firstMidnight :
    (Value.text "0001-01-01T00:00:00+23:59").Overflows ∧
      (Value.text "0001-01-01T00:00:00+23:59").epochMillis = .error .leavesCalendar := by
  have hparse : Time.Iso8601.parse? "0001-01-01T00:00:00+23:59"
      = some ⟨⟨1, 1, 1⟩, 0, 0, 0, 0, some 86340000000⟩ := by
    decide +kernel
  have hleaves : Time.Timestamp.LeavesCalendar ⟨⟨1, 1, 1⟩, 0, 0, 0, 0, some 86340000000⟩ :=
    ⟨86340000000, rfl, by decide, by decide +kernel⟩
  refine ⟨.text hparse hleaves, ?_⟩
  rw [epochMillis, Time.Iso8601.parse, hparse]
  exact Outcome.map_eq_error_iff.2 (Time.Timestamp.toUtc_eq_error_iff.2 ⟨hleaves, rfl⟩)

end Value
end RecordBridge
