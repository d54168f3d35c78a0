/-
# Milliseconds and their texts

A text that is a point in time is read as its instant first, and the instant is
counted in milliseconds through a double.  Milliseconds are written as the
literal of their second or as their day (`literalDateTime?_int`,
`literalDate?_int`); both denote whole seconds, which are counted as they are,
and so both are read exactly (`epochMillis_secondLiteral`,
`epochMillis_dateText`).

A text to the millisecond is not always read exactly.  `epochMillis_milliText`
says what it is read as, as the time of a record and as the bound of a delta:
the milliseconds that fall short lose one, all others are what the text says.
The first ones of the year 2004 that are lost are those of 10 January, a little
after half past one in the afternoon: the seconds since 1970 are `2 ^ 30` then.
-/

import RecordBridge.Compile.Delta
import RecordBridge.Proofs.Time.Forms
import RecordBridge.Proofs.Time.Milliseconds
import RecordBridge.Record.Materialize

namespace RecordBridge
namespace Value

open Time (HasFullYear InCalendar)
open Time.Epoch (FallsShort counted)

variable {n : Int}

/-- Null alone is read as no time. -/
theorem epochMillis_eq_ok_none_iff {v : Value} : v.epochMillis = .ok none ↔ v = .null := by
  constructor
  · intro h
    cases v with
    | null => rfl
    | int n => cases h
    | float x =>
      cases x with
      | nan | infinite _ => cases h
      | finite s m e => cases h
    | instant t =>
      obtain ⟨t, -, h⟩ := Outcome.map_eq_ok_iff.1 h
      cases h
    | date d => cases h
    | text s =>
      obtain ⟨t, -, h⟩ := Outcome.map_eq_ok_iff.1 h
      cases h
    | _ => cases h
  · rintro rfl
    rfl

/-- A text is read as the milliseconds of its instant, as they are counted. -/
theorem epochMillis_of_parse {s : String} {t : Time.Timestamp}
    (hparse : Time.Iso8601.parse s = .ok t) (hinstant : t.instant = n * 1000)
    (hbits : n.natAbs < 2 ^ 48) : (Value.text s).epochMillis = .ok (some (counted n)) := by
  show (Time.Iso8601.parse s).map (fun t => some (Time.Epoch.millis t)) = _
  rw [hparse, Except.map, Time.Epoch.millis, hinstant, Time.Epoch.millisOfMicros_eq hbits]

/-- **The literal of milliseconds is read as their second.** -/
theorem epochMillis_secondLiteral (h : HasFullYear n) :
    (Value.text (Time.secondLiteral (n / 1000))).epochMillis = .ok (some (n - n % 1000)) := by
  have hsecond : n / 1000 * 1000 = n - n % 1000 := by omega
  have hfull : HasFullYear (n - n % 1000) := (Time.hasFullYear_congr (by omega)).2 h
  have hcalendar : InCalendar (n / 1000 * 1000) := hsecond ▸ hfull.inCalendar
  have hyear : 1000 ≤ (Time.Timestamp.ofInstant (n / 1000 * Time.microsPerSecond)).date.year := by
    rw [Time.Timestamp.date_ofSecond]
    exact h.1
  obtain ⟨t, hparse, hinstant⟩ := Time.parse_secondLiteral hcalendar hyear
  rw [epochMillis_of_parse hparse hinstant hcalendar.natAbs_lt, hsecond,
    Time.Epoch.counted_of_whole (by omega)]

/-- **The day of milliseconds is read as its midnight.** -/
theorem epochMillis_dateText (h : InCalendar n) :
    (Value.text (Time.dateText (Time.Date.ofDays (n / 86400000)))).epochMillis
      = .ok (some (n - n % 86400000)) := by
  have hmidnight : (Time.Timestamp.midnight (Time.Date.ofDays (n / 86400000))).instant
      = (n - n % 86400000) * 1000 := by
    simp only [Time.Timestamp.instant, Time.Timestamp.onClock, Time.Timestamp.midnight,
      Time.Date.toDays_ofDays, Option.getD_some, Time.microsPerDay, Time.microsPerSecond]
    omega
  have hcalendar : InCalendar (n - n % 86400000) := by
    have hday : (n - n % 86400000) / 86400000 = n / 86400000 := by omega
    rwa [InCalendar, hday]
  rw [epochMillis_of_parse (Time.parse_dateText (Time.Date.isValid_ofDays h)) hmidnight
    hcalendar.natAbs_lt, Time.Epoch.counted_of_whole (by omega)]

/-! ### Milliseconds as texts -/

/-- In the years of the calendar there is a timestamp, in the same second. -/
theorem exists_ofMillis (h : InCalendar n) :
    ∃ micros, Time.Epoch.ofMillis n = .ok (.ofInstant micros) ∧ micros / 1000000 = n / 1000 := by
  obtain ⟨micros, hof, hsecond⟩ := Time.Epoch.exists_micros h.natAbs_lt
  refine ⟨micros, ?_, hsecond⟩
  have hday : micros / Time.microsPerDay = n / 86400000 := by
    simp only [Time.microsPerDay, Time.microsPerSecond]
    omega
  rw [hof, Time.Epoch.timestampOfMicros_eq_ok_iff, hday]
  exact ⟨h, rfl⟩

/-- **Milliseconds as a literal of their second.** -/
theorem literalDateTime?_int (h : InCalendar n) :
    (Value.int n).literalDateTime? = some (.ok (Time.secondLiteral (n / 1000))) := by
  have hliteral := Time.Epoch.literal_ofMillis_iff.2 ⟨h, rfl⟩
  exact congrArg some hliteral

/-- **Milliseconds as their day.** -/
theorem literalDate?_int (h : HasFullYear n) :
    (Value.int n).literalDate? = some (.ok (Time.dateText (Time.Date.ofDays (n / 86400000)))) := by
  obtain ⟨micros, hof, hsecond⟩ := exists_ofMillis h.inCalendar
  have htext : (Time.Epoch.ofMillis n).map (fun t => t.date.plainText)
      = .ok (Time.dateText (Time.Date.ofDays (n / 86400000))) := by
    rw [hof, Except.map, Time.Timestamp.date_ofInstant hsecond,
      Time.Date.plainText_eq_dateText (Time.Date.isValid_ofDays h.inCalendar) h.1]
  exact congrArg some htext

/-- The literal of milliseconds begins with their day. -/
theorem take_secondLiteral (h : HasFullYear n) :
    (Time.secondLiteral (n / 1000)).toList.take 10
      = (Time.dateText (Time.Date.ofDays (n / 86400000))).toList := by
  have hdate := Time.Timestamp.date_ofSecond n
  have hvalid := Time.Date.isValid_ofDays h.inCalendar
  have hyear := h.1
  rw [← hdate] at hvalid hyear ⊢
  exact Time.take_literal hvalid hyear

/-! ### Texts to the millisecond -/

/-- Milliseconds are counted as they are exactly if they do not fall short. -/
theorem counted_eq_self_iff : counted n = n ↔ ¬ FallsShort n.natAbs := by
  unfold counted
  split
  · next h =>
    have hne : n.sign ≠ 0 := by
      rw [ne_eq, Int.sign_eq_zero_iff_zero]
      rintro rfl
      obtain ⟨k, -, hlow, -⟩ := h
      simp at hlow
    exact iff_of_false (by omega) (not_not_intro h)
  · next h => exact iff_of_true rfl h

/-- A text to the millisecond is read as that millisecond, as it is counted. -/
theorem epochMillis_counted (h : InCalendar n) (mark : Time.UtcMark) :
    (Value.text (Time.milliText n mark)).epochMillis = .ok (some (counted n)) :=
  epochMillis_of_parse (Time.parse_milliText h mark) (Time.Timestamp.instant_ofInstant _)
    h.natAbs_lt

/-- **What a text to the millisecond is read as.**  In the years of the calendar, and
with any mark of UTC, it is read as the millisecond that it denotes, unless that
falls short.  Then it is read as the next one on the way to 1970.  The same number is
the time of a record and the bound of a delta. -/
theorem epochMillis_milliText (h : InCalendar n) (mark : Time.UtcMark) :
    (Value.text (Time.milliText n mark)).epochMillis = .ok (some (counted n)) ∧
    (∀ field, Record.epochField field (.text (Time.milliText n mark)) = .ok (.int (counted n))) ∧
    (∀ field, Compile.boundMillis field (.text (Time.milliText n mark))
      = .ok (some (counted n))) ∧
    (counted n = n ↔ ¬ FallsShort n.natAbs) ∧
    (FallsShort n.natAbs → counted n = n - n.sign) := by
  have hread := epochMillis_counted h mark
  refine ⟨hread, fun field => ?_, fun field => ?_, counted_eq_self_iff, fun hshort => if_pos hshort⟩
  · unfold Record.epochField
    rw [hread]
    rfl
  · unfold Compile.boundMillis
    rw [hread]

/-- `epochMillis_milliText` for a millisecond just before 1970, which is read as the
next one. -/
theorem epochMillis_milliText_before1970 :
    InCalendar (-1001) ∧ Time.milliText (-1001) .compact = "1969-12-31T23:59:58.999+0000" ∧
      (Value.text "1969-12-31T23:59:58.999+0000").epochMillis = .ok (some (-1000)) := by
  have hcalendar : InCalendar (-1001) := by decide
  have htext : Time.milliText (-1001) .compact = "1969-12-31T23:59:58.999+0000" := by
    decide +kernel
  have hcounted : counted (-1001) = -1000 := by decide +kernel
  have hread := (epochMillis_milliText hcalendar .compact).1
  rw [htext, hcounted] at hread
  exact ⟨hcalendar, htext, hread⟩

/-- **A text to the millisecond need not be read as what it denotes.**  The first
millisecond after `2 ^ 30` seconds is read as the one before it. -/
theorem milliText_miscounted :
    Time.milliText 1073741824001 .zulu = "2004-01-10T13:37:04.001Z" ∧
      (Value.text "2004-01-10T13:37:04.001Z").epochMillis = .ok (some 1073741824000) ∧
      ¬ ∀ n, HasFullYear n → ∀ mark,
        (Value.text (Time.milliText n mark)).epochMillis = .ok (some n) := by
  have htext : Time.milliText 1073741824001 .zulu = "2004-01-10T13:37:04.001Z" := by
    decide +kernel
  have hcounted : counted 1073741824001 = 1073741824000 := by decide +kernel
  have hread := epochMillis_counted (n := 1073741824001) (by decide) .zulu
  rw [htext, hcounted] at hread
  refine ⟨htext, hread, fun hall => ?_⟩
  have hexact := hall 1073741824001 (by decide) .zulu
  rw [htext, hread] at hexact
  have hsame : (1073741824000 : Int) = 1073741824001 := Option.some.inj (Except.ok.inj hexact)
  omega

end Value
end RecordBridge
