/-
# Days and milliseconds read back

Besides the literals of queries, remote texts come in two more forms: a day
alone, and a point in time to the millisecond with one of the marks of UTC.

    YYYY-MM-DD
    YYYY-MM-DDThh:mm:ss.mmm(Z|+0000|+00:00)

The reader takes a day for its midnight (`parse_dateText`) and finds the same
millisecond in a text of the longer form (`parse_milliText`).
-/

import RecordBridge.Proofs.Time.Reading

namespace RecordBridge
namespace Time

/-- Whether the year of a time in milliseconds is written with four digits. -/
def HasFullYear (millis : Int) : Prop :=
  1000 ≤ (Date.ofDays (millis / 86400000)).year ∧ (Date.ofDays (millis / 86400000)).year ≤ 9999

instance (millis : Int) : Decidable (HasFullYear millis) :=
  inferInstanceAs (Decidable (_ ∧ _))

/-- A day as text. -/
def dateText (d : Date) : String := String.ofList (dateChars d)

/-- A time in milliseconds as text. -/
def milliText (millis : Int) (mark : UtcMark) : String :=
  let t := Timestamp.ofInstant (millis * 1000)
  String.ofList (dateChars t.date ++ 'T' :: (clockChars t.hour t.minute t.second
    ++ '.' :: lastDigits 3 (t.microsecond / 1000) ++ mark.chars))

variable {millis : Int}

/-! ### Years -/

theorem HasFullYear.inCalendar (h : HasFullYear millis) : InCalendar millis := by
  rw [InCalendar, isYear_iff]
  exact ⟨by have := h.1; omega, h.2⟩

/-- Times on the same day have the same year. -/
theorem hasFullYear_congr {other : Int} (h : other / 86400000 = millis / 86400000) :
    HasFullYear other ↔ HasFullYear millis := by
  rw [HasFullYear, HasFullYear, h]

/-- The years of the calendar are counted with 48 bits. -/
theorem InCalendar.natAbs_lt (h : InCalendar millis) : millis.natAbs < 2 ^ 48 := by
  have hdays := Date.range_of_isYear h
  omega

/-- An instant has the day of all milliseconds in its second. -/
theorem Timestamp.date_ofInstant {micros : Int} (h : micros / 1000000 = millis / 1000) :
    (ofInstant micros).date = Date.ofDays (millis / 86400000) := by
  have hday : micros / microsPerDay = millis / 86400000 := by
    simp only [microsPerDay, microsPerSecond]
    omega
  rw [← hday]
  rfl

/-- The second of milliseconds has their day. -/
theorem Timestamp.date_ofSecond (millis : Int) :
    (ofInstant (millis / 1000 * microsPerSecond)).date = Date.ofDays (millis / 86400000) :=
  date_ofInstant (by simp only [microsPerSecond]; omega)

/-! ### Days -/

/-- **From the year 1000 on there is one text for a day.** -/
theorem Date.plainText_eq_dateText {d : Date} (hd : d.isValid = true) (hyear : 1000 ≤ d.year) :
    d.plainText = dateText d := by
  obtain ⟨-, hlast, -, -⟩ := bounds_of_isValid hd
  rw [← String.toList_inj, toList_plainText hd, toDigits_eq_lastDigits (by omega) (by omega),
    dateText, String.toList_ofList, dateChars]

/-- A literal begins with its day. -/
theorem take_literal {t : Timestamp} (hdate : t.date.isValid = true) (hyear : 1000 ≤ t.date.year) :
    t.literal.toList.take 10 = (dateText t.date).toList := by
  have hday : t.date.plainText.toList.length = 10 := by
    rw [Date.plainText_eq_dateText hdate hyear, dateText, String.toList_ofList,
      Iso8601.length_dateChars]
  rw [← Date.plainText_eq_dateText hdate hyear, Timestamp.literal, String.toList_append,
    String.toList_append, String.toList_append, List.append_assoc, List.append_assoc, ← hday,
    List.take_left]

namespace Iso8601

theorem isDecimalDigit_dash : Text.isDecimalDigit '-' = false := by decide

/-- A day is no text with an offset, although it ends in digits. -/
theorem expand_dateChars (d : Date) :
    expandOffset (expandZulu (Text.trimBoth Text.isBlank (dateChars d))) = dateChars d := by
  have hdigit : ∀ n : Nat, (Nat.digitChar (n % 10)).isDigit = true := fun n =>
    isDigit_of_mem_lastDigits (k := 1) (n := n) List.mem_cons_self
  have hlast := hdigit d.day
  have hfirst := hdigit (d.year.toNat / 10 / 10 / 10)
  have htrim : Text.trimBoth Text.isBlank (dateChars d) = dateChars d :=
    trimBoth_of_ends rfl rfl (isBlank_of_isDigit hfirst) (isBlank_of_isDigit hlast)
  have hzulu : expandZulu (dateChars d) = dateChars d := by
    unfold expandZulu
    split
    · next heq =>
      have hZ : Nat.digitChar (d.day % 10) = 'Z' := (List.cons.inj heq).1
      rw [hZ] at hlast
      exact absurd hlast (by decide)
    · rfl
  rw [htrim, hzulu]
  simp [expandOffset, dateChars, lastDigits, isDecimalDigit_dash]

end Iso8601

/-- **The reader takes a day for its midnight on UTC.** -/
theorem parse_dateText {d : Date} (hd : d.isValid = true) :
    Iso8601.parse (dateText d) = .ok (.midnight d) := by
  have hlength := Iso8601.dateLength?_dateChars d []
  rw [List.append_nil] at hlength
  have htake : (dateChars d).take 10 = dateChars d :=
    List.take_of_length_le (Iso8601.length_dateChars d).le
  have hdrop : (dateChars d).drop 10 = [] := List.drop_of_length_le (Iso8601.length_dateChars d).le
  have hplain : Iso8601.plain? (dateChars d) = some ⟨d, 0, 0, 0, 0, none⟩ := by
    rw [Iso8601.plain?, hlength, Option.bind_eq_bind, Option.bind_some, htake,
      Iso8601.date?_dateChars hd, Option.bind_eq_bind, Option.bind_some, hdrop]
  rw [Iso8601.parse, Iso8601.parse?, dateText, String.toList_ofList, Iso8601.expand_dateChars,
    hplain]
  rfl

/-! ### Milliseconds -/

/-- A clock reading with milliseconds. -/
theorem Iso8601.clock?_millis {hour minute second milli : Nat} (hh : hour < 100)
    (hm : minute < 100) (hs : second < 100) (hmilli : milli < 1000) :
    clock? (clockChars hour minute second ++ '.' :: lastDigits 3 milli)
      = some (⟨hour, minute, second, milli * 1000⟩, false) := by
  have hhour : number? (lastDigits 2 hour) = some hour := number?_lastDigits hh
  have hminute : number? (lastDigits 2 minute) = some minute := number?_lastDigits hm
  have hsecond : number? (lastDigits 2 second) = some second := number?_lastDigits hs
  have hfraction : number? (lastDigits 3 milli) = some milli := number?_lastDigits hmilli
  simp only [lastDigits, List.nil_append, List.cons_append] at hhour hminute hsecond hfraction
  simp [clock?, clockChars, lastDigits, parts?, fraction?, hhour, hminute, hsecond, hfraction,
    Clock.ofParts, Numeric.tenPow]

/-- **The reader finds the millisecond in its text, with any mark of UTC.** -/
theorem parse_milliText (h : InCalendar millis) (mark : UtcMark) :
    Iso8601.parse (milliText millis mark) = .ok (.ofInstant (millis * 1000)) := by
  have hday : millis / 86400000 = millis * 1000 / microsPerDay := by
    simp only [microsPerDay, microsPerSecond]
    omega
  have hdate : (Timestamp.ofInstant (millis * 1000)).date.isValid = true := by
    rw [InCalendar, hday] at h
    exact Date.isValid_ofDays h
  have hclock := Timestamp.clock_ofInstant (millis * 1000)
  have hmicros : (Timestamp.ofInstant (millis * 1000)).microsecond / 1000 * 1000
      = (Timestamp.ofInstant (millis * 1000)).microsecond ∧
      (Timestamp.ofInstant (millis * 1000)).microsecond / 1000 < 1000 := by
    simp only [Timestamp.ofInstant, microsPerDay, microsPerSecond]
    omega
  have hoffset : (Timestamp.ofInstant (millis * 1000)).offset = some 0 := rfl
  rw [milliText]
  generalize Timestamp.ofInstant (millis * 1000) = t at *
  have hmarks : ∀ c ∈ clockChars t.hour t.minute t.second
      ++ '.' :: lastDigits 3 (t.microsecond / 1000), Iso8601.startsOffset c = false := by
    intro c hc
    simp only [List.mem_append, List.mem_cons] at hc
    rcases hc with hc | rfl | hc
    · exact Iso8601.startsOffset_of_mem_clockChars hc
    · rfl
    · exact Iso8601.startsOffset_of_isDigit (isDigit_of_mem_lastDigits hc)
  rw [Iso8601.parse_utc hdate hmarks
    (Iso8601.clock?_millis (by omega) (by omega) (by omega) hmicros.2)
    (by simpa [Iso8601.Clock.isValid, and_assoc] using hclock), hmicros.1, ← hoffset]

end Time
end RecordBridge
