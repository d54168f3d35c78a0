/-
# Literals read back

The literal of a number of seconds is an ISO 8601 timestamp, and the reader of
such timestamps finds the same second in it (`denotes_secondLiteral`).  A
literal writes its year without padding, and the reader asks for four digits:
so what a literal denotes is read off after zeros have been put before it, up
to its twenty characters.  From the year 1000 on there are none to put, and
the literal is read as it stands (`parse_secondLiteral`).
-/

import RecordBridge.Proofs.Time.Seconds
import RecordBridge.Time.Iso8601

namespace RecordBridge
namespace Time

/-- A text that denotes a time in milliseconds, its year filled up to four
digits. -/
def Denotes (text : String) (millis : Int) : Prop :=
  ∃ t, Iso8601.parse (String.ofList (text.toList.leftpad 20 '0')) = .ok t ∧
    t.instant = millis * 1000

/-- A text of twenty characters or more denotes what it is read as. -/
theorem denotes_iff {text : String} {millis : Int} (h : 20 ≤ text.length) :
    Denotes text millis ↔ ∃ t, Iso8601.parse text = .ok t ∧ t.instant = millis * 1000 := by
  have hpad : text.toList.leftpad 20 '0' = text.toList := by
    rw [List.leftpad, String.length_toList, Nat.sub_eq_zero_of_le h]
    rfl
  rw [Denotes, hpad, String.ofList_toList]

/-- The last `k` digits of a number. -/
def lastDigits : Nat → Nat → List Char
  | 0, _ => []
  | k + 1, n => lastDigits k (n / 10) ++ [Nat.digitChar (n % 10)]

/-! ### Digits -/

theorem length_lastDigits (k n : Nat) : (lastDigits k n).length = k := by
  induction k generalizing n with
  | zero => rfl
  | succ k ih => rw [lastDigits, List.length_append, ih, List.length_singleton]

theorem isDigit_of_mem_lastDigits {k n : Nat} {c : Char} (h : c ∈ lastDigits k n) :
    c.isDigit = true := by
  induction k generalizing n with
  | zero => exact nomatch h
  | succ k ih =>
    rw [lastDigits, List.mem_append, List.mem_singleton] at h
    obtain h | rfl := h
    · exact ih h
    · rw [Nat.isDigit_digitChar]
      exact decide_eq_true (Nat.mod_lt n (by decide))

theorem lastDigits_zero (k : Nat) : lastDigits k 0 = List.replicate k '0' := by
  induction k with
  | zero => rfl
  | succ k ih => rw [lastDigits, Nat.zero_div, ih, List.replicate_succ']; rfl

/-- The digits of a number, filled up with zeros. -/
theorem leftpad_toDigits {k n : Nat} (h : n < 10 ^ (k + 1)) :
    (Nat.toDigits 10 n).leftpad (k + 1) '0' = lastDigits (k + 1) n := by
  induction k generalizing n with
  | zero =>
    rw [Nat.toDigits_of_lt_base (by simpa using h)]
    simp only [lastDigits, Nat.mod_eq_of_lt (show n < 10 by simpa using h)]
    rfl
  | succ k ih =>
    rw [lastDigits]
    by_cases hn : n < 10
    · rw [Nat.toDigits_of_lt_base hn, Nat.div_eq_of_lt hn, Nat.mod_eq_of_lt hn, lastDigits_zero]
      rfl
    · rw [Nat.toDigits_of_base_le (by decide) (by omega), ← ih (by rw [pow_succ] at h; omega)]
      simp only [List.leftpad, List.length_append, List.length_singleton,
        Nat.add_sub_add_right, List.append_assoc]

/-- A number of four digits is its last four digits. -/
theorem toDigits_eq_lastDigits {n : Nat} (hlow : 1000 ≤ n) (hhigh : n < 10000) :
    Nat.toDigits 10 n = lastDigits 4 n := by
  have hlength : (Nat.toDigits 10 n).length = 4 := by
    rw [Nat.toDigits_of_base_le (by decide) (by omega),
      Nat.toDigits_of_base_le (by decide) (by omega),
      Nat.toDigits_of_base_le (by decide) (by omega), Nat.toDigits_of_lt_base (by omega)]
    rfl
  rw [← leftpad_toDigits (k := 3) hhigh, List.leftpad, hlength]
  rfl

theorem toList_twoDigits {n : Nat} (h : n < 100) : (twoDigits n).toList = lastDigits 2 n := by
  rw [← leftpad_toDigits (k := 1) (by omega), twoDigits, Nat.toString_eq_ofList_toDigits]
  split
  · next hn =>
    rw [Nat.toDigits_of_lt_base hn, String.toList_append]
    simp only [String.toList_ofList]
    rfl
  · next hn =>
    rw [Nat.toDigits_of_base_le (by decide) (by omega), String.toList_ofList,
      Nat.toDigits_of_lt_base (show n / 10 < 10 by omega)]
    rfl

/-- The characters of a date with its year in four digits. -/
def dateChars (d : Date) : List Char :=
  lastDigits 4 d.year.toNat ++ '-' :: (lastDigits 2 d.month ++ '-' :: lastDigits 2 d.day)

/-- The characters of hours, minutes and seconds. -/
def clockChars (hour minute second : Nat) : List Char :=
  lastDigits 2 hour ++ ':' :: (lastDigits 2 minute ++ ':' :: lastDigits 2 second)

/-- The marks that put a clock reading on UTC. -/
inductive UtcMark
  | zulu
  | compact
  | extended
  deriving DecidableEq, Repr

/-- The characters of a mark. -/
def UtcMark.chars : UtcMark → List Char
  | .zulu => ['Z']
  | .compact => ['+', '0', '0', '0', '0']
  | .extended => ['+', '0', '0', ':', '0', '0']

theorem leftpad_append (k : Nat) (xs ys : List Char) :
    (xs ++ ys).leftpad (k + ys.length) '0' = xs.leftpad k '0' ++ ys := by
  simp only [List.leftpad, List.length_append, Nat.add_sub_add_right, List.append_assoc]

theorem bounds_of_isValid {d : Date} (h : d.isValid = true) :
    1 ≤ d.year ∧ d.year ≤ 9999 ∧ d.month < 100 ∧ d.day < 100 := by
  simp only [Date.isValid, Bool.and_eq_true, decide_eq_true_eq, isYear_iff] at h
  have hlength : daysInMonth d.year d.month ≤ 31 := by
    unfold daysInMonth
    split
    · split <;> omega
    · split <;> omega
  omega

/-- A date without padding is its year and six characters more. -/
theorem toList_plainText {d : Date} (hd : d.isValid = true) :
    d.plainText.toList = Nat.toDigits 10 d.year.toNat
      ++ '-' :: (lastDigits 2 d.month ++ '-' :: lastDigits 2 d.day) := by
  obtain ⟨hfirst, -, hmonth, hday⟩ := bounds_of_isValid hd
  have hyear : (toString d.year).toList = Nat.toDigits 10 d.year.toNat := by
    obtain ⟨y, hy⟩ := Int.eq_ofNat_of_zero_le (show 0 ≤ d.year by omega)
    rw [hy, Int.toNat_natCast, show toString (y : Int) = toString y from rfl,
      Nat.toString_eq_ofList_toDigits, String.toList_ofList]
  simp only [Date.plainText, String.toList_append, toList_twoDigits hmonth,
    toList_twoDigits hday, hyear, List.append_assoc]
  rfl

/-- A literal is its year and sixteen characters more. -/
theorem toList_literal {t : Timestamp} (hdate : t.date.isValid = true) (hhour : t.hour < 100)
    (hminute : t.minute < 100) (hsecond : t.second < 100) :
    t.literal.toList = Nat.toDigits 10 t.date.year.toNat
      ++ ('-' :: (lastDigits 2 t.date.month ++ '-' :: lastDigits 2 t.date.day)
        ++ 'T' :: (clockChars t.hour t.minute t.second ++ ['Z'])) := by
  simp only [Timestamp.literal, Timestamp.clockText, String.toList_append,
    toList_plainText hdate, toList_twoDigits hhour, toList_twoDigits hminute,
    toList_twoDigits hsecond, List.append_assoc, clockChars, List.cons_append]
  rfl

/-- Zeros before a literal fill up its year. -/
theorem leftpad_literal {t : Timestamp} (hdate : t.date.isValid = true) (hhour : t.hour < 100)
    (hminute : t.minute < 100) (hsecond : t.second < 100) :
    t.literal.toList.leftpad 20 '0'
      = dateChars t.date ++ 'T' :: (clockChars t.hour t.minute t.second ++ ['Z']) := by
  obtain ⟨hfirst, hlast, -, -⟩ := bounds_of_isValid hdate
  rw [toList_literal hdate hhour hminute hsecond, dateChars, List.append_assoc,
    ← leftpad_toDigits (k := 3) (by omega), ← leftpad_append]
  simp only [List.length_append, List.length_cons, List.length_nil, length_lastDigits, clockChars]

/-- From the year 1000 on there are no zeros to fill up with. -/
theorem length_literal {t : Timestamp} (hdate : t.date.isValid = true) (hhour : t.hour < 100)
    (hminute : t.minute < 100) (hsecond : t.second < 100) (hyear : 1000 ≤ t.date.year) :
    t.literal.length = 20 := by
  obtain ⟨-, hlast, -, -⟩ := bounds_of_isValid hdate
  rw [← String.length_toList, toList_literal hdate hhour hminute hsecond,
    toDigits_eq_lastDigits (by omega) (by omega)]
  simp only [List.length_append, List.length_cons, List.length_nil, length_lastDigits, clockChars]

/-! ### The reader on digits -/

namespace Iso8601

theorem digit?_digitChar {d : Nat} (h : d < 10) : digit? (Nat.digitChar d) = some d := by
  interval_cases d <;> rfl

/-- Digits are read as the number they are the digits of. -/
theorem number?_lastDigits {k n : Nat} (h : n < 10 ^ k) : number? (lastDigits k n) = some n := by
  induction k generalizing n with
  | zero =>
    obtain rfl : n = 0 := by simpa using h
    rfl
  | succ k ih =>
    have hrest : number? (lastDigits k (n / 10)) = some (n / 10) :=
      ih (by rw [pow_succ] at h; omega)
    rw [number?] at hrest
    rw [number?, lastDigits, List.foldlM_append, hrest]
    simp only [List.foldlM_cons, List.foldlM_nil, digit?_digitChar (Nat.mod_lt n (by decide)),
      Option.map_some, Option.bind_eq_bind, Option.bind_some, Nat.div_add_mod, Option.pure_def]

theorem ne_of_mem_lastDigits {k n : Nat} {c c' : Char} (h : c ∈ lastDigits k n)
    (hc : c'.isDigit = false) : c ≠ c' := by
  rintro rfl
  rw [isDigit_of_mem_lastDigits h] at hc
  exact nomatch hc

theorem startsOffset_of_isDigit {c : Char} (h : c.isDigit = true) : startsOffset c = false := by
  simp only [startsOffset, Bool.or_eq_false_iff, decide_eq_false_iff_not]
  refine ⟨⟨?_, ?_⟩, ?_⟩ <;>
    · rintro rfl
      exact absurd h (by decide)

theorem isBlank_of_isDigit {c : Char} (h : c.isDigit = true) : Text.isBlank c = false := by
  rw [Char.isDigit_iff_toNat] at h
  simp only [Text.isBlank, Bool.or_eq_false_iff, Bool.and_eq_false_iff, decide_eq_false_iff_not]
  change 48 ≤ c.toNat ∧ c.toNat ≤ 57 at h
  omega

/-! ### The reader on literals -/

/-- A date with marks, by its digits: two digits after the first mark are not
the number of a week. -/
theorem date?_dashed {y1 y2 y3 y4 m1 m2 d1 d2 : Char} {year : Nat} {date : Date}
    (hyear : number? [y1, y2, y3, y4] = some year) (hmonth : number? [m1, m2] = some date.month)
    (hday : number? [d1, d2] = some date.day) (hy : (year : Int) = date.year) (hW : m1 ≠ 'W')
    (hvalid : date.isValid = true) :
    date? [y1, y2, y3, y4, '-', m1, m2, '-', d1, d2] = some date := by
  obtain ⟨_, month, day⟩ := date
  obtain rfl : (year : Int) = _ := hy
  simp only [date?, hyear, Option.map_some, Option.bind_eq_bind, Option.bind_some]
  split
  case h_2 heq =>
    rw [List.cons.injEq, List.cons.injEq] at heq
    exact absurd heq.2.1 hW
  case h_5 heq =>
    cases heq
    rw [hmonth, Option.bind_some, hday, Option.bind_some]
    exact if_pos hvalid
  case h_7 hdashes _ => exact absurd rfl (hdashes _ _ _ _)
  all_goals next heq => exact nomatch heq

theorem date?_dateChars {d : Date} (hvalid : d.isValid = true) : date? (dateChars d) = some d := by
  obtain ⟨hfirst, hlast, hmonth, hday⟩ := bounds_of_isValid hvalid
  have hyear : ((d.year.toNat : Nat) : Int) = d.year := Int.toNat_of_nonneg (by omega)
  have hW : ∀ c ∈ lastDigits 2 d.month, c ≠ 'W' := fun _ hc => ne_of_mem_lastDigits hc (by decide)
  exact date?_dashed (number?_lastDigits (k := 4) (by omega)) (number?_lastDigits (k := 2) hmonth)
    (number?_lastDigits (k := 2) hday) hyear (hW _ List.mem_cons_self) hvalid

theorem clock?_clockChars {hour minute second : Nat} (hh : hour < 100) (hm : minute < 100)
    (hs : second < 100) :
    clock? (clockChars hour minute second) = some (⟨hour, minute, second, 0⟩, false) := by
  have hhour : number? (lastDigits 2 hour) = some hour := number?_lastDigits hh
  have hminute : number? (lastDigits 2 minute) = some minute := number?_lastDigits hm
  have hsecond : number? (lastDigits 2 second) = some second := number?_lastDigits hs
  simp only [lastDigits, List.nil_append, List.cons_append] at hhour hminute hsecond
  simp [clock?, clockChars, lastDigits, parts?, hhour, hminute, hsecond, Clock.ofParts]

theorem startsOffset_of_mem_clockChars {hour minute second : Nat} {c : Char}
    (h : c ∈ clockChars hour minute second) : startsOffset c = false := by
  simp only [clockChars, List.mem_append, List.mem_cons] at h
  obtain h | rfl | h | rfl | h := h
  case inr.inl | inr.inr.inr.inl => rfl
  all_goals exact startsOffset_of_isDigit (isDigit_of_mem_lastDigits h)

/-- A clock reading without a sign or a `Z` in it, with an offset of zero. -/
theorem timeOfDay?_utc {cs : List Char} {clock : Clock}
    (hcs : ∀ c ∈ cs, startsOffset c = false) (hclock : clock? cs = some (clock, false)) :
    timeOfDay? (cs ++ UtcMark.extended.chars) = some (clock, some 0) := by
  have hpass : ∀ c ∈ cs, (!startsOffset c) = true := by
    intro c hc
    rw [hcs c hc]
    rfl
  have htake : (cs ++ UtcMark.extended.chars).takeWhile (!startsOffset ·) = cs := by
    rw [List.takeWhile_append_of_pos hpass]
    exact List.append_nil _
  have hdrop : (cs ++ UtcMark.extended.chars).dropWhile (!startsOffset ·)
      = UtcMark.extended.chars := by
    rw [List.dropWhile_append_of_pos hpass]
    rfl
  rw [timeOfDay?, htake, hdrop, hclock]
  rfl

theorem length_dateChars (d : Date) : (dateChars d).length = 10 := by
  simp [dateChars, length_lastDigits]

/-- A text that starts with a date with marks has it in its first ten characters. -/
theorem dateLength?_dateChars (d : Date) (rest : List Char) :
    dateLength? (dateChars d ++ rest) = some 10 := by
  have hW : ∀ c ∈ lastDigits 2 d.month, c ≠ 'W' := fun _ hc => ne_of_mem_lastDigits hc (by decide)
  have hmonth := hW _ List.mem_cons_self
  simp [dateLength?, dateChars, lastDigits, hmonth]

theorem plain?_dateChars {d : Date} (hdate : d.isValid = true) {clock : Clock}
    (hclock : clock.isValid = true) {rest : List Char}
    (hrest : timeOfDay? rest = some (clock, some 0)) :
    plain? (dateChars d ++ 'T' :: rest)
      = some ⟨d, clock.hour, clock.minute, clock.second, clock.microsecond, some 0⟩ := by
  rw [plain?, dateLength?_dateChars, Option.bind_eq_bind, Option.bind_some,
    List.take_left' (length_dateChars _), date?_dateChars hdate, Option.bind_eq_bind,
    Option.bind_some, List.drop_left' (length_dateChars _)]
  simp only [hrest, Option.bind_eq_bind, Option.bind_some]
  exact if_pos hclock

/-- A text has no blanks around it if none is at its ends. -/
theorem trimBoth_of_ends {cs : List Char} {first last : Char} (hfirst : cs.head? = some first)
    (hlast : cs.getLast? = some last) (hstart : Text.isBlank first = false)
    (hstop : Text.isBlank last = false) : Text.trimBoth Text.isBlank cs = cs := by
  obtain ⟨rest, rfl⟩ := List.head?_eq_some_iff.1 hfirst
  obtain ⟨front, hfront⟩ := List.getLast?_eq_some_iff.1 hlast
  have htail : (first :: rest).dropWhile Text.isBlank = first :: rest :=
    List.dropWhile_cons_of_neg (by simp [hstart])
  have hback : (first :: rest).reverse.dropWhile Text.isBlank = (first :: rest).reverse := by
    rw [hfront, List.reverse_append]
    exact List.dropWhile_cons_of_neg (by simp [hstop])
  rw [Text.trimBoth, htail, hback, List.reverse_reverse]

/-- Every mark of UTC comes down to the extended one. -/
theorem expand_mark {cs : List Char} {c : Char} (hhead : cs.head? = some c)
    (hc : c.isDigit = true) (mark : UtcMark) :
    expandOffset (expandZulu (Text.trimBoth Text.isBlank (cs ++ mark.chars)))
      = cs ++ UtcMark.extended.chars := by
  have htrim : Text.trimBoth Text.isBlank (cs ++ mark.chars) = cs ++ mark.chars := by
    obtain ⟨last, hlast, hstop⟩ :
        ∃ last, mark.chars.getLast? = some last ∧ Text.isBlank last = false := by
      cases mark <;> exact ⟨_, rfl, by decide⟩
    have hfirst : (cs ++ mark.chars).head? = some c := by rw [List.head?_append, hhead]; rfl
    have hend : (cs ++ mark.chars).getLast? = some last := by
      rw [List.getLast?_append, hlast]
      rfl
    exact trimBoth_of_ends hfirst hend (isBlank_of_isDigit hc) hstop
  have hkeep : expandOffset (cs ++ UtcMark.extended.chars) = cs ++ UtcMark.extended.chars := by
    rw [expandOffset, List.reverse_append]
    rfl
  rw [htrim]
  cases mark with
  | zulu =>
    have hzulu : expandZulu (cs ++ UtcMark.zulu.chars) = cs ++ UtcMark.extended.chars := by
      rw [expandZulu, List.reverse_append]
      exact congrArg (· ++ UtcMark.extended.chars) (List.reverse_reverse cs)
    rw [hzulu, hkeep]
  | compact =>
    have hzulu : expandZulu (cs ++ UtcMark.compact.chars) = cs ++ UtcMark.compact.chars := by
      rw [expandZulu, List.reverse_append]
      rfl
    have hcolon : expandOffset (cs ++ UtcMark.compact.chars) = cs ++ UtcMark.extended.chars := by
      rw [expandOffset, List.reverse_append,
        ← List.reverse_reverse (cs ++ UtcMark.extended.chars), List.reverse_append]
      rfl
    rw [hzulu, hcolon]
  | extended =>
    have hzulu : expandZulu (cs ++ UtcMark.extended.chars) = cs ++ UtcMark.extended.chars := by
      rw [expandZulu, List.reverse_append]
      rfl
    rw [hzulu, hkeep]

/-- **The reader finds a date and a clock reading behind one another, with any mark
of UTC.** -/
theorem parse_utc {d : Date} (hdate : d.isValid = true) {cs : List Char} {clock : Clock}
    (hcs : ∀ c ∈ cs, startsOffset c = false) (hclock : clock? cs = some (clock, false))
    (hvalid : clock.isValid = true) (mark : UtcMark) :
    parse (String.ofList (dateChars d ++ 'T' :: (cs ++ mark.chars)))
      = .ok ⟨d, clock.hour, clock.minute, clock.second, clock.microsecond, some 0⟩ := by
  have hplain := plain?_dateChars hdate hvalid (timeOfDay?_utc hcs hclock)
  have hyear : (Nat.digitChar (d.year.toNat / 10 / 10 / 10 % 10)).isDigit = true :=
    isDigit_of_mem_lastDigits (k := 4) List.mem_cons_self
  rw [parse, parse?, String.toList_ofList, ← List.cons_append, ← List.append_assoc,
    expand_mark rfl hyear, List.append_assoc, List.cons_append, hplain]
  rfl

/-- The reader finds the parts of a timestamp in the characters of its
literal. -/
theorem parse_literal {t : Timestamp} (hdate : t.date.isValid = true)
    (hclock : (Clock.mk t.hour t.minute t.second 0).isValid = true) :
    parse (String.ofList (t.literal.toList.leftpad 20 '0'))
      = .ok ⟨t.date, t.hour, t.minute, t.second, 0, some 0⟩ := by
  have hbounds := hclock
  simp only [Clock.isValid, Bool.and_eq_true, decide_eq_true_eq] at hbounds
  rw [leftpad_literal hdate (by omega) (by omega) (by omega)]
  exact parse_utc hdate (fun _ hc => startsOffset_of_mem_clockChars hc)
    (clock?_clockChars (by omega) (by omega) (by omega)) hclock .zulu

end Iso8601

/-! ### Seconds -/

/-- The clock of an instant shows a time of the day. -/
theorem Timestamp.clock_ofInstant (micros : Int) :
    (ofInstant micros).hour ≤ 23 ∧ (ofInstant micros).minute ≤ 59 ∧
      (ofInstant micros).second ≤ 59 := by
  simp only [ofInstant, microsPerDay, microsPerSecond]
  omega

/-- A whole second has no microseconds on its clock. -/
theorem Timestamp.microsecond_ofInstant (seconds : Int) :
    (ofInstant (seconds * microsPerSecond)).microsecond = 0 := by
  simp only [ofInstant, microsPerDay, microsPerSecond]
  omega

/-- The timestamp of a whole second in the calendar is one of the calendar. -/
theorem Timestamp.isValid_date {seconds : Int} (h : InCalendar (seconds * 1000)) :
    (ofInstant (seconds * microsPerSecond)).date.isValid = true := by
  have hday : seconds * 1000 / 86400000 = seconds * microsPerSecond / microsPerDay := by
    simp only [microsPerDay, microsPerSecond]
    omega
  rw [InCalendar, hday] at h
  exact Date.isValid_ofDays h

/-- **The literal of a number of seconds in the calendar denotes that second.** -/
theorem denotes_secondLiteral {seconds : Int} (h : InCalendar (seconds * 1000)) :
    Denotes (secondLiteral seconds) (seconds * 1000) := by
  have hdate := Timestamp.isValid_date h
  have hclock := Timestamp.clock_ofInstant (seconds * microsPerSecond)
  have hwhole := Timestamp.microsecond_ofInstant seconds
  have hinstant := Timestamp.instant_ofInstant (seconds * microsPerSecond)
  have hoffset : (Timestamp.ofInstant (seconds * microsPerSecond)).offset = some 0 := rfl
  rw [secondLiteral]
  generalize Timestamp.ofInstant (seconds * microsPerSecond) = t at *
  refine ⟨t, ?_, ?_⟩
  · rw [Iso8601.parse_literal hdate (by simpa [Iso8601.Clock.isValid, and_assoc] using hclock),
      ← hwhole, ← hoffset]
  · rw [hinstant, microsPerSecond]
    omega

/-- **From the year 1000 on the reader takes a literal as it stands.** -/
theorem parse_secondLiteral {seconds : Int} (h : InCalendar (seconds * 1000))
    (hyear : 1000 ≤ (Timestamp.ofInstant (seconds * microsPerSecond)).date.year) :
    ∃ t, Iso8601.parse (secondLiteral seconds) = .ok t ∧ t.instant = seconds * 1000 * 1000 := by
  have hclock := Timestamp.clock_ofInstant (seconds * microsPerSecond)
  have hlength : (secondLiteral seconds).length = 20 :=
    length_literal (Timestamp.isValid_date h) (by omega) (by omega) (by omega) hyear
  exact (denotes_iff hlength.ge).1 (denotes_secondLiteral h)

end Time
end RecordBridge
