/-
# Reading ISO 8601

`parse?` reads the timestamps that remote records carry.  The text may have
blanks around it.

    date   = YYYY-MM-DD | YYYYMMDD | YYYY-Www | YYYYWww | YYYY-Www-D | YYYYWwwD
    clock  = hh | hh:mm | hhmm | hh:mm:ss | hhmmss | clock fraction
    text   = date | date any-character clock [Z | (+|-) clock]

A fraction follows a point or a comma, and after the seconds also a colon or
nothing; its first six digits count.  A trailing `Z` stands for `+00:00`, and
four digits that end the text after a sign are an offset without its colon.
Only ASCII digits are digits, and a NUL character ends a clock.

Before an offset the clock is read leniently: one more ASCII character behind
its last part is passed over, and so is everything behind its fraction.
-/

import RecordBridge.Numeric.Power
import RecordBridge.Text.Blank
import RecordBridge.Text.DecimalDigit
import RecordBridge.Time.Timestamp

namespace RecordBridge
namespace Time
namespace Iso8601

/-- The value of an ASCII digit. -/
def digit? (c : Char) : Option Nat :=
  if '0' ≤ c ∧ c ≤ '9' then some (c.toNat - '0'.toNat) else none

/-- Whether a character is an ASCII digit. -/
def isDigit (c : Char) : Bool := '0' ≤ c && c ≤ '9'

/-- The value of a list of digits. -/
def number? (cs : List Char) : Option Nat :=
  cs.foldlM (fun n c => (digit? c).map (10 * n + ·)) 0

/-- The date that is written by the given characters. -/
def date? : List Char → Option Date
  | y1 :: y2 :: y3 :: y4 :: rest => do
    let year : Int ← (number? [y1, y2, y3, y4]).map Int.ofNat
    let date ← match rest with
      | ['-', 'W', w1, w2] => Date.ofWeek? year (← number? [w1, w2]) 1
      | ['-', 'W', w1, w2, '-', d] => Date.ofWeek? year (← number? [w1, w2]) (← digit? d)
      | ['W', w1, w2] => Date.ofWeek? year (← number? [w1, w2]) 1
      | ['W', w1, w2, d] => Date.ofWeek? year (← number? [w1, w2]) (← digit? d)
      | ['-', m1, m2, '-', d1, d2] => some ⟨year, ← number? [m1, m2], ← number? [d1, d2]⟩
      | [m1, m2, d1, d2] => some ⟨year, ← number? [m1, m2], ← number? [d1, d2]⟩
      | _ => none
    if date.isValid then some date else none
  | _ => none

/-- How many of the characters are the date: seven at least, and otherwise as
the marks at the fifth and sixth place say. -/
def dateLength? (cs : List Char) : Option Nat :=
  let size := cs.length
  if size < 7 then none
  else if size = 7 then some 7
  else if cs[4]? = some '-' then
    if cs[5]? = some 'W' then
      if cs[8]? = some '-' then
        if size = 9 then none
        else if cs[10]?.any isDigit then some 8 else some 10
      else some 8
    else some 10
  else if cs[4]? = some 'W' then
    let stop := 7 + ((cs.drop 7).takeWhile isDigit).length
    if stop < 9 then some stop else if stop % 2 = 0 then some 7 else some 8
  else some 8

/-- The parts of a clock reading. -/
structure Clock where
  hour : Nat
  minute : Nat
  second : Nat
  microsecond : Nat
  deriving DecidableEq, Repr

/-- The clock reading with the given parts; missing ones are zero. -/
def Clock.ofParts (parts : List Nat) (microsecond : Nat) : Clock :=
  ⟨parts.getD 0 0, parts.getD 1 0, parts.getD 2 0, microsecond⟩

/-- The microseconds that a clock reading amounts to. -/
def Clock.micros (c : Clock) : Int :=
  (((c.hour : Int) * 60 + c.minute) * 60 + c.second) * microsPerSecond + c.microsecond

/-- The fraction of a second: six digits count, more are passed over.  The
second component says whether anything else is left. -/
def fraction? (cs : List Char) : Option (Nat × Bool) :=
  let ds := cs.take 6
  match number? ds with
  | none => none
  | some n =>
    let rest := (cs.drop 6).dropWhile isDigit
    some (n * Numeric.tenPow (6 - ds.length), rest.head?.any (· != '\x00'))

/-- Reads up to `more + 1` parts of two digits and the fraction behind them.
`colon` says whether the parts are separated by colons, once that is known.
The second component of the result says whether anything is left over. -/
def parts? (colon : Option Bool) (done : List Nat) : Nat → List Char →
    Option (Clock × Bool)
  | more, d1 :: d2 :: rest =>
    match number? [d1, d2] with
    | none => none
    | some n =>
      let done := done ++ [n]
      match rest with
      | [] => some (Clock.ofParts done 0, false)
      | [c] => if c.toNat < 128 then some (Clock.ofParts done 0, c != '\x00') else none
      | c :: next =>
        let colon := colon.getD (c = ':')
        let finish (cs : List Char) : Option (Clock × Bool) :=
          (fraction? cs).map fun (micros, left) => (Clock.ofParts done micros, left)
        if colon && c = ':' then
          match more with
          | 0 => finish next
          | more + 1 => parts? (some colon) done more next
        else if c = '.' || c = ',' then finish next
        else if colon then none
        else
          match more with
          | 0 => finish (c :: next)
          | more + 1 => parts? (some colon) done more (c :: next)
  | _, _ => none

/-- A clock reading, and whether anything is left behind it. -/
def clock? (cs : List Char) : Option (Clock × Bool) := parts? none [] 2 cs

/-- Whether a character starts the offset. -/
def startsOffset (c : Char) : Bool := c = '+' || c = '-' || c = 'Z'

/-- The offset in microseconds that a sign and a clock reading denote. -/
def offset? (sign : Char) (cs : List Char) : Option Int :=
  match clock? cs with
  | some (c, false) =>
    if c.hour = 0 ∧ c.minute = 0 ∧ c.second = 0 then some 0
    else
      let micros := if sign = '-' then -c.micros else c.micros
      if micros.natAbs < microsPerDay.natAbs then some micros else none
  | _ => none

/-- A clock reading with its offset. -/
def timeOfDay? (cs : List Char) : Option (Clock × Option Int) := do
  let (clock, left) ← clock? (cs.takeWhile (!startsOffset ·))
  match cs.dropWhile (!startsOffset ·) with
  | [] => if left then none else some (clock, none)
  | 'Z' :: rest => if rest.head?.all (· = '\x00') then some (clock, some 0) else none
  | sign :: rest => (offset? sign rest).map fun o => (clock, some o)

/-- Whether a clock shows the reading. -/
def Clock.isValid (c : Clock) : Bool := c.hour ≤ 23 && c.minute ≤ 59 && c.second ≤ 59

/-- A timestamp in its plain form: no blanks, and a numeric offset. -/
def plain? (cs : List Char) : Option Timestamp := do
  let size ← dateLength? cs
  let date ← date? (cs.take size)
  match cs.drop size with
  | [] => some ⟨date, 0, 0, 0, 0, none⟩
  | _ :: rest =>
    let (clock, offset) ← timeOfDay? rest
    if clock.isValid then
      some ⟨date, clock.hour, clock.minute, clock.second, clock.microsecond, offset⟩
    else none

/-- A final `Z` written as a numeric offset. -/
def expandZulu (cs : List Char) : List Char :=
  match cs.reverse with
  | 'Z' :: rest => rest.reverse ++ "+00:00".toList
  | _ => cs

/-- A final sign with four digits of any script, with a colon put between
them. -/
def expandOffset (cs : List Char) : List Char :=
  match cs.reverse with
  | m2 :: m1 :: h2 :: h1 :: sign :: rest =>
    if (sign = '+' || sign = '-') && [h1, h2, m1, m2].all Text.isDecimalDigit then
      (m2 :: m1 :: ':' :: h2 :: h1 :: sign :: rest).reverse
    else cs
  | _ => cs

/-- The timestamp that a text denotes, with the offset it was written with. -/
def parse? (s : String) : Option Timestamp :=
  plain? (expandOffset (expandZulu (Text.trimBoth Text.isBlank s.toList)))

/-- The timestamp that a text denotes, moved to UTC. -/
def parse (s : String) : Except Fault Timestamp :=
  match parse? s with
  | none => .error (.malformed s)
  | some t => t.toUtc

end Iso8601
end Time
end RecordBridge
