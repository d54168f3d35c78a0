/-
# Values in messages

Two ways to show a value in a message.  `inspect` shows what it is: texts
between quotes, containers in brackets, null as `None`.  `display` is the same
except that a text, a decimal, a timestamp and a date stand for themselves.
-/

import RecordBridge.Numeric.Shortest
import RecordBridge.Pattern.Flags
import RecordBridge.Text.Quoted
import RecordBridge.Value.Basic

namespace RecordBridge
namespace Value

/-- Texts with a separator between them. -/
def joined (separator : String) (parts : List String) : String := separator.intercalate parts

/-- A span of time by its days, seconds and microseconds. -/
def inspectSpan (micros : Int) : String :=
  let days := micros / Time.microsPerDay
  let inDay := micros % Time.microsPerDay
  let seconds := inDay / Time.microsPerSecond
  let rest := inDay % Time.microsPerSecond
  let parts := (if days = 0 then [] else ["days=" ++ toString days])
    ++ (if seconds = 0 then [] else ["seconds=" ++ toString seconds])
    ++ (if rest = 0 then [] else ["microseconds=" ++ toString rest])
  "datetime.timedelta(" ++ (if parts.isEmpty then "0" else joined ", " parts) ++ ")"

/-- The zone of a timestamp by its distance from UTC. -/
def inspectZone (micros : Int) : String :=
  if micros = 0 then "datetime.timezone.utc"
  else "datetime.timezone(" ++ inspectSpan micros ++ ")"

/-- A timestamp by its parts, without the seconds when there are none. -/
def inspectTimestamp (t : Time.Timestamp) : String :=
  let parts := [toString t.date.year, toString t.date.month, toString t.date.day,
      toString t.hour, toString t.minute]
    ++ (if t.second = 0 ∧ t.microsecond = 0 then [] else [toString t.second])
    ++ (if t.microsecond = 0 then [] else [toString t.microsecond])
    ++ (match t.offset with
      | none => []
      | some o => ["tzinfo=" ++ inspectZone o])
  "datetime.datetime(" ++ joined ", " parts ++ ")"

/-- A date by its parts. -/
def inspectDate (d : Time.Date) : String :=
  "datetime.date(" ++ joined ", " [toString d.year, toString d.month, toString d.day] ++ ")"

/-- An offset as hours and minutes, with seconds and their fraction if there
are any. -/
def offsetText (micros : Int) : String :=
  let n := micros.natAbs
  let seconds := n / 1000000
  (if micros < 0 then "-" else "+") ++ Time.twoDigits (seconds / 3600) ++ ":"
    ++ Time.twoDigits (seconds / 60 % 60)
    ++ (if n % 60000000 = 0 then "" else ":" ++ Time.twoDigits (seconds % 60))
    ++ (if n % 1000000 = 0 then ""
      else "." ++ Numeric.Shortest.padZeros 6 (toString (n % 1000000)))

/-- A timestamp as text, with a blank between date and clock. -/
def timestampText (t : Time.Timestamp) : String :=
  t.date.isoText ++ " " ++ t.clockText
    ++ (if t.microsecond = 0 then ""
      else "." ++ Numeric.Shortest.padZeros 6 (toString t.microsecond))
    ++ (match t.offset with
      | none => ""
      | some o => offsetText o)

/-- The brackets of a tuple; a single element has a comma behind it. -/
def inTuple (parts : List String) : String :=
  match parts with
  | [part] => "(" ++ part ++ ",)"
  | _ => "(" ++ joined ", " parts ++ ")"

/-- The braces of a set; the empty one has a name. -/
def inSet (parts : List String) : String :=
  if parts.isEmpty then "set()" else "\x7b" ++ joined ", " parts ++ "\x7d"

/-- The most characters of an expression that a message shows. -/
def shownPatternLength : Nat := 200

/-- A compiled expression: the beginning of its quoted text, and its flags. -/
def inspectPattern (source : String) : String :=
  let shown := String.ofList ((Text.quoted source).toList.take shownPatternLength)
  let flags := Pattern.flagsOf source
  "re.compile(" ++ shown
    ++ (if flags.isEmpty then "" else ", " ++ joined "|" (flags.map Pattern.Flag.name)) ++ ")"

mutual
/-- A value by what it is. -/
def inspect : Value → String
  | .null => "None"
  | .bool b => if b then "True" else "False"
  | .int n => toString n
  | .float x => x.toText
  | .text s => Text.quoted s
  | .list xs => "[" ++ joined ", " (inspectAll xs) ++ "]"
  | .object es => "\x7b" ++ joined ", " (inspectEntries es) ++ "\x7d"
  | .decimal d => "Decimal(" ++ Text.quoted d.text ++ ")"
  | .instant t => inspectTimestamp t
  | .date d => inspectDate d
  | .tuple xs => inTuple (inspectAll xs)
  | .set xs => inSet (inspectAll xs)
  | .pattern s => inspectPattern s

/-- Each value by what it is. -/
def inspectAll : List Value → List String
  | [] => []
  | x :: xs => inspect x :: inspectAll xs

/-- Each entry by its key and its value. -/
def inspectEntries : List (String × Value) → List String
  | [] => []
  | (k, v) :: es => (Text.quoted k ++ ": " ++ inspect v) :: inspectEntries es
end

/-- A value as running text. -/
def display : Value → String
  | .text s => s
  | .decimal d => d.text
  | .instant t => timestampText t
  | .date d => d.isoText
  | v => inspect v

/-- A text stands for itself. -/
@[simp] theorem display_text (s : String) : display (.text s) = s := rfl

end Value
end RecordBridge
