/-
# Writing JSON

A value is written without blanks.  In a string only ASCII characters stand
for themselves: the quote, the backslash and the controls are escaped, and so
is everything beyond ASCII, by its UTF-16 units in four lower-case hexadecimal
digits.  Doubles are written by their shortest text.  `sortKeys` orders the
keys of every object by code point.
-/

import RecordBridge.Value.Inspect

namespace RecordBridge
namespace Json

/-- A UTF-16 unit as an escape. -/
def unitEscape (n : Nat) : List Char := '\\' :: 'u' :: Text.hexDigits 4 n

/-- One character of a string. -/
def charText (c : Char) : List Char :=
  let n := c.toNat
  if c = '"' then ['\\', '"']
  else if c = '\\' then ['\\', '\\']
  else if c = '\n' then ['\\', 'n']
  else if c = '\r' then ['\\', 'r']
  else if c = '\t' then ['\\', 't']
  else if c = '\x08' then ['\\', 'b']
  else if c = '\x0c' then ['\\', 'f']
  else if 0x20 ≤ n ∧ n < 0x7f then [c]
  else if n < 0x10000 then unitEscape n
  else unitEscape (0xd800 + (n - 0x10000) / 1024) ++ unitEscape (0xdc00 + (n - 0x10000) % 1024)

/-- A string with its quotes. -/
def stringText (s : String) : String :=
  String.ofList ('"' :: s.toList.flatMap charText ++ ['"'])

/-- The layout of a double in JSON. -/
def numberLayout : Numeric.Shortest.Layout :=
  { Numeric.Shortest.display with nanText := "NaN", infinityText := "Infinity" }

mutual
/-- A value as JSON with `comma` between elements and `colon` after keys.  A
value without a JSON form is written as the text that stands for it. -/
def text (comma colon : String) : Value → String
  | .null => "null"
  | .bool b => if b then "true" else "false"
  | .int n => toString n
  | .float x => Numeric.Shortest.render numberLayout x
  | .text s => stringText s
  | .list xs | .tuple xs | .set xs => "[" ++ comma.intercalate (texts comma colon xs) ++ "]"
  | .object es => "\x7b" ++ comma.intercalate (entryTexts comma colon es) ++ "\x7d"
  | v => stringText v.display

/-- Each element as JSON. -/
def texts (comma colon : String) : List Value → List String
  | [] => []
  | x :: xs => text comma colon x :: texts comma colon xs

/-- Each entry as JSON. -/
def entryTexts (comma colon : String) : List (String × Value) → List String
  | [] => []
  | (k, v) :: es => (stringText k ++ colon ++ text comma colon v) :: entryTexts comma colon es
end

/-- A value without blanks. -/
def compact (v : Value) : String := text "," ":" v

/-- A value with a blank after every comma and colon. -/
def spaced (v : Value) : String := text ", " ": " v

mutual
/-- A value with the keys of its objects in order of code points. -/
def sortKeys : Value → Value
  | .list xs => .list (sortAll xs)
  | .tuple xs => .tuple (sortAll xs)
  | .set xs => .set (sortAll xs)
  | .object es => .object ((sortValues es).mergeSort fun a b => a.1 ≤ b.1)
  | v => v

/-- Each element with its keys in order. -/
def sortAll : List Value → List Value
  | [] => []
  | x :: xs => sortKeys x :: sortAll xs

/-- Each entry with the keys inside its value in order. -/
def sortValues : List (String × Value) → List (String × Value)
  | [] => []
  | (k, v) :: es => (k, sortKeys v) :: sortValues es
end

end Json
end RecordBridge
