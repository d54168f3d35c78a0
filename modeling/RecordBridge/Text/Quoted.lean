/-
# Texts in diagnostics

A diagnostic shows a text between quotes so that its ends and its invisible
characters can be seen.  The quote is a single one unless the text holds
single quotes and no double ones.  The chosen quote and the backslash are
escaped by a backslash, three controls have names, and any other character
that cannot be shown is written by its code in lower-case hexadecimal, with
two, four or eight digits.
-/

import RecordBridge.Text.Printable

namespace RecordBridge
namespace Text

/-- A code point in lower-case hexadecimal with at least `width` digits. -/
def hexDigits (width n : Nat) : List Char :=
  let ds := Nat.toDigits 16 n
  List.replicate (width - ds.length) '0' ++ ds

/-- One character as a diagnostic shows it. -/
def quotedChar (quote c : Char) : List Char :=
  if c = quote ∨ c = '\\' then ['\\', c]
  else if c = '\n' then ['\\', 'n']
  else if c = '\r' then ['\\', 'r']
  else if c = '\t' then ['\\', 't']
  else if isPrintable c then [c]
  else if c.toNat < 0x100 then '\\' :: 'x' :: hexDigits 2 c.toNat
  else if c.toNat < 0x10000 then '\\' :: 'u' :: hexDigits 4 c.toNat
  else '\\' :: 'U' :: hexDigits 8 c.toNat

/-- The quote a text is shown between. -/
def quoteFor (cs : List Char) : Char :=
  if cs.contains '\'' && !cs.contains '"' then '"' else '\''

/-- A text as a diagnostic shows it. -/
def quoted (s : String) : String :=
  let cs := s.toList
  let q := quoteFor cs
  String.ofList (q :: cs.flatMap (quotedChar q) ++ [q])

end Text
end RecordBridge
