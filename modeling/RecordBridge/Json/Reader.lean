/-
# Reading JSON

A JSON text is read into a `Value`.  Integers stay apart from numbers with a
fraction or an exponent, which become the nearest double; `NaN`, `Infinity`
and `-Infinity` are read too.  An object keeps the order of its keys, and a
key that comes again replaces its value.  Blanks are the space, the tab and
the two line ends.  A string may not hold a bare control character; an escaped
surrogate without its partner becomes the replacement character.

Every reader takes the characters that remain and gives back the rest.  The
ones that nest are bounded by a count, for which the length of the text is
enough; `parse?` supplies it.
-/

import RecordBridge.Numeric.Decimal
import RecordBridge.Text.Decoding
import RecordBridge.Value.Basic

namespace RecordBridge
namespace Json

open Numeric (Binary64 Decimal)

/-- Whether a character may stand between tokens. -/
def isSpace (c : Char) : Bool := c = ' ' || c = '\t' || c = '\n' || c = '\r'

/-- The characters after the blanks at the front. -/
def skipSpace (cs : List Char) : List Char := cs.dropWhile isSpace

/-- Whether a character is a decimal digit. -/
def isDigit (c : Char) : Bool := '0' ≤ c && c ≤ '9'

/-- The value of a hexadecimal digit. -/
def hexValue? (c : Char) : Option Nat :=
  if '0' ≤ c ∧ c ≤ '9' then some (c.toNat - '0'.toNat)
  else if 'a' ≤ c ∧ c ≤ 'f' then some (c.toNat - 'a'.toNat + 10)
  else if 'A' ≤ c ∧ c ≤ 'F' then some (c.toNat - 'A'.toNat + 10)
  else none

/-- The value of four hexadecimal digits. -/
def hex4? (a b c d : Char) : Option Nat := do
  let a ← hexValue? a
  let b ← hexValue? b
  let c ← hexValue? c
  let d ← hexValue? d
  some (((a * 16 + b) * 16 + c) * 16 + d)

/-- The character that a one-letter escape stands for. -/
def escaped? : Char → Option Char
  | '"' => some '"'
  | '\\' => some '\\'
  | '/' => some '/'
  | 'b' => some '\x08'
  | 'f' => some '\x0c'
  | 'n' => some '\n'
  | 'r' => some '\r'
  | 't' => some '\t'
  | _ => none

/-- The UTF-16 units of a string body, up to its closing quote. -/
def stringUnits? : List Char → Option (List Nat × List Char)
  | [] => none
  | '"' :: rest => some ([], rest)
  | '\\' :: 'u' :: a :: b :: c :: d :: rest => do
    let n ← hex4? a b c d
    let (units, rest) ← stringUnits? rest
    some (n :: units, rest)
  | '\\' :: e :: rest => do
    let c ← escaped? e
    let (units, rest) ← stringUnits? rest
    some (c.toNat :: units, rest)
  | ['\\'] => none
  | c :: rest =>
    if c.toNat < 0x20 then none
    else do
      let (units, rest) ← stringUnits? rest
      let n := c.toNat
      if n < 0x10000 then some (n :: units, rest)
      else
        some ((0xd800 + (n - 0x10000) / 1024) :: (0xdc00 + (n - 0x10000) % 1024) :: units, rest)

/-- A string after its opening quote. -/
def string? (cs : List Char) : Option (String × List Char) :=
  (stringUnits? cs).map fun (units, rest) =>
    (String.ofList (Text.Decoding.ofUnits16 units), rest)

/-- The most digits an integer may have. -/
def maxIntegerDigits : Nat := 4300

/-- The fraction at the front: its digits, none if there is no fraction. -/
def fraction (cs : List Char) : List Char × List Char :=
  match cs with
  | '.' :: rest =>
    let ds := rest.takeWhile isDigit
    if ds.isEmpty then ([], cs) else (ds, rest.dropWhile isDigit)
  | _ => ([], cs)

/-- The exponent at the front, if there is one. -/
def exponent (cs : List Char) : Option Int × List Char :=
  match cs with
  | e :: rest =>
    if e = 'e' ∨ e = 'E' then
      let (negative, body) := match rest with
        | '-' :: body => (true, body)
        | '+' :: body => (false, body)
        | body => (false, body)
      let ds := body.takeWhile isDigit
      if ds.isEmpty then (none, cs)
      else (some (Binary64.signed negative (Decimal.ofDigits ds)), body.dropWhile isDigit)
    else (none, cs)
  | [] => (none, cs)

/-- The digits of a whole number: a zero alone, or a run without a zero at its
front. -/
def wholeDigits? (cs : List Char) : Option (List Char × List Char) :=
  match cs with
  | '0' :: rest => some (['0'], rest)
  | _ =>
    let ds := cs.takeWhile isDigit
    if ds.isEmpty then none else some (ds, cs.dropWhile isDigit)

/-- A number after its sign. -/
def number? (negative : Bool) (cs : List Char) : Option (Value × List Char) := do
  let (whole, rest) ← wholeDigits? cs
  let (decimals, rest) := fraction rest
  let (power, rest) := exponent rest
  if decimals.isEmpty && power.isNone then
    if maxIntegerDigits < whole.length then none
    else some (.int (Binary64.signed negative (Decimal.ofDigits whole)), rest)
  else
    let numeral : Decimal :=
      ⟨negative, Decimal.ofDigits (whole ++ decimals), power.getD 0 - decimals.length⟩
    some (.float numeral.toBinary64, rest)

/-- A word and what follows it. -/
def afterWord? (word : String) (cs : List Char) : Option (List Char) :=
  if word.toList.isPrefixOf cs then some (cs.drop word.length) else none

/-- A value that does not nest. -/
def scalar? (cs : List Char) : Option (Value × List Char) :=
  match cs with
  | '"' :: rest => (string? rest).map fun (s, rest) => (.text s, rest)
  | 'n' :: _ => (afterWord? "null" cs).map fun rest => (.null, rest)
  | 't' :: _ => (afterWord? "true" cs).map fun rest => (.bool true, rest)
  | 'f' :: _ => (afterWord? "false" cs).map fun rest => (.bool false, rest)
  | 'N' :: _ => (afterWord? "NaN" cs).map fun rest => (.float .nan, rest)
  | 'I' :: _ => (afterWord? "Infinity" cs).map fun rest => (.float (.infinite false), rest)
  | '-' :: 'I' :: _ => (afterWord? "-Infinity" cs).map fun rest => (.float (.infinite true), rest)
  | '-' :: rest => number? true rest
  | _ => number? false cs

mutual
/-- A value at the front, without blanks before it. -/
def value? : Nat → List Char → Option (Value × List Char)
  | 0, _ => none
  | fuel + 1, '[' :: rest =>
    match skipSpace rest with
    | ']' :: rest => some (.list [], rest)
    | rest => (items? fuel [] rest).map fun (xs, rest) => (.list xs, rest)
  | fuel + 1, '\x7b' :: rest =>
    match skipSpace rest with
    | '\x7d' :: rest => some (.object [], rest)
    | rest => (members? fuel [] rest).map fun (es, rest) => (.object es, rest)
  | _ + 1, cs => scalar? cs

/-- The elements of a list from here on, after the ones already read. -/
def items? : Nat → List Value → List Char → Option (List Value × List Char)
  | 0, _, _ => none
  | fuel + 1, done, cs => do
    let (x, rest) ← value? fuel cs
    match skipSpace rest with
    | ',' :: rest => items? fuel (x :: done) (skipSpace rest)
    | ']' :: rest => some ((x :: done).reverse, rest)
    | _ => none

/-- The members of an object from here on, after the ones already read. -/
def members? : Nat → Object → List Char → Option (Object × List Char)
  | 0, _, _ => none
  | fuel + 1, done, '"' :: rest => do
    let (key, rest) ← string? rest
    match skipSpace rest with
    | ':' :: rest =>
      let (x, rest) ← value? fuel (skipSpace rest)
      let done := done.set key x
      match skipSpace rest with
      | ',' :: rest => members? fuel done (skipSpace rest)
      | '\x7d' :: rest => some (done, rest)
      | _ => none
    | _ => none
  | _ + 1, _, _ => none
end

/-- The value of a whole JSON text. -/
def parse? (cs : List Char) : Option Value :=
  match value? (cs.length + 1) (skipSpace cs) with
  | some (v, rest) => if (skipSpace rest).isEmpty then some v else none
  | none => none

/-- The value of a body in any encoding of JSON. -/
def parseBytes? (bytes : List UInt8) : Option Value :=
  (Text.Decoding.decode? bytes).bind parse?

end Json
end RecordBridge
