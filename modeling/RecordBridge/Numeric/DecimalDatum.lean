/-
# Decimal numbers with their exponents

A host may hand in decimal numbers.  Unlike a double such a number keeps its
exponent, so that 1.5 and 1.50 differ, and it may be an infinity or no number
at all.

`text` writes a finite number without an exponent where its own exponent is at
most zero and at most five zeros follow the point before the first digit;
otherwise with one digit before the point and an exponent behind `E`.
`ofText?` reads that and more: blanks around the number, underscores anywhere,
digits of any script and words in any case.
-/

import RecordBridge.Numeric.Decimal
import RecordBridge.Text.Blank
import RecordBridge.Text.DecimalDigit

namespace RecordBridge
namespace Numeric

/-- A decimal number, an infinity, or a value that is no number and carries a
payload. -/
inductive DecimalDatum
  | finite (d : Decimal)
  | infinite (negative : Bool)
  | nan (negative signaling : Bool) (payload : Nat)
  deriving DecidableEq, Repr

namespace DecimalDatum

/-- Whether the number counts as zero. -/
def isZero : DecimalDatum → Bool
  | .finite d => d.coefficient = 0
  | _ => false

/-! ### Writing -/

/-- Digits with a point behind the first `place` of them. -/
def pointed (digits : List Char) (place : Int) : List Char :=
  if place ≤ 0 then '0' :: '.' :: List.replicate (-place).toNat '0' ++ digits
  else if digits.length ≤ place then digits
  else digits.take place.toNat ++ '.' :: digits.drop place.toNat

/-- An exponent with its mark and its sign. -/
def exponentText (n : Int) : List Char :=
  'E' :: (if n < 0 then '-' else '+') :: Nat.toDigits 10 n.natAbs

/-- The magnitude of a finite number. -/
def magnitudeText (d : Decimal) : List Char :=
  let digits := Nat.toDigits 10 d.coefficient
  let place : Int := digits.length + d.exponent
  if d.exponent ≤ 0 ∧ -6 < place then pointed digits place
  else pointed digits 1 ++ exponentText (place - 1)

/-- Whether the sign of the number is a minus. -/
def isNegative : DecimalDatum → Bool
  | .finite d => d.negative
  | .infinite negative => negative
  | .nan negative _ _ => negative

/-- The number without its sign. -/
def unsignedText : DecimalDatum → List Char
  | .finite d => magnitudeText d
  | .infinite _ => "Infinity".toList
  | .nan _ signaling payload =>
    (if signaling then "sNaN" else "NaN").toList
      ++ (if payload = 0 then [] else Nat.toDigits 10 payload)

/-- The number as text. -/
def text (d : DecimalDatum) : String :=
  String.ofList ((if d.isNegative then ['-'] else []) ++ d.unsignedText)

/-! ### Reading -/

/-- A character of a numeral in ASCII. -/
def plainChar? (c : Char) : Option Char :=
  if c.toNat < 128 then some c else (Text.decimalDigit? c).map Nat.digitChar

/-- A run of digits and nothing else. -/
def digits? (cs : List Char) : Option (List Char) :=
  if cs.all Char.isDigit then some cs else none

/-- What stands behind the mark of an exponent. -/
def exponent? (cs : List Char) : Option Int :=
  let (negative, digits) := match cs with
    | '-' :: rest => (true, rest)
    | '+' :: rest => (false, rest)
    | rest => (false, rest)
  if digits.isEmpty then none
  else (digits? digits).map fun ds => Binary64.signed negative (Decimal.ofDigits ds)

/-- Whether a character marks an exponent. -/
def isExponentMark (c : Char) : Bool := c = 'e' || c = 'E'

/-- A finite number after its sign. -/
def finite? (negative : Bool) (cs : List Char) : Option DecimalDatum := do
  let mantissa := cs.takeWhile (!isExponentMark ·)
  let exponent ← match cs.dropWhile (!isExponentMark ·) with
    | [] => some 0
    | _ :: rest => exponent? rest
  let whole ← digits? (mantissa.takeWhile (· ≠ '.'))
  let decimals ← digits? ((mantissa.dropWhile (· ≠ '.')).drop 1)
  if whole.isEmpty && decimals.isEmpty then none
  else
    some (.finite ⟨negative, Decimal.ofDigits (whole ++ decimals), exponent - decimals.length⟩)

/-- A value that is no number, with its payload. -/
def nan? (negative signaling : Bool) (payload : List Char) : Option DecimalDatum :=
  (digits? payload).map fun ds => .nan negative signaling (Decimal.ofDigits ds)

/-- What a text without its sign denotes. -/
def unsigned? (negative : Bool) (cs : List Char) : Option DecimalDatum :=
  match cs.map Char.toLower with
  | 'i' :: 'n' :: 'f' :: rest =>
    if rest = [] ∨ rest = "inity".toList then some (.infinite negative) else none
  | 'n' :: 'a' :: 'n' :: payload => nan? negative false payload
  | 's' :: 'n' :: 'a' :: 'n' :: payload => nan? negative true payload
  | _ => finite? negative cs

/-- The decimal number that a text denotes. -/
def ofText? (s : String) : Option DecimalDatum := do
  let kept := (Text.trimBoth Text.isBlank s.toList).filter (· ≠ '_')
  match ← kept.mapM plainChar? with
  | '-' :: rest => unsigned? true rest
  | '+' :: rest => unsigned? false rest
  | cs => unsigned? false cs

end DecimalDatum

end Numeric
end RecordBridge
