/-
# The shortest decimal text of a double

A binary64 number is written with the fewest decimal digits that read back to
it, and of the texts with that many digits with the nearest one.  `digits?`
finds them by exact arithmetic: the reals that round to `x` form an interval,
whose ends belong to it when the significand is even, and on each decimal grid
only the two neighbours of `x` can be the best candidate.

How the digits are laid out is a separate matter and a value of its own, a
`Layout`: which decimal points are written positionally, and how an exponent
looks.  `display` is the layout of all texts of this library: positional for
`1e-4 ≤ |x| < 1e16`, with `.0` on whole numbers, and otherwise an exponent of
at least two digits with its sign.
-/

import RecordBridge.Numeric.Binary64

namespace RecordBridge
namespace Numeric
namespace Shortest

/-- The number of decimal digits of `n`; zero has one. -/
def digitCount (n : Nat) : Nat := (Nat.toDigits 10 n).length

/-- The place of the decimal point: the `k` with
`10 ^ (k - 1) ≤ num / den < 10 ^ k`, for a positive quotient. -/
def pointPlace (num den : Nat) : Int :=
  if den ≤ num then digitCount (num / den)
  else 1 - (digitCount ((den + num - 1) / num - 1) : Int)

/-- The open or closed interval of magnitudes that round to one number, over a
common denominator. -/
structure Interval where
  low : Nat
  mid : Nat
  high : Nat
  den : Nat
  closed : Bool

/-- The magnitudes that round to `significand * 2 ^ exponent`.  The gap below
a power of two is half the gap above it. -/
def interval (significand : Nat) (exponent : Int) : Interval :=
  let r := Binary64.ratio significand exponent
  let unit := Binary64.ratio 1 exponent
  let below := if significand = twoPow (Binary64.precision - 1) ∧ Binary64.minExponent < exponent
    then unit.1 else 2 * unit.1
  { low := 4 * r.1 - below
    mid := 4 * r.1
    high := 4 * r.1 + 2 * unit.1
    den := 4 * r.2
    closed := significand % 2 = 0 }

/-- Whether `num / den` lies in the interval. -/
def Interval.contains (i : Interval) (num den : Nat) : Bool :=
  let x := num * i.den
  if i.closed then i.low * den ≤ x && x ≤ i.high * den
  else i.low * den < x && x < i.high * den

/-- The best candidate on the grid of multiples of `10 ^ step`: the neighbour
of the middle that lies in the interval, the nearer one if both do, the even
one on a tie. -/
def onGrid? (i : Interval) (step : Int) : Option Nat :=
  let num := if 0 ≤ step then i.mid else i.mid * tenPow (-step).toNat
  let den := if 0 ≤ step then i.den * tenPow step.toNat else i.den
  let lower := num / den
  let rest := num % den
  let fits (n : Nat) : Bool :=
    if 0 ≤ step then i.contains (n * tenPow step.toNat) 1
    else i.contains n (tenPow (-step).toNat)
  match fits lower, fits (lower + 1) with
  | true, true =>
    if 2 * rest < den ∨ (2 * rest = den ∧ lower % 2 = 0) then some lower else some (lower + 1)
  | true, false => some lower
  | false, true => some (lower + 1)
  | false, false => none

/-- The first grid with a candidate, from one digit on. -/
def search (i : Interval) (place : Int) : Nat → Nat → Option (Nat × Int)
  | _, 0 => none
  | count, tries + 1 =>
    let step := place - count
    match onGrid? i step with
    | some n => some (n, step)
    | none => search i place (count + 1) tries

/-- A positive finite number as `n * tenPow step` with the fewest digits. -/
def digits? (significand : Nat) (exponent : Int) : Option (Nat × Int) :=
  let i := interval significand exponent
  search i (pointPlace i.mid i.den) 1 17

/-- How chosen digits are laid out as text. -/
structure Layout where
  /-- The least decimal point place written positionally. -/
  leastPlace : Int
  /-- The greatest decimal point place written positionally. -/
  greatestPlace : Int
  /-- What follows a whole number. -/
  wholeMark : String
  /-- What stands between digits and exponent. -/
  exponentMark : String
  /-- The least number of digits of an exponent. -/
  exponentWidth : Nat
  nanText : String
  infinityText : String

/-- The layout of every text the library writes. -/
def display : Layout :=
  { leastPlace := -3
    greatestPlace := 16
    wholeMark := ".0"
    exponentMark := "e"
    exponentWidth := 2
    nanText := "nan"
    infinityText := "inf" }

/-- A text padded with zeros at its front. -/
def padZeros (width : Nat) (s : String) : String :=
  String.ofList (List.replicate (width - s.length) '0') ++ s

/-- An exponent with its sign. -/
def exponentText (l : Layout) (e : Int) : String :=
  (if e < 0 then "-" else "+") ++ padZeros l.exponentWidth (toString e.natAbs)

/-- Digits without the zeros at their end. -/
def trimZeros (ds : List Char) : List Char := (ds.reverse.dropWhile (· = '0')).reverse

/-- The digits `ds` with the decimal point after `place` of them. -/
def layOut (l : Layout) (ds : List Char) (place : Int) : String :=
  if l.leastPlace ≤ place ∧ place ≤ l.greatestPlace then
    if place ≤ 0 then
      "0." ++ String.ofList (List.replicate (-place).toNat '0' ++ ds)
    else
      let whole := place.toNat
      if ds.length ≤ whole then
        String.ofList (ds ++ List.replicate (whole - ds.length) '0') ++ l.wholeMark
      else String.ofList (ds.take whole) ++ "." ++ String.ofList (ds.drop whole)
  else
    let fraction := ds.drop 1
    String.ofList (ds.take 1) ++ (if fraction.isEmpty then "" else "." ++ String.ofList fraction)
      ++ l.exponentMark ++ exponentText l (place - 1)

/-- The text of a number under a layout. -/
def render (l : Layout) : Binary64 → String
  | .nan => l.nanText
  | .infinite s => (if s then "-" else "") ++ l.infinityText
  | .finite s m e =>
    let body :=
      if m = 0 then layOut l ['0'] 1
      else match digits? m e with
        | some (n, step) =>
          let ds := Nat.toDigits 10 n
          layOut l (trimZeros ds) (ds.length + step)
        | none => l.nanText
    (if s then "-" else "") ++ body

end Shortest

/-- The shortest text that reads back to the number. -/
def Binary64.toText (x : Binary64) : String := Shortest.render Shortest.display x

end Numeric
end RecordBridge
