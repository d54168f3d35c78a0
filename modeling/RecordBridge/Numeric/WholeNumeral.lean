/-
# Numerals of whole numbers

A plain numeral is a minus or nothing, and then a zero alone or digits of
which the first is not zero.  `read` also takes a looser text, which it tidies
until it is plain:

| where      | what is dropped                                          |
| ---------- | -------------------------------------------------------- |
| both ends  | white space                                              |
| the front  | a plus, then zeros with underscores among them           |
| the end    | a point with zeros behind it, at least one               |
| the inside | underscores, if each of them stands between two others   |

A round that leaves the text as long as it was ends in a refusal.  A plain
numeral of more than 4300 characters is too long, whatever follows it.
-/

import RecordBridge.Numeric.Decimal
import RecordBridge.Text.Blank

namespace RecordBridge
namespace Numeric
namespace WholeNumeral

/-- Why a text is no numeral of a whole number. -/
inductive Refusal
  | malformed
  | tooLong
  deriving DecidableEq, Repr

/-- The most characters of a plain numeral, its sign among them. -/
def maxLength : Nat := 4300

/-- The number of a plain numeral, given its sign. -/
def magnitude (negative : Bool) (cs : List Char) : Except Refusal Int :=
  let digits := cs.takeWhile Char.isDigit
  let rest := cs.dropWhile Char.isDigit
  match digits with
  | [] => .error .malformed
  | '0' :: _ => if cs = ['0'] then .ok 0 else .error .malformed
  | _ =>
    if maxLength < (if negative then 1 else 0) + digits.length then .error .tooLong
    else if rest.isEmpty then .ok (Binary64.signed negative (Decimal.ofDigits digits))
    else .error .malformed

/-- The number of a plain numeral. -/
def plain : List Char → Except Refusal Int
  | '-' :: rest => magnitude true rest
  | cs => magnitude false cs

/-- The text without a plus at its front; a minus may not follow it. -/
def dropPlus : List Char → Option (List Char)
  | '+' :: '-' :: _ => none
  | '+' :: rest => some rest
  | cs => some cs

/-- What follows zeros and underscores, the last of which is `last`.  It is
kept where nothing follows it or a point does. -/
def afterZeros (last : Char) : List Char → Option (List Char)
  | [] => some [last]
  | '.' :: rest => some (last :: '.' :: rest)
  | c :: rest =>
    if c = '0' ∨ c = '_' then afterZeros c rest
    else if c = '-' ∨ c.isDigit then some (c :: rest)
    else none

/-- The text without the zeros at its front.  It begins with a digit or a
minus. -/
def dropZeros : List Char → Option (List Char)
  | '0' :: rest => afterZeros '0' rest
  | c :: rest => if c = '-' ∨ c.isDigit then some (c :: rest) else none
  | [] => none

/-- The text before its first point, if zeros and nothing else stand behind
that.  A point at the very end stays. -/
def dropZeroFraction (cs : List Char) : List Char :=
  let fraction := (cs.dropWhile (· ≠ '.')).drop 1
  if !fraction.isEmpty && fraction.all (· = '0') then cs.takeWhile (· ≠ '.') else cs

/-- Whether an underscore is the last character or has another behind it. -/
def hasLooseUnderscore : List Char → Bool
  | [] => false
  | ['_'] => true
  | '_' :: '_' :: _ => true
  | _ :: rest => hasLooseUnderscore rest

/-- The text without its underscores, if each of them stands between two other
characters. -/
def joinGroups (cs : List Char) : List Char :=
  if cs.head? = some '_' || hasLooseUnderscore cs then cs else cs.filter (· ≠ '_')

/-- One round of tidying. -/
def tidy (cs : List Char) : Option (List Char) := do
  let cs ← dropPlus (Text.trimBoth Text.isSpacing cs)
  let cs ← dropZeros cs
  some (joinGroups (dropZeroFraction cs))

/-- The whole number that a text denotes. -/
def read (cs : List Char) : Except Refusal Int :=
  match plain cs with
  | .error .malformed =>
    match tidy cs with
    | none => .error .malformed
    | some tidied =>
      if tidied.length < cs.length then read tidied else .error .malformed
  | r => r
termination_by cs.length

/-- A plain numeral is read as it stands. -/
theorem read_of_plain {cs : List Char} {n : Int} (h : plain cs = .ok n) : read cs = .ok n := by
  rw [read, h]

end WholeNumeral
end Numeric
end RecordBridge
