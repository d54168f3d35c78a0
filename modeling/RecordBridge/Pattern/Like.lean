/-
# Patterns with wildcards

In a query a text is matched against a pattern between quotes, in which `%`
stands for any run of characters and `_` for any one.  A literal that would
mean something else there is escaped by a backslash, and four controls are
written by name.

A regular expression matches anywhere unless it is anchored, a pattern always
matches the whole text; so a pattern has a `%` at each open end.  It is left
out where the first item is a run already, and at the back also after a run of
at least one.  The empty expression is a single `%`.
-/

import RecordBridge.Pattern.Regex

namespace RecordBridge
namespace Pattern

/-- A literal character inside a pattern between quotes. -/
def escapeLiteral (c : Char) : List Char :=
  if c = '\'' ∨ c = '"' ∨ c = '\\' ∨ c = '%' ∨ c = '_' then ['\\', c]
  else if c = '\n' then ['\\', 'n']
  else if c = '\r' then ['\\', 'r']
  else if c = '\t' then ['\\', 't']
  else if c = '\x0c' then ['\\', 'f']
  else [c]

/-- An item inside a pattern. -/
def Item.like : Item → List Char
  | .literal c => escapeLiteral c
  | .anyChar => ['_']
  | .anyRun => ['%']
  | .someRun => ['_', '%']

/-- Whether the pattern needs no wildcard before its first item. -/
def coversFront (r : Regex) : Bool := r.anchoredStart || r.items.head? = some .anyRun

/-- Whether the pattern needs no wildcard after its last item. -/
def coversBack (r : Regex) : Bool :=
  r.anchoredEnd || r.items.getLast? = some .anyRun || r.items.getLast? = some .someRun

/-- The pattern that matches where the expression is found. -/
def Regex.like (r : Regex) : List Char :=
  (if coversFront r then [] else ['%']) ++ r.items.flatMap Item.like
    ++ (if coversBack r then [] else ['%'])

/-- The pattern of a regular expression, ready to stand between quotes. -/
def likeOf (s : String) : Except Refusal String :=
  if s.isEmpty then .ok "%"
  else (Regex.ofChars s.toList).map fun r => String.ofList r.like

end Pattern
end RecordBridge
