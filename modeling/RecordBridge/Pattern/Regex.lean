/-
# Regular expressions without repetition

The regular expressions that a query can carry are those that a pattern with
two wildcards can express: a sequence of items, each one character or a run of
any characters, anchored at either end or not.

    pattern = ["^"] item* ["$"]
    item    = "\" c      c itself, where c is no letter and no numeral
            | "."        any one character
            | ".*"       any run of characters
            | ".+"       any run of at least one character
            | c          c itself, where c is none of \ . * + ? ( ) [ ] { } | ^ $

A trailing `$` is an anchor unless the backslashes before it are odd in
number.  `Regex.parse` reads the expression; where it fails, `Refusal` says
at which construct.
-/

import RecordBridge.Text.Alphanumeric

namespace RecordBridge
namespace Pattern

/-- One item of an expression. -/
inductive Item
  | literal (c : Char)
  | anyChar
  | anyRun
  | someRun
  deriving DecidableEq, Repr

/-- A regular expression. -/
structure Regex where
  anchoredStart : Bool
  items : List Item
  anchoredEnd : Bool
  deriving DecidableEq, Repr

/-- Why an expression is none of these. -/
inductive Refusal
  | notText
  | danglingEscape
  | classEscape (c : Char)
  | metacharacter (c : Char)
  deriving DecidableEq, Repr

/-- The reason in words. -/
def Refusal.reason : Refusal → String
  | .notText => "pattern must be a string"
  | .danglingEscape => "dangling escape"
  | .classEscape c => "escape '\\" ++ String.singleton c ++ "'"
  | .metacharacter c => "metacharacter '" ++ String.singleton c ++ "'"

/-- Whether a character is syntax and no literal. -/
def isMeta (c : Char) : Bool := "*+?()[]\x7b\x7d|^$".toList.contains c

/-- The items of an expression between its anchors. -/
def itemsOf : List Char → Except Refusal (List Item)
  | [] => .ok []
  | ['\\'] => .error .danglingEscape
  | '\\' :: c :: rest =>
    if Text.isAlphanumeric c then .error (.classEscape c)
    else (itemsOf rest).map (.literal c :: ·)
  | '.' :: '*' :: rest => (itemsOf rest).map (.anyRun :: ·)
  | '.' :: '+' :: rest => (itemsOf rest).map (.someRun :: ·)
  | '.' :: rest => (itemsOf rest).map (.anyChar :: ·)
  | c :: rest =>
    if isMeta c then .error (.metacharacter c) else (itemsOf rest).map (.literal c :: ·)

/-- Whether the last character has an odd number of backslashes before it. -/
def endsEscaped (cs : List Char) : Bool :=
  (cs.dropLast.reverse.takeWhile (· = '\\')).length % 2 = 1

/-- The characters without a leading anchor, and whether there was one. -/
def dropStartAnchor (cs : List Char) : Bool × List Char :=
  match cs with
  | '^' :: rest => (true, rest)
  | _ => (false, cs)

/-- The characters without a trailing anchor, and whether there was one. -/
def dropEndAnchor (cs : List Char) : Bool × List Char :=
  if cs.getLast? = some '$' && !endsEscaped cs then (true, cs.dropLast) else (false, cs)

/-- The expression that is written by the given characters. -/
def Regex.ofChars (cs : List Char) : Except Refusal Regex :=
  let start := dropStartAnchor cs
  let stop := dropEndAnchor start.2
  (itemsOf stop.2).map fun is => ⟨start.1, is, stop.1⟩

end Pattern
end RecordBridge
