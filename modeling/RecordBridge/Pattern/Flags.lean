/-
# Flags of a regular expression

An expression may begin with groups of letters such as `(?is)`, each of which
sets a flag for the whole expression.  Comments `(?#…)` may stand among them,
and once the letter `x` was given also white space and comments that run to
the end of their line.  The first thing of any other kind ends the front; a
group that sets flags for its own members only, `(?i:…)`, is of another kind.

In a comment a backslash takes the next character with it.
-/

namespace RecordBridge
namespace Pattern

/-- A flag that shows. -/
inductive Flag
  | template
  | ignoreCase
  | multiline
  | dotAll
  | verbose
  | ascii
  deriving DecidableEq, Repr

namespace Flag

/-- The letter that sets the flag. -/
def letter : Flag → Char
  | .template => 't'
  | .ignoreCase => 'i'
  | .multiline => 'm'
  | .dotAll => 's'
  | .verbose => 'x'
  | .ascii => 'a'

/-- The name of the flag in messages. -/
def name : Flag → String
  | .template => "re.TEMPLATE"
  | .ignoreCase => "re.IGNORECASE"
  | .multiline => "re.MULTILINE"
  | .dotAll => "re.DOTALL"
  | .verbose => "re.VERBOSE"
  | .ascii => "re.ASCII"

/-- All flags, in the order in which messages name them. -/
def every : List Flag := [.template, .ignoreCase, .multiline, .dotAll, .verbose, .ascii]

/-- Whether a character sets a flag; the letter of the default alphabet sets
one that does not show. -/
def isLetter (c : Char) : Bool := c = 'u' || every.any (·.letter = c)

end Flag

/-- Where a reader of the front stands. -/
inductive FrontState
  /-- Between two parts of the front. -/
  | between
  /-- In a group, behind these letters. -/
  | group (letters : List Char)
  /-- In a comment that a parenthesis closes. -/
  | comment
  /-- In a comment that the line closes. -/
  | line
  deriving DecidableEq, Repr

/-- Whether a character is skipped once the letter `x` was given. -/
def isFiller (c : Char) : Bool := " \t\n\r\x0b\x0c".toList.contains c

/-- The letters at the front of an expression, after those already found. -/
def frontLetters : FrontState → List Char → List Char → List Char
  | .between, found, '(' :: '?' :: '#' :: rest => frontLetters .comment found rest
  | .between, found, '(' :: '?' :: rest => frontLetters (.group []) found rest
  | .between, found, c :: rest =>
    if !found.contains 'x' then found
    else if c = '#' then frontLetters .line found rest
    else if isFiller c then frontLetters .between found rest
    else found
  | .group letters, found, c :: rest =>
    if c = ')' then frontLetters .between (found ++ letters) rest
    else if Flag.isLetter c then frontLetters (.group (letters ++ [c])) found rest
    else found
  | .comment, found, '\\' :: _ :: rest => frontLetters .comment found rest
  | .comment, found, c :: rest =>
    frontLetters (if c = ')' then .between else .comment) found rest
  | .line, found, '\\' :: _ :: rest => frontLetters .line found rest
  | .line, found, c :: rest => frontLetters (if c = '\n' then .between else .line) found rest
  | _, found, [] => found

/-- The flags of an expression, in the order of their names. -/
def flagsOf (source : String) : List Flag :=
  let letters := frontLetters .between [] source.toList
  Flag.every.filter fun f => letters.contains f.letter

end Pattern
end RecordBridge
