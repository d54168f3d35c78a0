/-
# Upper and lower case

The full case mappings over whole texts.  Most characters map one by one; a
few become two or three characters, and a capital sigma at the end of a word
becomes the final form of the letter.  On ASCII the mappings are those of
`Char.toUpper` and `Char.toLower`.
-/

import RecordBridge.Text.CaseTable

namespace RecordBridge
namespace Text

/-- A character mapped by tables of runs and expansions. -/
def mapCase (runs : List CaseRun) (expansions : List (Nat × List Nat)) (c : Char) : List Char :=
  let n := c.toNat
  match runs.find? (·.covers n) with
  | some r => [Char.ofNat ((n : Int) + r.shift).toNat]
  | none =>
    match expansions.lookup n with
    | some ms => ms.map Char.ofNat
    | none => [c]

/-- The upper case of a character. -/
def upperChar (c : Char) : List Char :=
  if c.toNat < 128 then [c.toUpper] else mapCase upperRuns upperExpansions c

/-- The lower case of a character outside any context. -/
def lowerChar (c : Char) : List Char :=
  if c.toNat < 128 then [c.toLower] else mapCase lowerRuns lowerExpansions c

/-- A text in upper case. -/
def toUpper (s : String) : String := String.ofList (s.toList.flatMap upperChar)

/-- Whether a character has a case. -/
def isCased (c : Char) : Bool := casedRanges.any fun r => r.1 ≤ c.toNat && c.toNat ≤ r.2

/-- Whether a character is passed over when a word is read for its case. -/
def isCaseIgnorable (c : Char) : Bool :=
  caseIgnorableRanges.any fun r => r.1 ≤ c.toNat && c.toNat ≤ r.2

/-- Whether a cased character comes next, past the ones to be ignored. -/
def startsCased (cs : List Char) : Bool :=
  match cs.dropWhile isCaseIgnorable with
  | [] => false
  | c :: _ => isCased c

/-- Lower case from inside a text: `afterCased` says whether the last
character that was not to be ignored has a case. -/
def lowerFrom (afterCased : Bool) : List Char → List Char
  | [] => []
  | c :: rest =>
    let out := if c = 'Σ' then [if afterCased && !startsCased rest then 'ς' else 'σ']
      else lowerChar c
    out ++ lowerFrom (if isCaseIgnorable c then afterCased else isCased c) rest

/-- A text in lower case. -/
def toLower (s : String) : String := String.ofList (lowerFrom false s.toList)

end Text
end RecordBridge
