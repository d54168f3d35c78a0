/-
# Percent encoding

A text becomes part of a resource path by its UTF-8 bytes: letters, digits and
`_.-~` stand for themselves, as do further ASCII characters that the place
allows, and every other byte is written `%XX` in upper-case hexadecimal.
-/

namespace RecordBridge
namespace Text
namespace Percent

/-- The characters that stand for themselves in every place. -/
def isUnreserved (c : Char) : Bool :=
  c.isAlphanum || c = '_' || c = '.' || c = '-' || c = '~'

/-- A hexadecimal digit in upper case. -/
def hexDigit (n : Nat) : Char :=
  if n < 10 then Char.ofNat ('0'.toNat + n) else Char.ofNat ('A'.toNat + (n - 10))

/-- A byte as a percent triple. -/
def triple (b : UInt8) : List Char := ['%', hexDigit (b.toNat / 16), hexDigit (b.toNat % 16)]

/-- A character in a place that also allows the ASCII characters `allowed`. -/
def encodeChar (allowed : List Char) (c : Char) : List Char :=
  if isUnreserved c || allowed.contains c then [c]
  else (String.utf8EncodeChar c).flatMap triple

/-- A text in a place that also allows the ASCII characters `allowed`. -/
def encode (allowed : List Char) (s : String) : String :=
  String.ofList (s.toList.flatMap (encodeChar allowed))

/-- A text as one path segment. -/
def encodeSegment (s : String) : String := encode [] s

/-- The marks that a query text keeps as they are. -/
def queryMarks : List Char := ['-', '_', '.', '!', '~', '*', '\'', '(', ')']

/-- A text as the value of a query. -/
def encodeQuery (s : String) : String := encode queryMarks s

end Percent
end Text
end RecordBridge
