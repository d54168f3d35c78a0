/-
# Base 64

Bytes as text: three bytes become four characters of the standard alphabet,
and an incomplete last group is filled up with `=`.
-/

namespace RecordBridge
namespace Text
namespace Base64

/-- The character for six bits. -/
def digit (n : Nat) : Char :=
  if n < 26 then Char.ofNat ('A'.toNat + n)
  else if n < 52 then Char.ofNat ('a'.toNat + (n - 26))
  else if n < 62 then Char.ofNat ('0'.toNat + (n - 52))
  else if n = 62 then '+' else '/'

/-- The characters for a sequence of bytes. -/
def encodeBytes : List UInt8 → List Char
  | a :: b :: c :: rest =>
    let n := a.toNat * 65536 + b.toNat * 256 + c.toNat
    digit (n / 262144) :: digit (n / 4096 % 64) :: digit (n / 64 % 64) :: digit (n % 64)
      :: encodeBytes rest
  | [a, b] =>
    let n := a.toNat * 256 + b.toNat
    [digit (n / 1024), digit (n / 16 % 64), digit (n * 4 % 64), '=']
  | [a] => [digit (a.toNat / 4), digit (a.toNat * 16 % 64), '=', '=']
  | [] => []

/-- Bytes as text. -/
def encode (bytes : List UInt8) : String := String.ofList (encodeBytes bytes)

/-- The six bits a character stands for. -/
def value? (c : Char) : Option Nat :=
  if 'A' ≤ c ∧ c ≤ 'Z' then some (c.toNat - 'A'.toNat)
  else if 'a' ≤ c ∧ c ≤ 'z' then some (c.toNat - 'a'.toNat + 26)
  else if '0' ≤ c ∧ c ≤ '9' then some (c.toNat - '0'.toNat + 52)
  else if c = '+' then some 62
  else if c = '/' then some 63
  else none

/-- The bytes of a base 64 text; whatever stands after the first padding is
ignored, and an incomplete last group yields its whole bytes. -/
def decodeChars : List Char → List UInt8
  | a :: b :: c :: d :: rest =>
    match value? a, value? b, value? c, value? d with
    | some a, some b, some c, some d =>
      let n := a * 262144 + b * 4096 + c * 64 + d
      UInt8.ofNat (n / 65536) :: UInt8.ofNat (n / 256 % 256) :: UInt8.ofNat (n % 256)
        :: decodeChars rest
    | some a, some b, some c, none =>
      let n := a * 1024 + b * 16 + c / 4
      [UInt8.ofNat (n / 256), UInt8.ofNat (n % 256)]
    | some a, some b, none, _ => [UInt8.ofNat (a * 4 + b / 16)]
    | _, _, _, _ => []
  | _ => []

/-- The bytes a base 64 text stands for. -/
def decode (s : String) : List UInt8 := decodeChars s.toList

end Base64
end Text
end RecordBridge
