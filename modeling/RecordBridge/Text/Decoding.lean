/-
# Texts from bytes

A text body arrives as bytes in UTF-8, UTF-16 or UTF-32.  A byte order mark
decides which; without one the pattern of zero bytes at the front does, since
such a body starts with two ASCII characters.  `decode?` fails on bytes that
no encoding yields.  A surrogate that has no partner is accepted and becomes
the replacement character.
-/

namespace RecordBridge
namespace Text
namespace Decoding

/-- The encodings of a text body. -/
inductive Encoding
  | utf8
  | utf16 (bigEndian : Bool)
  | utf32 (bigEndian : Bool)
  deriving DecidableEq, Repr

/-- The encoding of a body without a byte order mark: where its first two
characters have their zero bytes. -/
def encodingByZeros : List UInt8 → Encoding
  | a :: b :: c :: d :: _ =>
    if a = 0 then (if b = 0 then .utf32 true else .utf16 true)
    else if b = 0 then (if c = 0 && d = 0 then .utf32 false else .utf16 false)
    else .utf8
  | [a, b] => if a = 0 then .utf16 true else if b = 0 then .utf16 false else .utf8
  | _ => .utf8

/-- The encoding of a body, with the body less its byte order mark. -/
def detect : List UInt8 → Encoding × List UInt8
  | 0 :: 0 :: 0xfe :: 0xff :: rest => (.utf32 true, rest)
  | 0xff :: 0xfe :: 0 :: 0 :: rest => (.utf32 false, rest)
  | 0xfe :: 0xff :: rest => (.utf16 true, rest)
  | 0xff :: 0xfe :: rest => (.utf16 false, rest)
  | 0xef :: 0xbb :: 0xbf :: rest => (.utf8, rest)
  | bytes => (encodingByZeros bytes, bytes)

/-- The character of a code point; a surrogate has none of its own. -/
def charOf (n : Nat) : Char := if 0xd800 ≤ n ∧ n < 0xe000 then '\ufffd' else Char.ofNat n

/-- The payload of a continuation byte. -/
def tail? (b : UInt8) : Option Nat :=
  if 0x80 ≤ b.toNat ∧ b.toNat < 0xc0 then some (b.toNat - 0x80) else none

/-- UTF-8 in its shortest forms only, surrogates included. -/
def utf8? : List UInt8 → Option (List Char)
  | [] => some []
  | a :: rest =>
    let n := a.toNat
    if n < 0x80 then (utf8? rest).map (Char.ofNat n :: ·)
    else
      match rest with
      | b :: rest1 =>
        if 0xc2 ≤ n ∧ n < 0xe0 then do
          let b ← tail? b
          (utf8? rest1).map (charOf ((n - 0xc0) * 64 + b) :: ·)
        else
          match rest1 with
          | c :: rest2 =>
            if 0xe0 ≤ n ∧ n < 0xf0 then do
              let b ← tail? b
              let c ← tail? c
              let code := (n - 0xe0) * 4096 + b * 64 + c
              if code < 0x800 then none else (utf8? rest2).map (charOf code :: ·)
            else
              match rest2 with
              | d :: rest3 =>
                if 0xf0 ≤ n ∧ n < 0xf5 then do
                  let b ← tail? b
                  let c ← tail? c
                  let d ← tail? d
                  let code := (n - 0xf0) * 262144 + b * 4096 + c * 64 + d
                  if code < 0x10000 ∨ 0x10ffff < code then none
                  else (utf8? rest3).map (charOf code :: ·)
                else none
              | [] => none
          | [] => none
      | [] => none

/-- Pairs of bytes as 16-bit units. -/
def units16? (bigEndian : Bool) : List UInt8 → Option (List Nat)
  | [] => some []
  | [_] => none
  | a :: b :: rest =>
    (units16? bigEndian rest).map
      ((if bigEndian then a.toNat * 256 + b.toNat else b.toNat * 256 + a.toNat) :: ·)

/-- The characters of 16-bit units, pairs of surrogates joined. -/
def ofUnits16 : List Nat → List Char
  | [] => []
  | [a] => [charOf a]
  | a :: b :: rest =>
    if 0xd800 ≤ a ∧ a < 0xdc00 ∧ 0xdc00 ≤ b ∧ b < 0xe000 then
      Char.ofNat (0x10000 + (a - 0xd800) * 1024 + (b - 0xdc00)) :: ofUnits16 rest
    else charOf a :: ofUnits16 (b :: rest)

/-- Groups of four bytes as characters. -/
def utf32? (bigEndian : Bool) : List UInt8 → Option (List Char)
  | [] => some []
  | a :: b :: c :: d :: rest =>
    let low := if bigEndian then [d, c, b, a] else [a, b, c, d]
    let code := low.foldr (fun x n => n * 256 + x.toNat) 0
    if 0x10ffff < code then none else (utf32? bigEndian rest).map (charOf code :: ·)
  | _ => none

/-- The characters of a body, or `none` where its bytes are no text. -/
def decode? (bytes : List UInt8) : Option (List Char) :=
  match detect bytes with
  | (.utf8, rest) => utf8? rest
  | (.utf16 e, rest) => (units16? e rest).map ofUnits16
  | (.utf32 e, rest) => utf32? e rest

end Decoding
end Text
end RecordBridge
