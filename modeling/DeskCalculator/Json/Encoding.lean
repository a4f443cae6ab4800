import DeskCalculator.Json.Basic
import DeskCalculator.Text.Utf8

/-!
# The encoding of a JSON text

A JSON text arrives as bytes in one of the Unicode encodings.  A mark in front of
it tells which one.  Without a mark, as the text starts with an ASCII character,
which only the wider encodings accompany with zero bytes, the places of the zeros
among its first bytes tell the encoding.
-/

namespace DeskCalculator.Json

open Text

/-- The encodings of a JSON text. -/
inductive Encoding where
  /-- One to four bytes for a character. -/
  | utf8
  /-- Units of two bytes. -/
  | utf16 (bigEndian : Bool)
  /-- Units of four bytes. -/
  | utf32 (bigEndian : Bool)
  deriving DecidableEq, Repr

namespace Encoding

/-- The bytes that mark an encoding in front of a text. -/
def marks : List (List UInt8 × Encoding) := [
  ([0, 0, 0xFE, 0xFF], .utf32 true), ([0xFF, 0xFE, 0, 0], .utf32 false),
  ([0xFE, 0xFF], .utf16 true), ([0xFF, 0xFE], .utf16 false), ([0xEF, 0xBB, 0xBF], .utf8)]

/-- The encoding of a text without a mark, from its first bytes. -/
def ofBytes : List UInt8 → Encoding
  | [a, b] => if a = 0 then .utf16 true else if b = 0 then .utf16 false else .utf8
  | a :: b :: c :: d :: _ =>
    if a = 0 then (if b = 0 then .utf32 true else .utf16 true)
    else if b = 0 then (if c = 0 ∧ d = 0 then .utf32 false else .utf16 false)
    else .utf8
  | _ => .utf8

/-- The encoding of a text, and its bytes without the mark of that encoding. -/
def ofMarkedBytes (bytes : List UInt8) : Encoding × List UInt8 :=
  match marks.find? fun (mark, _) => mark.isPrefixOf bytes with
  | some (mark, encoding) => (encoding, bytes.drop mark.length)
  | none => (ofBytes bytes, bytes)

/-- Two bytes as a number. -/
def pair (bigEndian : Bool) (a b : UInt8) : Nat :=
  if bigEndian then 256 * a.toNat + b.toNat else a.toNat + 256 * b.toNat

/-- The numbers that the bytes stand for two by two, unless one is left over. -/
def pairs? (bigEndian : Bool) : List UInt8 → Option (List Nat)
  | [] => some []
  | [_] => none
  | a :: b :: rest => (pairs? bigEndian rest).map (pair bigEndian a b :: ·)

variable [Platform]

/-- The characters that units of two bytes stand for. -/
def ofUnits : List Nat → List Char
  | [] => []
  | [unit] => [characterOf unit]
  | first :: second :: rest =>
    if isHigh first && isLow second then Char.ofNat (joined first second) :: ofUnits rest
    else characterOf first :: ofUnits (second :: rest)

/-- The characters that units of four bytes stand for, if all of them are code points. -/
def ofWords? (bigEndian : Bool) : List Nat → Option (List Char)
  | [] => some []
  | [_] => none
  | first :: second :: rest =>
    let code := if bigEndian then 0x10000 * first + second else first + 0x10000 * second
    if code < 0x110000 then (ofWords? bigEndian rest).map (characterOf code :: ·) else none

/-- The characters that bytes stand for in an encoding. -/
def decode? (encoding : Encoding) (bytes : List UInt8) : Option (List Char) :=
  match encoding with
  | .utf8 => Utf8.decode? bytes
  | .utf16 bigEndian => (pairs? bigEndian bytes).map ofUnits
  | .utf32 bigEndian => (pairs? bigEndian bytes).bind (ofWords? bigEndian)

end Encoding

/-- The text that a body stands for. -/
def textOfBody? [Platform] (body : ByteArray) : Option String :=
  let (encoding, bytes) := Encoding.ofMarkedBytes body.data.toList
  (encoding.decode? bytes).map String.ofList

end DeskCalculator.Json
