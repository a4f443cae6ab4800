import DeskCalculator.Text.Hexadecimal

/-!
# Escapes in addresses

A character that may not stand in a part of an address is written by its bytes,
each as a percent sign with two hexadecimal digits.
-/

namespace DeskCalculator.Address

open Text

/-- A byte as an escape. -/
def escapedByte (byte : UInt8) : List Char :=
  '%' :: (hexadecimal 2 byte.toNat).map Char.toUpper

/-- Escapes the controls, the blank, what lies beyond ASCII and the characters in `forbidden`. -/
def escape (forbidden : List Char) (text : List Char) : List Char :=
  text.flatMap fun c =>
    if 0x20 < c.toNat ∧ c.toNat < 0x7F ∧ c ∉ forbidden then [c]
    else c.toString.toUTF8.toList.flatMap escapedByte

/-- Replaces escapes by the bytes that they stand for. -/
def unescapedBytes : List Char → List UInt8
  | [] => []
  | '%' :: a :: b :: rest =>
    match hexadecimalValue? a, hexadecimalValue? b with
    | some high, some low => (16 * high + low).toUInt8 :: unescapedBytes rest
    | _, _ => '%'.toNat.toUInt8 :: unescapedBytes (a :: b :: rest)
  | c :: rest => c.toString.toUTF8.toList ++ unescapedBytes rest

/-- A text without escapes, unless what they stand for is no text. -/
def unescape (text : List Char) : List Char :=
  match String.fromUTF8? (unescapedBytes text).toByteArray with
  | some plain => plain.toList
  | none => text

/-- The parts of a text between the characters that satisfy `isMark`. -/
def partsAt (isMark : Char → Bool) : List Char → List (List Char)
  | [] => [[]]
  | c :: rest =>
    if isMark c then [] :: partsAt isMark rest
    else
      match partsAt isMark rest with
      | [] => [[c]]
      | first :: others => (c :: first) :: others

end DeskCalculator.Address
