import DeskCalculator.Text.Surrogate

/-!
# Characters in one to four bytes

The first byte of a character tells how many bytes it takes, and each of the
others carries six bits of its code point.  A code point is written in as few
bytes as hold it.  Half of a surrogate pair is let through here, though it is no
character.
-/

namespace DeskCalculator.Text.Utf8

/-- The six bits that a byte behind the first one carries. -/
def bits? (byte : UInt8) : Option Nat :=
  if 0x80 ≤ byte.toNat ∧ byte.toNat < 0xC0 then some (byte.toNat - 0x80) else none

/-- The code point that two bytes stand for. -/
def ofTwo? (a b : UInt8) : Option Nat := do
  let code := 0x40 * (a.toNat - 0xC0) + (← bits? b)
  if 0xC0 ≤ a.toNat ∧ a.toNat < 0xE0 ∧ 0x80 ≤ code then return code else none

/-- The code point that three bytes stand for. -/
def ofThree? (a b c : UInt8) : Option Nat := do
  let code := 0x1000 * (a.toNat - 0xE0) + 0x40 * (← bits? b) + (← bits? c)
  if 0xE0 ≤ a.toNat ∧ a.toNat < 0xF0 ∧ 0x800 ≤ code then return code else none

/-- The code point that four bytes stand for. -/
def ofFour? (a b c d : UInt8) : Option Nat := do
  let code := 0x40000 * (a.toNat - 0xF0) + 0x1000 * (← bits? b) + 0x40 * (← bits? c) + (← bits? d)
  if 0xF0 ≤ a.toNat ∧ 0x10000 ≤ code ∧ code < 0x110000 then return code else none

/-- The characters that bytes stand for. -/
def decode? [Platform] : List UInt8 → Option (List Char)
  | [] => some []
  | a :: rest =>
    if a.toNat < 0x80 then (decode? rest).map (Char.ofNat a.toNat :: ·)
    else
      match rest with
      | [] => none
      | b :: rest =>
        match ofTwo? a b with
        | some code => (decode? rest).map (characterOf code :: ·)
        | none =>
          match rest with
          | [] => none
          | c :: rest =>
            match ofThree? a b c with
            | some code => (decode? rest).map (characterOf code :: ·)
            | none =>
              match rest with
              | [] => none
              | d :: rest =>
                match ofFour? a b c d with
                | some code => (decode? rest).map (characterOf code :: ·)
                | none => none

end DeskCalculator.Text.Utf8
