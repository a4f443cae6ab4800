/-!
# What is left to the platform

The calculator depends on the platform that it runs on in three places.  Texts in
JSON are read by recursion, so how deeply they may be nested depends on how much of
the stack is in use already.  The columns of a canvas are listed by a library for
arrays, which refuses what it cannot make.  And a text can hold half of a surrogate
pair, which is no character.  A `Platform` says what happens there, within what
every platform has in common.  A result about the calculator holds on all of them.
-/

namespace DeskCalculator

/-- Where a text in JSON comes from. -/
inductive JsonSource where
  /-- The settings file. -/
  | settings
  /-- A request to the service. -/
  | request
  /-- A reply of the remote model. -/
  | reply
  deriving DecidableEq, Repr

/-- What the calculator takes from the platform that it runs on. -/
class Platform where
  /-- How many lists and objects may be open at once in a text from a source. -/
  nesting : JsonSource → Nat
  /-- The columns of a canvas of a given width, from zero on, or the message with which they are
  refused. -/
  columns : Int → Except String (List Float)
  /-- The first of the characters that stand for the halves of surrogate pairs, in their order.
  Nothing else is meant by these characters, so they are to be chosen from those that no text in
  question holds. -/
  firstHalf : Nat
  /-- Settings with a palette of the user can be read. -/
  three_le_nesting : 3 ≤ nesting .settings
  /-- The columns are listed as they are. -/
  columns_eq : ∀ {width listed}, columns width = .ok listed →
    listed = (List.range width.toNat).map Float.ofNat
  /-- A float takes eight bytes, and there are fewer than `2 ^ 63` bytes for all of them. -/
  width_lt : ∀ {width listed}, columns width = .ok listed → width < 0x1000000000000000
  /-- No characters are assigned to the planes from the fourth on. -/
  le_firstHalf : 0x40000 ≤ firstHalf
  /-- The planes up to the thirteenth are not assigned either. -/
  firstHalf_le : firstHalf + 0x800 ≤ 0xE0000

/-- The usual platform. -/
instance (priority := low) Platform.usual : Platform where
  nesting _ := 990
  columns width :=
    if width < -0x8000000000000000 ∨ 0x1000000000000000 ≤ width then
      .error "Maximum allowed size exceeded"
    else .ok ((List.range width.toNat).map Float.ofNat)
  firstHalf := 0xB0000
  three_le_nesting := by decide
  columns_eq := by
    intro width listed h
    split at h
    · cases h
    · exact (Except.ok.inj h).symm
  width_lt := by
    intro width listed h
    split at h
    · cases h
    · omega
  le_firstHalf := by decide
  firstHalf_le := by decide

end DeskCalculator
