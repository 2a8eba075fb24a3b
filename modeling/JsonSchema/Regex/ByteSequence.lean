import JsonSchema.Unicode.Run

/-! # Sequences of bytes

In UTF-8 a character is written in one to four bytes: a first one that tells their number, and others
that hold six bits each. The characters of a range are the ones written in a few sequences of ranges
of bytes, each byte of a sequence taken from its range on its own.
-/

namespace JsonSchema.Regex

/-- A range of bytes. -/
abbrev ByteRange := Nat × Nat

/-- Divides a range of numbers of `places + 1` digits to the base 64 into products of ranges of digits, in order. -/
def digitRanges : Nat → Nat → Nat → List (List (Nat × Nat))
  | 0, first, last => [[(first, last)]]
  | places + 1, first, last =>
    let unit := Nat.pow 64 (places + 1)
    let (low, high) := (first / unit, last / unit)
    if low = high then (digitRanges places (first % unit) (last % unit)).map ((low, low) :: ·)
    else
      let isLowWhole := first % unit == 0
      let isHighWhole := last % unit == unit - 1
      let before :=
        if isLowWhole then [] else (digitRanges places (first % unit) (unit - 1)).map ((low, low) :: ·)
      let after := if isHighWhole then [] else (digitRanges places 0 (last % unit)).map ((high, high) :: ·)
      let low := if isLowWhole then low else low + 1
      let high := if isHighWhole then high else high - 1
      let between := if low ≤ high then [(low, high) :: List.replicate (places + 1) (0, 63)] else []
      before ++ between ++ after

/-- Characters that are written in the same number of bytes, with the mark of their first byte. -/
structure ByteLength where
  first : Nat
  last : Nat
  /-- The number of bytes after the first one. -/
  places : Nat
  mark : Nat

/-- The characters by the number of their bytes; surrogates are none. -/
def byteLengths : List ByteLength :=
  [⟨0, 0x7F, 0, 0⟩, ⟨0x80, 0x7FF, 1, 0xC0⟩, ⟨0x800, 0xD7FF, 2, 0xE0⟩, ⟨0xE000, 0xFFFF, 2, 0xE0⟩,
    ⟨0x10000, 0x10FFFF, 3, 0xF0⟩]

/-- A range of digits as one of bytes. -/
def shiftRange (mark : Nat) (range : Nat × Nat) : ByteRange := (range.1 + mark, range.2 + mark)

/-- The sequences in which the characters of a range are written, in order. -/
def byteSequences (range : Nat × Nat) : List (List ByteRange) :=
  byteLengths.flatMap fun length =>
    let first := max range.1 length.first
    let last := min range.2 length.last
    if first ≤ last then
      (digitRanges length.places first last).map fun
        | [] => []
        | digits :: rest => shiftRange length.mark digits :: rest.map (shiftRange 0x80)
    else []

/-- The bytes of a character. -/
def bytesOf (c : Nat) : List Nat := ((byteSequences (c, c)).headD []).map (·.1)

end JsonSchema.Regex
