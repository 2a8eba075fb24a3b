/-! # Words of 64 bits

The ranges of integers that fit a word, without and with a sign.
-/

namespace JsonSchema.Word

/-- The number of words. -/
def count : Nat := Nat.pow 2 64

/-- The greatest word. -/
def greatest : Nat := count - 1

/-- The number of words that are not negative when they have a sign. -/
def half : Nat := Nat.pow 2 63

/-- Whether an integer fits a word with a sign. -/
def fitsSigned (n : Int) : Bool := -(half : Int) ≤ n && n < half

end JsonSchema.Word
