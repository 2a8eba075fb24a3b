/-! # Finite binary64 numbers

A finite IEEE 754 double is an exact multiple of `2 ^ (-1074)`, so every value, comparison and
rounding below is integer arithmetic: `Binary64.units` counts those multiples. `roundMagnitude?`
rounds an exact quotient of naturals to the nearest representable magnitude, ties to even, and
answers `none` exactly when the result would not be finite.
-/

namespace JsonSchema

/-- A finite double `± significand * 2 ^ scale / 2 ^ 1074` in its unique normal form. -/
structure Binary64 where
  /-- Whether the sign bit is set; zero has both signs. -/
  negative : Bool
  /-- The integer significand, at most 53 bits. -/
  significand : Nat
  /-- The binary exponent above the least subnormal. -/
  scale : Nat
  significand_lt : significand < Nat.pow 2 53
  normal : Nat.pow 2 52 ≤ significand ∨ scale = 0
  scale_le : scale ≤ 2045
  deriving DecidableEq

namespace Binary64

/-- The number of least subnormals in one. -/
def unit : Nat := Nat.pow 2 1074

/-- The absolute value, counted in least subnormals. -/
def magnitude (x : Binary64) : Nat := x.significand * Nat.pow 2 x.scale

/-- The value, counted in least subnormals; both zeros count zero. -/
def units (x : Binary64) : Int := if x.negative then -(x.magnitude : Int) else x.magnitude

/-- Positive zero. -/
def zero : Binary64 := ⟨false, 0, 0, by decide, .inr rfl, by decide⟩

instance : Inhabited Binary64 := ⟨zero⟩

/-- The same magnitude with the opposite sign. -/
def neg (x : Binary64) : Binary64 := { x with negative := !x.negative }

/-- The same magnitude without a sign. -/
def abs (x : Binary64) : Binary64 := { x with negative := false }

/-- The quotient of two naturals to the nearest natural, a half going to the even neighbour. -/
def roundHalfEven (num den : Nat) : Nat :=
  let quotient := num / den
  let twice := 2 * (num % den)
  if twice < den then quotient
  else if den < twice then quotient + 1
  else if quotient % 2 = 0 then quotient else quotient + 1

/-- The nearest double to `± num / den` least subnormals, unless that is too large to be finite. -/
def roundMagnitude? (negative : Bool) (num den : Nat) : Option Binary64 :=
  let scale := (num / den).log2 - 52
  let rounded := roundHalfEven num (den * Nat.pow 2 scale)
  let significand := if rounded = Nat.pow 2 53 then Nat.pow 2 52 else rounded
  let scale := if rounded = Nat.pow 2 53 then scale + 1 else scale
  if h : significand < Nat.pow 2 53 ∧ (Nat.pow 2 52 ≤ significand ∨ scale = 0) ∧ scale ≤ 2045 then
    some ⟨negative, significand, scale, h.1, h.2.1, h.2.2⟩
  else none

/-- The nearest double to a natural number. -/
def ofNat? (n : Nat) : Option Binary64 := roundMagnitude? false (n * unit) 1

/-- The nearest double to an integer. -/
def ofInt? (n : Int) : Option Binary64 := roundMagnitude? (n < 0) (n.natAbs * unit) 1

/-- The nearest double to an integer, or zero for an integer beyond every double. -/
def ofInt (n : Int) : Binary64 := (ofInt? n).getD zero

/-- The correctly rounded product, unless it overflows. -/
def mul? (x y : Binary64) : Option Binary64 :=
  roundMagnitude? (x.negative != y.negative) (x.magnitude * y.magnitude) unit

/-- The correctly rounded quotient, unless it overflows or the divisor is zero. -/
def div? (x y : Binary64) : Option Binary64 :=
  if y.significand = 0 then none
  else roundMagnitude? (x.negative != y.negative) (x.magnitude * unit) y.magnitude

/-- Whether the value has no fractional part. -/
def isIntegral (x : Binary64) : Bool := x.magnitude % unit = 0

/-- The integer part of the absolute value. -/
def floorMagnitude (x : Binary64) : Nat := x.magnitude / unit

/-- The distance to the nearest integer, counted in least subnormals. -/
def distanceToInteger (x : Binary64) : Nat := min (x.magnitude % unit) (unit - x.magnitude % unit)

/-- Doubles are ordered by value, so the two zeros compare equal. -/
def compare (x y : Binary64) : Ordering := Ord.compare x.units y.units

theorem compare_eq_eq_iff (x y : Binary64) : x.compare y = .eq ↔ x.units = y.units := by
  simp [compare]

end Binary64

end JsonSchema
