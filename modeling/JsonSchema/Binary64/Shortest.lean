import JsonSchema.Binary64

/-! # Shortest decimal digits of a double

`Binary64.shortest` gives the fewest significant decimal digits that still round to the double,
and among those the digits nearest to it; of two equally near the last digit is even. Candidates
are the two neighbours of the value on the decimal grid of each length, compared in exact
arithmetic with the interval of reals that round to the double.
-/

namespace JsonSchema

/-- Decimal digits `digits * 10 ^ exponent`, with `count` significant digits. -/
structure DecimalDigits where
  digits : Nat
  count : Nat
  /-- The power of ten of the first digit. -/
  leading : Int
  deriving DecidableEq

namespace Binary64

/-- The decimal exponent of the first digit of `num / den`, found within `fuel` steps. -/
def leadingExponent (num den : Nat) (fuel : Nat) : Int :=
  if den ≤ num then upward num den 0 fuel else downward num den 0 fuel
where
  upward (num den : Nat) (exponent : Int) : Nat → Int
    | 0 => exponent
    | fuel + 1 => if den * 10 ≤ num then upward num (den * 10) (exponent + 1) fuel else exponent
  downward (num den : Nat) (exponent : Int) : Nat → Int
    | 0 => exponent
    | fuel + 1 => if num < den then downward (num * 10) den (exponent - 1) fuel else exponent

/-- Whether `digit * step / den` least subnormals, for a step given as a fraction, rounds to `x`. -/
def roundsTo (x : Binary64) (num den : Nat) : Bool :=
  let low := if x.significand = Nat.pow 2 52 ∧ x.scale ≠ 0 then 4 * x.significand - 1 else 4 * x.significand - 2
  let high := 4 * x.significand + 2
  let lowest := low * Nat.pow 2 x.scale * den
  let highest := high * Nat.pow 2 x.scale * den
  let value := 4 * num
  if x.significand % 2 = 0 then lowest ≤ value && value ≤ highest
  else lowest < value && value < highest

/-- The best candidate on the grid of `10 ^ (leading - count + 1)`, if one rounds to `x`. -/
def candidate? (x : Binary64) (leading : Int) (count : Nat) : Option Nat :=
  let gridExponent : Int := leading - count + 1
  let gridNum := if 0 ≤ gridExponent then Nat.pow 10 gridExponent.toNat * unit else unit
  let gridDen := if 0 ≤ gridExponent then 1 else Nat.pow 10 (-gridExponent).toNat
  let below := x.magnitude * gridDen / gridNum
  let remainder := x.magnitude * gridDen % gridNum
  let above := below + 1
  let belowFits := x.roundsTo (below * gridNum) gridDen && below != 0
  let aboveFits := remainder != 0 && x.roundsTo (above * gridNum) gridDen
  match belowFits, aboveFits with
  | true, true =>
    if 2 * remainder < gridNum then some below
    else if gridNum < 2 * remainder then some above
    else if below % 2 = 0 then some below else some above
  | true, false => some below
  | false, true => some above
  | false, false => none

/-- The first length from `count` on with a candidate, within `fuel` lengths. -/
def shortestFrom (x : Binary64) (leading : Int) (count : Nat) : Nat → DecimalDigits
  | 0 => ⟨0, 1, 0⟩
  | fuel + 1 =>
    match x.candidate? leading count with
    | some digits =>
      if digits = Nat.pow 10 count then ⟨digits / 10, count, leading + 1⟩ else ⟨digits, count, leading⟩
    | none => x.shortestFrom leading (count + 1) fuel

/-- The fewest digits that read back as `x`, nearest to it among those; zero has the digit zero. -/
def shortest (x : Binary64) : DecimalDigits :=
  if x.significand = 0 then ⟨0, 1, 0⟩
  else x.shortestFrom (leadingExponent x.magnitude unit 400) 1 17

end Binary64

end JsonSchema
