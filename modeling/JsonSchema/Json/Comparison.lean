import JsonSchema.Json

/-! # Comparing values

Two exact integers compare exactly and every other pair of numbers compares as doubles. Equality
of values ignores the number form, so `1` equals `1.0`, and the order of members. A count is a
natural number of at most 64 bits in either number form.
-/

namespace JsonSchema

namespace Number

/-- Whether a number has no fractional part. -/
def isIntegral : Number → Bool
  | .integer _ => true
  | .double x => x.isIntegral

/-- Numbers in order of value; unless both are exact they compare as doubles. -/
def compare : Number → Number → Ordering
  | .integer m, .integer n => Ord.compare m n
  | a, b => a.toDouble.compare b.toDouble

/-- A number as a count; the double just above the greatest count stands for it. -/
def count? : Number → Option Nat
  | .integer n => if 0 ≤ n ∧ n < Word.count then some n.toNat else none
  | .double x =>
    if x.isIntegral && (!x.negative || x.significand == 0) && x.floorMagnitude ≤ Word.count then
      some (min x.floorMagnitude Word.greatest)
    else none

/-- How far a quotient may stand from an integer to count as one: the double nearest to `10 ^ -9`. -/
def multipleTolerance : Binary64 := (Binary64.roundMagnitude? false Binary64.unit (Nat.pow 10 9)).getD .zero

/-- Whether a number is a multiple of another: exactly for exact integers, else up to a tolerance. -/
def isMultipleOf : Number → Number → Bool
  | .integer n, .integer d => d != 0 && n % d == 0
  | a, b =>
    match a.toDouble.div? b.toDouble with
    | some quotient => quotient.distanceToInteger < multipleTolerance.magnitude
    | none => false

end Number

namespace Json

mutual

/-- Equality of values that ignores the number form and the order of members. -/
def equivalent : Json → Json → Bool
  | .null, .null => true
  | .bool a, .bool b => a == b
  | .number a, .number b => a.compare b == .eq
  | .string a, .string b => a == b
  | .array as, .array bs => equivalentItems as bs
  | .object as, .object bs => as.length == bs.length && equivalentMembers as bs
  | _, _ => false

/-- Items are equal one by one. -/
def equivalentItems : List Json → List Json → Bool
  | [], [] => true
  | a :: as, b :: bs => equivalent a b && equivalentItems as bs
  | _, _ => false

/-- Every member of the first list has an equal value under its key in the second. -/
def equivalentMembers : List (String × Json) → List (String × Json) → Bool
  | [], _ => true
  | (key, a) :: as, bs =>
    (match assoc? key bs with
      | some b => equivalent a b
      | none => false) && equivalentMembers as bs

end

/-- Whether no two items are equal; each item is compared with those after it. -/
def allDistinct : List Json → Bool
  | [] => true
  | item :: rest => rest.all (fun other => !equivalent item other) && allDistinct rest

/-- A value as a count. -/
def count? : Json → Option Nat
  | .number n => n.count?
  | _ => none

end Json

end JsonSchema
