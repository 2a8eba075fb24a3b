import JsonSchema.Setting
import JsonSchema.Toml.Reader

/-! # Numbers in texts

The integers and floating-point numbers that texts denote. A digit stands before or behind the point of a
decimal number, and the words `inf`, `infinity` and `nan` are numbers in any case.
-/

namespace JsonSchema.Setting

/-- Whether a number is negative, and its text behind the sign. -/
def splitSign (text : List Char) : Bool × List Char :=
  match text with
  | '-' :: rest => (true, rest)
  | '+' :: rest => (false, rest)
  | _ => (false, text)

/-- The integer in 64 bits that a text denotes. -/
def integer? (text : List Char) : Option Int :=
  let (negative, digits) := splitSign text
  if digits.isEmpty || !digits.all Char.isDigit then none
  else
    let n : Int := Toml.digitsValue 10 digits
    let n := if negative then -n else n
    if Word.fitsSigned n then some n else none

/-- The exponent that a text denotes behind the digits of a number; there need not be one. -/
def exponent? (text : List Char) : Option Int :=
  match text with
  | [] => some 0
  | c :: rest =>
    let (negative, digits) := splitSign rest
    if (c == 'e' || c == 'E') && !digits.isEmpty && digits.all Char.isDigit then
      let n : Int := Toml.digitsValue 10 digits
      some (if negative then -n else n)
    else none

/-- The decimal number that a text denotes; a digit stands before or behind its point. -/
def decimal? (negative : Bool) (text : List Char) : Option TomlFloat :=
  let whole := text.takeWhile Char.isDigit
  let (fraction, rest) := match text.drop whole.length with
    | '.' :: rest => (rest.takeWhile Char.isDigit, rest.dropWhile Char.isDigit)
    | rest => ([], rest)
  if (whole ++ fraction).isEmpty then none
  else
    (exponent? rest).map fun exponent =>
      Toml.decimal negative (Toml.digitsValue 10 (whole ++ fraction)) (exponent - fraction.length)

/-- The floating-point number that a text denotes. -/
def float? (text : List Char) : Option TomlFloat :=
  let (negative, rest) := splitSign text
  let word := (String.ofList rest).toLower
  if word = "inf" ∨ word = "infinity" then some (.infinity negative)
  else if word = "nan" then some .notANumber
  else decimal? negative rest

end JsonSchema.Setting
