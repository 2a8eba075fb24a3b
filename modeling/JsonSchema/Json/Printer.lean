import JsonSchema.Json
import JsonSchema.Binary64.Shortest

/-! # JSON text of values

The compact form has no spaces; the indented form puts every item and member on a line of its own,
two spaces deeper than its container. Strings escape the quote, the backslash and the control
characters below U+0020 only. A double is always marked as one: its shortest digits are written
positionally with at least one fraction digit when the first digit stands between `10 ^ -5` and
`10 ^ 15`, and otherwise with a signed exponent.
-/

namespace JsonSchema

/-- The decimal digits of a natural number. -/
def decimalText (n : Nat) : String := String.ofList (Nat.toDigits 10 n)

/-- The text of an integer. -/
def integerText (n : Int) : String :=
  if n < 0 then "-" ++ decimalText n.natAbs else decimalText n.natAbs

namespace DecimalDigits

/-- The digits without trailing zeros, keeping at least one. -/
def significant (d : DecimalDigits) : List Char :=
  let digits := Nat.toDigits 10 d.digits
  match (digits.reverse.dropWhile (· == '0')).reverse with
  | [] => ['0']
  | kept => kept

/-- Positional notation with at least one fraction digit. -/
def positional (d : DecimalDigits) : List Char :=
  let digits := d.significant
  if d.leading < 0 then
    ['0', '.'] ++ List.replicate (-d.leading - 1).toNat '0' ++ digits
  else
    let whole := d.leading.toNat + 1
    let padded := digits ++ List.replicate (whole - digits.length) '0'
    let fraction := padded.drop whole
    padded.take whole ++ ['.'] ++ (if fraction.isEmpty then ['0'] else fraction)

/-- One digit, the fraction if there is one, and a signed exponent. -/
def scientific (d : DecimalDigits) : List Char :=
  let digits := d.significant
  let fraction := digits.drop 1
  let sign := if d.leading < 0 then '-' else '+'
  digits.take 1 ++ (if fraction.isEmpty then [] else '.' :: fraction) ++ ['e', sign] ++
    Nat.toDigits 10 d.leading.natAbs

end DecimalDigits

/-- The text of a double, always distinguishable from an integer. -/
def Binary64.text (x : Binary64) : String :=
  let digits := x.shortest
  let body := if -5 ≤ digits.leading ∧ digits.leading ≤ 15 then digits.positional else digits.scientific
  String.ofList (if x.negative then '-' :: body else body)

/-- The text of a number. -/
def Number.text : Number → String
  | .integer n => integerText n
  | .double x => x.text

namespace Json

/-- A lower-case hexadecimal digit. -/
def hexDigit (n : Nat) : Char := (Nat.digitChar (n % 16))

/-- The written form of one character inside a string. -/
def escapeChar (c : Char) : List Char :=
  match c with
  | '"' => ['\\', '"']
  | '\\' => ['\\', '\\']
  | '\n' => ['\\', 'n']
  | '\r' => ['\\', 'r']
  | '\t' => ['\\', 't']
  | c =>
    if c.toNat = 8 then ['\\', 'b']
    else if c.toNat = 12 then ['\\', 'f']
    else if c.toNat < 32 then ['\\', 'u', '0', '0', hexDigit (c.toNat / 16), hexDigit c.toNat]
    else [c]

/-- A string in quotes. -/
def quote (text : String) : String :=
  "\"" ++ String.ofList (text.toList.flatMap escapeChar) ++ "\""

/-- The opening brace of an object. -/
def openBrace : String := "\x7b"

/-- The closing brace of an object. -/
def closeBrace : String := "\x7d"

mutual

/-- The text without spaces. -/
def compact : Json → String
  | .null => "null"
  | .bool true => "true"
  | .bool false => "false"
  | .number n => n.text
  | .string text => quote text
  | .array items => "[" ++ ",".intercalate (compactItems items) ++ "]"
  | .object members => openBrace ++ ",".intercalate (compactMembers members) ++ closeBrace

/-- The texts of items. -/
def compactItems : List Json → List String
  | [] => []
  | item :: rest => compact item :: compactItems rest

/-- The texts of members. -/
def compactMembers : List (String × Json) → List String
  | [] => []
  | (key, value) :: rest => (quote key ++ ":" ++ compact value) :: compactMembers rest

end

/-- The line break before an element at a nesting level. -/
def lineBreak (level : Nat) : String := "\n" ++ String.ofList (List.replicate (2 * level) ' ')

/-- Elements between brackets, each on its own line; no elements stay on one line. -/
def block (level : Nat) (opening closing : String) (elements : List String) : String :=
  if elements.isEmpty then opening ++ closing
  else
    let inner := lineBreak (level + 1)
    opening ++ inner ++ ("," ++ inner).intercalate elements ++ lineBreak level ++ closing

mutual

/-- The text with one element a line, as seen at a nesting level. -/
def indentedAt (level : Nat) : Json → String
  | .array items => block level "[" "]" (indentedItems (level + 1) items)
  | .object members => block level openBrace closeBrace (indentedMembers (level + 1) members)
  | value => compact value

/-- The indented texts of items. -/
def indentedItems (level : Nat) : List Json → List String
  | [] => []
  | item :: rest => indentedAt level item :: indentedItems level rest

/-- The indented texts of members. -/
def indentedMembers (level : Nat) : List (String × Json) → List String
  | [] => []
  | (key, value) :: rest => (quote key ++ ": " ++ indentedAt level value) :: indentedMembers level rest

end

/-- The text with one element a line. -/
def indented (value : Json) : String := indentedAt 0 value

/-- A value as messages show it: the bare text of a string, else the compact text. -/
def describe : Json → String
  | .string text => text
  | value => compact value

end Json

end JsonSchema
