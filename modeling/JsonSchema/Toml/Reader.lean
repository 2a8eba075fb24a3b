import JsonSchema.Toml
import JsonSchema.Word

/-! # Reading TOML

`Toml.readValue?` reads a value and leaves the text behind it. Every reader answers `none` for a text
that does not start with what it reads.
-/

namespace JsonSchema.Toml

/-- Whether a character is a blank within a line. -/
def isBlank (c : Char) : Bool := c == ' ' || c == '\t'

/-- The text behind blanks. -/
def skipBlanks (text : List Char) : List Char := text.dropWhile isBlank

/-- Whether a character may stand in a comment or in single quotes. -/
def isPrintable (c : Char) : Bool := c == '\t' || 0x20 ≤ c.toNat && c.toNat != 0x7F

/-- The text behind the end of a line. -/
def lineEnd? : List Char → Option (List Char)
  | '\n' :: rest => some rest
  | '\r' :: '\n' :: rest => some rest
  | _ => none

/-- The text behind blanks and ends of lines. -/
def skipBreaks : List Char → List Char
  | ' ' :: rest => skipBreaks rest
  | '\t' :: rest => skipBreaks rest
  | '\n' :: rest => skipBreaks rest
  | '\r' :: '\n' :: rest => skipBreaks rest
  | rest => rest

/-- The text behind blanks and a comment. -/
def skipComment (text : List Char) : List Char :=
  match skipBlanks text with
  | '#' :: rest => rest.dropWhile isPrintable
  | rest => rest

/-- The text behind blanks, comments and ends of lines, at most `fuel` lines. -/
def skipLines : Nat → List Char → List Char
  | 0, text => text
  | fuel + 1, text =>
    let rest := skipComment text
    match lineEnd? rest with
    | some next => skipLines fuel next
    | none => rest

/-- Whether a character may stand in a bare key. -/
def isBareKey (c : Char) : Bool := c.isAlphanum || c == '-' || c == '_'

/-! ## Strings -/

/-- The value of hexadecimal digits. -/
def hexValue? (digits : List Char) : Option Nat :=
  digits.foldlM (fun n c =>
    if '0' ≤ c ∧ c ≤ '9' then some (n * 16 + (c.toNat - 48))
    else if 'a' ≤ c ∧ c ≤ 'f' then some (n * 16 + (c.toNat - 87))
    else if 'A' ≤ c ∧ c ≤ 'F' then some (n * 16 + (c.toNat - 55))
    else none) 0

/-- The character of a number of hexadecimal digits. -/
def readCodePoint? (count : Nat) (text : List Char) : Option (Char × List Char) := do
  let digits := text.take count
  let n ← if digits.length = count then hexValue? digits else none
  if Nat.isValidChar n then some (Char.ofNat n, text.drop count) else none

/-- The character of an escape behind its backslash. -/
def readEscape? : List Char → Option (Char × List Char)
  | 'b' :: rest => some (Char.ofNat 8, rest)
  | 't' :: rest => some ('\t', rest)
  | 'n' :: rest => some ('\n', rest)
  | 'f' :: rest => some (Char.ofNat 12, rest)
  | 'r' :: rest => some ('\r', rest)
  | '"' :: rest => some ('"', rest)
  | '\\' :: rest => some ('\\', rest)
  | 'u' :: rest => readCodePoint? 4 rest
  | 'U' :: rest => readCodePoint? 8 rest
  | _ => none

/-- A string in double quotes behind the opening one. -/
def readBasic? : Nat → List Char → Option (List Char × List Char)
  | 0, _ => none
  | fuel + 1, text =>
    match text with
    | '"' :: rest => some ([], rest)
    | '\\' :: rest => do
      let (c, rest) ← readEscape? rest
      let (cs, rest) ← readBasic? fuel rest
      return (c :: cs, rest)
    | c :: rest => do
      let (cs, rest) ← if isPrintable c then readBasic? fuel rest else none
      return (c :: cs, rest)
    | [] => none

/-- A string in single quotes behind the opening one. -/
def readLiteral? (text : List Char) : Option (List Char × List Char) :=
  let inside := text.takeWhile fun c => isPrintable c && c != '\''
  match text.drop inside.length with
  | '\'' :: rest => some (inside, rest)
  | _ => none

/-- The quotes that end a string in triple quotes: up to two belong to the string. -/
def readClosing? (quote : Char) (text : List Char) : Option (List Char × List Char) :=
  let count := min 5 (text.takeWhile (· == quote)).length
  if 3 ≤ count then some (List.replicate (count - 3) quote, text.drop count) else none

/-- A string in triple quotes behind the opening ones and the end of that line. -/
def readTriple? (quote : Char) : Nat → List Char → Option (List Char × List Char)
  | 0, _ => none
  | fuel + 1, text =>
    match readClosing? quote text with
    | some closing => some closing
    | none =>
      match text with
      | '\\' :: rest =>
        if quote == '"' then
          match lineEnd? (skipBlanks rest) with
          | some next => readTriple? quote fuel (skipBreaks next)
          | none => do
            let (c, rest) ← readEscape? rest
            let (cs, rest) ← readTriple? quote fuel rest
            return (c :: cs, rest)
        else do
          let (cs, rest) ← readTriple? quote fuel rest
          return ('\\' :: cs, rest)
      | '\r' :: '\n' :: rest => do
        let (cs, rest) ← readTriple? quote fuel rest
        return ('\n' :: cs, rest)
      | c :: rest => do
        let (cs, rest) ← if isPrintable c || c == '\n' then readTriple? quote fuel rest else none
        return (c :: cs, rest)
      | [] => none

/-- A string in any quotes. -/
def readString? (text : List Char) : Option (String × List Char) :=
  let opened (rest : List Char) := (lineEnd? rest).getD rest
  let read := match text with
    | '"' :: '"' :: '"' :: rest => readTriple? '"' (rest.length + 1) (opened rest)
    | '\'' :: '\'' :: '\'' :: rest => readTriple? '\'' (rest.length + 1) (opened rest)
    | '"' :: rest => readBasic? (rest.length + 1) rest
    | '\'' :: rest => readLiteral? rest
    | _ => none
  read.map fun (cs, rest) => (String.ofList cs, rest)

/-! ## Keys -/

/-- One part of a key. -/
def readKeyPart? (text : List Char) : Option (String × List Char) :=
  match text with
  | '"' :: rest => (readBasic? (rest.length + 1) rest).map fun (cs, rest) => (String.ofList cs, rest)
  | '\'' :: rest => (readLiteral? rest).map fun (cs, rest) => (String.ofList cs, rest)
  | _ =>
    match text.takeWhile isBareKey with
    | [] => none
    | bare => some (String.ofList bare, text.dropWhile isBareKey)

/-- The parts of a key between dots; blanks may stand around each. -/
def readKey? : Nat → List Char → Option (List String × List Char)
  | 0, _ => none
  | fuel + 1, text => do
    let (part, rest) ← readKeyPart? (skipBlanks text)
    match skipBlanks rest with
    | '.' :: rest =>
      let (parts, rest) ← readKey? fuel rest
      return (part :: parts, rest)
    | rest => return ([part], rest)

/-! ## Numbers and dates -/

/-- Digits of a class, single underscores between them. -/
def readDigits? (isDigit : Char → Bool) : List Char → Option (List Char × List Char)
  | [] => none
  | [c] => if isDigit c then some ([c], []) else none
  | c :: '_' :: rest =>
    if isDigit c then (readDigits? isDigit rest).map fun (cs, rest) => (c :: cs, rest) else none
  | c :: next :: rest =>
    if isDigit c then
      if isDigit next then (readDigits? isDigit (next :: rest)).map fun (cs, rest) => (c :: cs, rest)
      else some ([c], next :: rest)
    else none

/-- The value of digits in a base. -/
def digitsValue (base : Nat) (digits : List Char) : Nat :=
  digits.foldl (fun n c => n * base + (hexValue? [c]).getD 0) 0

/-- Whether a character is an octal digit. -/
def isOctal (c : Char) : Bool := '0' ≤ c && c ≤ '7'

/-- Whether a character is a hexadecimal digit. -/
def isHex (c : Char) : Bool := (hexValue? [c]).isSome

/-- An integer in 64 bits. -/
def integerOf? (n : Int) : Option Toml := if Word.fitsSigned n then some (.integer n) else none

/-- The double nearest to a decimal number; too large ones are infinite. The power of ten above the first
digit decides first whether the number is beyond all doubles. -/
def decimal (negative : Bool) (digits : Nat) (exponent : Int) : TomlFloat :=
  let magnitude := exponent + (Nat.toDigits 10 digits).length
  let scaled :=
    if digits = 0 ∨ magnitude < -330 then Binary64.roundMagnitude? negative 0 1
    else if 310 < magnitude then none
    else if 0 ≤ exponent then Binary64.roundMagnitude? negative (digits * Nat.pow 10 exponent.toNat * Binary64.unit) 1
    else Binary64.roundMagnitude? negative (digits * Binary64.unit) (Nat.pow 10 (-exponent).toNat)
  match scaled with
  | some value => .finite value
  | none => .infinity negative

/-- The digits of a fraction behind its dot, if there is one. -/
def readFraction? : List Char → Option (List Char × List Char)
  | '.' :: rest => readDigits? Char.isDigit rest
  | rest => some ([], rest)

/-- The exponent behind its letter, if there is one. -/
def readExponent? (text : List Char) : Option (Option Int × List Char) :=
  match text with
  | c :: rest =>
    if c == 'e' || c == 'E' then
      let (negative, rest) := match rest with
        | '-' :: rest => (true, rest)
        | '+' :: rest => (false, rest)
        | _ => (false, rest)
      (readDigits? Char.isDigit rest).map fun (digits, rest) =>
        let n : Int := digitsValue 10 digits
        (some (if negative then -n else n), rest)
    else some (none, text)
  | [] => some (none, [])

/-- A number that is not beyond all doubles; below all of them it is infinite. -/
def floatOf? : TomlFloat → Option Toml
  | .infinity false => none
  | value => some (.float value)

/-- A decimal number behind its sign. -/
def readDecimal? (negative : Bool) (text : List Char) : Option (Toml × List Char) := do
  let (whole, rest) ← readDigits? Char.isDigit text
  if whole.length > 1 && whole.head? = some '0' then none
  let isFraction := rest.head? = some '.'
  let (fraction, rest) ← readFraction? rest
  let (exponent, rest) ← readExponent? rest
  let n := digitsValue 10 (whole ++ fraction)
  if isFraction || exponent.isSome then
    return (← floatOf? (decimal negative n (exponent.getD 0 - fraction.length)), rest)
  else return (← integerOf? (if negative then -(n : Int) else n), rest)

/-- A number behind its sign. -/
def readUnsigned? (negative : Bool) (text : List Char) : Option (Toml × List Char) :=
  match text with
  | 'i' :: 'n' :: 'f' :: rest => some (.float (.infinity negative), rest)
  | 'n' :: 'a' :: 'n' :: rest => some (.float .notANumber, rest)
  | _ => readDecimal? negative text

/-- A number. -/
def readNumber? (text : List Char) : Option (Toml × List Char) :=
  let based (base : Nat) (isDigit : Char → Bool) (rest : List Char) : Option (Toml × List Char) := do
    let (digits, rest) ← readDigits? isDigit rest
    return (← integerOf? (digitsValue base digits), rest)
  match text with
  | '0' :: 'x' :: rest => based 16 isHex rest
  | '0' :: 'o' :: rest => based 8 isOctal rest
  | '0' :: 'b' :: rest => based 2 (fun c => c == '0' || c == '1') rest
  | '+' :: rest => readUnsigned? false rest
  | '-' :: rest => readUnsigned? true rest
  | _ => readUnsigned? false text

/-- A number of exactly some digits within bounds. -/
def readField? (count low high : Nat) (text : List Char) : Option (List Char × List Char) :=
  let digits := text.take count
  let n := digitsValue 10 digits
  if digits.length = count && digits.all Char.isDigit && low ≤ n && n ≤ high then some (digits, text.drop count)
  else none

/-- A character that must come next. -/
def readChar? (c : Char) : List Char → Option (List Char)
  | d :: rest => if c == d then some rest else none
  | [] => none

/-- The days of a month. -/
def daysInMonth (year month : Nat) : Nat :=
  if month = 2 then if year % 4 = 0 ∧ (year % 100 ≠ 0 ∨ year % 400 = 0) then 29 else 28
  else if month = 4 ∨ month = 6 ∨ month = 9 ∨ month = 11 then 30 else 31

/-- A date. -/
def readDate? (text : List Char) : Option (List Char × List Char) := do
  let (year, rest) ← readField? 4 0 9999 text
  let (month, rest) ← readField? 2 1 12 (← readChar? '-' rest)
  let (day, rest) ← readField? 2 1 (daysInMonth (digitsValue 10 year) (digitsValue 10 month)) (← readChar? '-' rest)
  return (year ++ '-' :: month ++ '-' :: day, rest)

/-- The written digits of a fraction of a second: at most nine, without zeros at the end. -/
def trimFraction (digits : List Char) : List Char :=
  match ((digits.take 9).reverse.dropWhile (· == '0')).reverse with
  | [] => []
  | kept => '.' :: kept

/-- A time of day. -/
def readTime? (text : List Char) : Option (List Char × List Char) := do
  let (hour, rest) ← readField? 2 0 23 text
  let (minute, rest) ← readField? 2 0 59 (← readChar? ':' rest)
  let (second, rest) ← readField? 2 0 60 (← readChar? ':' rest)
  let time := hour ++ ':' :: minute ++ ':' :: second
  match rest with
  | '.' :: rest =>
    match rest.takeWhile Char.isDigit with
    | [] => none
    | digits => return (time ++ trimFraction digits, rest.dropWhile Char.isDigit)
  | _ => return (time, rest)

/-- The offset of a time, if there is one; an offset of zero has a plus sign. -/
def readOffset? (text : List Char) : Option (List Char × List Char) :=
  match text with
  | c :: rest =>
    if c == 'Z' || c == 'z' then some (['Z'], rest)
    else if c == '+' || c == '-' then do
      let (hour, rest) ← readField? 2 0 23 rest
      let (minute, rest) ← readField? 2 0 59 (← readChar? ':' rest)
      let isZero := (hour ++ minute).all (· == '0')
      return ((if isZero then '+' else c) :: hour ++ ':' :: minute, rest)
    else some ([], text)
  | [] => some ([], [])

/-- A date, a time of day, or both. -/
def readDateTime? (text : List Char) : Option (Toml × List Char) :=
  let result : Option (List Char × List Char) := match readDate? text with
    | some (date, c :: rest) =>
      if c == 'T' || c == 't' || c == ' ' then
        match readTime? rest with
        | some (time, rest) => (readOffset? rest).map fun (offset, rest) => (date ++ 'T' :: time ++ offset, rest)
        | none => if c == ' ' then some (date, c :: rest) else none
      else some (date, c :: rest)
    | some (date, []) => some (date, [])
    | none => readTime? text
  result.map fun (cs, rest) => (.dateTime (String.ofList cs), rest)

/-- Whether a text starts like a date or a time of day. -/
def startsDateTime (text : List Char) : Bool :=
  let digits := text.takeWhile Char.isDigit
  match text.drop digits.length with
  | '-' :: _ => digits.length == 4
  | ':' :: _ => digits.length == 2
  | _ => false

/-- A value that holds no others. -/
def readScalar? (text : List Char) : Option (Toml × List Char) :=
  match text with
  | '"' :: _ | '\'' :: _ => (readString? text).map fun (s, rest) => (.string s, rest)
  | 't' :: 'r' :: 'u' :: 'e' :: rest => some (.boolean true, rest)
  | 'f' :: 'a' :: 'l' :: 's' :: 'e' :: rest => some (.boolean false, rest)
  | _ => if startsDateTime text then readDateTime? text else readNumber? text

end JsonSchema.Toml
