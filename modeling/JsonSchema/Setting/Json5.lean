import JsonSchema.Setting.Items
import JsonSchema.Setting.Number
import JsonSchema.Unicode.Property

/-! # Settings in JSON5

JSON with comments, names without quotes, strings in either quotes, commas behind the last item and more
forms of numbers. Integers have 64 bits, hexadecimal ones 32 and no sign.
-/

namespace JsonSchema.Setting.Json5

/-- Whether a character ends a line. -/
def isLineEnd (c : Char) : Bool := c == '\n' || c == '\r' || c.toNat == 0x2028 || c.toNat == 0x2029

/-- Whether a character may stand between tokens. -/
def isBlank (c : Char) : Bool :=
  isLineEnd c || [0x09, 0x0B, 0x0C, 0xFEFF].contains c.toNat || Unicode.inRuns Unicode.spaceSeparator c.toNat

/-- The text behind the end of a comment. -/
def commentEnd? : List Char → Option (List Char)
  | '*' :: '/' :: rest => some rest
  | _ :: rest => commentEnd? rest
  | [] => none

/-- The text behind blanks and at most `fuel` comments and blanks. -/
def skipWithin : Nat → List Char → List Char
  | 0, text => text
  | fuel + 1, text =>
    match text with
    | '/' :: '/' :: rest => skipWithin fuel (rest.dropWhile (!isLineEnd ·))
    | '/' :: '*' :: rest =>
      match commentEnd? rest with
      | some rest => skipWithin fuel rest
      | none => text
    | c :: rest => if isBlank c then skipWithin fuel rest else text
    | [] => []

/-- The text behind blanks and comments. -/
def skip (text : List Char) : List Char := skipWithin (text.length + 1) text

/-! ## Strings and names -/

/-- The number of exactly some hexadecimal digits. -/
def readHex? (count : Nat) (text : List Char) : Option (Nat × List Char) := do
  let digits := text.take count
  let n ← if digits.length = count then Toml.hexValue? digits else none
  return (n, text.drop count)

/-- The character of an escape in four hexadecimal digits, or in two such escapes for a pair of surrogates. -/
def readUnicode? (text : List Char) : Option (Char × List Char) := do
  let (first, rest) ← readHex? 4 text
  if 0xD800 ≤ first ∧ first < 0xDC00 then
    match rest with
    | '\\' :: 'u' :: rest =>
      let (second, rest) ← readHex? 4 rest
      if 0xDC00 ≤ second ∧ second < 0xE000 then
        some (Char.ofNat (0x10000 + (first - 0xD800) * 0x400 + (second - 0xDC00)), rest)
      else none
    | _ => none
  else if Nat.isValidChar first then some (Char.ofNat first, rest)
  else none

/-- The characters of an escape behind its backslash; the end of a line has none. -/
def readEscape? : List Char → Option (List Char × List Char)
  | 'b' :: rest => some ([Char.ofNat 0x08], rest)
  | 'f' :: rest => some ([Char.ofNat 0x0C], rest)
  | 'n' :: rest => some (['\n'], rest)
  | 'r' :: rest => some (['\r'], rest)
  | 't' :: rest => some (['\t'], rest)
  | 'v' :: rest => some ([Char.ofNat 0x0B], rest)
  | '0' :: rest => some ([Char.ofNat 0], rest)
  | 'x' :: rest => (readHex? 2 rest).map fun (n, rest) => ([Char.ofNat n], rest)
  | 'u' :: rest => (readUnicode? rest).map fun (c, rest) => ([c], rest)
  | '\r' :: '\n' :: rest => some ([], rest)
  | c :: rest => if isLineEnd c then some ([], rest) else if c.isDigit then none else some ([c], rest)
  | [] => none

/-- A string behind its opening quote. -/
def readString? (quote : Char) : Nat → List Char → Option (List Char × List Char)
  | 0, _ => none
  | fuel + 1, text =>
    match text with
    | '\\' :: rest => do
      let (escaped, rest) ← readEscape? rest
      let (cs, rest) ← readString? quote fuel rest
      return (escaped ++ cs, rest)
    | c :: rest =>
      if c == quote then some ([], rest)
      else if isLineEnd c then none
      else do
        let (cs, rest) ← readString? quote fuel rest
        return (c :: cs, rest)
    | [] => none

/-- Whether a name can start with a character. -/
def startsName (c : Char) : Bool :=
  c == '$' || c == '_' || Unicode.inRuns (Unicode.letters ++ Unicode.letterNumber) c.toNat

/-- Whether a name can go on with a character. -/
def continuesName (c : Char) : Bool :=
  startsName c || c.toNat == 0x200C || c.toNat == 0x200D || [Unicode.nonspacingMark, Unicode.spacingMark,
    Unicode.decimalNumber, Unicode.connectorPunctuation].any (Unicode.inRuns · c.toNat)

/-- The rest of a name. -/
def readNameRest? : Nat → List Char → Option (List Char × List Char)
  | 0, _ => none
  | fuel + 1, text =>
    match text with
    | '\\' :: 'u' :: rest => do
      let (c, rest) ← readUnicode? rest
      let (cs, rest) ← readNameRest? fuel rest
      return (c :: cs, rest)
    | c :: rest =>
      if continuesName c then (readNameRest? fuel rest).map fun (cs, rest) => (c :: cs, rest)
      else some ([], text)
    | [] => some ([], [])

/-- The key of a member. -/
def readKey? (text : List Char) : Option (String × List Char) :=
  let read := match text with
    | '"' :: rest => readString? '"' (rest.length + 1) rest
    | '\'' :: rest => readString? '\'' (rest.length + 1) rest
    | '\\' :: _ => readNameRest? (text.length + 1) text
    | c :: _ => if startsName c then readNameRest? (text.length + 1) text else none
    | [] => none
  read.map fun (cs, rest) => (String.ofList cs, rest)

/-! ## Numbers -/

/-- An exponent with its letter and sign, if there is one. -/
def takeExponent (text : List Char) : List Char :=
  match text with
  | c :: rest =>
    let sign := rest.take 1 |>.filter fun c => c == '+' || c == '-'
    let digits := (rest.drop sign.length).takeWhile Char.isDigit
    if (c == 'e' || c == 'E') && !digits.isEmpty then c :: sign ++ digits else []
  | [] => []

/-- The written form of a decimal number without a sign at the start of a text. -/
def takeDecimal (text : List Char) : List Char :=
  let whole := if text.head? == some '0' then ['0'] else text.takeWhile Char.isDigit
  let rest := text.drop whole.length
  let fraction := match rest with
    | '.' :: rest => '.' :: rest.takeWhile Char.isDigit
    | _ => []
  let written := if whole.isEmpty && fraction.length < 2 then [] else whole ++ fraction
  if written.isEmpty then [] else written ++ takeExponent (text.drop written.length)

/-- The value of a written decimal number. -/
def decimalValue? (written : List Char) : Option Scalar :=
  if written.any fun c => c == '.' || c == 'e' || c == 'E' then
    match float? written with
    | some (.finite value) => some (.float (.finite value))
    | _ => none
  else (integer? written).map .integer

/-- A number. -/
def readNumber? (text : List Char) : Option (Scalar × List Char) :=
  let sign := text.take 1 |>.filter fun c => c == '+' || c == '-'
  let infinite := "Infinity".toList
  let undefined := "NaN".toList
  let rest := text.drop sign.length
  if infinite.isPrefixOf rest then
    if sign == ['+'] then none else some (.float (.infinity (sign == ['-'])), rest.drop infinite.length)
  else if undefined.isPrefixOf rest then
    if sign == ['+'] then none else some (.float .notANumber, rest.drop undefined.length)
  else
    let digits := (rest.drop 2).takeWhile Toml.isHex
    if rest.head? == some '0' && (rest[1]? == some 'x' || rest[1]? == some 'X') && !digits.isEmpty then
      let n := Toml.digitsValue 16 digits
      if sign.isEmpty && n < Nat.pow 2 32 then some (.integer n, rest.drop (digits.length + 2)) else none
    else
      let written := takeDecimal rest
      (decimalValue? (sign ++ written)).map fun value => (value, rest.drop written.length)

/-! ## Values -/

/-- A member, given how values are read. -/
def readMember? (value? : List Char → Option (Setting × List Char)) (text : List Char) :
    Option ((String × Setting) × List Char) := do
  let (key, rest) ← readKey? text
  match skip rest with
  | ':' :: rest =>
    let (value, rest) ← value? (skip rest)
    return ((key, value), rest)
  | _ => none

/-- A value, down to a bound on the nesting. -/
def readValue? : Nat → List Char → Option (Setting × List Char)
  | 0, _ => none
  | depth + 1, text =>
    match text with
    | 'n' :: 'u' :: 'l' :: 'l' :: rest => some (.scalar none .absent, rest)
    | 't' :: 'r' :: 'u' :: 'e' :: rest => some (.scalar none (.boolean true), rest)
    | 'f' :: 'a' :: 'l' :: 's' :: 'e' :: rest => some (.scalar none (.boolean false), rest)
    | '"' :: rest => (readString? '"' (rest.length + 1) rest).map fun (cs, rest) => (ofChars cs, rest)
    | '\'' :: rest => (readString? '\'' (rest.length + 1) rest).map fun (cs, rest) => (ofChars cs, rest)
    | '[' :: rest =>
      (readItems? skip (readValue? depth) ']' (rest.length + 1) rest).map fun (items, rest) => (.list none items, rest)
    | c :: rest =>
      if c.toNat = 0x7B then
        (readItems? skip (readMember? (readValue? depth)) (Char.ofNat 0x7D) (rest.length + 1) rest).map
          fun (members, rest) => (tableOf members, rest)
      else (readNumber? text).map fun (value, rest) => (.scalar none value, rest)
    | [] => none

/-- The setting that a text denotes. -/
def read? (text : String) : Option Setting := do
  let chars := skip text.toList
  let (value, rest) ← readValue? (chars.length + 1) chars
  if (skip rest).isEmpty then some value else none

end JsonSchema.Setting.Json5
