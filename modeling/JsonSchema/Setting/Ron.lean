import JsonSchema.Setting.Items
import JsonSchema.Setting.Number

/-! # Settings in RON

Values in an object notation with named fields: a structure between parentheses is a table, a tuple is a
list, and an option is its value or nothing. A name in front of parentheses says nothing.
-/

namespace JsonSchema.Setting.Ron

/-- Whether a character may stand between tokens. -/
def isBlank (c : Char) : Bool := c == ' ' || c == '\t' || c == '\n' || c == '\r'

/-- The text behind the end of a comment in which `depth` comments are open. -/
def commentEnd? (depth : Nat) : List Char → Option (List Char)
  | '/' :: '*' :: rest => commentEnd? (depth + 1) rest
  | '*' :: '/' :: rest => if depth ≤ 1 then some rest else commentEnd? (depth - 1) rest
  | _ :: rest => commentEnd? depth rest
  | [] => none

/-- The text behind blanks and at most `fuel` comments and blanks. -/
def skipWithin : Nat → List Char → List Char
  | 0, text => text
  | fuel + 1, text =>
    match text with
    | '/' :: '/' :: rest => skipWithin fuel (rest.dropWhile (· != '\n'))
    | '/' :: '*' :: rest =>
      match commentEnd? 1 rest with
      | some rest => skipWithin fuel rest
      | none => text
    | c :: rest => if isBlank c then skipWithin fuel rest else text
    | [] => []

/-- The text behind blanks and comments. -/
def skip (text : List Char) : List Char := skipWithin (text.length + 1) text

/-- Whether a character may stand in a name. -/
def isNameChar (c : Char) : Bool := c.isAlphanum || c == '_'

/-- A name at the start of a text. -/
def readName? (text : List Char) : Option (String × List Char) :=
  match text with
  | 'r' :: '"' :: _ => none
  | 'r' :: '#' :: rest =>
    match rest.takeWhile fun c => isNameChar c || c == '.' || c == '+' || c == '-' with
    | [] => none
    | name => some (String.ofList name, rest.drop name.length)
  | c :: _ =>
    if isNameChar c && !c.isDigit then
      some (String.ofList (text.takeWhile isNameChar), text.dropWhile isNameChar)
    else none
  | [] => none

/-! ## Texts -/

/-- The character of an escape behind its backslash. -/
def readEscape? : List Char → Option (Char × List Char)
  | '\'' :: rest => some ('\'', rest)
  | '"' :: rest => some ('"', rest)
  | '\\' :: rest => some ('\\', rest)
  | 'n' :: rest => some ('\n', rest)
  | 'r' :: rest => some ('\r', rest)
  | 't' :: rest => some ('\t', rest)
  | '0' :: rest => some (Char.ofNat 0, rest)
  | 'x' :: rest => Toml.readCodePoint? 2 rest
  | 'u' :: c :: rest => do
    let digits := rest.takeWhile Toml.isHex
    let n ← Toml.hexValue? digits
    match rest.drop digits.length with
    | d :: rest =>
      if c.toNat = 0x7B ∧ d.toNat = 0x7D ∧ digits ≠ [] ∧ digits.length ≤ 6 ∧ Nat.isValidChar n then
        some (Char.ofNat n, rest)
      else none
    | [] => none
  | _ => none

/-- A text behind its opening quote. -/
def readQuoted? : Nat → List Char → Option (List Char × List Char)
  | 0, _ => none
  | fuel + 1, text =>
    match text with
    | '"' :: rest => some ([], rest)
    | '\\' :: rest => do
      let (c, rest) ← readEscape? rest
      let (cs, rest) ← readQuoted? fuel rest
      return (c :: cs, rest)
    | c :: rest => (readQuoted? fuel rest).map fun (cs, rest) => (c :: cs, rest)
    | [] => none

/-- A raw text behind its opening quote, up to a quote and the closing characters. -/
def readRaw? (closing : List Char) : List Char → Option (List Char × List Char)
  | [] => none
  | c :: rest =>
    if closing.isPrefixOf (c :: rest) then some ([], (c :: rest).drop closing.length)
    else (readRaw? closing rest).map fun (cs, rest) => (c :: cs, rest)

/-- A text in quotes; behind the letter of a raw text there may be number signs around them. -/
def readText? (text : List Char) : Option (List Char × List Char) :=
  match text with
  | '"' :: rest => readQuoted? (rest.length + 1) rest
  | 'r' :: rest =>
    let signs := rest.takeWhile (· == '#')
    match rest.drop signs.length with
    | '"' :: rest => readRaw? ('"' :: signs) rest
    | _ => none
  | _ => none

/-- A character in single quotes, behind the opening one. -/
def readCharacter? (text : List Char) : Option (Char × List Char) := do
  let (c, rest) ← match text with
    | '\\' :: rest => readEscape? rest
    | c :: rest => some (c, rest)
    | [] => none
  return (c, ← Toml.readChar? '\'' rest)

/-! ## Numbers -/

/-- The digits of a number in a base without the underscores between them. -/
def digitsOf? (isDigit : Char → Bool) (text : List Char) : Option (List Char) :=
  let digits := text.filter (· != '_')
  if digits.isEmpty || text.head? == some '_' || !digits.all isDigit then none else some digits

/-- The magnitude of a written integer. -/
def magnitude? : List Char → Option Nat
  | '0' :: 'x' :: rest => (digitsOf? Toml.isHex rest).map (Toml.digitsValue 16)
  | '0' :: 'o' :: rest => (digitsOf? Toml.isOctal rest).map (Toml.digitsValue 8)
  | '0' :: 'b' :: rest => (digitsOf? (fun c => c == '0' || c == '1') rest).map (Toml.digitsValue 2)
  | text => (digitsOf? Char.isDigit text).map (Toml.digitsValue 10)

/-- The written form of a number without its sign; a sign may stand behind the letter of an exponent. -/
def takeNumber (afterLetter : Bool) : List Char → List Char
  | [] => []
  | c :: rest =>
    if isNameChar c || c == '.' || afterLetter && (c == '+' || c == '-') then
      c :: takeNumber (c == 'e' || c == 'E') rest
    else []

/-- A number; an integer beyond 64 bits is a floating-point number. -/
def readNumber? (text : List Char) : Option (Scalar × List Char) := do
  let (negative, unsigned) := splitSign text
  let written := takeNumber false unsigned
  let rest := unsigned.drop written.length
  let integer := (magnitude? written).map fun n => if negative then -(n : Int) else n
  match integer.filter Word.fitsSigned, float? (if negative then '-' :: written else written) with
  | some value, _ => return (.integer value, rest)
  | none, some value => return (.float value, rest)
  | none, none => none

/-! ## Values -/

/-- A field with its name, given how values are read. -/
def readField? (value? : List Char → Option (Setting × List Char)) (text : List Char) :
    Option ((String × Setting) × List Char) := do
  let (name, rest) ← readName? text
  let (value, rest) ← value? (skip (← Toml.readChar? ':' (skip rest)))
  return ((name, value), rest)

/-- A member of a map, given how values are read; its key is a text. -/
def readMember? (value? : List Char → Option (Setting × List Char)) (text : List Char) :
    Option ((String × Setting) × List Char) := do
  let (key, rest) ← value? text
  let (value, rest) ← value? (skip (← Toml.readChar? ':' (skip rest)))
  match key with
  | .scalar _ (.text key) => return ((key, value), rest)
  | _ => none

/-- Whether a name and a colon stand at the start of a text. -/
def startsField (text : List Char) : Bool :=
  match readName? text with
  | some (_, rest) => (skip rest).head? == some ':'
  | none => false

/-- A structure or a tuple behind its opening parenthesis. -/
def readParts? (value? : List Char → Option (Setting × List Char)) (text : List Char) :
    Option (Setting × List Char) :=
  if startsField (skip text) then
    (readItems? skip (readField? value?) ')' (text.length + 1) text).map fun (fields, rest) => (tableOf fields, rest)
  else (readItems? skip value? ')' (text.length + 1) text).map fun (items, rest) => (.list none items, rest)

/-- The value of an option behind its name. -/
def readOption? (value? : List Char → Option (Setting × List Char)) (text : List Char) :
    Option (Setting × List Char) := do
  let (value, rest) ← value? (skip (← Toml.readChar? '(' (skip text)))
  let rest := skip rest
  let rest := if rest.head? == some ',' then skip (rest.drop 1) else rest
  return (value, ← Toml.readChar? ')' rest)

/-- What a name stands for: a word has its meaning, and every other name says nothing. -/
def readNamed? (value? : List Char → Option (Setting × List Char)) (name : String) (text : List Char) :
    Option (Setting × List Char) :=
  match name with
  | "true" => some (.scalar none (.boolean true), text)
  | "false" => some (.scalar none (.boolean false), text)
  | "None" => some (absent, text)
  | "Some" => readOption? value? text
  | "inf" => some (.scalar none (.float (.infinity false)), text)
  | "NaN" => some (.scalar none (.float .notANumber), text)
  | _ =>
    match skip text with
    | '(' :: rest => readParts? value? rest
    | rest => some (absent, rest)

/-- A value, down to a bound on the nesting. -/
def readValue? : Nat → List Char → Option (Setting × List Char)
  | 0, _ => none
  | depth + 1, text =>
    match readName? text, text with
    | some (name, rest), _ => readNamed? (readValue? depth) name rest
    | none, '(' :: ')' :: rest => some (absent, rest)
    | none, '(' :: rest => readParts? (readValue? depth) rest
    | none, '[' :: rest =>
      (readItems? skip (readValue? depth) ']' (rest.length + 1) rest).map fun (items, rest) => (.list none items, rest)
    | none, '"' :: _ => (readText? text).map fun (cs, rest) => (ofChars cs, rest)
    | none, 'r' :: _ => (readText? text).map fun (cs, rest) => (ofChars cs, rest)
    | none, '\'' :: rest => (readCharacter? rest).map fun (c, rest) => (ofChars [c], rest)
    | none, '-' :: 'i' :: 'n' :: 'f' :: rest => some (.scalar none (.float (.infinity true)), rest)
    | none, c :: rest =>
      if c.toNat = 0x7B then
        (readItems? skip (readMember? (readValue? depth)) (Char.ofNat 0x7D) (rest.length + 1) rest).map
          fun (members, rest) => (tableOf members, rest)
      else (readNumber? text).map fun (value, rest) => (.scalar none value, rest)
    | none, [] => none

/-- The names of the extensions that a document may ask for. -/
def extensions : List String := ["unwrap_newtypes", "implicit_some", "unwrap_variant_newtypes"]

/-- The text behind what a document asks for in front of its value. -/
def skipExtensions? (text : List Char) : Option (List Char) := do
  let rest ← ["#", "!", "[", "enable", "("].foldlM (fun rest token =>
    if token.toList.isPrefixOf (skip rest) then some ((skip rest).drop token.length) else none) text
  let (names, rest) ← readItems? skip readName? ')' (rest.length + 1) rest
  if names.isEmpty || !names.all extensions.contains then none else Toml.readChar? ']' (skip rest)

/-- The most values that may be nested. -/
def nestingLimit : Nat := 128

/-- The setting that a text denotes. -/
def read? (text : String) : Option Setting := do
  let chars := skip text.toList
  let chars ← if chars.head? == some '#' then skipExtensions? chars else some chars
  let (value, rest) ← readValue? nestingLimit (skip chars)
  if (skip rest).isEmpty then some value else none

end JsonSchema.Setting.Ron
