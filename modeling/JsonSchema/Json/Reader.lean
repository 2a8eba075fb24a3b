import JsonSchema.Json

/-! # Reading JSON text

`Json.read` accepts one value between optional blanks and answers every malformed text with the
cause and the place where reading stopped: a line and the number of bytes before it on that line.
Nesting is limited. A number with neither fraction nor exponent that fits 64 bits is exact; all
others are doubles, computed from at most 64 bits of leading digits scaled by a power of ten.
-/

namespace JsonSchema

/-- Why a text is not JSON. -/
inductive JsonFault where
  | endInValue
  | endInList
  | endInString
  | endInObject
  | expectedColon
  | expectedListSeparator
  | expectedObjectSeparator
  | expectedIdentifier
  | expectedValue
  | invalidEscape
  | invalidNumber
  | numberOutOfRange
  | loneSurrogate
  | endOfHexEscape
  | controlCharacter
  | keyNotString
  | trailingComma
  | trailingCharacters
  | tooDeep
  deriving DecidableEq, Repr

namespace JsonFault

/-- The wording of a fault. -/
def message : JsonFault → String
  | .endInValue => "EOF while parsing a value"
  | .endInList => "EOF while parsing a list"
  | .endInString => "EOF while parsing a string"
  | .endInObject => "EOF while parsing an object"
  | .expectedColon => "expected `:`"
  | .expectedListSeparator => "expected `,` or `]`"
  | .expectedObjectSeparator => "expected `,` or `\x7d`"
  | .expectedIdentifier => "expected ident"
  | .expectedValue => "expected value"
  | .invalidEscape => "invalid escape"
  | .invalidNumber => "invalid number"
  | .numberOutOfRange => "number out of range"
  | .loneSurrogate => "lone leading surrogate in hex escape"
  | .endOfHexEscape => "unexpected end of hex escape"
  | .controlCharacter => "control character (\\u0000-\\u001F) found while parsing a string"
  | .keyNotString => "key must be a string"
  | .trailingComma => "trailing comma"
  | .trailingCharacters => "trailing characters"
  | .tooDeep => "recursion limit exceeded"

end JsonFault

/-- A fault with its place in the text. -/
structure JsonError where
  fault : JsonFault
  /-- Counted from one. -/
  line : Nat
  /-- The number of bytes before the place on its line. -/
  column : Nat
  deriving DecidableEq, Repr

/-- The wording of a fault and its place. -/
def JsonError.message (e : JsonError) : String :=
  e.fault.message ++ " at line " ++ toString e.line ++ " column " ++ toString e.column

namespace Json.Reader

/-- What is left of a text, and how many of its bytes have been read. -/
structure Cursor where
  rest : List Char
  offset : Nat
  deriving DecidableEq

/-- A fault at a byte offset. -/
structure Failure where
  fault : JsonFault
  offset : Nat
  deriving DecidableEq

/-- The result of reading a part of the text. -/
abbrev Result (α : Type) := Except Failure (α × Cursor)

/-- The cursor after one more character. -/
def Cursor.advance (cursor : Cursor) : Cursor :=
  match cursor.rest with
  | [] => cursor
  | c :: rest => ⟨rest, cursor.offset + c.utf8Size⟩

/-- A fault at what has been read. -/
def Cursor.failHere {α : Type} (cursor : Cursor) (fault : JsonFault) : Except Failure α :=
  .error ⟨fault, cursor.offset⟩

/-- A fault at the next byte, or at the end when there is none. -/
def Cursor.failNext {α : Type} (cursor : Cursor) (fault : JsonFault) : Except Failure α :=
  .error ⟨fault, if cursor.rest.isEmpty then cursor.offset else cursor.offset + 1⟩

/-- Whether a character is a blank between tokens. -/
def isBlank (c : Char) : Bool := c == ' ' || c == '\n' || c == '\t' || c == '\r'

/-- Skips blanks; each takes one byte. -/
def skipBlanks (cursor : Cursor) : Cursor :=
  go cursor.rest cursor.offset
where
  go : List Char → Nat → Cursor
    | [], offset => ⟨[], offset⟩
    | c :: rest, offset => if isBlank c then go rest (offset + 1) else ⟨c :: rest, offset⟩

/-- Reads the rest of a word; reading stops after the first character that differs. -/
def readWord (cursor : Cursor) : List Char → Except Failure Cursor
  | [] => .ok cursor
  | expected :: more =>
    match cursor.rest with
    | [] => cursor.failHere .endInValue
    | c :: rest =>
      if c = expected then readWord ⟨rest, cursor.offset + c.utf8Size⟩ more
      else .error ⟨.expectedIdentifier, cursor.offset + 1⟩

/-- The value of a decimal digit. -/
def digit? (c : Char) : Option Nat :=
  if '0' ≤ c ∧ c ≤ '9' then some (c.toNat - '0'.toNat) else none

/-- The value of a hexadecimal digit. -/
def hexDigit? (c : Char) : Option Nat :=
  if '0' ≤ c ∧ c ≤ '9' then some (c.toNat - '0'.toNat)
  else if 'a' ≤ c ∧ c ≤ 'f' then some (c.toNat - 'a'.toNat + 10)
  else if 'A' ≤ c ∧ c ≤ 'F' then some (c.toNat - 'A'.toNat + 10)
  else none

/-- The number of bytes in characters. -/
def byteCount (cs : List Char) : Nat := cs.foldl (fun n c => n + c.utf8Size) 0

/-- Reads the four digits of a hexadecimal escape. -/
def readHex (cursor : Cursor) : Result Nat :=
  match cursor.rest with
  | a :: b :: c :: d :: rest =>
    match hexDigit? a, hexDigit? b, hexDigit? c, hexDigit? d with
    | some a, some b, some c, some d =>
      .ok (((a * 16 + b) * 16 + c) * 16 + d, ⟨rest, cursor.offset + 4⟩)
    | _, _, _, _ => .error ⟨.invalidEscape, cursor.offset + 4⟩
  | short =>
    if byteCount short < 4 then .error ⟨.endInString, cursor.offset + byteCount short⟩
    else .error ⟨.invalidEscape, cursor.offset + 4⟩

/-- Reads one expected character of a surrogate pair; any other character ends the escape too early. -/
def readPairMark (cursor : Cursor) (expected : Char) : Except Failure Cursor :=
  match cursor.rest with
  | [] => cursor.failHere .endInString
  | c :: rest =>
    if c = expected then .ok ⟨rest, cursor.offset + 1⟩ else .error ⟨.endOfHexEscape, cursor.offset + 1⟩

/-- Reads a hexadecimal escape after its letter: a character, or a pair of surrogates. -/
def readUnicodeEscape (cursor : Cursor) : Except Failure (Char × Cursor) := do
  let (first, cursor) ← readHex cursor
  if 0xDC00 ≤ first ∧ first ≤ 0xDFFF then cursor.failHere .loneSurrogate
  else if first < 0xD800 ∨ 0xDBFF < first then return (Char.ofNat first, cursor)
  else
    let cursor ← readPairMark cursor '\\'
    let cursor ← readPairMark cursor 'u'
    let (second, cursor) ← readHex cursor
    if second < 0xDC00 ∨ 0xDFFF < second then cursor.failHere .loneSurrogate
    else return (Char.ofNat ((first - 0xD800) * 1024 + (second - 0xDC00) + 0x10000), cursor)

/-- Reads an escape after its backslash. -/
def readEscape (cursor : Cursor) : Result Char :=
  match cursor.rest with
  | [] => cursor.failHere .endInString
  | c :: rest =>
    let next : Cursor := ⟨rest, cursor.offset + c.utf8Size⟩
    match c with
    | '"' => .ok ('"', next)
    | '\\' => .ok ('\\', next)
    | '/' => .ok ('/', next)
    | 'b' => .ok (Char.ofNat 8, next)
    | 'f' => .ok (Char.ofNat 12, next)
    | 'n' => .ok ('\n', next)
    | 'r' => .ok ('\r', next)
    | 't' => .ok ('\t', next)
    | 'u' => readUnicodeEscape next
    | _ => .error ⟨.invalidEscape, cursor.offset + 1⟩

/-- Reads a string after its opening quote, collecting characters in reverse. -/
def readChars (read : List Char) (cursor : Cursor) : Nat → Result String
  | 0 => cursor.failHere .endInString
  | fuel + 1 =>
    match cursor.rest with
    | [] => cursor.failHere .endInString
    | c :: rest =>
      if c = '"' then .ok (String.ofList read.reverse, ⟨rest, cursor.offset + 1⟩)
      else if c = '\\' then
        match readEscape ⟨rest, cursor.offset + 1⟩ with
        | .error failure => .error failure
        | .ok (escaped, cursor) => readChars (escaped :: read) cursor fuel
      else if c.toNat < 32 then .error ⟨.controlCharacter, cursor.offset + 1⟩
      else readChars (c :: read) ⟨rest, cursor.offset + c.utf8Size⟩ fuel

/-- Reads a string after its opening quote. -/
def readString (cursor : Cursor) : Result String := readChars [] cursor (cursor.rest.length + 1)

/-- The correctly rounded double for a power of ten. -/
def powerOfTen (n : Nat) : Binary64 := (Binary64.ofNat? (Nat.pow 10 n)).getD .zero

/-- Scales a double by a power of ten, one rounding a step; too large a result has no value. -/
def scale? (x : Binary64) (exponent : Int) : Nat → Option Binary64
  | 0 => some x
  | fuel + 1 =>
    if exponent.natAbs ≤ 308 then
      if 0 ≤ exponent then x.mul? (powerOfTen exponent.natAbs) else x.div? (powerOfTen exponent.natAbs)
    else if x.significand = 0 then some x
    else if 0 ≤ exponent then none
    else
      match x.div? (powerOfTen 308) with
      | some smaller => scale? smaller (exponent + 308) fuel
      | none => none

/-- The double for leading digits and an exponent. -/
def double? (negative : Bool) (significand : Nat) (exponent : Int) : Option Number :=
  (scale? (.ofInt significand) exponent 8).map fun x => .double (if negative then x.neg else x)

/-- Finishes a double at the cursor. -/
def finishDouble (negative : Bool) (significand : Nat) (exponent : Int) (cursor : Cursor) : Result Number :=
  match double? negative significand exponent with
  | some double => .ok (double, cursor)
  | none => cursor.failHere .numberOutOfRange

/-- Skips decimal digits and counts them. -/
def skipDigits : List Char → Nat → List Char × Nat
  | [], count => ([], count)
  | c :: rest, count => if (digit? c).isSome then skipDigits rest (count + 1) else (c :: rest, count)

/-- The greatest exponent that is still counted. -/
def exponentMax : Nat := Nat.pow 2 31 - 1

/-- The exponent after its first digit; beyond the greatest one the number overflows or vanishes. -/
def readExponentDigits (negative positiveExponent : Bool) (significand : Nat) (starting : Int)
    (exponent : Nat) : List Char → Nat → Result Number
  | [], offset => finish exponent ⟨[], offset⟩
  | c :: rest, offset =>
    match digit? c with
    | none => finish exponent ⟨c :: rest, offset⟩
    | some d =>
      if exponentMax < exponent * 10 + d then
        if significand ≠ 0 ∧ positiveExponent then .error ⟨.numberOutOfRange, offset + 1⟩
        else
          let (rest, count) := skipDigits rest 0
          .ok (.double (if negative then .neg .zero else .zero), ⟨rest, offset + 1 + count⟩)
      else readExponentDigits negative positiveExponent significand starting (exponent * 10 + d) rest (offset + 1)
where
  finish (exponent : Nat) (cursor : Cursor) : Result Number :=
    finishDouble negative significand (if positiveExponent then starting + exponent else starting - exponent) cursor

/-- Reads an exponent after its letter. -/
def readExponent (negative : Bool) (significand : Nat) (starting : Int) (cursor : Cursor) : Result Number :=
  let (positiveExponent, cursor) := match cursor.rest with
    | '+' :: rest => (true, (⟨rest, cursor.offset + 1⟩ : Cursor))
    | '-' :: rest => (false, ⟨rest, cursor.offset + 1⟩)
    | _ => (true, cursor)
  match cursor.rest with
  | [] => cursor.failHere .endInValue
  | c :: rest =>
    match digit? c with
    | none => .error ⟨.invalidNumber, cursor.offset + 1⟩
    | some d => readExponentDigits negative positiveExponent significand starting d rest (cursor.offset + 1)

/-- Goes on with an exponent if one follows. -/
def readExponentOrFinish (negative : Bool) (significand : Nat) (exponent : Int) (cursor : Cursor) :
    Result Number :=
  match cursor.rest with
  | c :: rest =>
    if c = 'e' ∨ c = 'E' then readExponent negative significand exponent ⟨rest, cursor.offset + 1⟩
    else finishDouble negative significand exponent cursor
  | [] => finishDouble negative significand exponent cursor

/-- Reads fraction digits; digits that no longer fit 64 bits are skipped. -/
def readFractionDigits (negative : Bool) (significand : Nat) (exponent : Int) (seen : Bool) :
    List Char → Nat → Result Number
  | [], offset =>
    if seen then readExponentOrFinish negative significand exponent ⟨[], offset⟩
    else .error ⟨.endInValue, offset⟩
  | c :: rest, offset =>
    match digit? c with
    | some d =>
      if Word.greatest < significand * 10 + d then
        let (rest, count) := skipDigits (c :: rest) 0
        readExponentOrFinish negative significand exponent ⟨rest, offset + count⟩
      else readFractionDigits negative (significand * 10 + d) (exponent - 1) true rest (offset + 1)
    | none =>
      if seen then readExponentOrFinish negative significand exponent ⟨c :: rest, offset⟩
      else .error ⟨.invalidNumber, offset + 1⟩

/-- Reads what follows an integer part that no longer fits 64 bits. -/
def readLongInteger (negative : Bool) (significand : Nat) (exponent : Int) (rest : List Char) (offset : Nat) :
    Result Number :=
  match rest with
  | '.' :: rest => readFractionDigits negative significand exponent false rest (offset + 1)
  | _ => readExponentOrFinish negative significand exponent ⟨rest, offset⟩

/-- Reads what follows an integer part of at most 64 bits. -/
def readAfterInteger (negative : Bool) (significand : Nat) (cursor : Cursor) : Result Number :=
  match cursor.rest with
  | '.' :: rest => readFractionDigits negative significand 0 false rest (cursor.offset + 1)
  | c :: _ =>
    if c = 'e' ∨ c = 'E' then readExponentOrFinish negative significand 0 cursor else .ok (whole, cursor)
  | [] => .ok (whole, cursor)
where
  /-- A negative zero, or a negative number beyond 64 bits, is a double. -/
  whole : Number :=
    if negative then
      if significand = 0 ∨ Word.half < significand then .double (Binary64.neg (.ofInt significand))
      else .integer (-significand)
    else .integer significand

/-- Reads integer digits after the first one. -/
def readIntegerDigits (negative : Bool) (significand : Nat) : List Char → Nat → Result Number
  | [], offset => readAfterInteger negative significand ⟨[], offset⟩
  | c :: rest, offset =>
    match digit? c with
    | some d =>
      if Word.greatest < significand * 10 + d then
        let (rest, count) := skipDigits (c :: rest) 0
        readLongInteger negative significand count rest (offset + count)
      else readIntegerDigits negative (significand * 10 + d) rest (offset + 1)
    | none => readAfterInteger negative significand ⟨c :: rest, offset⟩

/-- Reads a number after its sign. -/
def readNumber (negative : Bool) (cursor : Cursor) : Result Number :=
  match cursor.rest with
  | [] => cursor.failHere .endInValue
  | c :: rest =>
    match digit? c with
    | none => .error ⟨.invalidNumber, cursor.offset + 1⟩
    | some 0 =>
      let next : Cursor := ⟨rest, cursor.offset + 1⟩
      match rest with
      | d :: _ => if (digit? d).isSome then next.failNext .invalidNumber else readAfterInteger negative 0 next
      | [] => readAfterInteger negative 0 next
    | some d => readIntegerDigits negative d rest (cursor.offset + 1)

/-- The start of the next item of an array, or `none` at its closing bracket. -/
def itemStart? (first : Bool) (cursor : Cursor) : Except Failure (Option Cursor) :=
  let cursor := skipBlanks cursor
  match cursor.rest with
  | [] => cursor.failNext .endInList
  | ']' :: _ => .ok none
  | c :: _ =>
    if first then .ok (some cursor)
    else if c = ',' then
      let cursor := skipBlanks cursor.advance
      match cursor.rest with
      | ']' :: _ => cursor.failNext .trailingComma
      | [] => cursor.failNext .endInValue
      | _ => .ok (some cursor)
    else cursor.failNext .expectedListSeparator

/-- Reads the items of an array after its bracket; `items` holds those read so far in reverse. -/
def readItems (readItem : Cursor → Result Json) (items : List Json) (cursor : Cursor) : Nat → Result Json
  | 0 => cursor.failHere .endInList
  | fuel + 1 =>
    match itemStart? items.isEmpty cursor with
    | .error failure => .error failure
    | .ok none => .ok (.array items.reverse, (skipBlanks cursor).advance)
    | .ok (some start) =>
      match readItem start with
      | .error failure => .error failure
      | .ok (item, cursor) => readItems readItem (item :: items) cursor fuel

/-- The start of the next member of an object, or `none` at its closing brace. -/
def memberStart? (first : Bool) (cursor : Cursor) : Except Failure (Option Cursor) :=
  let cursor := skipBlanks cursor
  match cursor.rest with
  | [] => cursor.failNext .endInObject
  | '}' :: _ => .ok none
  | c :: _ =>
    if first then
      if c = '"' then .ok (some cursor) else cursor.failNext .keyNotString
    else if c = ',' then
      let cursor := skipBlanks cursor.advance
      match cursor.rest with
      | '"' :: _ => .ok (some cursor)
      | '}' :: _ => cursor.failNext .trailingComma
      | [] => cursor.failNext .endInValue
      | _ => cursor.failNext .keyNotString
    else cursor.failNext .expectedObjectSeparator

/-- Reads a member from its key on. -/
def readMember (readItem : Cursor → Result Json) (cursor : Cursor) :
    Except Failure ((String × Json) × Cursor) := do
  let (key, cursor) ← readString cursor.advance
  let cursor := skipBlanks cursor
  match cursor.rest with
  | [] => cursor.failNext .endInObject
  | ':' :: _ =>
    let (value, cursor) ← readItem cursor.advance
    return ((key, value), cursor)
  | _ => cursor.failNext .expectedColon

/-- Reads the members of an object after its brace; `first` holds before the first member. -/
def readMembers (readItem : Cursor → Result Json) (first : Bool) (members : List (String × Json))
    (cursor : Cursor) : Nat → Result Json
  | 0 => cursor.failHere .endInObject
  | fuel + 1 =>
    match memberStart? first cursor with
    | .error failure => .error failure
    | .ok none => .ok (.object members, (skipBlanks cursor).advance)
    | .ok (some start) =>
      match readMember readItem start with
      | .error failure => .error failure
      | .ok ((key, value), cursor) =>
        readMembers readItem false (insertMember key value members) cursor fuel

/-- Reads a value that is not a container, at its first character. -/
def readScalar (c : Char) (cursor : Cursor) : Result Json :=
  match c with
  | 'n' => word ['u', 'l', 'l'] .null
  | 't' => word ['r', 'u', 'e'] (.bool true)
  | 'f' => word ['a', 'l', 's', 'e'] (.bool false)
  | '-' => (readNumber true cursor.advance).map fun (value, cursor) => (.number value, cursor)
  | '"' => (readString cursor.advance).map fun (text, cursor) => (.string text, cursor)
  | c =>
    if (digit? c).isSome then
      (readNumber false cursor).map fun (value, cursor) => (.number value, cursor)
    else cursor.failNext .expectedValue
where
  /-- Reads the rest of a named value. -/
  word (rest : List Char) (value : Json) : Result Json :=
    (readWord cursor.advance rest).map fun cursor => (value, cursor)

/-- Reads a value whose containers nest at most `depth` deep. -/
def readValue : (depth : Nat) → Cursor → Result Json
  | 0, cursor =>
    let cursor := skipBlanks cursor
    match cursor.rest with
    | [] => cursor.failNext .endInValue
    | '[' :: _ => cursor.failNext .tooDeep
    | '{' :: _ => cursor.failNext .tooDeep
    | c :: _ => readScalar c cursor
  | depth + 1, cursor =>
    let cursor := skipBlanks cursor
    match cursor.rest with
    | [] => cursor.failNext .endInValue
    | '[' :: rest => readItems (readValue depth) [] cursor.advance (rest.length + 1)
    | '{' :: rest => readMembers (readValue depth) true [] cursor.advance (rest.length + 1)
    | c :: _ => readScalar c cursor

/-- Reads a whole text: one value and nothing but blanks around it. -/
def readText (depth : Nat) (text : List Char) : Except Failure Json := do
  let (value, cursor) ← readValue depth ⟨text, 0⟩
  let cursor := skipBlanks cursor
  if cursor.rest.isEmpty then return value else cursor.failNext .trailingCharacters

/-- The line and column of a byte offset. -/
def position (text : List Char) (offset : Nat) : Nat × Nat :=
  go text offset 1 0
where
  go : List Char → Nat → Nat → Nat → Nat × Nat
    | [], _, line, column => (line, column)
    | c :: rest, left, line, column =>
      if left < c.utf8Size then (line, column + left)
      else if c = '\n' then go rest (left - 1) (line + 1) 0
      else go rest (left - c.utf8Size) line (column + c.utf8Size)

end Json.Reader

namespace Json

/-- How deep containers may nest in a text. -/
def nestingLimit : Nat := 127

/-- Reads a JSON text. -/
def read (text : String) : Except JsonError Json :=
  match Reader.readText nestingLimit text.toList with
  | .ok value => .ok value
  | .error ⟨fault, offset⟩ =>
    let (line, column) := Reader.position text.toList offset
    .error ⟨fault, line, column⟩

end Json

end JsonSchema
