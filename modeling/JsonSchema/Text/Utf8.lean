/-! # UTF-8

`Utf8.encode` writes characters as bytes. `Utf8.next` reads the first character of a byte sequence
or says how many of its bytes can begin no character; `Utf8.decode` stops there, and
`Utf8.decodeLossy` puts the replacement character in the place of each such run.
-/

namespace JsonSchema

/-- Why bytes are not UTF-8. -/
inductive Utf8Error where
  /-- A run of bytes that begins no character. -/
  | invalid (length index : Nat)
  /-- The bytes end inside a character. -/
  | incomplete (index : Nat)
  deriving DecidableEq, Repr

/-- The wording of an encoding error. -/
def Utf8Error.message : Utf8Error → String
  | .invalid length index =>
    "invalid utf-8 sequence of " ++ toString length ++ " bytes from index " ++ toString index
  | .incomplete index => "incomplete utf-8 byte sequence from index " ++ toString index

namespace Utf8

/-- The bytes of a character. -/
def encodeChar (c : Char) : List UInt8 :=
  let n := c.toNat
  if n < 0x80 then [UInt8.ofNat n]
  else if n < 0x800 then [UInt8.ofNat (0xC0 + n / 64), UInt8.ofNat (0x80 + n % 64)]
  else if n < 0x10000 then
    [UInt8.ofNat (0xE0 + n / 4096), UInt8.ofNat (0x80 + n / 64 % 64), UInt8.ofNat (0x80 + n % 64)]
  else
    [UInt8.ofNat (0xF0 + n / 262144), UInt8.ofNat (0x80 + n / 4096 % 64), UInt8.ofNat (0x80 + n / 64 % 64),
      UInt8.ofNat (0x80 + n % 64)]

/-- The bytes of characters. -/
def encode (cs : List Char) : List UInt8 := cs.flatMap encodeChar

/-- The bytes of a text. -/
def bytes (text : String) : List UInt8 := encode text.toList

/-- What stands at the start of bytes. -/
inductive Step where
  | finished
  | char (c : Char) (rest : List UInt8)
  /-- So many bytes that begin no character, and what follows them. -/
  | invalid (length : Nat) (rest : List UInt8)
  /-- The start of a character that is cut off. -/
  | incomplete

/-- Whether a byte continues a character. -/
def isContinuation (b : UInt8) : Bool := 0x80 ≤ b && b ≤ 0xBF

/-- Whether a second byte may follow the first byte of a character of three bytes. -/
def secondOfThree (first second : UInt8) : Bool :=
  if first = 0xE0 then 0xA0 ≤ second && second ≤ 0xBF
  else if first = 0xED then 0x80 ≤ second && second ≤ 0x9F
  else isContinuation second

/-- Whether a second byte may follow the first byte of a character of four bytes. -/
def secondOfFour (first second : UInt8) : Bool :=
  if first = 0xF0 then 0x90 ≤ second && second ≤ 0xBF
  else if first = 0xF4 then 0x80 ≤ second && second ≤ 0x8F
  else isContinuation second

/-- The payload of a continuation byte. -/
def payload (b : UInt8) : Nat := b.toNat % 64

/-- Reads after the first byte of a character of two bytes. -/
def nextOfTwo (first : UInt8) (rest : List UInt8) : Step :=
  match rest with
  | [] => .incomplete
  | b :: rest' =>
    if isContinuation b then .char (Char.ofNat (first.toNat % 32 * 64 + payload b)) rest' else .invalid 1 rest

/-- Reads after the first byte of a character of three bytes. -/
def nextOfThree (first : UInt8) (rest : List UInt8) : Step :=
  match rest with
  | [] => .incomplete
  | b :: rest' =>
    if secondOfThree first b then
      match rest' with
      | [] => .incomplete
      | c :: rest'' =>
        if isContinuation c then
          .char (Char.ofNat (first.toNat % 16 * 4096 + payload b * 64 + payload c)) rest''
        else .invalid 2 rest'
    else .invalid 1 rest

/-- Reads after the first byte of a character of four bytes. -/
def nextOfFour (first : UInt8) (rest : List UInt8) : Step :=
  match rest with
  | [] => .incomplete
  | b :: rest' =>
    if secondOfFour first b then
      match rest' with
      | [] => .incomplete
      | c :: rest'' =>
        if isContinuation c then
          match rest'' with
          | [] => .incomplete
          | d :: rest''' =>
            if isContinuation d then
              .char (Char.ofNat (first.toNat % 8 * 262144 + payload b * 4096 + payload c * 64 + payload d)) rest'''
            else .invalid 3 rest''
        else .invalid 2 rest'
    else .invalid 1 rest

/-- Reads the first character of bytes. -/
def next : List UInt8 → Step
  | [] => .finished
  | b :: rest =>
    if b < 0x80 then .char (Char.ofNat b.toNat) rest
    else if b < 0xC2 then .invalid 1 rest
    else if b < 0xE0 then nextOfTwo b rest
    else if b < 0xF0 then nextOfThree b rest
    else if b < 0xF5 then nextOfFour b rest
    else .invalid 1 rest

/-- Decodes bytes from an index on, within `fuel` characters. -/
def decodeFrom (bytes : List UInt8) (index : Nat) : Nat → Except Utf8Error (List Char)
  | 0 => .ok []
  | fuel + 1 =>
    match next bytes with
    | .finished => .ok []
    | .char c rest => (decodeFrom rest (index + (bytes.length - rest.length)) fuel).map (c :: ·)
    | .invalid length _ => .error (.invalid length index)
    | .incomplete => .error (.incomplete index)

/-- The text of bytes, or the first place where they are not UTF-8. -/
def decode (bytes : List UInt8) : Except Utf8Error String :=
  (decodeFrom bytes 0 bytes.length).map String.ofList

/-- The replacement character. -/
def replacement : Char := Char.ofNat 0xFFFD

/-- Decodes bytes with replacements, within `fuel` characters. -/
def decodeLossyWithin (bytes : List UInt8) : Nat → List Char
  | 0 => []
  | fuel + 1 =>
    match next bytes with
    | .finished => []
    | .char c rest => c :: decodeLossyWithin rest fuel
    | .invalid _ rest => replacement :: decodeLossyWithin rest fuel
    | .incomplete => [replacement]

/-- The text of bytes with a replacement character for each run that begins no character. -/
def decodeLossy (bytes : List UInt8) : String := String.ofList (decodeLossyWithin bytes bytes.length)

end Utf8

end JsonSchema
