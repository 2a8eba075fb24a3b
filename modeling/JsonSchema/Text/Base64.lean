/-! # Base64

Decoding with the standard alphabet and required, canonical padding. Text is read in chunks of
eight symbols; padding may stand in the last chunk only. Of several faults the one that stops the
reading first is reported, with the byte and its offset.
-/

namespace JsonSchema

/-- Why a text is not canonical Base64. -/
inductive Base64Error where
  | invalidByte (offset : Nat) (byte : UInt8)
  | invalidLength
  | invalidLastSymbol (offset : Nat) (byte : UInt8)
  | invalidPadding
  deriving DecidableEq

/-- The wording of a decoding error. -/
def Base64Error.message : Base64Error → String
  | .invalidByte offset byte =>
    "Invalid byte " ++ toString byte.toNat ++ ", offset " ++ toString offset ++ "."
  | .invalidLength => "Encoded text cannot have a 6-bit remainder."
  | .invalidLastSymbol offset byte =>
    "Invalid last symbol " ++ toString byte.toNat ++ ", offset " ++ toString offset ++ "."
  | .invalidPadding => "Invalid padding"

namespace Base64

/-- The padding byte. -/
def padding : UInt8 := 61

/-- The six bits of a symbol. -/
def sextet? (b : UInt8) : Option Nat :=
  let n := b.toNat
  if 65 ≤ n ∧ n ≤ 90 then some (n - 65)
  else if 97 ≤ n ∧ n ≤ 122 then some (n - 97 + 26)
  else if 48 ≤ n ∧ n ≤ 57 then some (n - 48 + 52)
  else if n = 43 then some 62
  else if n = 47 then some 63
  else none

/-- The symbols of a chunk that may not hold padding. -/
def readChunk : Nat → List UInt8 → Except Base64Error (List Nat)
  | _, [] => .ok []
  | offset, b :: rest =>
    match sextet? b with
    | none => .error (.invalidByte offset b)
    | some sextet => (readChunk (offset + 1) rest).map (sextet :: ·)

/-- What has been read of the last chunk. -/
structure Suffix where
  /-- The symbols, last first. -/
  symbols : List (Nat × UInt8)
  /-- The offset of the first padding byte and the number of them. -/
  padded : Option (Nat × Nat)

/-- Reads the last chunk from a position within it on. -/
def readSuffix (start : Nat) (read : Suffix) : Nat → List UInt8 → Except Base64Error Suffix
  | _, [] => .ok read
  | position, b :: rest =>
    if b = padding then
      if position % 4 < 2 then
        .error (.invalidByte (match read.padded with | some (first, _) => first | none => start + position) b)
      else
        let padded := match read.padded with
          | some (first, count) => (first, count + 1)
          | none => (start + position, 1)
        readSuffix start { read with padded := some padded } (position + 1) rest
    else
      match read.padded with
      | some (first, _) => .error (.invalidByte first padding)
      | none =>
        match sextet? b with
        | none => .error (.invalidByte (start + position) b)
        | some sextet =>
          readSuffix start { read with symbols := (sextet, b) :: read.symbols } (position + 1) rest

/-- The bytes of symbols; bits that fill no byte are dropped. -/
def assemble : List Nat → List UInt8
  | a :: b :: c :: d :: rest =>
    UInt8.ofNat (a * 4 + b / 16) :: UInt8.ofNat (b % 16 * 16 + c / 4) :: UInt8.ofNat (c % 4 * 64 + d) ::
      assemble rest
  | [a, b, c] => [UInt8.ofNat (a * 4 + b / 16), UInt8.ofNat (b % 16 * 16 + c / 4)]
  | [a, b] => [UInt8.ofNat (a * 4 + b / 16)]
  | _ => []

/-- The bits of the last symbol that fill no byte. -/
def spareBits (count last : Nat) : Nat :=
  if count % 4 = 2 then last % 16 else if count % 4 = 3 then last % 4 else 0

/-- Checks padding and spare bits of the last chunk. -/
def finish (start : Nat) (read : Suffix) : Except Base64Error (List Nat) :=
  let count := read.symbols.length
  let padded := match read.padded with | some (_, n) => n | none => 0
  if (padded + count) % 4 ≠ 0 then .error .invalidPadding
  else
    match read.symbols with
    | [] => .ok []
    | (last, byte) :: _ =>
      if spareBits count last ≠ 0 then .error (.invalidLastSymbol (start + count - 1) byte)
      else .ok (read.symbols.map (·.1)).reverse

/-- The bytes that a text encodes. -/
def decode (text : List UInt8) : Except Base64Error (List UInt8) :=
  let remainder := text.length % 8
  if remainder = 1 ∨ remainder = 5 then
    match text.getLast? with
    | some b =>
      if b ≠ padding ∧ (sextet? b).isNone then .error (.invalidByte (text.length - 1) b)
      else .error .invalidLength
    | none => .error .invalidLength
  else
    let start := (text.length - 1) / 8 * 8
    do
      let front ← readChunk 0 (text.take start)
      let read ← readSuffix start ⟨[], none⟩ 0 (text.drop start)
      let back ← finish start read
      return assemble (front ++ back)

end Base64

end JsonSchema
