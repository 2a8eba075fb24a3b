import JsonSchema.Text.Utf8

/-! # Percent-encoding

Each component of a URL encodes the bytes of the characters in its own set; characters outside
ASCII are in every set. Decoding scans bytes from left to right: a percent sign whose next two bytes
are a hexadecimal number becomes one byte, everything else is kept, and the result is read as
UTF-8 with replacements. A sign before a single digit also counts as such a number.
-/

namespace JsonSchema.Url

/-- Control characters and everything outside ASCII. -/
def isControl (c : Char) : Bool := c.toNat < 0x20 || 0x7F ≤ c.toNat

/-- The set of a fragment. -/
def inFragmentSet (c : Char) : Bool :=
  isControl c || c == ' ' || c == '"' || c == '<' || c == '>' || c.toNat == 0x60

/-- The set of a query. -/
def inQuerySet (c : Char) : Bool :=
  isControl c || c == ' ' || c == '"' || c == '#' || c == '<' || c == '>'

/-- The set of a query under a special scheme. -/
def inSpecialQuerySet (c : Char) : Bool := inQuerySet c || c == '\''

/-- The set of a path. -/
def inPathSet (c : Char) : Bool :=
  inFragmentSet c || c == '#' || c == '?' || c.toNat == 0x7B || c.toNat == 0x7D

/-- The set of a file name as a part of a path. -/
def inFileNameSet (c : Char) : Bool := inPathSet c || c == '/' || c == '%' || c == '\\'

/-- The set of a user name and a password. -/
def inUserSet (c : Char) : Bool :=
  inPathSet c || c == '/' || c == ':' || c == ';' || c == '=' || c == '@' || c == '[' || c == '\\' ||
    c == ']' || c == '^' || c == '|'

/-- An upper-case hexadecimal digit. -/
def upperHexDigit (n : Nat) : Char := (Nat.digitChar n).toUpper

/-- The escape of a byte. -/
def escapeByte (b : UInt8) : List Char :=
  ['%', upperHexDigit (b.toNat / 16), upperHexDigit (b.toNat % 16)]

/-- Encodes the characters of a set. -/
def percentEncode (inSet : Char → Bool) (cs : List Char) : List Char :=
  cs.flatMap fun c => if inSet c then (Utf8.encodeChar c).flatMap escapeByte else [c]

/-- The value of a hexadecimal digit byte. -/
def hexByte? (b : UInt8) : Option Nat :=
  let n := b.toNat
  if 48 ≤ n ∧ n ≤ 57 then some (n - 48)
  else if 65 ≤ n ∧ n ≤ 70 then some (n - 55)
  else if 97 ≤ n ∧ n ≤ 102 then some (n - 87)
  else none

/-- The number of two hexadecimal digits. -/
def digitPair? (high low : UInt8) : Option UInt8 :=
  match hexByte? high, hexByte? low with
  | some h, some l => some (UInt8.ofNat (h * 16 + l))
  | _, _ => none

/-- The number of two bytes: two hexadecimal digits, or a plus sign and one. -/
def signedPair? (high low : UInt8) : Option UInt8 :=
  if high = 43 then (hexByte? low).map UInt8.ofNat else digitPair? high low

/-- Replaces escapes by their bytes, as far as their two bytes are a number. -/
def decodeBytesBy (pair? : UInt8 → UInt8 → Option UInt8) : List UInt8 → List UInt8
  | [] => []
  | [b] => [b]
  | [b, c] => [b, c]
  | b :: high :: low :: rest =>
    if b = 37 then
      match pair? high low with
      | some decoded => decoded :: decodeBytesBy pair? rest
      | none => b :: decodeBytesBy pair? (high :: low :: rest)
    else b :: decodeBytesBy pair? (high :: low :: rest)

/-- Decodes a text. -/
def percentDecode (text : String) : String := Utf8.decodeLossy (decodeBytesBy signedPair? (Utf8.bytes text))

end JsonSchema.Url
