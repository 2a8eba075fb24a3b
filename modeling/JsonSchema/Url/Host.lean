import JsonSchema.Url.International
import JsonSchema.Url.Percent

/-! # Hosts

Under a special scheme a host is an IPv4 address, an IPv6 address in brackets or a domain name in
lower case; a name whose last label is a number must be an IPv4 address. Under any other scheme
it is an IPv6 address in brackets or any text without the characters that end or divide a host.
Addresses are kept in their shortest written form.
-/

namespace JsonSchema.Url

/-- Why a text is no URL. -/
inductive ParseError where
  | emptyHost
  | invalidDomainName
  | invalidPort
  | invalidIpv4Address
  | invalidIpv6Address
  | invalidDomainCharacter
  | relativeWithoutBase
  | relativeWithCannotBeABaseBase
  deriving DecidableEq, Repr

/-- The wording of a URL error. -/
def ParseError.message : ParseError → String
  | .emptyHost => "empty host"
  | .invalidDomainName => "invalid international domain name"
  | .invalidPort => "invalid port number"
  | .invalidIpv4Address => "invalid IPv4 address"
  | .invalidIpv6Address => "invalid IPv6 address"
  | .invalidDomainCharacter => "invalid domain character"
  | .relativeWithoutBase => "relative URL without a base"
  | .relativeWithCannotBeABaseBase => "relative URL with a cannot-be-a-base base"

/-! ## IPv4 addresses -/

/-- The value of a digit in a base. -/
def digitIn? (base : Nat) (c : Char) : Option Nat :=
  let value :=
    if '0' ≤ c ∧ c ≤ '9' then c.toNat - 48
    else if 'a' ≤ c ∧ c ≤ 'f' then c.toNat - 87
    else if 'A' ≤ c ∧ c ≤ 'F' then c.toNat - 55
    else base
  if value < base then some value else none

/-- The value of digits in a base. -/
def digitsIn? (base : Nat) (digits : List Char) : Option Nat :=
  digits.foldlM (fun n c => (digitIn? base c).map (n * base + ·)) 0

/-- A number of an IPv4 address: hexadecimal after `0x`, octal after `0`, else decimal. -/
def ipv4Number? : List Char → Option Nat
  | [] => none
  | '0' :: 'x' :: rest => digitsIn? 16 rest
  | '0' :: 'X' :: rest => digitsIn? 16 rest
  | '0' :: d :: rest => digitsIn? 8 (d :: rest)
  | digits => digitsIn? 10 digits

/-- The labels of a name without an empty last one. -/
def labels (name : List Char) : List (List Char) :=
  let pieces := splitList '.' name
  if pieces.getLast? = some [] then pieces.dropLast else pieces

/-- Whether the last label of a name is a number. -/
def endsInNumber (name : List Char) : Bool :=
  match (labels name).getLast? with
  | none => false
  | some last => !last.isEmpty && (last.all Char.isDigit || (ipv4Number? last).isSome)

/-- The address that up to four numbers stand for; the last one fills the remaining bytes. -/
def ipv4Value? (numbers : List Nat) : Option Nat :=
  match numbers.reverse with
  | [] => none
  | last :: front =>
    if 4 < numbers.length then none
    else if Nat.pow 256 (5 - numbers.length) ≤ last then none
    else if front.any (255 < ·) then none
    else some (front.reverse.zipIdx.foldl (fun sum (n, i) => sum + n * Nat.pow 256 (3 - i)) last)

/-- The four bytes of an address, divided by dots. -/
def ipv4Text (value : Nat) : List Char :=
  ['.'].intercalate ([value / 16777216, value / 65536 % 256, value / 256 % 256, value % 256].map (Nat.toDigits 10))

/-- The written form of the IPv4 address that a name stands for. -/
def parseIpv4 (name : List Char) : Except ParseError (List Char) :=
  match (labels name).mapM ipv4Number? with
  | none => .error .invalidIpv4Address
  | some numbers =>
    match ipv4Value? numbers with
    | none => .error .invalidIpv4Address
    | some value => .ok (ipv4Text value)

/-! ## IPv6 addresses -/

/-- The pieces read so far and where a run of zero pieces was left out. -/
structure Ipv6Pieces where
  pieces : List Nat
  gap : Option Nat

/-- How many of the eight pieces are taken, a gap taking at least one. -/
def Ipv6Pieces.taken (read : Ipv6Pieces) : Nat := read.pieces.length + (if read.gap.isSome then 1 else 0)

/-- Up to four hexadecimal digits, their value and what follows them. -/
def hexPiece : Nat → Nat → List Char → Nat × List Char
  | 0, value, rest => (value, rest)
  | _ + 1, value, [] => (value, [])
  | fuel + 1, value, c :: rest =>
    match digitIn? 16 c with
    | some d => hexPiece fuel (value * 16 + d) rest
    | none => (value, c :: rest)

/-- A decimal byte without leading zeros. -/
def decimalByte? (digits : List Char) : Option Nat :=
  match digits with
  | [] => none
  | '0' :: _ :: _ => none
  | _ => (digitsIn? 10 digits).filter (· ≤ 255)

/-- The two pieces of an IPv4 address at the end of an IPv6 address. -/
def embeddedIpv4? (text : List Char) : Option (List Nat) :=
  match (splitList '.' text).mapM decimalByte? with
  | some [a, b, c, d] => some [a * 256 + b, c * 256 + d]
  | _ => none

/-- Reads pieces up to the end; a text of `n` characters needs no more than `n` steps. -/
def ipv6Pieces? (read : Ipv6Pieces) (text : List Char) : Nat → Option Ipv6Pieces
  | 0 => if text.isEmpty then some read else none
  | fuel + 1 =>
    match text with
    | [] => some read
    | c :: rest =>
      if read.taken = 8 then none
      else if c = ':' then
        if read.gap.isSome then none
        else ipv6Pieces? { read with gap := some read.pieces.length } rest fuel
      else
        let (value, after) := hexPiece 4 0 text
        match after with
        | [] => some { read with pieces := read.pieces ++ [value] }
        | ':' :: [] => none
        | ':' :: more => ipv6Pieces? { read with pieces := read.pieces ++ [value] } more fuel
        | '.' :: _ =>
          if 6 < read.taken ∨ after.length = text.length then none
          else (embeddedIpv4? text).map fun two => { read with pieces := read.pieces ++ two }
        | _ => none

/-- The eight pieces of an IPv6 address. -/
def ipv6Value? (text : List Char) : Option (List Nat) :=
  let read := match text with
    | ':' :: ':' :: rest => ipv6Pieces? ⟨[], some 0⟩ rest rest.length
    | ':' :: _ => none
    | [] => none
    | [_] => none
    | _ => ipv6Pieces? ⟨[], none⟩ text text.length
  match read with
  | none => none
  | some ⟨pieces, none⟩ => if pieces.length = 8 then some pieces else none
  | some ⟨pieces, some gap⟩ =>
    if pieces.length < 8 then
      some (pieces.take gap ++ List.replicate (8 - pieces.length) 0 ++ pieces.drop gap)
    else none

/-- The length of the run of zeros at the start. -/
def zeroRun (pieces : List Nat) : Nat := (pieces.takeWhile (· == 0)).length

/-- The start of the first longest run of at least two zeros, and its length. -/
def longestZeroRun (pieces : List Nat) : Option (Nat × Nat) :=
  (List.range pieces.length).foldl (fun best start =>
    let length := zeroRun (pieces.drop start)
    match best with
    | some (_, most) => if most < length then some (start, length) else best
    | none => if 2 ≤ length then some (start, length) else none) none

/-- Pieces in hexadecimal, divided by colons. -/
def joinPieces (pieces : List Nat) : List Char := [':'].intercalate (pieces.map (Nat.toDigits 16))

/-- The shortest written form of an IPv6 address, in brackets. -/
def ipv6Text (pieces : List Nat) : List Char :=
  let body := match longestZeroRun pieces with
    | some (start, length) => joinPieces (pieces.take start) ++ [':', ':'] ++ joinPieces (pieces.drop (start + length))
    | none => joinPieces pieces
  '[' :: body ++ [']']

/-- The written form of an address in brackets. -/
def parseBracketed (rest : List Char) : Except ParseError (List Char) :=
  if rest.getLast? = some ']' then
    match ipv6Value? rest.dropLast with
    | some pieces => .ok (ipv6Text pieces)
    | none => .error .invalidIpv6Address
  else .error .invalidIpv6Address

/-! ## Names -/

/-- Whether a character may stand in no domain name. -/
def isForbiddenInDomain (c : Char) : Bool :=
  c.toNat ≤ 0x20 || c.toNat == 0x7F || "%#/:<>?@[\\]^|".toList.contains c

/-- Whether a character may stand in no host of a scheme that is not special. -/
def isForbiddenInHost (c : Char) : Bool :=
  c.toNat == 0 || "\t\n\r #/:<>?@[\\]^|".toList.contains c

/-- The characters of a host with its escapes decoded. -/
def decodeHost (host : List Char) : List Char :=
  (Utf8.decodeLossy (decodeBytesBy digitPair? (Utf8.encode host))).toList

/-- The form of a domain name in ASCII. -/
def domainName (name : List Char) : Except ParseError (List Char) :=
  match DomainName.ascii? name with
  | some ascii => if ascii.any isForbiddenInDomain then .error .invalidDomainName else .ok ascii
  | none => .error .invalidDomainName

/-- The host of a special scheme. -/
def parseHost (host : List Char) : Except ParseError (List Char) :=
  match host with
  | '[' :: rest => parseBracketed rest
  | _ => do
    let name ← domainName (decodeHost host)
    if name.isEmpty then .error .emptyHost
    else if endsInNumber name then parseIpv4 name
    else return name

/-- The host of a scheme that is not special. -/
def parseAnyHost (host : List Char) : Except ParseError (List Char) :=
  match host with
  | '[' :: rest => parseBracketed rest
  | _ => if host.any isForbiddenInHost then .error .invalidDomainCharacter else .ok (percentEncode isControl host)

end JsonSchema.Url
