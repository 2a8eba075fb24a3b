import JsonSchema.Pointer

/-! # Network addresses

An IPv4 address is four decimal bytes without leading zeros. An IPv6 address is eight groups of up
to four hexadecimal digits; one run of zero groups may be left out, and the last two groups may be
written as an IPv4 address.
-/

namespace JsonSchema.Format

/-- The value of a hexadecimal digit. -/
def isHexDigit (c : Char) : Bool := c.isDigit || ('a' ≤ c && c ≤ 'f') || ('A' ≤ c && c ≤ 'F')

/-- Whether a text is a decimal byte without leading zeros. -/
def isDecimalByte (digits : List Char) : Bool :=
  match digits with
  | [] => false
  | '0' :: _ :: _ => false
  | _ => digits.length ≤ 3 && digits.all Char.isDigit &&
      digits.foldl (fun n c => n * 10 + (c.toNat - 48)) 0 ≤ 255

/-- Whether characters are an IPv4 address. -/
def isIpv4Chars (text : List Char) : Bool :=
  let pieces := splitList '.' text
  pieces.length == 4 && pieces.all isDecimalByte

/-- Whether a text is an IPv4 address. -/
def isIpv4 (text : String) : Bool := isIpv4Chars text.toList

/-- Whether a text is a group of an IPv6 address. -/
def isIpv6Group (group : List Char) : Bool := 1 ≤ group.length && group.length ≤ 4 && group.all isHexDigit

/-- The number of groups that pieces between colons stand for; an IPv4 address at the end counts two. -/
def groupCount? (pieces : List (List Char)) : Option Nat :=
  match pieces.reverse with
  | [] => some 0
  | last :: front =>
    if !front.all isIpv6Group then none
    else if isIpv6Group last then some pieces.length
    else if isIpv4Chars last then some (pieces.length + 1)
    else none

/-- The pieces between colons; no text has none. -/
def groupsOf (text : List Char) : List (List Char) := if text.isEmpty then [] else splitList ':' text

/-- Cuts a text at its first two colons in a row. -/
def splitAtGap : List Char → Option (List Char × List Char)
  | ':' :: ':' :: rest => some ([], rest)
  | c :: rest => (splitAtGap rest).map fun (front, back) => (c :: front, back)
  | [] => none

/-- Whether a text is an IPv6 address. -/
def isIpv6 (text : String) : Bool :=
  match splitAtGap text.toList with
  | none => groupCount? (groupsOf text.toList) == some 8
  | some (front, back) =>
    match groupCount? (groupsOf front), groupCount? (groupsOf back) with
    | some m, some n => m + n ≤ 7 && (groupsOf front).all isIpv6Group
    | _, _ => false

end JsonSchema.Format
