import JsonSchema.Json.Comparison
import JsonSchema.Format.Address
import JsonSchema.Format.Calendar
import JsonSchema.Pattern
import JsonSchema.Url.Resolution

/-! # Formats

A format checks values under a name. The built-in formats constrain strings only. A registry holds
one check for each name, in the order of names, and a later registration of a name replaces the
earlier one.
-/

namespace JsonSchema

namespace Format

/-- Whether a character is a letter or a digit of ASCII. -/
def isLabelEnd (c : Char) : Bool := c.isAlphanum

/-- Whether characters are a label of a host name. -/
def isLabel (label : List Char) : Bool :=
  1 ≤ label.length && label.length ≤ 63 && label.all (fun c => isLabelEnd c || c == '-') &&
    label.head?.all isLabelEnd && label.getLast?.all isLabelEnd

/-- Whether a text is a host name; it may end with a dot. -/
def isHostname (text : String) : Bool :=
  let chars := text.toList
  let chars := if chars.getLast? = some '.' then chars.dropLast else chars
  !chars.isEmpty && chars.length ≤ 253 && (splitList '.' chars).all isLabel

/-- Whether a text holds two dots in a row. -/
def hasDoubleDot : List Char → Bool
  | '.' :: '.' :: _ => true
  | _ :: rest => hasDoubleDot rest
  | [] => false

/-- Whether characters may stand before the at-sign of an address. -/
def isLocalPart (name : List Char) : Bool :=
  !name.isEmpty && name.head? != some '.' && name.getLast? != some '.' && !hasDoubleDot name &&
    !name.any fun c => Unicode.isWhiteSpace c.toNat

/-- Whether characters may stand after the at-sign of an address: a host name, or an address in brackets. -/
def isMailDomain (domain : List Char) : Bool :=
  match domain with
  | '[' :: rest =>
    if rest.getLast? = some ']' then
      let literal := rest.dropLast
      if "IPv6:".toList.isPrefixOf literal then isIpv6 (String.ofList (literal.drop 5))
      else isIpv4Chars literal
    else isHostname (String.ofList domain)
  | _ => isHostname (String.ofList domain)

/-- Whether a text is a mail address. -/
def isEmail (text : String) : Bool :=
  let chars := text.toList
  let domain := (chars.reverse.takeWhile (· != '@')).reverse
  chars.contains '@' && isLocalPart (chars.take (chars.length - domain.length - 1)) && isMailDomain domain

/-- Whether a text holds a backslash or a space. -/
def hasBackslashOrSpace (text : String) : Bool := text.toList.any fun c => c == '\\' || c == ' '

/-- Whether a text is an absolute URL. -/
def isUri (text : String) : Bool :=
  !hasBackslashOrSpace text && match Url.parse text with | .ok _ => true | .error _ => false

/-- The base against which references are tried. -/
def referenceBase : Url := ⟨"http", some ⟨"", "reference.invalid", none⟩, "/", none, none⟩

/-- Whether a text is a URL or can be resolved against one. -/
def isUriReference (text : String) : Bool :=
  !hasBackslashOrSpace text && match referenceBase.join text with | .ok _ => true | .error _ => false

/-- Whether a text is a universally unique identifier. -/
def isUuid (text : String) : Bool :=
  let pieces := splitList '-' text.toList
  pieces.map List.length == [8, 4, 4, 4, 12] && pieces.all (·.all isHexDigit)

/-- Whether a text is a regular expression. -/
def isRegex (text : String) : Bool := (Pattern.ofSource? text).isSome

/-- Whether a text is a JSON Pointer. -/
def isJsonPointer (text : String) : Bool :=
  match Pointer.parse text with | .ok _ => true | .error _ => false

/-- A check of strings as a check of values; every other value conforms. -/
def onStrings (check : String → Bool) : Json → Bool
  | .string text => check text
  | _ => true

end Format

/-- Checks of values by name, in the order of names. -/
structure Formats where
  entries : List (String × (Json → Bool))
  deriving Inhabited

namespace Formats

/-- The registry without formats. -/
def empty : Formats := ⟨[]⟩

/-- The registry with a check under a name. -/
def register (formats : Formats) (name : String) (check : Json → Bool) : Formats :=
  ⟨Json.insertMember name check formats.entries⟩

/-- The check under a name. -/
def find? (formats : Formats) (name : String) : Option (Json → Bool) := assoc? name formats.entries

/-- The names in order. -/
def names (formats : Formats) : List String := formats.entries.map (·.1)

/-- The built-in formats. -/
def standard : Formats :=
  let checks : List (String × (String → Bool)) :=
    [("date-time", Format.isDateTime), ("date", Format.isDate), ("time", Format.isTime),
     ("email", Format.isEmail), ("hostname", Format.isHostname), ("ipv4", Format.isIpv4),
     ("ipv6", Format.isIpv6), ("uri", Format.isUri), ("uri-reference", Format.isUriReference),
     ("uuid", Format.isUuid), ("regex", Format.isRegex), ("json-pointer", Format.isJsonPointer)]
  checks.foldl (fun formats (name, check) => formats.register name (Format.onStrings check)) empty

theorem find?_register_self (formats : Formats) (name : String) (check : Json → Bool) :
    (formats.register name check).find? name = some check :=
  Json.assoc?_insertMember_self name check formats.entries

end Formats

end JsonSchema
