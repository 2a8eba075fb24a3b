import JsonSchema.Url.Percent

/-! # URLs

A URL is kept in its components, each in normal form, so that equal URLs are equal values and the
text is assembled from them. Schemas are identified by URLs without a fragment; the fragment of a
reference is decoded separately.
-/

namespace JsonSchema

/-- The part of a URL that names a host. -/
structure Url.Authority where
  /-- The user name, with a colon and the password if there is one; empty without a user. -/
  user : String
  host : String
  port : Option Nat
  deriving DecidableEq, Inhabited

/-- A URL in normal form. -/
structure Url where
  scheme : String
  authority : Option Url.Authority
  path : String
  query : Option String
  fragment : Option String
  deriving DecidableEq, Inhabited

namespace Url

/-- The text of an authority. -/
def Authority.text (a : Authority) : String :=
  (if a.user.isEmpty then "" else a.user ++ "@") ++ a.host ++
    (match a.port with | some port => ":" ++ toString port | none => "")

/-- What stands between the scheme and the path. -/
def authorityText (u : Url) : String :=
  match u.authority with
  | some a => "//" ++ a.text
  | none => if "//".isPrefixOf u.path then "/." else ""

/-- The text of a URL. -/
def text (u : Url) : String :=
  u.scheme ++ ":" ++ u.authorityText ++ u.path ++
    (match u.query with | some query => "?" ++ query | none => "") ++
    (match u.fragment with | some fragment => "#" ++ fragment | none => "")

/-- Whether no relative path can be resolved against the URL. -/
def cannotBeABase (u : Url) : Bool := u.authority.isNone && !"/".isPrefixOf u.path

/-- The URL without its fragment; an opaque path then loses its trailing spaces. -/
def withoutFragment (u : Url) : Url :=
  let path :=
    if u.cannotBeABase && u.query.isNone then
      String.ofList (u.path.toList.reverse.dropWhile (· == ' ')).reverse
    else u.path
  { u with path, fragment := none }

/-- Whether a character is dropped wherever it stands. -/
def isIgnored (c : Char) : Bool := c == '\t' || c == '\n' || c == '\r'

/-- The encoded form of a fragment. -/
def encodeFragment (cs : List Char) : String :=
  String.ofList (percentEncode inFragmentSet (cs.filter (!isIgnored ·)))

/-- The URL with a fragment of the given text. -/
def withFragment (u : Url) (fragment : String) : Url :=
  { u with fragment := some (encodeFragment fragment.toList) }

/-- The decoded fragment, empty when there is none. -/
def fragmentText (u : Url) : String :=
  match u.fragment with
  | some fragment => percentDecode fragment
  | none => ""

/-- The URL of a file, given the components of its absolute path. -/
def ofFile (components : List String) : Url :=
  let path := components.flatMap fun name => '/' :: percentEncode inFileNameSet name.toList
  ⟨"file", some ⟨"", "", none⟩, if path.isEmpty then "/" else String.ofList path, none, none⟩

end Url

end JsonSchema
