import JsonSchema.Json.Printer
import JsonSchema.Json.Reader
import JsonSchema.Text.Base64
import JsonSchema.Text.Utf8

/-! # Content of strings

A string may hold encoded bytes, and bytes may hold a document of some media type. Encodings and
media types are looked up by name; the standard ones are Base64 and JSON.
-/

namespace JsonSchema

/-- Why the content of a string cannot be read. -/
inductive ContentError where
  | encoding (message : String)
  | utf8 (cause : Utf8Error)
  | json (cause : JsonError)
  deriving DecidableEq

/-- The wording of a content error. -/
def ContentError.message : ContentError → String
  | .encoding message => "Invalid encoded content: " ++ message
  | .utf8 cause => "Content is not valid UTF-8: " ++ cause.message
  | .json cause => "Invalid JSON content: " ++ cause.message

/-- Reads the bytes that a text encodes. -/
abbrev ContentEncoding := String → Except ContentError (List UInt8)

/-- Reads the value that bytes hold. -/
abbrev MediaType := List UInt8 → Except ContentError Json

namespace Content

/-- Base64 with padding. -/
def base64 : ContentEncoding := fun text =>
  (Base64.decode (Utf8.bytes text)).mapError fun cause => .encoding cause.message

/-- The bytes of the text itself. -/
def identity : ContentEncoding := fun text => .ok (Utf8.bytes text)

/-- The text of bytes. -/
def text (bytes : List UInt8) : Except ContentError String := (Utf8.decode bytes).mapError .utf8

/-- A JSON document. -/
def json : MediaType := fun bytes => do (Json.read (← text bytes)).mapError .json

/-- A plain text, as a string. -/
def plainText : MediaType := fun bytes => (text bytes).map .string

end Content

/-- Encodings and media types by name, in the order of names. -/
structure ContentTypes where
  encodings : List (String × ContentEncoding)
  mediaTypes : List (String × MediaType)
  deriving Inhabited

namespace ContentTypes

/-- No encoding and no media type. -/
def empty : ContentTypes := ⟨[], []⟩

/-- Base64 and JSON. -/
def standard : ContentTypes := ⟨[("base64", Content.base64)], [("application/json", Content.json)]⟩

/-- The types with one more encoding. -/
def addEncoding (types : ContentTypes) (name : String) (encoding : ContentEncoding) : ContentTypes :=
  { types with encodings := Json.insertMember name encoding types.encodings }

/-- The types with one more media type. -/
def addMediaType (types : ContentTypes) (name : String) (mediaType : MediaType) : ContentTypes :=
  { types with mediaTypes := Json.insertMember name mediaType types.mediaTypes }

/-- The encoding of a name. -/
def encoding? (types : ContentTypes) (name : String) : Option ContentEncoding := assoc? name types.encodings

/-- The media type of a name. -/
def mediaType? (types : ContentTypes) (name : String) : Option MediaType := assoc? name types.mediaTypes

end ContentTypes

end JsonSchema
