import JsonSchema.Pointer
import JsonSchema.Url

/-! # Compile errors

Why a value is no schema, with the location of the fault in the document.
-/

namespace JsonSchema

/-- A fault of a schema document. -/
inductive CompileError where
  | invalidType (location : Pointer) (expected : String)
  | invalidValue (location : Pointer) (message : String)
  | unknownKeyword (location : Pointer) (keyword : String)
  | invalidSchemaId (location : Pointer) (id message : String)
  | duplicateId (location : Pointer) (id : Url)
  | invalidAnchor (location : Pointer) (anchor : String)
  | unknownDialect (location : Pointer) (id : String)
  | unknownVocabulary (location : Pointer) (id : Url)
  | invalidPattern (location : Pointer) (pattern : String)
  deriving DecidableEq

namespace CompileError

/-- The location of a fault. -/
def location : CompileError → Pointer
  | .invalidType location _ => location
  | .invalidValue location _ => location
  | .unknownKeyword location _ => location
  | .invalidSchemaId location _ _ => location
  | .duplicateId location _ => location
  | .invalidAnchor location _ => location
  | .unknownDialect location _ => location
  | .unknownVocabulary location _ => location
  | .invalidPattern location _ => location

/-- The wording of a fault. -/
def message (error : CompileError) : String :=
  let at_ := " at '" ++ error.location.text ++ "'"
  match error with
  | .invalidType _ expected => "Invalid type" ++ at_ ++ ": expected " ++ expected
  | .invalidValue _ message => "Invalid value" ++ at_ ++ ": " ++ message
  | .unknownKeyword _ keyword => "Unknown keyword '" ++ keyword ++ "'" ++ at_
  | .invalidSchemaId _ id message => "Invalid schema id '" ++ id ++ "'" ++ at_ ++ ": " ++ message
  | .duplicateId _ id => "Duplicate schema id '" ++ id.text ++ "'" ++ at_
  | .invalidAnchor _ anchor => "Invalid anchor '" ++ anchor ++ "'" ++ at_
  | .unknownDialect _ id => "Unknown meta-schema '" ++ id ++ "'" ++ at_
  | .unknownVocabulary _ id => "Unknown required vocabulary '" ++ id.text ++ "'" ++ at_
  | .invalidPattern _ pattern => "Invalid regular expression '" ++ pattern ++ "'" ++ at_

end CompileError

end JsonSchema
