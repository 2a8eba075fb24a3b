import JsonSchema.InstanceType
import JsonSchema.Keyword
import JsonSchema.Url

/-! # Vocabularies

A vocabulary is a named list of keyword registrations. A registration gives a keyword the meaning of
a standard keyword and a place in the order of application.
-/

namespace JsonSchema

/-- The registration of a keyword. -/
structure KeywordSpec where
  keyword : String
  /-- The standard keyword that says what the keyword means. -/
  meaning : StandardKeyword
  category : Category
  /-- The place in the order of application; smaller comes first. -/
  order : Int
  /-- The keywords that are applied earlier when they are present. -/
  dependencies : List String
  deriving DecidableEq

namespace KeywordSpec

/-- The registration of a standard keyword under its own name. -/
def standard (meaning : StandardKeyword) : KeywordSpec :=
  ⟨meaning.name, meaning, meaning.category, meaning.category.order, meaning.dependencies⟩

end KeywordSpec

/-- A named list of keyword registrations. -/
structure Vocabulary where
  id : Url
  /-- The id of the document that describes the vocabulary. -/
  schemaId : Url
  /-- The types of instances that the keywords are about. -/
  types : List InstanceType
  keywords : List KeywordSpec
  deriving DecidableEq

end JsonSchema
