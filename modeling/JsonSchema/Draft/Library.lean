import JsonSchema.Compile
import JsonSchema.Draft.Documents

/-! # The library of Draft 2020-12

The documents of the draft in compiled form, by id.
-/

namespace JsonSchema.Draft

/-- The compiled form of a document, as retrieved from the id that it declares. -/
def compileDocument? (value : Json) : Option Schema := do
  let id ← (value.member? StandardKeyword.id.name).bind (·.string?)
  match Url.parse id with
  | .ok url => (Schema.compile .standard url value).toOption
  | .error _ => none

/-- The compiled documents of the draft. -/
def library : List (Url × Schema) :=
  (documents.filterMap compileDocument?).map fun schema => (schema.id, schema)

/-- The document of the draft with the id of a URL, whatever its fragment. -/
def locate : Locator := fun url => assoc? url.withoutFragment library

end JsonSchema.Draft

namespace JsonSchema

/-- Looks a schema up where the documents of a dialect are found. -/
def Home.locate : Home → Locator
  | .none => fun _ => Option.none
  | .draft => Draft.locate
  | .document schema => schema.locate

end JsonSchema
