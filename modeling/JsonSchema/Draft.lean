import JsonSchema.Dialect

/-! # Draft 2020-12

The eight vocabularies of Draft 2020-12 and the dialect that they form. The vocabulary that always
asserts `format` is not part of the dialect.
-/

namespace JsonSchema.Draft

/-- A URL below the home of the draft. -/
def url (path : String) : Url :=
  ⟨"https", some ⟨"", "json-schema.org", none⟩, "/draft/2020-12/" ++ path, none, none⟩

/-- A vocabulary of the draft that holds standard keywords under their own names. -/
def vocabulary (name : String) (types : List InstanceType) (keywords : List StandardKeyword) : Vocabulary :=
  ⟨url ("vocab/" ++ name), url ("meta/" ++ name), types, keywords.map .standard⟩

/-- Identification of schemas, references and definitions. -/
def core : Vocabulary :=
  vocabulary "core" InstanceType.all
    [.id, .schema, .ref, .anchor, .dynamicRef, .dynamicAnchor, .vocabulary, .comment, .defs]

/-- Application of sub-schemas. -/
def applicator : Vocabulary :=
  vocabulary "applicator" InstanceType.all
    [.prefixItems, .items, .contains, .additionalProperties, .properties, .patternProperties,
     .dependentSchemas, .propertyNames, .condition, .consequence, .alternative, .combination .allOf,
     .combination .anyOf, .combination .oneOf, .not]

/-- Application to what nothing else evaluated. -/
def unevaluated : Vocabulary :=
  vocabulary "unevaluated" [.array, .object] [.unevaluatedItems, .unevaluatedProperties]

/-- Assertions about instances. -/
def validation : Vocabulary :=
  vocabulary "validation" InstanceType.all
    [.type, .const, .enum, .multipleOf, .limit .maximum, .limit .exclusiveMaximum, .limit .minimum,
     .limit .exclusiveMinimum, .count (.max .length), .count (.min .length), .pattern,
     .count (.max .items), .count (.min .items), .uniqueItems, .count (.max .matches),
     .count (.min .matches), .count (.max .properties), .count (.min .properties), .required,
     .dependentRequired]

/-- Descriptions of instances. -/
def metaData : Vocabulary :=
  vocabulary "meta-data" InstanceType.all
    [.description .title, .description .description, .description .default, .description .deprecated,
     .description .readOnly, .description .writeOnly, .description .examples]

/-- Formats as annotations. -/
def formatAnnotations : Vocabulary := vocabulary "format-annotation" [.string] [.format]

/-- Formats as assertions. -/
def formatAssertions : Vocabulary := vocabulary "format-assertion" [.string] [.formatAssertion]

/-- The content of strings. -/
def content : Vocabulary :=
  vocabulary "content" [.string] [.contentEncoding, .contentMediaType, .contentSchema]

/-- All vocabularies of the draft. -/
def vocabularies : List Vocabulary :=
  [core, applicator, unevaluated, validation, metaData, formatAnnotations, formatAssertions, content]

/-- The vocabulary of an id. -/
def vocabulary? (id : Url) : Option Vocabulary := vocabularies.find? (·.id == id)

/-- The id of the dialect and of the document that describes it. -/
def schemaId : Url := url "schema"

/-- The dialect of the draft. -/
def dialect : Dialect :=
  .ofVocabularies schemaId
    [(core, true), (applicator, true), (unevaluated, true), (validation, true), (metaData, true),
     (formatAnnotations, true), (content, true)] [] .draft

/-- The dialect of the draft under its id. -/
def dialect? (id : Url) : Option Dialect := if id.withoutFragment = schemaId then some dialect else none

theorem eq_of_dialect? {id : Url} {found : Dialect} (known : dialect? id = some found) : found = dialect := by
  unfold dialect? at known
  split at known
  · exact (Option.some.inj known).symm
  · exact nomatch known

end JsonSchema.Draft
