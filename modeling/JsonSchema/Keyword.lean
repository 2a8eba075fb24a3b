/-! # Keywords

A keyword is the name of a schema member. The standard keywords form the closed enumeration
`StandardKeyword`; a dialect may give the meaning of one of them to a name of its own. The category
of a keyword says what it does to an instance and where it stands among the other keywords of its
schema object: keywords are applied in ascending order.
-/

namespace JsonSchema

/-- What a keyword does. -/
inductive Category where
  /-- Names a schema or selects its dialect; acts only while the schema is compiled. -/
  | identifier
  /-- Applies the schema that a URL refers to. -/
  | reference
  /-- Applies sub-schemas to the instance and combines their verdicts. -/
  | composite
  /-- Applies sub-schemas to the instance or to parts of it. -/
  | applicator
  /-- Checks the instance alone. -/
  | assertion
  /-- Attaches a value to the instance. -/
  | annotating
  /-- Applies a sub-schema to what no other keyword evaluated. -/
  | unevaluated
  /-- Holds schemas or text for other uses; never applied. -/
  | reserved
  deriving DecidableEq

namespace Category

/-- All categories. -/
def all : List Category :=
  [.identifier, .reference, .composite, .applicator, .assertion, .annotating, .unevaluated, .reserved]

/-- The name of a category. -/
def name : Category → String
  | .identifier => "identifier"
  | .reference => "reference"
  | .composite => "composite"
  | .applicator => "applicator"
  | .assertion => "assertion"
  | .annotating => "annotation"
  | .unevaluated => "unevaluated"
  | .reserved => "reserved"

/-- The category of a name. -/
def ofName? (text : String) : Option Category := all.find? (·.name == text)

/-- The place in the order of application that keywords of a category have by default. -/
def order : Category → Int
  | .identifier => -1000
  | .reference => -600
  | .composite => -500
  | .applicator => -400
  | .assertion => 0
  | .annotating => 0
  | .reserved => 0
  | .unevaluated => 1000

/-- Whether keywords of a category apply sub-schemas. -/
def appliesSubschemas : Category → Bool
  | .reference => true
  | .composite => true
  | .applicator => true
  | .unevaluated => true
  | _ => false

theorem ofName?_name (category : Category) : ofName? category.name = some category := by
  cases category <;> rfl

end Category

/-- How the verdicts of several sub-schemas combine. -/
inductive Combination where
  | allOf
  | anyOf
  | oneOf
  deriving DecidableEq

/-- The keyword of a combination. -/
def Combination.name : Combination → String
  | .allOf => "allOf"
  | .anyOf => "anyOf"
  | .oneOf => "oneOf"

/-- A range limit on numbers. -/
inductive Limit where
  | minimum
  | exclusiveMinimum
  | maximum
  | exclusiveMaximum
  deriving DecidableEq

/-- The keyword of a limit. -/
def Limit.name : Limit → String
  | .minimum => "minimum"
  | .exclusiveMinimum => "exclusiveMinimum"
  | .maximum => "maximum"
  | .exclusiveMaximum => "exclusiveMaximum"

/-- Something that is counted in an instance. -/
inductive Measure where
  /-- The characters of a string. -/
  | length
  /-- The items of an array. -/
  | items
  /-- The items of an array that `contains` matched. -/
  | matches
  /-- The members of an object. -/
  | properties
  deriving DecidableEq

/-- A bound on a count. -/
inductive CountBound where
  | max (measure : Measure)
  | min (measure : Measure)
  deriving DecidableEq

/-- The keyword of a bound on a count. -/
def CountBound.name : CountBound → String
  | .max .length => "maxLength"
  | .max .items => "maxItems"
  | .max .matches => "maxContains"
  | .max .properties => "maxProperties"
  | .min .length => "minLength"
  | .min .items => "minItems"
  | .min .matches => "minContains"
  | .min .properties => "minProperties"

/-- A keyword whose value describes the instance. -/
inductive Description where
  | title
  | description
  | default
  | deprecated
  | readOnly
  | writeOnly
  | examples
  deriving DecidableEq

/-- The keyword of a description. -/
def Description.name : Description → String
  | .title => "title"
  | .description => "description"
  | .default => "default"
  | .deprecated => "deprecated"
  | .readOnly => "readOnly"
  | .writeOnly => "writeOnly"
  | .examples => "examples"

/-- The keywords of Draft 2020-12; `format` has a second meaning that always asserts. -/
inductive StandardKeyword where
  | id
  | schema
  | ref
  | anchor
  | dynamicRef
  | dynamicAnchor
  | vocabulary
  | comment
  | defs
  | prefixItems
  | items
  | contains
  | additionalProperties
  | properties
  | patternProperties
  | dependentSchemas
  | propertyNames
  | condition
  | consequence
  | alternative
  | combination (kind : Combination)
  | not
  | unevaluatedItems
  | unevaluatedProperties
  | type
  | const
  | enum
  | multipleOf
  | limit (kind : Limit)
  | count (bound : CountBound)
  | pattern
  | uniqueItems
  | required
  | dependentRequired
  | description (kind : Description)
  | format
  | formatAssertion
  | contentEncoding
  | contentMediaType
  | contentSchema
  deriving DecidableEq

namespace StandardKeyword

/-- The standard name of a keyword. -/
def name : StandardKeyword → String
  | .id => "$id"
  | .schema => "$schema"
  | .ref => "$ref"
  | .anchor => "$anchor"
  | .dynamicRef => "$dynamicRef"
  | .dynamicAnchor => "$dynamicAnchor"
  | .vocabulary => "$vocabulary"
  | .comment => "$comment"
  | .defs => "$defs"
  | .prefixItems => "prefixItems"
  | .items => "items"
  | .contains => "contains"
  | .additionalProperties => "additionalProperties"
  | .properties => "properties"
  | .patternProperties => "patternProperties"
  | .dependentSchemas => "dependentSchemas"
  | .propertyNames => "propertyNames"
  | .condition => "if"
  | .consequence => "then"
  | .alternative => "else"
  | .combination kind => kind.name
  | .not => "not"
  | .unevaluatedItems => "unevaluatedItems"
  | .unevaluatedProperties => "unevaluatedProperties"
  | .type => "type"
  | .const => "const"
  | .enum => "enum"
  | .multipleOf => "multipleOf"
  | .limit kind => kind.name
  | .count bound => bound.name
  | .pattern => "pattern"
  | .uniqueItems => "uniqueItems"
  | .required => "required"
  | .dependentRequired => "dependentRequired"
  | .description kind => kind.name
  | .format => "format"
  | .formatAssertion => "format"
  | .contentEncoding => "contentEncoding"
  | .contentMediaType => "contentMediaType"
  | .contentSchema => "contentSchema"

/-- The category of a keyword. -/
def category : StandardKeyword → Category
  | .id | .schema | .anchor | .dynamicAnchor | .vocabulary => .identifier
  | .ref | .dynamicRef => .reference
  | .comment | .defs => .reserved
  | .combination _ => .composite
  | .prefixItems | .items | .contains => .applicator
  | .additionalProperties | .properties | .patternProperties => .applicator
  | .dependentSchemas | .propertyNames => .applicator
  | .condition | .consequence | .alternative | .not => .applicator
  | .unevaluatedItems | .unevaluatedProperties => .unevaluated
  | .type | .const | .enum | .multipleOf | .limit _ | .count _ | .pattern | .uniqueItems => .assertion
  | .required | .dependentRequired => .assertion
  | .description _ | .format | .formatAssertion => .annotating
  | .contentEncoding | .contentMediaType | .contentSchema => .annotating

/-- The keywords that must have been applied before a keyword, if they are present. -/
def dependencies : StandardKeyword → List String
  | .items => ["prefixItems"]
  | .additionalProperties => ["properties", "patternProperties"]
  | .consequence => ["if"]
  | .alternative => ["if"]
  | .unevaluatedItems => ["prefixItems", "items", "contains"]
  | .unevaluatedProperties => ["properties", "patternProperties", "additionalProperties"]
  | .count (.max .matches) => ["contains"]
  | .count (.min .matches) => ["contains"]
  | .contentMediaType => ["contentEncoding"]
  | .contentSchema => ["contentMediaType"]
  | _ => []

end StandardKeyword

end JsonSchema
