import JsonSchema.Keyword.Assertion
import JsonSchema.Url

/-! # Rules

A rule is a keyword of a schema object in compiled form. Sub-schemas are given as node numbers of
the document that the rule belongs to. Keywords that only identify a schema leave no rule.
-/

namespace JsonSchema

/-- A compiled keyword. -/
inductive Rule where
  /-- The instance must satisfy the schema at a URL. -/
  | ref (target : Url)
  /-- As `ref`, but a plain name may resolve to a schema further out. -/
  | dynamicRef (target : Url) (anchor : Option String)
  | combination (kind : Combination) (schemas : List Nat)
  | not (schema : Nat)
  /-- The condition of the branches. -/
  | condition (schema : Nat)
  /-- The branch for a condition of the given truth. -/
  | branch (truth : Bool) (schema : Nat)
  | dependentSchemas (schemas : List (String × Nat))
  | prefixItems (schemas : List Nat)
  | items (schema : Nat)
  | contains (schema : Nat)
  | properties (schemas : List (String × Nat))
  | patternProperties (schemas : List (Pattern × Nat))
  | additionalProperties (schema : Nat)
  | propertyNames (schema : Nat)
  | assertion (assertion : Assertion)
  | description (kind : Description) (value : Json)
  | format (name : String) (asserted : Bool)
  | contentEncoding (name : String)
  | contentMediaType (name : String)
  | contentSchema (schema : Nat)
  /-- A keyword that the dialect does not know. -/
  | unknown (keyword : String) (value : Json)
  | unevaluatedItems (schema : Nat)
  | unevaluatedProperties (schema : Nat)
  | defs (schemas : List (String × Nat))
  | comment (text : String)

namespace Rule

/-- The standard keyword of a rule, unless its keyword is unknown. -/
def standard? : Rule → Option StandardKeyword
  | .ref _ => some .ref
  | .dynamicRef _ _ => some .dynamicRef
  | .combination kind _ => some (.combination kind)
  | .not _ => some .not
  | .condition _ => some .condition
  | .branch truth _ => some (if truth then .consequence else .alternative)
  | .dependentSchemas _ => some .dependentSchemas
  | .prefixItems _ => some .prefixItems
  | .items _ => some .items
  | .contains _ => some .contains
  | .properties _ => some .properties
  | .patternProperties _ => some .patternProperties
  | .additionalProperties _ => some .additionalProperties
  | .propertyNames _ => some .propertyNames
  | .assertion check => some check.keyword
  | .description kind _ => some (.description kind)
  | .format _ asserted => some (if asserted then .formatAssertion else .format)
  | .contentEncoding _ => some .contentEncoding
  | .contentMediaType _ => some .contentMediaType
  | .contentSchema _ => some .contentSchema
  | .unknown _ _ => none
  | .unevaluatedItems _ => some .unevaluatedItems
  | .unevaluatedProperties _ => some .unevaluatedProperties
  | .defs _ => some .defs
  | .comment _ => some .comment

/-- The name under which a rule reports. -/
def keyword (rule : Rule) : String :=
  match rule, rule.standard? with
  | .unknown name _, _ => name
  | _, some standard => standard.name
  | _, none => ""

/-- The category of a rule; an unknown keyword attaches its value. -/
def category (rule : Rule) : Category :=
  match rule.standard? with
  | some standard => standard.category
  | none => .annotating

/-- The sub-schemas of a rule, in order. -/
def subschemas : Rule → List Nat
  | .combination _ schemas => schemas
  | .prefixItems schemas => schemas
  | .not schema => [schema]
  | .condition schema => [schema]
  | .branch _ schema => [schema]
  | .items schema => [schema]
  | .contains schema => [schema]
  | .additionalProperties schema => [schema]
  | .propertyNames schema => [schema]
  | .contentSchema schema => [schema]
  | .unevaluatedItems schema => [schema]
  | .unevaluatedProperties schema => [schema]
  | .dependentSchemas schemas => schemas.map (·.2)
  | .properties schemas => schemas.map (·.2)
  | .patternProperties schemas => schemas.map (·.2)
  | .defs schemas => schemas.map (·.2)
  | _ => []

/-- Whether a rule applies no sub-schema, so that its result stands alone. -/
def isLeaf : Rule → Bool
  | .contentSchema _ => false
  | rule => !rule.category.appliesSubschemas

/-- Whether a rule takes part in an evaluation. -/
def isApplied (rule : Rule) : Bool := rule.category != .reserved

end Rule

end JsonSchema
