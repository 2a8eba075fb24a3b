import JsonSchema.Compile.Site
import JsonSchema.Url.Resolution

/-! # Compilation of keywords

Each standard keyword demands a certain form of its value and turns it into a rule, or, if it
identifies a schema, changes the site. Sub-schemas are compiled through the function `sub`, which
takes the site and the value of a sub-schema and yields its node number.
-/

namespace JsonSchema

/-- Whether a text is the name of an anchor. -/
def isAnchorName (text : String) : Bool :=
  match text.toList with
  | [] => false
  | c :: rest =>
    (c.isAlpha || c == '_') && rest.all fun c => c.isAlphanum || c == '-' || c == '.' || c == '_'

namespace KeywordSite

/-! ## Forms of values -/

/-- A string. -/
def string (place : KeywordSite) : Json → Except CompileError String
  | .string text => .ok text
  | _ => place.invalidType "string"

/-- A truth value. -/
def boolean (place : KeywordSite) : Json → Except CompileError Bool
  | .bool value => .ok value
  | _ => place.invalidType "boolean"

/-- A number. -/
def number (place : KeywordSite) : Json → Except CompileError Number
  | .number n => .ok n
  | _ => place.invalidType "number"

/-- An array. -/
def array (place : KeywordSite) : Json → Except CompileError (List Json)
  | .array items => .ok items
  | _ => place.invalidType "array"

/-- An object. -/
def object (place : KeywordSite) : Json → Except CompileError (List (String × Json))
  | .object members => .ok members
  | _ => place.invalidType "object"

/-- A count. -/
def count (place : KeywordSite) : Json → Except CompileError Nat
  | .number n =>
    match n.count? with
    | some count => .ok count
    | none => place.invalidValue "must be a non-negative integer"
  | _ => place.invalidType "integer"

/-- The strings of an array, given those before, each of them once. -/
def distinctStrings (place : KeywordSite) : List String → List Json → Except CompileError (List String)
  | before, [] => .ok before
  | before, .string text :: rest =>
    if before.contains text then place.invalidValue ("duplicate entry " ++ quoted text)
    else distinctStrings place (before ++ [text]) rest
  | _, _ :: _ => place.invalidType "array of strings"

/-- An array of strings, each of them once. -/
def names (place : KeywordSite) (value : Json) : Except CompileError (List String) := do
  distinctStrings place [] (← place.array value)

/-- The name of a type. -/
def typeName (place : KeywordSite) (value : Json) : Except CompileError InstanceType := do
  let name ← place.string value
  match InstanceType.ofName? name with
  | some type => .ok type
  | none => place.invalidValue ("unknown type " ++ quoted name)

/-- The types named by an array, given those before, each of them once. -/
def distinctTypes (place : KeywordSite) : List InstanceType → List Json → Except CompileError (List InstanceType)
  | before, [] => .ok before
  | before, value :: rest => do
    let type ← place.typeName value
    if before.contains type then place.invalidValue ("duplicate type " ++ quoted type.name)
    else distinctTypes place (before ++ [type]) rest

/-- The name of a type, or an array of such names. -/
def types (place : KeywordSite) : Json → Except CompileError (List InstanceType)
  | .string name => do return [← place.typeName (.string name)]
  | .array [] => place.invalidValue "must list at least one type"
  | .array values => place.distinctTypes [] values
  | _ => place.invalidType "string or array"

/-- A divisor. -/
def divisor (place : KeywordSite) (value : Json) : Except CompileError Number := do
  let n ← place.number value
  if n.toDouble.compare .zero = .gt then .ok n else place.invalidValue "must be greater than 0"

/-- A regular expression. -/
def pattern (place : KeywordSite) (source : String) : Except CompileError Pattern :=
  match Pattern.ofSource? source with
  | some pattern => .ok pattern
  | none => .error (.invalidPattern place.location source)

/-- A reference, resolved against the base. -/
def reference (place : KeywordSite) (value : Json) : Except CompileError Url := do
  let text ← place.string value
  match place.site.base.join text with
  | .ok url => .ok url
  | .error cause => place.invalidValue ("invalid reference " ++ quoted text ++ ": " ++ cause.message)

/-- The name of an anchor. -/
def anchor (place : KeywordSite) (value : Json) : Except CompileError String := do
  let name ← place.string value
  if isAnchorName name then .ok name else .error (.invalidAnchor place.location name)

/-- Vocabulary ids with whether they are required. -/
def vocabularies (place : KeywordSite) (value : Json) : Except CompileError (List (Url × Bool)) := do
  (← place.object value).mapM fun (id, required) => do
    match Url.parse id with
    | .ok url => return (url, ← place.boolean required)
    | .error cause =>
      place.invalidValue ("vocabulary id " ++ quoted id ++ " is not an absolute URI: " ++ cause.message)

/-- A description in the form that its keyword demands. -/
def description (place : KeywordSite) (kind : Description) (value : Json) : Except CompileError Rule := do
  match kind with
  | .title | .description => discard (place.string value)
  | .deprecated | .readOnly | .writeOnly => discard (place.boolean value)
  | .examples => discard (place.array value)
  | .default => pure ()
  return .description kind value

/-! ## Sub-schemas -/

/-- Compiles the sub-schema in the keyword's value at the path of some further tokens. -/
def subschemaAt (place : KeywordSite) (sub : Site → Json → Compile Nat) (tokens : List String) (value : Json) :
    Compile Nat :=
  sub (place.site.descend (place.keyword :: tokens)) value

/-- Compiles a sub-schema that is the keyword's value. -/
def subschema (place : KeywordSite) (sub : Site → Json → Compile Nat) (value : Json) : Compile Nat :=
  place.subschemaAt sub [] value

/-- Compiles an array of sub-schemas. -/
def subschemas (place : KeywordSite) (sub : Site → Json → Compile Nat) (value : Json) : Compile (List Nat) := do
  (← place.array value).zipIdx.mapM fun (item, index) => place.subschemaAt sub [toString index] item

/-- Compiles an array of at least one sub-schema. -/
def someSubschemas (place : KeywordSite) (sub : Site → Json → Compile Nat) (value : Json) : Compile (List Nat) :=
  match value with
  | .array [] => place.invalidValue "must be a non-empty array of schemas"
  | _ => place.subschemas sub value

/-- Compiles an object of sub-schemas whose member names stand for keys. -/
def subschemasBy {κ : Type} (place : KeywordSite) (sub : Site → Json → Compile Nat)
    (key : String → Except CompileError κ) (value : Json) : Compile (List (κ × Nat)) := do
  (← place.object value).mapM fun (name, member) => do
    let mapped ← key name
    return (mapped, ← place.subschemaAt sub [name] member)

/-! ## Identification -/

/-- The URL that a schema declares as its id. -/
def declaredId (place : KeywordSite) (value : Json) : Except CompileError Url := do
  let text ← place.string value
  match place.site.base.join text with
  | .ok url =>
    if url.fragment.any (!·.isEmpty) then
      .error (.invalidSchemaId place.location text "must not contain a non-empty fragment")
    else .ok url.withoutFragment
  | .error cause => .error (.invalidSchemaId place.location text cause.message)

/-- Takes an id, which must not be taken yet. -/
def takeId (place : KeywordSite) (id : Url) : Compile Unit := do
  let assembly ← get
  if assembly.taken.contains id then throw (.duplicateId place.location id)
  set { assembly with taken := id :: assembly.taken }

/-- Gives the document itself an id; it can be found by it if the document can be found at all. -/
def renameDocument (place : KeywordSite) (registered : Bool) (id : Url) : Compile Unit := do
  if (← get).resources[0]?.any (·.id != id) then
    place.takeId id
    modify fun assembly =>
      { assembly with
        ids := if registered then putEntry id 0 assembly.ids else assembly.ids
        resources := assembly.resources.modify 0 fun resource => { resource with id } }

/-- Starts a resource at the node of the site. -/
def startResource (place : KeywordSite) (id : Url) : Compile Site := do
  place.takeId id
  let site := place.site
  let index := (← get).resources.size
  modify fun assembly =>
    { assembly with
      ids := putEntry id index assembly.ids
      resources := assembly.resources.push
        { id, node := site.node, parent := some site.resource, dialect := site.dialect, anchors := []
          dynamicAnchors := [], locations := [] } }
  return { site with resource := index, paths := (index, .root) :: site.paths }

/-- Declares an id: that of the document at its root, and elsewhere that of a new resource. -/
def declareId (place : KeywordSite) (registered : Bool) (value : Json) : Compile Site := do
  let id ← place.declaredId value
  if place.site.node = 0 then
    place.renameDocument registered id
    return { place.site with base := id }
  else return { ← place.startResource id with base := id }

/-- Keeps the site and leaves a rule. -/
def leaves (place : KeywordSite) (rule : Rule) : Site × Option Rule := (place.site, some rule)

/-- Compiles a keyword of the given meaning; `registered` says whether the document can be found by id. -/
def compile (place : KeywordSite) (registered : Bool) (sub : Site → Json → Compile Nat)
    (meaning : StandardKeyword) (value : Json) : Compile (Site × Option Rule) := do
  match meaning with
  | .id => return (← place.declareId registered value, none)
  | .schema =>
    discard (place.string value)
    return (place.site, none)
  | .anchor => return ({ place.site with anchor := some (← place.anchor value) }, none)
  | .dynamicAnchor => return ({ place.site with dynamicAnchor := some (← place.anchor value) }, none)
  | .vocabulary => return ({ place.site with vocabularies := some (← place.vocabularies value) }, none)
  | .ref => return place.leaves (.ref (← place.reference value))
  | .dynamicRef =>
    let url ← place.reference value
    let name := url.fragmentText
    return place.leaves (.dynamicRef url (if isAnchorName name then some name else none))
  | .comment => return place.leaves (.comment (← place.string value))
  | .defs => return place.leaves (.defs (← place.subschemasBy sub .ok value))
  | .prefixItems => return place.leaves (.prefixItems (← place.someSubschemas sub value))
  | .items => return place.leaves (.items (← place.subschema sub value))
  | .contains => return place.leaves (.contains (← place.subschema sub value))
  | .additionalProperties => return place.leaves (.additionalProperties (← place.subschema sub value))
  | .properties => return place.leaves (.properties (← place.subschemasBy sub .ok value))
  | .patternProperties => return place.leaves (.patternProperties (← place.subschemasBy sub place.pattern value))
  | .dependentSchemas => return place.leaves (.dependentSchemas (← place.subschemasBy sub .ok value))
  | .propertyNames => return place.leaves (.propertyNames (← place.subschema sub value))
  | .condition => return place.leaves (.condition (← place.subschema sub value))
  | .consequence => return place.leaves (.branch true (← place.subschema sub value))
  | .alternative => return place.leaves (.branch false (← place.subschema sub value))
  | .combination kind => return place.leaves (.combination kind (← place.someSubschemas sub value))
  | .not => return place.leaves (.not (← place.subschema sub value))
  | .unevaluatedItems => return place.leaves (.unevaluatedItems (← place.subschema sub value))
  | .unevaluatedProperties => return place.leaves (.unevaluatedProperties (← place.subschema sub value))
  | .type => return place.leaves (.assertion (.type (← place.types value)))
  | .const => return place.leaves (.assertion (.const value))
  | .enum => return place.leaves (.assertion (.enum (← place.array value)))
  | .multipleOf => return place.leaves (.assertion (.multipleOf (← place.divisor value)))
  | .limit kind => return place.leaves (.assertion (.limit kind (← place.number value)))
  | .count bound => return place.leaves (.assertion (.count bound (← place.count value)))
  | .pattern => return place.leaves (.assertion (.pattern (← place.pattern (← place.string value))))
  | .uniqueItems => return place.leaves (.assertion (.uniqueItems (← place.boolean value)))
  | .required => return place.leaves (.assertion (.required (← place.names value)))
  | .dependentRequired =>
    let requirements ← (← place.object value).mapM fun (name, names) => do
      return (name, ← place.names names)
    return place.leaves (.assertion (.dependentRequired requirements))
  | .description kind => return place.leaves (← place.description kind value)
  | .format => return place.leaves (.format (← place.string value) false)
  | .formatAssertion => return place.leaves (.format (← place.string value) true)
  | .contentEncoding => return place.leaves (.contentEncoding (← place.string value))
  | .contentMediaType => return place.leaves (.contentMediaType (← place.string value))
  | .contentSchema => return place.leaves (.contentSchema (← place.subschema sub value))

end KeywordSite

end JsonSchema
