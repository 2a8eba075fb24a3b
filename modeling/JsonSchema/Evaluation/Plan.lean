import JsonSchema.Options

/-! # Plans

What a rule does to an instance is its plan: the sub-schemas to be applied to certain values, in
order, and the outcome that follows from theirs. A plan depends on the outcomes of earlier rules of
the same schema object and on the values that were attached to the same instance.
-/

namespace JsonSchema

/-- A node of a document. -/
structure Target where
  document : Document
  node : Nat

/-- The application of a sub-schema to a value. -/
structure Application where
  target : Target
  value : Json
  /-- The step from the instance to the value, if the value is a part of it. -/
  step : Option String
  /-- The step from the keyword to the sub-schema, if the keyword holds several. -/
  token : Option String
  /-- Whether the values that the sub-schema attaches are dropped even if it is valid. -/
  isolated : Bool

namespace Application

/-- The application of a sub-schema to the instance itself. -/
def inPlace (target : Target) (value : Json) (token : Option String) : Application :=
  { target, value, step := none, token, isolated := false }

/-- The node that is applied. -/
def node (application : Application) : Node := application.target.document.node application.target.node

/-- Whether the values that a valid sub-schema attaches belong to the instance of the keyword. -/
def contributes (application : Application) : Bool := application.step.isNone && !application.isolated

end Application

/-- What a rule does to an instance. -/
structure Plan where
  applications : List Application
  /-- The outcome of the rule, given those of the applications in order. -/
  conclude : List Outcome → Outcome

namespace Plan

/-- The plan that applies nothing. -/
def done (outcome : Outcome) : Plan := ⟨[], fun _ => outcome⟩

/-- The plan that demands all applications to be valid, with the outcome if they are. -/
def all (applications : List Application) (success : Outcome) : Plan :=
  ⟨applications, fun outcomes => if outcomes.all (·.isValid) then success else .invalid none⟩

/-- The plan that takes over the outcome of one application. -/
def follow (application : Application) : Plan := ⟨[application], fun outcomes => outcomes.head?.getD .valid⟩

end Plan

/-- What a rule may look at beside the instance. -/
structure Facts where
  options : Options
  document : Document
  node : Node
  /-- The outcomes of the earlier rules of the schema object. -/
  siblings : List (String × Outcome)
  /-- The values attached to the instance so far, by keyword. -/
  attached : List (String × Json)

namespace Facts

/-- The outcome of the first earlier rule that reports under a keyword. -/
def sibling? (facts : Facts) (keyword : StandardKeyword) : Option Outcome := assoc? keyword.name facts.siblings

/-- The value that an earlier rule attached. -/
def siblingValue? (facts : Facts) (keyword : StandardKeyword) : Option Json :=
  (facts.sibling? keyword).bind (·.value?)

/-- All values attached to the instance under a keyword. -/
def attachedBy (facts : Facts) (keyword : StandardKeyword) : List Json :=
  (facts.attached.filter (·.1 == keyword.name)).map (·.2)

theorem mem_attachedBy {facts : Facts} {keyword : StandardKeyword} {value : Json} :
    value ∈ facts.attachedBy keyword ↔ (keyword.name, value) ∈ facts.attached := by
  simp [attachedBy]

/-- The rule of the same schema object under a keyword. -/
def rule? (facts : Facts) (keyword : StandardKeyword) : Option Rule := facts.node.rule? keyword.name

/-- The application of a node of the same document. -/
def apply (facts : Facts) (node : Nat) (value : Json) (step token : Option String) : Application :=
  { target := ⟨facts.document, node⟩, value, step, token, isolated := false }

/-- The application of a node of the same document whose attached values are dropped. -/
def applyIsolated (facts : Facts) (node : Nat) (value : Json) (step : Option String) : Application :=
  { facts.apply node value step none with isolated := true }

/-- The application to an item. -/
def applyToItem (facts : Facts) (node : Nat) (item : Json × Nat) (token : Option String) : Application :=
  facts.apply node item.1 (some (toString item.2)) token

/-- The application to a member. -/
def applyToMember (facts : Facts) (node : Nat) (member : String × Json) (token : Option String) : Application :=
  facts.apply node member.2 (some member.1) token

end Facts

/-- Names as an attached value. -/
def namesValue (names : List String) : Json := .array (names.map .string)

/-- A list of names in order, each of them once. -/
def sortNames (names : List String) : List String := (Json.sortMembers (names.map (·, ()))).map (·.1)

/-! ## Plans for arrays -/

/-- A number as an index, if it is an exact one. -/
def Json.index? : Json → Option Nat
  | .number (.integer n) => if 0 ≤ n then some n.toNat else none
  | _ => none

/-- The number of items up to an index; indices have 64 bits. -/
def countThrough (index : Nat) : Nat := (index + 1) % Word.count

namespace Facts

/-- How many items `prefixItems` has covered, as its attached value tells. -/
def coveredByPrefix (facts : Facts) (length : Nat) : Nat :=
  match facts.siblingValue? .prefixItems with
  | some (.bool true) => length
  | some value => (value.index?.map countThrough).getD 0
  | none => 0

/-- Applies sub-schemas to the first items; attaches the last index, or `true` if no item is left. -/
def planPrefixItems (facts : Facts) (schemas : List Nat) (items : List Json) : Plan :=
  let pairs := schemas.zip items.zipIdx
  .all (pairs.map fun (schema, item) => facts.applyToItem schema item (some (toString item.2)))
    (if pairs.isEmpty then .valid
      else if pairs.length = items.length then .annotated (.bool true)
      else .annotated (.ofNat (pairs.length - 1)))

/-- Applies a sub-schema to the items after the first ones; attaches whether there are any. -/
def planItems (facts : Facts) (schema : Nat) (items : List Json) : Plan :=
  let start := facts.coveredByPrefix items.length
  .all ((items.zipIdx.drop start).map (facts.applyToItem schema · none))
    (.annotated (.bool (start < items.length)))

/-- Whether `contains` demands a match. -/
def demandsMatch (facts : Facts) : Bool :=
  match facts.rule? (.count (.min .matches)) with
  | some (.assertion (.count _ least)) => 0 < least
  | _ => true

/-- The positions of the valid outcomes. -/
def validPositions (outcomes : List Outcome) : List Nat :=
  (outcomes.zipIdx.filter (·.1.isValid)).map (·.2)

/-- Applies a sub-schema to every item; attaches the indices of those that match. -/
def planContains (facts : Facts) (schema : Nat) (items : List Json) : Plan :=
  { applications := items.zipIdx.map (facts.applyToItem schema · none)
    conclude := fun outcomes =>
      let matched := validPositions outcomes
      if matched.isEmpty && facts.demandsMatch then .fail "Must contain at least one item matching 'contains'"
      else .annotated (.array (matched.map .ofNat)) }

/-- The number of items that `contains` matched. -/
def matchCount? (facts : Facts) : Option Nat :=
  ((facts.siblingValue? .contains).bind (·.items?)).map (·.length)

/-- Whether the attached values say that every item was evaluated. -/
def allItemsEvaluated (facts : Facts) : Bool :=
  (facts.attachedBy .items ++ facts.attachedBy .unevaluatedItems ++ facts.attachedBy .prefixItems).any
    (· matches .bool true)

/-- The items that no earlier keyword evaluated, as the attached values tell. -/
def unevaluatedItems (facts : Facts) (items : List Json) : List (Json × Nat) :=
  if facts.allItemsEvaluated then []
  else
    let start := (((facts.attachedBy .prefixItems).filterMap (·.index?)).map countThrough).foldl max 0
    let contained := ((facts.attachedBy .contains).filterMap (·.items?)).flatten.filterMap (·.index?)
    (items.zipIdx.drop start).filter fun (_, index) => !contained.contains index

/-- Applies a sub-schema to the items that nothing else evaluated; attaches whether there are any. -/
def planUnevaluatedItems (facts : Facts) (schema : Nat) (items : List Json) : Plan :=
  let remaining := facts.unevaluatedItems items
  .all (remaining.map (facts.applyToItem schema · none)) (.annotated (.bool !remaining.isEmpty))

/-! ## Plans for objects -/

/-- Applies sub-schemas to the members of their names; attaches these names. -/
def planProperties (facts : Facts) (schemas : List (String × Nat)) (members : List (String × Json)) : Plan :=
  let present := schemas.filterMap fun (name, schema) =>
    (assoc? name members).map fun value => (schema, name, value)
  .all (present.map fun (schema, member) => facts.applyToMember schema member (some member.1))
    (.annotated (namesValue (present.map fun (_, name, _) => name)))

/-- Applies sub-schemas to the members whose names match their patterns; attaches these names. -/
def planPatternProperties (facts : Facts) (schemas : List (Pattern × Nat)) (members : List (String × Json)) : Plan :=
  let matching := members.flatMap fun member =>
    (schemas.filter (·.1.isMatch member.1)).map fun (pattern, schema) => (pattern, schema, member)
  .all (matching.map fun (pattern, schema, member) => facts.applyToMember schema member (some pattern.source))
    (.annotated (namesValue (sortNames (matching.map fun (_, _, member) => member.1))))

/-- Whether `properties` of the schema object declares a name. -/
def declares (facts : Facts) (name : String) : Bool :=
  match facts.rule? .properties with
  | some (.properties schemas) => schemas.any (·.1 == name)
  | _ => false

/-- Whether `patternProperties` of the schema object matches a name. -/
def matchesPattern (facts : Facts) (name : String) : Bool :=
  match facts.rule? .patternProperties with
  | some (.patternProperties schemas) => schemas.any (·.1.isMatch name)
  | _ => false

/-- The members that are neither declared nor matched. -/
def additionalMembers (facts : Facts) (members : List (String × Json)) : List (String × Json) :=
  members.filter fun (name, _) => !facts.declares name && !facts.matchesPattern name

/-- Those of a list at whose place the outcome is invalid. -/
def failing {α : Type} (values : List α) (outcomes : List Outcome) : List α :=
  ((values.zip outcomes).filter (!·.2.isValid)).map (·.1)

/-- Applies a sub-schema to the members that are neither declared nor matched; attaches their names. -/
def planAdditionalProperties (facts : Facts) (schema : Nat) (members : List (String × Json)) : Plan :=
  let additional := facts.additionalMembers members
  let names := additional.map (·.1)
  { applications := additional.map (facts.applyToMember schema · none)
    conclude := fun outcomes =>
      match failing names outcomes with
      | [] => .annotated (namesValue names)
      | [name] => .fail ("Additional property " ++ quoted name ++ " not valid")
      | failed => .fail ("Additional properties " ++ quotedNames failed ++ " not valid") }

/-- Applies a sub-schema to the names of the members. -/
def planPropertyNames (facts : Facts) (schema : Nat) (members : List (String × Json)) : Plan :=
  { applications := members.map fun (name, _) => facts.applyIsolated schema (.string name) (some name)
    conclude := fun outcomes =>
      .require (outcomes.all (·.isValid)) "Property names must match 'propertyNames'" }

/-- Applies sub-schemas to the object if it has the members of their names. -/
def planDependentSchemas (facts : Facts) (schemas : List (String × Nat)) (members : List (String × Json)) : Plan :=
  let present := schemas.filter fun (name, _) => (assoc? name members).isSome
  { applications := present.map fun (name, schema) => facts.apply schema (.object members) none (some name)
    conclude := fun outcomes =>
      match failing (present.map (·.1)) outcomes with
      | [] => .valid
      | failed => .fail ("Failed to validate dependent schemas for keys: " ++ ", ".intercalate failed) }

/-- The names of the members that earlier keywords evaluated, as the attached values tell. -/
def evaluatedNames (facts : Facts) : List String :=
  let values := facts.attachedBy .properties ++ facts.attachedBy .patternProperties ++
    facts.attachedBy .additionalProperties ++ facts.attachedBy .unevaluatedProperties
  (values.filterMap (·.items?)).flatten.filterMap (·.string?)

/-- Applies a sub-schema to the members that nothing else evaluated; attaches their names. -/
def planUnevaluatedProperties (facts : Facts) (schema : Nat) (members : List (String × Json)) : Plan :=
  let evaluated := facts.evaluatedNames
  let remaining := members.filter fun (name, _) => !evaluated.contains name
  .all (remaining.map (facts.applyToMember schema · none)) (.annotated (namesValue (remaining.map (·.1))))

/-! ## Plans for any instance -/

/-- Applies sub-schemas to the instance and combines their verdicts. -/
def planCombination (facts : Facts) (kind : Combination) (schemas : List Nat) (value : Json) : Plan :=
  { applications := schemas.zipIdx.map fun (schema, index) => facts.apply schema value none (some (toString index))
    conclude := fun outcomes => kind.combine (outcomes.map (·.isValid)) }

/-- Demands that a sub-schema is not valid. -/
def planNot (facts : Facts) (schema : Nat) (value : Json) : Plan :=
  { applications := [facts.applyIsolated schema value none]
    conclude := fun outcomes => .require (outcomes.any (!·.isValid)) "Must not match the subschema" }

/-- Applies the condition; attaches whether it holds. -/
def planCondition (facts : Facts) (schema : Nat) (value : Json) : Plan :=
  { applications := [facts.apply schema value none none]
    conclude := fun outcomes => .annotated (.bool (outcomes.all (·.isValid))) }

/-- Applies the sub-schema of a branch if the condition has the truth of the branch. -/
def planBranch (facts : Facts) (truth : Bool) (schema : Nat) (value : Json) : Plan :=
  if (facts.siblingValue? .condition).bind (·.bool?) = some truth then
    { applications := [facts.apply schema value none none]
      conclude := fun outcomes =>
        .require (outcomes.all (·.isValid))
          ("Must match the " ++ quoted (if truth then "then" else "else") ++ " subschema") }
  else .done .valid

/-- The outcome of a format. -/
def checkFormat (facts : Facts) (name : String) (asserted : Bool) (value : Json) : Outcome :=
  let attached := Outcome.annotated (.string name)
  if asserted || facts.options.formatMode == .assert then
    match facts.options.formats.find? name with
    | some conforms => if conforms value then attached else .fail ("Must be a valid " ++ quoted name ++ " value")
    | none => attached
  else attached

/-! ## Plans for the content of strings -/

/-- The content of a text of some media type, decoded as the schema object says. Unknown encodings and
media types leave it undetermined. -/
def content? (facts : Facts) (mediaType text : String) : Option (Except ContentError Json) := do
  let read ← facts.options.contentTypes.mediaType? mediaType
  match facts.rule? .contentEncoding with
  | some (.contentEncoding name) =>
    let decode ← facts.options.contentTypes.encoding? name
    return decode text >>= read
  | _ => return read (Utf8.bytes text)

/-- The outcome of an encoding. -/
def checkEncoding (facts : Facts) (name : String) (value : Json) : Outcome :=
  let attached := Outcome.annotated (.string name)
  match value, facts.options.assertContent, facts.options.contentTypes.encoding? name with
  | .string text, true, some decode =>
    match decode text with
    | .ok _ => attached
    | .error cause => .fail ("Must be encoded as " ++ quoted name ++ ": " ++ cause.message)
  | _, _, _ => attached

/-- The outcome of a media type; a text that is not encoded as it should be is left to the encoding. -/
def checkMediaType (facts : Facts) (name : String) (value : Json) : Outcome :=
  let attached := Outcome.annotated (.string name)
  match value, facts.options.assertContent with
  | .string text, true =>
    match facts.content? name text with
    | some (.error (.encoding _)) => attached
    | some (.error cause) => .fail ("Must be content of type " ++ quoted name ++ ": " ++ cause.message)
    | _ => attached
  | _, _ => attached

/-- Applies a sub-schema to the content of a string; attaches the schema itself. -/
def planContentSchema (facts : Facts) (schema : Nat) (value : Json) : Plan :=
  let attached := Outcome.annotated (facts.document.node schema).value
  match value, facts.options.assertContent, facts.rule? .contentMediaType with
  | .string text, true, some (.contentMediaType mediaType) =>
    match facts.content? mediaType text with
    | some (.ok content) =>
      { applications := [facts.applyIsolated schema content none]
        conclude := fun outcomes =>
          if outcomes.all (·.isValid) then attached else .fail "Content must match 'contentSchema'" }
    | _ => .done attached
  | _, _, _ => .done attached

end Facts

/-- The plan of a rule for an instance, given the target of the rule if it is a reference. -/
def Rule.plan (rule : Rule) (facts : Facts) (target : Option Target) (value : Json) : Plan :=
  match rule, value with
  | .ref url, _ | .dynamicRef url _, _ =>
    match target with
    | some found => .follow (.inPlace found value none)
    | none => .done (.fail ("Unresolved schema reference: " ++ url.text))
  | .combination kind schemas, _ => facts.planCombination kind schemas value
  | .not schema, _ => facts.planNot schema value
  | .condition schema, _ => facts.planCondition schema value
  | .branch truth schema, _ => facts.planBranch truth schema value
  | .dependentSchemas schemas, .object members => facts.planDependentSchemas schemas members
  | .prefixItems schemas, .array elements => facts.planPrefixItems schemas elements
  | .items schema, .array elements => facts.planItems schema elements
  | .contains schema, .array elements => facts.planContains schema elements
  | .properties schemas, .object members => facts.planProperties schemas members
  | .patternProperties schemas, .object members => facts.planPatternProperties schemas members
  | .additionalProperties schema, .object members => facts.planAdditionalProperties schema members
  | .propertyNames schema, .object members => facts.planPropertyNames schema members
  | .assertion check, _ => .done (check.check facts.matchCount? value)
  | .description _ described, _ => .done (.annotated described)
  | .format name asserted, _ => .done (facts.checkFormat name asserted value)
  | .contentEncoding name, _ => .done (facts.checkEncoding name value)
  | .contentMediaType name, _ => .done (facts.checkMediaType name value)
  | .contentSchema schema, _ => facts.planContentSchema schema value
  | .unknown _ attached, _ => .done (.annotated attached)
  | .unevaluatedItems schema, .array elements => facts.planUnevaluatedItems schema elements
  | .unevaluatedProperties schema, .object members => facts.planUnevaluatedProperties schema members
  | _, _ => .done .valid

end JsonSchema
