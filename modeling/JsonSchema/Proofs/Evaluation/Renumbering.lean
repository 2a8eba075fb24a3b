import JsonSchema.Proofs.Compile.Coupling
import JsonSchema.Proofs.Evaluation.Plan
import Mathlib.Data.List.Basic

/-! # Plans of renumbered rules

A schema object may stand in two documents under different numbers. Its rules then plan the same applications, of the
nodes that go together, and conclude the same from their outcomes (`Rule.plan_rename`).
-/

namespace JsonSchema

/-- An application of a node of another document, under another number. -/
def Application.moveTo (document : Document) (number : Nat → Nat) (application : Application) : Application :=
  { application with target := ⟨document, number application.target.node⟩ }

/-- The plan with its applications moved to another document. -/
def Plan.moveTo (document : Document) (number : Nat → Nat) (plan : Plan) : Plan :=
  ⟨plan.applications.map (·.moveTo document number), plan.conclude⟩

@[simp] theorem Rule.keyword_rename (number : Nat → Nat) (rule : Rule) :
    (rule.rename number).keyword = rule.keyword := by
  cases rule <;> rfl

namespace Facts

variable {number : Nat → Nat} {facts moved : Facts}

/-! ## Plans that look at the instance alone -/

theorem planCombination_rename (kind : Combination) (schemas : List Nat) (value : Json) :
    moved.planCombination kind (schemas.map number) value =
      (facts.planCombination kind schemas value).moveTo moved.document number := by
  simp only [planCombination, Plan.moveTo, List.zipIdx_map, List.map_map, Function.comp_def, Prod.map]
  rfl

theorem planDependentSchemas_rename (schemas : List (String × Nat)) (members : List (String × Json)) :
    moved.planDependentSchemas (schemas.map (Prod.map id number)) members =
      (facts.planDependentSchemas schemas members).moveTo moved.document number := by
  simp only [planDependentSchemas, Plan.moveTo, List.filter_map, List.map_map, Function.comp_def, Prod.map]
  rfl

theorem planPrefixItems_rename (schemas : List Nat) (items : List Json) :
    moved.planPrefixItems (schemas.map number) items =
      (facts.planPrefixItems schemas items).moveTo moved.document number := by
  simp only [planPrefixItems, Plan.all, Plan.moveTo, List.zip_map_left, List.map_map, Function.comp_def, Prod.map,
    List.isEmpty_map, List.length_map]
  rfl

theorem present_rename (schemas : List (String × Nat)) (members : List (String × Json)) :
    (schemas.map (Prod.map id number)).filterMap (fun (name, schema) =>
      (assoc? name members).map fun value => (schema, name, value)) =
        (schemas.filterMap fun (name, schema) => (assoc? name members).map fun value => (schema, name, value)).map
          (Prod.map number id) := by
  rw [List.filterMap_map, List.map_filterMap]
  refine List.filterMap_congr fun entry _ => ?_
  rw [Option.map_map]
  rfl

theorem planProperties_rename (schemas : List (String × Nat)) (members : List (String × Json)) :
    moved.planProperties (schemas.map (Prod.map id number)) members =
      (facts.planProperties schemas members).moveTo moved.document number := by
  simp only [planProperties, Plan.all, Plan.moveTo, present_rename, List.map_map]
  rfl

theorem planPatternProperties_rename (schemas : List (Pattern × Nat)) (members : List (String × Json)) :
    moved.planPatternProperties (schemas.map (Prod.map id number)) members =
      (facts.planPatternProperties schemas members).moveTo moved.document number := by
  simp only [planPatternProperties, Plan.all, Plan.moveTo, List.filter_map, List.map_map, List.map_flatMap,
    Function.comp_def, Prod.map]
  rfl

theorem planPropertyNames_rename (schema : Nat) (members : List (String × Json)) :
    moved.planPropertyNames (number schema) members =
      (facts.planPropertyNames schema members).moveTo moved.document number := by
  simp only [planPropertyNames, Plan.moveTo, List.map_map]
  rfl

/-! ## Plans that look at other rules -/

/-- Whether facts are those about a schema object under other numbers. -/
structure Renumbers (number : Nat → Nat) (facts moved : Facts) : Prop where
  options_eq : moved.options = facts.options
  rules_eq : moved.node.rules = facts.node.rules.map (·.rename number)
  siblings_eq : moved.siblings = facts.siblings
  attached_eq : moved.attached = facts.attached

variable (renumbers : facts.Renumbers number moved)
include renumbers

theorem Renumbers.rule?_eq (keyword : StandardKeyword) :
    moved.rule? keyword = (facts.rule? keyword).map (·.rename number) := by
  simp only [rule?, Node.rule?, renumbers.rules_eq, List.find?_map, Function.comp_def, Rule.keyword_rename]

theorem Renumbers.siblingValue?_eq (keyword : StandardKeyword) :
    moved.siblingValue? keyword = facts.siblingValue? keyword := by
  simp only [siblingValue?, sibling?, renumbers.siblings_eq]

theorem Renumbers.attachedBy_eq (keyword : StandardKeyword) : moved.attachedBy keyword = facts.attachedBy keyword := by
  simp only [attachedBy, renumbers.attached_eq]

theorem Renumbers.demandsMatch_eq : moved.demandsMatch = facts.demandsMatch := by
  unfold demandsMatch
  rw [renumbers.rule?_eq]
  cases facts.rule? (.count (.min .matches)) with
  | none => rfl
  | some rule => cases rule <;> rfl

theorem Renumbers.declares_eq (name : String) : moved.declares name = facts.declares name := by
  unfold declares
  rw [renumbers.rule?_eq]
  cases facts.rule? .properties with
  | none => rfl
  | some rule => cases rule <;> simp [Rule.rename, List.any_map, Function.comp_def]

theorem Renumbers.matchesPattern_eq (name : String) : moved.matchesPattern name = facts.matchesPattern name := by
  unfold matchesPattern
  rw [renumbers.rule?_eq]
  cases facts.rule? .patternProperties with
  | none => rfl
  | some rule => cases rule <;> simp [Rule.rename, List.any_map, Function.comp_def]

theorem Renumbers.content?_eq (mediaType text : String) :
    moved.content? mediaType text = facts.content? mediaType text := by
  unfold content?
  rw [renumbers.options_eq, renumbers.rule?_eq]
  cases facts.rule? .contentEncoding with
  | none => rfl
  | some rule => cases rule <;> rfl

theorem Renumbers.planItems_rename (schema : Nat) (items : List Json) :
    moved.planItems (number schema) items = (facts.planItems schema items).moveTo moved.document number := by
  simp only [planItems, coveredByPrefix, renumbers.siblingValue?_eq, Plan.all, Plan.moveTo, List.map_map]
  rfl

theorem Renumbers.planContains_rename (schema : Nat) (items : List Json) :
    moved.planContains (number schema) items = (facts.planContains schema items).moveTo moved.document number := by
  simp only [planContains, renumbers.demandsMatch_eq, Plan.moveTo, List.map_map]
  rfl

theorem Renumbers.planAdditionalProperties_rename (schema : Nat) (members : List (String × Json)) :
    moved.planAdditionalProperties (number schema) members =
      (facts.planAdditionalProperties schema members).moveTo moved.document number := by
  simp only [planAdditionalProperties, additionalMembers, renumbers.declares_eq, renumbers.matchesPattern_eq,
    Plan.moveTo,
    List.map_map]
  rfl

theorem Renumbers.planBranch_rename (truth : Bool) (schema : Nat) (value : Json) :
    moved.planBranch truth (number schema) value =
      (facts.planBranch truth schema value).moveTo moved.document number := by
  unfold planBranch
  rw [renumbers.siblingValue?_eq]
  split <;> rfl

theorem Renumbers.planUnevaluatedItems_rename (schema : Nat) (items : List Json) :
    moved.planUnevaluatedItems (number schema) items =
      (facts.planUnevaluatedItems schema items).moveTo moved.document number := by
  simp only [planUnevaluatedItems, unevaluatedItems, allItemsEvaluated, renumbers.attachedBy_eq, Plan.all, Plan.moveTo,
    List.map_map]
  rfl

theorem Renumbers.planUnevaluatedProperties_rename (schema : Nat) (members : List (String × Json)) :
    moved.planUnevaluatedProperties (number schema) members =
      (facts.planUnevaluatedProperties schema members).moveTo moved.document number := by
  simp only [planUnevaluatedProperties, evaluatedNames, renumbers.attachedBy_eq, Plan.all, Plan.moveTo, List.map_map]
  rfl

theorem Renumbers.planContentSchema_rename {schema : Nat} (value : Json)
    (same : (moved.document.node (number schema)).value = (facts.document.node schema).value) :
    moved.planContentSchema (number schema) value =
      (facts.planContentSchema schema value).moveTo moved.document number := by
  unfold planContentSchema
  rw [renumbers.options_eq, renumbers.rule?_eq, same]
  cases value with
  | string text =>
    cases facts.options.assertContent with
    | false => rfl
    | true =>
      cases facts.rule? .contentMediaType with
      | none => rfl
      | some rule =>
        cases rule with
        | contentMediaType mediaType =>
          simp only [Option.map_some, Rule.rename, renumbers.content?_eq]
          cases facts.content? mediaType text with
          | none => rfl
          | some content => cases content <;> rfl
        | _ => rfl
  | _ => rfl

theorem Renumbers.checkFormat_eq (name : String) (asserted : Bool) (value : Json) :
    moved.checkFormat name asserted value = facts.checkFormat name asserted value := by
  unfold checkFormat
  rw [renumbers.options_eq]

theorem Renumbers.checkEncoding_eq (name : String) (value : Json) :
    moved.checkEncoding name value = facts.checkEncoding name value := by
  unfold checkEncoding
  rw [renumbers.options_eq]

theorem Renumbers.checkMediaType_eq (name : String) (value : Json) :
    moved.checkMediaType name value = facts.checkMediaType name value := by
  unfold checkMediaType
  simp only [renumbers.options_eq, renumbers.content?_eq]

theorem Renumbers.matchCount?_eq : moved.matchCount? = facts.matchCount? := by
  rw [matchCount?, renumbers.siblingValue?_eq, matchCount?]

end Facts

/-- The rules of a schema object plan the same under other numbers. -/
theorem Rule.plan_rename {number : Nat → Nat} {facts moved : Facts} (renumbers : facts.Renumbers number moved)
    {rule : Rule} (plain : rule.isReference = false) (values : ∀ schema ∈ rule.subschemas,
      (moved.document.node (number schema)).value = (facts.document.node schema).value)
    (target other : Option Target) (value : Json) :
    (rule.rename number).plan moved other value = (rule.plan facts target value).moveTo moved.document number := by
  cases rule with
  | ref url | dynamicRef url anchor => cases plain
  | combination kind schemas => exact Facts.planCombination_rename kind schemas value
  | not schema | condition schema => rfl
  | branch truth schema => exact renumbers.planBranch_rename truth schema value
  | contentSchema schema => exact renumbers.planContentSchema_rename value (values schema List.mem_cons_self)
  | prefixItems schemas =>
    cases value with
    | array items => exact Facts.planPrefixItems_rename schemas items
    | _ => rfl
  | items schema =>
    cases value with
    | array items => exact renumbers.planItems_rename schema items
    | _ => rfl
  | contains schema =>
    cases value with
    | array items => exact renumbers.planContains_rename schema items
    | _ => rfl
  | unevaluatedItems schema =>
    cases value with
    | array items => exact renumbers.planUnevaluatedItems_rename schema items
    | _ => rfl
  | properties schemas =>
    cases value with
    | object members => exact Facts.planProperties_rename schemas members
    | _ => rfl
  | patternProperties schemas =>
    cases value with
    | object members => exact Facts.planPatternProperties_rename schemas members
    | _ => rfl
  | additionalProperties schema =>
    cases value with
    | object members => exact renumbers.planAdditionalProperties_rename schema members
    | _ => rfl
  | propertyNames schema =>
    cases value with
    | object members => exact Facts.planPropertyNames_rename schema members
    | _ => rfl
  | dependentSchemas schemas =>
    cases value with
    | object members => exact Facts.planDependentSchemas_rename schemas members
    | _ => rfl
  | unevaluatedProperties schema =>
    cases value with
    | object members => exact renumbers.planUnevaluatedProperties_rename schema members
    | _ => rfl
  | assertion check =>
    show Plan.done (check.check moved.matchCount? value) = Plan.done (check.check facts.matchCount? value)
    rw [renumbers.matchCount?_eq]
  | format name asserted =>
    show Plan.done (moved.checkFormat name asserted value) = Plan.done (facts.checkFormat name asserted value)
    rw [renumbers.checkFormat_eq]
  | contentEncoding name =>
    show Plan.done (moved.checkEncoding name value) = Plan.done (facts.checkEncoding name value)
    rw [renumbers.checkEncoding_eq]
  | contentMediaType name =>
    show Plan.done (moved.checkMediaType name value) = Plan.done (facts.checkMediaType name value)
    rw [renumbers.checkMediaType_eq]
  | _ => cases value <;> rfl

end JsonSchema
