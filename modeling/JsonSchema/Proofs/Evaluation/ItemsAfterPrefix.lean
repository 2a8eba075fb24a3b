import JsonSchema.Proofs.Evaluation.Siblings
import JsonSchema.Proofs.Evaluation.UnevaluatedItems

/-! # Items after the prefix

The rule about the items behind others does not count the sub-schemas of `prefixItems`. It decodes what the rule of
`prefixItems` in the same schema object attached, which under the draft has been carried out before it
(`Run.CarriesOut.sibling?_eq`). A valid rule attaches what stands for its own sub-schemas, whatever the length of the
array; one that is not valid attaches nothing. So the items behind the prefix are those that the sub-schema is applied
to, unless an item of the prefix is not valid: then it is applied to all items (`Schema.items_applied`).
-/

namespace JsonSchema

/-- How many of the first items a node has sub-schemas for. -/
def Node.prefixCount (node : Node) : Nat :=
  match node.rule? StandardKeyword.prefixItems.name with
  | some (.prefixItems schemas) => schemas.length
  | _ => 0

/-- Whether one of the first items is not valid for its sub-schema, given the trace of a schema object. -/
def Trace.failsPrefix (object : Trace) : Bool :=
  object.children.any fun step =>
    match step.subject with
    | .rule (.prefixItems _) => !step.isValid
    | _ => false

/-- Whether a rule of a schema object, given by its trace, applied a sub-schema to some items in order and to nothing
else. -/
def Trace.AppliesToItems (step : Trace) (target : Target) (items : List (Json × Nat)) : Prop :=
  step.children.map (·.subject) =
    items.map fun item => .application ⟨target, item.1, some (toString item.2), none, false⟩

/-- Cutting off the first items leaves those with the other indices, however many there are. -/
theorem drop_min_zipIdx {α : Type} (values : List α) (start : Nat) :
    values.zipIdx.drop (min start values.length) = values.zipIdx.filter (start ≤ ·.2) := by
  rw [drop_zipIdx]
  refine List.filter_congr fun entry member => decide_eq_decide.mpr ?_
  have inside := List.snd_lt_of_mem_zipIdx member
  omega

/-! ## What is decoded -/

namespace Facts

variable {facts earlier : Facts} {schemas : List Nat} {items : List Json} {outcomes : List Outcome}

/-- Nothing is taken for covered unless an earlier rule attached something. -/
theorem coveredByPrefix_of_none (untold : facts.siblingValue? .prefixItems = none) (length : Nat) :
    facts.coveredByPrefix length = 0 := by
  rw [coveredByPrefix, untold]

theorem coveredByPrefix_of_index {value : Json} (told : facts.siblingValue? .prefixItems = some value) {last : Nat}
    (found : value.index? = some last) (length : Nat) : facts.coveredByPrefix length = countThrough last := by
  rw [coveredByPrefix, told]
  split
  · next same =>
    obtain rfl := Option.some.inj same
    cases found
  · next same =>
    obtain rfl := Option.some.inj same
    rw [found]
    rfl
  · next impossible => cases impossible

/-- What a valid rule about the first items attaches stands for as many items as there are sub-schemas, as far as
there are such items. -/
theorem coveredByPrefix_of_valid (fits : items.length ≤ Word.count)
    (told : facts.siblingValue? .prefixItems = ((earlier.planPrefixItems schemas items).conclude outcomes).value?)
    (valid : ((earlier.planPrefixItems schemas items).conclude outcomes).isValid = true) :
    facts.coveredByPrefix items.length = min schemas.length items.length := by
  have paired : (schemas.zip items.zipIdx).length = min schemas.length items.length := by simp
  unfold planPrefixItems at told valid
  rw [Plan.conclude_all valid] at told
  split at told
  · next empty =>
    rw [List.isEmpty_iff_length_eq_zero, paired] at empty
    rw [coveredByPrefix_of_none told, empty]
  · next some =>
    rw [List.isEmpty_iff_length_eq_zero, paired] at some
    split at told
    · next whole =>
      rw [coveredByPrefix, told, ← paired, whole]
      rfl
    · next short =>
      rw [paired] at short
      rw [coveredByPrefix_of_index told (index?_ofNat (by omega)), paired]
      exact countThrough_pred (by omega) (by omega)

end Facts

/-! ## Where the items begin -/

namespace Run

variable {run : Run} {active : List ActiveResource} {application : Application} {steps before after : List Step}
  {step : Step}

section Items

variable (carried : run.CarriesOut active application (application.node.rules.filter (·.isApplied)) steps)
  (drafted : application.node.IsDrafted)

include carried drafted

/-- A schema object fails its prefix just if the step of `prefixItems` is not valid. -/
theorem CarriesOut.failsPrefix_eq {awaited : Step} (member : awaited ∈ steps) {schemas : List Nat}
    (ruled : awaited.rule = .prefixItems schemas) (scope : Scope) :
    (application.traceOf scope steps).failsPrefix = !awaited.isValid := by
  have orderly := drafted.orderly_applied
  rw [Bool.eq_iff_iff, Trace.failsPrefix, List.any_eq_true]
  constructor
  · rintro ⟨_, child, fails⟩
    obtain ⟨other, inside, rfl⟩ := List.mem_map.mp child
    rw [Step.subject_trace, Step.isValid_trace] at fails
    split at fails
    · next schemas same =>
      have means : other.rule.standard? = some .prefixItems := Subject.rule.inj same ▸ rfl
      rwa [carried.eq_of_standard? orderly member inside (ruled ▸ rfl) means]
    · cases fails
  · intro fails
    refine ⟨_, List.mem_map_of_mem member, ?_⟩
    rwa [Step.subject_trace, Step.isValid_trace, ruled]

/-- The rule about the items behind others takes those for covered that have sub-schemas in `prefixItems`, unless one
of these items is not valid. -/
theorem CarriesOut.coveredByPrefix_eq (split : steps = before ++ step :: after) {subschema : Nat}
    (ruled : step.rule = .items subschema) {items : List Json} (instance_ : application.value = .array items)
    (fits : items.length ≤ Word.count) (scope : Scope) :
    step.facts.coveredByPrefix items.length =
      min (if (application.traceOf scope steps).failsPrefix then 0 else application.node.prefixCount) items.length := by
  have orderly := drafted.orderly_applied
  have registered := standard_mem_of_mem_itemKeywords .prefixItems (by decide)
  cases found : application.node.rule? StandardKeyword.prefixItems.name with
  | none =>
    have absent (rule : Rule) (member : rule ∈ application.node.rules.filter (·.isApplied)) :
        rule.standard? ≠ some .prefixItems := by
      intro means
      have found' := (drafted.rule?_eq_some_iff registered).mpr ⟨(List.mem_filter.mp member).1, means⟩
      rw [found] at found'
      cases found'
    have untold : step.facts.siblingValue? .prefixItems = none := by
      rw [Facts.siblingValue?, carried.sibling?_eq_none orderly split registered absent]
      rfl
    rw [Facts.coveredByPrefix_of_none untold, Node.prefixCount, found]
    simp
  | some rule =>
    obtain ⟨member, means⟩ := (drafted.rule?_eq_some_iff registered).mp found
    obtain ⟨schemas, rfl⟩ := Rule.forms_of_standard? means
    have inside : .prefixItems schemas ∈ steps.map (·.rule) := by
      rw [carried.rules_eq]
      exact List.mem_filter.mpr ⟨member, rfl⟩
    obtain ⟨awaited, inside, same⟩ := List.mem_map.mp inside
    have told : step.facts.siblingValue? .prefixItems = awaited.outcome.value? := by
      rw [Facts.siblingValue?, carried.sibling?_eq orderly split (ruled ▸ rfl : step.rule.standard? = some .items)
        (by decide) inside (same ▸ rfl)]
      rfl
    rw [carried.failsPrefix_eq drafted inside same scope, Node.prefixCount, found]
    cases valid : awaited.isValid with
    | true =>
      obtain ⟨front, rest, -, performs⟩ := carried.performs_of_mem inside
      rw [Step.isValid] at valid
      rw [Step.outcome, Step.plan, same, performs.value_eq, instance_] at valid told
      exact Facts.coveredByPrefix_of_valid fits told valid
    | false =>
      have untold := told.trans (Outcome.value?_of_not_isValid valid)
      rw [Facts.coveredByPrefix_of_none untold]
      exact (Nat.zero_min _).symm

end Items

/-- The rule about the items behind others applies its sub-schema to the items behind the prefix, and to all items if
the prefix fails. -/
theorem Yields.items {path : Path} {applied : Applied} (yields : run.Yields path application applied)
    (drafted : application.node.IsDrafted) (branch : applied.trace.isBranch = true) {items : List Json}
    (instance_ : application.value = .array items) (fits : items.length ≤ Word.count) {subschema : Nat}
    (ruled : .items subschema ∈ application.node.rules) :
    (∃ step ∈ applied.trace.children, step.subject = .rule (.items subschema)) ∧
      ∀ step ∈ applied.trace.children, step.subject = .rule (.items subschema) →
        step.AppliesToItems ⟨application.target.document, subschema⟩
          (items.zipIdx.filter ((if applied.trace.failsPrefix then 0 else application.node.prefixCount) ≤ ·.2)) := by
  cases yields with
  | cutOff exhausted => exact Bool.noConfusion branch
  | boolean shallow shape =>
    rw [Node.rules, shape] at ruled
    exact absurd ruled List.not_mem_nil
  | @object _ _ rules steps shallow shape carried yields =>
    rw [← Node.rules_of_shape shape] at carried
    let scope := path.scope run application
    constructor
    · have inside : .items subschema ∈ steps.map (·.rule) := by
        rw [carried.rules_eq]
        exact List.mem_filter.mpr ⟨ruled, rfl⟩
      obtain ⟨step, inside, same⟩ := List.mem_map.mp inside
      exact ⟨_, List.mem_map_of_mem inside, same ▸ step.subject_trace scope⟩
    · intro _ child subject
      obtain ⟨step, inside, rfl⟩ := List.mem_map.mp child
      have same := Subject.rule.inj ((step.subject_trace scope).symm.trans subject)
      obtain ⟨before, after, split⟩ := List.append_of_mem inside
      have performs := carried.performs before step after split
      have covered := carried.coveredByPrefix_eq drafted split same instance_ fits scope
      rw [Trace.AppliesToItems, performs.subjects_trace scope fun result applied =>
        (yields step inside result applied).subject_trace, Step.plan, same, performs.value_eq, instance_,
        ← drop_min_zipIdx, ← covered, performs.facts_eq]
      simp only [Rule.plan, Facts.planItems, Plan.all, List.map_map]
      rfl

end Run

/-! ## The items that are left -/

/-- In an evaluation the rule of a schema object of the draft about the items behind others applies its sub-schema to
exactly the items of an array whose index is not below the number of sub-schemas in `prefixItems`, as long as these
find their items valid or are absent. If they do not, the sub-schema is applied to all items. Indices of an array are
words. -/
theorem Schema.items_applied (schema : Schema) (options : Options) (value : Json) (dialects : DialectCache)
    {object : Trace} (part : object ∈ (schema.trace options value dialects).1.parts) (branch : object.isBranch = true)
    {application : Application} (applied : object.subject = .application application)
    (drafted : application.node.IsDrafted) {items : List Json} (instance_ : application.value = .array items)
    (fits : items.length ≤ Word.count) {subschema : Nat} (ruled : .items subschema ∈ application.node.rules) :
    (∃ step ∈ object.children, step.subject = .rule (.items subschema)) ∧
      ∀ step ∈ object.children, step.subject = .rule (.items subschema) →
        (object.failsPrefix = false → step.AppliesToItems ⟨application.target.document, subschema⟩
          (items.zipIdx.filter (application.node.prefixCount ≤ ·.2))) ∧
        (object.failsPrefix = true →
          step.AppliesToItems ⟨application.target.document, subschema⟩ items.zipIdx) := by
  obtain ⟨path, result, yields, rfl⟩ := (Run.yields_evaluate ⟨options, schema⟩ value ⟨[], dialects⟩).part part applied
  obtain ⟨carried, applies⟩ := yields.items drafted branch instance_ fits ruled
  refine ⟨carried, fun step member subject => ⟨fun succeeds => ?_, fun fails => ?_⟩⟩
  · have items := applies step member subject
    rwa [succeeds] at items
  · have items := applies step member subject
    rw [fails] at items
    simpa using items

/-- Behind a valid prefix the items keep their indices. -/
theorem Schema.items_applied_behind_prefix :
    ∃ schema, (compile .standard (Draft.url "example") (.object [
        ("prefixItems", .array [.object [("type", .string "string")]]),
        ("items", .object [("type", .string "integer")])])).toOption = some schema ∧
      ∃ items application subschema,
        let object := (schema.trace .standard (.array items) []).1
        items = [.string "a", .ofNat 1, .ofNat 2] ∧ object ∈ object.parts ∧ object.isBranch = true ∧
          object.subject = .application application ∧ application.node.IsDrafted ∧
          application.value = .array items ∧ items.length ≤ Word.count ∧
          .items subschema ∈ application.node.rules ∧ object.failsPrefix = false ∧
          ∃ step ∈ object.children, step.subject = .rule (.items subschema) ∧
            step.AppliesToItems ⟨application.target.document, subschema⟩ [(.ofNat 1, 1), (.ofNat 2, 2)] := by
  let items : List Json := [.string "a", .ofNat 1, .ofNat 2]
  let check (schema : Schema) : Bool := schema.reaches .standard (.array items) .items ["1", "2"] &&
    !(schema.trace .standard (.array items) []).1.failsPrefix && schema.root.prefixCount = 1
  refine (Option.map_eq_some_iff.mp (?_ : Option.map check _ = some true)).imp fun schema ⟨compiled, holds⟩ =>
    ⟨compiled, items, .inPlace ⟨schema.document, schema.rootIndex⟩ (.array items) none, ?_⟩
  · decide +kernel
  simp only [check, Bool.and_eq_true, Bool.not_eq_true', decide_eq_true_eq] at holds
  obtain ⟨⟨reaches, succeeds⟩, counted⟩ := holds
  obtain ⟨drafted, branch, -, rule, member, means, -⟩ := of_reaches Options.knowsOnlyDraft_standard compiled
    (standard_mem_of_mem_itemKeywords _ (by decide)) reaches
  obtain ⟨subschema, rfl⟩ := Rule.forms_of_standard? means
  have subject := schema.subject_trace .standard (.array items) []
  have part := Trace.self_mem_parts (schema.trace .standard (.array items) []).1
  have node := drafted _ part _ subject
  have fits : items.length ≤ Word.count := by decide +kernel
  obtain ⟨⟨step, inside, ruled⟩, applies⟩ :=
    items_applied schema .standard (.array items) [] part branch subject node rfl fits member
  refine ⟨subschema, rfl, part, branch, subject, node, rfl, fits, member, succeeds, step, inside, ruled, ?_⟩
  have behind := (applies step inside ruled).1 succeeds
  rwa [show Application.node _ = schema.root from rfl, counted] at behind

/-- The items that a failing prefix has sub-schemas for are not left out. -/
theorem Schema.items_applied_within_prefix :
    ∃ schema, (compile .standard (Draft.url "example") (.object [
        ("prefixItems", .array [.object [("type", .string "string")]]),
        ("items", .object [("type", .string "integer")])])).toOption = some schema ∧
      schema.root.IsDrafted ∧ schema.root.prefixCount = 1 ∧
      ∃ step ∈ (schema.trace .standard (.array [.bool true]) []).1.children, ∃ subschema,
        step.subject = .rule (.items subschema) ∧ step.isValid = false ∧ step.reached = ["0"] := by
  let check (schema : Schema) : Bool := (schema.document.hasDistinctNames && schema.root.prefixCount = 1) &&
    (schema.trace .standard (.array [.bool true]) []).1.children.any fun step =>
      match step.subject with
      | .rule (.items _) => !step.isValid && step.reached = ["0"]
      | _ => false
  refine (Option.map_eq_some_iff.mp (?_ : Option.map check _ = some true)).imp fun schema ⟨compiled, holds⟩ =>
    ⟨compiled, ?_⟩
  · decide +kernel
  obtain ⟨known, found⟩ := Bool.and_eq_true_iff.mp holds
  obtain ⟨distinct, counted⟩ := Bool.and_eq_true_iff.mp known
  obtain ⟨step, inside, holds⟩ := List.any_eq_true.mp found
  have drafted := isDrafted_of_compile Options.knowsOnlyDraft_standard compiled distinct schema.rootIndex
  refine ⟨drafted, of_decide_eq_true counted, step, inside, ?_⟩
  split at holds
  · next subschema subject =>
    obtain ⟨fails, reached⟩ := Bool.and_eq_true_iff.mp holds
    exact ⟨subschema, subject, by simpa using fails, of_decide_eq_true reached⟩
  · cases holds

end JsonSchema
