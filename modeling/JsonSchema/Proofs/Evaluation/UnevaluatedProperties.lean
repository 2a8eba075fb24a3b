import JsonSchema.Proofs.Evaluation.Closed

/-! # Unevaluated members

The rule `unevaluatedProperties` applies its sub-schema to exactly the members that no other rule of the schema
object evaluates. What a rule evaluates is told without attached values: by its own names and patterns, or
through the sub-schemas that were applied in place and are valid (`Rule.EvaluatesMember`, `Trace.Evaluates`).
-/

namespace JsonSchema

/-- Whether a rule evaluates the member of a name by itself. Additional properties are those that no rule of the
schema object declares or matches; after the rule about unevaluated properties none is left. -/
def Rule.EvaluatesMember (owner : Application) (_ : Trace) (rule : Rule) (name : String) : Prop :=
  name ∈ owner.value.memberNames ∧
    match rule with
    | .properties schemas => name ∈ schemas.map (·.1)
    | .patternProperties schemas => ∃ entry ∈ schemas, entry.1.isMatch name = true
    | .additionalProperties _ =>
      (∀ schemas, .properties schemas ∈ owner.node.rules → name ∉ schemas.map (·.1)) ∧
        ∀ schemas, .patternProperties schemas ∈ owner.node.rules → ∀ entry ∈ schemas, entry.1.isMatch name = false
    | .unevaluatedProperties _ => True
    | _ => False

/-! ## The names that rules attach -/

/-- The keywords whose attached values are lists of names. -/
def memberKeywords : List StandardKeyword :=
  [.properties, .patternProperties, .additionalProperties, .unevaluatedProperties]

theorem standard_mem_of_mem_memberKeywords :
    ∀ keyword ∈ memberKeywords, KeywordSpec.standard keyword ∈ Draft.dialect.keywords := by
  rw [Draft.keywords_eq]
  decide +kernel

/-- Whether an attached value names a member. -/
def TellsMember (_ : Json) (entry : String × Json) (name : String) : Prop :=
  ∃ keyword ∈ memberKeywords, entry.1 = keyword.name ∧ ∃ names, entry.2 = .array names ∧ .string name ∈ names

theorem mem_namesValue {names : List String} {name : String} :
    (∃ items, namesValue names = .array items ∧ .string name ∈ items) ↔ name ∈ names := by
  simp [namesValue]

theorem mem_sortNames {names : List String} {name : String} : name ∈ sortNames names ↔ name ∈ names := by
  rw [sortNames, Json.mem_keys_sortMembers, List.map_map]
  simp

namespace Facts

variable {facts : Facts}

/-- The names taken for evaluated are those that attached values tell. -/
theorem mem_evaluatedNames (instance_ : Json) {name : String} :
    name ∈ facts.evaluatedNames ↔ ∃ entry ∈ facts.attached, TellsMember instance_ entry name := by
  have collected : name ∈ facts.evaluatedNames ↔
      ∃ keyword ∈ memberKeywords, ∃ names, .array names ∈ facts.attachedBy keyword ∧ .string name ∈ names := by
    simp [evaluatedNames, memberKeywords, Json.items?_eq_some_iff, Json.string?_eq_some_iff, or_and_right, exists_or]
  rw [collected]
  constructor
  · rintro ⟨keyword, member, names, inside, named⟩
    exact ⟨_, mem_attachedBy.mp inside, keyword, member, rfl, names, rfl, named⟩
  · rintro ⟨⟨other, value⟩, inside, keyword, member, rfl, names, rfl, named⟩
    exact ⟨keyword, member, names, mem_attachedBy.mpr inside, named⟩

end Facts

namespace Rule

/-- Whether a rule about members selects those of a name, given what it looks at. -/
def SelectsName (facts : Facts) : Rule → String → Prop
  | .properties schemas, name => name ∈ schemas.map (·.1)
  | .patternProperties schemas, name => ∃ entry ∈ schemas, entry.1.isMatch name = true
  | .additionalProperties _, name => facts.declares name = false ∧ facts.matchesPattern name = false
  | .unevaluatedProperties _, name => name ∉ facts.evaluatedNames
  | _, _ => False

/-- A valid rule about members attaches the names of the members that it selects. -/
theorem conclude_members {rule : Rule} {keyword : StandardKeyword} (kind : keyword ∈ memberKeywords)
    (means : rule.standard? = some keyword) {facts : Facts} {target : Option Target} {members : List (String × Json)}
    {outcomes : List Outcome} (valid : ((rule.plan facts target (.object members)).conclude outcomes).isValid = true) :
    ∃ names, (rule.plan facts target (.object members)).conclude outcomes = .annotated (namesValue names) ∧
      ∀ name, name ∈ names ↔ name ∈ members.map (·.1) ∧ rule.SelectsName facts name := by
  simp only [memberKeywords, List.mem_cons, List.not_mem_nil, or_false] at kind
  rcases kind with rfl | rfl | rfl | rfl
  · obtain ⟨schemas, rfl⟩ := forms_of_standard? means
    refine ⟨_, Plan.conclude_all valid, fun name => ?_⟩
    have present : (∃ value, assoc? name members = some value) ↔ name ∈ members.map (·.1) := by
      rw [← Option.isSome_iff_exists, isSome_assoc?_iff]
    simp [SelectsName, present, and_comm]
  · obtain ⟨schemas, rfl⟩ := forms_of_standard? means
    refine ⟨_, Plan.conclude_all valid, fun name => ?_⟩
    rw [mem_sortNames]
    simp [SelectsName]
  · obtain ⟨schema, rfl⟩ := forms_of_standard? means
    simp only [plan, Facts.planAdditionalProperties] at valid ⊢
    split at valid
    · next none =>
      refine ⟨_, rfl, fun name => ?_⟩
      simp [Facts.additionalMembers, SelectsName]
    · exact Bool.noConfusion valid
    · exact Bool.noConfusion valid
  · obtain ⟨schema, rfl⟩ := forms_of_standard? means
    refine ⟨_, Plan.conclude_all valid, fun name => ?_⟩
    simp [SelectsName]

/-- Rules about members attach nothing to other values. -/
theorem conclude_not_object {rule : Rule} {keyword : StandardKeyword} (kind : keyword ∈ memberKeywords)
    (means : rule.standard? = some keyword) {facts : Facts} {target : Option Target} {value : Json}
    (other : ∀ members, value ≠ .object members) {outcomes : List Outcome} :
    (rule.plan facts target value).conclude outcomes = .valid := by
  simp only [memberKeywords, List.mem_cons, List.not_mem_nil, or_false] at kind
  rcases kind with rfl | rfl | rfl | rfl <;> obtain ⟨schema, rfl⟩ := forms_of_standard? means <;>
    cases value with
    | object members => exact absurd rfl (other members)
    | _ => rfl

end Rule

/-! ## What attached names tell -/

namespace Facts

variable {facts : Facts} (drafted : facts.node.IsDrafted)

include drafted

theorem declares_eq_false_iff {name : String} : facts.declares name = false ↔
    ∀ schemas, .properties schemas ∈ facts.node.rules → name ∉ schemas.map (·.1) := by
  have finds {rule : Rule} : facts.rule? .properties = some rule ↔
      rule ∈ facts.node.rules ∧ rule.standard? = some .properties :=
    drafted.rule?_eq_some_iff (standard_mem_of_mem_memberKeywords _ (by decide))
  unfold declares
  cases found : facts.rule? .properties with
  | none =>
    refine ⟨fun _ schemas member => ?_, fun _ => rfl⟩
    injection found.symm.trans (finds.mpr ⟨member, rfl⟩)
  | some rule =>
    obtain ⟨member, means⟩ := finds.mp found
    obtain ⟨own, rfl⟩ := Rule.forms_of_standard? means
    have named : own.any (·.1 == name) = false ↔ name ∉ own.map (·.1) := by
      rw [← Bool.not_eq_true, List.any_eq_true, List.mem_map]
      simp only [beq_iff_eq]
    dsimp only
    rw [named]
    constructor
    · intro undeclared schemas other
      obtain rfl := Rule.properties.inj (drafted.orderly.eq_of_standard? member other means rfl)
      exact undeclared
    · exact fun undeclared => undeclared own member

theorem matchesPattern_eq_false_iff {name : String} : facts.matchesPattern name = false ↔
    ∀ schemas, .patternProperties schemas ∈ facts.node.rules → ∀ entry ∈ schemas, entry.1.isMatch name = false := by
  have finds {rule : Rule} : facts.rule? .patternProperties = some rule ↔
      rule ∈ facts.node.rules ∧ rule.standard? = some .patternProperties :=
    drafted.rule?_eq_some_iff (standard_mem_of_mem_memberKeywords _ (by decide))
  unfold matchesPattern
  cases found : facts.rule? .patternProperties with
  | none =>
    refine ⟨fun _ schemas member => ?_, fun _ => rfl⟩
    injection found.symm.trans (finds.mpr ⟨member, rfl⟩)
  | some rule =>
    obtain ⟨member, means⟩ := finds.mp found
    obtain ⟨own, rfl⟩ := Rule.forms_of_standard? means
    constructor
    · intro unmatched schemas other
      obtain rfl := Rule.patternProperties.inj (drafted.orderly.eq_of_standard? member other means rfl)
      simpa using unmatched
    · intro unmatched
      simpa using unmatched own member

end Facts

/-- A rule evaluates by itself what it selects, and if it is about unevaluated properties also what was evaluated
before. -/
theorem Rule.evaluatesMember_iff {rule : Rule} {facts : Facts} {owner : Application} {step : Trace} {name : String}
    (drafted : facts.node.IsDrafted) (same : facts.node = owner.node) :
    rule.EvaluatesMember owner step name ↔ name ∈ owner.value.memberNames ∧
      (rule.SelectsName facts name ∨ name ∈ facts.evaluatedNames ∧ ∃ schema, rule = .unevaluatedProperties schema) := by
  refine and_congr_right fun _ => ?_
  cases rule with
  | additionalProperties schema =>
    simp only [SelectsName, facts.declares_eq_false_iff drafted, facts.matchesPattern_eq_false_iff drafted, same]
    simp
  | unevaluatedProperties schema => simp [SelectsName, Classical.em, or_comm]
  | _ => simp [SelectsName]

theorem Rule.SelectsName.kind {rule : Rule} {facts : Facts} {name : String} (selects : rule.SelectsName facts name) :
    ∃ keyword ∈ memberKeywords, rule.standard? = some keyword := by
  cases rule with
  | properties schemas => exact ⟨.properties, by decide, rfl⟩
  | patternProperties schemas => exact ⟨.patternProperties, by decide, rfl⟩
  | additionalProperties schema => exact ⟨.additionalProperties, by decide, rfl⟩
  | unevaluatedProperties schema => exact ⟨.unevaluatedProperties, by decide, rfl⟩
  | _ => exact selects.elim

/-- A valid rule about members attaches the names of the members that it selects, and nothing to other values. -/
theorem Run.Performs.attaches_iff {run : Run} {active : List ActiveResource} {application : Application}
    {before : List Step} {step : Step} (performs : run.Performs active application before step)
    (valid : step.isValid = true) {keyword : StandardKeyword} (kind : keyword ∈ memberKeywords)
    (means : step.rule.standard? = some keyword) {name : String} :
    (∃ value, step.outcome.value? = some value ∧ ∃ names, value = .array names ∧ .string name ∈ names) ↔
      name ∈ application.value.memberNames ∧ step.rule.SelectsName step.facts name := by
  rw [Step.isValid, Step.outcome, Step.plan, performs.value_eq] at valid
  rw [Step.outcome, Step.plan, performs.value_eq]
  cases object : application.value with
  | object members =>
    rw [object] at valid
    obtain ⟨attached, concluded, selects⟩ := Rule.conclude_members kind means valid
    rw [concluded]
    refine Iff.trans ?_ (mem_namesValue.trans (selects name))
    simp [Outcome.value?]
  | _ =>
    rw [Rule.conclude_not_object kind means (by simp)]
    simp [Outcome.value?, Json.memberNames]

/-- The names that rules attach tell which members they evaluate. -/
theorem tells_members : Tells (fun _ => True) Rule.EvaluatesMember TellsMember := by
  constructor
  · intro run active application before step scope _ succeeds value name valued told
    obtain ⟨keyword, kind, named, names, rfl, inside⟩ := told
    have registered := standard_mem_of_mem_memberKeywords keyword kind
    have means := (succeeds.drafted.orderly.keyword_eq_iff registered succeeds.member).mp named
    have node_eq : step.facts.node = application.node := by rw [succeeds.performs.facts_eq]
    rw [Rule.evaluatesMember_iff (node_eq ▸ succeeds.drafted) node_eq]
    obtain ⟨present, selects⟩ :=
      (succeeds.performs.attaches_iff succeeds.valid kind means).mp ⟨_, valued, names, rfl, inside⟩
    exact ⟨present, .inl selects⟩
  · intro run active application before step scope _ succeeds name evaluates
    have node_eq : step.facts.node = application.node := by rw [succeeds.performs.facts_eq]
    rw [Rule.evaluatesMember_iff (node_eq ▸ succeeds.drafted) node_eq] at evaluates
    obtain ⟨present, selects | ⟨earlier, -⟩⟩ := evaluates
    · obtain ⟨keyword, kind, means⟩ := selects.kind
      obtain ⟨value, valued, names⟩ :=
        (succeeds.performs.attaches_iff succeeds.valid kind means).mpr ⟨present, selects⟩
      exact .inl ⟨value, valued, keyword, kind, Rule.keyword_of_standard? means, names⟩
    · rw [Facts.mem_evaluatedNames application.value, succeeds.performs.facts_eq] at earlier
      exact .inr earlier

/-! ## The members that are left -/

/-- In an evaluation under the draft the rule about unevaluated properties of an object applies its sub-schema to
exactly the members that no other rule of the schema object evaluates, in order, if all other rules are valid. -/
theorem Schema.unevaluatedProperties_applied (schema : Schema) (options : Options) (value : Json)
    (dialects : DialectCache) (drafted : (schema.trace options value dialects).1.IsDrafted) {object : Trace}
    (part : object ∈ (schema.trace options value dialects).1.parts) (branch : object.isBranch = true)
    {application : Application} (applied : object.subject = .application application)
    {members : List (String × Json)} (instance_ : application.value = .object members) {subschema : Nat}
    (ruled : .unevaluatedProperties subschema ∈ application.node.rules)
    (succeeded : ∀ step ∈ object.children, step.subject ≠ .rule (.unevaluatedProperties subschema) →
      step.isValid = true) :
    ∃ evaluated : String → Bool,
      (∀ name, evaluated name = true ↔
        object.EvaluatesBeside Rule.EvaluatesMember (.unevaluatedProperties subschema) name) ∧
      ∃ step ∈ object.children, step.subject = .rule (.unevaluatedProperties subschema) ∧
        step.children.map (·.subject) = (members.filter (!evaluated ·.1)).map fun member => .application
          ⟨⟨application.target.document, subschema⟩, member.2, some member.1, none, false⟩ := by
  obtain ⟨path, result, yields, rfl⟩ := (Run.yields_evaluate ⟨options, schema⟩ value ⟨[], dialects⟩).part part applied
  have root := drafted _ part application applied
  have silent (other : Rule) (inside : other ∈ application.node.rules) (late : other.category = .unevaluated)
      (different : other ≠ .unevaluatedProperties subschema) (step : Trace) (name : String) :
      ¬ other.EvaluatesMember application step name := by
    rintro ⟨-, evaluates⟩
    cases other with
    | unevaluatedProperties schema => exact different (root.orderly.eq_of_standard? inside ruled rfl rfl)
    | properties schemas | patternProperties schemas | additionalProperties schema => cases late
    | _ => exact evaluates
  obtain ⟨active, before, step, scope, same, performs, member, applications, told⟩ :=
    yields.unevaluated tells_members trivial (drafted.part part) branch ruled rfl silent succeeded
  refine ⟨fun name => decide (name ∈ step.facts.evaluatedNames), ?_, step.trace scope, member, ?_, ?_⟩
  · intro name
    rw [decide_eq_true_iff, Facts.mem_evaluatedNames application.value, performs.facts_eq, told]
  · rw [step.subject_trace, same]
  · rw [applications, Step.plan, same, performs.value_eq, instance_, performs.facts_eq]
    simp only [Rule.plan, Facts.planUnevaluatedProperties, Plan.all, List.map_map, List.contains_eq_mem]
    rfl

/-- A member that only a failed branch declares is left, one that a referenced schema declares is not. -/
theorem Schema.unevaluatedProperties_behind_failed_branch :
    ∃ schema, (compile .standard (Draft.url "example") (.object [
        ("$defs", .object [("tail", .object [("properties", .object [("tail", .bool true)])])]),
        ("allOf", .array [.object [("$ref", .string "#/$defs/tail")]]),
        ("anyOf", .array [.bool true, .object [("properties", .object [("lost", .bool false)])]]),
        ("properties", .object [("name", .bool true)]),
        ("unevaluatedProperties", .object [("type", .string "integer")])])).toOption = some schema ∧
      ∃ members application subschema,
        let object := (schema.trace .standard (.object members) []).1
        members = [("lost", .ofNat 1), ("name", .null), ("rest", .ofNat 2), ("tail", .null)] ∧
          object.IsDrafted ∧ object ∈ object.parts ∧ object.isBranch = true ∧
          object.subject = .application application ∧ application.value = .object members ∧
          .unevaluatedProperties subschema ∈ application.node.rules ∧
          (∀ step ∈ object.children, step.subject ≠ .rule (.unevaluatedProperties subschema) → step.isValid = true) ∧
          ∃ evaluated : String → Bool,
            (∀ name, evaluated name = true ↔
              object.EvaluatesBeside Rule.EvaluatesMember (.unevaluatedProperties subschema) name) ∧
            (members.filter (!evaluated ·.1)).map (·.1) = ["lost", "rest"] := by
  let members : List (String × Json) := [("lost", .ofNat 1), ("name", .null), ("rest", .ofNat 2), ("tail", .null)]
  let check (schema : Schema) : Bool :=
    schema.reaches .standard (.object members) .unevaluatedProperties ["lost", "rest"]
  refine (Option.map_eq_some_iff.mp (?_ : Option.map check _ = some true)).imp fun schema ⟨compiled, reaches⟩ =>
    ⟨compiled, members, .inPlace ⟨schema.document, schema.rootIndex⟩ (.object members) none, ?_⟩
  · decide +kernel
  obtain ⟨drafted, branch, valid, rule, member, means, reached⟩ := of_reaches Options.knowsOnlyDraft_standard compiled
    (standard_mem_of_mem_memberKeywords _ (by decide)) reaches
  obtain ⟨subschema, rfl⟩ := Rule.forms_of_standard? means
  have subject := schema.subject_trace .standard (.object members) []
  have part := Trace.self_mem_parts (schema.trace .standard (.object members) []).1
  obtain ⟨evaluated, evaluates, step, inside, ruled, applied⟩ := unevaluatedProperties_applied schema .standard
    (.object members) [] drafted part branch subject rfl member fun step inside _ => valid step inside
  refine ⟨subschema, rfl, drafted, part, branch, subject, rfl, member, fun step inside _ => valid step inside,
    evaluated, evaluates, ?_⟩
  rw [← reached step inside ruled]
  exact (Trace.reached_eq applied fun _ => rfl).symm

end JsonSchema
