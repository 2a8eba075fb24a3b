import JsonSchema.Proofs.Evaluation.Siblings
import JsonSchema.Proofs.Evaluation.UnevaluatedProperties

/-! # How members are divided

`properties` goes through its names, `patternProperties` through the members and its patterns, and
`additionalProperties` through the members again, where it looks up the compiled rules of the other two, whether or not
these were satisfied. The three agree on what is declared and what is matched: a member is given to the sub-schema of
`additionalProperties` just if neither of the others takes it (`Rule.GivesTo`, `Run.Traces.appliesToMember_iff`). The
names that they attach when they succeed therefore cover the members, and those of `additionalProperties` stand apart
(`Schema.members_divided`).
-/

namespace JsonSchema

/-- The keywords that divide the members. -/
def divisionKeywords : List StandardKeyword := [.properties, .patternProperties, .additionalProperties]

namespace Node

/-- Whether `properties` of a schema object has a sub-schema for a name. -/
def Declares (node : Node) (name : String) : Prop :=
  ∃ schemas, .properties schemas ∈ node.rules ∧ name ∈ schemas.map (·.1)

/-- Whether `patternProperties` of a schema object has a pattern that matches a name. -/
def MatchesName (node : Node) (name : String) : Prop :=
  ∃ schemas, .patternProperties schemas ∈ node.rules ∧ ∃ entry ∈ schemas, entry.1.isMatch name = true

/-- Whether a keyword of a schema object takes the members of a name. -/
def Takes (node : Node) (keyword : StandardKeyword) (name : String) : Prop :=
  match keyword with
  | .properties => node.Declares name
  | .patternProperties => node.MatchesName name
  | .additionalProperties => node.HasRule .additionalProperties ∧ ¬ node.Declares name ∧ ¬ node.MatchesName name
  | _ => False

theorem Takes.hasRule {node : Node} {keyword : StandardKeyword} {name : String} (takes : node.Takes keyword name) :
    node.HasRule keyword := by
  cases keyword with
  | properties | patternProperties =>
    obtain ⟨schemas, ruled, -⟩ := takes
    exact ⟨_, ruled, rfl⟩
  | additionalProperties => exact takes.1
  | _ => exact takes.elim

end Node

/-- Whether a rule of a schema object is to give a member to a sub-schema. -/
def Rule.GivesTo (rule : Rule) (node : Node) (members : List (String × Json)) (subschema : Nat)
    (member : String × Json) : Prop :=
  match rule with
  | .properties schemas => assoc? member.1 members = some member.2 ∧ (member.1, subschema) ∈ schemas
  | .patternProperties schemas =>
    member ∈ members ∧ ∃ pattern, (pattern, subschema) ∈ schemas ∧ pattern.isMatch member.1 = true
  | .additionalProperties own =>
    own = subschema ∧ member ∈ members ∧ ¬ node.Declares member.1 ∧ ¬ node.MatchesName member.1
  | _ => False

/-- The application of a sub-schema to a member. -/
def Application.IsToMember (application : Application) (target : Target) (member : String × Json) : Prop :=
  ∃ token, application = ⟨target, member.2, some member.1, token, false⟩

namespace Trace

/-- Whether a keyword applied a sub-schema to a member of the instance, given the trace of a schema object. -/
def AppliesToMember (object : Trace) (keyword : StandardKeyword) (target : Target) (member : String × Json) : Prop :=
  ∃ inner, .application inner ∈ (object.appliedBy keyword).map (·.subject) ∧ inner.IsToMember target member

/-- Whether a keyword attached a list of names with the given one, given the trace of a schema object. -/
def Names (object : Trace) (keyword : StandardKeyword) (name : String) : Prop :=
  ∃ step ∈ object.stepsOf keyword, ∃ names, step.outcome.value? = some (namesValue names) ∧ name ∈ names

end Trace

theorem namesValue_injective : Function.Injective namesValue := fun _ _ same =>
  List.map_injective_iff.mpr (fun _ _ => Json.string.inj) (Json.array.inj same)

/-! ## What the rules do -/

namespace Facts

variable {facts : Facts} (drafted : facts.node.IsDrafted) {name : String}

include drafted

theorem declares_eq_false_iff_not : facts.declares name = false ↔ ¬ facts.node.Declares name := by
  rw [facts.declares_eq_false_iff drafted]
  exact ⟨fun undeclared ⟨schemas, member, inside⟩ => undeclared schemas member inside,
    fun undeclared schemas member inside => undeclared ⟨schemas, member, inside⟩⟩

theorem matchesPattern_eq_false_iff_not : facts.matchesPattern name = false ↔ ¬ facts.node.MatchesName name := by
  rw [facts.matchesPattern_eq_false_iff drafted]
  simp [Node.MatchesName]

end Facts

namespace Rule

variable {rule : Rule} {keyword : StandardKeyword} (kind : keyword ∈ divisionKeywords)
  (means : rule.standard? = some keyword) {facts : Facts} {target : Option Target} {members : List (String × Json)}

include kind means

theorem division_forms : (∃ schemas, rule = .properties schemas) ∨ (∃ schemas, rule = .patternProperties schemas) ∨
    ∃ schema, rule = .additionalProperties schema := by
  simp only [divisionKeywords, List.mem_cons, List.not_mem_nil, or_false] at kind
  rcases kind with rfl | rfl | rfl
  · exact .inl (forms_of_standard? means)
  · exact .inr (.inl (forms_of_standard? means))
  · exact .inr (.inr (forms_of_standard? means))

/-- A rule that divides the members applies sub-schemas of its document to members, and nothing else. -/
theorem isToMember_of_mem_plan {application : Application}
    (planned : application ∈ (rule.plan facts target (.object members)).applications) :
    ∃ subschema member, application.IsToMember ⟨facts.document, subschema⟩ member := by
  rcases division_forms kind means with ⟨own, rfl⟩ | ⟨own, rfl⟩ | ⟨own, rfl⟩ <;>
    obtain ⟨given, -, rfl⟩ := List.mem_map.mp planned <;> exact ⟨_, _, _, rfl⟩

/-- A rule that divides the members plans to apply what it is to give to them. -/
theorem gives_plan_iff (drafted : facts.node.IsDrafted) {subschema : Nat} {member : String × Json} :
    (∃ application ∈ (rule.plan facts target (.object members)).applications,
        application.IsToMember ⟨facts.document, subschema⟩ member) ↔
      rule.GivesTo facts.node members subschema member := by
  obtain ⟨name, value⟩ := member
  have apart : facts.declares name = false ∧ facts.matchesPattern name = false ↔
      ¬ facts.node.Declares name ∧ ¬ facts.node.MatchesName name :=
    and_congr (facts.declares_eq_false_iff_not drafted) (facts.matchesPattern_eq_false_iff_not drafted)
  rcases division_forms kind means with ⟨own, rfl⟩ | ⟨own, rfl⟩ | ⟨own, rfl⟩
  · simp only [plan, Facts.planProperties, Plan.all, Application.IsToMember, GivesTo, Facts.applyToMember, Facts.apply]
    simp [and_comm]
  · simp [plan, Facts.planPatternProperties, Plan.all, Facts.applyToMember, Facts.apply, Application.IsToMember,
      GivesTo]
  · rw [GivesTo, ← apart]
    simp [plan, Facts.planAdditionalProperties, Facts.additionalMembers, Facts.applyToMember, Facts.apply,
      Application.IsToMember, and_comm]

/-- A valid rule that divides the members attaches the names of those that its keyword takes. -/
theorem conclude_division (drafted : facts.node.IsDrafted) (ruled : rule ∈ facts.node.rules) {outcomes : List Outcome}
    (valid : ((rule.plan facts target (.object members)).conclude outcomes).isValid = true) :
    ∃ names, (rule.plan facts target (.object members)).conclude outcomes = .annotated (namesValue names) ∧
      ∀ name, name ∈ names ↔ name ∈ members.map (·.1) ∧ facts.node.Takes keyword name := by
  have member := (by decide : ∀ keyword ∈ divisionKeywords, keyword ∈ memberKeywords) keyword kind
  obtain ⟨names, concluded, selects⟩ := conclude_members member means valid
  refine ⟨names, concluded, fun name => (selects name).trans (and_congr_right fun _ => ?_)⟩
  rcases division_forms kind means with ⟨own, rfl⟩ | ⟨own, rfl⟩ | ⟨own, rfl⟩ <;> cases means
  · refine ⟨fun inside => ⟨own, ruled, inside⟩, fun ⟨others, other, inside⟩ => ?_⟩
    obtain rfl := Rule.properties.inj (drafted.orderly.eq_of_standard? ruled other rfl rfl)
    exact inside
  · refine ⟨fun inside => ⟨own, ruled, inside⟩, fun ⟨others, other, inside⟩ => ?_⟩
    obtain rfl := Rule.patternProperties.inj (drafted.orderly.eq_of_standard? ruled other rfl rfl)
    exact inside
  · rw [SelectsName, facts.declares_eq_false_iff_not drafted, facts.matchesPattern_eq_false_iff_not drafted]
    exact (and_iff_right ⟨_, ruled, rfl⟩).symm

end Rule

/-! ## What the keywords do -/

namespace Run.Traces

variable {run : Run} {active : List ActiveResource} {application : Application} {steps : List Step} {scope : Scope}
  {object : Trace} (traces : run.Traces active application steps scope object) (drafted : application.node.IsDrafted)
  {members : List (String × Json)} (instance_ : application.value = .object members)
  {keyword : StandardKeyword} (kind : keyword ∈ divisionKeywords)

include traces drafted instance_ kind

/-- The step of a keyword, unless it has no rule. -/
theorem division_cases :
    (∃ before step, step.rule ∈ application.node.rules ∧ step.rule.standard? = some keyword ∧
      object.stepsOf keyword = [step.trace scope] ∧ run.Performs active application before step ∧
      (object.appliedBy keyword).map (·.subject) =
        (step.rule.plan step.facts step.target (.object members)).applications.map .application) ∨
    ¬ application.node.HasRule keyword ∧ object.stepsOf keyword = [] := by
  have applied := (by decide : ∀ keyword ∈ divisionKeywords, keyword.category ≠ .reserved) keyword kind
  rcases traces.stepsOf_cases drafted keyword applied with ⟨step, inside, means, single⟩ | absent
  · obtain ⟨before, after, -, performs⟩ := traces.carried.performs_of_mem inside
    refine .inl ⟨before, step, traces.rule_mem inside, means, single, performs, ?_⟩
    rw [Trace.appliedBy_of_singleton single, traces.subjects_trace inside, Step.plan, performs.value_eq, instance_]
  · exact .inr absent

/-- The keywords that divide the members apply sub-schemas to members only. -/
theorem isToMember_of_mem_appliedBy {sub : Trace} (applied : sub ∈ object.appliedBy keyword) :
    ∃ inner subschema member, sub.subject = .application inner ∧
      inner.IsToMember ⟨application.target.document, subschema⟩ member := by
  rcases traces.division_cases drafted instance_ kind with ⟨_, step, -, means, -, performs, subjects⟩ | ⟨-, none⟩
  · have inside := List.mem_map_of_mem (f := (·.subject)) applied
    rw [subjects] at inside
    obtain ⟨inner, planned, same⟩ := List.mem_map.mp inside
    obtain ⟨subschema, member, given⟩ := Rule.isToMember_of_mem_plan kind means planned
    rw [performs.facts_eq] at given
    exact ⟨inner, subschema, member, same.symm, given⟩
  · rw [Trace.appliedBy_of_nil none] at applied
    exact absurd applied List.not_mem_nil

/-- The keywords that divide the members apply what their rules are to give to them. -/
theorem appliesToMember_iff {subschema : Nat} {member : String × Json} :
    object.AppliesToMember keyword ⟨application.target.document, subschema⟩ member ↔
      ∃ rule ∈ application.node.rules, rule.standard? = some keyword ∧
        rule.GivesTo application.node members subschema member := by
  rcases traces.division_cases drafted instance_ kind with
    ⟨_, step, ruled, means, -, performs, subjects⟩ | ⟨absent, none⟩
  · have node_eq : step.facts.node = application.node := by rw [performs.facts_eq]
    have document_eq : step.facts.document = application.target.document := by rw [performs.facts_eq]
    have gives : (∃ inner ∈ (step.rule.plan step.facts step.target (.object members)).applications,
        inner.IsToMember ⟨step.facts.document, subschema⟩ member) ↔
          step.rule.GivesTo step.facts.node members subschema member :=
      Rule.gives_plan_iff kind means (node_eq ▸ drafted)
    rw [node_eq, document_eq] at gives
    have planned : object.AppliesToMember keyword ⟨application.target.document, subschema⟩ member ↔
        step.rule.GivesTo application.node members subschema member := by
      rw [Trace.AppliesToMember, subjects]
      simpa using gives
    refine planned.trans ⟨fun given => ⟨step.rule, ruled, means, given⟩, fun ⟨rule, other, same, given⟩ => ?_⟩
    rwa [drafted.orderly.eq_of_standard? ruled other means same]
  · refine iff_of_false ?_ fun ⟨rule, ruled, means, _⟩ => absent ⟨rule, ruled, means⟩
    rintro ⟨inner, applied, -⟩
    rw [Trace.appliedBy_of_nil none] at applied
    exact absurd applied List.not_mem_nil

/-- A keyword that divides the members and succeeds attaches the names that it takes. -/
theorem names_iff (succeeds : object.Succeeds keyword) (name : String) :
    object.Names keyword name ↔ name ∈ members.map (·.1) ∧ application.node.Takes keyword name := by
  rcases traces.division_cases drafted instance_ kind with
    ⟨_, step, ruled, means, single, performs, -⟩ | ⟨absent, none⟩
  · have node_eq : step.facts.node = application.node := by rw [performs.facts_eq]
    rw [Trace.succeeds_of_singleton single, Step.isValid_trace, Step.isValid, Step.outcome, Step.plan,
      performs.value_eq, instance_] at succeeds
    obtain ⟨names, concluded, takes⟩ :=
      Rule.conclude_division kind means (node_eq ▸ drafted) (node_eq ▸ ruled) succeeds
    have outcome : step.outcome = .annotated (namesValue names) := by
      rw [Step.outcome, Step.plan, performs.value_eq, instance_, concluded]
    rw [← node_eq, ← takes, Trace.Names, single]
    simp only [List.mem_singleton, exists_eq_left, Step.outcome_trace, outcome, Outcome.value?, Option.some.injEq,
      namesValue_injective.eq_iff, exists_eq_left']
  · refine iff_of_false ?_ fun taken => absent taken.2.hasRule
    rintro ⟨step, member, -⟩
    rw [none] at member
    exact absurd member List.not_mem_nil

end Run.Traces

/-! ## The keywords together -/

/-- In an evaluation the keywords of a schema object of the draft that divide the members of an object apply their
sub-schemas to members only: `properties` to the members that it declares, `patternProperties` to those that its
patterns match, `additionalProperties` to exactly those that are neither declared nor matched. If all of them that there
are succeed, each attaches the names of the members that it takes; with `additionalProperties` among them these lists
cover the members, and none of its names is in the other lists. -/
theorem Schema.members_divided (schema : Schema) (options : Options) (value : Json) (dialects : DialectCache)
    {object : Trace} (part : object ∈ (schema.trace options value dialects).1.parts) (branch : object.isBranch = true)
    {application : Application} (applied : object.subject = .application application)
    (drafted : application.node.IsDrafted) {members : List (String × Json)}
    (instance_ : application.value = .object members) :
    object.CarriesOut application.node ∧
      (∀ keyword ∈ divisionKeywords,
        (∀ sub ∈ object.appliedBy keyword, ∃ inner subschema member, sub.subject = .application inner ∧
          inner.IsToMember ⟨application.target.document, subschema⟩ member) ∧
        ∀ subschema member, object.AppliesToMember keyword ⟨application.target.document, subschema⟩ member ↔
          ∃ rule ∈ application.node.rules, rule.standard? = some keyword ∧
            rule.GivesTo application.node members subschema member) ∧
      ((∀ keyword ∈ divisionKeywords, object.Succeeds keyword) →
        (∀ keyword ∈ divisionKeywords, ∀ name,
          object.Names keyword name ↔ name ∈ members.map (·.1) ∧ application.node.Takes keyword name) ∧
        (application.node.HasRule .additionalProperties →
          (∀ name ∈ members.map (·.1), ∃ keyword ∈ divisionKeywords, object.Names keyword name) ∧
          ∀ name, object.Names .additionalProperties name →
            ¬ object.Names .properties name ∧ ¬ object.Names .patternProperties name)) := by
  obtain ⟨path, result, yields, rfl⟩ := (Run.yields_evaluate ⟨options, schema⟩ value ⟨[], dialects⟩).part part applied
  obtain ⟨active, steps, scope, traces⟩ := yields.traces branch
  refine ⟨traces.carriesOut, fun keyword kind => ⟨fun sub => traces.isToMember_of_mem_appliedBy drafted instance_ kind,
    fun subschema member => traces.appliesToMember_iff drafted instance_ kind⟩, fun succeed => ?_⟩
  have names (keyword : StandardKeyword) (kind : keyword ∈ divisionKeywords) :=
    traces.names_iff drafted instance_ kind (succeed keyword kind)
  refine ⟨names, fun additional => ⟨fun name member => ?_, fun name named => ?_⟩⟩
  · by_cases declared : application.node.Declares name
    · exact ⟨.properties, by decide, (names _ (by decide) name).mpr ⟨member, declared⟩⟩
    · by_cases matched : application.node.MatchesName name
      · exact ⟨.patternProperties, by decide, (names _ (by decide) name).mpr ⟨member, matched⟩⟩
      · exact ⟨.additionalProperties, by decide,
          (names _ (by decide) name).mpr ⟨member, additional, declared, matched⟩⟩
  · obtain ⟨-, -, undeclared, unmatched⟩ := (names _ (by decide) name).mp named
    exact ⟨fun other => undeclared ((names _ (by decide) name).mp other).2,
      fun other => unmatched ((names _ (by decide) name).mp other).2⟩

/-- A member that is neither declared nor matched is left to the additional properties, and only that one. -/
theorem Schema.members_divided_rest :
    ∃ schema, (compile .standard (Draft.url "example") (.object [
        ("additionalProperties", .object [("type", .string "integer")]),
        ("patternProperties", .object [("^x-", .bool true)]),
        ("properties", .object [("name", .bool true), ("other", .bool true)])])).toOption = some schema ∧
      ∃ members application subschema,
        let object := (schema.trace .standard (.object members) []).1
        members = [("name", .null), ("rest", .ofNat 2), ("x-y", .null)] ∧
          object ∈ object.parts ∧ object.isBranch = true ∧ object.subject = .application application ∧
          application.node.IsDrafted ∧ application.value = .object members ∧
          .additionalProperties subschema ∈ application.node.rules ∧
          (∀ keyword ∈ divisionKeywords, object.Succeeds keyword) ∧
          (∀ name, object.Names .additionalProperties name ↔
            name ∈ members.map (·.1) ∧ application.node.Takes .additionalProperties name) ∧
          ∀ name ∈ members.map (·.1), ∃ keyword ∈ divisionKeywords, object.Names keyword name := by
  let members : List (String × Json) := [("name", .null), ("rest", .ofNat 2), ("x-y", .null)]
  let check (schema : Schema) : Bool :=
    schema.reaches .standard (.object members) .additionalProperties ["rest"]
  refine (Option.map_eq_some_iff.mp (?_ : Option.map check _ = some true)).imp fun schema ⟨compiled, reaches⟩ =>
    ⟨compiled, members, .inPlace ⟨schema.document, schema.rootIndex⟩ (.object members) none, ?_⟩
  · decide +kernel
  obtain ⟨drafted, branch, valid, rule, member, means, reached⟩ := of_reaches Options.knowsOnlyDraft_standard compiled
    (standard_mem_of_mem_memberKeywords _ (by decide)) reaches
  obtain ⟨subschema, rfl⟩ := Rule.forms_of_standard? means
  have subject := schema.subject_trace .standard (.object members) []
  have part := Trace.self_mem_parts (schema.trace .standard (.object members) []).1
  have node := drafted _ part _ subject
  obtain ⟨-, -, told⟩ := members_divided schema .standard (.object members) [] part branch subject node rfl
  have succeed (keyword : StandardKeyword) (_ : keyword ∈ divisionKeywords) :
      (schema.trace .standard (.object members) []).1.Succeeds keyword :=
    fun step inside => valid step (List.mem_of_mem_filter inside)
  obtain ⟨names, together⟩ := told succeed
  exact ⟨subschema, rfl, part, branch, subject, node, rfl, member, succeed, names _ (by decide),
    (together ⟨_, member, rfl⟩).1⟩

end JsonSchema
