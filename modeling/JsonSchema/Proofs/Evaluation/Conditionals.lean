import JsonSchema.Proofs.Evaluation.Closed
import JsonSchema.Proofs.Evaluation.Siblings

/-! # Conditionals

A condition always succeeds; what its sub-schema says of the instance is attached as a truth, also if it is false. The
branches read this truth off the outcome of the condition in the same schema object, and only the branch of this truth
applies its sub-schema (`Run.Traces.branch_applied`). So the three keywords succeed just if the branch that is
selected, if any, is valid (`Schema.conditionals_exact`).
-/

namespace JsonSchema

/-- The keyword of the branch for a condition of the given truth. -/
def branchKeyword (truth : Bool) : StandardKeyword := if truth then .consequence else .alternative

/-- What the first sub-schema that a keyword applied says of its value, given the trace of a schema object. -/
def Trace.verdict? (object : Trace) (keyword : StandardKeyword) : Option Bool :=
  (object.appliedBy keyword).head?.map (·.isValid)

theorem Trace.verdict?_of_singleton {object step result : Trace} {keyword : StandardKeyword}
    (single : object.stepsOf keyword = [step]) (below : step.children = [result]) :
    object.verdict? keyword = some result.isValid := by
  rw [verdict?, appliedBy_of_singleton single, below]
  rfl

theorem Rule.eq_of_standard?_branch {rule : Rule} {truth : Bool}
    (means : rule.standard? = some (branchKeyword truth)) : ∃ schema, rule = .branch truth schema := by
  cases rule with
  | branch other schema => cases truth <;> cases other <;> cases means <;> exact ⟨_, rfl⟩
  | assertion check => cases truth <;> cases check <;> cases means
  | format name asserted => cases truth <;> cases asserted <;> cases means
  | _ => cases truth <;> cases means

theorem standard_condition_mem : KeywordSpec.standard .condition ∈ Draft.dialect.keywords := by
  rw [Draft.keywords_eq]
  decide +kernel

namespace Run

/-- A rule that applies one sub-schema has one result. -/
theorem Performs.exists_single {run : Run} {active : List ActiveResource} {application inner : Application}
    {before : List Step} {step : Step} (performs : run.Performs active application before step)
    (one : step.plan.applications = [inner]) (scope : Scope) :
    ∃ result : Application × Applied, step.results = [result] ∧ (step.trace scope).children = [result.2.trace] := by
  have planned := performs.applications_eq.trans one
  obtain ⟨result, results, -⟩ := List.map_eq_singleton_iff.mp planned
  exact ⟨result, results, by rw [performs.children_trace, results]; rfl⟩

namespace Traces

variable {run : Run} {active : List ActiveResource} {application : Application} {steps : List Step} {scope : Scope}
  {object : Trace} (traces : run.Traces active application steps scope object) (drafted : application.node.IsDrafted)

include traces drafted

/-! ## The condition -/

theorem condition_applied {subschema : Nat} (member : .condition subschema ∈ application.node.rules) :
    (object.appliedBy .condition).map (·.subject) =
      [.application (.inPlace ⟨application.target.document, subschema⟩ application.value none)] := by
  obtain ⟨step, inside, ruled⟩ := traces.exists_step member rfl (by decide)
  obtain ⟨before, after, -, performs⟩ := traces.carried.performs_of_mem inside
  rw [Trace.appliedBy_of_singleton (traces.stepsOf_eq drafted inside (ruled ▸ rfl)), traces.subjects_trace inside,
    Step.plan, ruled, performs.value_eq, performs.facts_eq]
  rfl

theorem condition_succeeds : object.Succeeds .condition := by
  rcases traces.stepsOf_cases drafted .condition (by decide) with ⟨step, inside, means, single⟩ | ⟨-, none⟩
  · obtain ⟨subschema, ruled⟩ := Rule.forms_of_standard? means
    rw [Trace.succeeds_of_singleton single, Step.isValid_trace, Step.isValid, Step.outcome, Step.plan, ruled]
    rfl
  · exact Trace.succeeds_of_nil none

/-- The truth that the condition attaches is what its sub-schema says of the instance. -/
theorem verdict?_condition : ((object.stepsOf .condition).head?.bind (·.outcome.value?)).bind (·.bool?) =
    object.verdict? .condition := by
  rcases traces.stepsOf_cases drafted .condition (by decide) with ⟨step, inside, means, single⟩ | ⟨-, none⟩
  · obtain ⟨subschema, ruled⟩ := Rule.forms_of_standard? means
    obtain ⟨before, after, -, performs⟩ := traces.carried.performs_of_mem inside
    obtain ⟨result, results, below⟩ := performs.exists_single (by rw [Step.plan, ruled]; rfl) scope
    rw [Trace.verdict?_of_singleton single below, single, List.head?_cons, Option.bind_some, Step.outcome_trace,
      Step.outcome, Step.plan, ruled, results]
    simp only [Rule.plan, Facts.planCondition, List.map_cons, List.map_nil, List.all_cons, List.all_nil, Bool.and_true]
    rfl
  · rw [Trace.verdict?, Trace.appliedBy_of_nil none, none]
    rfl

/-- There is a verdict on the condition unless it has no rule. -/
theorem verdict?_condition_eq_none_iff :
    object.verdict? .condition = none ↔ ¬ application.node.HasRule .condition := by
  rcases traces.stepsOf_cases drafted .condition (by decide) with ⟨step, inside, means, single⟩ | ⟨absent, none⟩
  · have present : application.node.HasRule .condition := ⟨step.rule, traces.rule_mem inside, means⟩
    obtain ⟨subschema, ruled⟩ := Rule.forms_of_standard? means
    obtain ⟨before, after, -, performs⟩ := traces.carried.performs_of_mem inside
    obtain ⟨result, -, below⟩ := performs.exists_single (by rw [Step.plan, ruled]; rfl) scope
    rw [Trace.verdict?_of_singleton single below]
    exact iff_of_false (Option.some_ne_none _) (not_not_intro present)
  · refine iff_of_true ?_ absent
    rw [Trace.verdict?, Trace.appliedBy_of_nil none]
    rfl

/-! ## The branches -/

/-- The plan of a branch is decided by what the sub-schema of the condition says. -/
theorem plan_of_branch {step : Step} (inside : step ∈ steps) {truth : Bool} {subschema : Nat}
    (ruled : step.rule = .branch truth subschema) :
    step.plan = if object.verdict? .condition = some truth then
      { applications := [.inPlace ⟨application.target.document, subschema⟩ application.value none]
        conclude := fun outcomes => .require (outcomes.all (·.isValid))
          ("Must match the " ++ quoted (if truth then "then" else "else") ++ " subschema") }
      else .done .valid := by
  obtain ⟨before, after, -, performs⟩ := traces.carried.performs_of_mem inside
  have told := traces.siblingValue?_eq drafted inside (by rw [ruled]; rfl)
    (by cases truth <;> decide : StandardKeyword.condition.name ∈ (branchKeyword truth).dependencies)
    standard_condition_mem (by decide)
  have decided := traces.verdict?_condition drafted
  rw [← told] at decided
  rw [Step.plan, ruled, performs.value_eq, Rule.plan, Facts.planBranch, decided, performs.facts_eq]
  rfl

/-- A branch applies its sub-schema to the instance if the condition has its truth, and nothing otherwise. -/
theorem branch_applied {truth : Bool} {subschema : Nat} (member : .branch truth subschema ∈ application.node.rules) :
    (object.appliedBy (branchKeyword truth)).map (·.subject) = if object.verdict? .condition = some truth then
      [.application (.inPlace ⟨application.target.document, subschema⟩ application.value none)] else [] := by
  obtain ⟨step, inside, ruled⟩ := traces.exists_step member
    (rfl : Rule.standard? _ = some (branchKeyword truth)) (by cases truth <;> decide)
  rw [Trace.appliedBy_of_singleton (traces.stepsOf_eq drafted inside (by rw [ruled]; rfl)),
    traces.subjects_trace inside, traces.plan_of_branch drafted inside ruled]
  split <;> rfl

/-- Without a condition of its truth a branch applies nothing, whether or not it has a rule. -/
theorem branch_idle {truth : Bool} (aside : object.verdict? .condition ≠ some truth) :
    object.appliedBy (branchKeyword truth) = [] := by
  by_cases present : application.node.HasRule (branchKeyword truth)
  · obtain ⟨rule, member, means⟩ := present
    obtain ⟨subschema, rfl⟩ := Rule.eq_of_standard?_branch means
    rw [← List.map_eq_nil_iff (f := (·.subject)), traces.branch_applied drafted member, if_neg aside]
  · exact Trace.appliedBy_of_nil (traces.stepsOf_eq_nil present)

/-- A branch succeeds unless it is selected and its sub-schema is not valid. -/
theorem branch_succeeds_iff (truth : Bool) : object.Succeeds (branchKeyword truth) ↔
    (object.verdict? .condition = some truth → ¬ application.node.HasRule (branchKeyword truth) ∨
      object.verdict? (branchKeyword truth) = some true) := by
  rcases traces.stepsOf_cases drafted (branchKeyword truth) (by cases truth <;> decide) with
    ⟨step, inside, means, single⟩ | ⟨absent, none⟩
  · have present : application.node.HasRule (branchKeyword truth) := ⟨step.rule, traces.rule_mem inside, means⟩
    obtain ⟨subschema, ruled⟩ := Rule.eq_of_standard?_branch means
    obtain ⟨before, after, -, performs⟩ := traces.carried.performs_of_mem inside
    have plan := traces.plan_of_branch drafted inside ruled
    rw [Trace.succeeds_of_singleton single, Step.isValid_trace, Step.isValid, Step.outcome, plan]
    by_cases selected : object.verdict? .condition = some truth
    · rw [if_pos selected] at plan ⊢
      obtain ⟨result, results, below⟩ := performs.exists_single (by rw [plan]) scope
      rw [Trace.verdict?_of_singleton single below, results]
      simp [selected, present, Trace.isValid, Applied.outcome]
    · rw [if_neg selected]
      exact iff_of_true rfl fun holds => absurd holds selected
  · exact iff_of_true (Trace.succeeds_of_nil none) fun _ => .inl absent

end Traces

end Run

/-! ## The keywords together -/

/-- In an evaluation the condition of a schema object of the draft is applied to the instance, and so is the branch for
what its sub-schema says; the other branch applies nothing, and neither does a branch without a condition. The three
keywords all succeed just if there is no condition or the selected branch has no rule or is valid. -/
theorem Schema.conditionals_exact (schema : Schema) (options : Options) (value : Json) (dialects : DialectCache)
    {object : Trace} (part : object ∈ (schema.trace options value dialects).1.parts) (branch : object.isBranch = true)
    {application : Application} (applied : object.subject = .application application)
    (drafted : application.node.IsDrafted) :
    object.CarriesOut application.node ∧
      (∀ subschema, .condition subschema ∈ application.node.rules → (object.appliedBy .condition).map (·.subject) =
        [.application (.inPlace ⟨application.target.document, subschema⟩ application.value none)]) ∧
      (¬ application.node.HasRule .condition → object.verdict? .condition = none) ∧
      (∀ truth subschema, .branch truth subschema ∈ application.node.rules → object.verdict? .condition = some truth →
        (object.appliedBy (branchKeyword truth)).map (·.subject) =
          [.application (.inPlace ⟨application.target.document, subschema⟩ application.value none)]) ∧
      (∀ truth, object.verdict? .condition ≠ some truth → object.appliedBy (branchKeyword truth) = []) ∧
      (object.Succeeds .condition ∧ object.Succeeds .consequence ∧ object.Succeeds .alternative ↔
        ¬ application.node.HasRule .condition ∨
          object.verdict? .condition = some true ∧
            (¬ application.node.HasRule .consequence ∨ object.verdict? .consequence = some true) ∨
          object.verdict? .condition = some false ∧
            (¬ application.node.HasRule .alternative ∨ object.verdict? .alternative = some true)) := by
  obtain ⟨path, result, yields, rfl⟩ := (Run.yields_evaluate ⟨options, schema⟩ value ⟨[], dialects⟩).part part applied
  obtain ⟨active, steps, scope, traces⟩ := yields.traces branch
  have silent := traces.verdict?_condition_eq_none_iff drafted
  refine ⟨traces.carriesOut, fun subschema member => traces.condition_applied drafted member, silent.mpr,
    fun truth subschema member selected => ?_, fun truth => traces.branch_idle drafted, ?_⟩
  · rw [traces.branch_applied drafted member, if_pos selected]
  · have consequence := traces.branch_succeeds_iff drafted true
    have alternative := traces.branch_succeeds_iff drafted false
    rw [show branchKeyword true = .consequence from rfl] at consequence
    rw [show branchKeyword false = .alternative from rfl] at alternative
    rw [and_iff_right (traces.condition_succeeds drafted), consequence, alternative]
    cases said : result.trace.verdict? .condition with
    | none => simp [silent.mp said]
    | some truth =>
      have present : application.node.HasRule .condition := by
        by_contra missing
        exact Option.some_ne_none truth (said.symm.trans (silent.mpr missing))
      cases truth <;> simp [present]

/-- A condition that does not hold selects the alternative and leaves the consequence out. -/
theorem Schema.conditionals_exact_alternative :
    ∃ schema, (compile .standard (Draft.url "example") (.object [
        ("else", .object [("type", .string "integer")]), ("then", .bool false),
        ("if", .object [("type", .string "string")])])).toOption = some schema ∧
      ∃ value application,
        let object := (schema.trace .standard value []).1
        value = .ofNat 3 ∧ object ∈ object.parts ∧ object.isBranch = true ∧
          object.subject = .application application ∧ application.node.IsDrafted ∧
          object.verdict? .condition = some false ∧ object.verdict? .alternative = some true ∧
          application.node.HasRule .consequence ∧ object.appliedBy .consequence = [] ∧
          object.Succeeds .condition ∧ object.Succeeds .consequence ∧ object.Succeeds .alternative := by
  let value : Json := .ofNat 3
  let check (schema : Schema) : Bool :=
    let object := (schema.trace .standard value []).1
    schema.document.hasDistinctNames && (object.isBranch && (object.verdict? .condition = some false &&
      (object.verdict? .alternative = some true && schema.root.rules.any (·.standard? = some .consequence))))
  refine (Option.map_eq_some_iff.mp (?_ : Option.map check _ = some true)).imp fun schema ⟨compiled, holds⟩ =>
    ⟨compiled, value, .inPlace ⟨schema.document, schema.rootIndex⟩ value none, ?_⟩
  · decide +kernel
  simp only [check, Bool.and_eq_true, decide_eq_true_eq, List.any_eq_true] at holds
  obtain ⟨distinct, branch, fails, valid, consequence⟩ := holds
  have subject := schema.subject_trace .standard value []
  have part := Trace.self_mem_parts (schema.trace .standard value []).1
  have node := isDrafted_of_compile Options.knowsOnlyDraft_standard compiled distinct schema.rootIndex
  obtain ⟨-, -, -, -, idle, together⟩ := conditionals_exact schema .standard value [] part branch subject node
  exact ⟨rfl, part, branch, subject, node, fails, valid, consequence, idle true (by rw [fails]; decide),
    together.mpr (.inr (.inr ⟨fails, .inr valid⟩))⟩

end JsonSchema
