import JsonSchema.Proofs.Evaluation.Derivation
import JsonSchema.Report

/-! # The limit on depth

How deep evaluations may be nested is looked at in one place only, where a sub-schema is cut off. Rules plan the same
under every limit, references lead to the same targets, and what is compiled on demand is the same
(`Run.target_limitedTo`). So an evaluation in which nothing is cut off is the evaluation under every higher limit
(`Run.Extends.applyWithin`), and so are its reports (`Schema.validate_of_isComplete`).
-/

namespace JsonSchema

namespace Trace

/-- Whether the root of a trace is a sub-schema that was cut off. -/
def isCutOff : Trace → Bool
  | .leaf (.application _) _ _ => true
  | _ => false

/-- Whether nothing in a trace was cut off. -/
def isComplete (trace : Trace) : Bool := trace.parts.all (!·.isCutOff)

theorem isComplete_of_mem_parts {part trace : Trace} (complete : trace.isComplete = true)
    (member : part ∈ trace.parts) : part.isComplete = true := by
  rw [isComplete, List.all_eq_true] at complete ⊢
  exact fun inner below => complete inner (parts_trans below member)

theorem isComplete_of_mem_children {child trace : Trace} (complete : trace.isComplete = true)
    (member : child ∈ trace.children) : child.isComplete = true :=
  isComplete_of_mem_parts complete (mem_parts.mpr (.inr ⟨child, member, child.self_mem_parts⟩))

end Trace

/-- An application is cut off exactly where the path is as deep as the limit. -/
theorem Run.Yields.isCutOff_trace {run : Run} {path : Path} {application : Application} {applied : Applied}
    (yields : run.Yields path application applied) :
    applied.trace.isCutOff = decide (run.options.maxDepth ≤ path.depth) := by
  cases yields with
  | cutOff exhausted => exact (decide_eq_true exhausted).symm
  | boolean shallow shape => exact (decide_eq_false (Nat.not_le_of_lt shallow)).symm
  | object shallow shape carried yields => exact (decide_eq_false (Nat.not_le_of_lt shallow)).symm

/-! ## What does not depend on the limit -/

/-- The options with another limit on the depth of evaluations. -/
def Options.limitedTo (options : Options) (depth : Nat) : Options := { options with maxDepth := depth }

/-- The same facts under another limit. -/
def Facts.limitedTo (facts : Facts) (depth : Nat) : Facts := { facts with options := facts.options.limitedTo depth }

section Rules

variable (rule : Rule) (facts : Facts) (depth : Nat) (target : Option Target) (value : Json)

/-- What a rule plans does not depend on the limit. -/
theorem Rule.plan_limitedTo : rule.plan (facts.limitedTo depth) target value = rule.plan facts target value := by
  cases rule <;> cases value <;> rfl

/-- What a step adds to the progress of a schema object does not depend on the limit. -/
theorem Progress.perform_limitedTo (progress : Progress) (scope : Scope) (results : List (Application × Applied)) :
    progress.perform scope ⟨rule, facts.limitedTo depth, target, value, results⟩ =
      progress.perform scope ⟨rule, facts, target, value, results⟩ := by
  simp only [perform, Step.trace, Step.contributed, Step.outcome, Step.plan, Rule.plan_limitedTo]

end Rules

theorem Site.compileWithin_limitedTo (options : Options) (limit : Nat) (registered : Bool) (depth : Nat) :
    compileWithin (options.limitedTo limit) registered depth = compileWithin options registered depth := by
  induction depth with
  | zero => rfl
  | succ depth ih =>
    funext site value
    rw [compileWithin, compileWithin, ih]
    rfl

namespace Run

/-- The run with another limit on the depth of evaluations. -/
def limitedTo (run : Run) (depth : Nat) : Run := ⟨run.options.limitedTo depth, run.root⟩

variable (run : Run) (depth : Nat)

theorem compilePointer_limitedTo : (run.limitedTo depth).compilePointer = run.compilePointer := by
  funext schema fragment
  simp only [compilePointer, limitedTo, Schema.compileFragment, Schema.compileDocument, Site.compileWithin_limitedTo]

theorem resolve_limitedTo : (run.limitedTo depth).resolve = run.resolve := by
  funext document reference
  rw [resolve, resolve, compilePointer_limitedTo]
  rfl

/-- Where rules lead does not depend on the limit. -/
theorem target_limitedTo : (run.limitedTo depth).target = run.target := by
  funext document active rule
  cases rule <;> simp only [target, resolve_limitedTo]

/-! ## Complete evaluations -/

/-- Whether an evaluator goes on as another one does wherever the other one cuts nothing off. -/
def Extends (deeper apply : Applier) : Prop :=
  ∀ path application memory, ((apply path application).run memory).1.trace.isComplete = true →
    (deeper path application).run memory = (apply path application).run memory

variable {run depth} {deeper apply : Applier}

theorem Extends.run_applyAll (extends_ : Extends deeper apply) {path : Path} (applications : List Application)
    {memory : Memory}
    (complete : ∀ result ∈ ((applyAll apply path applications).run memory).1, result.2.trace.isComplete = true) :
    (applyAll deeper path applications).run memory = (applyAll apply path applications).run memory := by
  induction applications generalizing memory with
  | nil => rfl
  | cons first rest ih =>
    simp only [applyAll, Evaluation.run_bind, Evaluation.run_pure, List.forall_mem_cons] at complete ⊢
    rw [extends_ path first memory complete.1, ih complete.2]

variable {active : List ActiveResource} {document : Document} {node : Node} {scope : Scope} {value : Json}

/-- What a rule applies is complete if the trace of the rule is. -/
theorem isComplete_of_step {step : Step} {path : Path} {memory : Memory}
    (applied : step.results = ((applyAll apply path step.plan.applications).run memory).1)
    (complete : (step.trace scope).isComplete = true) : ∀ result ∈ step.results, result.2.trace.isComplete = true := by
  intro result member
  have planned := planned_applyAll apply path step.plan.applications memory
  rw [← applied] at planned
  refine Trace.isComplete_of_mem_children complete ?_
  rw [step.children_trace scope planned]
  exact List.mem_map_of_mem member

/-- A rule is carried out the same way if nothing that it applies is cut off. -/
theorem Extends.run_applyRule (extends_ : Extends deeper apply) {progress : Progress} {rule : Rule} {memory : Memory}
    (complete : ∀ trace ∈ ((run.applyRule apply active document node scope value progress rule).run memory).1.traces,
      trace.isComplete = true) :
    ((run.limitedTo depth).applyRule deeper active document node scope value progress rule).run memory =
      (run.applyRule apply active document node scope value progress rule).run memory := by
  rw [run_applyRule_eq] at complete ⊢
  rw [run_applyRule_eq, target_limitedTo]
  dsimp only at complete ⊢
  have last := complete _ (List.mem_append_right _ List.mem_cons_self)
  have same := extends_.run_applyAll _ (isComplete_of_step rfl last)
  let facts : Facts := ⟨run.options, document, node, progress.siblings, progress.attached⟩
  have limited : (⟨(run.limitedTo depth).options, document, node, progress.siblings, progress.attached⟩ : Facts) =
      facts.limitedTo depth := rfl
  rw [limited, Rule.plan_limitedTo, Progress.perform_limitedTo, same]

/-- Further rules add their traces to those before them. -/
theorem traces_prefix_applyRules (rules : List Rule) (progress : Progress) (memory : Memory) :
    progress.traces <+: ((run.applyRules apply active document node scope value progress rules).run memory).1.traces := by
  induction rules generalizing progress memory with
  | nil => exact List.prefix_rfl
  | cons rule rest ih =>
    rw [applyRules, Evaluation.run_bind]
    refine List.IsPrefix.trans ?_ (ih _ _)
    rw [run_applyRule_eq]
    exact List.prefix_append _ _

/-- The rules of a schema object are carried out the same way if nothing that they apply is cut off. -/
theorem Extends.run_applyRules (extends_ : Extends deeper apply) {rules : List Rule} {progress : Progress}
    {memory : Memory}
    (complete : ∀ trace ∈ ((run.applyRules apply active document node scope value progress rules).run memory).1.traces,
      trace.isComplete = true) :
    ((run.limitedTo depth).applyRules deeper active document node scope value progress rules).run memory =
      (run.applyRules apply active document node scope value progress rules).run memory := by
  induction rules generalizing progress memory with
  | nil => rfl
  | cons rule rest ih =>
    rw [applyRules, Evaluation.run_bind] at complete ⊢
    rw [applyRules, Evaluation.run_bind,
      extends_.run_applyRule fun trace member => complete trace ((traces_prefix_applyRules rest _ _).subset member)]
    exact ih complete

/-- A node is applied the same way if nothing below it is cut off. -/
theorem Extends.applyNode (extends_ : Extends deeper apply) :
    Extends ((run.limitedTo depth).applyNode deeper) (run.applyNode apply) := by
  intro path application memory complete
  cases shape : application.node.shape with
  | boolean accepts =>
    simp only [Run.applyNode, shape]
    rfl
  | object rules =>
    simp only [Run.applyNode, shape, Evaluation.run_bind, Evaluation.run_pure] at complete ⊢
    have scope : path.scope (run.limitedTo depth) application = path.scope run application := rfl
    rw [scope, extends_.run_applyRules fun trace member => Trace.isComplete_of_mem_children complete member]

/-- Inside more scopes an application goes on as inside fewer, unless something is cut off there. -/
theorem extends_applyWithin {scopes more : Nat} (le : scopes ≤ more) :
    Extends ((run.limitedTo depth).applyWithin more) (run.applyWithin scopes) := by
  induction scopes using Run.applyWithin.induct generalizing more with
  | case1 => exact fun path application memory complete => by cases complete
  | case2 =>
    have cut (deeper : Applier) : Extends deeper fun path application => return run.cutOff path application :=
      fun path application memory complete => by cases complete
    obtain _ | _ | more := more
    · omega
    · exact Extends.applyNode (cut _)
    · exact Extends.applyNode (cut _)
  | case3 scopes ih =>
    obtain _ | _ | more := more
    · omega
    · omega
    · exact Extends.applyNode (ih (by omega))

end Run

namespace Schema

variable (schema : Schema) (options : Options) (format : OutputFormat) (value : Json) (dialects : DialectCache)

/-- An evaluation in which nothing is cut off is the evaluation under every higher limit, report by report. -/
theorem validate_of_isComplete {depth deeper : Nat} (le : depth ≤ deeper)
    (complete : (schema.trace { options with maxDepth := depth } value dialects).1.isComplete = true) :
    schema.validate { options with maxDepth := deeper } format value dialects =
      schema.validate { options with maxDepth := depth } format value dialects := by
  have same := @Run.extends_applyWithin ⟨{ options with maxDepth := depth }, schema⟩ deeper depth deeper le .root
    (.inPlace ⟨schema.document, schema.rootIndex⟩ value none) ⟨[], dialects⟩ complete
  have evaluated : schema.trace { options with maxDepth := deeper } value dialects =
      schema.trace { options with maxDepth := depth } value dialects :=
    congrArg (fun result : Applied × Memory => (result.1.trace, result.2.dialects)) same
  rw [validate, validate, evaluated]

/-- Fourteen scopes are enough for a recursive schema and a nested instance, so the limit of the standard options makes
no difference. -/
theorem validate_of_isComplete_recursive :
    let value : Json := .object [("child", .object [("child", .object [("child", .bool true)])])]
    ∃ schema, (compile .standard (Draft.url "example") (.object [("type", .string "object"),
        ("properties", .object [("child", .object [("$ref", .string "#")])])])).toOption = some schema ∧
      (schema.trace { Options.standard with maxDepth := 14 } value []).1.isComplete = true ∧
        ∀ format, schema.validate .standard format value [] =
          schema.validate { Options.standard with maxDepth := 14 } format value [] := by
  intro value
  have checked : (compile .standard (Draft.url "example") (.object [("type", .string "object"),
        ("properties", .object [("child", .object [("$ref", .string "#")])])])).toOption.map (fun schema =>
      (schema.trace { Options.standard with maxDepth := 14 } value []).1.isComplete) = some true := by
    decide +kernel
  obtain ⟨schema, compiled, complete⟩ := Option.map_eq_some_iff.mp checked
  have le : 14 ≤ Options.standardMaxDepth := by decide
  exact ⟨schema, compiled, complete, fun format => validate_of_isComplete schema .standard format value [] le complete⟩

end Schema

end JsonSchema
