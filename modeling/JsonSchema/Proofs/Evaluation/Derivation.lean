import JsonSchema.Evaluation
import JsonSchema.Proofs.Evaluation.Plan

/-! # Derivations

`Run.Yields` is the relation between an application and what it yields, rule by rule and without the
memory of the evaluation. A schema object yields the traces and values of its steps; each step follows
from the steps before it and from what its own applications yield.

Every evaluation satisfies the relation (`Run.yields_evaluate`), so what holds of all derivations holds
of all evaluations, whatever they remember. Every application in the trace of a derivation has a
derivation of its own (`Run.Yields.part`).
-/

namespace JsonSchema

namespace Trace

mutual

/-- A trace and all traces below it. -/
def parts : Trace → List Trace
  | .leaf subject scope outcome => [.leaf subject scope outcome]
  | .branch subject scope outcome children => .branch subject scope outcome children :: partsOf children

/-- Several traces and all traces below them. -/
def partsOf : List Trace → List Trace
  | [] => []
  | trace :: rest => trace.parts ++ partsOf rest

end

theorem mem_partsOf {part : Trace} {traces : List Trace} :
    part ∈ partsOf traces ↔ ∃ trace ∈ traces, part ∈ trace.parts := by
  induction traces with
  | nil => simp [partsOf]
  | cons trace rest ih => simp [partsOf, ih]

theorem mem_parts {part trace : Trace} :
    part ∈ trace.parts ↔ part = trace ∨ ∃ child ∈ trace.children, part ∈ child.parts := by
  cases trace with
  | leaf subject scope outcome => simp [parts, children]
  | branch subject scope outcome below => simp [parts, children, mem_partsOf]

theorem self_mem_parts (trace : Trace) : trace ∈ trace.parts := mem_parts.mpr (.inl rfl)

theorem parts_trans {inner part trace : Trace} (below : inner ∈ part.parts) (member : part ∈ trace.parts) :
    inner ∈ trace.parts := by
  induction trace using children_induction with
  | leaf subject scope outcome =>
    obtain rfl : part = _ := by simpa [parts] using member
    exact below
  | branch subject scope outcome children ih =>
    rcases mem_parts.mp member with rfl | ⟨child, childMember, inside⟩
    · exact below
    · exact mem_parts.mpr (.inr ⟨child, childMember, ih child childMember inside⟩)

/-- Whether the trace is that of something that applies sub-schemas. -/
def isBranch : Trace → Bool
  | .leaf _ _ _ => false
  | .branch _ _ _ _ => true

end Trace

/-- A rule that was carried out, with all that its outcome depends on. -/
structure Step where
  rule : Rule
  facts : Facts
  /-- Where the rule leads if it is a reference. -/
  target : Option Target
  value : Json
  /-- What the applications of the rule yielded, in order. -/
  results : List (Application × Applied)

namespace Step

/-- What the rule does. -/
def plan (step : Step) : Plan := step.rule.plan step.facts step.target step.value

/-- The outcome of the rule. -/
def outcome (step : Step) : Outcome := step.plan.conclude (step.results.map (·.2.outcome))

/-- Whether the rule is satisfied. -/
def isValid (step : Step) : Bool := step.outcome.isValid

/-- The trace of the rule in the scope of its schema object. -/
def trace (step : Step) (scope : Scope) : Trace :=
  let inner := scope.keyword step.rule.keyword
  if step.rule.isLeaf then .leaf (.rule step.rule) inner step.outcome
  else .branch (.rule step.rule) inner step.outcome (step.results.map (·.2.trace))

/-- The values that the applications of the rule contribute. -/
def contributed (step : Step) : List (String × Json) :=
  step.results.flatMap fun (application, applied) => applied.contribution application

/-- The values that come from the rule: those contributed, then its own. -/
def attached (step : Step) : List (String × Json) :=
  step.contributed ++ (step.outcome.value?.map (step.rule.keyword, ·)).toList

/-- The keyword of the rule with its outcome. -/
def sibling (step : Step) : String × Outcome := (step.rule.keyword, step.outcome)

end Step

namespace Step

variable (step : Step) (scope : Scope)

@[simp] theorem outcome_trace : (step.trace scope).outcome = step.outcome := by
  unfold trace
  split <;> rfl

@[simp] theorem isValid_trace : (step.trace scope).isValid = step.isValid := congrArg _ (step.outcome_trace scope)

@[simp] theorem subject_trace : (step.trace scope).subject = .rule step.rule := by
  unfold trace
  split <;> rfl

@[simp] theorem scope_trace : (step.trace scope).scope = scope.keyword step.rule.keyword := by
  unfold trace
  dsimp only
  split <;> rfl

/-- What a rule applied is what its trace shows below it; a leaf applies nothing. -/
theorem children_trace (planned : step.results.map (·.1) = step.plan.applications) :
    (step.trace scope).children = step.results.map (·.2.trace) := by
  unfold trace
  split
  · next leaf =>
    rw [plan, Rule.applications_plan_of_isLeaf leaf, List.map_eq_nil_iff] at planned
    rw [planned]
    rfl
  · rfl

end Step

/-- The trace of a schema object in a scope, with its steps. -/
def Application.traceOf (application : Application) (scope : Scope) (steps : List Step) : Trace :=
  .branch (.application application) scope (.ofBool (steps.all (·.isValid))) (steps.map (·.trace scope))

theorem Application.isValid_traceOf (application : Application) (scope : Scope) (steps : List Step) :
    (application.traceOf scope steps).isValid = steps.all (·.isValid) :=
  Outcome.isValid_ofBool _

/-- After one more step. -/
def Progress.perform (progress : Progress) (scope : Scope) (step : Step) : Progress :=
  progress.record step.rule.keyword (step.trace scope) step.contributed

theorem Progress.isValid_perform (progress : Progress) (scope : Scope) (step : Step) :
    (progress.perform scope step).isValid = (progress.isValid && step.outcome.isValid) := by
  simp [perform, record, isValid]

/-- The progress of a schema object after some steps. -/
def Progress.ofSteps (scope : Scope) (steps : List Step) : Progress :=
  ⟨steps.map (·.sibling), steps.flatMap (·.attached), steps.map (·.trace scope)⟩

theorem Progress.ofSteps_snoc (scope : Scope) (steps : List Step) (step : Step) :
    ofSteps scope (steps ++ [step]) =
      (ofSteps scope steps).record step.rule.keyword (step.trace scope) step.contributed := by
  simp [ofSteps, record, Step.outcome_trace, Step.attached, Step.sibling]

theorem Progress.isValid_ofSteps (scope : Scope) (steps : List Step) :
    (ofSteps scope steps).isValid = steps.all (·.isValid) := by
  simp only [isValid, ofSteps, List.all_map]
  rfl

namespace Run

/-- A step of a schema object after the steps before it. -/
structure Performs (run : Run) (active : List ActiveResource) (application : Application) (before : List Step)
    (step : Step) : Prop where
  facts_eq : step.facts = ⟨run.options, application.target.document, application.node,
    before.map (·.sibling), before.flatMap (·.attached)⟩
  value_eq : step.value = application.value
  target_eq : ∃ memory : Memory,
    step.target = ((run.target application.target.document active step.rule).run memory).1
  applications_eq : step.results.map (·.1) = step.plan.applications

/-- The steps that carry out some rules in order. -/
structure CarriesOut (run : Run) (active : List ActiveResource) (application : Application) (rules : List Rule)
    (steps : List Step) : Prop where
  rules_eq : steps.map (·.rule) = rules
  performs : ∀ before step after, steps = before ++ step :: after →
    run.Performs active application before step

theorem Performs.children_trace {run : Run} {active : List ActiveResource} {application : Application}
    {before : List Step} {step : Step} (performs : run.Performs active application before step) (scope : Scope) :
    (step.trace scope).children = step.results.map (·.2.trace) :=
  step.children_trace scope performs.applications_eq

theorem CarriesOut.performs_of_mem {run : Run} {active : List ActiveResource} {application : Application}
    {rules : List Rule} {steps : List Step} (carried : run.CarriesOut active application rules steps) {step : Step}
    (member : step ∈ steps) : ∃ before after, steps = before ++ step :: after ∧
      run.Performs active application before step := by
  obtain ⟨before, after, split⟩ := List.append_of_mem member
  exact ⟨before, after, split, carried.performs before step after split⟩

/-- What a step of a schema object applied is part of the trace of the schema object. -/
theorem CarriesOut.mem_parts {run : Run} {active : List ActiveResource} {application : Application}
    {rules : List Rule} {steps : List Step} (carried : run.CarriesOut active application rules steps) {scope : Scope}
    {object : Trace} (children : object.children = steps.map (·.trace scope)) {step : Step} (member : step ∈ steps)
    {result : Application × Applied} (inside : result ∈ step.results) {part : Trace}
    (below : part ∈ result.2.trace.parts) : part ∈ object.parts := by
  obtain ⟨before, after, -, performs⟩ := carried.performs_of_mem member
  refine Trace.mem_parts.mpr (.inr ⟨step.trace scope, ?_, Trace.mem_parts.mpr (.inr ⟨result.2.trace, ?_, below⟩)⟩)
  · rw [children]
    exact List.mem_map_of_mem member
  · rw [performs.children_trace]
    exact List.mem_map_of_mem inside

/-- The path on which the applications of a step stand. -/
def pathBelow (run : Run) (path : Path) (application : Application) (rule : Rule) : Path :=
  ⟨some ((path.scope run application).keyword rule.keyword), application.target.active :: path.active⟩

/-- What an application yields on a path. -/
inductive Yields (run : Run) : Path → Application → Applied → Prop
  | cutOff {path : Path} {application : Application} (exhausted : run.options.maxDepth ≤ path.depth) :
      Yields run path application (run.cutOff path application)
  | boolean {path : Path} {application : Application} {accepts : Bool}
      (shallow : path.depth < run.options.maxDepth) (shape : application.node.shape = .boolean accepts) :
      Yields run path application
        ⟨.branch (.application application) (path.scope run application)
          (.require accepts "Value not allowed by schema") [], []⟩
  | object {path : Path} {application : Application} {rules : List Rule} {steps : List Step}
      (shallow : path.depth < run.options.maxDepth) (shape : application.node.shape = .object rules)
      (carried : run.CarriesOut (application.target.active :: path.active) application
        (rules.filter (·.isApplied)) steps)
      (yields : ∀ step ∈ steps, ∀ result ∈ step.results,
        Yields run (run.pathBelow path application step.rule) result.1 result.2) :
      Yields run path application
        ⟨application.traceOf (path.scope run application) steps, steps.flatMap (·.attached)⟩

end Run

/-! ## Parts of derivations -/

namespace Run

variable {run : Run} {path : Path} {inner : Application} {applied : Applied}

theorem Yields.subject_trace (yields : run.Yields path inner applied) :
    applied.trace.subject = .application inner := by
  cases yields <;> rfl

/-- What holds of the traces of applications and of the traces of rules holds of all parts of a trace. -/
@[elab_as_elim]
theorem Yields.parts_induction {motive : Trace → Prop}
    (application : ∀ {path application applied}, run.Yields path application applied → motive applied.trace)
    (rule : ∀ {active application before step} scope, run.Performs active application before step →
      motive (step.trace scope))
    (yields : run.Yields path inner applied) {part : Trace} (member : part ∈ applied.trace.parts) : motive part := by
  induction yields with
  | @cutOff path inner exhausted =>
    obtain rfl : part = _ := by simpa [Run.cutOff, Trace.parts] using member
    exact application (.cutOff exhausted : run.Yields path inner _)
  | @boolean path inner accepts shallow shape =>
    obtain rfl : part = _ := by simpa [Trace.parts, Trace.partsOf] using member
    exact application (.boolean shallow shape : run.Yields path inner _)
  | @object path inner rules steps shallow shape carried yields ih =>
    rcases Trace.mem_parts.mp member with rfl | ⟨child, childMember, member⟩
    · exact application (.object shallow shape carried yields)
    · obtain ⟨step, stepMember, rfl⟩ := List.mem_map.mp childMember
      obtain ⟨before, after, split, performs⟩ := carried.performs_of_mem stepMember
      rcases Trace.mem_parts.mp member with rfl | ⟨grandchild, grandchildMember, member⟩
      · exact rule _ performs
      · rw [performs.children_trace] at grandchildMember
        obtain ⟨result, resultMember, rfl⟩ := List.mem_map.mp grandchildMember
        exact ih step stepMember result resultMember member

/-- Every application in the trace of a derivation has a derivation of its own. -/
theorem Yields.part (yields : run.Yields path inner applied) {part : Trace} (member : part ∈ applied.trace.parts)
    {application : Application} (subject : part.subject = .application application) :
    ∃ path' applied', run.Yields path' application applied' ∧ applied'.trace = part := by
  revert subject
  refine yields.parts_induction ?_ ?_ member
  · intro path inner applied yields subject
    obtain rfl : inner = application := Subject.application.inj (yields.subject_trace.symm.trans subject)
    exact ⟨path, applied, yields, rfl⟩
  · intro active inner before step scope performs subject
    simp at subject

end Run

/-! ## Evaluations are derivations -/

namespace Evaluation

variable {α β : Type}

theorem run_pure (value : α) (memory : Memory) : (pure value : Evaluation α).run memory = (value, memory) := rfl

theorem run_bind (first : Evaluation α) (next : α → Evaluation β) (memory : Memory) :
    (first >>= next).run memory = (next (first.run memory).1).run (first.run memory).2 := rfl

theorem run_get (memory : Memory) : (get : Evaluation Memory).run memory = (memory, memory) := rfl

end Evaluation

namespace Run

variable {run : Run}

theorem CarriesOut.nil {active : List ActiveResource} {application : Application} :
    run.CarriesOut active application [] [] := by
  refine ⟨rfl, ?_⟩
  intro before step after split
  simp at split

theorem CarriesOut.snoc {active : List ActiveResource} {application : Application} {rules : List Rule}
    {steps : List Step} {step : Step} (carried : run.CarriesOut active application rules steps)
    (next : run.Performs active application steps step) :
    run.CarriesOut active application (rules ++ [step.rule]) (steps ++ [step]) := by
  refine ⟨by simp [carried.rules_eq], ?_⟩
  intro before other after split
  rcases List.eq_nil_or_concat after with rfl | ⟨front, last, rfl⟩
  · obtain ⟨rfl, same⟩ := List.append_inj' split rfl
    obtain rfl : step = other := by simpa using same
    exact next
  · have same : steps ++ [step] = (before ++ other :: front) ++ [last] := by simpa using split
    exact carried.performs before other front (List.append_inj' same rfl).1

/-- A rule is carried out as one more step. -/
theorem run_applyRule_eq (run : Run) (apply : Applier) (active : List ActiveResource) (document : Document) (node : Node)
    (scope : Scope) (value : Json) (progress : Progress) (rule : Rule) (memory : Memory) :
    let found := (run.target document active rule).run memory
    let facts : Facts := ⟨run.options, document, node, progress.siblings, progress.attached⟩
    let results := (applyAll apply ⟨some (scope.keyword rule.keyword), active⟩
      (rule.plan facts found.1 value).applications).run found.2
    (run.applyRule apply active document node scope value progress rule).run memory =
      (progress.perform scope ⟨rule, facts, found.1, value, results.1⟩, results.2) := rfl

theorem applyAll_run {apply : Applier} {path : Path} {good : Application → Applied → Prop}
    (applies : ∀ inner memory, good inner ((apply path inner).run memory).1)
    (applications : List Application) (memory : Memory) :
    (((applyAll apply path applications).run memory).1.map (·.1)) = applications ∧
      ∀ result ∈ ((applyAll apply path applications).run memory).1, good result.1 result.2 := by
  induction applications generalizing memory with
  | nil => exact ⟨rfl, fun result member => absurd member List.not_mem_nil⟩
  | cons first rest ih =>
    obtain ⟨same, yields⟩ := ih ((apply path first).run memory).2
    simp only [applyAll, Evaluation.run_bind, Evaluation.run_pure]
    refine ⟨congrArg (first :: ·) same, ?_⟩
    intro result member
    rcases List.mem_cons.mp member with rfl | member
    · exact applies first memory
    · exact yields result member

theorem planned_applyAll (apply : Applier) (path : Path) (applications : List Application) (memory : Memory) :
    ((applyAll apply path applications).run memory).1.map (·.1) = applications :=
  (@applyAll_run apply path (fun _ _ => True) (fun _ _ => trivial) applications memory).1

variable (run) (application : Application) {apply : Applier} {active : List ActiveResource} {scope : Scope}
  {good : Rule → Application → Applied → Prop}

/-- A rule is carried out as one more step. -/
theorem applyRule_run (rule : Rule)
    (applies : ∀ inner memory,
      good rule inner ((apply ⟨some (scope.keyword rule.keyword), active⟩ inner).run memory).1)
    (before : List Step) (memory : Memory) :
    ∃ step, step.rule = rule ∧ run.Performs active application before step ∧
      (∀ result ∈ step.results, good rule result.1 result.2) ∧
      ((run.applyRule apply active application.target.document application.node scope application.value
        (.ofSteps scope before) rule).run memory).1 = .ofSteps scope (before ++ [step]) := by
  let facts : Facts := ⟨run.options, application.target.document, application.node,
    before.map (·.sibling), before.flatMap (·.attached)⟩
  let found := (run.target application.target.document active rule).run memory
  let plan := rule.plan facts found.1 application.value
  let results := (applyAll apply ⟨some (scope.keyword rule.keyword), active⟩ plan.applications).run found.2
  obtain ⟨same, yields⟩ := applyAll_run applies plan.applications found.2
  let step : Step := ⟨rule, facts, found.1, application.value, results.1⟩
  refine ⟨step, rfl, ⟨rfl, rfl, ⟨memory, rfl⟩, same⟩, yields, ?_⟩
  rw [Progress.ofSteps_snoc]
  rfl

/-- The rules of a schema object are carried out as so many further steps. -/
theorem applyRules_run
    (applies : ∀ rule inner memory,
      good rule inner ((apply ⟨some (scope.keyword rule.keyword), active⟩ inner).run memory).1)
    {done : List Rule} {before : List Step} (carried : run.CarriesOut active application done before)
    (held : ∀ step ∈ before, ∀ result ∈ step.results, good step.rule result.1 result.2)
    (rules : List Rule) (memory : Memory) :
    ∃ steps, run.CarriesOut active application (done ++ rules) steps ∧
      (∀ step ∈ steps, ∀ result ∈ step.results, good step.rule result.1 result.2) ∧
      ((run.applyRules apply active application.target.document application.node scope application.value
        (.ofSteps scope before) rules).run memory).1 = .ofSteps scope steps := by
  induction rules generalizing done before memory with
  | nil => exact ⟨before, by simpa using carried, held, rfl⟩
  | cons rule rest ih =>
    obtain ⟨step, rfl, performs, yields, same⟩ := applyRule_run run application rule (applies rule) before memory
    have heldNext : ∀ other ∈ before ++ [step], ∀ result ∈ other.results, good other.rule result.1 result.2 := by
      intro other member
      rcases List.mem_append.mp member with member | member
      · exact held other member
      · rw [List.mem_singleton.mp member]
        exact yields
    simp only [applyRules, Evaluation.run_bind, same]
    simpa using ih (carried.snoc performs) heldNext _

variable {run application} {path : Path}

theorem depth_pathBelow (rule : Rule) : (run.pathBelow path application rule).depth = path.depth + 2 := rfl

/-- A node is applied as a derivation says if the nodes below it are. -/
theorem yields_applyNode (shallow : path.depth < run.options.maxDepth)
    (below : ∀ rule inner memory, run.Yields (run.pathBelow path application rule) inner
      ((apply (run.pathBelow path application rule) inner).run memory).1)
    (memory : Memory) : run.Yields path application ((run.applyNode apply path application).run memory).1 := by
  cases shape : application.node.shape with
  | boolean accepts =>
    simp only [applyNode, shape, Evaluation.run_pure]
    exact .boolean shallow shape
  | object rules =>
    obtain ⟨steps, carried, yields, same⟩ := applyRules_run run application below .nil
      (by simp) (rules.filter (·.isApplied)) memory
    have started : Progress.start = .ofSteps (path.scope run application) [] := rfl
    simp only [applyNode, shape, Evaluation.run_bind, Evaluation.run_pure, started, same, Progress.isValid_ofSteps]
    exact .object shallow shape carried yields

/-- With as many scopes left as the depth of the path leaves, an application yields what a derivation says. -/
theorem yields_applyWithin (scopes : Nat) (path : Path) (application : Application) (memory : Memory)
    (left : path.depth + scopes = run.options.maxDepth ∨ scopes = 0 ∧ run.options.maxDepth ≤ path.depth) :
    run.Yields path application ((run.applyWithin scopes path application).run memory).1 := by
  induction scopes using Run.applyWithin.induct generalizing path application memory with
  | case1 => exact .cutOff (by omega)
  | case2 =>
    refine yields_applyNode (by omega) ?_ memory
    intro rule inner memory
    exact .cutOff (by rw [depth_pathBelow]; omega)
  | case3 scopes ih =>
    refine yields_applyNode (by omega) ?_ memory
    intro rule inner memory
    refine ih _ _ _ ?_
    rw [depth_pathBelow]
    omega

/-- An evaluation yields what a derivation says. -/
theorem yields_evaluate (run : Run) (value : Json) (memory : Memory) :
    run.Yields .root (.inPlace ⟨run.root.document, run.root.rootIndex⟩ value none)
      ((run.evaluate value).run memory).1 :=
  yields_applyWithin _ _ _ _ (.inl (Nat.zero_add _))

end Run

end JsonSchema
