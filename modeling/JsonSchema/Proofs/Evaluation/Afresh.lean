import JsonSchema.Proofs.Evaluation.Evaluated

/-! # Evaluation without memory

`Run.judge` evaluates a schema where references lead as a function tells that remembers nothing. An evaluation whose
memory does not change where references lead yields the same (`Run.LeadsBy.run_applyWithin`), trace by trace.
-/

namespace JsonSchema

namespace Run

/-- Where rules lead, as seen from a document in a dynamic scope. -/
abbrev Lookup := Document → List ActiveResource → Rule → Option Target

/-- What applications yield, on the path on which they stand. -/
abbrev Judge := Path → Application → Applied

variable (run : Run) (leads : Lookup)

/-- The step of a rule that leads where it is told. -/
def stepBy (judge : Judge) (active : List ActiveResource) (application : Application) (scope : Scope)
    (progress : Progress) (rule : Rule) : Step :=
  let target := leads application.target.document active rule
  let facts : Facts :=
    ⟨run.options, application.target.document, application.node, progress.siblings, progress.attached⟩
  let applications := (rule.plan facts target application.value).applications
  let below : Path := ⟨some (scope.keyword rule.keyword), active⟩
  ⟨rule, facts, target, application.value, applications.map fun inner => (inner, judge below inner)⟩

/-- What the rules of a schema object have done when all of them have made their steps. -/
def judgeRules (judge : Judge) (active : List ActiveResource) (application : Application) (scope : Scope)
    (progress : Progress) (rules : List Rule) : Progress :=
  rules.foldl (fun (progress : Progress) rule =>
    progress.perform scope (run.stepBy leads judge active application scope progress rule)) progress

/-- What an application yields, given what those further down yield. -/
def judgeNode (judge : Judge) : Judge := fun path application =>
  let scope := path.scope run application
  match application.node.shape with
  | .boolean accepts =>
    ⟨.branch (.application application) scope (.require accepts "Value not allowed by schema") [], []⟩
  | .object rules =>
    let final := run.judgeRules leads judge (application.target.active :: path.active) application scope .start
      (rules.filter (·.isApplied))
    ⟨.branch (.application application) scope (.ofBool final.isValid) final.traces, final.attached⟩

/-- What an application yields inside a number of further scopes. -/
def judgeWithin : Nat → Judge
  | 0 => run.cutOff
  | 1 => run.judgeNode leads run.cutOff
  | scopes + 2 => run.judgeNode leads (judgeWithin scopes)

/-- What the root schema yields for an instance. -/
def judge (value : Json) : Applied :=
  run.judgeWithin leads run.options.maxDepth .root (.inPlace ⟨run.root.document, run.root.rootIndex⟩ value none)

/-- Whether rules lead where a function tells, whatever is remembered, as long as the memory is coherent and only
documents within reach take part. -/
structure LeadsBy (reached : Document → Prop) (coherent : Memory → Prop) : Prop where
  target_eq : ∀ document index active memory, ∀ rule ∈ (document.node index).rules, reached document →
    coherent memory → ((run.target document active rule).run memory).1 = leads document active rule
  keeps : ∀ document index active memory, ∀ rule ∈ (document.node index).rules, reached document →
    coherent memory → coherent ((run.target document active rule).run memory).2
  reaches : ∀ document index active, ∀ rule ∈ (document.node index).rules, reached document →
    (∀ resource ∈ active, reached resource.document) →
      ∀ found ∈ leads document active rule, reached found.document

/-- Whether an evaluator with a memory yields what one without yields, and leaves the memory coherent. -/
def Remembers (reached : Document → Prop) (coherent : Memory → Prop) (apply : Applier) (judge : Judge) : Prop :=
  ∀ path application memory, reached application.target.document → (∀ resource ∈ path.active, reached resource.document) →
    coherent memory → ((apply path application).run memory).1 = judge path application ∧
      coherent ((apply path application).run memory).2

variable {run leads} {reached : Document → Prop} {coherent : Memory → Prop} {apply : Applier} {judge : Judge}

theorem Remembers.run_applyAll (remembers : Remembers reached coherent apply judge) {path : Path}
    (active : ∀ resource ∈ path.active, reached resource.document) (applications : List Application)
    (within : ∀ inner ∈ applications, reached inner.target.document) {memory : Memory} (kept : coherent memory) :
    ((applyAll apply path applications).run memory).1 = applications.map (fun inner => (inner, judge path inner)) ∧
      coherent ((applyAll apply path applications).run memory).2 := by
  induction applications generalizing memory with
  | nil => exact ⟨rfl, kept⟩
  | cons first rest ih =>
    obtain ⟨same, keptBetween⟩ := remembers path first memory (within first List.mem_cons_self) active kept
    obtain ⟨sameRest, keptAfter⟩ := ih (fun inner member => within inner (List.mem_cons_of_mem _ member)) keptBetween
    simp only [applyAll, Evaluation.run_bind, Evaluation.run_pure, same, sameRest, List.map_cons]
    exact ⟨trivial, keptAfter⟩

theorem Remembers.run_applyRule (by_ : run.LeadsBy leads reached coherent)
    (remembers : Remembers reached coherent apply judge) {active : List ActiveResource}
    (within : ∀ resource ∈ active, reached resource.document) {application : Application}
    (inside : reached application.target.document) {rule : Rule} (member : rule ∈ application.node.rules)
    (scope : Scope) (progress : Progress) {memory : Memory} (kept : coherent memory) :
    let result := (run.applyRule apply active application.target.document application.node scope application.value
      progress rule).run memory
    result.1 = progress.perform scope (run.stepBy leads judge active application scope progress rule) ∧
      coherent result.2 := by
  have target := by_.target_eq _ _ active memory rule member inside kept
  have reaches := by_.reaches _ _ active rule member inside within
  have keptBetween := by_.keeps _ _ active memory rule member inside kept
  let facts : Facts :=
    ⟨run.options, application.target.document, application.node, progress.siblings, progress.attached⟩
  let path : Path := ⟨some (scope.keyword rule.keyword), active⟩
  have below : ∀ inner ∈ (rule.plan facts (leads application.target.document active rule)
      application.value).applications, reached inner.target.document := by
    intro inner member
    rcases (Rule.plans_of_mem_plan member).leads with same | leads
    · exact same ▸ inside
    · exact reaches _ leads
  have applied := remembers.run_applyAll (show ∀ resource ∈ path.active, reached resource.document from within) _ below
    keptBetween
  simp only [applyRule, Evaluation.run_bind, Evaluation.run_pure, target]
  refine ⟨?_, applied.2⟩
  rw [applied.1]
  rfl

/-- The rules of a schema object are applied as without memory, if the nodes below are. -/
theorem Remembers.run_applyRules (by_ : run.LeadsBy leads reached coherent)
    (remembers : Remembers reached coherent apply judge) {active : List ActiveResource}
    (within : ∀ resource ∈ active, reached resource.document) {application : Application}
    (inside : reached application.target.document) (scope : Scope) {rules : List Rule}
    (members : ∀ rule ∈ rules, rule ∈ application.node.rules) (progress : Progress) {memory : Memory}
    (kept : coherent memory) :
    let result := (run.applyRules apply active application.target.document application.node scope application.value
      progress rules).run memory
    result.1 = run.judgeRules leads judge active application scope progress rules ∧ coherent result.2 := by
  induction rules generalizing progress memory with
  | nil => exact ⟨rfl, kept⟩
  | cons rule rest ih =>
    obtain ⟨same, keptBetween⟩ :=
      remembers.run_applyRule by_ within inside (members rule List.mem_cons_self) scope progress kept
    obtain ⟨sameRest, keptAfter⟩ := ih (fun other member => members other (List.mem_cons_of_mem _ member)) _ keptBetween
    simp only [applyRules, Evaluation.run_bind]
    refine ⟨sameRest.trans ?_, keptAfter⟩
    rw [same]
    rfl

/-- A node is applied as without memory, if the nodes below it are. -/
theorem Remembers.applyNode (by_ : run.LeadsBy leads reached coherent)
    (remembers : Remembers reached coherent apply judge) :
    Remembers reached coherent (run.applyNode apply) (run.judgeNode leads judge) := by
  intro path application memory inside within kept
  cases shape : application.node.shape with
  | boolean accepts =>
    simp only [Run.applyNode, judgeNode, shape, Evaluation.run_pure]
    exact ⟨trivial, kept⟩
  | object rules =>
    have members := Node.applied_subset shape
    have active : ∀ resource ∈ application.target.active :: path.active, reached resource.document := by
      intro resource member
      rcases List.mem_cons.mp member with rfl | member
      · exact inside
      · exact within resource member
    obtain ⟨same, keptAfter⟩ :=
      remembers.run_applyRules by_ active inside (path.scope run application) members .start kept
    simp only [Run.applyNode, judgeNode, shape, Evaluation.run_bind, Evaluation.run_pure, same]
    exact ⟨trivial, keptAfter⟩

/-- An evaluation whose memory does not change where references lead yields what it would yield without. -/
theorem LeadsBy.remembers (by_ : run.LeadsBy leads reached coherent) (scopes : Nat) :
    Remembers reached coherent (run.applyWithin scopes) (run.judgeWithin leads scopes) := by
  induction scopes using Run.applyWithin.induct with
  | case1 => exact fun path application memory _ _ kept => ⟨rfl, kept⟩
  | case2 => exact Remembers.applyNode by_ fun path application memory _ _ kept => ⟨rfl, kept⟩
  | case3 scopes ih => exact Remembers.applyNode by_ ih

end Run

end JsonSchema
