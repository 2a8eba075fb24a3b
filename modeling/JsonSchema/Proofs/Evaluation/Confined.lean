import JsonSchema.Proofs.Compile.Branches
import JsonSchema.Proofs.Evaluation.Evaluated
import JsonSchema.Proofs.Evaluation.Renumbering

/-! # Where an evaluation stays

If the rules of nodes within reach lead to nodes within reach, whatever is remembered on the way, then an evaluation that
starts within reach applies only nodes within reach (`Run.Confines.applyWithin`). What is within reach and what may be
remembered is up to the user.
-/

namespace JsonSchema

/-- A reference applies what it leads to. -/
theorem Rule.target_of_mem_plan {rule : Rule} (refers : rule.isReference = true) {facts : Facts}
    {target : Option Target} {value : Json} {application : Application}
    (member : application ∈ (rule.plan facts target value).applications) : target = some application.target := by
  cases rule with
  | ref url | dynamicRef url anchor =>
    cases target with
    | none => exact absurd member List.not_mem_nil
    | some found =>
      rw [List.mem_singleton.mp member]
      rfl
  | _ => cases refers

/-- Whether all sub-schemas that a trace applies are within reach. -/
def Trace.StaysIn (reached : Target → Prop) (trace : Trace) : Prop :=
  ∀ part ∈ trace.parts, ∀ application, part.subject = .application application → reached application.target

theorem Trace.staysIn_leaf {reached : Target → Prop} {application : Application} {scope : Scope} {outcome : Outcome}
    (inside : reached application.target) : (Trace.leaf (.application application) scope outcome).StaysIn reached := by
  intro part member other subject
  obtain rfl : part = _ := by simpa [parts] using member
  obtain rfl : application = other := Subject.application.inj subject
  exact inside

theorem Trace.staysIn_branch {reached : Target → Prop} {subject : Subject} {scope : Scope} {outcome : Outcome}
    {children : List Trace} (inside : ∀ application, subject = .application application → reached application.target)
    (below : ∀ child ∈ children, child.StaysIn reached) :
    (Trace.branch subject scope outcome children).StaysIn reached := by
  intro part member application same
  rcases mem_parts.mp member with rfl | ⟨child, childMember, member⟩
  · exact inside application same
  · exact below child childMember part member application same

namespace Run

/-- Whether a resource is active for the sake of a node within reach. -/
def IsActive (reached : Target → Prop) (resource : ActiveResource) : Prop :=
  ∃ target, reached target ∧ target.active = resource

/-- Whether the rules of nodes within reach lead only to nodes within reach, and what is remembered stays coherent. -/
structure Confines (run : Run) (reached : Target → Prop) (coherent : Memory → Prop) : Prop where
  inside : ∀ target, reached target → ∀ child ∈ (target.document.node target.node).children,
    reached ⟨target.document, child⟩
  leads : ∀ target active memory, reached target → (∀ resource ∈ active, IsActive reached resource) → coherent memory →
    ∀ rule ∈ (target.document.node target.node).rules,
      coherent ((run.target target.document active rule).run memory).2 ∧
        ∀ found ∈ ((run.target target.document active rule).run memory).1, reached found

/-- Whether an evaluator that is started within reach stays there. -/
def Stays (reached : Target → Prop) (coherent : Memory → Prop) (apply : Applier) : Prop :=
  ∀ path application memory, reached application.target → (∀ resource ∈ path.active, IsActive reached resource) →
    coherent memory → coherent ((apply path application).run memory).2 ∧
      ((apply path application).run memory).1.trace.StaysIn reached

variable {run : Run} {reached : Target → Prop} {coherent : Memory → Prop} {apply : Applier}

/-- What a rule plans is a node of its own or where it leads. -/
theorem Confines.plans (confines : run.Confines reached coherent) {application inner : Application}
    (inside : reached application.target) {rule : Rule} (member : rule ∈ application.node.rules) {facts : Facts}
    (own : facts.document = application.target.document) {target : Option Target}
    (leads : ∀ found ∈ target, reached found) {value : Json}
    (planned : inner ∈ (rule.plan facts target value).applications) : reached inner.target := by
  by_cases refers : rule.isReference = true
  · exact leads _ (Rule.target_of_mem_plan refers planned)
  · obtain ⟨document, child⟩ := Rule.mem_subschemas_of_mem_plan (Bool.eq_false_iff.mpr refers) planned
    have listed : inner.target.node ∈ application.node.children := List.mem_flatMap.mpr ⟨rule, member, child⟩
    have reaches := confines.inside application.target inside _ listed
    rwa [← own, ← document] at reaches

namespace Stays

theorem run_applyAll (stays : Stays reached coherent apply) {path : Path}
    (active : ∀ resource ∈ path.active, IsActive reached resource) (applications : List Application)
    (within : ∀ inner ∈ applications, reached inner.target) {memory : Memory} (kept : coherent memory) :
    coherent ((applyAll apply path applications).run memory).2 ∧
      ∀ result ∈ ((applyAll apply path applications).run memory).1, result.2.trace.StaysIn reached := by
  induction applications generalizing memory with
  | nil => exact ⟨kept, fun result member => absurd member List.not_mem_nil⟩
  | cons first rest ih =>
    obtain ⟨keptBetween, here⟩ := stays path first memory (within first List.mem_cons_self) active kept
    obtain ⟨keptAfter, others⟩ := ih (fun inner member => within inner (List.mem_cons_of_mem _ member)) keptBetween
    exact ⟨keptAfter, List.forall_mem_cons.mpr ⟨here, others⟩⟩

variable (confines : run.Confines reached coherent) (stays : Stays reached coherent apply)
  {active : List ActiveResource} (within : ∀ resource ∈ active, IsActive reached resource) {application : Application}
  (inside : reached application.target) (scope : Scope)
include confines stays within inside

theorem run_applyRule {rule : Rule} (member : rule ∈ application.node.rules) {progress : Progress}
    (before : ∀ trace ∈ progress.traces, trace.StaysIn reached) {memory : Memory} (kept : coherent memory) :
    let result := (run.applyRule apply active application.target.document application.node scope application.value
      progress rule).run memory
    coherent result.2 ∧ ∀ trace ∈ result.1.traces, trace.StaysIn reached := by
  obtain ⟨keptBetween, leads⟩ := confines.leads application.target active memory inside within kept rule member
  let found := (run.target application.target.document active rule).run memory
  let facts : Facts :=
    ⟨run.options, application.target.document, application.node, progress.siblings, progress.attached⟩
  let path : Path := ⟨some (scope.keyword rule.keyword), active⟩
  have withinPath : ∀ resource ∈ path.active, IsActive reached resource := within
  obtain ⟨keptAfter, applied⟩ := stays.run_applyAll withinPath (rule.plan facts found.1 application.value).applications
    (fun inner planned => confines.plans inside member rfl leads planned) keptBetween
  rw [run_applyRule_eq]
  refine ⟨keptAfter, fun trace inTraces => ?_⟩
  rcases List.mem_append.mp inTraces with old | new
  · exact before trace old
  · rw [List.mem_singleton.mp new, Step.trace]
    dsimp only
    split
    · intro part inParts other subject
      obtain rfl : part = _ := by simpa [Trace.parts] using inParts
      cases subject
    · refine Trace.staysIn_branch (fun other subject => Subject.noConfusion subject) fun child inChildren => ?_
      obtain ⟨result, inResults, rfl⟩ := List.mem_map.mp inChildren
      exact applied result inResults

theorem run_applyRules {rules : List Rule} (members : ∀ rule ∈ rules, rule ∈ application.node.rules)
    {progress : Progress} (before : ∀ trace ∈ progress.traces, trace.StaysIn reached) {memory : Memory}
    (kept : coherent memory) :
    let result := (run.applyRules apply active application.target.document application.node scope application.value
      progress rules).run memory
    coherent result.2 ∧ ∀ trace ∈ result.1.traces, trace.StaysIn reached := by
  induction rules generalizing progress memory with
  | nil => exact ⟨kept, before⟩
  | cons rule rest ih =>
    obtain ⟨keptBetween, stay⟩ :=
      run_applyRule confines stays within inside scope (members rule List.mem_cons_self) before kept
    exact ih (fun other member => members other (List.mem_cons_of_mem _ member)) stay keptBetween

end Stays

theorem stays_cutOff (run : Run) : Stays reached coherent fun path application => return run.cutOff path application :=
  fun _ _ _ inside _ kept => ⟨kept, Trace.staysIn_leaf inside⟩

namespace Confines

variable (confines : run.Confines reached coherent)
include confines

/-- A node within reach is applied within reach, if the nodes below it are. -/
theorem applyNode (stays : Stays reached coherent apply) : Stays reached coherent (run.applyNode apply) := by
  intro path application memory inside within kept
  cases shape : application.node.shape with
  | boolean accepts =>
    simp only [Run.applyNode, shape, Evaluation.run_pure]
    refine ⟨kept, Trace.staysIn_branch (fun other same => ?_) fun child member => absurd member List.not_mem_nil⟩
    obtain rfl : application = other := Subject.application.inj same
    exact inside
  | object rules =>
    have members := Node.applied_subset shape
    have active : ∀ resource ∈ application.target.active :: path.active, IsActive reached resource :=
      List.forall_mem_cons.mpr ⟨⟨application.target, inside, rfl⟩, within⟩
    have before : ∀ trace ∈ Progress.start.traces, trace.StaysIn reached :=
      fun trace member => absurd member List.not_mem_nil
    obtain ⟨keptAfter, stay⟩ :=
      Stays.run_applyRules confines stays active inside (path.scope run application) members before kept
    simp only [Run.applyNode, shape, Evaluation.run_bind, Evaluation.run_pure]
    refine ⟨keptAfter, Trace.staysIn_branch (fun other same => ?_) stay⟩
    obtain rfl : application = other := Subject.application.inj same
    exact inside

/-- An evaluation that starts within reach stays there. -/
theorem applyWithin (scopes : Nat) : Stays reached coherent (run.applyWithin scopes) := by
  induction scopes using Run.applyWithin.induct with
  | case1 => exact stays_cutOff run
  | case2 => exact confines.applyNode (stays_cutOff run)
  | case3 scopes ih => exact confines.applyNode ih

end Confines

end Run

end JsonSchema
