import JsonSchema.Proofs.Evaluation.Derivation

/-! # What traces attach

The trace of an application tells which values are attached to its instance (`Trace.attached`,
`Run.Yields.attached_trace`) and which rules attached them (`Trace.attachers`): those of the schema object itself, and
those of the valid sub-schemas that it applied in place. So it also tells what a rule finds before it
(`Application.factsAfter`).
-/

namespace JsonSchema

/-- The value that a rule attaches by itself, under its keyword. -/
def Subject.attaches (outcome : Outcome) : Subject → List (String × Json)
  | .application _ => []
  | .rule applied => (outcome.value?.map (applied.keyword, ·)).toList

namespace Trace

/-- Whether what a trace attaches belongs to the instance around it. -/
def counts (trace : Trace) : Bool :=
  match trace.subject with
  | .rule _ => true
  | .application application => trace.isValid && application.contributes

mutual

/-- The values that a trace attaches to its instance. -/
def attached : Trace → List (String × Json)
  | .leaf subject _ outcome => subject.attaches outcome
  | .branch subject _ outcome children => attachedOf children ++ subject.attaches outcome

/-- The values that several traces attach to the instance around them. -/
def attachedOf : List Trace → List (String × Json)
  | [] => []
  | trace :: rest => (if trace.counts then trace.attached else []) ++ attachedOf rest

end

mutual

/-- The rules that may attach values to the instance of a trace. -/
def attachers : Trace → List Rule
  | .leaf subject _ _ => subject.rule?.toList
  | .branch subject _ _ children => attachersOf children ++ subject.rule?.toList

/-- The rules that may attach values to the instance around several traces. -/
def attachersOf : List Trace → List Rule
  | [] => []
  | trace :: rest => (if trace.counts then trace.attachers else []) ++ attachersOf rest

end

theorem attached_eq (trace : Trace) :
    trace.attached = attachedOf trace.children ++ trace.subject.attaches trace.outcome := by
  cases trace <;> rfl

theorem attachers_eq (trace : Trace) : trace.attachers = attachersOf trace.children ++ trace.subject.rule?.toList := by
  cases trace <;> rfl

theorem attachedOf_eq (traces : List Trace) :
    attachedOf traces = traces.flatMap fun trace => if trace.counts then trace.attached else [] := by
  induction traces with
  | nil => rfl
  | cons trace rest ih => rw [attachedOf, ih, List.flatMap_cons]

theorem attachersOf_eq (traces : List Trace) :
    attachersOf traces = traces.flatMap fun trace => if trace.counts then trace.attachers else [] := by
  induction traces with
  | nil => rfl
  | cons trace rest ih => rw [attachersOf, ih, List.flatMap_cons]

theorem attachersOf_append (traces further : List Trace) :
    attachersOf (traces ++ further) = attachersOf traces ++ attachersOf further := by
  simp only [attachersOf_eq, List.flatMap_append]

theorem attachers_subset_attachersOf {trace : Trace} {traces : List Trace} (member : trace ∈ traces)
    (counts : trace.counts = true) : trace.attachers ⊆ attachersOf traces := by
  intro rule inside
  rw [attachersOf_eq]
  exact List.mem_flatMap.mpr ⟨trace, member, by rwa [if_pos counts]⟩

end Trace

namespace Step

variable (step : Step) (scope : Scope)

theorem counts_trace : (step.trace scope).counts = true := by rw [Trace.counts, step.subject_trace]

theorem attachers_trace (planned : step.results.map (·.1) = step.plan.applications) :
    (step.trace scope).attachers = Trace.attachersOf (step.results.map (·.2.trace)) ++ [step.rule] := by
  rw [Trace.attachers_eq, step.children_trace scope planned, step.subject_trace]
  rfl

theorem attachersOf_trace : Trace.attachersOf [step.trace scope] = (step.trace scope).attachers := by
  rw [Trace.attachersOf, if_pos (step.counts_trace scope)]
  exact List.append_nil _

end Step

namespace Run

variable {run : Run} {active : List ActiveResource} {application : Application} {before : List Step} {step : Step}

/-- The trace of a step attaches what the step does, if this holds of what the step applied. -/
theorem Performs.attached_trace (performs : run.Performs active application before step) (scope : Scope)
    (subjects : ∀ result ∈ step.results, result.2.trace.subject = .application result.1)
    (below : ∀ result ∈ step.results, result.2.attached = result.2.trace.attached) :
    (step.trace scope).attached = step.attached := by
  have contributed : Trace.attachedOf (step.results.map (·.2.trace)) = step.contributed := by
    rw [Trace.attachedOf_eq, List.flatMap_map, Step.contributed, List.flatMap_def, List.flatMap_def]
    refine congrArg List.flatten (List.map_congr_left fun result member => ?_)
    rw [Trace.counts, subjects result member, ← below result member]
    rfl
  rw [Trace.attached_eq, performs.children_trace, contributed, step.subject_trace, step.outcome_trace]
  rfl

theorem attachedOf_trace {steps : List Step} (scope : Scope)
    (same : ∀ step ∈ steps, (step.trace scope).attached = step.attached) :
    Trace.attachedOf (steps.map (·.trace scope)) = steps.flatMap (·.attached) := by
  rw [Trace.attachedOf_eq, List.flatMap_map, List.flatMap_def, List.flatMap_def]
  refine congrArg List.flatten (List.map_congr_left fun step member => ?_)
  rw [if_pos (step.counts_trace scope), same step member]

/-- The trace of an application tells what is attached to its instance. -/
theorem Yields.attached_trace {path : Path} {applied : Applied} (yields : run.Yields path application applied) :
    applied.attached = applied.trace.attached := by
  induction yields with
  | cutOff exhausted => rfl
  | boolean shallow shape => rfl
  | @object path application rules steps shallow shape carried yields ih =>
    rw [Trace.attached_eq]
    refine (attachedOf_trace (path.scope run application) fun step member => ?_).symm.trans (List.append_nil _).symm
    obtain ⟨before, after, -, performs⟩ := carried.performs_of_mem member
    exact performs.attached_trace _ (fun result inside => (yields step member result inside).subject_trace)
      (ih step member)

end Run

/-- What a rule of a schema object may look at after the traces of the earlier rules. -/
def Application.factsAfter (application : Application) (options : Options) (earlier : List Trace) : Facts :=
  ⟨options, application.target.document, application.node,
    earlier.filterMap fun trace => trace.subject.rule?.map fun rule => (rule.keyword, trace.outcome),
    Trace.attachedOf earlier⟩

theorem Run.Performs.factsAfter_eq {run : Run} {active : List ActiveResource} {application : Application}
    {before : List Step} {step : Step} (performs : run.Performs active application before step) (scope : Scope)
    (same : ∀ earlier ∈ before, (earlier.trace scope).attached = earlier.attached) :
    application.factsAfter run.options (before.map (·.trace scope)) = step.facts := by
  let sibling? (trace : Trace) := trace.subject.rule?.map fun rule => (rule.keyword, trace.outcome)
  have sibling : sibling? ∘ (Step.trace · scope) = some ∘ Step.sibling := by
    funext earlier
    simp only [sibling?, Function.comp_apply, earlier.subject_trace, earlier.outcome_trace]
    rfl
  have siblings : (before.map (·.trace scope)).filterMap sibling? = before.map (·.sibling) := by
    rw [List.filterMap_map, sibling, List.filterMap_eq_map]
  rw [performs.facts_eq, Application.factsAfter, attachedOf_trace scope same, siblings]

end JsonSchema
