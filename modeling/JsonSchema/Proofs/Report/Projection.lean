import JsonSchema.Proofs.Report.Verdict

/-! # The basic report as a projection

The verbose report holds the result of everything that was applied. Walking it from the root, entering only
what is invalid, yields the errors of the basic report in order. None is missing: whatever is invalid has a
message of its own or applied something invalid, so the walk finds an error exactly if the root is invalid.
-/

namespace JsonSchema

namespace ResultTree

mutual

/-- A tree and all trees below it. -/
def nodes : ResultTree → List ResultTree
  | .node result children => .node result children :: nodesOf children

/-- Several trees and all trees below them. -/
def nodesOf : List ResultTree → List ResultTree
  | [] => []
  | tree :: rest => tree.nodes ++ nodesOf rest

end

mutual

/-- The errors on a walk in pre-order that enters only what is invalid. -/
def errors : ResultTree → List ErrorUnit
  | .node result children =>
    if result.valid then [] else (result.error.map (⟨result.place, ·⟩)).toList ++ errorsOf children

/-- The errors on walks through several trees. -/
def errorsOf : List ResultTree → List ErrorUnit
  | [] => []
  | tree :: rest => tree.errors ++ errorsOf rest

end

/-- Whether a tree that is invalid has a message at its root or an invalid child. -/
def IsExplained (tree : ResultTree) : Prop :=
  tree.result.valid = false → tree.result.error.isSome ∨ ∃ child ∈ tree.children, child.result.valid = false

end ResultTree

namespace Trace

variable (collect : CollectAnnotations)

mutual

/-- The tree of all results of a trace. -/
def results : Trace → ResultTree
  | .leaf _ scope outcome => .node (.ofOutcome collect scope outcome) []
  | .branch _ scope outcome children => .node (.ofOutcome collect scope outcome) (resultsOf children)

/-- The trees of all results of several traces. -/
def resultsOf : List Trace → List ResultTree
  | [] => []
  | trace :: rest => trace.results :: resultsOf rest

end

theorem resultsOf_eq_map (traces : List Trace) : resultsOf collect traces = traces.map (·.results collect) := by
  induction traces with
  | nil => rfl
  | cons trace rest ih => rw [resultsOf, ih, List.map_cons]

theorem result_results (trace : Trace) :
    (trace.results collect).result = .ofOutcome collect trace.scope trace.outcome := by
  cases trace <;> rfl

theorem children_results (trace : Trace) :
    (trace.results collect).children = trace.children.map (·.results collect) := by
  cases trace with
  | leaf subject scope outcome => rfl
  | branch subject scope outcome children => exact resultsOf_eq_map collect children

theorem treesOf_verbose {traces : List Trace}
    (each : ∀ trace ∈ traces, trace.tree? false collect = some (trace.results collect)) :
    treesOf false collect traces = resultsOf collect traces := by
  induction traces with
  | nil => rfl
  | cons trace rest ih =>
    rw [treesOf, each trace List.mem_cons_self, ih fun other member => each other (List.mem_cons_of_mem _ member)]
    rfl

/-- Without condensing all results are kept. -/
theorem tree?_verbose (trace : Trace) : trace.tree? false collect = some (trace.results collect) := by
  induction trace using children_induction with
  | leaf subject scope outcome => rfl
  | branch subject scope outcome children ih =>
    simp only [tree?, TreeBuilder.keptBelow, treesOf_verbose collect ih]
    rfl

theorem errorsOf_resultsOf {traces : List Trace}
    (each : ∀ trace ∈ traces, (trace.results collect).errors = trace.errors) :
    ResultTree.errorsOf (resultsOf collect traces) = errorsOf traces := by
  induction traces with
  | nil => rfl
  | cons trace rest ih =>
    rw [resultsOf, ResultTree.errorsOf, errorsOf, each trace List.mem_cons_self,
      ih fun other member => each other (List.mem_cons_of_mem _ member)]

/-- The walk through the results finds the errors of the trace. -/
theorem errors_results (trace : Trace) : (trace.results collect).errors = trace.errors := by
  induction trace using children_induction with
  | leaf subject scope outcome =>
    cases outcome <;> simp [results, ResultTree.errors, ResultTree.errorsOf, errors, Result.ofOutcome,
      Outcome.isValid, Outcome.message?, ErrorUnit.ofOutcome?]
  | branch subject scope outcome children ih =>
    simp only [results, ResultTree.errors, errorsOf_resultsOf collect ih, errors]
    rfl

theorem mem_nodesOf_resultsOf {node : ResultTree} {traces : List Trace}
    (member : node ∈ ResultTree.nodesOf (resultsOf collect traces)) :
    ∃ trace ∈ traces, node ∈ (trace.results collect).nodes := by
  induction traces with
  | nil => exact absurd member List.not_mem_nil
  | cons trace rest ih =>
    rw [resultsOf, ResultTree.nodesOf] at member
    rcases List.mem_append.mp member with here | there
    · exact ⟨trace, List.mem_cons_self, here⟩
    · obtain ⟨other, otherMember, inside⟩ := ih there
      exact ⟨other, List.mem_cons_of_mem _ otherMember, inside⟩

/-- Every result belongs to a part of the trace. -/
theorem mem_nodes_results {node : ResultTree} {trace : Trace} (member : node ∈ (trace.results collect).nodes) :
    ∃ part ∈ trace.parts, node = part.results collect := by
  induction trace using children_induction with
  | leaf subject scope outcome =>
    exact ⟨_, self_mem_parts _, by simpa [results, ResultTree.nodes, ResultTree.nodesOf] using member⟩
  | branch subject scope outcome children ih =>
    rw [results, ResultTree.nodes] at member
    rcases List.mem_cons.mp member with rfl | below
    · exact ⟨_, self_mem_parts _, rfl⟩
    · obtain ⟨child, childMember, inside⟩ := mem_nodesOf_resultsOf collect below
      obtain ⟨part, partMember, rfl⟩ := ih child childMember inside
      exact ⟨part, mem_parts.mpr (.inr ⟨child, childMember, partMember⟩), rfl⟩

/-- Whether a trace that is invalid has a message at its root or an invalid child. -/
def IsExplained (trace : Trace) : Prop :=
  trace.isValid = false → trace.outcome.message?.isSome ∨ ∃ child ∈ trace.children, child.isValid = false

theorem isExplained_results {trace : Trace} (explained : trace.IsExplained) : (trace.results collect).IsExplained := by
  intro invalid
  rw [result_results] at invalid ⊢
  rcases explained invalid with told | ⟨child, member, childInvalid⟩
  · exact .inl told
  · refine .inr ⟨child.results collect, ?_, ?_⟩
    · rw [children_results]
      exact List.mem_map_of_mem member
    · rw [result_results]
      exact childInvalid

theorem mem_errorsOf {unit : ErrorUnit} {traces : List Trace} :
    unit ∈ errorsOf traces ↔ ∃ trace ∈ traces, unit ∈ trace.errors := by
  induction traces with
  | nil => simp [errorsOf]
  | cons trace rest ih => simp [errorsOf, ih]

theorem errors_eq_nil {trace : Trace} (valid : trace.isValid = true) : trace.errors = [] := by
  cases trace with
  | leaf subject scope outcome =>
    cases outcome with
    | valid => rfl
    | annotated value => rfl
    | invalid message => exact Bool.noConfusion valid
  | branch subject scope outcome children => exact if_pos valid

/-- If all parts of an invalid trace are explained, it has an error. -/
theorem errors_ne_nil {trace : Trace} (explained : ∀ part ∈ trace.parts, part.IsExplained)
    (invalid : trace.isValid = false) : trace.errors ≠ [] := by
  induction trace using children_induction with
  | leaf subject scope outcome =>
    rcases explained _ (self_mem_parts _) invalid with told | ⟨child, member, childInvalid⟩
    · obtain ⟨message, told⟩ := Option.isSome_iff_exists.mp told
      simp only [Trace.outcome] at told
      simp [errors, ErrorUnit.ofOutcome?, told]
    · exact absurd member List.not_mem_nil
  | branch subject scope outcome children ih =>
    simp only [isValid, Trace.outcome] at invalid
    rcases explained _ (self_mem_parts _) invalid with told | ⟨child, member, childInvalid⟩
    · obtain ⟨message, told⟩ := Option.isSome_iff_exists.mp told
      simp only [Trace.outcome] at told
      simp [errors, ErrorUnit.ofOutcome?, told, invalid]
    · have below : ∀ part ∈ child.parts, part.IsExplained :=
        fun part inside => explained part (mem_parts.mpr (.inr ⟨child, member, inside⟩))
      obtain ⟨unit, found⟩ := List.exists_mem_of_ne_nil _ (ih child member below childInvalid)
      have collected : unit ∈ errorsOf children := mem_errorsOf.mpr ⟨child, member, found⟩
      rw [errors, if_neg (by simp [invalid])]
      exact List.ne_nil_of_mem (List.mem_append_right _ collected)

end Trace

namespace Run

variable {run : Run}

/-- A rule that fails has a message or applied something that fails. -/
theorem Performs.isExplained_trace {active : List ActiveResource} {application : Application} {before : List Step}
    {step : Step} (performs : run.Performs active application before step) (scope : Scope) :
    (step.trace scope).IsExplained := by
  intro invalid
  rw [Step.outcome_trace, performs.children_trace]
  rw [Step.isValid_trace, Step.isValid] at invalid
  cases verdict : step.outcome with
  | valid => simp [verdict, Outcome.isValid] at invalid
  | annotated value => simp [verdict, Outcome.isValid] at invalid
  | invalid message =>
    cases message with
    | some told => exact .inl rfl
    | none =>
      obtain ⟨outcome, member, failed⟩ := step.rule.accounts_plan step.facts step.target step.value _ verdict
      obtain ⟨result, resultMember, rfl⟩ := List.mem_map.mp member
      exact .inr ⟨result.2.trace, List.mem_map_of_mem resultMember, failed⟩

/-- A sub-schema that fails has a message or a rule that fails. -/
theorem Yields.isExplained_trace {path : Path} {application : Application} {applied : Applied}
    (yields : run.Yields path application applied) : applied.trace.IsExplained := by
  intro invalid
  cases yields with
  | cutOff exhausted => exact .inl rfl
  | @boolean _ _ accepts shallow shape =>
    cases accepts with
    | false => exact .inl rfl
    | true => exact Bool.noConfusion invalid
  | @object _ _ rules steps shallow shape carried yields =>
    rw [Application.isValid_traceOf, List.all_eq_false] at invalid
    obtain ⟨step, member, failed⟩ := invalid
    refine .inr ⟨step.trace _, List.mem_map_of_mem member, ?_⟩
    rw [Step.isValid_trace]
    exact Bool.eq_false_iff.mpr failed

theorem Yields.isExplained_part {path : Path} {application : Application} {applied : Applied}
    (yields : run.Yields path application applied) : ∀ part ∈ applied.trace.parts, part.IsExplained := by
  intro part member
  refine yields.parts_induction ?_ ?_ member
  · intro path application applied yields
    exact yields.isExplained_trace
  · intro active application before step scope performs
    exact performs.isExplained_trace scope

end Run

namespace Schema

variable (schema : Schema) (options : Options) (value : Json) (dialects : DialectCache)

theorem isExplained_part_trace : ∀ part ∈ (schema.trace options value dialects).1.parts, part.IsExplained :=
  (Run.yields_evaluate ⟨options, schema⟩ value ⟨[], dialects⟩).isExplained_part

theorem validate_verbose : (schema.validate options .verbose value dialects).1 =
    .tree ((schema.trace options value dialects).1.results options.collectAnnotations) := by
  simp only [validate, Report.ofEvents, TreeBuilder.tree_events, Trace.tree?_verbose]
  rfl

theorem validate_basic (evaluated : 0 < options.maxDepth) : (schema.validate options .basic value dialects).1 =
    .basic (schema.trace options value dialects).1.isValid (schema.trace options value dialects).1.errors := by
  have branch := isBranch_trace schema options value dialects
  simp only [validate, Report.ofEvents, ErrorBuilder.valid_events, ErrorBuilder.errors_events, branch, evaluated]
  simp

/-- The basic report lists the errors on the walk through the verbose report that enters only what is invalid,
and there is one exactly if the verdict is invalid. -/
theorem basic_eq_walk_of_verbose (evaluated : 0 < options.maxDepth) :
    ∃ tree, (schema.validate options .verbose value dialects).1 = .tree tree ∧
      (schema.validate options .basic value dialects).1 = .basic tree.result.valid tree.errors ∧
      (tree.errors = [] ↔ tree.result.valid = true) ∧ ∀ node ∈ tree.nodes, node.IsExplained := by
  have explained := isExplained_part_trace schema options value dialects
  refine ⟨_, validate_verbose schema options value dialects, ?_, ?_, ?_⟩
  · rw [validate_basic schema options value dialects evaluated, Trace.errors_results, Trace.result_results]
    rfl
  · rw [Trace.errors_results, Trace.result_results]
    constructor
    · intro none
      refine Bool.of_not_eq_false fun invalid => ?_
      exact Trace.errors_ne_nil explained invalid none
    · exact Trace.errors_eq_nil
  · intro node member
    obtain ⟨part, partMember, rfl⟩ := Trace.mem_nodes_results _ member
    exact Trace.isExplained_results _ (explained part partMember)

/-- A wrong type below two keywords is found on the walk. -/
theorem walk_of_nested_failure :
    ∃ schema, (compile .standard (Draft.url "example") (.object [("properties",
        .object [("a", .object [("type", .string "string")])])])).toOption = some schema ∧
      0 < Options.standard.maxDepth ∧
      ∃ tree, (schema.validate .standard .verbose (.object [("a", .null)]) []).1 = .tree tree ∧
        (schema.validate .standard .basic (.object [("a", .null)]) []).1 = .basic tree.result.valid tree.errors ∧
        tree.result.valid = false ∧ (tree.errors = [] ↔ tree.result.valid = true) ∧
        ∀ node ∈ tree.nodes, node.IsExplained := by
  have verdict : (compile .standard (Draft.url "example") (.object [("properties",
      .object [("a", .object [("type", .string "string")])])])).toOption.map (fun schema =>
        (schema.validate .standard .basic (.object [("a", .null)]) []).1.isValid) = some false := by decide +kernel
  obtain ⟨schema, compiled, invalid⟩ := Option.map_eq_some_iff.mp verdict
  obtain ⟨tree, verbose, basic, empty, explained⟩ :=
    basic_eq_walk_of_verbose schema .standard (.object [("a", .null)]) [] (by decide)
  rw [basic] at invalid
  exact ⟨schema, compiled, by decide, tree, verbose, basic, invalid, empty, explained⟩

end Schema

end JsonSchema
