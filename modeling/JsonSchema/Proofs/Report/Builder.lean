import JsonSchema.Proofs.Evaluation.Derivation
import JsonSchema.Report

/-! # What builders make of a trace

The events of a trace bring every builder back to the stack with which they began, and leave on its top
what the builder keeps of the trace. What is kept is told by recursion on the trace: its errors, entering
only what is invalid (`Trace.errors`), and the tree of its results, condensed or not (`Trace.tree?`).
-/

namespace JsonSchema

namespace Trace

@[simp] theorem eventsOf_nil : eventsOf [] = [] := rfl

@[simp] theorem eventsOf_cons (trace : Trace) (rest : List Trace) :
    eventsOf (trace :: rest) = trace.events ++ eventsOf rest := rfl

mutual

/-- The errors of a trace, entering only what is invalid. -/
def errors : Trace → List ErrorUnit
  | .leaf _ scope outcome => (ErrorUnit.ofOutcome? scope outcome).toList
  | .branch _ scope outcome children =>
    if outcome.isValid then [] else (ErrorUnit.ofOutcome? scope outcome).toList ++ errorsOf children

/-- The errors of several traces. -/
def errorsOf : List Trace → List ErrorUnit
  | [] => []
  | trace :: rest => trace.errors ++ errorsOf rest

end

mutual

/-- The tree of the results of a trace, or what is kept of it. -/
def tree? (condensed : Bool) (collect : CollectAnnotations) : Trace → Option ResultTree
  | .leaf _ scope outcome => TreeBuilder.kept? condensed (.node (.ofOutcome collect scope outcome) [])
  | .branch _ scope outcome children =>
    let result := Result.ofOutcome collect scope outcome
    TreeBuilder.kept? condensed
      (.node result (TreeBuilder.keptBelow condensed result (treesOf condensed collect children)))

/-- The trees of several traces. -/
def treesOf (condensed : Bool) (collect : CollectAnnotations) : List Trace → List ResultTree
  | [] => []
  | trace :: rest => (trace.tree? condensed collect).toList ++ treesOf condensed collect rest

end

end Trace

namespace VerdictBuilder

/-- The verdict is that of the root if it applies anything. -/
theorem valid_events (trace : Trace) :
    (trace.events.foldl step initial).valid = (trace.isBranch && trace.isValid) := by
  cases trace with
  | leaf subject scope outcome => rfl
  | branch subject scope outcome children => simp [Trace.events, step, Trace.isBranch, Trace.isValid, Trace.outcome]

end VerdictBuilder

namespace ErrorBuilder

theorem foldl_eventsOf {children : List Trace} (rest : List (List ErrorUnit))
    (each : ∀ child ∈ children, ∀ current valid, child.events.foldl step ⟨current :: rest, valid⟩ =
      ⟨(current ++ child.errors) :: rest, if child.isBranch then child.isValid else valid⟩)
    (current : List ErrorUnit) (valid : Bool) :
    ∃ last, (Trace.eventsOf children).foldl step ⟨current :: rest, valid⟩ =
      ⟨(current ++ Trace.errorsOf children) :: rest, last⟩ := by
  induction children generalizing current valid with
  | nil => exact ⟨valid, by simp [Trace.errorsOf]⟩
  | cons child others ih =>
    simp only [Trace.eventsOf_cons, List.foldl_append, each child List.mem_cons_self, Trace.errorsOf]
    rw [← List.append_assoc]
    exact ih (fun other member => each other (List.mem_cons_of_mem _ member)) _ _

/-- A trace adds its errors to those of what goes on around it. -/
theorem foldl_events (current : List ErrorUnit) (rest : List (List ErrorUnit)) (valid : Bool) (trace : Trace) :
    trace.events.foldl step ⟨current :: rest, valid⟩ =
      ⟨(current ++ trace.errors) :: rest, if trace.isBranch then trace.isValid else valid⟩ := by
  induction trace using Trace.children_induction generalizing current rest valid with
  | leaf subject scope outcome => rfl
  | branch subject scope outcome children ih =>
    obtain ⟨last, below⟩ := foldl_eventsOf (current :: rest) (fun child member current valid =>
      ih child member current _ valid) [] valid
    simp only [Trace.events, List.cons_append, List.foldl_cons, List.foldl_append, List.foldl_nil]
    rw [show step ⟨current :: rest, valid⟩ .start = ⟨[] :: current :: rest, valid⟩ from rfl, below]
    cases verdict : outcome.isValid <;>
      simp [step, verdict, addTo, Trace.errors, Trace.isBranch, Trace.isValid, Trace.outcome]

theorem valid_events (trace : Trace) :
    (trace.events.foldl step initial).valid = (!trace.isBranch || trace.isValid) := by
  rw [initial, foldl_events]
  cases trace.isBranch <;> rfl

theorem errors_events (trace : Trace) :
    (trace.events.foldl step initial).errors = if trace.isBranch then trace.errors else [] := by
  rw [initial, foldl_events]
  cases trace with
  | leaf subject scope outcome => rfl
  | branch subject scope outcome children =>
    cases verdict : outcome.isValid <;>
      simp [errors, Trace.errors, Trace.isBranch, Trace.isValid, Trace.outcome, verdict]

end ErrorBuilder

namespace TreeBuilder

variable {condensed : Bool} {collect : CollectAnnotations}

theorem place?_cons (current : List ResultTree) (rest : List (List ResultTree)) (root tree : Option ResultTree) :
    place? ⟨current :: rest, root⟩ tree = ⟨(current ++ tree.toList) :: rest, root⟩ := by
  cases tree <;> simp [place?, place]

theorem foldl_eventsOf {children : List Trace}
    (each : ∀ child ∈ children, ∀ builder : TreeBuilder,
      child.events.foldl (step condensed collect) builder = builder.place? (child.tree? condensed collect))
    (current : List ResultTree) (rest : List (List ResultTree)) (root : Option ResultTree) :
    (Trace.eventsOf children).foldl (step condensed collect) ⟨current :: rest, root⟩ =
      ⟨(current ++ Trace.treesOf condensed collect children) :: rest, root⟩ := by
  induction children generalizing current with
  | nil => simp [Trace.treesOf]
  | cons child others ih =>
    simp only [Trace.eventsOf_cons, List.foldl_append, each child List.mem_cons_self, place?_cons, Trace.treesOf]
    rw [← List.append_assoc]
    exact ih (fun other member => each other (List.mem_cons_of_mem _ member)) _

/-- A trace puts what is kept of its tree in its place. -/
theorem foldl_events (builder : TreeBuilder) (trace : Trace) :
    trace.events.foldl (step condensed collect) builder = builder.place? (trace.tree? condensed collect) := by
  induction trace using Trace.children_induction generalizing builder with
  | leaf subject scope outcome => rfl
  | branch subject scope outcome children ih =>
    have below := foldl_eventsOf ih [] builder.stack builder.root
    simp only [Trace.events, List.cons_append, List.foldl_cons, List.foldl_append, List.foldl_nil]
    rw [show step condensed collect builder .start = ⟨[] :: builder.stack, builder.root⟩ from rfl, below]
    rfl

theorem tree_events (trace : Trace) :
    (trace.events.foldl (step condensed collect) initial).tree =
      (trace.tree? condensed collect).getD (.node .blank []) := by
  rw [foldl_events]
  cases trace.tree? condensed collect <;> rfl

end TreeBuilder

end JsonSchema
