import JsonSchema.Proofs.Report.Condensed

/-! # Places in a report

Every place that a report tells is the scope of a part of the trace, whatever the shape of the report; only where nothing
was kept does a report tell the place of the root on its own (`Schema.exists_part_of_mem_places`).
-/

namespace JsonSchema

/-- The places of everything that a report lists. -/
def Report.places : Report → List ResultPlace
  | .flag _ => []
  | .basic _ errors => errors.map (·.place)
  | .tree root => root.nodes.map (·.result.place)

namespace Trace

/-- An error of a trace has the place of a part of the trace. -/
theorem exists_part_of_mem_errors (trace : Trace) :
    ∀ unit ∈ trace.errors, ∃ part ∈ trace.parts, unit.place = .ofScope part.scope := by
  have own {subject : Subject} {scope : Scope} {outcome : Outcome} {unit : ErrorUnit}
      (member : unit ∈ (ErrorUnit.ofOutcome? scope outcome).toList) : unit.place = .ofScope scope := by
    obtain ⟨message, -, rfl⟩ := Option.map_eq_some_iff.mp (Option.mem_toList.mp member)
    rfl
  induction trace using children_induction with
  | leaf subject scope outcome => exact fun unit member => ⟨_, self_mem_parts _, @own subject _ _ _ member⟩
  | branch subject scope outcome children ih =>
    intro unit member
    rw [errors] at member
    split at member
    · exact absurd member List.not_mem_nil
    · rcases List.mem_append.mp member with here | below
      · exact ⟨_, self_mem_parts _, @own subject _ _ _ here⟩
      · obtain ⟨child, childMember, inside⟩ := mem_errorsOf.mp below
        obtain ⟨part, partMember, place⟩ := ih child childMember unit inside
        exact ⟨part, mem_parts.mpr (.inr ⟨child, childMember, partMember⟩), place⟩

/-- A result that is kept of a trace has the place of a part of the trace. -/
theorem exists_part_of_mem_nodes {collect : CollectAnnotations} (trace : Trace) :
    ∀ tree, trace.tree? true collect = some tree → ∀ node ∈ tree.nodes,
      ∃ part ∈ trace.parts, node.result.place = .ofScope part.scope := by
  induction trace using children_induction with
  | leaf subject scope outcome =>
    intro tree kept node member
    rw [tree?] at kept
    have leaf := TreeBuilder.nodes_subset_of_kept? kept member
    obtain rfl : node = _ := by simpa [ResultTree.nodes, ResultTree.nodesOf] using leaf
    exact ⟨_, self_mem_parts _, rfl⟩
  | branch subject scope outcome children ih =>
    intro tree kept node member
    rw [tree?] at kept
    rcases ResultTree.mem_nodes.mp (TreeBuilder.nodes_subset_of_kept? kept member) with rfl | ⟨child, inside, member⟩
    · exact ⟨_, self_mem_parts _, rfl⟩
    · obtain ⟨below, belowMember, same⟩ := mem_treesOf.mp (TreeBuilder.keptBelow_subset _ _ _ inside)
      obtain ⟨part, partMember, place⟩ := ih below belowMember child same node member
      exact ⟨part, mem_parts.mpr (.inr ⟨below, belowMember, partMember⟩), place⟩

end Trace

namespace Schema

variable (schema : Schema) (options : Options) (value : Json) (dialects : DialectCache)

/-- What a report tells to be elsewhere than the path of evaluation says is a part of the trace. -/
theorem exists_part_of_mem_places (format : OutputFormat) {place : ResultPlace}
    (member : place ∈ (schema.validate options format value dialects).1.places)
    (relocated : place.absoluteLocation.isSome = true) :
    ∃ part ∈ (schema.trace options value dialects).1.parts, place = .ofScope part.scope := by
  cases format with
  | flag => exact absurd member List.not_mem_nil
  | basic =>
    simp only [validate, Report.ofEvents, ErrorBuilder.errors_events, Report.places] at member
    obtain ⟨unit, inside, rfl⟩ := List.mem_map.mp member
    split at inside
    · exact Trace.exists_part_of_mem_errors _ unit inside
    · exact absurd inside List.not_mem_nil
  | detailed =>
    rw [validate_detailed] at member
    obtain ⟨node, inside, rfl⟩ := List.mem_map.mp member
    cases kept : (schema.trace options value dialects).1.tree? true options.collectAnnotations with
    | none =>
      rw [kept] at inside
      obtain rfl : node = _ := by simpa [ResultTree.nodes, ResultTree.nodesOf] using inside
      cases relocated
    | some tree =>
      rw [kept] at inside
      exact Trace.exists_part_of_mem_nodes _ tree kept node inside
  | verbose =>
    rw [validate_verbose] at member
    obtain ⟨node, inside, rfl⟩ := List.mem_map.mp member
    obtain ⟨part, partMember, rfl⟩ := Trace.mem_nodes_results _ inside
    refine ⟨part, partMember, ?_⟩
    rw [Trace.result_results]
    rfl

end Schema

end JsonSchema
