import JsonSchema.Proofs.Evaluation.Derivation
import JsonSchema.Proofs.Report.Builder

/-! # The verdict of a report

Reports of all formats tell the verdict of the root (`Schema.isValid_validate`), except that the basic
report of an evaluation that is cut off at its root says valid. So the formats agree exactly where the
options let at least one evaluation take place (`Schema.formats_agree_iff`).
-/

namespace JsonSchema

/-- Condensing a tree keeps its verdict; of a tree that goes it was valid. -/
theorem TreeBuilder.valid_kept? (condensed : Bool) (result : Result) (children : List ResultTree) :
    ((kept? condensed (.node result children)).getD (.node .blank [])).result.valid = result.valid := by
  unfold kept?
  split
  · next inner same =>
    obtain ⟨rfl, rfl⟩ := ResultTree.node.inj same
    split
    · next silent => simp_all [ResultTree.result, Result.blank]
    · rfl
  · next inner child same =>
    obtain ⟨rfl, rfl⟩ := ResultTree.node.inj same
    split
    · next alike => simp_all [ResultTree.result]
    · rfl
  · rfl

namespace Trace

theorem valid_tree? (condensed : Bool) (collect : CollectAnnotations) (trace : Trace) :
    ((trace.tree? condensed collect).getD (.node .blank [])).result.valid = trace.isValid := by
  cases trace with
  | leaf subject scope outcome => exact TreeBuilder.valid_kept? ..
  | branch subject scope outcome children => exact TreeBuilder.valid_kept? ..

end Trace

/-- What an application yields is a branch unless the path is as deep as the options let it be. -/
theorem Run.Yields.isBranch_trace {run : Run} {path : Path} {application : Application} {applied : Applied}
    (yields : run.Yields path application applied) :
    applied.trace.isBranch = decide (path.depth < run.options.maxDepth) := by
  cases yields with
  | cutOff exhausted => simpa [Run.cutOff, Trace.isBranch] using exhausted
  | boolean shallow shape => simpa [Trace.isBranch] using shallow
  | object shallow shape carried yields => simpa [Application.traceOf, Trace.isBranch] using shallow

theorem Run.Yields.isBranch_of_isValid {run : Run} {path : Path} {application : Application} {applied : Applied}
    (yields : run.Yields path application applied) (valid : applied.trace.isValid = true) :
    applied.trace.isBranch = true := by
  cases yields with
  | cutOff exhausted => exact Bool.noConfusion valid
  | boolean shallow shape => rfl
  | object shallow shape carried yields => rfl

namespace Schema

variable (schema : Schema) (options : Options) (value : Json) (dialects : DialectCache)

theorem isBranch_trace : (schema.trace options value dialects).1.isBranch = decide (0 < options.maxDepth) :=
  (Run.yields_evaluate ⟨options, schema⟩ value ⟨[], dialects⟩).isBranch_trace

theorem isBranch_of_isValid_trace (valid : (schema.trace options value dialects).1.isValid = true) :
    (schema.trace options value dialects).1.isBranch = true :=
  (Run.yields_evaluate ⟨options, schema⟩ value ⟨[], dialects⟩).isBranch_of_isValid valid

theorem isValid_trace_of_maxDepth_eq_zero (none : options.maxDepth = 0) :
    (schema.trace options value dialects).1.isValid = false := by
  refine Bool.eq_false_iff.mpr fun valid => ?_
  have branch := isBranch_of_isValid_trace schema options value dialects valid
  rw [isBranch_trace, none] at branch
  contradiction

/-- The verdict that the report of a format tells. -/
theorem isValid_validate (format : OutputFormat) :
    (schema.validate options format value dialects).1.isValid =
      ((schema.trace options value dialects).1.isValid || format == .basic && options.maxDepth == 0) := by
  have branch := isBranch_trace schema options value dialects
  have invalid := isValid_trace_of_maxDepth_eq_zero schema options value dialects
  cases format with
  | flag =>
    simp only [validate, Report.ofEvents, Report.isValid, VerdictBuilder.valid_events, branch]
    by_cases none : options.maxDepth = 0
    · simp [none, invalid none]
    · simp [Nat.pos_of_ne_zero none]
  | basic =>
    simp only [validate, Report.ofEvents, Report.isValid, ErrorBuilder.valid_events, branch]
    by_cases none : options.maxDepth = 0
    · simp [none]
    · simp [Nat.pos_of_ne_zero none, none]
  | detailed =>
    simp only [validate, Report.ofEvents, Report.isValid, TreeBuilder.tree_events, Trace.valid_tree?]
    simp
  | verbose =>
    simp only [validate, Report.ofEvents, Report.isValid, TreeBuilder.tree_events, Trace.valid_tree?]
    simp

/-- The reports of all formats tell the same verdict exactly where the options let the root be applied. -/
theorem formats_agree_iff :
    (∀ format other, (schema.validate options format value dialects).1.isValid =
      (schema.validate options other value dialects).1.isValid) ↔ options.maxDepth ≠ 0 := by
  simp only [isValid_validate]
  constructor
  · intro agree none
    have same := agree .basic .flag
    rw [isValid_trace_of_maxDepth_eq_zero schema options value dialects none, none] at same
    contradiction
  · intro positive format other
    have notNone : (options.maxDepth == 0) = false := beq_false_of_ne positive
    simp only [notNone, Bool.and_false, Bool.or_false]

/-- Where nothing may be evaluated the basic report says valid and the others do not. -/
theorem formats_disagree_without_depth :
    (compile .standard (Draft.url "example") (.object [("type", .string "string")])).toOption.map (fun schema =>
      [OutputFormat.flag, .basic, .detailed, .verbose].map fun format =>
        (schema.validate { Options.standard with maxDepth := 0 } format (.ofNat 1) []).1.isValid) =
      some [false, true, false, false] := by
  decide +kernel

end Schema

end JsonSchema
