import JsonSchema.Proofs.Evaluation.DepthLimit
import JsonSchema.Proofs.Evaluation.Fragments
import JsonSchema.Proofs.Evaluation.Polarity
import JsonSchema.Proofs.Report.Verdict

/-! # Rejecting where evaluations are cut off

A sub-schema that is cut off counts as invalid. This can only lead to the rejection of an instance, unless it bears on the
root by being invalid: below `not`, or below rules that bear either way, which are `oneOf`, `if` beside a branch and
`contains` beside `maxContains` (`Trace.failsClosed`). Without such a cut what is valid under a limit is valid under every
higher limit (`Schema.isValid_validate_of_failsClosed`), and with one it need not be (`Schema.deeper_rejects`).

The result of an application inside fewer scopes entails that inside more scopes, or follows from it, by the direction in
which it bears on the root (`Run.entailsIn_judgeWithin`). The proof is by induction on the scopes; lookups are taken to be
unambiguous, so that the memory of the longer evaluation makes no difference.
-/

namespace JsonSchema

namespace Trace

mutual

/-- Whether nothing is cut off in a trace that could bring its root to be valid by being invalid. The direction says
whether the trace bears on the root by being valid or by being invalid, and the node is that of the rule around. -/
def isGuarded (direction : Bool) (around : Node) : Trace → Bool
  | .leaf (.application _) _ _ => direction
  | .leaf (.rule _) _ _ => true
  | .branch (.application application) _ _ children => areGuarded direction application.node children
  | .branch (.rule rule) _ _ children =>
    (around.bearings rule).all fun bearing => areGuarded (direction == bearing) around children

/-- Whether nothing is cut off in several traces that could bring the root around to be valid by being invalid. -/
def areGuarded (direction : Bool) (around : Node) : List Trace → Bool
  | [] => true
  | trace :: rest => trace.isGuarded direction around && areGuarded direction around rest

end

/-- Whether an evaluation is cut off only where this cannot bring the root of the trace to be valid. -/
def failsClosed (trace : Trace) : Bool := trace.isGuarded true .beyond

theorem isGuarded_of_mem {direction : Bool} {around : Node} {traces : List Trace}
    (guarded : areGuarded direction around traces = true) {trace : Trace} (member : trace ∈ traces) :
    trace.isGuarded direction around = true := by
  induction traces with
  | nil => exact absurd member List.not_mem_nil
  | cons head rest ih =>
    rw [areGuarded, Bool.and_eq_true] at guarded
    rcases List.mem_cons.mp member with rfl | member
    · exact guarded.1
    · exact ih guarded.2 member

end Trace

namespace Run

variable {run : Run} {leads : Lookup} {judge judge' : Judge}

theorem traces_subset_judgeRules (active : List ActiveResource) (application : Application) (scope : Scope)
    (progress : Progress) (rules : List Rule) :
    progress.traces ⊆ (run.judgeRules leads judge active application scope progress rules).traces := by
  induction rules generalizing progress with
  | nil => exact List.Subset.refl _
  | cons rule rest ih =>
    let step := run.stepBy leads judge active application scope progress rule
    exact List.Subset.trans (List.subset_append_left _ [step.trace scope]) (ih (progress.perform scope step))

theorem isValid_of_judgeRules {active : List ActiveResource} {application : Application} {scope : Scope}
    {progress : Progress} {rules : List Rule}
    (valid : (run.judgeRules leads judge active application scope progress rules).isValid = true) :
    progress.isValid = true := by
  induction rules generalizing progress with
  | nil => exact valid
  | cons rule rest ih =>
    have next := ih valid
    rw [Progress.isValid_perform, Bool.and_eq_true] at next
    exact next.1

/-- Whether what the rules of a schema object have done is as good in a second case as in a first one. -/
structure Favours (application : Application) (progress progress' : Progress) : Prop where
  isValid : progress'.isValid = true
  siblings : List.Forall₂ (fun sibling sibling' => sibling'.1 = sibling.1 ∧
    sibling.2.Favours application.node sibling.1 sibling'.2) progress.siblings progress'.siblings
  attached : Covers application.value progress.attached progress'.attached

/-- Whether the results of the applications of two cases entail each other in the ways in which they bear on their
rules, wherever both traces show what was applied. -/
def EntailsBelow (run : Run) (leads : Lookup) (judge judge' : Judge) (active : List ActiveResource)
    (application : Application) (scope : Scope) (traces traces' : List Trace) : Prop :=
  ∀ rule ∈ application.node.rules, ∀ progress progress',
    let step := run.stepBy leads judge active application scope progress rule
    let step' := run.stepBy leads judge' active application scope progress' rule
    step.trace scope ∈ traces → step'.trace scope ∈ traces' →
      ∀ inner ∈ step.plan.applications, inner ∈ step'.plan.applications →
        ∀ direction ∈ application.node.bearings rule, Applied.EntailsIn direction inner.value
          (judge ⟨some (scope.keyword rule.keyword), active⟩ inner)
          (judge' ⟨some (scope.keyword rule.keyword), active⟩ inner)

variable {active : List ActiveResource} {application : Application} {scope : Scope} {traces traces' : List Trace}

/-- One more valid rule keeps the second case as good. -/
theorem Favours.perform {progress progress' : Progress} (favours : Favours application progress progress')
    (below : run.EntailsBelow leads judge judge' active application scope traces traces') {rule : Rule}
    (member : rule ∈ application.node.rules)
    (shown : (run.stepBy leads judge active application scope progress rule).trace scope ∈ traces)
    (shown' : (run.stepBy leads judge' active application scope progress' rule).trace scope ∈ traces')
    (valid : (run.stepBy leads judge active application scope progress rule).isValid = true) :
    Favours application (progress.perform scope (run.stepBy leads judge active application scope progress rule))
      (progress'.perform scope (run.stepBy leads judge' active application scope progress' rule)) := by
  have parallels : Step.Parallels (judge ⟨some (scope.keyword rule.keyword), active⟩)
      (judge' ⟨some (scope.keyword rule.keyword), active⟩)
      (run.stepBy leads judge active application scope progress rule)
      (run.stepBy leads judge' active application scope progress' rule) :=
    { rule_eq := rfl, value_eq := rfl, target_eq := rfl, member, results_eq := rfl, results_eq' := rfl
      facts := ⟨rfl, rfl, rfl, favours.siblings, favours.attached⟩
      below := below rule member progress progress' shown shown' }
  have entails := parallels.entails valid
  constructor
  · rw [Progress.isValid_perform, favours.isValid, Bool.true_and]
    exact entails.isValid
  · simp only [Progress.perform, Progress.record, Step.outcome_trace]
    exact List.rel_append favours.siblings (.cons ⟨rfl, entails.favours⟩ .nil)
  · have covers := entails.covers
    simp only [Progress.perform, Progress.record, Step.outcome_trace, List.append_assoc]
    exact covers

/-- The rules of a valid schema object are all valid in the second case too. -/
theorem Favours.judgeRules {progress progress' : Progress} (favours : Favours application progress progress')
    (below : run.EntailsBelow leads judge judge' active application scope traces traces') {rules : List Rule}
    (members : ∀ rule ∈ rules, rule ∈ application.node.rules)
    (shown : (run.judgeRules leads judge active application scope progress rules).traces ⊆ traces)
    (shown' : (run.judgeRules leads judge' active application scope progress' rules).traces ⊆ traces')
    (valid : (run.judgeRules leads judge active application scope progress rules).isValid = true) :
    Favours application (run.judgeRules leads judge active application scope progress rules)
      (run.judgeRules leads judge' active application scope progress' rules) := by
  induction rules generalizing progress progress' with
  | nil => exact favours
  | cons rule rest ih =>
    have next := @isValid_of_judgeRules _ _ _ _ _ _ _ rest valid
    rw [Progress.isValid_perform, Bool.and_eq_true] at next
    have last : ∀ (progress : Progress) (step : Step), step.trace scope ∈ (progress.perform scope step).traces :=
      fun progress step => List.mem_append_right _ (List.mem_singleton_self _)
    have performed := favours.perform below (members rule List.mem_cons_self)
      (shown (traces_subset_judgeRules _ _ _ _ rest (last _ _)))
      (shown' (traces_subset_judgeRules _ _ _ _ rest (last _ _))) next.2
    exact ih performed (fun other member => members other (List.mem_cons_of_mem _ member)) shown shown' valid

/-- The result of a schema object entails another one if the results of its sub-schemas entail each other in the ways in
which they bear on it. -/
theorem entails_judgeNode {path : Path} {application : Application}
    (below : run.EntailsBelow leads judge judge' (application.target.active :: path.active) application
      (path.scope run application) (run.judgeNode leads judge path application).trace.children
      (run.judgeNode leads judge' path application).trace.children) :
    Applied.Entails application.value (run.judgeNode leads judge path application)
      (run.judgeNode leads judge' path application) := by
  intro valid
  unfold judgeNode at below valid ⊢
  cases shape : application.node.shape with
  | boolean accepts =>
    simp only [shape] at valid ⊢
    exact ⟨trivial, Covers.refl _⟩
  | object rules =>
    simp only [shape] at below valid ⊢
    have members := Node.applied_subset shape
    have start : Favours application .start .start := ⟨rfl, .nil, Covers.refl _⟩
    have holds := (Outcome.isValid_ofBool _).symm.trans valid
    have favours := start.judgeRules below members (List.Subset.refl _) (List.Subset.refl _) holds
    exact ⟨congrArg Outcome.ofBool (favours.isValid.trans holds.symm), favours.attached⟩

theorem judgeWithin_of_pos (run : Run) (leads : Lookup) {scopes : Nat} (positive : 0 < scopes) :
    run.judgeWithin leads scopes = run.judgeNode leads (run.judgeWithin leads (scopes - 2)) := by
  match scopes, positive with
  | 1, _ => rfl
  | scopes + 2, _ => rfl

/-- What a guarded schema object applies is guarded in every way in which it bears on its rule. -/
theorem isGuarded_of_judgeNode {path : Path} {application : Application} {direction : Bool} {around : Node}
    (guarded : (run.judgeNode leads judge path application).trace.isGuarded direction around = true)
    {rule : Rule} {progress : Progress}
    (shown : (run.stepBy leads judge (application.target.active :: path.active) application (path.scope run application)
      progress rule).trace (path.scope run application) ∈ (run.judgeNode leads judge path application).trace.children)
    {inner : Application} (planned : inner ∈ (run.stepBy leads judge (application.target.active :: path.active) application
      (path.scope run application) progress rule).plan.applications)
    {bearing : Bool} (bears : bearing ∈ application.node.bearings rule) :
    (judge (run.pathBelow path application rule) inner).trace.isGuarded (direction == bearing) application.node = true := by
  have children : Trace.areGuarded direction application.node
      (run.judgeNode leads judge path application).trace.children = true := by
    unfold judgeNode at guarded ⊢
    cases shape : application.node.shape <;> simp only [shape] at guarded ⊢ <;> exact guarded
  have step := Trace.isGuarded_of_mem children shown
  cases leaf : rule.isLeaf with
  | true =>
    change inner ∈ (rule.plan _ _ _).applications at planned
    rw [Rule.applications_plan_of_isLeaf leaf] at planned
    exact absurd planned List.not_mem_nil
  | false =>
    rw [Step.trace, stepBy] at step
    simp only [leaf, Bool.false_eq_true, if_false, Trace.isGuarded] at step
    let apply (inner : Application) := (inner, judge (run.pathBelow path application rule) inner)
    have applied : apply inner ∈ _ := List.mem_map_of_mem planned
    exact Trace.isGuarded_of_mem (List.all_eq_true.mp step bearing bears) (List.mem_map_of_mem applied)

/-- What an application yields inside fewer scopes entails what it yields inside more if it is guarded, and follows
from it if it is guarded in the other direction. -/
theorem entailsIn_judgeWithin {scopes more : Nat} (le : scopes ≤ more) (direction : Bool) {around : Node}
    {path : Path} {application : Application}
    (guarded : (run.judgeWithin leads scopes path application).trace.isGuarded direction around = true) :
    Applied.EntailsIn direction application.value (run.judgeWithin leads scopes path application)
      (run.judgeWithin leads more path application) := by
  induction scopes using Nat.strong_induction_on generalizing more direction around path application with
  | _ scopes ih =>
    rcases Nat.eq_zero_or_pos scopes with rfl | positive
    · obtain rfl : direction = true := guarded
      exact fun valid => Bool.noConfusion valid
    · rw [judgeWithin_of_pos run leads positive] at guarded ⊢
      rw [judgeWithin_of_pos run leads (Nat.lt_of_lt_of_le positive le)]
      have fewer : scopes - 2 < scopes := by omega
      have below : scopes - 2 ≤ more - 2 := by omega
      cases direction with
      | true =>
        refine entails_judgeNode fun rule _ progress progress' shown _ inner planned _ bearing bears => ?_
        have entails := ih _ fewer below _ (isGuarded_of_judgeNode guarded shown planned bears)
        rwa [Bool.true_beq] at entails
      | false =>
        refine entails_judgeNode fun rule _ progress progress' _ shown inner _ planned bearing bears => ?_
        have entails := ih _ fewer below _ (isGuarded_of_judgeNode guarded shown planned bears)
        rw [Bool.false_beq] at entails
        cases bearing <;> exact entails

/-! ## Evaluations under two limits -/

/-- Without memory the limit is looked at in one place only. -/
theorem judgeNode_limitedTo (depth : Nat) : (run.limitedTo depth).judgeNode leads judge = run.judgeNode leads judge := by
  have performed (active : List ActiveResource) (application : Application) (scope : Scope) (progress : Progress)
      (rule : Rule) : progress.perform scope ((run.limitedTo depth).stepBy leads judge active application scope progress
        rule) = progress.perform scope (run.stepBy leads judge active application scope progress rule) := by
    let facts : Facts :=
      ⟨run.options, application.target.document, application.node, progress.siblings, progress.attached⟩
    let target := leads application.target.document active rule
    let results (facts : Facts) := (rule.plan facts target application.value).applications.map fun inner =>
      (inner, judge ⟨some (scope.keyword rule.keyword), active⟩ inner)
    show progress.perform scope ⟨rule, facts.limitedTo depth, target, application.value, results (facts.limitedTo depth)⟩ =
      progress.perform scope ⟨rule, facts, target, application.value, results facts⟩
    rw [Progress.perform_limitedTo]
    simp only [results, Rule.plan_limitedTo]
  funext path application
  simp only [judgeNode, judgeRules, performed]
  rfl

theorem judgeWithin_limitedTo (depth scopes : Nat) :
    (run.limitedTo depth).judgeWithin leads scopes = run.judgeWithin leads scopes := by
  induction scopes using Run.applyWithin.induct with
  | case1 => rfl
  | case2 => exact judgeNode_limitedTo depth
  | case3 scopes ih => rw [judgeWithin, judgeWithin, ih, judgeNode_limitedTo]

theorem LeadsBy.limitedTo {reached : Document → Prop} {coherent : Memory → Prop}
    (by_ : run.LeadsBy leads reached coherent) (depth : Nat) : (run.limitedTo depth).LeadsBy leads reached coherent where
  target_eq := by
    rw [target_limitedTo]
    exact by_.target_eq
  keeps := by
    rw [target_limitedTo]
    exact by_.keeps
  reaches := by_.reaches

/-- Where lookups are unambiguous, what is judged under a limit is what is evaluated under it. -/
theorem evaluate_limitedTo {dialects : DialectCache} (unambiguous : run.IsUnambiguous dialects) (depth : Nat)
    (value : Json) : (((run.limitedTo depth).evaluate value).run ⟨[], dialects⟩).1 =
      run.judgeWithin (run.targetAfresh dialects) depth .root
        (.inPlace ⟨run.root.document, run.root.rootIndex⟩ value none) := by
  have remembers := ((leadsBy_targetAfresh unambiguous).limitedTo depth).remembers depth
  have judged := remembers .root (.inPlace ⟨run.root.document, run.root.rootIndex⟩ value none) ⟨[], dialects⟩ .root
    (fun _ none => absurd none List.not_mem_nil) .start
  rw [judgeWithin_limitedTo] at judged
  exact judged.1

end Run

namespace Schema

variable (schema : Schema) (options : Options) (format : OutputFormat) (value : Json) (dialects : DialectCache)

theorem isValid_trace_of_failsClosed (unambiguous : (Run.mk options schema).IsUnambiguous dialects)
    {depth deeper : Nat} (le : depth ≤ deeper)
    (closed : (schema.trace { options with maxDepth := depth } value dialects).1.failsClosed = true)
    (valid : (schema.trace { options with maxDepth := depth } value dialects).1.isValid = true) :
    (schema.trace { options with maxDepth := deeper } value dialects).1.isValid = true := by
  have judged := @Run.evaluate_limitedTo ⟨options, schema⟩ dialects unambiguous depth value
  have judged' := @Run.evaluate_limitedTo ⟨options, schema⟩ dialects unambiguous deeper value
  have traced : (schema.trace { options with maxDepth := depth } value dialects).1 = _ := congrArg Applied.trace judged
  have traced' : (schema.trace { options with maxDepth := deeper } value dialects).1 = _ := congrArg Applied.trace judged'
  rw [traced] at closed valid
  rw [traced']
  have entails : Applied.EntailsIn true value _ _ := Run.entailsIn_judgeWithin le true closed
  obtain ⟨same, -⟩ := entails valid
  exact (congrArg Outcome.isValid same).trans valid

/-- An instance that is reported valid under a limit is reported valid under every higher limit, if nothing is cut off
that could bring it to be valid by being invalid, and lookups are unambiguous. -/
theorem isValid_validate_of_failsClosed (unambiguous : (Run.mk options schema).IsUnambiguous dialects)
    {depth deeper : Nat} (le : depth ≤ deeper) (told : depth ≠ 0 ∨ format ≠ .basic)
    (closed : (schema.trace { options with maxDepth := depth } value dialects).1.failsClosed = true)
    (valid : (schema.validate { options with maxDepth := depth } format value dialects).1.isValid = true) :
    (schema.validate { options with maxDepth := deeper } format value dialects).1.isValid = true := by
  have notBlind : (format == .basic && depth == 0) = false := by
    rcases told with positive | other
    · rw [beq_false_of_ne positive, Bool.and_false]
    · rw [beq_false_of_ne other, Bool.false_and]
  rw [isValid_validate, notBlind, Bool.or_false] at valid
  rw [isValid_validate, isValid_trace_of_failsClosed schema options value dialects unambiguous le closed valid,
    Bool.true_or]

/-- The items are cut off, but a branch that is no part of them accepts the array. -/
theorem isValid_validate_of_failsClosed_anyOf :
    let value : Json := .array [.string "a"]
    ∃ schema, (compile .standard (Draft.url "example") (.object [("anyOf", .array
        [.object [("items", .object [("not", .object [("type", .string "string")])])],
          .object [("type", .string "array")]])])).toOption = some schema ∧
      (schema.trace { Options.standard with maxDepth := 4 } value []).1.isComplete = false ∧
        ∀ format, (schema.validate .standard format value []).1.isValid = true := by
  intro value
  let check (schema : Schema) : Bool :=
    !(schema.trace { Options.standard with maxDepth := 4 } value []).1.isComplete &&
      (schema.trace { Options.standard with maxDepth := 4 } value []).1.failsClosed &&
      (schema.trace { Options.standard with maxDepth := 4 } value []).1.isValid && schema.document.references.isEmpty
  have checked : (compile .standard (Draft.url "example") (.object [("anyOf", .array
        [.object [("items", .object [("not", .object [("type", .string "string")])])],
          .object [("type", .string "array")]])])).toOption.map check = some true := by
    decide +kernel
  obtain ⟨schema, compiled, holds⟩ := Option.map_eq_some_iff.mp checked
  simp only [check, Bool.and_eq_true, Bool.not_eq_true', List.isEmpty_iff] at holds
  obtain ⟨⟨⟨incomplete, closed⟩, valid⟩, none⟩ := holds
  have unambiguous : (Run.mk .standard schema).IsUnambiguous [] := by
    refine Run.isUnambiguous_of_references_eq_nil fun reference member => ?_
    rw [none] at member
    exact absurd member List.not_mem_nil
  have le : 4 ≤ Options.standardMaxDepth := by decide
  refine ⟨schema, compiled, incomplete, fun format => ?_⟩
  refine isValid_validate_of_failsClosed schema .standard format value [] unambiguous le (.inl (by decide)) closed ?_
  rw [isValid_validate, valid, Bool.true_or]

/-- Where a sub-schema is cut off that bears on the instance by being invalid, deeper evaluations reject what is valid
under the limit; so they do where they remember what a reference led to elsewhere. -/
theorem deeper_rejects :
    let verdicts (value inst : Json) (depths : List Nat) :=
      (compile .standard (Draft.url "example") value).toOption.map fun schema => depths.map fun depth =>
        (schema.validate { Options.standard with maxDepth := depth } .flag inst []).1.isValid
    let all (schema : Json) : Json := .object [("allOf", .array [schema])]
    verdicts (.object [("not", .bool true)]) (.ofNat 1) [1, 3] = some [true, false] ∧
      verdicts (.object [("oneOf", .array [.bool true, all (.bool true)])]) (.ofNat 1) [3, 5] = some [true, false] ∧
      verdicts (.object [("if", all (.bool true)), ("then", .bool false)]) (.ofNat 1) [3, 5] = some [true, false] ∧
      verdicts (.object [("if", all (all (.bool true))), ("else", .object [("properties", .object [("a", .bool true)])]),
        ("unevaluatedProperties", .bool false)]) (.object [("a", .ofNat 1)]) [5, 7] = some [true, false] ∧
      verdicts (.object [("contains", .bool true), ("minContains", .ofNat 0), ("maxContains", .ofNat 0)])
        (.array [.ofNat 1]) [1, 3] = some [true, false] ∧
      verdicts (.object [
        ("allOf", .array [.object [("anyOf", .array [all (all (.object [("$ref", .string "r#/x-foo")])), .bool true])],
          .object [("$ref", .string "#/x-frag")]]),
        ("$defs", .object [("a", .object [("$id", .string "r"), ("x-foo", .object [("type", .string "string")])])]),
        ("x-frag", .object [("$ref", .string "r#/x-foo"), ("$defs", .object [("b", .object [("$id", .string "r"),
          ("x-foo", .object [("type", .string "integer")])])])])]) (.ofNat 1) [7, 11] = some [true, false] := by
  decide +kernel

end Schema

end JsonSchema
