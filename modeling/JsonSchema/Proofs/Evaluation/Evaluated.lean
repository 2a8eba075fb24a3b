import JsonSchema.Proofs.Draft.Rules
import JsonSchema.Proofs.Evaluation.Derivation

/-! # What a schema object evaluates

A rule of a schema object evaluates a part of the instance, a member or an item, if it does so by itself, or if
it applied a valid sub-schema in place one of whose rules evaluates the part (`Trace.Evaluates`). Attached
values do not occur in this relation. They tell the same, however: if the value of each rule tells what the rule
evaluates by itself, then the values attached to an instance tell what is evaluated (`Tells.reads_iff`,
`Run.Yields.isTold`).
-/

namespace JsonSchema

/-- The names of the members of an object. -/
def Json.memberNames : Json → List String
  | .object members => members.map (·.1)
  | _ => []

/-- How a rule applies a sub-schema in place: to the instance of its schema object, so that what the sub-schema
evaluates counts. The traces of the rules of the schema object are given as `steps`; the verdict of the condition
selects the branch. -/
inductive Rule.InPlace (owner : Application) (steps : List Trace) (inner : Application) : Rule → Prop
  | ref {url : Url} : InPlace owner steps inner (.ref url)
  | dynamicRef {url : Url} {anchor : Option String} : InPlace owner steps inner (.dynamicRef url anchor)
  | combination {kind : Combination} {schemas : List Nat} {schema : Nat} (choice : schema ∈ schemas)
      (target : inner.target = ⟨owner.target.document, schema⟩) : InPlace owner steps inner (.combination kind schemas)
  | condition {schema : Nat} (target : inner.target = ⟨owner.target.document, schema⟩) :
      InPlace owner steps inner (.condition schema)
  | branch {truth : Bool} {schema condition : Nat} {step verdict : Trace} (member : step ∈ steps)
      (ruled : step.subject = .rule (.condition condition)) (applied : verdict ∈ step.children)
      (holds : verdict.isValid = truth) (target : inner.target = ⟨owner.target.document, schema⟩) :
      InPlace owner steps inner (.branch truth schema)
  | dependentSchemas {schemas : List (String × Nat)} {name : String} {schema : Nat} (entry : (name, schema) ∈ schemas)
      (present : name ∈ owner.value.memberNames) (target : inner.target = ⟨owner.target.document, schema⟩) :
      InPlace owner steps inner (.dependentSchemas schemas)

theorem Rule.InPlace.isInPlace {owner inner : Application} {steps : List Trace} {rule : Rule}
    (inPlace : rule.InPlace owner steps inner) : rule.isInPlace = true := by
  cases inPlace <;> rfl

theorem Rule.InPlace.category_ne {owner inner : Application} {steps : List Trace} {rule : Rule}
    (inPlace : rule.InPlace owner steps inner) : rule.category ≠ .unevaluated := by
  intro late
  cases inPlace with
  | @branch truth => cases truth <;> cases late
  | _ => cases late

/-- Whether a rule of a schema object evaluates a part of the instance, given by the traces of both; `own` says
what a rule evaluates by itself. -/
inductive Trace.Evaluates {α : Type} (own : Application → Trace → Rule → α → Prop) : Trace → Trace → α → Prop
  | own {object step : Trace} {application : Application} {rule : Rule} {part : α}
      (applied : object.subject = .application application) (ruled : step.subject = .rule rule)
      (evaluates : own application step rule part) : Evaluates own object step part
  | inPlace {object step sub subStep : Trace} {application inner : Application} {rule : Rule} {part : α}
      (applied : object.subject = .application application) (ruled : step.subject = .rule rule)
      (member : sub ∈ step.children) (subApplied : sub.subject = .application inner)
      (inPlace : rule.InPlace application object.children inner) (same : inner.value = application.value)
      (valid : sub.isValid = true) (subMember : subStep ∈ sub.children) (evaluates : Evaluates own sub subStep part) :
      Evaluates own object step part

namespace Trace

/-- Whether a rule beside the given one evaluates a part of the instance of a schema object. -/
def EvaluatesBeside {α : Type} (own : Application → Trace → Rule → α → Prop) (object : Trace) (rule : Rule) (part : α) :
    Prop :=
  ∃ step ∈ object.children, step.subject ≠ .rule rule ∧ object.Evaluates own step part

/-- Whether every sub-schema that was applied is one of the draft. -/
def IsDrafted (trace : Trace) : Prop :=
  ∀ part ∈ trace.parts, ∀ application, part.subject = .application application → application.node.IsDrafted

theorem IsDrafted.part {trace part : Trace} (drafted : trace.IsDrafted) (member : part ∈ trace.parts) :
    part.IsDrafted :=
  fun inner below => drafted inner (parts_trans below member)

end Trace

namespace Run

/-- A step of a schema object of the draft that is valid. -/
structure Succeeds (run : Run) (active : List ActiveResource) (application : Application) (before : List Step)
    (step : Step) : Prop where
  performs : run.Performs active application before step
  drafted : application.node.IsDrafted
  member : step.rule ∈ application.node.rules
  valid : step.isValid = true

end Run

/-- Whether the values attached to fitting instances tell what rules evaluate by themselves: what the value of a rule
tells is evaluated by it, and what a rule evaluates is told by its value or an earlier one. -/
structure Tells {α : Type} (fits : Json → Prop) (own : Application → Trace → Rule → α → Prop)
    (reads : Json → String × Json → α → Prop) : Prop where
  sound : ∀ {run : Run} {active application before step} (scope : Scope), fits application.value →
    run.Succeeds active application before step → ∀ value part, step.outcome.value? = some value →
      reads application.value (step.rule.keyword, value) part → own application (step.trace scope) step.rule part
  complete : ∀ {run : Run} {active application before step} (scope : Scope), fits application.value →
    run.Succeeds active application before step → ∀ part, own application (step.trace scope) step.rule part →
      (∃ value, step.outcome.value? = some value ∧ reads application.value (step.rule.keyword, value) part) ∨
        ∃ entry ∈ before.flatMap (·.attached), reads application.value entry part

namespace Step

theorem mem_contributed {step : Step} {entry : String × Json} : entry ∈ step.contributed ↔
    ∃ result ∈ step.results, result.2.trace.isValid = true ∧ result.1.contributes = true ∧
      entry ∈ result.2.attached := by
  simp only [contributed, List.mem_flatMap]
  refine exists_congr fun result => and_congr_right fun _ => ?_
  rw [Applied.contribution]
  split
  · next both =>
    obtain ⟨valid, contributes⟩ := Bool.and_eq_true_iff.mp both
    exact ⟨fun inside => ⟨valid, contributes, inside⟩, fun ⟨_, _, inside⟩ => inside⟩
  · next neither =>
    refine ⟨fun impossible => absurd impossible List.not_mem_nil, fun ⟨valid, contributes, _⟩ => ?_⟩
    exact absurd (Bool.and_eq_true_iff.mpr ⟨valid, contributes⟩) neither

theorem mem_attached {step : Step} {entry : String × Json} : entry ∈ step.attached ↔
    entry ∈ step.contributed ∨ ∃ value, step.outcome.value? = some value ∧ entry = (step.rule.keyword, value) := by
  simp only [attached, List.mem_append, Option.mem_toList, Option.map_eq_some_iff, @eq_comm _ entry]

end Step

namespace Run

variable {run : Run} {active : List ActiveResource} {application : Application} {before : List Step} {step : Step}

theorem Performs.mem_applications (performs : run.Performs active application before step)
    {result : Application × Applied} (member : result ∈ step.results) :
    result.1 ∈ (step.rule.plan step.facts step.target step.value).applications := by
  have inside := List.mem_map_of_mem (f := (·.1)) member
  rwa [performs.applications_eq] at inside

/-- What is below a rule in a trace is what the rule applied. -/
theorem Performs.subjects_trace (performs : run.Performs active application before step) (scope : Scope)
    (subjects : ∀ result ∈ step.results, result.2.trace.subject = .application result.1) :
    (step.trace scope).children.map (·.subject) = step.plan.applications.map .application := by
  rw [performs.children_trace, ← performs.applications_eq, List.map_map, List.map_map]
  exact List.map_congr_left subjects

theorem CarriesOut.rule_mem {rules : List Rule} {steps : List Step}
    (carried : run.CarriesOut active application rules steps) (member : step ∈ steps) : step.rule ∈ rules :=
  carried.rules_eq ▸ List.mem_map_of_mem member

section InPlace

variable {rules : List Rule} {steps after : List Step} (carried : run.CarriesOut active application rules steps)
  (drafted : application.node.IsDrafted) (subset : rules ⊆ application.node.rules)
  (split : steps = before ++ step :: after)

include carried drafted subset split

/-- A branch is only applied after a condition whose sub-schema has the truth of the branch. -/
theorem CarriesOut.exists_condition {truth : Bool}
    (selected : (step.facts.siblingValue? .condition).bind (·.bool?) = some truth) :
    ∃ earlier ∈ before, ∃ schema, earlier.rule = .condition schema ∧
      ∃ result ∈ earlier.results, result.2.trace.isValid = truth := by
  rw [(carried.performs before step after split).facts_eq] at selected
  obtain ⟨value, found, reads⟩ := Option.bind_eq_some_iff.mp selected
  obtain ⟨outcome, found, valued⟩ := Option.bind_eq_some_iff.mp found
  obtain ⟨earlier, member, same⟩ := List.mem_map.mp (mem_of_assoc? found)
  obtain ⟨named, rfl⟩ := Prod.mk.inj same
  have inside : earlier ∈ steps := split ▸ List.mem_append_left _ member
  have means := (drafted.orderly.keyword_eq_iff (by decide +kernel) (subset (carried.rule_mem inside))).mp named
  obtain ⟨schema, ruled⟩ := Rule.forms_of_standard? means
  obtain ⟨first, rest, -, performs⟩ := carried.performs_of_mem inside
  refine ⟨earlier, member, schema, ruled, ?_⟩
  have single := performs.applications_eq
  rw [Step.outcome, Step.plan, ruled] at valued
  rw [Step.plan, ruled] at single
  obtain ⟨result, results, -⟩ := List.map_eq_singleton_iff.mp single
  rw [results] at valued ⊢
  obtain rfl : Json.bool _ = value := Option.some.inj valued
  have holds : result.2.outcome.isValid = truth := by simpa [Json.bool?] using reads
  exact ⟨result, List.mem_singleton_self result, holds⟩

/-- The sub-schema of a contributing application is applied in place. -/
theorem CarriesOut.inPlace {scope : Scope} {result : Application × Applied} (member : result ∈ step.results)
    (contributes : result.1.contributes = true) :
    step.rule.InPlace application (steps.map (·.trace scope)) result.1 ∧ result.1.value = application.value := by
  have performs := carried.performs before step after split
  have applied := performs.mem_applications member
  obtain ⟨same, atInstance, -⟩ := Rule.plans_of_mem_plan applied
  have inPlace : step.rule.isInPlace = true := same.symm.trans contributes
  rw [performs.value_eq] at applied atInstance
  refine ⟨?_, atInstance inPlace⟩
  have facts := performs.facts_eq
  cases ruled : step.rule with
  | ref url => exact .ref
  | dynamicRef url anchor => exact .dynamicRef
  | combination kind schemas =>
    rw [ruled, facts] at applied
    obtain ⟨⟨schema, index⟩, choice, made⟩ := List.mem_map.mp applied
    exact .combination (List.fst_mem_of_mem_zipIdx choice) (congrArg (·.target) made.symm)
  | condition schema =>
    rw [ruled, facts] at applied
    exact .condition (congrArg (·.target) (List.mem_singleton.mp applied))
  | branch truth schema =>
    rw [ruled, Rule.plan] at applied
    unfold Facts.planBranch at applied
    split at applied
    · next selected =>
      obtain ⟨earlier, earlierMember, condition, ruledEarlier, verdict, verdictMember, holds⟩ :=
        carried.exists_condition drafted subset split selected
      have inside : earlier ∈ steps := split ▸ List.mem_append_left _ earlierMember
      obtain ⟨_, _, -, performsEarlier⟩ := carried.performs_of_mem inside
      refine .branch (List.mem_map_of_mem inside) (ruledEarlier ▸ earlier.subject_trace scope) ?_ holds ?_
      · rw [performsEarlier.children_trace]
        exact List.mem_map_of_mem verdictMember
      · rw [facts] at applied
        exact congrArg (·.target) (List.mem_singleton.mp applied)
    · exact absurd applied List.not_mem_nil
  | dependentSchemas schemas =>
    rw [ruled, facts] at applied
    cases value : application.value with
    | object members =>
      rw [value] at applied
      obtain ⟨⟨name, schema⟩, entry, made⟩ := List.mem_map.mp applied
      obtain ⟨entry, present⟩ := List.mem_filter.mp entry
      refine .dependentSchemas entry ?_ (congrArg (·.target) made.symm)
      rw [value]
      exact isSome_assoc?_iff.mp present
    | _ =>
      rw [value] at applied
      exact absurd applied List.not_mem_nil
  | _ =>
    rw [ruled] at inPlace
    exact Bool.noConfusion inPlace

end InPlace

end Run

/-- Whether the values that a sub-schema attached to its instance tell what it evaluates. -/
def Applied.IsTold {α : Type} (own : Application → Trace → Rule → α → Prop) (reads : Json → String × Json → α → Prop)
    (applied : Applied) (value : Json) : Prop :=
  ∀ part, (∃ entry ∈ applied.attached, reads value entry part) ↔
    ∃ step ∈ applied.trace.children, applied.trace.Evaluates own step part

namespace Tells

variable {α : Type} {fits : Json → Prop} {own : Application → Trace → Rule → α → Prop}
  {reads : Json → String × Json → α → Prop} {run : Run} {active : List ActiveResource}
  {application : Application} {rules : List Rule} {steps before after : List Step} {step : Step} {part : α}

section Step

variable (tells : Tells fits own reads) (fitting : fits application.value)
  (carried : run.CarriesOut active application rules steps) (drafted : application.node.IsDrafted)
  (subset : rules ⊆ application.node.rules) (scope : Scope) (split : steps = before ++ step :: after)
  (valid : step.isValid = true)
  (subjects : ∀ result ∈ step.results, result.2.trace.subject = .application result.1)
  (below : ∀ result ∈ step.results, fits result.1.value → result.2.trace.isValid = true →
    result.2.IsTold own reads result.1.value)

include tells fitting carried drafted subset split valid subjects below

theorem evaluates_of_reads {entry : String × Json} (member : entry ∈ step.attached)
    (told : reads application.value entry part) :
    (application.traceOf scope steps).Evaluates own (step.trace scope) part := by
  have stepMember : step ∈ steps := split ▸ List.mem_append_right _ List.mem_cons_self
  have performs := carried.performs before step after split
  rcases Step.mem_attached.mp member with contributed | ⟨value, valued, rfl⟩
  · obtain ⟨result, resultMember, resultValid, contributes, inside⟩ := Step.mem_contributed.mp contributed
    obtain ⟨inPlace, same⟩ := carried.inPlace drafted subset split resultMember contributes
    rw [← same] at told
    obtain ⟨subStep, subMember, evaluates⟩ :=
      (below result resultMember (same ▸ fitting) resultValid part).mp ⟨entry, inside, told⟩
    have child : result.2.trace ∈ (step.trace scope).children := by
      rw [performs.children_trace]
      exact List.mem_map_of_mem resultMember
    exact .inPlace rfl (step.subject_trace scope) child (subjects result resultMember) inPlace same resultValid
      subMember evaluates
  · have succeeds : run.Succeeds active application before step :=
      ⟨performs, drafted, subset (carried.rule_mem stepMember), valid⟩
    exact .own rfl (step.subject_trace scope) (tells.sound scope fitting succeeds value part valued told)

theorem reads_of_evaluates (evaluates : (application.traceOf scope steps).Evaluates own (step.trace scope) part) :
    ∃ entry ∈ (before ++ [step]).flatMap (·.attached), reads application.value entry part := by
  have stepMember : step ∈ steps := split ▸ List.mem_append_right _ List.mem_cons_self
  have performs := carried.performs before step after split
  rw [List.flatMap_append, List.flatMap_singleton]
  cases evaluates with
  | own appliedHere ruled evaluates =>
    obtain rfl := Subject.application.inj appliedHere
    obtain rfl := Subject.rule.inj ((step.subject_trace scope).symm.trans ruled)
    have succeeds : run.Succeeds active application before step :=
      ⟨performs, drafted, subset (carried.rule_mem stepMember), valid⟩
    rcases tells.complete scope fitting succeeds part evaluates with ⟨value, valued, told⟩ | ⟨entry, earlier, told⟩
    · exact ⟨_, List.mem_append_right _ (Step.mem_attached.mpr (.inr ⟨value, valued, rfl⟩)), told⟩
    · exact ⟨entry, List.mem_append_left _ earlier, told⟩
  | inPlace appliedHere ruled child subApplied inPlace atInstance resultValid subMember evaluates =>
    obtain rfl := Subject.application.inj appliedHere
    obtain rfl := Subject.rule.inj ((step.subject_trace scope).symm.trans ruled)
    rw [performs.children_trace] at child
    obtain ⟨result, resultMember, rfl⟩ := List.mem_map.mp child
    obtain rfl := Subject.application.inj ((subjects result resultMember).symm.trans subApplied)
    have contributes := (Rule.plans_of_mem_plan (performs.mem_applications resultMember)).contributes_eq
    obtain ⟨entry, inside, told⟩ :=
      (below result resultMember (atInstance ▸ fitting) resultValid part).mpr ⟨_, subMember, evaluates⟩
    have contributed : entry ∈ step.contributed :=
      Step.mem_contributed.mpr ⟨result, resultMember, resultValid, contributes.trans inPlace.isInPlace, inside⟩
    exact ⟨entry, List.mem_append_right _ (Step.mem_attached.mpr (.inl contributed)), atInstance ▸ told⟩

end Step

/-- The values attached by the first steps of a schema object tell what these steps evaluate, if this holds of what
they applied. -/
theorem reads_iff (tells : Tells fits own reads) (fitting : fits application.value)
    (carried : run.CarriesOut active application rules steps) (drafted : application.node.IsDrafted)
    (subset : rules ⊆ application.node.rules) (scope : Scope) (split : steps = before ++ after)
    (valid : ∀ step ∈ before, step.isValid = true)
    (subjects : ∀ step ∈ before, ∀ result ∈ step.results, result.2.trace.subject = .application result.1)
    (below : ∀ step ∈ before, ∀ result ∈ step.results, fits result.1.value → result.2.trace.isValid = true →
      result.2.IsTold own reads result.1.value) (part : α) :
    (∃ entry ∈ before.flatMap (·.attached), reads application.value entry part) ↔
      ∃ step ∈ before, (application.traceOf scope steps).Evaluates own (step.trace scope) part := by
  constructor
  · rintro ⟨entry, member, told⟩
    obtain ⟨step, stepMember, member⟩ := List.mem_flatMap.mp member
    obtain ⟨first, rest, same⟩ := List.append_of_mem stepMember
    have splitStep : steps = first ++ step :: (rest ++ after) := by rw [split, same]; simp
    exact ⟨step, stepMember, tells.evaluates_of_reads fitting carried drafted subset scope splitStep
      (valid step stepMember) (subjects step stepMember) (below step stepMember) member told⟩
  · rintro ⟨step, stepMember, evaluates⟩
    obtain ⟨first, rest, same⟩ := List.append_of_mem stepMember
    have splitStep : steps = first ++ step :: (rest ++ after) := by rw [split, same]; simp
    obtain ⟨entry, member, told⟩ := tells.reads_of_evaluates fitting carried drafted subset scope splitStep
      (valid step stepMember) (subjects step stepMember) (below step stepMember) evaluates
    refine ⟨entry, ?_, told⟩
    rw [same, List.append_cons, List.flatMap_append]
    exact List.mem_append_left _ member

end Tells

namespace Run

/-- The values attached to an instance by a valid sub-schema of the draft tell what it evaluates. -/
theorem Yields.isTold {α : Type} {fits : Json → Prop} {own : Application → Trace → Rule → α → Prop}
    {reads : Json → String × Json → α → Prop} (tells : Tells fits own reads) {run : Run} {path : Path}
    {application : Application} {applied : Applied} (yields : run.Yields path application applied)
    (fitting : fits application.value) (drafted : applied.trace.IsDrafted)
    (valid : applied.trace.isValid = true) : applied.IsTold own reads application.value := by
  induction yields with
  | cutOff exhausted => exact Bool.noConfusion valid
  | boolean shallow shape => simp [Applied.IsTold, Trace.children]
  | @object path application rules steps shallow shape carried yields ih =>
    intro part
    have allValid : ∀ step ∈ steps, step.isValid = true := by
      simpa [Application.isValid_traceOf] using valid
    rw [tells.reads_iff fitting carried (drafted _ (Trace.self_mem_parts _) application rfl) (Node.applied_subset shape)
      (path.scope run application) (List.append_nil steps).symm allValid]
    · simp [Application.traceOf, Trace.children]
    · intro step member result inside
      exact (yields step member result inside).subject_trace
    · intro step member result inside fittingResult resultValid
      refine ih step member result inside fittingResult ?_ resultValid
      exact fun inner below => drafted inner (carried.mem_parts rfl member inside below)

/-- A rule about what is unevaluated is carried out once, and behind it only others of its category. -/
theorem CarriesOut.exists_unevaluated {run : Run} {active : List ActiveResource} {application : Application}
    {rules : List Rule} {steps : List Step} (carried : run.CarriesOut active application rules steps)
    (orderly : Draft.Orderly rules) {rule : Rule} (member : rule ∈ rules) (late : rule.category = .unevaluated) :
    ∃ before step after, steps = before ++ step :: after ∧ step.rule = rule ∧
      (∀ other ∈ before ++ after, other.rule ≠ rule) ∧ ∀ other ∈ after, other.rule.category = .unevaluated := by
  rw [← carried.rules_eq] at member orderly
  obtain ⟨step, stepMember, rfl⟩ := List.mem_map.mp member
  obtain ⟨before, after, rfl⟩ := List.append_of_mem stepMember
  obtain ⟨meaning, means⟩ := Rule.exists_standard?_of_unevaluated late
  refine ⟨before, step, after, rfl, rfl, ?_, ?_⟩
  · intro other inside same
    have different := orderly.standard?_ne (List.map_append ..) means other.rule (by
      rw [← List.map_append]
      exact List.mem_map_of_mem inside)
    exact different (same ▸ means)
  · intro other inside
    have last := orderly.last
    rw [List.map_append, List.map_cons, List.pairwise_append, List.pairwise_cons] at last
    exact last.2.1.1 other.rule (List.mem_map_of_mem inside) late

/-- A rule about what is unevaluated that evaluates nothing by itself evaluates nothing at all. -/
theorem not_evaluates_of_silent {α : Type} {own : Application → Trace → Rule → α → Prop} {object step : Trace}
    {application : Application} {rule : Rule} {part : α} (applied : object.subject = .application application)
    (ruled : step.subject = .rule rule) (late : rule.category = .unevaluated)
    (silent : ¬ own application step rule part) : ¬ object.Evaluates own step part := by
  intro evaluates
  cases evaluates with
  | own appliedHere ruledHere evaluates =>
    obtain rfl := Subject.application.inj (applied.symm.trans appliedHere)
    obtain rfl := Subject.rule.inj (ruled.symm.trans ruledHere)
    exact silent evaluates
  | inPlace appliedHere ruledHere child subApplied inPlace =>
    obtain rfl := Subject.rule.inj (ruled.symm.trans ruledHere)
    exact inPlace.category_ne late

/-- A rule of the draft about what is unevaluated sees values that tell what all other rules of the schema object
evaluate, if these are valid and no other rule of its category evaluates such parts by itself. -/
theorem Yields.unevaluated {α : Type} {fits : Json → Prop} {own : Application → Trace → Rule → α → Prop}
    {reads : Json → String × Json → α → Prop} (tells : Tells fits own reads) {run : Run} {path : Path}
    {application : Application} {applied : Applied} (yields : run.Yields path application applied)
    (fitting : fits application.value) (drafted : applied.trace.IsDrafted)
    (branch : applied.trace.isBranch = true) {rule : Rule} (member : rule ∈ application.node.rules)
    (late : rule.category = .unevaluated)
    (silent : ∀ other ∈ application.node.rules, other.category = .unevaluated → other ≠ rule →
      ∀ step part, ¬ own application step other part)
    (succeeded : ∀ step ∈ applied.trace.children, step.subject ≠ .rule rule → step.isValid = true) :
    ∃ active before step scope, step.rule = rule ∧ run.Performs active application before step ∧
      step.trace scope ∈ applied.trace.children ∧
      (step.trace scope).children.map (·.subject) = step.plan.applications.map .application ∧
      ∀ part, (∃ entry ∈ before.flatMap (·.attached), reads application.value entry part) ↔
        applied.trace.EvaluatesBeside own rule part := by
  cases yields with
  | cutOff exhausted => exact Bool.noConfusion branch
  | boolean shallow shape =>
    rw [Node.rules, shape] at member
    exact absurd member List.not_mem_nil
  | @object _ _ rules steps shallow shape carried yields =>
    have root := drafted _ (Trace.self_mem_parts _) application rfl
    have orderly := root.orderly
    rw [Node.rules_of_shape shape] at member orderly
    have applied := Node.applied_subset shape
    have isApplied : rule ∈ rules.filter (·.isApplied) := List.mem_filter.mpr ⟨member, by simp [Rule.isApplied, late]⟩
    obtain ⟨before, step, after, split, ruled, others, behind⟩ :=
      carried.exists_unevaluated (orderly.sublist List.filter_sublist) isApplied late
    have performs := carried.performs before step after split
    have stepMember : step ∈ steps := split ▸ List.mem_append_right _ List.mem_cons_self
    have earlier {other : Step} (inside : other ∈ before) : other ∈ steps := split ▸ List.mem_append_left _ inside
    let scope := path.scope run application
    have different {other : Step} (inside : other ∈ before) : (other.trace scope).subject ≠ .rule rule := by
      rw [other.subject_trace]
      exact fun same => others other (List.mem_append_left _ inside) (Subject.rule.inj same)
    have valid (other : Step) (inside : other ∈ before) : other.isValid = true := by
      rw [← other.isValid_trace scope]
      exact succeeded _ (List.mem_map_of_mem (earlier inside)) (different inside)
    refine ⟨_, before, step, scope, ruled, performs, List.mem_map_of_mem stepMember, ?_, fun part => ?_⟩
    · exact performs.subjects_trace scope fun result inside => (yields step stepMember result inside).subject_trace
    rw [tells.reads_iff fitting carried root applied scope split valid]
    · constructor
      · rintro ⟨other, inside, evaluates⟩
        exact ⟨_, List.mem_map_of_mem (earlier inside), different inside, evaluates⟩
      · rintro ⟨_, inside, different, evaluates⟩
        obtain ⟨other, otherMember, rfl⟩ := List.mem_map.mp inside
        rcases List.mem_append.mp (split ▸ otherMember) with inside | inside
        · exact ⟨other, inside, evaluates⟩
        · rcases List.mem_cons.mp inside with rfl | later
          · exact absurd (ruled ▸ other.subject_trace scope) different
          · have otherLate := behind other later
            refine absurd evaluates (not_evaluates_of_silent rfl (other.subject_trace scope) otherLate ?_)
            exact silent _ (applied (carried.rule_mem otherMember)) otherLate
              (others other (List.mem_append_right _ later)) _ part
    · exact fun other inside result below => (yields other (earlier inside) result below).subject_trace
    · intro other inside result below fittingResult resultValid
      refine (yields other (earlier inside) result below).isTold tells fittingResult ?_ resultValid
      exact fun inner deeper => drafted inner (carried.mem_parts rfl (earlier inside) below deeper)

end Run

end JsonSchema
