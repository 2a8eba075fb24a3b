import JsonSchema.Proofs.Evaluation.Evaluated

/-! # Sibling keywords

The keywords of a schema object act on each other through what earlier ones came to. Under the draft every rule that is
applied has exactly one step (`Run.Traces.stepsOf_eq`), and a rule that depends on a keyword has been carried out behind
the step of this keyword: what it finds under the name of the keyword is the outcome of that step, or nothing if the
keyword has no rule (`Run.Traces.siblingValue?_eq`). Neither another keyword nor anything nested can leave an outcome
under that name.
-/

namespace JsonSchema

namespace Trace

/-- The steps of a keyword, given the trace of a schema object. -/
def stepsOf (object : Trace) (keyword : StandardKeyword) : List Trace :=
  object.children.filter fun step => step.subject.rule?.bind (·.standard?) = some keyword

/-- What the rule of a keyword applied, in order. -/
def appliedBy (object : Trace) (keyword : StandardKeyword) : List Trace :=
  (object.stepsOf keyword).flatMap (·.children)

/-- Whether the rule of a keyword is satisfied; a keyword without a rule always succeeds. -/
def Succeeds (object : Trace) (keyword : StandardKeyword) : Prop :=
  ∀ step ∈ object.stepsOf keyword, step.isValid = true

/-- Whether the steps of a schema object are those of its rules, in order. -/
def CarriesOut (object : Trace) (node : Node) : Prop :=
  object.children.map (·.subject) = (node.rules.filter (·.isApplied)).map .rule

theorem appliedBy_of_singleton {object step : Trace} {keyword : StandardKeyword}
    (single : object.stepsOf keyword = [step]) : object.appliedBy keyword = step.children := by
  rw [appliedBy, single, List.flatMap_singleton]

theorem appliedBy_of_nil {object : Trace} {keyword : StandardKeyword} (none : object.stepsOf keyword = []) :
    object.appliedBy keyword = [] := by
  rw [appliedBy, none, List.flatMap_nil]

theorem succeeds_of_singleton {object step : Trace} {keyword : StandardKeyword}
    (single : object.stepsOf keyword = [step]) : object.Succeeds keyword ↔ step.isValid = true := by
  rw [Succeeds, single, List.forall_mem_singleton]

theorem succeeds_of_nil {object : Trace} {keyword : StandardKeyword} (none : object.stepsOf keyword = []) :
    object.Succeeds keyword := by
  rw [Succeeds, none]
  exact fun step impossible => absurd impossible List.not_mem_nil

end Trace

theorem Outcome.value?_of_not_isValid {outcome : Outcome} (fails : outcome.isValid = false) :
    outcome.value? = none := by
  cases outcome with
  | invalid message => rfl
  | _ => cases fails

/-- Whether a keyword has a rule. -/
def Node.HasRule (node : Node) (keyword : StandardKeyword) : Prop :=
  ∃ rule ∈ node.rules, rule.standard? = some keyword

/-- The rules that are applied stand to each other as all rules do. -/
theorem Node.IsDrafted.orderly_applied {node : Node} (drafted : node.IsDrafted) :
    Draft.Orderly (node.rules.filter (·.isApplied)) :=
  drafted.orderly.sublist List.filter_sublist

theorem Rule.isApplied_of_standard? {rule : Rule} {keyword : StandardKeyword} (means : rule.standard? = some keyword)
    (applied : keyword.category ≠ .reserved) : rule.isApplied = true := by
  rw [isApplied, category, means, bne_iff_ne]
  exact applied

namespace Run

variable {run : Run} {active : List ActiveResource} {application : Application} {rules : List Rule}
  {steps before after : List Step} {step : Step}

theorem CarriesOut.rules_split (carried : run.CarriesOut active application rules steps)
    (split : steps = before ++ step :: after) :
    rules = before.map (·.rule) ++ step.rule :: after.map (·.rule) := by
  rw [← carried.rules_eq, split, List.map_append, List.map_cons]

section Orderly

variable (carried : run.CarriesOut active application rules steps) (orderly : Draft.Orderly rules)
  {keyword : StandardKeyword}

include carried orderly

/-- A keyword has at most one step. -/
theorem CarriesOut.eq_of_standard? {a b : Step} (memberA : a ∈ steps) (memberB : b ∈ steps)
    (meansA : a.rule.standard? = some keyword) (meansB : b.rule.standard? = some keyword) : a = b := by
  obtain ⟨front, rest, rfl⟩ := List.append_of_mem memberA
  have others := orderly.standard?_ne (carried.rules_split rfl) meansA
  rw [← List.map_append, List.forall_mem_map] at others
  rcases List.mem_append.mp memberB with earlier | behind
  · exact absurd meansB (others b (List.mem_append_left _ earlier))
  · rcases List.mem_cons.mp behind with rfl | later
    · rfl
    · exact absurd meansB (others b (List.mem_append_right _ later))

/-- A rule that depends on a keyword sees the outcome of the step of this keyword, wherever the two stand in the schema
object. -/
theorem CarriesOut.sibling?_eq (split : steps = before ++ step :: after) {meaning : StandardKeyword}
    (means : step.rule.standard? = some meaning) (depends : keyword.name ∈ meaning.dependencies)
    {awaited : Step} (member : awaited ∈ steps) (awaits : awaited.rule.standard? = some keyword) :
    step.facts.sibling? keyword = some awaited.outcome := by
  have inside := carried.rule_mem member
  have known := orderly.registered awaited.rule inside keyword awaits
  have ahead := orderly.mem_before (carried.rules_split split) inside ⟨meaning, keyword, means, awaits, depends⟩
  have earlier {performed : Step} (early : performed ∈ before) : performed ∈ steps :=
    split ▸ List.mem_append_left _ early
  -- Whatever is found under the name of the keyword is the outcome of its only step.
  obtain ⟨first, early, same⟩ := List.mem_map.mp ahead
  rw [(carried.performs before step after split).facts_eq, Facts.sibling?]
  have named := Rule.keyword_of_standard? (same ▸ awaits : first.rule.standard? = some keyword)
  obtain ⟨outcome, found⟩ := Option.isSome_iff_exists.mp (isSome_assoc?_iff.mpr
    (List.mem_map.mpr ⟨first.sibling, List.mem_map_of_mem early, named⟩))
  obtain ⟨performed, early, same⟩ := List.mem_map.mp (mem_of_assoc? found)
  obtain ⟨named, rfl⟩ := Prod.mk.inj same
  have means := (orderly.keyword_eq_iff known (carried.rule_mem (earlier early))).mp named
  rw [found, carried.eq_of_standard? orderly (earlier early) member means awaits]

/-- A rule sees no outcome of a keyword that has no rule. -/
theorem CarriesOut.sibling?_eq_none (split : steps = before ++ step :: after)
    (registered : .standard keyword ∈ Draft.dialect.keywords)
    (absent : ∀ rule ∈ rules, rule.standard? ≠ some keyword) : step.facts.sibling? keyword = none := by
  rw [(carried.performs before step after split).facts_eq, Facts.sibling?]
  refine Option.eq_none_iff_forall_ne_some.mpr fun outcome found => ?_
  obtain ⟨performed, early, same⟩ := List.mem_map.mp (mem_of_assoc? found)
  have inside := carried.rule_mem (split ▸ List.mem_append_left _ early : performed ∈ steps)
  exact absent _ inside ((orderly.keyword_eq_iff registered inside).mp (Prod.mk.inj same).1)

end Orderly

/-! ## The steps in a trace -/

/-- The steps of a schema object, with its trace. -/
structure Traces (run : Run) (active : List ActiveResource) (application : Application) (steps : List Step)
    (scope : Scope) (object : Trace) : Prop where
  carried : run.CarriesOut active application (application.node.rules.filter (·.isApplied)) steps
  children_eq : object.children = steps.map (·.trace scope)
  subjects : ∀ step ∈ steps, ∀ result ∈ step.results, result.2.trace.subject = .application result.1

/-- Unless it is cut off, a schema object is traced by its steps; a Boolean schema has none. -/
theorem Yields.traces {path : Path} {applied : Applied} (yields : run.Yields path application applied)
    (branch : applied.trace.isBranch = true) :
    ∃ active steps scope, run.Traces active application steps scope applied.trace := by
  cases yields with
  | cutOff exhausted => exact Bool.noConfusion branch
  | boolean shallow shape =>
    refine ⟨[], [], path.scope run application, ?_, rfl, by simp⟩
    rw [Node.rules, shape]
    exact .nil
  | object shallow shape carried yields =>
    rw [← Node.rules_of_shape shape] at carried
    exact ⟨_, _, _, carried, rfl, fun step member result inside => (yields step member result inside).subject_trace⟩

namespace Traces

variable {scope : Scope} {object : Trace} (traces : run.Traces active application steps scope object)

include traces

theorem carriesOut : object.CarriesOut application.node := by
  rw [Trace.CarriesOut, traces.children_eq, ← traces.carried.rules_eq, List.map_map, List.map_map]
  exact List.map_congr_left fun step _ => step.subject_trace scope

theorem rule_mem (member : step ∈ steps) : step.rule ∈ application.node.rules :=
  (List.mem_filter.mp (traces.carried.rule_mem member)).1

theorem subjects_trace (member : step ∈ steps) :
    (step.trace scope).children.map (·.subject) = step.plan.applications.map .application := by
  obtain ⟨before, after, -, performs⟩ := traces.carried.performs_of_mem member
  exact performs.subjects_trace scope (traces.subjects step member)

theorem exists_step {rule : Rule} (member : rule ∈ application.node.rules) {keyword : StandardKeyword}
    (means : rule.standard? = some keyword) (applied : keyword.category ≠ .reserved) :
    ∃ step ∈ steps, step.rule = rule := by
  rw [← List.mem_map, traces.carried.rules_eq]
  exact List.mem_filter.mpr ⟨member, Rule.isApplied_of_standard? means applied⟩

theorem stepsOf_eq_filter (keyword : StandardKeyword) :
    object.stepsOf keyword = (steps.filter (·.rule.standard? = some keyword)).map (·.trace scope) := by
  rw [Trace.stepsOf, traces.children_eq, List.filter_map]
  congr 1
  refine List.filter_congr fun step _ => ?_
  simp [Subject.rule?]

theorem stepsOf_eq_nil {keyword : StandardKeyword} (absent : ¬ application.node.HasRule keyword) :
    object.stepsOf keyword = [] := by
  rw [traces.stepsOf_eq_filter, List.map_eq_nil_iff, List.filter_eq_nil_iff]
  exact fun step member means => absent ⟨step.rule, traces.rule_mem member, of_decide_eq_true means⟩

variable (drafted : application.node.IsDrafted)

include drafted

/-- A rule that is applied has exactly one step in the trace. -/
theorem stepsOf_eq (member : step ∈ steps) {keyword : StandardKeyword} (means : step.rule.standard? = some keyword) :
    object.stepsOf keyword = [step.trace scope] := by
  obtain ⟨before, after, split⟩ := List.append_of_mem member
  have others := drafted.orderly_applied.standard?_ne (traces.carried.rules_split split) means
  rw [← List.map_append, List.forall_mem_map] at others
  have silent (part : List Step) (inside : part ⊆ before ++ after) :
      part.filter (·.rule.standard? = some keyword) = [] :=
    List.filter_eq_nil_iff.mpr fun other member same => others other (inside member) (of_decide_eq_true same)
  rw [traces.stepsOf_eq_filter, split, List.filter_append, List.filter_cons_of_pos (by simpa using means),
    silent before (List.subset_append_left _ _), silent after (List.subset_append_right _ _)]
  rfl

/-- A keyword has one step if it has a rule, and none otherwise. -/
theorem stepsOf_cases (keyword : StandardKeyword) (applied : keyword.category ≠ .reserved) :
    (∃ step ∈ steps, step.rule.standard? = some keyword ∧ object.stepsOf keyword = [step.trace scope]) ∨
      ¬ application.node.HasRule keyword ∧ object.stepsOf keyword = [] := by
  by_cases present : application.node.HasRule keyword
  · obtain ⟨rule, member, means⟩ := present
    obtain ⟨step, inside, rfl⟩ := traces.exists_step member means applied
    exact .inl ⟨step, inside, means, traces.stepsOf_eq drafted inside means⟩
  · exact .inr ⟨present, traces.stepsOf_eq_nil present⟩

/-- A rule that depends on a keyword sees what the step of this keyword attached, and nothing if there is no step. -/
theorem siblingValue?_eq (member : step ∈ steps) {meaning keyword : StandardKeyword}
    (means : step.rule.standard? = some meaning) (depends : keyword.name ∈ meaning.dependencies)
    (registered : .standard keyword ∈ Draft.dialect.keywords) (applied : keyword.category ≠ .reserved) :
    step.facts.siblingValue? keyword = (object.stepsOf keyword).head?.bind (·.outcome.value?) := by
  obtain ⟨before, after, split⟩ := List.append_of_mem member
  rw [Facts.siblingValue?]
  rcases traces.stepsOf_cases drafted keyword applied with ⟨awaited, inside, awaits, single⟩ | ⟨absent, none⟩
  · rw [traces.carried.sibling?_eq drafted.orderly_applied split means depends inside awaits, single]
    simp
  · rw [traces.carried.sibling?_eq_none drafted.orderly_applied split registered, none]
    · rfl
    · exact fun rule inside same => absent ⟨rule, (List.mem_filter.mp inside).1, same⟩

end Traces

end Run

end JsonSchema
