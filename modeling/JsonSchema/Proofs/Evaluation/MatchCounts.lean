import JsonSchema.Proofs.Evaluation.Closed
import JsonSchema.Proofs.Evaluation.Siblings

/-! # The number of matches

Three keywords share the demand on how many items of an array match. `contains` looks up the lower bound to know whether
it demands a match at all, and attaches the positions of the matches if it succeeds; the bounds count these positions,
and have nothing to say where none are attached. Together they demand what they should: at least as many matches as the
lower bound, which is 1 unless there is one, and no more than the upper bound (`Schema.contains_counts`).
-/

namespace JsonSchema

/-- The bound on a count that a schema object has a rule for. -/
def Node.bound? (node : Node) (kind : CountBound) : Option Nat :=
  match node.rule? (StandardKeyword.count kind).name with
  | some (.assertion (.count _ bound)) => some bound
  | _ => none

/-- How many items `contains` found valid, given the trace of a schema object. -/
def Trace.matchCount (object : Trace) : Nat := (object.appliedBy .contains).countP (·.isValid)

/-- How many matches the rule of `contains` tells with its attached value. -/
def Trace.toldMatches? (object : Trace) : Option Nat :=
  (((object.stepsOf .contains).head?.bind (·.outcome.value?)).bind (·.items?)).map (·.length)

theorem Rule.eq_of_standard?_count {rule : Rule} {kind : CountBound} (means : rule.standard? = some (.count kind)) :
    ∃ bound, rule = .assertion (.count kind bound) := by
  cases rule with
  | assertion check => cases check <;> cases means; exact ⟨_, rfl⟩
  | branch truth schema => cases truth <;> cases means
  | format name asserted => cases asserted <;> cases means
  | _ => cases means

/-- The keywords about matches. -/
def matchKeywords : List StandardKeyword := [.contains, .count (.min .matches), .count (.max .matches)]

theorem standard_mem_of_mem_matchKeywords :
    ∀ keyword ∈ matchKeywords, KeywordSpec.standard keyword ∈ Draft.dialect.keywords := by
  rw [Draft.keywords_eq]
  decide +kernel

theorem Node.IsDrafted.bound?_eq_some_iff {node : Node} (drafted : node.IsDrafted) {kind : CountBound}
    (registered : .standard (.count kind) ∈ Draft.dialect.keywords) {bound : Nat} :
    node.bound? kind = some bound ↔ .assertion (.count kind bound) ∈ node.rules := by
  rw [Node.bound?]
  constructor
  · intro found
    split at found
    · next other own known =>
      obtain rfl := Option.some.inj found
      obtain ⟨member, means⟩ := (drafted.rule?_eq_some_iff registered).mp known
      obtain ⟨own, same⟩ := Rule.eq_of_standard?_count means
      obtain ⟨rfl, rfl⟩ := Assertion.count.inj (Rule.assertion.inj same)
      exact member
    · cases found
  · intro member
    rw [(drafted.rule?_eq_some_iff registered).mpr ⟨member, rfl⟩]

/-! ## What the rules do -/

namespace Facts

variable {facts : Facts}

theorem length_validPositions {outcomes : List Outcome} :
    (validPositions outcomes).length = outcomes.countP (·.isValid) := by
  rw [validPositions, List.length_map, ← List.countP_eq_length_filter]
  conv_rhs => rw [← outcomes.zipIdx_map_fst 0, List.countP_map]
  rfl

/-- A match is demanded unless the lower bound is 0. -/
theorem demandsMatch_iff : facts.demandsMatch = true ↔ 0 < (facts.node.bound? (.min .matches)).getD 1 := by
  rw [demandsMatch, Node.bound?, rule?]
  cases facts.node.rule? (StandardKeyword.count (.min .matches)).name with
  | none => simp
  | some rule =>
    cases rule with
    | assertion check => cases check <;> simp
    | _ => simp

/-- `contains` succeeds unless a match is demanded and there is none; it then attaches as many positions as there are
matches. -/
theorem conclude_planContains (outcomes : List Outcome) (schema : Nat) (items : List Json) :
    let outcome := (facts.planContains schema items).conclude outcomes
    let count := outcomes.countP (·.isValid)
    (outcome.isValid = true ↔ min 1 ((facts.node.bound? (.min .matches)).getD 1) ≤ count) ∧
      (outcome.isValid = true → (outcome.value?.bind (·.items?)).map (·.length) = some count) := by
  have counted : (validPositions outcomes).isEmpty = true ↔ outcomes.countP (·.isValid) = 0 := by
    rw [List.isEmpty_iff_length_eq_zero, length_validPositions]
  simp only [planContains]
  split
  · next fails =>
    obtain ⟨none, demands⟩ := Bool.and_eq_true_iff.mp fails
    have none := counted.mp none
    have demands := facts.demandsMatch_iff.mp demands
    refine ⟨iff_of_false Bool.false_ne_true ?_, fun valid => absurd valid Bool.false_ne_true⟩
    omega
  · next succeeds =>
    rw [Bool.and_eq_true_iff, counted, demandsMatch_iff] at succeeds
    refine ⟨⟨fun _ => by omega, fun _ => rfl⟩, fun _ => ?_⟩
    rw [← length_validPositions]
    simp [Outcome.value?, Json.items?]

end Facts

/-! ## What the steps do -/

namespace Run.Traces

variable {run : Run} {active : List ActiveResource} {application : Application} {steps : List Step} {scope : Scope}
  {object : Trace} (traces : run.Traces active application steps scope object) (drafted : application.node.IsDrafted)

include traces drafted

/-- On arrays `contains` succeeds if there is a match or none is demanded; it then tells how many there are. -/
theorem contains_succeeds_iff {items : List Json} (instance_ : application.value = .array items)
    (present : application.node.HasRule .contains) :
    (object.Succeeds .contains ↔ min 1 ((application.node.bound? (.min .matches)).getD 1) ≤ object.matchCount) ∧
      (object.Succeeds .contains → object.toldMatches? = some object.matchCount) := by
  obtain ⟨rule, member, means⟩ := present
  obtain ⟨step, inside, rfl⟩ := traces.exists_step member means (by decide)
  obtain ⟨subschema, ruled⟩ := Rule.forms_of_standard? means
  obtain ⟨before, after, -, performs⟩ := traces.carried.performs_of_mem inside
  have single := traces.stepsOf_eq drafted inside means
  have count : object.matchCount = (step.results.map (·.2.outcome)).countP (·.isValid) := by
    rw [Trace.matchCount, Trace.appliedBy_of_singleton single, performs.children_trace, List.countP_map,
      List.countP_map]
    rfl
  have node_eq : step.facts.node = application.node := by rw [performs.facts_eq]
  obtain ⟨succeeds, tells⟩ :=
    step.facts.conclude_planContains (step.results.map (·.2.outcome)) subschema items
  have outcome : step.outcome =
      (step.facts.planContains subschema items).conclude (step.results.map (·.2.outcome)) := by
    rw [Step.outcome, Step.plan, ruled, performs.value_eq, instance_]
    rfl
  rw [← outcome, node_eq, ← count] at succeeds
  rw [← outcome, ← count] at tells
  rw [Trace.succeeds_of_singleton single, Trace.toldMatches?, single, Step.isValid_trace]
  refine ⟨succeeds, fun valid => ?_⟩
  simpa using tells valid

/-- A bound on matches is decided by what `contains` tells. -/
theorem bound_succeeds_iff (kind : CountBound) (measures : kind.measure = .matches) :
    object.Succeeds (.count kind) ↔ ∀ bound ∈ application.node.bound? kind,
      (Measure.matches.count? object.toldMatches? application.value).all (kind.admits bound) = true := by
  have registered : .standard (.count kind) ∈ Draft.dialect.keywords :=
    standard_mem_of_mem_matchKeywords _ (by cases kind <;> cases measures <;> decide)
  have depends : StandardKeyword.contains.name ∈ (StandardKeyword.count kind).dependencies := by
    cases kind <;> cases measures <;> decide
  rcases traces.stepsOf_cases drafted (.count kind) nofun with
    ⟨step, inside, means, single⟩ | ⟨absent, none⟩
  · obtain ⟨bound, ruled⟩ := Rule.eq_of_standard?_count means
    have member := traces.rule_mem inside
    have found := (drafted.bound?_eq_some_iff registered).mpr (ruled ▸ member)
    obtain ⟨before, after, -, performs⟩ := traces.carried.performs_of_mem inside
    have told := traces.siblingValue?_eq drafted inside means depends
      (standard_mem_of_mem_matchKeywords .contains (by decide)) (by decide)
    rw [Trace.succeeds_of_singleton single, Step.isValid_trace, Step.isValid, Step.outcome, Step.plan, ruled,
      performs.value_eq, found]
    simp only [Rule.plan, Plan.done, Assertion.isValid_check, Assertion.holds, measures, Facts.matchCount?, told,
      Option.mem_some_iff, forall_eq']
    rfl
  · refine iff_of_true (Trace.succeeds_of_nil none) fun bound found => ?_
    exact absurd ⟨_, (drafted.bound?_eq_some_iff registered).mp found, rfl⟩ absent

end Run.Traces

/-! ## The keywords together -/

/-- In an evaluation `contains` of a schema object of the draft applies its sub-schema to every item of an array, and
the keywords about matches all succeed just if the number of valid items is at least the lower bound, or 1 if there is
none, and at most the upper bound. Without `contains`, or if the instance is not an array, the bounds succeed. -/
theorem Schema.contains_counts (schema : Schema) (options : Options) (value : Json) (dialects : DialectCache)
    {object : Trace} (part : object ∈ (schema.trace options value dialects).1.parts) (branch : object.isBranch = true)
    {application : Application} (applied : object.subject = .application application)
    (drafted : application.node.IsDrafted) :
    object.CarriesOut application.node ∧
      (∀ subschema items, .contains subschema ∈ application.node.rules → application.value = .array items →
        (object.appliedBy .contains).map (·.subject) = (items.zipIdx.map fun item =>
          .application ⟨⟨application.target.document, subschema⟩, item.1, some (toString item.2), none, false⟩) ∧
        (object.Succeeds .contains ∧ object.Succeeds (.count (.min .matches)) ∧
            object.Succeeds (.count (.max .matches)) ↔
          (application.node.bound? (.min .matches)).getD 1 ≤ object.matchCount ∧
            ∀ most ∈ application.node.bound? (.max .matches), object.matchCount ≤ most)) ∧
      (¬ application.node.HasRule .contains ∨ (∀ items, application.value ≠ .array items) →
        object.Succeeds (.count (.min .matches)) ∧ object.Succeeds (.count (.max .matches))) := by
  obtain ⟨path, result, yields, rfl⟩ := (Run.yields_evaluate ⟨options, schema⟩ value ⟨[], dialects⟩).part part applied
  obtain ⟨active, steps, scope, traces⟩ := yields.traces branch
  have least := traces.bound_succeeds_iff drafted (.min .matches) rfl
  have most := traces.bound_succeeds_iff drafted (.max .matches) rfl
  refine ⟨traces.carriesOut, fun subschema items member instance_ => ⟨?_, ?_⟩, fun aside => ?_⟩
  · obtain ⟨step, inside, ruled⟩ := traces.exists_step member rfl (by decide)
    obtain ⟨before, after, -, performs⟩ := traces.carried.performs_of_mem inside
    rw [Trace.appliedBy_of_singleton (traces.stepsOf_eq drafted inside (ruled ▸ rfl)), traces.subjects_trace inside,
      Step.plan, ruled, performs.value_eq, instance_, performs.facts_eq]
    simp only [Rule.plan, Facts.planContains, List.map_map]
    rfl
  · obtain ⟨succeeds, tells⟩ := traces.contains_succeeds_iff drafted instance_ ⟨_, member, rfl⟩
    by_cases enough : result.trace.Succeeds .contains
    · -- The bounds are told the number of matches, and the lower one only adds to what `contains` demands.
      rw [tells enough, instance_] at least most
      have some := succeeds.mp enough
      have all : result.trace.Succeeds (.count (.min .matches)) ↔
          (application.node.bound? (.min .matches)).getD 1 ≤ result.trace.matchCount := by
        rw [least]
        cases found : application.node.bound? (.min .matches) with
        | none =>
          rw [found] at some
          simpa using some
        | some bound => simp [Measure.count?, CountBound.admits]
      rw [all, most]
      simp [enough, Measure.count?, CountBound.admits]
    · have few := mt succeeds.mpr enough
      refine iff_of_false (fun succeed => enough succeed.1) fun within => ?_
      have reached := within.1
      omega
  · rw [least, most]
    have untold : Measure.matches.count? result.trace.toldMatches? application.value = none := by
      rcases aside with absent | other
      · rw [Trace.toldMatches?, traces.stepsOf_eq_nil absent]
        cases application.value <;> rfl
      · cases instance_ : application.value with
        | array items => exact absurd instance_ (other items)
        | _ => rfl
    rw [untold]
    exact ⟨fun bound _ => rfl, fun bound _ => rfl⟩

/-- Two matches are enough and not too many where two are demanded. -/
theorem Schema.contains_counts_two :
    ∃ schema, (compile .standard (Draft.url "example") (.object [
        ("contains", .object [("type", .string "integer")]), ("minContains", .ofNat 2),
        ("maxContains", .ofNat 2)])).toOption = some schema ∧
      ∃ items application subschema,
        let object := (schema.trace .standard (.array items) []).1
        items = [.ofNat 1, .string "a", .ofNat 2] ∧ object ∈ object.parts ∧ object.isBranch = true ∧
          object.subject = .application application ∧ application.node.IsDrafted ∧
          .contains subschema ∈ application.node.rules ∧ application.value = .array items ∧
          application.node.bound? (.min .matches) = some 2 ∧ application.node.bound? (.max .matches) = some 2 ∧
          object.matchCount = 2 ∧ object.Succeeds .contains ∧ object.Succeeds (.count (.min .matches)) ∧
          object.Succeeds (.count (.max .matches)) := by
  let items : List Json := [.ofNat 1, .string "a", .ofNat 2]
  let check (schema : Schema) : Bool := schema.reaches .standard (.array items) .contains ["0", "1", "2"] &&
    (schema.root.bound? (.min .matches) = some 2 && (schema.root.bound? (.max .matches) = some 2 &&
      (schema.trace .standard (.array items) []).1.matchCount = 2))
  refine (Option.map_eq_some_iff.mp (?_ : Option.map check _ = some true)).imp fun schema ⟨compiled, holds⟩ =>
    ⟨compiled, items, .inPlace ⟨schema.document, schema.rootIndex⟩ (.array items) none, ?_⟩
  · decide +kernel
  simp only [check, Bool.and_eq_true, decide_eq_true_eq] at holds
  obtain ⟨reaches, least, most, counted⟩ := holds
  obtain ⟨drafted, branch, -, rule, member, means, -⟩ := of_reaches Options.knowsOnlyDraft_standard compiled
    (standard_mem_of_mem_matchKeywords _ (by decide)) reaches
  obtain ⟨subschema, rfl⟩ := Rule.forms_of_standard? means
  have subject := schema.subject_trace .standard (.array items) []
  have part := Trace.self_mem_parts (schema.trace .standard (.array items) []).1
  have node := drafted _ part _ subject
  obtain ⟨-, together, -⟩ := contains_counts schema .standard (.array items) [] part branch subject node
  refine ⟨subschema, rfl, part, branch, subject, node, member, rfl, least, most, counted, ?_⟩
  refine (together subschema items member rfl).2.mpr ?_
  rw [counted, show Application.node _ = schema.root from rfl, least, most]
  decide

end JsonSchema
