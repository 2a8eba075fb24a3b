import JsonSchema.Proofs.Evaluation.SideBySide
import JsonSchema.Proofs.Report.Builder

/-! # Mirrored evaluations

Two evaluations mirror each other if nodes that go together have the same place and rules that do the same
(`Pairing.Mirrors`). Builders of reports are then told the same about both, so that their reports are equal in every
shape (`Pairing.Mirrors.validate_eq`).
-/

namespace JsonSchema

theorem Trace.eventsOf_append (traces further : List Trace) :
    eventsOf (traces ++ further) = eventsOf traces ++ eventsOf further := by
  induction traces with
  | nil => rfl
  | cons trace rest ih => rw [List.cons_append, eventsOf_cons, eventsOf_cons, ih, List.append_assoc]

/-- Whether builders of reports are told the same about two applications, and the same is attached. -/
structure Applied.Mirrors (applied other : Applied) : Prop where
  outcome_eq : other.outcome = applied.outcome
  attached_eq : other.attached = applied.attached
  events_eq : other.trace.events = applied.trace.events

/-- Whether builders of reports are told the same about rules so far, and they have left the same. -/
structure Progress.Mirrors (progress other : Progress) : Prop where
  siblings_eq : other.siblings = progress.siblings
  attached_eq : other.attached = progress.attached
  events_eq : Trace.eventsOf other.traces = Trace.eventsOf progress.traces

/-- Whether shapes are the same up to what goes together with the rules that take part in evaluations. -/
inductive Shape.Mirrors (enacts : Rule → Rule → Prop) : Shape → Shape → Prop
  | boolean (accepts : Bool) : Mirrors enacts (.boolean accepts) (.boolean accepts)
  | object {rules rules' : List Rule}
      (pairs : List.Forall₂ enacts (rules.filter (·.isApplied)) (rules'.filter (·.isApplied))) :
      Mirrors enacts (.object rules) (.object rules')

namespace Pairing

variable (pairing : Pairing)

/-- Whether paths go together: those below the same keyword with active resources that do. -/
structure Follows (path other : Path) : Prop where
  keyword_eq : other.keyword = path.keyword
  active : List.Forall₂ pairing.resources path.active other.active

/-- Whether rules of nodes that go together do the same: they lead to what goes together, and so do their plans. -/
structure Enacts (run other : Run) (target target' : Target) (rule rule' : Rule) : Prop where
  keyword_eq : rule'.keyword = rule.keyword
  isLeaf_eq : rule'.isLeaf = rule.isLeaf
  leads : ∀ active active', List.Forall₂ pairing.resources active active' →
    pairing.Leads (run.target target.document active rule) (other.target target'.document active' rule')
  plans : ∀ siblings attached found found' value, Option.Rel pairing.targets found found' →
    pairing.Plans
      (rule.plan ⟨run.options, target.document, target.document.node target.node, siblings, attached⟩ found value)
      (rule'.plan ⟨other.options, target'.document, target'.document.node target'.node, siblings, attached⟩ found' value)

/-- Whether two evaluations do the same, up to what goes together. -/
structure Mirrors (run other : Run) : Prop extends pairing.IsSound where
  maxDepth_eq : other.options.maxDepth = run.options.maxDepth
  root_eq : other.root.id = run.root.id
  id_eq : ∀ resource resource', pairing.resources resource resource' →
    Schema.id ⟨resource'.document, resource'.resource⟩ = Schema.id ⟨resource.document, resource.resource⟩
  location_eq : ∀ target target', pairing.targets target target' →
    (target'.document.node target'.node).location = (target.document.node target.node).location
  shapes : ∀ target target', pairing.targets target target' →
    Shape.Mirrors (pairing.Enacts run other target target') (target.document.node target.node).shape
      (target'.document.node target'.node).shape

/-- Whether results of applications that go together mirror each other. -/
def ResultsMirror : List (Application × Applied) → List (Application × Applied) → Prop :=
  List.Forall₂ fun result result' => pairing.Applies result.1 result'.1 ∧ result.2.Mirrors result'.2

/-- Whether evaluators mirror each other wherever what they apply goes together. -/
def AppliesMirrored (apply other : Run.Applier) : Prop :=
  ∀ path path' application application' memory memory', pairing.Follows path path' →
    pairing.Applies application application' → pairing.Remembers memory memory' →
      ((apply path application).run memory).1.Mirrors ((other path' application').run memory').1 ∧
        pairing.Remembers ((apply path application).run memory).2 ((other path' application').run memory').2

variable {pairing} {run other : Run}

theorem Applies.contributes_eq {application application' : Application} (pair : pairing.Applies application application') :
    application'.contributes = application.contributes := by
  rw [Application.contributes, Application.contributes, pair.step_eq, pair.isolated_eq]

/-! ## Results -/

namespace ResultsMirror

variable {results results' : List (Application × Applied)} (pairs : pairing.ResultsMirror results results')
include pairs

theorem outcomes_eq : results'.map (·.2.outcome) = results.map (·.2.outcome) := by
  induction pairs with
  | nil => rfl
  | cons pair _ ih => rw [List.map_cons, List.map_cons, pair.2.outcome_eq, ih]

theorem events_eq : Trace.eventsOf (results'.map (·.2.trace)) = Trace.eventsOf (results.map (·.2.trace)) := by
  induction pairs with
  | nil => rfl
  | cons pair _ ih =>
    rw [List.map_cons, List.map_cons, Trace.eventsOf_cons, Trace.eventsOf_cons, pair.2.events_eq, ih]

theorem contributed_eq : (results'.flatMap fun (application, applied) => applied.contribution application) =
    results.flatMap fun (application, applied) => applied.contribution application := by
  induction pairs with
  | nil => rfl
  | @cons result result' _ _ pair _ ih =>
    have own : result'.2.contribution result'.1 = result.2.contribution result.1 := by
      rw [Applied.contribution, Applied.contribution, pair.2.outcome_eq, pair.1.contributes_eq, pair.2.attached_eq]
    exact congrArg₂ (· ++ ·) own ih

end ResultsMirror

namespace AppliesMirrored

variable {apply apply' : Run.Applier} (applies : pairing.AppliesMirrored apply apply')
include applies

theorem run_applyAll {path path' : Path} (follows : pairing.Follows path path')
    {applications applications' : List Application}
    (pairs : List.Forall₂ pairing.Applies applications applications') {memory memory' : Memory}
    (remembers : pairing.Remembers memory memory') :
    let found := (Run.applyAll apply path applications).run memory
    let found' := (Run.applyAll apply' path' applications').run memory'
    pairing.ResultsMirror found.1 found'.1 ∧ pairing.Remembers found.2 found'.2 := by
  induction pairs generalizing memory memory' with
  | nil => exact ⟨.nil, remembers⟩
  | cons pair _ ih =>
    simp only [Run.applyAll, Evaluation.run_bind, Evaluation.run_pure]
    obtain ⟨mirrors, after⟩ := applies path path' _ _ memory memory' follows pair remembers
    obtain ⟨rest, last⟩ := ih after
    exact ⟨.cons ⟨pair, mirrors⟩ rest, last⟩

variable {target target' : Target} {active active' : List ActiveResource}
  (scopes : List.Forall₂ pairing.resources active active') (scope : Scope) (value : Json) {progress progress' : Progress}
  {memory memory' : Memory} (mirrors : progress.Mirrors progress') (remembers : pairing.Remembers memory memory')
include scopes mirrors remembers

/-- Rules that do the same leave the same. -/
theorem run_applyRule {rule rule' : Rule} (enacts : pairing.Enacts run other target target' rule rule') :
    let found := (run.applyRule apply active target.document (target.document.node target.node) scope value progress
      rule).run memory
    let found' := (other.applyRule apply' active' target'.document (target'.document.node target'.node) scope value
      progress' rule').run memory'
    found.1.Mirrors found'.1 ∧ pairing.Remembers found.2 found'.2 := by
  simp only [Run.applyRule, Evaluation.run_bind, Evaluation.run_pure]
  obtain ⟨leads, after⟩ := enacts.leads active active' scopes memory memory' remembers
  have plans := enacts.plans progress.siblings progress.attached _ _ value leads
  rw [mirrors.siblings_eq, mirrors.attached_eq, enacts.keyword_eq, enacts.isLeaf_eq]
  have follows : pairing.Follows ⟨some (scope.keyword rule.keyword), active⟩ ⟨some (scope.keyword rule.keyword), active'⟩ :=
    ⟨rfl, scopes⟩
  obtain ⟨pairs, last⟩ := applies.run_applyAll follows plans.applications after
  rw [plans.conclude_eq, pairs.outcomes_eq]
  refine ⟨?_, last⟩
  split
  · refine ⟨?_, ?_, ?_⟩
    · simp only [Progress.record, mirrors.siblings_eq, Trace.outcome]
    · simp only [Progress.record, mirrors.attached_eq, pairs.contributed_eq, Trace.outcome]
    · simp only [Progress.record, Trace.eventsOf_append, mirrors.events_eq, Trace.eventsOf_cons, Trace.events]
  · refine ⟨?_, ?_, ?_⟩
    · simp only [Progress.record, mirrors.siblings_eq, Trace.outcome]
    · simp only [Progress.record, mirrors.attached_eq, pairs.contributed_eq, Trace.outcome]
    · simp only [Progress.record, Trace.eventsOf_append, mirrors.events_eq, Trace.eventsOf_cons, Trace.events,
        pairs.events_eq]

theorem run_applyRules {rules rules' : List Rule}
    (pairs : List.Forall₂ (pairing.Enacts run other target target') rules rules') :
    let found := (run.applyRules apply active target.document (target.document.node target.node) scope value progress
      rules).run memory
    let found' := (other.applyRules apply' active' target'.document (target'.document.node target'.node) scope value
      progress' rules').run memory'
    found.1.Mirrors found'.1 ∧ pairing.Remembers found.2 found'.2 := by
  induction pairs generalizing progress progress' memory memory' with
  | nil => exact ⟨mirrors, remembers⟩
  | cons enacts _ ih =>
    simp only [Run.applyRules, Evaluation.run_bind]
    obtain ⟨next, after⟩ := applies.run_applyRule scopes scope value mirrors remembers enacts
    exact ih next after

end AppliesMirrored

/-! ## Applications -/

namespace Mirrors

variable (mirrors : pairing.Mirrors run other)
include mirrors

/-- What goes together is applied in the same scope. -/
theorem scope_eq {path path' : Path} (follows : pairing.Follows path path') {application application' : Application}
    (pair : pairing.Applies application application') :
    path'.scope other application' = path.scope run application := by
  have base := mirrors.id_eq _ _ (mirrors.active _ _ pair.target)
  have location := mirrors.location_eq _ _ pair.target
  dsimp only [Schema.id, Schema.info?, Target.active] at base
  simp only [Path.scope, Path.depth, Application.node, base, location, follows.keyword_eq, pair.token_eq, pair.step_eq,
    mirrors.root_eq]

theorem applyNode {apply apply' : Run.Applier} (applies : pairing.AppliesMirrored apply apply') :
    pairing.AppliesMirrored (run.applyNode apply) (other.applyNode apply') := by
  intro path path' application application' memory memory' follows pair remembers
  have shapes := mirrors.shapes _ _ pair.target
  have scope := mirrors.scope_eq follows pair
  simp only [Run.applyNode, Application.node, scope, pair.value_eq]
  generalize shape : (application.target.document.node application.target.node).shape = own at shapes ⊢
  generalize shape' : (application'.target.document.node application'.target.node).shape = own' at shapes ⊢
  cases shapes with
  | boolean accepts => exact ⟨⟨rfl, rfl, rfl⟩, remembers⟩
  | object pairs =>
    simp only [Evaluation.run_bind, Evaluation.run_pure]
    obtain ⟨left, after⟩ := applies.run_applyRules (.cons (mirrors.active _ _ pair.target) follows.active)
      (path.scope run application) application.value (⟨rfl, rfl, rfl⟩ : Progress.start.Mirrors .start) remembers pairs
    have valid : ∀ {first second : Progress}, first.Mirrors second → second.isValid = first.isValid :=
      fun same => by rw [Progress.isValid, Progress.isValid, same.siblings_eq]
    refine ⟨⟨?_, left.attached_eq, ?_⟩, after⟩
    · exact congrArg Outcome.ofBool (valid left)
    · simp only [Trace.events, left.events_eq, valid left]

theorem applyWithin (scopes : Nat) :
    pairing.AppliesMirrored (run.applyWithin scopes) (other.applyWithin scopes) := by
  have cut : pairing.AppliesMirrored (fun path application => return run.cutOff path application)
      (fun path application => return other.cutOff path application) := by
    intro path path' application application' memory memory' follows pair remembers
    refine ⟨⟨rfl, rfl, ?_⟩, remembers⟩
    simp only [Evaluation.run_pure, Run.cutOff, Trace.events, mirrors.scope_eq follows pair]
  induction scopes using Run.applyWithin.induct with
  | case1 => exact cut
  | case2 => exact mirrors.applyNode cut
  | case3 scopes ih => exact mirrors.applyNode ih

/-- Evaluations that mirror each other have equal reports. -/
theorem validate_eq (collect : other.options.collectAnnotations = run.options.collectAnnotations)
    (root : pairing.targets ⟨run.root.document, run.root.rootIndex⟩ ⟨other.root.document, other.root.rootIndex⟩)
    (format : OutputFormat) (value : Json) (dialects : DialectCache) :
    (other.root.validate other.options format value dialects).1 =
      (run.root.validate run.options format value dialects).1 := by
  have report (run : Run) : (run.root.validate run.options format value dialects).1 =
      .ofEvents format run.options.collectAnnotations
        ((run.evaluate value).run ⟨[], dialects⟩).1.trace.events := rfl
  obtain ⟨same, -⟩ := mirrors.applyWithin run.options.maxDepth .root .root
    (.inPlace ⟨run.root.document, run.root.rootIndex⟩ value none)
    (.inPlace ⟨other.root.document, other.root.rootIndex⟩ value none) _ _ ⟨rfl, .nil⟩ ⟨root, rfl, rfl, rfl, rfl⟩
    (remembers_start dialects)
  rw [report run, report other, collect, Run.evaluate, Run.evaluate, mirrors.maxDepth_eq]
  exact congrArg _ same.events_eq

end Mirrors

end Pairing

end JsonSchema
