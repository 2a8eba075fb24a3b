import JsonSchema.Proofs.Evaluation.CountedItems
import JsonSchema.Proofs.Evaluation.DepthLimit
import JsonSchema.Proofs.Evaluation.SideBySide
import JsonSchema.Proofs.Report.Verdict

/-! # Unknown keywords in evaluations

Unknown keywords attach their values under their own names, where other rules find them. An evaluation without the rules
of unknown keywords goes along with one that has them as long as no rule takes an unknown keyword for a known one
(`Schema.Sheds.alike_trace`).
-/

namespace JsonSchema

/-! ## Documents without some rules -/

/-- Whether rules are others without some that belong to unknown keywords. -/
inductive ShedsRules : List Rule → List Rule → Prop
  | nil : ShedsRules [] []
  | keep (rule : Rule) {rules kept : List Rule} (rest : ShedsRules rules kept) :
      ShedsRules (rule :: rules) (rule :: kept)
  | drop (name : String) (value : Json) {rules kept : List Rule} (rest : ShedsRules rules kept) :
      ShedsRules (.unknown name value :: rules) kept

namespace ShedsRules

theorem refl (rules : List Rule) : ShedsRules rules rules := by
  induction rules with
  | nil => exact .nil
  | cons rule rest ih => exact .keep rule ih

theorem knownRules (rules : List Rule) : ShedsRules rules (knownRules rules) := by
  induction rules with
  | nil => exact .nil
  | cons rule rest ih =>
    cases rule with
    | unknown name value => exact .drop name value ih
    | _ => exact .keep _ ih

theorem filter {rules kept : List Rule} (sheds : ShedsRules rules kept) (p : Rule → Bool) :
    ShedsRules (rules.filter p) (kept.filter p) := by
  induction sheds with
  | nil => exact .nil
  | keep rule _ ih =>
    rw [List.filter_cons, List.filter_cons]
    split
    · exact .keep rule ih
    · exact ih
  | drop name value _ ih =>
    rw [List.filter_cons]
    split
    · exact .drop name value ih
    · exact ih

theorem subset {rules kept : List Rule} (sheds : ShedsRules rules kept) : kept ⊆ rules := by
  induction sheds with
  | nil => exact List.Subset.refl _
  | keep rule _ ih => exact List.cons_subset_cons rule ih
  | drop name value _ ih => exact List.Subset.trans ih (List.subset_cons_self _ _)

section

variable {rules kept : List Rule} {keyword : String}

theorem ne_of_all (none : (rules.all fun rule => rule.standard?.isNone || rule.keyword != keyword) = true) {rule : Rule}
    (member : rule ∈ rules) (known : rule.standard?.isSome) : rule.keyword ≠ keyword := by
  have either := List.all_eq_true.mp none rule member
  rw [Bool.or_eq_true, Option.isNone_iff_eq_none, bne_iff_ne] at either
  refine either.resolve_left fun unknown => ?_
  rw [unknown] at known
  exact Bool.noConfusion known

/-- Without some rules of unknown keywords the first known rule under a keyword is the same, if none was in front of
it. -/
theorem find?_eq (sheds : ShedsRules rules kept) (apart : seeksApart keyword rules = true) :
    (kept.find? (·.keyword == keyword)).filter (·.standard?.isSome) =
      (rules.find? (·.keyword == keyword)).filter (·.standard?.isSome) := by
  induction sheds with
  | nil => rfl
  | keep rule rest ih =>
    rw [List.find?_cons, List.find?_cons]
    rw [seeksApart] at apart
    cases named : rule.keyword == keyword with
    | true => rfl
    | false =>
      rw [named] at apart
      exact ih apart
  | @drop name value rules kept rest ih =>
    rw [List.find?_cons]
    rw [seeksApart] at apart
    cases named : (Rule.unknown name value).keyword == keyword with
    | true =>
      rw [named] at apart
      refine Option.eq_none_iff_forall_ne_some.mpr fun rule found => ?_
      obtain ⟨found, known⟩ := Option.filter_eq_some_iff.mp found
      exact ne_of_all apart (rest.subset (List.mem_of_find?_eq_some found)) known (by simpa using List.find?_some found)
    | false =>
      rw [named] at apart
      exact ih apart

theorem seeksApart_of_all (none : (rules.all fun rule => rule.standard?.isNone || rule.keyword != keyword) = true) :
    seeksApart keyword rules = true := by
  induction rules with
  | nil => rfl
  | cons rule rest ih =>
    rw [List.all_cons, Bool.and_eq_true] at none
    rw [seeksApart]
    split
    · exact Bool.or_eq_true_iff.mpr (.inr none.2)
    · exact ih none.2

/-- Without some rules of unknown keywords there is none in front of a known rule either. -/
theorem seeksApart_of (sheds : ShedsRules rules kept) (apart : seeksApart keyword rules = true) :
    seeksApart keyword kept = true := by
  have fewer {rules kept : List Rule} (sheds : ShedsRules rules kept)
      (none : (rules.all fun rule => rule.standard?.isNone || rule.keyword != keyword) = true) :
      (kept.all fun rule => rule.standard?.isNone || rule.keyword != keyword) = true :=
    List.all_eq_true.mpr fun rule member => List.all_eq_true.mp none rule (sheds.subset member)
  induction sheds with
  | nil => rfl
  | keep rule rest ih =>
    rw [seeksApart] at apart ⊢
    cases named : rule.keyword == keyword with
    | true =>
      rw [named] at apart
      exact Bool.or_eq_true_iff.mpr ((Bool.or_eq_true_iff.mp apart).imp id (fewer rest))
    | false =>
      rw [named] at apart
      exact ih apart
  | drop name value rest ih =>
    rw [seeksApart] at apart
    split at apart
    · exact seeksApart_of_all (fewer rest apart)
    · exact ih apart

end

end ShedsRules

/-- Whether a document is another one, or that without the rules of unknown keywords. -/
def Document.Sheds (document other : Document) : Prop := other = document ∨ other = document.mapRules knownRules

namespace Document.Sheds

variable {document other : Document} (sheds : document.Sheds other)
include sheds

theorem resources_eq : other.resources = document.resources := by
  rcases sheds with rfl | rfl <;> rfl

theorem ids_eq : other.ids = document.ids := by
  rcases sheds with rfl | rfl <;> rfl

theorem value_eq (index : Nat) : (other.node index).value = (document.node index).value := by
  rcases sheds with rfl | rfl
  · rfl
  · rw [node_mapRules]
    rfl

theorem resource_eq (index : Nat) : (other.node index).resource = (document.node index).resource := by
  rcases sheds with rfl | rfl
  · rfl
  · rw [node_mapRules]
    rfl

/-- The shape of a node is the same without some rules. -/
theorem shape (index : Nat) : (∃ accepts, (document.node index).shape = .boolean accepts ∧
      (other.node index).shape = .boolean accepts) ∨
    ∃ rules kept, (document.node index).shape = .object rules ∧ (other.node index).shape = .object kept ∧
      ShedsRules rules kept := by
  cases shape : (document.node index).shape with
  | boolean accepts =>
    refine .inl ⟨accepts, rfl, ?_⟩
    rcases sheds with rfl | rfl
    · exact shape
    · rw [node_mapRules, Node.mapRules, shape]
      rfl
  | object rules =>
    refine .inr ⟨rules, ?_⟩
    rcases sheds with rfl | rfl
    · exact ⟨rules, rfl, shape, .refl rules⟩
    · refine ⟨knownRules rules, rfl, ?_, .knownRules rules⟩
      rw [node_mapRules, Node.mapRules, shape]
      rfl

end Document.Sheds

/-- Whether a schema is another one, in a document without some rules. -/
structure Schema.Sheds (schema other : Schema) : Prop where
  document : schema.document.Sheds other.document
  resource_eq : other.resource = schema.resource

namespace Schema.Sheds

variable {schema other : Schema} (sheds : schema.Sheds other)
include sheds

theorem info?_eq : other.info? = schema.info? := by
  rw [info?, info?, sheds.document.resources_eq, sheds.resource_eq]

theorem rootIndex_eq : other.rootIndex = schema.rootIndex := by
  rw [rootIndex, rootIndex, sheds.info?_eq]

theorem value_eq : other.value = schema.value := by
  rw [value, value, root, root, sheds.rootIndex_eq, sheds.document.value_eq]

theorem nodeOfFragment?_eq (fragment : String) (kinds : FragmentKinds) :
    other.nodeOfFragment? fragment kinds = schema.nodeOfFragment? fragment kinds := by
  rw [nodeOfFragment?, nodeOfFragment?, sheds.info?_eq]

end Schema.Sheds

/-- Nodes and resources go together with those of the same number in a document without some rules. -/
def shedding : Pairing where
  targets target other := target.document.Sheds other.document ∧ other.node = target.node
  resources resource other := resource.document.Sheds other.document ∧ other.resource = resource.resource

theorem isSound_shedding : shedding.IsSound where
  active := by
    rintro ⟨document, node⟩ ⟨other, node'⟩ ⟨sheds, same⟩
    dsimp only at sheds same
    subst same
    exact ⟨sheds, sheds.resource_eq node'⟩
  dynamicAnchor? := by
    rintro ⟨document, index⟩ ⟨other, index'⟩ ⟨sheds, same⟩ name
    dsimp only at sheds same
    subst same
    simp only [ActiveResource.dynamicAnchor?, sheds.resources_eq]
    cases document.resources[index']?.bind fun resource => assoc? name resource.dynamicAnchors with
    | none => exact .none
    | some node => exact .some ⟨sheds, rfl⟩

/-! ## Lookups -/

section

variable {options : Options} {schema other : Schema}

theorem Document.Sheds.rel_find? {document document' : Document} (sheds : document.Sheds document') (id : Url) :
    Option.Rel Schema.Sheds (document.find? id) (document'.find? id) := by
  rw [Document.find?, Document.find?, sheds.ids_eq]
  cases assoc? id document.ids with
  | none => exact .none
  | some index => exact .some ⟨sheds, rfl⟩

variable (sheds : schema.Sheds other)
include sheds

theorem Schema.Sheds.rel_resource? {document document' : Document} (here : document.Sheds document') (id : Url) :
    Option.Rel Schema.Sheds ((Run.mk (options.treating .annotate) schema).resource? document id)
      ((Run.mk (options.treating .ignore) other).resource? document' id) := by
  have locators : (Run.mk (options.treating .ignore) other).locators =
      (Run.mk (options.treating .annotate) schema).locators := by
    simp only [Run.locators, sheds.info?_eq]
    rfl
  unfold Run.resource?
  rw [locators]
  have own := here.rel_find? id
  have root := sheds.document.rel_find? id
  dsimp only
  generalize document.find? id = found at own ⊢
  generalize document'.find? id = found' at own ⊢
  generalize schema.document.find? id = atRoot at root ⊢
  generalize other.document.find? id = atRoot' at root ⊢
  cases own with
  | some pair => exact .some pair
  | none =>
    cases root with
    | some pair => exact .some pair
    | none => exact rel_refl (fun schema => ⟨.inl rfl, rfl⟩) _

/-- References lead to the same nodes. -/
theorem Schema.Sheds.leads_resolve {document document' : Document} (here : document.Sheds document') (reference : Url) :
    shedding.Leads ((Run.mk (options.treating .annotate) schema).resolve document reference)
      ((Run.mk (options.treating .ignore) other).resolve document' reference) := by
  refine Pairing.leads_resolve (rel_imp (sheds.rel_resource? here _) fun found found' pair => ⟨?_, fun _ => ?_⟩)
  · rw [pair.nodeOfFragment?_eq]
    exact rel_refl (fun node => ⟨pair.document, rfl⟩) _
  · unfold Run.compilePointer
    rw [pair.info?_eq, pair.value_eq]
    split
    · split
      · next pointer resource _ _ _ value _ =>
        rintro ⟨fragments, dialects⟩ ⟨fragments', dialects'⟩ ⟨remembered, same⟩
        dsimp only at remembered same
        subst same
        obtain ⟨compiled, after⟩ := compileDocument_ignore options resource.dialect resource.id false value dialects'
        refine ⟨?_, remembered, after⟩
        show Option.Rel _ (((compileFragment (options.treating .annotate) resource value dialects').1.toOption).map _)
          (((compileFragment (options.treating .ignore) resource value dialects').1.toOption).map _)
        rw [compileFragment, compileFragment, compiled]
        cases (compileDocument (options.treating .annotate) resource.dialect resource.id false value
            dialects').1.toOption with
        | none => exact .none
        | some found => exact .some ⟨.inr rfl, rfl⟩
      · exact Pairing.leads_pure .none
    · exact Pairing.leads_pure .none

end

/-! ## Evaluations side by side -/

/-- Whether no unknown keyword attached values under a keyword, given the rules that attached values. -/
def IsQuiet (attachers : List Rule) (keyword : StandardKeyword) : Prop :=
  ∀ value, .unknown keyword.name value ∉ attachers

theorem IsQuiet.mono {attachers fewer : List Rule} {keyword : StandardKeyword} (quiet : IsQuiet attachers keyword)
    (subset : fewer ⊆ attachers) : IsQuiet fewer keyword :=
  fun value inside => quiet value (subset inside)

/-- Whether the same values are attached under all keywords under which no unknown keyword attached any. -/
def AttachedAlike (attachers : List Rule) (attached other : List (String × Json)) : Prop :=
  ∀ keyword, IsQuiet attachers keyword → other.filter (·.1 == keyword.name) = attached.filter (·.1 == keyword.name)

namespace AttachedAlike

theorem refl (attachers : List Rule) (attached : List (String × Json)) : AttachedAlike attachers attached attached :=
  fun _ _ => rfl

theorem mono {attachers more : List Rule} {attached other : List (String × Json)}
    (alike : AttachedAlike attachers attached other) (subset : attachers ⊆ more) : AttachedAlike more attached other :=
  fun keyword quiet => alike keyword (quiet.mono subset)

theorem append {attachers : List Rule} {attached attached' more more' : List (String × Json)}
    (alike : AttachedAlike attachers attached attached') (further : AttachedAlike attachers more more') :
    AttachedAlike attachers (attached ++ more) (attached' ++ more') := by
  intro keyword quiet
  rw [List.filter_append, List.filter_append, alike keyword quiet, further keyword quiet]

end AttachedAlike

/-- Whether applications yield the same, up to what unknown keywords attached. -/
structure Applied.Alike (application application' : Application) (applied other : Applied) : Prop where
  subject : applied.trace.subject = .application application
  subject' : other.trace.subject = .application application'
  outcome_eq : other.outcome = applied.outcome
  attached : AttachedAlike applied.trace.attachers applied.attached other.attached
  attachers : other.trace.attachers ⊆ applied.trace.attachers
  apart : other.trace.keepsApart = true

/-- Whether rules have left the same, up to what unknown keywords attached. -/
structure Progress.Alike (progress other : Progress) : Prop where
  siblings : ∀ keyword, IsQuiet (Trace.attachersOf progress.traces) keyword →
    assoc? keyword.name other.siblings = assoc? keyword.name progress.siblings
  attached : AttachedAlike (Trace.attachersOf progress.traces) progress.attached other.attached
  isValid_eq : other.isValid = progress.isValid
  attachers : Trace.attachersOf other.traces ⊆ Trace.attachersOf progress.traces

/-- Whether no rule so far has taken an unknown keyword for a known one. -/
structure Progress.KeepsApart (node : Node) (progress : Progress) : Prop where
  rules : Trace.rulesApart node [] progress.traces = true
  below : ∀ trace ∈ progress.traces, trace.keepsApart = true

/-- Whether results of applications go together. -/
def ResultsAlike : List (Application × Applied) → List (Application × Applied) → Prop :=
  List.Forall₂ fun result result' =>
    shedding.Applies result.1 result'.1 ∧ Applied.Alike result.1 result'.1 result.2 result'.2

/-- Whether an evaluator goes along with another one wherever no rule takes an unknown keyword for a known one. -/
def Run.AppliesAlike (apply other : Applier) : Prop :=
  ∀ (path path' : Path) (application application' : Application) (memory memory' : Memory),
    List.Forall₂ shedding.resources path.active path'.active → shedding.Applies application application' →
      shedding.Remembers memory memory' → ((apply path application).run memory).1.trace.keepsApart = true →
        Applied.Alike application application' ((apply path application).run memory).1
            ((other path' application').run memory').1 ∧
          shedding.Remembers ((apply path application).run memory).2 ((other path' application').run memory').2

namespace Applied.Alike

variable {application application' : Application} {applied applied' : Applied}
  (pair : shedding.Applies application application') (alike : Applied.Alike application application' applied applied')
include pair alike

theorem counts_eq : applied'.trace.counts = applied.trace.counts := by
  have contributes : application'.contributes = application.contributes := by
    rw [Application.contributes, Application.contributes, pair.step_eq, pair.isolated_eq]
  rw [Trace.counts, Trace.counts, alike.subject, alike.subject']
  exact congrArg₂ (· && ·) (congrArg Outcome.isValid alike.outcome_eq) contributes

theorem contribution_eq : applied.contribution application = (if applied.trace.counts then applied.attached else []) ∧
    applied'.contribution application' = (if applied.trace.counts then applied'.attached else []) := by
  constructor
  · rw [Trace.counts, alike.subject]
    rfl
  · rw [← counts_eq pair alike, Trace.counts, alike.subject']
    rfl

end Applied.Alike

namespace ResultsAlike

variable {results results' : List (Application × Applied)} (alike : ResultsAlike results results')
include alike

theorem outcomes_eq : results'.map (·.2.outcome) = results.map (·.2.outcome) := by
  induction alike with
  | nil => rfl
  | cons pair _ ih => rw [List.map_cons, List.map_cons, pair.2.outcome_eq, ih]

theorem contributed : AttachedAlike (Trace.attachersOf (results.map (·.2.trace)))
    (results.flatMap fun (application, applied) => applied.contribution application)
    (results'.flatMap fun (application, applied) => applied.contribution application) := by
  induction alike with
  | nil => exact .refl _ _
  | @cons result result' rest rest' pair _ ih =>
    obtain ⟨own, own'⟩ := pair.2.contribution_eq pair.1
    rw [List.map_cons, Trace.attachersOf, List.flatMap_cons, List.flatMap_cons]
    refine AttachedAlike.append ?_ (ih.mono (List.subset_append_right _ _))
    dsimp only
    rw [own, own']
    split
    · exact pair.2.attached.mono (List.subset_append_left _ _)
    · exact .refl _ _

theorem attachers : Trace.attachersOf (results'.map (·.2.trace)) ⊆ Trace.attachersOf (results.map (·.2.trace)) := by
  induction alike with
  | nil => exact List.Subset.refl _
  | @cons result result' rest rest' pair _ ih =>
    rw [List.map_cons, List.map_cons, Trace.attachersOf, Trace.attachersOf, pair.2.counts_eq pair.1]
    refine List.append_subset.mpr ⟨List.subset_append_of_subset_left _ ?_, List.subset_append_of_subset_right _ ih⟩
    split
    · exact pair.2.attachers
    · exact List.Subset.refl _

theorem apart : ∀ result ∈ results', result.2.trace.keepsApart = true := by
  induction alike with
  | nil => exact fun _ impossible => absurd impossible List.not_mem_nil
  | cons pair _ ih => exact List.forall_mem_cons.mpr ⟨pair.2.apart, ih⟩

end ResultsAlike

theorem Run.AppliesAlike.run_applyAll {apply other : Applier} (applies : AppliesAlike apply other) {path path' : Path}
    (scopes : List.Forall₂ shedding.resources path.active path'.active) {applications applications' : List Application}
    (pairs : List.Forall₂ shedding.Applies applications applications') {memory memory' : Memory}
    (remembers : shedding.Remembers memory memory')
    (apart : ∀ result ∈ ((applyAll apply path applications).run memory).1, result.2.trace.keepsApart = true) :
    let found := (applyAll apply path applications).run memory
    let found' := (applyAll other path' applications').run memory'
    ResultsAlike found.1 found'.1 ∧ shedding.Remembers found.2 found'.2 := by
  induction pairs generalizing memory memory' with
  | nil => exact ⟨.nil, remembers⟩
  | @cons application application' _ _ pair _ ih =>
    simp only [applyAll, Evaluation.run_bind, Evaluation.run_pure, List.forall_mem_cons] at apart ⊢
    obtain ⟨alike, after⟩ := applies path path' application application' memory memory' scopes pair remembers apart.1
    obtain ⟨rest, last⟩ := ih after apart.2
    exact ⟨.cons ⟨pair, alike⟩ rest, last⟩

theorem Document.Sheds.rules {document other : Document} (sheds : document.Sheds other) (index : Nat) :
    ShedsRules (document.node index).rules (other.node index).rules := by
  rcases sheds.shape index with ⟨accepts, shape, shape'⟩ | ⟨rules, kept, shape, shape', sheds⟩
  · rw [Node.rules, Node.rules, shape, shape']
    exact .nil
  · rw [Node.rules_of_shape shape, Node.rules_of_shape shape']
    exact sheds

/-- Without some rules of unknown keywords a rule takes none for a known one either. -/
theorem Rule.isApart_of_sheds {node node' : Node} (sheds : ShedsRules node.rules node'.rules)
    {attachers attachers' : List Rule} (subset : attachers' ⊆ attachers) {rule : Rule}
    (apart : rule.isApart node attachers = true) : rule.isApart node' attachers' = true := by
  obtain ⟨consults, seeks⟩ := Bool.and_eq_true_iff.mp apart
  refine Bool.and_eq_true_iff.mpr ⟨List.all_eq_true.mpr fun keyword member => List.all_eq_true.mpr fun other inside => ?_,
    List.all_eq_true.mpr fun keyword member => sheds.seeksApart_of (List.all_eq_true.mp seeks keyword member)⟩
  exact List.all_eq_true.mp (List.all_eq_true.mp consults keyword member) other (subset inside)

namespace Progress

theorem attachersOf_perform {progress : Progress} (scope : Scope) {step : Step}
    (planned : step.results.map (·.1) = step.plan.applications) :
    Trace.attachersOf (progress.perform scope step).traces = Trace.attachersOf progress.traces ++
      (Trace.attachersOf (step.results.map (·.2.trace)) ++ [step.rule]) := by
  rw [← step.attachers_trace scope planned, ← step.attachersOf_trace scope, ← Trace.attachersOf_append]
  rfl

theorem keepsApart_perform_iff {progress : Progress} (scope : Scope) {node : Node} {step : Step}
    (planned : step.results.map (·.1) = step.plan.applications) :
    (progress.perform scope step).KeepsApart node ↔ progress.KeepsApart node ∧
      step.rule.isApart node (Trace.attachersOf progress.traces) = true ∧
      ∀ result ∈ step.results, result.2.trace.keepsApart = true := by
  have own : (step.trace scope).keepsApart = true ↔ ∀ result ∈ step.results, result.2.trace.keepsApart = true := by
    rw [Trace.keepsApart_iff, step.subject_trace, step.children_trace scope planned, List.forall_mem_map]
    exact and_iff_right fun _ impossible => by cases impossible
  have traces : (progress.perform scope step).traces = progress.traces ++ [step.trace scope] := rfl
  constructor
  · rintro ⟨rules, below⟩
    rw [traces] at rules below
    obtain ⟨before, last⟩ := Trace.rulesApart_append.mp rules
    rw [Trace.rulesApart, step.subject_trace, Bool.and_eq_true] at last
    exact ⟨⟨before, fun trace member => below trace (List.mem_append_left _ member)⟩, last.1,
      own.mp (below _ (List.mem_append_right _ (List.mem_singleton_self _)))⟩
  · rintro ⟨⟨rules, below⟩, apart, results⟩
    refine ⟨Trace.rulesApart_append.mpr ⟨rules, ?_⟩, fun trace member => ?_⟩
    · rw [Trace.rulesApart, step.subject_trace, Bool.and_eq_true]
      exact ⟨apart, rfl⟩
    · rcases List.mem_append.mp member with earlier | last
      · exact below trace earlier
      · rw [List.mem_singleton.mp last]
        exact own.mpr results

theorem KeepsApart.of_prefix {progress later : Progress} {node : Node} (apart : later.KeepsApart node)
    (before : progress.traces <+: later.traces) : progress.KeepsApart node := by
  obtain ⟨further, split⟩ := before
  have rules := apart.rules
  rw [← split] at rules
  exact ⟨(Trace.rulesApart_append.mp rules).1, fun trace member => apart.below trace (split ▸ List.mem_append_left _ member)⟩

namespace Alike

variable {progress progress' : Progress} (alike : progress.Alike progress')
include alike

/-- A rule that takes no unknown keyword for a known one finds the same before it. -/
theorem alikeFor {options : Options} {document document' : Document} (here : document.Sheds document') {index : Nat}
    {rule : Rule} (apart : rule.isApart (document.node index) (Trace.attachersOf progress.traces) = true) :
    Facts.AlikeFor rule
      ⟨options.treating .annotate, document, document.node index, progress.siblings, progress.attached⟩
      ⟨options.treating .ignore, document', document'.node index, progress'.siblings, progress'.attached⟩ where
  options := ⟨.ignore, rfl⟩
  knownRule?_eq keyword seeks :=
    (here.rules index).find?_eq (List.all_eq_true.mp (Bool.and_eq_true_iff.mp apart).2 keyword seeks)
  siblingValue?_eq keyword consults := by
    simp only [Facts.siblingValue?, Facts.sibling?, alike.siblings keyword (Rule.not_mem_of_isApart apart consults)]
  attachedBy_eq keyword consults := by
    simp only [Facts.attachedBy, alike.attached keyword (Rule.not_mem_of_isApart apart consults)]

/-- After the same rule with results that go together the progress is alike. -/
theorem perform {scope scope' : Scope} {step step' : Step} (same : step'.rule = step.rule)
    (outcome : step'.outcome = step.outcome) (results : ResultsAlike step.results step'.results)
    (planned : step.results.map (·.1) = step.plan.applications)
    (planned' : step'.results.map (·.1) = step'.plan.applications) :
    (progress.perform scope step).Alike (progress'.perform scope' step') := by
  constructor
  · intro keyword quiet
    rw [attachersOf_perform scope planned] at quiet
    simp only [Progress.perform, Progress.record, Step.outcome_trace, assoc?_append, same, outcome,
      alike.siblings keyword (quiet.mono (List.subset_append_left _ _))]
  · rw [attachersOf_perform scope planned]
    simp only [Progress.perform, Progress.record, Step.outcome_trace, same, outcome]
    refine .append (.append (alike.attached.mono (List.subset_append_left _ _)) ?_) (.refl _ _)
    exact results.contributed.mono
      (List.subset_append_of_subset_right _ (List.subset_append_left _ _))
  · rw [Progress.isValid_perform, Progress.isValid_perform, alike.isValid_eq, outcome]
  · rw [attachersOf_perform scope planned, attachersOf_perform scope' planned', same]
    refine List.append_subset.mpr ⟨List.subset_append_of_subset_left _ alike.attachers,
      List.subset_append_of_subset_right _ (List.append_subset.mpr
        ⟨List.subset_append_of_subset_left _ results.attachers, List.subset_append_right _ _⟩)⟩

/-- After a rule of an unknown keyword the progress is alike without it. -/
theorem shed {scope : Scope} {step : Step} {name : String} {value : Json} (unknown : step.rule = .unknown name value)
    (silent : step.results = []) : (progress.perform scope step).Alike progress' := by
  have outcome : step.outcome = .annotated value := by
    rw [Step.outcome, Step.plan, unknown]
    rfl
  have contributed : step.contributed = [] := by
    rw [Step.contributed, silent]
    rfl
  have named : step.rule.keyword = name := by
    rw [unknown]
    rfl
  have attachers : Trace.attachersOf (progress.perform scope step).traces =
      Trace.attachersOf progress.traces ++ [.unknown name value] := by
    rw [attachersOf_perform scope (by rw [silent, Step.plan, unknown]; rfl), silent, unknown]
    rfl
  have differs {keyword : StandardKeyword}
      (quiet : IsQuiet (Trace.attachersOf progress.traces ++ [.unknown name value]) keyword) : name ≠ keyword.name := by
    rintro rfl
    exact quiet value (List.mem_append_right _ (List.mem_singleton_self _))
  constructor
  · intro keyword quiet
    rw [attachers] at quiet
    simp only [Progress.perform, Progress.record, Step.outcome_trace, assoc?_append, named, assoc?,
      alike.siblings keyword (quiet.mono (List.subset_append_left _ _)), (differs quiet).symm, if_false, Option.or_none]
  · intro keyword quiet
    rw [attachers] at quiet
    simp only [Progress.perform, Progress.record, Step.outcome_trace, contributed, outcome, named, Outcome.value?,
      Option.map_some, Option.toList_some, List.append_nil, List.filter_append,
      alike.attached keyword (quiet.mono (List.subset_append_left _ _))]
    simp [differs quiet]
  · rw [Progress.isValid_perform, alike.isValid_eq, outcome]
    simp [Outcome.isValid]
  · rw [attachers]
    exact List.subset_append_of_subset_left _ alike.attachers

end Alike

end Progress

/-- Rules that find the same before them plan the same, up to what goes together. -/
theorem Facts.AlikeFor.plans_shedding {rule : Rule} {facts facts' : Facts} (alike : facts.AlikeFor rule facts')
    (here : facts.document.Sheds facts'.document) {target target' : Option Target}
    (rel : Option.Rel shedding.targets target target') (value : Json) :
    shedding.Plans (rule.plan facts target value) (rule.plan facts' target' value) := by
  cases refers : rule.isReference with
  | true =>
    have plans := Pairing.plans_of_isReference refers rel facts facts' id value
    rwa [Rule.rename_id] at plans
  | false =>
    rw [Rule.plan_of_alike_elsewhere refers alike (fun schema _ => here.value_eq schema) target target' value]
    exact Pairing.plans_moveTo refers fun schema _ => ⟨here, rfl⟩

namespace Run.AppliesAlike

variable {apply other : Applier} (applies : AppliesAlike apply other) {options : Options}
  {schema schema' : Schema} (sheds : schema.Sheds schema') {active active' : List ActiveResource}
  (scopes : List.Forall₂ shedding.resources active active') {document document' : Document}
  (here : document.Sheds document') {index : Nat} {scope scope' : Scope} {value : Json} {progress progress' : Progress}
  {memory memory' : Memory}
include applies sheds scopes here

/-- A rule does the same in a document without some rules. -/
theorem run_applyRule (alike : progress.Alike progress') (apart' : progress'.KeepsApart (document'.node index))
    (remembers : shedding.Remembers memory memory') (rule : Rule)
    (apart : (((Run.mk (options.treating .annotate) schema).applyRule apply active document (document.node index) scope
      value progress rule).run memory).1.KeepsApart (document.node index)) :
    let found := ((Run.mk (options.treating .annotate) schema).applyRule apply active document (document.node index)
      scope value progress rule).run memory
    let found' := ((Run.mk (options.treating .ignore) schema').applyRule other active' document' (document'.node index)
      scope' value progress' rule).run memory'
    found.1.Alike found'.1 ∧ found'.1.KeepsApart (document'.node index) ∧ shedding.Remembers found.2 found'.2 := by
  rw [run_applyRule_eq] at apart ⊢
  rw [run_applyRule_eq]
  dsimp only at apart ⊢
  obtain ⟨-, ruleApart, results⟩ := (Progress.keepsApart_perform_iff scope (planned_applyAll _ _ _ _)).mp apart
  obtain ⟨target, after⟩ := isSound_shedding.leads_target scopes rule id
    (fun url _ => @Schema.Sheds.leads_resolve options _ _ sheds _ _ here url) memory memory' remembers
  rw [Rule.rename_id] at target after
  have finds := @Progress.Alike.alikeFor _ _ alike options _ _ here _ _ ruleApart
  have plans := finds.plans_shedding here target value
  let path : Path := ⟨some (scope.keyword rule.keyword), active⟩
  let path' : Path := ⟨some (scope'.keyword rule.keyword), active'⟩
  obtain ⟨alikeResults, last⟩ := @run_applyAll _ _ applies path path' scopes _ _ plans.applications _ _ after results
  refine ⟨alike.perform rfl ?_ alikeResults (planned_applyAll _ _ _ _) (planned_applyAll _ _ _ _), ?_, last⟩
  · exact (congrFun plans.conclude_eq _).trans (congrArg _ alikeResults.outcomes_eq)
  · exact (Progress.keepsApart_perform_iff scope' (planned_applyAll _ _ _ _)).mpr
      ⟨apart', Rule.isApart_of_sheds (here.rules index) alike.attachers ruleApart, alikeResults.apart⟩

/-- Rules do the same in a document without some of them. -/
theorem run_applyRules {rules kept : List Rule} (less : ShedsRules rules kept) (alike : progress.Alike progress')
    (apart' : progress'.KeepsApart (document'.node index)) (remembers : shedding.Remembers memory memory')
    (apart : (((Run.mk (options.treating .annotate) schema).applyRules apply active document (document.node index) scope
      value progress rules).run memory).1.KeepsApart (document.node index)) :
    let found := ((Run.mk (options.treating .annotate) schema).applyRules apply active document (document.node index)
      scope value progress rules).run memory
    let found' := ((Run.mk (options.treating .ignore) schema').applyRules other active' document' (document'.node index)
      scope' value progress' kept).run memory'
    found.1.Alike found'.1 ∧ found'.1.KeepsApart (document'.node index) ∧ shedding.Remembers found.2 found'.2 := by
  induction less generalizing progress progress' memory memory' with
  | nil => exact ⟨alike, apart', remembers⟩
  | keep rule rest ih =>
    rw [applyRules, Evaluation.run_bind] at apart ⊢
    rw [applyRules, Evaluation.run_bind]
    obtain ⟨alike, apart', remembers⟩ := applies.run_applyRule sheds scopes here alike apart' remembers rule
      (apart.of_prefix (traces_prefix_applyRules _ _ _))
    exact ih alike apart' remembers apart
  | drop name described rest ih =>
    rw [applyRules, Evaluation.run_bind] at apart ⊢
    refine ih ?_ apart' remembers apart
    rw [run_applyRule_eq]
    exact alike.shed rfl rfl

end Run.AppliesAlike

namespace Run

variable {options : Options} {schema schema' : Schema} (sheds : schema.Sheds schema')
include sheds

/-- A node is applied alike in a document without some rules. -/
theorem AppliesAlike.applyNode {apply other : Applier} (applies : AppliesAlike apply other) :
    AppliesAlike ((Run.mk (options.treating .annotate) schema).applyNode apply)
      ((Run.mk (options.treating .ignore) schema').applyNode other) := by
  rintro path path' ⟨⟨document, index⟩, value, step, token, isolated⟩ ⟨⟨document', index'⟩, _, _, _, _⟩ memory memory'
    scopes ⟨⟨here, same⟩, rfl, rfl, rfl, rfl⟩ remembers apart
  dsimp only at here same
  subst same
  rcases here.shape index' with ⟨accepts, shape, shape'⟩ | ⟨rules, kept, shape, shape', less⟩
  · simp only [Run.applyNode, Application.node, shape, shape', Evaluation.run_pure]
    exact ⟨⟨rfl, rfl, rfl, .refl _ _, List.Subset.refl _, rfl⟩, remembers⟩
  · simp only [Run.applyNode, Application.node, shape, shape', Evaluation.run_bind, Evaluation.run_pure] at apart ⊢
    obtain ⟨own, below⟩ := Trace.keepsApart_iff.mp apart
    have started : Progress.start.Alike .start := ⟨fun _ _ => rfl, .refl _ _, rfl, List.Subset.refl _⟩
    have active := isSound_shedding.active ⟨document, index'⟩ ⟨document', index'⟩ ⟨here, rfl⟩
    obtain ⟨alike, apart', after⟩ := applies.run_applyRules sheds (.cons active scopes) here
      (less.filter (·.isApplied)) started ⟨rfl, fun _ impossible => absurd impossible List.not_mem_nil⟩ remembers
      ⟨own _ rfl, below⟩
    refine ⟨⟨rfl, rfl, congrArg Outcome.ofBool alike.isValid_eq, ?_, ?_, Trace.keepsApart_iff.mpr ⟨?_, apart'.below⟩⟩,
      after⟩
    · exact alike.attached.mono (List.subset_append_left _ _)
    · exact List.append_subset.mpr ⟨List.subset_append_of_subset_left _ alike.attachers, List.subset_append_right _ _⟩
    · intro application same
      obtain rfl := Subject.application.inj same
      exact apart'.rules

/-- Inside any number of scopes applications are alike in a document without some rules. -/
theorem appliesAlike_applyWithin (scopes : Nat) :
    AppliesAlike ((Run.mk (options.treating .annotate) schema).applyWithin scopes)
      ((Run.mk (options.treating .ignore) schema').applyWithin scopes) := by
  have cut : AppliesAlike
      (fun path application => return (Run.mk (options.treating .annotate) schema).cutOff path application)
      (fun path application => return (Run.mk (options.treating .ignore) schema').cutOff path application) :=
    fun _ _ _ _ _ _ _ _ remembers _ => ⟨⟨rfl, rfl, rfl, .refl _ _, List.Subset.refl _, rfl⟩, remembers⟩
  induction scopes using Run.applyWithin.induct with
  | case1 => exact cut
  | case2 => exact cut.applyNode sheds
  | case3 scopes ih => exact AppliesAlike.applyNode sheds ih

end Run

namespace Schema

/-- An evaluation goes along with one in a document without the rules of unknown keywords, if no rule takes one of them
for a known one. -/
theorem Sheds.alike_trace {schema schema' : Schema} (sheds : schema.Sheds schema') (options : Options) (value : Json)
    (dialects : DialectCache)
    (apart : (schema.trace (options.treating .annotate) value dialects).1.keepsApart = true) :
    (schema'.trace (options.treating .ignore) value dialects).1.isValid =
        (schema.trace (options.treating .annotate) value dialects).1.isValid ∧
      (schema'.trace (options.treating .ignore) value dialects).1.keepsApart = true := by
  have applies : shedding.Applies (.inPlace ⟨schema.document, schema.rootIndex⟩ value none)
      (.inPlace ⟨schema'.document, schema'.rootIndex⟩ value none) :=
    ⟨⟨sheds.document, sheds.rootIndex_eq⟩, rfl, rfl, rfl, rfl⟩
  obtain ⟨alike, -⟩ := Run.appliesAlike_applyWithin sheds options.maxDepth .root .root _ _ _ _ .nil applies
    (Pairing.remembers_start dialects) apart
  exact ⟨congrArg Outcome.isValid alike.outcome_eq, alike.apart⟩

/-- Where unknown keywords are left out a schema compiles if and only if it compiles where they attach their values. The
verdicts are the same, and no index is counted that is not that of an item, if no rule reads what an unknown keyword
attached or finds one in the place of a known one. -/
theorem isValid_validate_ignore (options : Options) (url : Url) (value : Json) (dialects : DialectCache) :
    let annotated := compileWith (options.treating .annotate) url value dialects
    let ignored := compileWith (options.treating .ignore) url value dialects
    ignored.1.toOption.isSome = annotated.1.toOption.isSome ∧ ignored.2 = annotated.2 ∧
      ∀ schema other, annotated.1.toOption = some schema → ignored.1.toOption = some other →
        ∀ (inst : Json) (cache : DialectCache),
          let trace := (schema.trace (options.treating .annotate) inst cache).1
          trace.keepsApart = true →
            (∀ format, (other.validate (options.treating .ignore) format inst cache).1.isValid =
              (schema.validate (options.treating .annotate) format inst cache).1.isValid) ∧
            trace.CountsInside (options.treating .annotate) ∧
            (other.trace (options.treating .ignore) inst cache).1.CountsInside (options.treating .ignore) := by
  intro annotated ignored
  obtain ⟨compiled, cached⟩ : ignored.1.toOption = annotated.1.toOption.map _ ∧ ignored.2 = annotated.2 :=
    compileDocument_ignore options options.dialect url.withoutFragment true value dialects
  refine ⟨by rw [compiled, Option.isSome_map], cached, ?_⟩
  intro schema other found found' inst cache trace apart
  rw [compiled, found] at found'
  obtain rfl := Option.some.inj found'
  obtain ⟨valid, apart'⟩ :=
    (⟨.inr rfl, rfl⟩ : schema.Sheds (schema.mapRules knownRules)).alike_trace options inst cache apart
  refine ⟨fun format => ?_, (Run.yields_evaluate _ _ _).countsInside apart, (Run.yields_evaluate _ _ _).countsInside apart'⟩
  rw [isValid_validate, isValid_validate, valid]
  rfl

/-- A note that no rule reads, beside rules that read the names of members. -/
theorem isValid_validate_ignore_note :
    let value : Json := .object [("properties", .object [("a", .bool true)]), ("unevaluatedProperties", .bool false),
      ("x-note", .array [.string "b"])]
    let inst : Json := .object [("a", .null), ("b", .null)]
    let options := Options.standard
    ∃ schema other, (compileWith (options.treating .annotate) (Draft.url "example") value []).1.toOption = some schema ∧
      (compileWith (options.treating .ignore) (Draft.url "example") value []).1.toOption = some other ∧
        (schema.trace (options.treating .annotate) inst []).1.keepsApart = true ∧
        "x-note" ∈ (schema.trace (options.treating .annotate) inst []).1.attachers.map (·.keyword) ∧
        ∀ format, (other.validate (options.treating .ignore) format inst []).1.isValid =
          (schema.validate (options.treating .annotate) format inst []).1.isValid := by
  intro value inst options
  let check (schema : Schema) : Bool :=
    (schema.trace (options.treating .annotate) inst []).1.keepsApart &&
      ((schema.trace (options.treating .annotate) inst []).1.attachers.map (·.keyword)).contains "x-note"
  have checked : (compileWith (options.treating .annotate) (Draft.url "example") value []).1.toOption.map check =
      some true := by
    decide +kernel
  obtain ⟨schema, compiled, holds⟩ := Option.map_eq_some_iff.mp checked
  obtain ⟨apart, noted⟩ := Bool.and_eq_true_iff.mp holds
  obtain ⟨both, -, same⟩ := isValid_validate_ignore options (Draft.url "example") value []
  rw [compiled] at both
  obtain ⟨other, found⟩ := Option.isSome_iff_exists.mp both
  exact ⟨schema, other, compiled, found, apart, List.contains_iff_mem.mp noted, (same schema other compiled found inst []
    apart).1⟩

/-- In a dialect that knows unevaluated members but no rules about members, an unknown keyword of such a name tells
members. In a dialect with other names for these rules an unknown keyword can stand in the place of one of them. -/
theorem unknown_keyword_affects_verdict :
    let verdict (dialect : Dialect) (value inst : Json) (unknown : UnknownKeywords) :=
      let options := { Options.standard with dialect, unknownKeywords := unknown }
      (compileWith options (Draft.url "example") value []).1.toOption.map fun schema =>
        (schema.validate options .flag inst []).1.isValid
    let dialect := Dialect.ofVocabularies (Draft.url "dialect") [(Draft.core, true), (Draft.unevaluated, true)]
    let renamed : List KeywordSpec := [{ KeywordSpec.standard .unevaluatedItems with keyword := "rest", order := -5000 },
      { KeywordSpec.standard .properties with keyword := "known" },
      { KeywordSpec.standard .additionalProperties with keyword := "additional" }]
    let inst : Json := .object [("a", .null)]
    let accepting : Json := .object [("properties", .array [.string "a"]), ("unevaluatedProperties", .bool false)]
    let rejecting : Json := .object [("additional", .bool false), ("known", .object [("a", .bool true)]),
      ("properties", .null), ("rest", .bool true)]
    [UnknownKeywords.annotate, .ignore].map (verdict (dialect [] .none) accepting inst) = [some true, some false] ∧
      [UnknownKeywords.annotate, .ignore].map (verdict (dialect renamed .none) rejecting inst) =
        [some false, some true] := by
  decide +kernel

end Schema

end JsonSchema
