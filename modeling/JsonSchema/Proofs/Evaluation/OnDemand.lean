import JsonSchema.Proofs.Compile.Excerpt
import JsonSchema.Proofs.Evaluation.DynamicScope
import JsonSchema.Proofs.Evaluation.Renumbering
import Mathlib.Data.List.Forall2

/-! # Schemas compiled on demand

A pointer to a location that was not compiled with its document is compiled on demand, as a document of its own.
Wherever the resource around takes part in an evaluation, this excerpt is applied as the schema that was compiled in
place would be: the same verdict, the same values attached and the same memory (`Schema.agree_compilePointer`). Rules of
the excerpt lead to what stands for the targets of the rules in place, and this carries over to rules, nodes and whole
applications.

Two things can go wrong, and the theorem rules them out. A schema that declares an id is not registered under it when it
is compiled on demand. And what is compiled on demand has the base from which the pointer starts, even if the pointer
leads into a resource further inside (`Schema.compilePointer_takes_outer_base`).
-/

namespace JsonSchema

/-! ## Optional values that go together -/

theorem rel_refl {α : Type _} {related : α → α → Prop} (refl : ∀ a, related a a) (found : Option α) :
    Option.Rel related found found := by
  cases found with
  | none => exact .none
  | some found => exact .some (refl found)

theorem rel_findSome? {α β γ δ : Type _} {related : α → β → Prop} {found : γ → δ → Prop} {search : α → Option γ}
    {other : β → Option δ} {list : List α} {others : List β} (pairs : List.Forall₂ related list others)
    (each : ∀ a b, related a b → Option.Rel found (search a) (other b)) :
    Option.Rel found (list.findSome? search) (others.findSome? other) := by
  induction pairs with
  | nil => exact .none
  | @cons a b _ _ first _ ih =>
    have rel := each a b first
    rw [List.findSome?_cons, List.findSome?_cons]
    cases hereA : search a <;> cases hereB : other b <;> rw [hereA, hereB] at rel
    · exact ih
    · cases rel
    · cases rel
    · exact rel

theorem rel_imp {α β : Type _} {related weaker : α → β → Prop} {found : Option α} {other : Option β}
    (rel : Option.Rel related found other) (each : ∀ a b, related a b → weaker a b) :
    Option.Rel weaker found other := by
  cases rel with
  | none => exact .none
  | some pair => exact .some (each _ _ pair)

theorem rel_map {α β γ δ : Type _} {related : α → β → Prop} {target : γ → δ → Prop} {found : Option α}
    {other : Option β}
    (rel : Option.Rel related found other) {make : α → γ} {remake : β → δ}
    (each : ∀ a b, related a b → target (make a) (remake b)) :
    Option.Rel target (found.map make) (other.map remake) := by
  cases rel with
  | none => exact .none
  | some pair => exact .some (each _ _ pair)

theorem rel_getD {α β : Type _} {related : α → β → Prop} {found : Option α} {other : Option β}
    (rel : Option.Rel related found other) {a : α} {b : β} (default : related a b) :
    related (found.getD a) (other.getD b) := by
  cases rel with
  | none => exact default
  | some pair => exact pair

theorem isSome_of_rel {α β : Type _} {related : α → β → Prop} {found : Option α} {other : Option β}
    (rel : Option.Rel related found other) : found.isSome = other.isSome := by
  cases rel <;> rfl

/-! ## What stands for what -/

section

variable (document excerpt : Document) (offsets : Offsets)

/-- Whether a target is the node that a document holds for that of its excerpt, or the same. -/
inductive Target.StandsFor : Target → Target → Prop
  | same (target : Target) : StandsFor target target
  | moved {index : Nat} (inside : index < excerpt.nodes.size) :
      StandsFor ⟨document, index + offsets.node⟩ ⟨excerpt, index⟩

/-- Whether a resource is the one that a document holds for that of its excerpt, or the same. -/
inductive ActiveResource.StandsFor : ActiveResource → ActiveResource → Prop
  | same (resource : ActiveResource) : StandsFor resource resource
  | moved {index : Nat} (inside : index < excerpt.resources.size) :
      StandsFor ⟨document, offsets.resourceOf index⟩ ⟨excerpt, index⟩

/-- Whether dynamic scopes differ in what stands for the resources of an excerpt, and the resource around takes part
further out. -/
def ScopesAlike (active apart : List ActiveResource) : Prop :=
  ∃ inner innerApart outer, active = inner ++ outer ∧ apart = innerApart ++ outer ∧
    List.Forall₂ (ActiveResource.StandsFor document excerpt offsets) inner innerApart ∧
      ⟨document, offsets.around⟩ ∈ outer

/-- Whether an application is that of what stands for the target of another one. -/
structure Application.StandsFor (application apart : Application) : Prop where
  target : application.target.StandsFor document excerpt offsets apart.target
  value_eq : application.value = apart.value
  step_eq : application.step = apart.step
  token_eq : application.token = apart.token
  isolated_eq : application.isolated = apart.isolated

/-- Whether a plan is another one with what stands for its targets. -/
structure Plan.StandsFor (plan apart : Plan) : Prop where
  applications : List.Forall₂ (Application.StandsFor document excerpt offsets) plan.applications apart.applications
  conclude_eq : plan.conclude = apart.conclude

/-- Whether a rule does in a document what another one does in another document, up to what stands for what. -/
structure RuleAlike (run : Run) (own : Document) (node : Node) (rule : Rule) (ownApart : Document) (nodeApart : Node)
    (ruleApart : Rule) : Prop where
  keyword_eq : rule.keyword = ruleApart.keyword
  isApplied_eq : rule.isApplied = ruleApart.isApplied
  target : ∀ active activeApart, ScopesAlike document excerpt offsets active activeApart → ∀ memory,
    Option.Rel (Target.StandsFor document excerpt offsets) ((run.target own active rule).run memory).1
        ((run.target ownApart activeApart ruleApart).run memory).1 ∧
      ((run.target own active rule).run memory).2 = ((run.target ownApart activeApart ruleApart).run memory).2
  plan : ∀ siblings attached target targetApart value,
    Option.Rel (Target.StandsFor document excerpt offsets) target targetApart →
      (rule.plan ⟨run.options, own, node, siblings, attached⟩ target value).StandsFor document excerpt offsets
        (ruleApart.plan ⟨run.options, ownApart, nodeApart, siblings, attached⟩ targetApart value)

/-- Whether applications yield the same up to their traces. -/
structure Agree (found apart : Applied × Memory) : Prop where
  outcome_eq : found.1.outcome = apart.1.outcome
  attached_eq : found.1.attached = apart.1.attached
  memory_eq : found.2 = apart.2

/-- Whether rules have left the same up to their traces. -/
structure ProgressAlike (found apart : Progress × Memory) : Prop where
  siblings_eq : found.1.siblings = apart.1.siblings
  attached_eq : found.1.attached = apart.1.attached
  memory_eq : found.2 = apart.2

/-- Whether what stands for what is applied alike. -/
def AppliesAlike (apply : Run.Applier) : Prop :=
  ∀ (path pathApart : Path) (application apart : Application) (memory : Memory),
    ScopesAlike document excerpt offsets path.active pathApart.active →
      application.StandsFor document excerpt offsets apart →
        Agree ((apply path application).run memory) ((apply pathApart apart).run memory)

end

theorem Application.StandsFor.refl {document excerpt : Document} {offsets : Offsets} (application : Application) :
    application.StandsFor document excerpt offsets application := ⟨.same _, rfl, rfl, rfl, rfl⟩

/-- The plan of a reference tells nothing but where it leads. -/
theorem Rule.plan_standsFor_of_isReference {document excerpt : Document} {offsets : Offsets} {rule : Rule}
    (refers : rule.isReference = true) {target targetApart : Option Target}
    (rel : Option.Rel (Target.StandsFor document excerpt offsets) target targetApart) (facts factsApart : Facts)
    (value : Json) : (rule.plan facts target value).StandsFor document excerpt offsets
      (rule.plan factsApart targetApart value) := by
  cases rule with
  | ref url | dynamicRef url anchor =>
    cases rel with
    | none => exact ⟨.nil, rfl⟩
    | some standsFor => exact ⟨.cons ⟨standsFor, rfl, rfl, rfl, rfl⟩ .nil, rfl⟩
  | _ => cases refers

theorem Rule.plan_eq_of_not_isReference {rule : Rule} (plain : rule.isReference = false) (facts : Facts)
    (target other : Option Target) (value : Json) : rule.plan facts target value = rule.plan facts other value := by
  cases rule with
  | ref url | dynamicRef url anchor => cases plain
  | _ => cases value <;> rfl

/-- A plain name as a fragment is that of an anchor. -/
theorem Resource.mem_anchors_of_nodeOfFragment? {resource : Resource} {fragment : String} {kinds : FragmentKinds}
    {node : Nat} (plain : isAnchorName fragment = true) (names : resource.nodeOfFragment? fragment kinds = some node) :
    ∃ entry ∈ resource.anchors ++ resource.dynamicAnchors, entry.2 = node := by
  have some : fragment.isEmpty = false := by
    refine Bool.eq_false_iff.mpr fun empty => ?_
    rw [String.isEmpty_iff] at empty
    rw [empty] at plain
    exact absurd plain (by decide)
  unfold nodeOfFragment? at names
  rw [some, Run.not_isPrefixOf_of_isAnchorName plain] at names
  replace names : ((if kinds.allowsStandard then assoc? fragment resource.anchors else none) <|>
      (if kinds.allowsDynamic then assoc? fragment resource.dynamicAnchors else none)) = Option.some node := names
  rcases Option.or_eq_some_iff.mp (Option.orElse_eq_or.symm.trans names) with found | ⟨-, found⟩
  · split at found
    · exact ⟨_, List.mem_append_left _ (mem_of_assoc? found), rfl⟩
    · cases found
  · split at found
    · exact ⟨_, List.mem_append_right _ (mem_of_assoc? found), rfl⟩
    · cases found

namespace Document.Excerpts

variable {document excerpt : Document} {offsets : Offsets} (excerpts : document.Excerpts offsets excerpt)
include excerpts

/-- An inner resource declares the dynamic anchors of the one in the excerpt. -/
theorem dynamicAnchor?_inner {index : Nat} (inside : index + 1 < excerpt.resources.size) (name : String) :
    Option.Rel (Target.StandsFor document excerpt offsets)
      (ActiveResource.dynamicAnchor? ⟨document, index + offsets.resource⟩ name)
      (ActiveResource.dynamicAnchor? ⟨excerpt, index + 1⟩ name) := by
  have found := Array.getElem?_eq_getElem inside
  obtain ⟨resource, foundPlace, moved⟩ := excerpts.resources index _ found
  simp only [ActiveResource.dynamicAnchor?, found, foundPlace, Option.bind_some, moved.dynamicAnchors_eq,
    assoc?_moveEntries]
  cases declared : assoc? name excerpt.resources[index + 1].dynamicAnchors with
  | none => exact .none
  | some node => exact .some (.moved (moved.dynamicAnchors_lt _ (mem_of_assoc? declared)))

/-- The resource of the whole excerpt declares no dynamic anchor that the resource around does not declare. -/
theorem dynamicAnchor?_around {name : String}
    (absent : ActiveResource.dynamicAnchor? ⟨document, offsets.around⟩ name = none) :
    ActiveResource.dynamicAnchor? ⟨excerpt, 0⟩ name = none := by
  obtain ⟨outer, first, foundOuter, foundFirst, standsIn⟩ := excerpts.around
  simp only [ActiveResource.dynamicAnchor?, foundOuter, foundFirst, Option.bind_some,
    Option.map_eq_none_iff] at absent ⊢
  refine Option.not_isSome_iff_eq_none.mp fun declared => ?_
  have present := standsIn.dynamic name declared
  rw [absent] at present
  cases present

/-- In dynamic scopes that go together an anchor has targets that go together. -/
theorem dynamicTarget?_alike {active apart : List ActiveResource}
    (alike : ScopesAlike document excerpt offsets active apart)
    (name : String) :
    Option.Rel (Target.StandsFor document excerpt offsets) (dynamicTarget? active name)
      (dynamicTarget? apart name) := by
  obtain ⟨inner, innerApart, outer, rfl, rfl, pairs, around⟩ := alike
  simp only [dynamicTarget?, List.reverse_append, List.findSome?_append]
  cases further : outer.reverse.findSome? (·.dynamicAnchor? name) with
  | some found => exact .some (.same found)
  | none =>
    have absent := List.findSome?_eq_none_iff.mp further _ (List.mem_reverse.mpr around)
    simp only [Option.none_or]
    refine rel_findSome? (List.rel_reverse pairs) fun resource other standsFor => ?_
    cases standsFor with
    | same resource => exact rel_refl .same _
    | @moved index inside =>
      cases index with
      | zero =>
        rw [Offsets.resourceOf, absent, excerpts.dynamicAnchor?_around absent]
        exact .none
      | succ index => exact excerpts.dynamicAnchor?_inner inside name

/-! ## Lookups -/

variable {run : Run} (root : run.root.document = document)
include root

/-- The excerpt finds its own inner resources, which the document has too, and otherwise what the document finds. -/
theorem resource?_alike (id : Url) :
    run.resource? document id = run.resource? excerpt id ∨
      ∃ index, index + 1 < excerpt.resources.size ∧
        run.resource? document id = some ⟨document, index + offsets.resource⟩ ∧
        run.resource? excerpt id = some ⟨excerpt, index + 1⟩ := by
  unfold Run.resource?
  rw [root]
  cases own : assoc? id excerpt.ids with
  | none =>
    refine .inl ?_
    rw [show excerpt.find? id = none by rw [Document.find?, own]; rfl]
    cases document.find? id <;> rfl
  | some number =>
    obtain ⟨index, rfl, inside, found⟩ := excerpts.ids id number own
    refine .inr ⟨index, inside, ?_, ?_⟩
    · rw [Document.find?, found]
      rfl
    · rw [Document.find?, own]
      rfl

omit root in
/-- A pointer into an inner resource is compiled to the same. -/
theorem compilePointer_inner {index : Nat} (inside : index + 1 < excerpt.resources.size) (fragment : String) :
    run.compilePointer ⟨document, index + offsets.resource⟩ fragment =
      run.compilePointer ⟨excerpt, index + 1⟩ fragment := by
  have found := Array.getElem?_eq_getElem inside
  obtain ⟨resource, foundPlace, moved⟩ := excerpts.resources index _ found
  have info : Schema.info? ⟨document, index + offsets.resource⟩ = some resource := foundPlace
  have infoApart : Schema.info? ⟨excerpt, index + 1⟩ = some excerpt.resources[index + 1] := found
  have value : Schema.value ⟨document, index + offsets.resource⟩ = Schema.value ⟨excerpt, index + 1⟩ := by
    simp only [Schema.value, Schema.root, Schema.rootIndex, info, infoApart, Option.map_some, Option.getD_some,
      moved.node_eq]
    exact (excerpts.nodes _ moved.node_lt).value_eq
  unfold Run.compilePointer
  rw [info, infoApart, value]
  cases Pointer.parse fragment with
  | error cause => rfl
  | ok pointer =>
    simp only [Schema.compileFragment, moved.id_eq, moved.dialect_eq]

/-- A reference leads to what goes together, whether the document or its excerpt refers, and what is remembered is the
same. -/
theorem run_resolve_alike (reference : Url) (memory : Memory) :
    let found := (run.resolve document reference).run memory
    let apart := (run.resolve excerpt reference).run memory
    Option.Rel (fun found apart => found.StandsFor document excerpt offsets apart ∧
        (isAnchorName reference.fragmentText = true → ∀ name,
          (found.active.dynamicAnchor? name).isSome = (apart.active.dynamicAnchor? name).isSome)) found.1 apart.1 ∧
      found.2 = apart.2 := by
  rcases excerpts.resource?_alike root reference.withoutFragment with same | ⟨index, inside, found, foundApart⟩
  · have resolves : run.resolve document reference = run.resolve excerpt reference := by
      unfold Run.resolve
      rw [same]
    rw [resolves]
    exact ⟨rel_refl (fun target => ⟨.same target, fun _ _ => rfl⟩) _, rfl⟩
  · have present := Array.getElem?_eq_getElem inside
    obtain ⟨resource, foundPlace, moved⟩ := excerpts.resources index _ present
    obtain ⟨named, least⟩ := moved.nodeOfFragment?_eq reference.fragmentText .standardAndDynamic
    have fragment :
        Schema.nodeOfFragment? ⟨document, index + offsets.resource⟩ reference.fragmentText .standardAndDynamic =
        (excerpt.resources[index + 1].nodeOfFragment? reference.fragmentText .standardAndDynamic).map
          (· + offsets.node) := by
      rw [Schema.nodeOfFragment?, Schema.info?, foundPlace, Option.bind_some, named]
    have fragmentApart : Schema.nodeOfFragment? ⟨excerpt, index + 1⟩ reference.fragmentText .standardAndDynamic =
        excerpt.resources[index + 1].nodeOfFragment? reference.fragmentText .standardAndDynamic := by
      rw [Schema.nodeOfFragment?, Schema.info?, present, Option.bind_some]
    unfold Run.resolve
    rw [found, foundApart]
    dsimp only
    rw [fragment, fragmentApart, excerpts.compilePointer_inner inside]
    cases names : excerpt.resources[index + 1].nodeOfFragment? reference.fragmentText .standardAndDynamic with
    | some node =>
      refine ⟨.some ⟨.moved (least node names), fun plain name => ?_⟩, rfl⟩
      obtain ⟨entry, member, rfl⟩ := Resource.mem_anchors_of_nodeOfFragment? plain names
      have own := excerpts.anchored _ _ present entry member
      have inPlace := (excerpts.nodes _ (least _ names)).resource_eq
      rw [own] at inPlace
      simp only [Target.active, own, inPlace, Offsets.resourceOf]
      exact isSome_of_rel (excerpts.dynamicAnchor?_inner inside name)
    | none => exact ⟨rel_refl (fun target => ⟨.same target, fun _ _ => rfl⟩) _, rfl⟩

omit root in
/-- A dynamic reference is taken from targets that go together to targets that go together. -/
theorem standsFor_dynamic {active activeApart : List ActiveResource}
    (alike : ScopesAlike document excerpt offsets active activeApart) {found apart : Target}
    (standsFor : found.StandsFor document excerpt offsets apart) (name : String)
    (declares : (found.active.dynamicAnchor? name).isSome = (apart.active.dynamicAnchor? name).isSome) :
    Target.StandsFor document excerpt offsets
      (if (found.active.dynamicAnchor? name).isSome then (dynamicTarget? active name).getD found else found)
      (if (apart.active.dynamicAnchor? name).isSome then (dynamicTarget? activeApart name).getD apart else apart) := by
  rw [declares]
  split
  · exact rel_getD (excerpts.dynamicTarget?_alike alike name) standsFor
  · exact standsFor

omit root in
/-- A rule leads to what goes together in dynamic scopes that go together. -/
theorem run_target_same {active activeApart : List ActiveResource}
    (alike : ScopesAlike document excerpt offsets active activeApart) (other : Document) (rule : Rule)
    (memory : Memory) :
    let found := (run.target other active rule).run memory
    let apart := (run.target other activeApart rule).run memory
    Option.Rel (Target.StandsFor document excerpt offsets) found.1 apart.1 ∧ found.2 = apart.2 := by
  cases rule with
  | ref url => exact ⟨rel_refl .same _, rfl⟩
  | dynamicRef url anchor =>
    simp only [Run.target, Evaluation.run_bind, Evaluation.run_pure]
    refine ⟨?_, trivial⟩
    cases ((run.resolve other url).run memory).1 with
    | none => exact .none
    | some lexical =>
      cases anchor with
      | none => exact .some (.same lexical)
      | some name => exact .some (excerpts.standsFor_dynamic alike (.same lexical) name rfl)
  | _ => exact ⟨.none, rfl⟩

/-- A rule of the excerpt leads to what goes together with where the rule of the document leads. -/
theorem run_target_moved {active activeApart : List ActiveResource}
    (alike : ScopesAlike document excerpt offsets active activeApart) {rule : Rule} (named : rule.IsNamed)
    (number : Nat → Nat) (memory : Memory) :
    let found := (run.target document active (rule.rename number)).run memory
    let apart := (run.target excerpt activeApart rule).run memory
    Option.Rel (Target.StandsFor document excerpt offsets) found.1 apart.1 ∧ found.2 = apart.2 := by
  cases rule with
  | ref url =>
    obtain ⟨rel, same⟩ := excerpts.run_resolve_alike root url memory
    exact ⟨rel_imp rel fun _ _ standsFor => standsFor.1, same⟩
  | dynamicRef url anchor =>
    obtain ⟨rel, same⟩ := excerpts.run_resolve_alike root url memory
    simp only [Rule.rename, Run.target, Evaluation.run_bind, Evaluation.run_pure]
    refine ⟨rel_map rel fun found apart standsFor => ?_, same⟩
    cases anchor with
    | none => exact standsFor.1
    | some name =>
      obtain ⟨rfl, plain⟩ := named
      exact excerpts.standsFor_dynamic alike standsFor.1 _ (standsFor.2 plain _)
  | _ => exact ⟨.none, rfl⟩

omit root in
/-- A rule of any document does the same in dynamic scopes that go together. -/
theorem ruleAlike_same (run : Run) (other : Document) (node : Node) (rule : Rule) :
    RuleAlike document excerpt offsets run other node rule other node rule where
  keyword_eq := rfl
  isApplied_eq := rfl
  target _ _ alike memory := excerpts.run_target_same alike other rule memory
  plan siblings attached target targetApart value rel := by
    cases refers : rule.isReference with
    | true => exact Rule.plan_standsFor_of_isReference refers rel _ _ value
    | false =>
      rw [Rule.plan_eq_of_not_isReference refers _ target targetApart]
      exact ⟨List.forall₂_same.mpr fun application _ => .refl application, rfl⟩

/-- A rule of the document does what the rule of its excerpt does. -/
theorem ruleAlike_moved {index : Nat} (inside : index < excerpt.nodes.size) {rule : Rule}
    (member : rule ∈ (excerpt.node index).rules) :
    RuleAlike document excerpt offsets run document (document.node (index + offsets.node))
      (rule.rename (· + offsets.node)) excerpt (excerpt.node index) rule where
  keyword_eq := rule.keyword_rename _
  isApplied_eq := by simp only [Rule.isApplied, Rule.category, Rule.standard?_rename]
  target _ _ alike memory := excerpts.run_target_moved root alike (excerpts.named index rule member) _ memory
  plan siblings attached target targetApart value rel := by
    have moved := excerpts.nodes index inside
    have below := moved.below rule member
    cases refers : rule.isReference with
    | true =>
      have same : rule.rename (· + offsets.node) = rule := by
        cases rule <;> first | rfl | cases refers
      rw [same]
      exact Rule.plan_standsFor_of_isReference refers rel _ _ value
    | false =>
      have renumbers : Facts.Renumbers (· + offsets.node) ⟨run.options, excerpt, excerpt.node index, siblings, attached⟩
          ⟨run.options, document, document.node (index + offsets.node), siblings, attached⟩ :=
        ⟨rfl, moved.rules_eq, rfl, rfl⟩
      have values (schema : Nat) (subschema : schema ∈ rule.subschemas) :
          (document.node (schema + offsets.node)).value = (excerpt.node schema).value :=
        (excerpts.nodes schema (below schema subschema)).value_eq
      rw [Rule.plan_rename renumbers refers values targetApart target]
      refine ⟨List.forall₂_map_left_iff.mpr (List.forall₂_same.mpr fun application planned => ?_), rfl⟩
      obtain ⟨own, subschema⟩ := Rule.mem_subschemas_of_mem_plan refers planned
      obtain ⟨⟨other, node⟩, inner, step, token, isolated⟩ := application
      obtain rfl : other = excerpt := own
      exact ⟨.moved (below _ subschema), rfl, rfl, rfl, rfl⟩

end Document.Excerpts

/-! ## Applications side by side -/

namespace AppliesAlike

variable {document excerpt : Document} {offsets : Offsets} {run : Run} {apply : Run.Applier}
  (applies : AppliesAlike document excerpt offsets apply)
include applies

theorem run_applyAll {path pathApart : Path} (alike : ScopesAlike document excerpt offsets path.active pathApart.active)
    {applications aparts : List Application}
    (pairs : List.Forall₂ (Application.StandsFor document excerpt offsets) applications aparts) (memory : Memory) :
    let found := (Run.applyAll apply path applications).run memory
    let apart := (Run.applyAll apply pathApart aparts).run memory
    found.1.map (·.2.outcome) = apart.1.map (·.2.outcome) ∧
      (found.1.flatMap fun (application, applied) => applied.contribution application) =
        (apart.1.flatMap fun (application, applied) => applied.contribution application) ∧
      found.2 = apart.2 := by
  induction pairs generalizing memory with
  | nil => exact ⟨rfl, rfl, rfl⟩
  | @cons application apart _ _ standsFor _ ih =>
    have agree := applies path pathApart application apart memory alike standsFor
    obtain ⟨outcomes, contributions, same⟩ := ih ((apply pathApart apart).run memory).2
    have contribution : ((apply path application).run memory).1.contribution application =
        ((apply pathApart apart).run memory).1.contribution apart := by
      rw [Applied.contribution, Applied.contribution, agree.outcome_eq, agree.attached_eq, Application.contributes,
        Application.contributes, standsFor.step_eq, standsFor.isolated_eq]
    rw [← agree.memory_eq] at outcomes contributions same
    simp only [Run.applyAll, Evaluation.run_bind, Evaluation.run_pure, List.map_cons, List.flatMap_cons,
      agree.outcome_eq,
      contribution]
    rw [← agree.memory_eq]
    exact ⟨congrArg _ outcomes, congrArg _ contributions, same⟩

/-- Rules that do the same leave the same. -/
theorem run_applyRule {active activeApart : List ActiveResource}
    (alike : ScopesAlike document excerpt offsets active activeApart) {own ownApart : Document} {node nodeApart : Node}
    {rule ruleApart : Rule} (same : RuleAlike document excerpt offsets run own node rule ownApart nodeApart ruleApart)
    (scope scopeApart : Scope) (value : Json) {progress progressApart : Progress} {memory memoryApart : Memory}
    (progresses : ProgressAlike (progress, memory) (progressApart, memoryApart)) :
    ProgressAlike ((run.applyRule apply active own node scope value progress rule).run memory)
      ((run.applyRule apply activeApart ownApart nodeApart scopeApart value progressApart ruleApart).run
        memoryApart) := by
  obtain ⟨siblings, attached, traces⟩ := progress
  obtain ⟨siblingsApart, attachedApart, tracesApart⟩ := progressApart
  obtain ⟨siblingsEq, attachedEq, memoryEq⟩ := progresses
  dsimp only at siblingsEq attachedEq memoryEq
  subst siblingsEq attachedEq memoryEq
  obtain ⟨target, remembered⟩ := same.target active activeApart alike memory
  obtain ⟨applications, concludes⟩ := same.plan siblings attached _ _ value target
  have below : ScopesAlike document excerpt offsets (Path.mk (some (scope.keyword rule.keyword)) active).active
    (Path.mk (some (scopeApart.keyword ruleApart.keyword)) activeApart).active := alike
  obtain ⟨outcomes, contributed, kept⟩ :=
    applies.run_applyAll below applications ((run.target own active rule).run memory).2
  rw [remembered] at kept outcomes contributed
  have performed (step stepApart : Step) (keyword : step.rule.keyword = stepApart.rule.keyword)
      (outcome : step.outcome = stepApart.outcome) (contributed : step.contributed = stepApart.contributed)
      {memory memoryApart : Memory} (remembered : memory = memoryApart) :
      ProgressAlike (Progress.perform ⟨siblings, attached, traces⟩ scope step, memory)
        (Progress.perform ⟨siblings, attached, tracesApart⟩ scopeApart stepApart, memoryApart) := by
    simp only [Progress.perform, Progress.record, Step.outcome_trace]
    exact ⟨by rw [keyword, outcome], by rw [contributed, keyword, outcome], remembered⟩
  rw [Run.run_applyRule_eq, Run.run_applyRule_eq]
  dsimp only
  rw [remembered]
  refine performed _ _ same.keyword_eq ?_ ?_ kept
  · exact (congrFun concludes _).trans (congrArg _ outcomes)
  · exact contributed

/-- Rules that do the same, one after the other, leave the same. -/
theorem run_applyRules {active activeApart : List ActiveResource}
    (alike : ScopesAlike document excerpt offsets active activeApart) {own ownApart : Document} {node nodeApart : Node}
    {rules rulesApart : List Rule} (pairs : List.Forall₂ (fun rule ruleApart =>
      RuleAlike document excerpt offsets run own node rule ownApart nodeApart ruleApart) rules rulesApart)
    (scope scopeApart : Scope) (value : Json) {progress progressApart : Progress} {memory memoryApart : Memory}
    (progresses : ProgressAlike (progress, memory) (progressApart, memoryApart)) :
    ProgressAlike ((run.applyRules apply active own node scope value progress rules).run memory)
      ((run.applyRules apply activeApart ownApart nodeApart scopeApart value progressApart rulesApart).run
        memoryApart) := by
  induction pairs generalizing progress progressApart memory memoryApart with
  | nil => exact progresses
  | cons same _ ih => exact ih (applies.run_applyRule alike same scope scopeApart value progresses)

end AppliesAlike

namespace Document.Excerpts

variable {document excerpt : Document} {offsets : Offsets} (excerpts : document.Excerpts offsets excerpt) {run : Run}
  (root : run.root.document = document)
include excerpts root

/-- What stands for what has rules that do the same. -/
theorem rulesAlike {application apart : Application}
    (standsFor : application.StandsFor document excerpt offsets apart) :
    (∃ accepts, application.node.shape = .boolean accepts ∧ apart.node.shape = .boolean accepts) ∨
      ∃ rules rulesApart, application.node.shape = .object rules ∧ apart.node.shape = .object rulesApart ∧
        List.Forall₂ (fun rule ruleApart => RuleAlike document excerpt offsets run application.target.document
          application.node rule apart.target.document apart.node ruleApart) rules rulesApart := by
  obtain ⟨target, value, step, token, isolated⟩ := application
  obtain ⟨targetApart, valueApart, stepApart, tokenApart, isolatedApart⟩ := apart
  cases standsFor.target with
  | same target =>
    simp only [Application.node]
    cases shape : (target.document.node target.node).shape with
    | boolean accepts => exact .inl ⟨accepts, rfl, rfl⟩
    | object rules =>
      exact .inr ⟨rules, rules, rfl, rfl, List.forall₂_same.mpr fun rule _ => excerpts.ruleAlike_same run _ _ rule⟩
  | @moved index inside =>
    have moved := (excerpts.nodes index inside).shape_eq
    simp only [Application.node]
    cases shape : (excerpt.node index).shape with
    | boolean accepts =>
      rw [shape] at moved
      exact .inl ⟨accepts, moved, rfl⟩
    | object rules =>
      rw [shape] at moved
      refine .inr ⟨_, rules, moved, rfl, List.forall₂_map_left_iff.mpr (List.forall₂_same.mpr fun rule member => ?_)⟩
      exact excerpts.ruleAlike_moved root inside (Node.rules_of_shape shape ▸ member)

omit root in
theorem scopesAlike_cons {active activeApart : List ActiveResource}
    (alike : ScopesAlike document excerpt offsets active activeApart) {target targetApart : Target}
    (standsFor : target.StandsFor document excerpt offsets targetApart) :
    ScopesAlike document excerpt offsets (target.active :: active) (targetApart.active :: activeApart) := by
  obtain ⟨inner, innerApart, outer, rfl, rfl, pairs, around⟩ := alike
  refine ⟨target.active :: inner, targetApart.active :: innerApart, outer, rfl, rfl, .cons ?_ pairs, around⟩
  cases standsFor with
  | same target => exact .same _
  | @moved index inside =>
    have moved := excerpts.nodes index inside
    rw [Target.active, Target.active, moved.resource_eq]
    exact .moved moved.inside

/-- What stands for what is applied alike, if it is further down. -/
theorem appliesAlike_applyNode {apply : Run.Applier} (applies : AppliesAlike document excerpt offsets apply) :
    AppliesAlike document excerpt offsets (run.applyNode apply) := by
  intro path pathApart application apart memory alike standsFor
  rcases excerpts.rulesAlike root standsFor with
    ⟨accepts, shape, shapeApart⟩ | ⟨rules, rulesApart, shape, shapeApart, pairs⟩
  · simp only [Run.applyNode, shape, shapeApart, Evaluation.run_pure]
    exact ⟨rfl, rfl, rfl⟩
  · have applied : List.Forall₂ (fun rule ruleApart => RuleAlike document excerpt offsets run
        application.target.document application.node rule apart.target.document apart.node ruleApart) (rules.filter (·.isApplied))
        (rulesApart.filter (·.isApplied)) :=
      List.rel_filter (fun _ _ same => Bool.eq_iff_iff.mp same.isApplied_eq) pairs
    have started : ProgressAlike (.start, memory) (.start, memory) := ⟨rfl, rfl, rfl⟩
    have progresses := applies.run_applyRules (excerpts.scopesAlike_cons alike standsFor.target) applied
      (path.scope run application) (pathApart.scope run apart) apart.value started
    simp only [Run.applyNode, shape, shapeApart, Evaluation.run_bind, Evaluation.run_pure, standsFor.value_eq]
    refine ⟨?_, progresses.attached_eq, progresses.memory_eq⟩
    simp only [Applied.outcome, Trace.outcome, Progress.isValid, progresses.siblings_eq]

theorem appliesAlike_applyWithin (scopes : Nat) : AppliesAlike document excerpt offsets (run.applyWithin scopes) := by
  induction scopes using Run.applyWithin.induct with
  | case1 => exact fun path pathApart application apart memory _ _ => ⟨rfl, rfl, rfl⟩
  | case2 =>
    exact excerpts.appliesAlike_applyNode root fun path pathApart application apart memory _ _ => ⟨rfl, rfl, rfl⟩
  | case3 scopes ih => exact excerpts.appliesAlike_applyNode root ih

/-- Where the resource around takes part, the whole excerpt is applied as the node that it was made for. -/
theorem agree_applyWithin (some : 0 < excerpt.nodes.size) {path : Path}
    (around : ⟨document, offsets.around⟩ ∈ path.active) (scopes : Nat) (value : Json) (step token : Option String)
    (isolated : Bool) (memory : Memory) :
    Agree ((run.applyWithin scopes path ⟨⟨document, offsets.node⟩, value, step, token, isolated⟩).run memory)
      ((run.applyWithin scopes path ⟨⟨excerpt, 0⟩, value, step, token, isolated⟩).run memory) := by
  have moved := @Target.StandsFor.moved document excerpt offsets 0 some
  rw [Nat.zero_add] at moved
  exact excerpts.appliesAlike_applyWithin root scopes path path _ _ memory ⟨[], [], path.active, rfl, rfl, .nil, around⟩
    ⟨moved, rfl, rfl, rfl, rfl⟩

end Document.Excerpts

namespace Schema

variable {options : Options}

/-- A pointer is compiled on demand to what the value that it finds is compiled to apart. -/
theorem run_compilePointer {run : Run} {source : Schema} {resource : Resource} {fragment : String} {pointer : Pointer}
    {value : Json} (info : source.info? = some resource) (parsed : Pointer.parse fragment = .ok pointer)
    (found : pointer.resolve? source.value = some value) (memory : Memory) :
    ((run.compilePointer source fragment).run memory).1 =
      ((compileFragment run.options resource value memory.dialects).1.toOption).map fun found =>
        ⟨found.document, found.rootIndex⟩ := by
  unfold Run.compilePointer
  rw [parsed, info]
  dsimp only
  rw [found]
  rfl

end Schema

end JsonSchema
