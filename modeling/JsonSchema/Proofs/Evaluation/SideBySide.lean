import JsonSchema.Proofs.Evaluation.Fragments
import JsonSchema.Proofs.Evaluation.OnDemand
import Mathlib.Data.List.Forall2

/-! # Evaluations side by side

Two evaluations go together if the nodes that they apply and the resources that take part do (`Pairing`). What each one
remembers then goes together as well, and so do the targets to which references and dynamic references lead
(`Pairing.run_target`).
-/

namespace JsonSchema

/-- Which nodes and resources of one evaluation go together with which of another one. -/
structure Pairing where
  targets : Target → Target → Prop
  resources : ActiveResource → ActiveResource → Prop

namespace Pairing

variable (pairing : Pairing)

/-- Whether applications go together: those of nodes that do, to the same value in the same way. -/
structure Applies (application other : Application) : Prop where
  target : pairing.targets application.target other.target
  value_eq : other.value = application.value
  step_eq : other.step = application.step
  token_eq : other.token = application.token
  isolated_eq : other.isolated = application.isolated

/-- Whether plans go together: one is the other with what goes together with its targets. -/
structure Plans (plan other : Plan) : Prop where
  applications : List.Forall₂ pairing.Applies plan.applications other.applications
  conclude_eq : other.conclude = plan.conclude

/-- Whether the same is remembered, up to what goes together. -/
structure Remembers (memory other : Memory) : Prop where
  fragments : List.Forall₂ (fun entry entry' => entry'.1 = entry.1 ∧ Option.Rel pairing.targets entry.2 entry'.2)
    memory.fragments other.fragments
  dialects_eq : other.dialects = memory.dialects

/-- Whether steps of two evaluations lead to what goes together. -/
def Leads (step other : Evaluation (Option Target)) : Prop :=
  ∀ memory memory', pairing.Remembers memory memory' →
    Option.Rel pairing.targets (step.run memory).1 (other.run memory').1 ∧
      pairing.Remembers (step.run memory).2 (other.run memory').2

/-- Whether schemas go together: a fragment names nodes that do, or is compiled to such if it is a pointer. -/
structure Finds (run other : Run) (fragment : String) (schema found : Schema) : Prop where
  names : Option.Rel (fun node node' => pairing.targets ⟨schema.document, node⟩ ⟨found.document, node'⟩)
    (schema.nodeOfFragment? fragment .standardAndDynamic) (found.nodeOfFragment? fragment .standardAndDynamic)
  compiles : "/".isPrefixOf fragment = true →
    pairing.Leads (run.compilePointer schema fragment) (other.compilePointer found fragment)

/-- Whether nodes that go together stand in resources that do, and such resources declare dynamic anchors alike. -/
structure IsSound : Prop where
  active : ∀ target target', pairing.targets target target' → pairing.resources target.active target'.active
  dynamicAnchor? : ∀ resource resource', pairing.resources resource resource' → ∀ name,
    Option.Rel pairing.targets (resource.dynamicAnchor? name) (resource'.dynamicAnchor? name)

variable {pairing}

theorem remembers_start (dialects : DialectCache) : pairing.Remembers ⟨[], dialects⟩ ⟨[], dialects⟩ := ⟨.nil, rfl⟩

theorem leads_pure {found found' : Option Target} (rel : Option.Rel pairing.targets found found') :
    pairing.Leads (pure found) (pure found') :=
  fun _ _ remembers => ⟨rel, remembers⟩

theorem Remembers.rel_assoc? {memory memory' : Memory} (remembers : pairing.Remembers memory memory') (url : Url) :
    Option.Rel (Option.Rel pairing.targets) (assoc? url memory.fragments) (assoc? url memory'.fragments) := by
  obtain ⟨fragments, dialects⟩ := memory
  obtain ⟨fragments', dialects'⟩ := memory'
  obtain ⟨pairs, -⟩ := remembers
  dsimp only at pairs ⊢
  induction pairs with
  | nil => exact .none
  | @cons entry entry' rest rest' pair _ ih =>
    obtain ⟨key, found⟩ := entry
    obtain ⟨key', found'⟩ := entry'
    obtain ⟨rfl, rel⟩ := pair
    simp only [assoc?]
    split
    · exact .some rel
    · exact ih

theorem Remembers.remember {memory memory' : Memory} (remembers : pairing.Remembers memory memory') (url : Url)
    {found found' : Option Target} (rel : Option.Rel pairing.targets found found') :
    pairing.Remembers { memory with fragments := memory.fragments ++ [(url, found)] }
      { memory' with fragments := memory'.fragments ++ [(url, found')] } :=
  ⟨List.rel_append remembers.fragments (.cons ⟨rfl, rel⟩ .nil), remembers.dialects_eq⟩

variable {run other : Run}

/-- References lead to what goes together if the resources that they name do. -/
theorem leads_resolve {document document' : Document} {reference : Url}
    (found : Option.Rel (pairing.Finds run other reference.fragmentText)
      (run.resource? document reference.withoutFragment) (other.resource? document' reference.withoutFragment)) :
    pairing.Leads (run.resolve document reference) (other.resolve document' reference) := by
  unfold Run.resolve
  dsimp only
  generalize run.resource? document reference.withoutFragment = schema? at found ⊢
  generalize other.resource? document' reference.withoutFragment = schema?' at found ⊢
  cases found with
  | none => exact leads_pure .none
  | @some schema schema' finds =>
    obtain ⟨names, compiles⟩ := finds
    dsimp only
    generalize schema.nodeOfFragment? reference.fragmentText .standardAndDynamic = node? at names ⊢
    generalize schema'.nodeOfFragment? reference.fragmentText .standardAndDynamic = node?' at names ⊢
    cases names with
    | some pair => exact leads_pure (.some pair)
    | none =>
      dsimp only
      split
      · next pointer =>
        intro memory memory' remembers
        have known := remembers.rel_assoc? reference
        simp only [Evaluation.run_bind, Evaluation.run_get]
        generalize assoc? reference memory.fragments = known? at known ⊢
        generalize assoc? reference memory'.fragments = known?' at known ⊢
        cases known with
        | some rel => exact ⟨rel, remembers⟩
        | none =>
          obtain ⟨rel, after⟩ := compiles pointer memory memory' remembers
          exact ⟨rel, after.remember reference rel⟩
      · exact leads_pure .none

/-- In dynamic scopes that go together an anchor has targets that do. -/
theorem IsSound.dynamicTarget? (sound : pairing.IsSound) {active active' : List ActiveResource}
    (pairs : List.Forall₂ pairing.resources active active') (name : String) :
    Option.Rel pairing.targets (JsonSchema.dynamicTarget? active name) (JsonSchema.dynamicTarget? active' name) :=
  rel_findSome? (List.rel_reverse pairs) fun resource resource' pair => sound.dynamicAnchor? resource resource' pair name

/-- Rules lead to what goes together if their references do. -/
theorem IsSound.leads_target (sound : pairing.IsSound) {document document' : Document}
    {active active' : List ActiveResource} (pairs : List.Forall₂ pairing.resources active active') (rule : Rule)
    (number : Nat → Nat)
    (resolves : ∀ url ∈ rule.reference?, pairing.Leads (run.resolve document url) (other.resolve document' url)) :
    pairing.Leads (run.target document active rule) (other.target document' active' (rule.rename number)) := by
  cases rule with
  | ref url => exact resolves url rfl
  | dynamicRef url anchor =>
    intro memory memory' remembers
    obtain ⟨rel, after⟩ := resolves url rfl memory memory' remembers
    simp only [Rule.rename, Run.target, Evaluation.run_bind, Evaluation.run_pure]
    refine ⟨rel_map rel fun found found' pair => ?_, after⟩
    cases anchor with
    | none => exact pair
    | some name =>
      have declares := isSome_of_rel (sound.dynamicAnchor? _ _ (sound.active _ _ pair) name)
      dsimp only
      rw [← declares]
      split
      · exact rel_getD (sound.dynamicTarget? pairs name) pair
      · exact pair
  | _ => exact leads_pure .none

/-- Plans of references go together if their targets do. -/
theorem plans_of_isReference {rule : Rule} (refers : rule.isReference = true) {target target' : Option Target}
    (rel : Option.Rel pairing.targets target target') (facts facts' : Facts) (number : Nat → Nat) (value : Json) :
    pairing.Plans (rule.plan facts target value) ((rule.rename number).plan facts' target' value) := by
  cases rule with
  | ref url | dynamicRef url anchor =>
    cases rel with
    | none => exact ⟨.nil, rfl⟩
    | some pair => exact ⟨.cons ⟨pair, rfl, rfl, rfl, rfl⟩ .nil, rfl⟩
  | _ => cases refers

/-- A plan goes together with the plan of the same rule in another document. -/
theorem plans_moveTo {rule : Rule} (plain : rule.isReference = false) {facts : Facts} {target : Option Target}
    {value : Json} {document : Document} {number : Nat → Nat}
    (pairs : ∀ schema ∈ rule.subschemas, pairing.targets ⟨facts.document, schema⟩ ⟨document, number schema⟩) :
    pairing.Plans (rule.plan facts target value) ((rule.plan facts target value).moveTo document number) := by
  refine ⟨List.forall₂_map_right_iff.mpr (List.forall₂_same.mpr fun application planned => ?_), rfl⟩
  obtain ⟨own, subschema⟩ := Rule.mem_subschemas_of_mem_plan plain planned
  obtain ⟨⟨document', node⟩, inner, step, token, isolated⟩ := application
  obtain rfl : document' = facts.document := own
  exact ⟨pairs node subschema, rfl, rfl, rfl, rfl⟩

end Pairing

end JsonSchema
