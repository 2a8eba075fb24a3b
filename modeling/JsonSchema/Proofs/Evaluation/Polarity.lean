import JsonSchema.Proofs.Evaluation.UnevaluatedItems
import JsonSchema.Proofs.Evaluation.UnevaluatedProperties
import Mathlib.Data.List.Forall2

/-! # Polarity

A schema object can come to be valid because a sub-schema of it is valid, because one is not, or either way, as its
rules have it (`Node.bearings`). Of two results, the first one entails the second one if, where the first one is valid,
the second one has the same outcome and tells as many items and members (`Applied.Entails`). A step of a rule whose
sub-schemas entail each other in the ways in which they bear on the rule entails in the same sense what the rule does
(`Step.entails`).
-/

namespace JsonSchema

/-! ## How sub-schemas bear on a schema object -/

namespace Node

/-- Whether a schema object has a branch that depends on its condition. -/
def branches (node : Node) : Bool :=
  node.rules.any fun
    | .branch _ _ => true
    | _ => false

/-- Whether a schema object limits how many items its `contains` may match. -/
def limitsMatches (node : Node) : Bool :=
  node.rules.any fun
    | .assertion (.count (.max .matches) _) => true
    | _ => false

/-- In which ways the sub-schemas of a rule bear on the schema object of the rule: whether it can come to be valid
because one of them is valid (`true`) or because one of them is not (`false`). -/
def bearings (node : Node) : Rule → List Bool
  | .not _ => [false]
  | .combination .oneOf _ => [true, false]
  | .condition _ => if node.branches then [true, false] else [true]
  | .contains _ => if node.limitsMatches then [true, false] else [true]
  | _ => [true]

theorem true_mem_bearings {node : Node} {rule : Rule} (affirms : ∀ schema, rule ≠ .not schema) :
    true ∈ node.bearings rule := by
  cases rule with
  | combination kind schemas => cases kind <;> exact List.mem_cons_self
  | condition schema | contains schema =>
    rw [bearings]
    split <;> exact List.mem_cons_self
  | not schema => exact absurd rfl (affirms schema)
  | _ => exact List.mem_cons_self

end Node

/-! ## Attached values that tell as much -/

/-- Whether the second of two lists of attached values tells all items and members that the first one tells. -/
structure Covers (value : Json) (first second : List (String × Json)) : Prop where
  items : ∀ index, (∃ entry ∈ first, TellsItem value entry index) → ∃ entry ∈ second, TellsItem value entry index
  members : ∀ name, (∃ entry ∈ first, TellsMember value entry name) → ∃ entry ∈ second, TellsMember value entry name

namespace Covers

variable {value : Json} {first second third : List (String × Json)}

theorem of_subset (subset : first ⊆ second) : Covers value first second :=
  ⟨fun _ ⟨entry, member, tells⟩ => ⟨entry, subset member, tells⟩,
    fun _ ⟨entry, member, tells⟩ => ⟨entry, subset member, tells⟩⟩

theorem refl (attached : List (String × Json)) : Covers value attached attached := of_subset (List.Subset.refl _)

theorem append (one : Covers value first third) (other : Covers value second third) :
    Covers value (first ++ second) third := by
  constructor
  · rintro index ⟨entry, member, tells⟩
    rcases List.mem_append.mp member with member | member
    · exact one.items index ⟨entry, member, tells⟩
    · exact other.items index ⟨entry, member, tells⟩
  · rintro name ⟨entry, member, tells⟩
    rcases List.mem_append.mp member with member | member
    · exact one.members name ⟨entry, member, tells⟩
    · exact other.members name ⟨entry, member, tells⟩

theorem mono (covers : Covers value first second) (subset : second ⊆ third) : Covers value first third := by
  constructor
  · intro index told
    obtain ⟨entry, member, tells⟩ := covers.items index told
    exact ⟨entry, subset member, tells⟩
  · intro name told
    obtain ⟨entry, member, tells⟩ := covers.members name told
    exact ⟨entry, subset member, tells⟩

theorem flatMap {α : Type} {list : List α} {attach : α → List (String × Json)}
    (each : ∀ item ∈ list, Covers value (attach item) second) : Covers value (list.flatMap attach) second := by
  induction list with
  | nil => exact of_subset (List.nil_subset _)
  | cons head rest ih =>
    rw [List.flatMap_cons]
    exact (each head List.mem_cons_self).append (ih fun item member => each item (List.mem_cons_of_mem _ member))

end Covers

section Telling

variable {value attached : Json} {keyword : StandardKeyword}

theorem tellsItem_iff_of_mem (kind : keyword ∈ itemKeywords) {index : Nat} :
    TellsItem value (keyword.name, attached) index ↔ index < value.itemCount ∧ keyword.Decodes attached index := by
  have distinct : ∀ one ∈ itemKeywords, ∀ other ∈ itemKeywords, one.name = other.name → one = other := by decide
  constructor
  · rintro ⟨inside, other, member, named, decodes⟩
    exact ⟨inside, distinct keyword kind other member named ▸ decodes⟩
  · rintro ⟨inside, decodes⟩
    exact ⟨inside, keyword, kind, rfl, decodes⟩

theorem tellsMember_iff_of_mem (kind : keyword ∈ memberKeywords) {name : String} :
    TellsMember value (keyword.name, attached) name ↔ ∃ names, attached = .array names ∧ .string name ∈ names := by
  constructor
  · rintro ⟨_, -, -, names, same, inside⟩
    exact ⟨names, same, inside⟩
  · rintro ⟨names, same, inside⟩
    exact ⟨keyword, kind, rfl, names, same, inside⟩

/-- A value attached under another keyword tells no item. -/
theorem not_tellsItem {name : String} (silent : ∀ keyword ∈ itemKeywords, name ≠ keyword.name) (index : Nat) :
    ¬ ∃ entry ∈ [(name, attached)], TellsItem value entry index := by
  rintro ⟨entry, member, -, keyword, kind, named, -⟩
  rw [List.mem_singleton.mp member] at named
  exact silent keyword kind named

/-- A value attached under another keyword tells no member. -/
theorem not_tellsMember {name : String} (silent : ∀ keyword ∈ memberKeywords, name ≠ keyword.name) (member : String) :
    ¬ ∃ entry ∈ [(name, attached)], TellsMember value entry member := by
  rintro ⟨entry, listed, keyword, kind, named, -⟩
  rw [List.mem_singleton.mp listed] at named
  exact silent keyword kind named

end Telling

/-- Whether a result entails another one: if it is valid, the other one has the same outcome and tells as much. -/
def Applied.Entails (value : Json) (first second : Applied) : Prop :=
  first.outcome.isValid = true → second.outcome = first.outcome ∧ Covers value first.attached second.attached

/-- Whether one result entails another one, or, against the direction, the other one it. -/
def Applied.EntailsIn (direction : Bool) (value : Json) (first second : Applied) : Prop :=
  if direction then first.Entails value second else second.Entails value first

/-! ## What rules see of each other -/

theorem bind_eq_of_rel {α β : Type} {related : α → α → Prop} {found other : Option α}
    (rel : Option.Rel related found other) {read : α → Option β} (same : ∀ a b, related a b → read b = read a) :
    other.bind read = found.bind read := by
  cases rel with
  | none => rfl
  | some pair => exact same _ _ pair

theorem rel_bind {α β : Type} {related : α → α → Prop} {reading : β → β → Prop} {found other : Option α}
    (rel : Option.Rel related found other) {read : α → Option β}
    (each : ∀ a b, related a b → Option.Rel reading (read a) (read b)) :
    Option.Rel reading (found.bind read) (other.bind read) := by
  cases rel with
  | none => exact .none
  | some pair => exact each _ _ pair

theorem Outcome.require_congr {valid valid' : Bool} (message message' : String) (holds : valid = true)
    (holds' : valid' = true) : require valid' message' = require valid message := by
  rw [holds, holds']
  rfl

/-- The number of values in an attached list. -/
def Outcome.count? (outcome : Outcome) : Option Nat := (outcome.value?.bind (·.items?)).map (·.length)

/-- Whether an outcome of a rule of a schema object is as good to the later rules as another one. -/
structure Outcome.Favours (node : Node) (keyword : String) (first second : Outcome) : Prop where
  prefixItems : keyword = StandardKeyword.prefixItems.name → second.value? = first.value?
  condition : keyword = StandardKeyword.condition.name → node.branches = true → second.value? = first.value?
  matches_ : keyword = StandardKeyword.contains.name → Option.Rel (· ≤ ·) first.count? second.count?
  limit : keyword = StandardKeyword.contains.name → node.limitsMatches = true → second.count? = first.count?

theorem Outcome.Favours.refl (node : Node) (keyword : String) (outcome : Outcome) : outcome.Favours node keyword outcome where
  prefixItems _ := rfl
  condition _ _ := rfl
  matches_ _ := by cases outcome.count? <;> constructor; exact Nat.le_refl _
  limit _ _ := rfl

/-- Later rules look at the outcomes under three keywords only. -/
theorem Outcome.favours_of_ne {node : Node} {keyword : String}
    (silent : ∀ read ∈ [StandardKeyword.prefixItems, .condition, .contains], keyword ≠ read.name)
    (first second : Outcome) : first.Favours node keyword second where
  prefixItems named := absurd named (silent _ (by simp))
  condition named := absurd named (silent _ (by simp))
  matches_ named := absurd named (silent _ (by simp))
  limit named := absurd named (silent _ (by simp))

namespace Facts

/-- Whether what a rule may look at is as good in a second case as in a first one. -/
structure Favours (value : Json) (facts other : Facts) : Prop where
  options_eq : other.options = facts.options
  document_eq : other.document = facts.document
  node_eq : other.node = facts.node
  siblings : List.Forall₂ (fun sibling sibling' => sibling'.1 = sibling.1 ∧
    sibling.2.Favours facts.node sibling.1 sibling'.2) facts.siblings other.siblings
  attached : Covers value facts.attached other.attached

namespace Favours

variable {value : Json} {facts other : Facts} (favours : facts.Favours value other)
include favours

/-- The outcomes that two cases find under a keyword, one as good as the other. -/
theorem rel_sibling? (keyword : StandardKeyword) :
    Option.Rel (Outcome.Favours facts.node keyword.name) (facts.sibling? keyword) (other.sibling? keyword) := by
  unfold sibling?
  have pairs := favours.siblings
  generalize facts.siblings = siblings, other.siblings = siblings' at pairs
  induction pairs with
  | nil => exact .none
  | @cons head head' _ _ same _ ih =>
    obtain ⟨name, outcome⟩ := head
    obtain ⟨name', outcome'⟩ := head'
    obtain ⟨rfl, favours⟩ := same
    simp only [assoc?]
    split
    · next found => exact .some (found ▸ favours)
    · exact ih

theorem siblingValue?_prefixItems_eq : other.siblingValue? .prefixItems = facts.siblingValue? .prefixItems :=
  bind_eq_of_rel (favours.rel_sibling? .prefixItems) fun _ _ favours => favours.prefixItems rfl

theorem siblingValue?_condition_eq (branches : facts.node.branches = true) :
    other.siblingValue? .condition = facts.siblingValue? .condition :=
  bind_eq_of_rel (favours.rel_sibling? .condition) fun _ _ favours => favours.condition rfl branches

omit favours in
theorem matchCount?_eq_bind (facts : Facts) : facts.matchCount? = (facts.sibling? .contains).bind (·.count?) := by
  unfold matchCount? siblingValue? Outcome.count?
  cases facts.sibling? .contains <;> rfl

theorem rel_matchCount? : Option.Rel (· ≤ ·) facts.matchCount? other.matchCount? := by
  rw [matchCount?_eq_bind, matchCount?_eq_bind]
  exact rel_bind (favours.rel_sibling? .contains) fun _ _ favours => favours.matches_ rfl

theorem matchCount?_eq (limited : facts.node.limitsMatches = true) : other.matchCount? = facts.matchCount? := by
  rw [matchCount?_eq_bind, matchCount?_eq_bind]
  exact bind_eq_of_rel (favours.rel_sibling? .contains) fun _ _ favours => favours.limit rfl limited

theorem applyToItem_eq : other.applyToItem = facts.applyToItem := by
  funext schema item token
  rw [applyToItem, applyToItem, apply, apply, favours.document_eq]

theorem applyToMember_eq : other.applyToMember = facts.applyToMember := by
  funext schema member token
  rw [applyToMember, applyToMember, apply, apply, favours.document_eq]

theorem unevaluatedItems_subset {items : List Json} (array : value = .array items) :
    other.unevaluatedItems items ⊆ facts.unevaluatedItems items := by
  have told (index : Nat) (tells : facts.tellsItem items index = true) : other.tellsItem items index = true := by
    rw [tellsItem_iff] at tells ⊢
    exact array ▸ favours.attached.items index (array ▸ tells)
  rw [unevaluatedItems_eq, unevaluatedItems_eq]
  intro entry left
  obtain ⟨member, untold⟩ := List.mem_filter.mp left
  refine List.mem_filter.mpr ⟨member, ?_⟩
  rw [Bool.not_eq_true'] at untold ⊢
  exact Bool.eq_false_iff.mpr fun tells => Bool.noConfusion (untold.symm.trans (told entry.2 tells))

theorem evaluatedNames_subset : facts.evaluatedNames ⊆ other.evaluatedNames := by
  intro name tells
  rw [mem_evaluatedNames value] at tells ⊢
  exact favours.attached.members name tells

omit favours in
/-- After the rule about unevaluated items every item is told. -/
theorem tells_of_unevaluatedItems {items : List Json} {attached : List (String × Json)}
    (own : (StandardKeyword.unevaluatedItems.name, .bool (!(facts.unevaluatedItems items).isEmpty)) ∈ attached)
    {index : Nat} (inside : index < items.length) :
    ∃ entry ∈ facts.attached ++ attached, TellsItem (.array items) entry index := by
  cases before : facts.tellsItem items index with
  | true =>
    obtain ⟨entry, member, tells⟩ := tellsItem_iff.mp before
    exact ⟨entry, List.mem_append_left _ member, tells⟩
  | false =>
    have left : (items[index], index) ∈ facts.unevaluatedItems items := by
      rw [unevaluatedItems_eq]
      refine List.mem_filter.mpr ⟨?_, by rw [before]; rfl⟩
      exact List.mem_zipIdx_iff_getElem?.mpr (List.getElem?_eq_getElem inside)
    have some : (!(facts.unevaluatedItems items).isEmpty) = true := by
      rw [Bool.not_eq_true', List.isEmpty_eq_false_iff_exists_mem]
      exact ⟨_, left⟩
    rw [some] at own
    exact ⟨_, List.mem_append_right _ own, (tellsItem_iff_of_mem (by decide)).mpr ⟨inside, rfl⟩⟩

omit favours in
/-- After the rule about unevaluated properties every member is told. -/
theorem tells_of_unevaluatedProperties {members : List (String × Json)} {attached : List (String × Json)}
    (own : (StandardKeyword.unevaluatedProperties.name,
      namesValue ((members.filter fun member => !facts.evaluatedNames.contains member.1).map (·.1))) ∈ attached)
    {name : String} (present : name ∈ members.map (·.1)) :
    ∃ entry ∈ facts.attached ++ attached, TellsMember value entry name := by
  by_cases before : name ∈ facts.evaluatedNames
  · obtain ⟨entry, member, tells⟩ := (mem_evaluatedNames value).mp before
    exact ⟨entry, List.mem_append_left _ member, tells⟩
  · refine ⟨_, List.mem_append_right _ own, (tellsMember_iff_of_mem (by decide)).mpr (mem_namesValue.mpr ?_)⟩
    obtain ⟨member, listed, rfl⟩ := List.mem_map.mp present
    exact List.mem_map_of_mem (List.mem_filter.mpr ⟨listed, by simpa using before⟩)

end Favours

end Facts

theorem Facts.validPositions_sublist {list : List Application} {first second : Application → Outcome}
    (imp : ∀ inner ∈ list, (first inner).isValid = true → (second inner).isValid = true) :
    (validPositions (list.map first)).Sublist (validPositions (list.map second)) := by
  have positions (outcome : Application → Outcome) : validPositions (list.map outcome) =
      (list.zipIdx.filter fun entry => (outcome entry.1).isValid).map (·.2) := by
    rw [validPositions, List.zipIdx_map, List.filter_map, List.map_map]
    rfl
  have among : list.zipIdx.filter (fun entry => (first entry.1).isValid) =
      (list.zipIdx.filter fun entry => (second entry.1).isValid).filter fun entry => (first entry.1).isValid := by
    rw [List.filter_filter]
    refine List.filter_congr fun entry member => ?_
    have implied := imp entry.1 (List.fst_mem_of_mem_zipIdx member)
    cases holds : (first entry.1).isValid with
    | false => rfl
    | true => rw [implied holds]; rfl
  rw [positions, positions, among]
  exact List.filter_sublist.map _

/-- An assertion that holds of some matches holds of more, unless it limits them. -/
theorem Assertion.holds_of_rel {check : Assertion} {matched matched' : Option Nat} {value : Json}
    (more : Option.Rel (· ≤ ·) matched matched')
    (limit : ∀ bound, check = .count (.max .matches) bound → matched' = matched)
    (holds : check.holds matched value = true) : check.holds matched' value = true := by
  cases check with
  | count kind bound =>
    cases kind with
    | max measure =>
      cases measure with
      | «matches» => exact limit bound rfl ▸ holds
      | _ => cases value <;> exact holds
    | min measure =>
      cases measure with
      | «matches» =>
        cases value with
        | array items =>
          cases more with
          | none => exact holds
          | some le => exact decide_eq_true (Nat.le_trans (of_decide_eq_true holds) le)
        | _ => exact holds
      | _ => cases value <;> exact holds
  | _ => cases value <;> exact holds

/-! ## Rules that demand all their sub-schemas to be valid -/

/-- Whether a plan comes to a valid outcome only if all its applications are valid. -/
def Plan.DemandsAll (plan : Plan) : Prop :=
  ∀ outcomes, outcomes.length = plan.applications.length → (plan.conclude outcomes).isValid = true →
    ∀ outcome ∈ outcomes, outcome.isValid = true

namespace Plan

theorem demandsAll_done (outcome : Outcome) : (done outcome).DemandsAll := by
  intro outcomes placed valid
  rw [List.eq_nil_of_length_eq_zero placed]
  simp

theorem demandsAll_all (applications : List Application) (success : Outcome) : (all applications success).DemandsAll := by
  intro outcomes placed valid
  simp only [all] at valid
  split at valid
  · next held => simpa using held
  · exact Bool.noConfusion valid

theorem demandsAll_follow (application : Application) : (follow application).DemandsAll := by
  intro outcomes placed valid
  obtain ⟨outcome, rfl⟩ := List.length_eq_one_iff.mp placed
  exact List.forall_mem_singleton.mpr valid

end Plan

namespace Facts

variable (facts : Facts)

theorem forall_isValid_of_failing_eq_nil {α : Type} {values : List α} {outcomes : List Outcome}
    (placed : outcomes.length = values.length) (none : failing values outcomes = []) :
    ∀ outcome ∈ outcomes, outcome.isValid = true := by
  intro outcome member
  obtain ⟨index, inside, rfl⟩ := List.getElem_of_mem member
  have paired : (values[index], outcomes[index]) ∈ values.zip outcomes := by
    rw [List.mem_iff_getElem]
    exact ⟨index, by simpa using ⟨placed ▸ inside, inside⟩, by simp⟩
  rw [failing, List.map_eq_nil_iff, List.filter_eq_nil_iff] at none
  simpa using none _ paired

theorem demandsAll_planBranch (truth : Bool) (schema : Nat) (value : Json) :
    (facts.planBranch truth schema value).DemandsAll := by
  unfold planBranch
  split
  · intro outcomes placed valid
    simpa using valid
  · exact Plan.demandsAll_done _

theorem demandsAll_planDependentSchemas (schemas : List (String × Nat)) (members : List (String × Json)) :
    (facts.planDependentSchemas schemas members).DemandsAll := by
  intro outcomes placed valid
  simp only [planDependentSchemas] at placed valid
  split at valid
  · next none => exact forall_isValid_of_failing_eq_nil (by simpa using placed) none
  · exact Bool.noConfusion valid

theorem demandsAll_planAdditionalProperties (schema : Nat) (members : List (String × Json)) :
    (facts.planAdditionalProperties schema members).DemandsAll := by
  intro outcomes placed valid
  simp only [planAdditionalProperties] at placed valid
  split at valid
  · next none => exact forall_isValid_of_failing_eq_nil (by simpa using placed) none
  · exact Bool.noConfusion valid
  · exact Bool.noConfusion valid

theorem demandsAll_planPropertyNames (schema : Nat) (members : List (String × Json)) :
    (facts.planPropertyNames schema members).DemandsAll := by
  intro outcomes placed valid
  simpa [planPropertyNames] using valid

theorem demandsAll_planContentSchema (schema : Nat) (value : Json) :
    (facts.planContentSchema schema value).DemandsAll := by
  unfold planContentSchema
  split
  · split
    · intro outcomes placed valid
      dsimp only at valid
      split at valid
      · next held => simpa using held
      · exact Bool.noConfusion valid
    · exact Plan.demandsAll_done _
  · exact Plan.demandsAll_done _

theorem demandsAll_planCombination (schemas : List Nat) (value : Json) :
    (facts.planCombination .allOf schemas value).DemandsAll := by
  intro outcomes placed valid
  simpa [planCombination, Combination.isValid_combine, Combination.holds] using valid

end Facts

namespace Rule

/-- Whether a rule is valid only if all its sub-schemas are. -/
def demandsAll : Rule → Bool
  | .not _ | .condition _ | .contains _ | .combination .anyOf _ | .combination .oneOf _ => false
  | _ => true

theorem demandsAll_plan {rule : Rule} (demands : rule.demandsAll = true) (facts : Facts) (target : Option Target)
    (value : Json) : (rule.plan facts target value).DemandsAll := by
  cases rule with
  | ref url | dynamicRef url anchor =>
    cases target with
    | none => exact Plan.demandsAll_done _
    | some found => exact Plan.demandsAll_follow _
  | combination kind schemas =>
    cases kind with
    | allOf => exact facts.demandsAll_planCombination schemas value
    | anyOf | oneOf => exact Bool.noConfusion demands
  | branch truth schema => exact facts.demandsAll_planBranch truth schema value
  | prefixItems schemas | items schema | unevaluatedItems schema =>
    cases value with
    | array items => exact Plan.demandsAll_all _ _
    | _ => exact Plan.demandsAll_done _
  | properties schemas | patternProperties schemas | unevaluatedProperties schema =>
    cases value with
    | object members => exact Plan.demandsAll_all _ _
    | _ => exact Plan.demandsAll_done _
  | additionalProperties schema =>
    cases value with
    | object members => exact facts.demandsAll_planAdditionalProperties schema members
    | _ => exact Plan.demandsAll_done _
  | dependentSchemas schemas =>
    cases value with
    | object members => exact facts.demandsAll_planDependentSchemas schemas members
    | _ => exact Plan.demandsAll_done _
  | propertyNames schema =>
    cases value with
    | object members => exact facts.demandsAll_planPropertyNames schema members
    | _ => exact Plan.demandsAll_done _
  | contentSchema schema => exact facts.demandsAll_planContentSchema schema value
  | not schema | condition schema | contains schema => exact Bool.noConfusion demands
  | _ => exact Plan.demandsAll_done _

/-- Whether a rule looks at the number of matches or at attached values. -/
def looksBack : Rule → Bool
  | .assertion _ | .unevaluatedItems _ | .unevaluatedProperties _ => true
  | _ => false

theorem looksBack_of_isInPlace {rule : Rule} (inPlace : rule.isInPlace = true) : rule.looksBack = false := by
  cases rule <;> first | rfl | exact Bool.noConfusion inPlace

/-- Rules that do not look back plan the same in a better case. -/
theorem plan_eq_of_favours {rule : Rule} {value : Json} {facts other : Facts} (favours : facts.Favours value other)
    (member : rule ∈ facts.node.rules) (blind : rule.looksBack = false) (target : Option Target) :
    rule.plan other target value = rule.plan facts target value := by
  have prefixItems := favours.siblingValue?_prefixItems_eq
  have condition := favours.siblingValue?_condition_eq
  obtain ⟨_, _, _, siblings, attached⟩ := facts
  obtain ⟨options, document, node, siblings', attached'⟩ := other
  obtain ⟨rfl, rfl, rfl, -, -⟩ := favours
  cases rule with
  | branch truth schema =>
    have branches : node.branches = true := List.any_eq_true.mpr ⟨_, member, rfl⟩
    simp only [plan, Facts.planBranch, condition branches]
    rfl
  | items schema =>
    cases value with
    | array items =>
      simp only [plan, Facts.planItems, Facts.coveredByPrefix, prefixItems]
      rfl
    | _ => rfl
  | assertion check | unevaluatedItems schema | unevaluatedProperties schema => exact Bool.noConfusion blind
  | _ => cases value <;> rfl

end Rule

/-! ## Steps -/

namespace Step

/-- Whether two steps carry out the same rule, the second one in a better case and with results of the applications
that are entailed in the ways in which they bear on the rule. -/
structure Parallels (judge judge' : Application → Applied) (step other : Step) : Prop where
  rule_eq : other.rule = step.rule
  value_eq : other.value = step.value
  target_eq : other.target = step.target
  facts : step.facts.Favours step.value other.facts
  member : step.rule ∈ step.facts.node.rules
  results_eq : step.results = step.plan.applications.map fun inner => (inner, judge inner)
  results_eq' : other.results = other.plan.applications.map fun inner => (inner, judge' inner)
  below : ∀ inner ∈ step.plan.applications, inner ∈ other.plan.applications →
    ∀ direction ∈ step.facts.node.bearings step.rule, Applied.EntailsIn direction inner.value (judge inner) (judge' inner)

/-- The value that a rule attaches itself. -/
def own (step : Step) : List (String × Json) := (step.outcome.value?.map (step.rule.keyword, ·)).toList

/-- Whether a step is as good to the schema object as another one, which is valid. -/
structure Entails (step other : Step) : Prop where
  isValid : other.isValid = true
  favours : step.outcome.Favours step.facts.node step.rule.keyword other.outcome
  covers : Covers step.value (step.facts.attached ++ step.attached) (other.facts.attached ++ other.attached)

namespace Parallels

variable {judge judge' : Application → Applied} {step other : Step} (parallels : step.Parallels judge judge' other)
include parallels

theorem outcome_eq : step.outcome =
    step.plan.conclude (step.plan.applications.map fun inner => (judge inner).outcome) := by
  rw [outcome, parallels.results_eq, List.map_map]
  rfl

theorem outcome_eq' : other.outcome =
    other.plan.conclude (other.plan.applications.map fun inner => (judge' inner).outcome) := by
  rw [outcome, parallels.results_eq', List.map_map]
  rfl

theorem plan_eq (blind : step.rule.looksBack = false) : other.plan = step.plan := by
  rw [plan, plan, parallels.rule_eq, parallels.value_eq, parallels.target_eq]
  exact Rule.plan_eq_of_favours parallels.facts parallels.member blind _

/-- What a rule contributes is told as well in the better case. -/
theorem covers_contributed : Covers step.value step.contributed other.contributed := by
  rw [contributed, parallels.results_eq]
  refine Covers.flatMap fun result member => ?_
  obtain ⟨inner, planned, rfl⟩ := List.mem_map.mp member
  have plans := Rule.plans_of_mem_plan planned
  simp only [Applied.contribution]
  split
  · next contributes =>
    obtain ⟨valid, contributes⟩ := Bool.and_eq_true_iff.mp contributes
    have inPlace : step.rule.isInPlace = true := plans.contributes_eq.symm.trans contributes
    have planned' : inner ∈ other.plan.applications := parallels.plan_eq (Rule.looksBack_of_isInPlace inPlace) ▸ planned
    have affirms (schema : Nat) : step.rule ≠ .not schema := by
      intro denies
      rw [denies] at inPlace
      exact Bool.noConfusion inPlace
    obtain ⟨same, covers⟩ := parallels.below inner planned planned' true (Node.true_mem_bearings affirms) valid
    rw [plans.value_eq inPlace] at covers
    refine covers.mono fun entry inside => ?_
    rw [contributed, parallels.results_eq']
    refine List.mem_flatMap.mpr ⟨_, List.mem_map_of_mem planned', ?_⟩
    simp only [Applied.contribution]
    rw [if_pos (Bool.and_eq_true_iff.mpr ⟨same ▸ valid, contributes⟩)]
    exact inside
  · exact Covers.of_subset (List.nil_subset _)

/-- It is left to show that the outcome of the second step is as good. -/
theorem entails_of_own (isValid : other.isValid = true)
    (favours : step.outcome.Favours step.facts.node step.rule.keyword other.outcome)
    (own : Covers step.value step.own (other.facts.attached ++ other.attached)) : step.Entails other where
  isValid := isValid
  favours := favours
  covers := by
    have before := parallels.facts.attached.mono (List.subset_append_left _ other.attached)
    have contributed := parallels.covers_contributed.mono fun entry (inside : entry ∈ other.contributed) =>
      List.mem_append_right other.facts.attached (List.mem_append_left other.own inside)
    exact before.append (contributed.append own)

theorem entails_of_outcome_eq (valid : step.isValid = true) (same : other.outcome = step.outcome) :
    step.Entails other := by
  refine parallels.entails_of_own ?_ ?_ ?_
  · rw [Step.isValid, same]
    exact valid
  · rw [same]
    exact .refl _ _ _
  · have own : other.own = step.own := by rw [Step.own, Step.own, same, parallels.rule_eq]
    exact Covers.of_subset fun entry inside =>
      List.mem_append_right _ (List.mem_append_right _ (own ▸ inside : entry ∈ other.own))

/-- A rule that plans the same and demands all its sub-schemas comes to the same outcome. -/
theorem entails_of_demandsAll (valid : step.isValid = true) (planned : other.plan = step.plan)
    (demands : step.rule.demandsAll = true) : step.Entails other := by
  have affirms (schema : Nat) : step.rule ≠ .not schema := by
    intro denies
    rw [denies] at demands
    exact Bool.noConfusion demands
  have positive := @Node.true_mem_bearings step.facts.node _ affirms
  refine parallels.entails_of_outcome_eq valid ?_
  rw [parallels.outcome_eq', planned, parallels.outcome_eq]
  refine congrArg _ (List.map_congr_left fun inner member => ?_)
  have all := Rule.demandsAll_plan demands step.facts step.target step.value
    (step.plan.applications.map fun inner => (judge inner).outcome) (List.length_map _)
    (parallels.outcome_eq ▸ valid : (step.plan.conclude _).isValid = true)
  exact (parallels.below inner member (planned ▸ member) true positive (all _ (List.mem_map_of_mem member))).1

/-- A rule that plans the same and looks at nothing but the verdicts on sub-schemas that bear either way comes to the
same outcome. -/
theorem entails_of_verdicts (valid : step.isValid = true) (planned : other.plan = step.plan)
    (bearings : step.facts.node.bearings step.rule = [true, false])
    (verdicts : ∀ outcomes outcomes' : List Outcome, outcomes'.map (·.isValid) = outcomes.map (·.isValid) →
      step.plan.conclude outcomes' = step.plan.conclude outcomes) : step.Entails other := by
  refine parallels.entails_of_outcome_eq valid ?_
  rw [parallels.outcome_eq', planned, parallels.outcome_eq]
  refine verdicts _ _ ?_
  rw [List.map_map, List.map_map]
  refine List.map_congr_left fun inner member => ?_
  have entails := parallels.below inner member (planned ▸ member)
  rw [bearings] at entails
  have forth := entails true List.mem_cons_self
  have back := entails false (List.mem_cons_of_mem _ List.mem_cons_self)
  rw [Function.comp_apply, Function.comp_apply, Bool.eq_iff_iff]
  constructor
  · intro holds
    rw [(back holds).1]
    exact holds
  · intro holds
    rw [(forth holds).1]
    exact holds

/-! ### Rules that can be valid although a sub-schema is not -/

theorem entails_combination {kind : Combination} {schemas : List Nat} (ruled : step.rule = .combination kind schemas)
    (valid : step.isValid = true) : step.Entails other := by
  have planned : other.plan = step.plan := parallels.plan_eq (by rw [ruled]; rfl)
  have conclude : step.plan.conclude = fun outcomes => kind.combine (outcomes.map (·.isValid)) := by
    rw [plan, ruled]
    rfl
  cases kind with
  | allOf => exact parallels.entails_of_demandsAll valid planned (by rw [ruled]; rfl)
  | anyOf =>
    have holds := valid
    rw [isValid, parallels.outcome_eq, conclude, Combination.isValid_combine] at holds
    refine parallels.entails_of_outcome_eq valid ?_
    rw [parallels.outcome_eq', planned, parallels.outcome_eq, conclude]
    refine Outcome.require_congr _ _ holds ?_
    simp only [Combination.holds, List.any_map, List.any_eq_true, Function.comp_apply, id] at holds ⊢
    obtain ⟨inner, member, holds⟩ := holds
    have forth := parallels.below inner member (planned ▸ member) true (by rw [ruled]; exact List.mem_cons_self) holds
    exact ⟨inner, member, forth.1 ▸ holds⟩
  | oneOf =>
    refine parallels.entails_of_verdicts valid planned (by rw [ruled]; rfl) fun outcomes outcomes' same => ?_
    rw [conclude]
    exact congrArg _ same

theorem entails_not {schema : Nat} (ruled : step.rule = .not schema) (valid : step.isValid = true) :
    step.Entails other := by
  have planned : other.plan = step.plan := parallels.plan_eq (by rw [ruled]; rfl)
  have conclude : step.plan.conclude = fun outcomes =>
      .require (outcomes.any (!·.isValid)) "Must not match the subschema" := by
    rw [plan, ruled]
    rfl
  have denied := valid
  rw [isValid, parallels.outcome_eq, conclude, Outcome.isValid_require] at denied
  refine parallels.entails_of_outcome_eq valid ?_
  rw [parallels.outcome_eq', planned, parallels.outcome_eq, conclude]
  refine Outcome.require_congr _ _ denied ?_
  simp only [List.any_map, List.any_eq_true, Function.comp_apply, Bool.not_eq_true'] at denied ⊢
  obtain ⟨inner, member, fails⟩ := denied
  refine ⟨inner, member, Bool.eq_false_iff.mpr fun holds => ?_⟩
  have back := parallels.below inner member (planned ▸ member) false (by rw [ruled]; exact List.mem_cons_self) holds
  rw [back.1, holds] at fails
  exact Bool.noConfusion fails

theorem entails_condition {schema : Nat} (ruled : step.rule = .condition schema) (valid : step.isValid = true) :
    step.Entails other := by
  have planned : other.plan = step.plan := parallels.plan_eq (by rw [ruled]; rfl)
  have conclude : step.plan.conclude = fun outcomes => .annotated (.bool (outcomes.all (·.isValid))) := by
    rw [plan, ruled]
    rfl
  cases branches : step.facts.node.branches with
  | true =>
    refine parallels.entails_of_verdicts valid planned (by rw [ruled, Node.bearings, if_pos branches]) ?_
    intro outcomes outcomes' same
    have all (outcomes : List Outcome) : outcomes.all (·.isValid) = (outcomes.map (·.isValid)).all id := by
      rw [List.all_map]
      rfl
    rw [conclude]
    dsimp only
    rw [all, all, same]
  | false =>
    have keyword : step.rule.keyword = StandardKeyword.condition.name := by rw [ruled]; rfl
    refine parallels.entails_of_own (by rw [isValid, parallels.outcome_eq', planned, conclude]; rfl) ?_ ?_
    · rw [keyword]
      exact ⟨fun named => absurd named (by decide), fun _ branch => Bool.noConfusion (branches.symm.trans branch),
        fun named => absurd named (by decide), fun named => absurd named (by decide)⟩
    · rw [own, parallels.outcome_eq, conclude, keyword]
      exact ⟨fun index told => absurd told (not_tellsItem (by decide) index),
        fun name told => absurd told (not_tellsMember (by decide) name)⟩

theorem own_mem_attached {attached : Json} (concludes : other.outcome = .annotated attached) :
    (step.rule.keyword, attached) ∈ other.attached := by
  refine List.mem_append_right _ ?_
  rw [concludes, parallels.rule_eq]
  exact List.mem_singleton_self _

/-- Where more items match, `contains` is as good, unless the matches are limited. -/
theorem entails_matches {matched matched' : List Nat} (kind : step.rule.keyword = StandardKeyword.contains.name)
    (unlimited : step.facts.node.limitsMatches = false) (more : matched.Sublist matched')
    (outcome_eq : step.outcome = .annotated (.array (matched.map .ofNat)))
    (outcome_eq' : other.outcome = .annotated (.array (matched'.map .ofNat))) : step.Entails other := by
  refine parallels.entails_of_own (by rw [isValid, outcome_eq']; rfl) ?_ ?_
  · rw [kind, outcome_eq, outcome_eq']
    refine ⟨fun named => absurd named (by decide), fun named => absurd named (by decide), fun _ => ?_,
      fun _ limit => Bool.noConfusion (unlimited.symm.trans limit)⟩
    exact .some (more.map Json.ofNat).length_le
  · have own' := parallels.own_mem_attached outcome_eq'
    rw [kind] at own'
    rw [own, outcome_eq, kind]
    refine ⟨?_, fun name told => absurd told (not_tellsMember (by decide) name)⟩
    rintro index ⟨entry, member, tells⟩
    rw [List.mem_singleton.mp member, tellsItem_iff_of_mem (by decide)] at tells
    obtain ⟨inside, _, same, position, listed, found⟩ := tells
    obtain rfl := Json.array.inj same
    refine ⟨_, List.mem_append_right _ own', (tellsItem_iff_of_mem (by decide)).mpr ⟨inside, _, rfl, position, ?_, found⟩⟩
    exact (more.map _).subset listed

theorem entails_contains {schema : Nat} (ruled : step.rule = .contains schema) (valid : step.isValid = true) :
    step.Entails other := by
  have planned : other.plan = step.plan := parallels.plan_eq (by rw [ruled]; rfl)
  cases array : step.value with
  | array items =>
    have conclude : step.plan.conclude = (step.facts.planContains schema items).conclude := by
      rw [plan, ruled, array]
      rfl
    have positions (outcomes : List Outcome) : Facts.validPositions outcomes =
        ((outcomes.map (·.isValid)).zipIdx.filter (·.1)).map (·.2) := by
      rw [Facts.validPositions, List.zipIdx_map, List.filter_map, List.map_map]
      rfl
    cases limited : step.facts.node.limitsMatches with
    | true =>
      refine parallels.entails_of_verdicts valid planned (by rw [ruled, Node.bearings, if_pos limited]) ?_
      intro outcomes outcomes' same
      rw [conclude]
      simp only [Facts.planContains, positions, same]
    | false =>
      have outcome_eq := parallels.outcome_eq
      have outcome_eq' := parallels.outcome_eq'
      rw [planned] at outcome_eq'
      rw [conclude] at outcome_eq outcome_eq'
      simp only [Facts.planContains] at outcome_eq outcome_eq'
      have more : (Facts.validPositions (step.plan.applications.map fun inner => (judge inner).outcome)).Sublist
          (Facts.validPositions (step.plan.applications.map fun inner => (judge' inner).outcome)) := by
        refine Facts.validPositions_sublist fun inner member holds => ?_
        have forth := parallels.below inner member (planned ▸ member) true (Node.true_mem_bearings (by simp [ruled])) holds
        exact forth.1 ▸ holds
      rw [isValid, outcome_eq] at valid
      split at valid
      · exact Bool.noConfusion valid
      · next found =>
        rw [if_neg found] at outcome_eq
        refine parallels.entails_matches (by rw [ruled]; rfl) limited more outcome_eq ?_
        rw [outcome_eq', if_neg]
        simp only [Bool.and_eq_true, List.isEmpty_iff, not_and] at found ⊢
        intro none
        exact found (List.sublist_nil.mp (none ▸ more))
  | _ =>
    refine parallels.entails_of_outcome_eq valid ?_
    rw [parallels.outcome_eq', planned, parallels.outcome_eq, plan, ruled, array]
    rfl

theorem entails_assertion {check : Assertion} (ruled : step.rule = .assertion check) (valid : step.isValid = true) :
    step.Entails other := by
  have outcome_eq (step : Step) (ruled : step.rule = .assertion check) :
      step.outcome = check.check step.facts.matchCount? step.value := by
    rw [outcome, plan, ruled]
    rfl
  have holds := valid
  rw [isValid, outcome_eq step ruled, Assertion.isValid_check] at holds
  refine parallels.entails_of_outcome_eq valid ?_
  rw [outcome_eq step ruled, outcome_eq other (parallels.rule_eq.trans ruled), parallels.value_eq]
  refine Outcome.require_congr _ _ holds ?_
  refine Assertion.holds_of_rel parallels.facts.rel_matchCount? (fun bound limits => ?_) holds
  refine parallels.facts.matchCount?_eq (List.any_eq_true.mpr ⟨_, parallels.member, ?_⟩)
  rw [ruled, limits]

/-! ### Rules about what is left -/

/-- Where fewer parts are left and all that were left are valid, those that are left are valid too. -/
theorem isValid_all {success success' : Outcome} {applications applications' : List Application}
    (planned : step.plan = .all applications success) (planned' : other.plan = .all applications' success')
    (positive : true ∈ step.facts.node.bearings step.rule) (fewer : applications' ⊆ applications)
    (valid : step.isValid = true) : step.outcome = success ∧ other.outcome = success' := by
  have all := parallels.outcome_eq
  have all' := parallels.outcome_eq'
  rw [planned] at all
  rw [planned'] at all'
  rw [isValid, all] at valid
  refine ⟨all.trans (Plan.conclude_all valid), all'.trans ?_⟩
  have each := Plan.demandsAll_all applications success _ (List.length_map _) valid
  refine if_pos (List.all_eq_true.mpr ?_)
  rintro outcome member
  obtain ⟨inner, listed, rfl⟩ := List.mem_map.mp member
  have before : inner ∈ step.plan.applications := planned ▸ fewer listed
  have holds := each _ (List.mem_map_of_mem (fewer listed))
  have entails := parallels.below inner before (planned' ▸ listed) true positive holds
  exact entails.1 ▸ holds

theorem entails_unevaluatedItems {schema : Nat} (ruled : step.rule = .unevaluatedItems schema)
    (valid : step.isValid = true) : step.Entails other := by
  have keyword : step.rule.keyword = StandardKeyword.unevaluatedItems.name := by rw [ruled]; rfl
  cases array : step.value with
  | array items =>
    have planned : step.plan = step.facts.planUnevaluatedItems schema items := by rw [plan, ruled, array]; rfl
    have planned' : other.plan = other.facts.planUnevaluatedItems schema items := by
      rw [plan, parallels.rule_eq, parallels.value_eq, ruled, array]
      rfl
    rw [Facts.planUnevaluatedItems, parallels.facts.applyToItem_eq] at planned'
    obtain ⟨outcome_eq, outcome_eq'⟩ := parallels.isValid_all planned planned' (Node.true_mem_bearings (by simp [ruled]))
      (List.map_subset _ (parallels.facts.unevaluatedItems_subset array)) valid
    have own' := parallels.own_mem_attached outcome_eq'
    rw [keyword] at own'
    refine parallels.entails_of_own (by rw [isValid, outcome_eq']; rfl) ?_ ?_
    · rw [keyword]
      exact Outcome.favours_of_ne (by decide) _ _
    · rw [own, outcome_eq, keyword, array]
      refine ⟨?_, fun name told => absurd told (not_tellsMember (by decide) name)⟩
      rintro index ⟨entry, member, tells⟩
      exact Facts.Favours.tells_of_unevaluatedItems own' tells.1
  | _ =>
    have planned : other.plan = step.plan := by
      rw [plan, plan, parallels.rule_eq, parallels.value_eq, ruled, array]
      rfl
    exact parallels.entails_of_demandsAll valid planned (by rw [ruled]; rfl)

theorem entails_unevaluatedProperties {schema : Nat} (ruled : step.rule = .unevaluatedProperties schema)
    (valid : step.isValid = true) : step.Entails other := by
  have keyword : step.rule.keyword = StandardKeyword.unevaluatedProperties.name := by rw [ruled]; rfl
  cases object : step.value with
  | object members =>
    have planned : step.plan = step.facts.planUnevaluatedProperties schema members := by rw [plan, ruled, object]; rfl
    have planned' : other.plan = other.facts.planUnevaluatedProperties schema members := by
      rw [plan, parallels.rule_eq, parallels.value_eq, ruled, object]
      rfl
    rw [Facts.planUnevaluatedProperties, parallels.facts.applyToMember_eq] at planned'
    have fewer : members.filter (fun member => !other.facts.evaluatedNames.contains member.1) ⊆
        members.filter fun member => !step.facts.evaluatedNames.contains member.1 := by
      intro member left
      simp only [List.mem_filter, Bool.not_eq_true', List.contains_eq_mem, decide_eq_false_iff_not] at left ⊢
      exact ⟨left.1, fun tells => left.2 (parallels.facts.evaluatedNames_subset tells)⟩
    obtain ⟨outcome_eq, outcome_eq'⟩ := parallels.isValid_all planned planned' (Node.true_mem_bearings (by simp [ruled]))
      (List.map_subset _ fewer) valid
    have own' := parallels.own_mem_attached outcome_eq'
    rw [keyword] at own'
    refine parallels.entails_of_own (by rw [isValid, outcome_eq']; rfl) ?_ ?_
    · rw [keyword]
      exact Outcome.favours_of_ne (by decide) _ _
    · rw [own, outcome_eq, keyword]
      refine ⟨fun index told => absurd told (not_tellsItem (by decide) index), ?_⟩
      rintro name ⟨entry, member, tells⟩
      rw [List.mem_singleton.mp member, tellsMember_iff_of_mem (by decide), mem_namesValue] at tells
      obtain ⟨member, left, rfl⟩ := List.mem_map.mp tells
      exact Facts.Favours.tells_of_unevaluatedProperties own' (List.mem_map_of_mem (List.mem_of_mem_filter left))
  | _ =>
    have planned : other.plan = step.plan := by
      rw [plan, plan, parallels.rule_eq, parallels.value_eq, ruled, object]
      rfl
    exact parallels.entails_of_demandsAll valid planned (by rw [ruled]; rfl)

/-- A valid step entails the one that is parallel to it. -/
theorem entails (valid : step.isValid = true) : step.Entails other := by
  cases ruled : step.rule with
  | combination kind schemas => exact parallels.entails_combination ruled valid
  | not schema => exact parallels.entails_not ruled valid
  | condition schema => exact parallels.entails_condition ruled valid
  | contains schema => exact parallels.entails_contains ruled valid
  | assertion check => exact parallels.entails_assertion ruled valid
  | unevaluatedItems schema => exact parallels.entails_unevaluatedItems ruled valid
  | unevaluatedProperties schema => exact parallels.entails_unevaluatedProperties ruled valid
  | _ => exact parallels.entails_of_demandsAll valid (parallels.plan_eq (by rw [ruled]; rfl)) (by rw [ruled]; rfl)

end Parallels

end Step

end JsonSchema
