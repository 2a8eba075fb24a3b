import JsonSchema.Evaluation.Plan
import Mathlib.Data.List.Basic

/-! # What plans do

Facts about the plans of all rules at once. What a rule applies comes from it in one of a few ways (`Rule.Applies`), so
what holds of all applications is proved way by way and not rule by rule. A rule that is a leaf applies nothing, and a
rule that fails without a message has an application that failed.
-/

namespace JsonSchema

namespace Outcome

@[simp] theorem require_ne_invalid_none (valid : Bool) (message : String) :
    require valid message ≠ .invalid none := by
  cases valid <;> simp [require, fail]

@[simp] theorem fail_ne_invalid_none (message : String) : fail message ≠ .invalid none := by
  simp [fail]

end Outcome

namespace Plan

/-- Whether a failure without a message always comes from an application that failed. -/
def Accounts (plan : Plan) : Prop :=
  ∀ outcomes, plan.conclude outcomes = .invalid none → ∃ outcome ∈ outcomes, outcome.isValid = false

theorem accounts_of_ne {plan : Plan} (told : ∀ outcomes, plan.conclude outcomes ≠ .invalid none) :
    plan.Accounts :=
  fun outcomes silent => absurd silent (told outcomes)

theorem accounts_done {outcome : Outcome} (told : outcome ≠ .invalid none) : (done outcome).Accounts :=
  accounts_of_ne fun _ => told

theorem accounts_all (applications : List Application) {success : Outcome} (told : success ≠ .invalid none) :
    (all applications success).Accounts := by
  intro outcomes silent
  simp only [all] at silent
  split at silent
  · exact absurd silent told
  · next failed => simpa using failed

theorem conclude_all {applications : List Application} {success : Outcome} {outcomes : List Outcome}
    (valid : ((all applications success).conclude outcomes).isValid = true) :
    (all applications success).conclude outcomes = success := by
  simp only [all] at valid ⊢
  split
  · rfl
  · next failed =>
    rw [if_neg failed] at valid
    exact Bool.noConfusion valid

theorem accounts_follow (application : Application) : (follow application).Accounts := by
  intro outcomes silent
  cases outcomes with
  | nil => simp [follow] at silent
  | cons first rest =>
    simp only [follow, List.head?_cons, Option.getD_some] at silent
    exact ⟨first, List.mem_cons_self, by simp [silent, Outcome.isValid]⟩

end Plan

namespace Facts

variable (facts : Facts)

theorem checkFormat_ne (name : String) (asserted : Bool) (value : Json) :
    facts.checkFormat name asserted value ≠ .invalid none := by
  unfold checkFormat
  repeat' split
  all_goals simp

theorem checkEncoding_ne (name : String) (value : Json) : facts.checkEncoding name value ≠ .invalid none := by
  unfold checkEncoding
  repeat' split
  all_goals simp

theorem checkMediaType_ne (name : String) (value : Json) : facts.checkMediaType name value ≠ .invalid none := by
  unfold checkMediaType
  repeat' split
  all_goals simp

theorem accounts_planContains (schema : Nat) (items : List Json) : (facts.planContains schema items).Accounts := by
  refine Plan.accounts_of_ne fun outcomes => ?_
  simp only [planContains]
  split <;> simp

theorem accounts_planAdditionalProperties (schema : Nat) (members : List (String × Json)) :
    (facts.planAdditionalProperties schema members).Accounts := by
  refine Plan.accounts_of_ne fun outcomes => ?_
  simp only [planAdditionalProperties]
  split <;> simp

theorem accounts_planDependentSchemas (schemas : List (String × Nat)) (members : List (String × Json)) :
    (facts.planDependentSchemas schemas members).Accounts := by
  refine Plan.accounts_of_ne fun outcomes => ?_
  simp only [planDependentSchemas]
  split <;> simp

theorem accounts_planBranch (truth : Bool) (schema : Nat) (value : Json) :
    (facts.planBranch truth schema value).Accounts := by
  refine Plan.accounts_of_ne fun outcomes => ?_
  unfold planBranch
  split <;> simp [Plan.done]

theorem accounts_planContentSchema (schema : Nat) (value : Json) :
    (facts.planContentSchema schema value).Accounts := by
  refine Plan.accounts_of_ne fun outcomes => ?_
  unfold planContentSchema
  repeat' split
  all_goals simp only [Plan.done]
  all_goals try split
  all_goals simp

end Facts

/-- What stands beside an index of a list in a zip is the item of this index. -/
theorem mem_zipIdx_of_mem_zip_zipIdx {α β : Type} {ones : List α} {others : List β} {one : α} {other : β × Nat}
    {start : Nat} (member : (one, other) ∈ ones.zip (others.zipIdx start)) : (one, other.2) ∈ ones.zipIdx start := by
  induction ones generalizing others start with
  | nil => exact absurd member List.not_mem_nil
  | cons first ones ih =>
    cases others with
    | nil => exact absurd member List.not_mem_nil
    | cons second others =>
      rw [List.zipIdx_cons, List.zip_cons_cons] at member
      rw [List.zipIdx_cons]
      rcases List.mem_cons.mp member with same | member
      · obtain ⟨rfl, rfl⟩ := Prod.mk.inj same
        exact List.mem_cons_self
      · exact List.mem_cons_of_mem _ (ih member)

theorem Facts.mem_zipIdx_of_mem_unevaluatedItems {facts : Facts} {items : List Json} {item : Json × Nat}
    (member : item ∈ facts.unevaluatedItems items) : item ∈ items.zipIdx := by
  unfold unevaluatedItems at member
  split at member
  · exact absurd member List.not_mem_nil
  · exact List.mem_of_mem_drop (List.mem_of_mem_filter member)

namespace Rule

/-- A leaf applies nothing. -/
theorem applications_plan_of_isLeaf {rule : Rule} (leaf : rule.isLeaf = true) (facts : Facts)
    (target : Option Target) (value : Json) : (rule.plan facts target value).applications = [] := by
  cases rule with
  | assertion check => rfl
  | description kind described | unknown keyword described => rfl
  | format name asserted => rfl
  | contentEncoding name | contentMediaType name => rfl
  | defs schemas => rfl
  | comment text => rfl
  | branch truth schema => cases truth <;> exact Bool.noConfusion leaf
  | combination kind schemas => cases kind <;> exact Bool.noConfusion leaf
  | _ => exact Bool.noConfusion leaf

/-- Whether a rule applies its sub-schemas to the instance itself and lets what they attach count. -/
def isInPlace : Rule → Bool
  | .ref _ | .dynamicRef _ _ | .combination _ _ | .condition _ | .branch _ _ | .dependentSchemas _ => true
  | _ => false

/-- Whether a rule leads to its target and not to sub-schemas of its own. -/
def isReference : Rule → Bool
  | .ref _ | .dynamicRef _ _ => true
  | _ => false

/-- Whether a rule applies its sub-schema to the names of members. -/
def checksNames : Rule → Bool
  | .propertyNames _ => true
  | _ => false

/-- The sub-schemas of a rule in order, each with the tokens that lead to it from the value of the keyword. -/
def twigs : Rule → List (List String × Nat)
  | .combination _ schemas | .prefixItems schemas =>
    schemas.zipIdx.map fun (schema, index) => ([toString index], schema)
  | .not schema | .condition schema | .branch _ schema => [([], schema)]
  | .items schema | .contains schema | .additionalProperties schema | .propertyNames schema => [([], schema)]
  | .contentSchema schema | .unevaluatedItems schema | .unevaluatedProperties schema => [([], schema)]
  | .dependentSchemas schemas | .properties schemas | .defs schemas =>
    schemas.map fun (name, schema) => ([name], schema)
  | .patternProperties schemas => schemas.map fun (pattern, schema) => ([pattern.source], schema)
  | _ => []

theorem map_snd_twigs (rule : Rule) : rule.twigs.map (·.2) = rule.subschemas := by
  cases rule with
  | combination | prefixItems =>
    simp only [twigs, subschemas, List.map_map, Function.comp_def]
    exact List.zipIdx_map_fst 0 _
  | dependentSchemas | properties | patternProperties | defs =>
    simp only [twigs, subschemas, List.map_map, Function.comp_def]
  | _ => rfl

theorem twigs_eq_nil {rule : Rule} (none : rule.subschemas = []) : rule.twigs = [] :=
  List.map_eq_nil_iff.mp ((map_snd_twigs rule).trans none)

theorem isInPlace_of_isReference {rule : Rule} (refers : rule.isReference = true) : rule.isInPlace = true := by
  cases rule <;> first | rfl | cases refers

theorem checksNames_of_isInPlace {rule : Rule} (applies : rule.isInPlace = true) : rule.checksNames = false := by
  cases rule <;> first | rfl | cases applies

/-- How an application comes from a rule. A reference applies its target; any other rule applies one of its own
sub-schemas, to the instance itself, to an item, to a member, to the name of a member or to the content of a text. -/
inductive Applies (rule : Rule) (facts : Facts) (target : Option Target) : Json → Application → Prop
  | reference {value : Json} {found : Target} (refers : rule.isReference = true) (leads : target = some found) :
      Applies rule facts target value (.inPlace found value none)
  | inPlace {value : Json} {node : Nat} {token : Option String} (applies : rule.isInPlace = true)
      (twig : (token.toList, node) ∈ rule.twigs) : Applies rule facts target value (facts.apply node value none token)
  | negation {value : Json} {node : Nat} (negates : rule = .not node) :
      Applies rule facts target value (facts.applyIsolated node value none)
  | item {items : List Json} {item : Json × Nat} {node : Nat} {token : Option String}
      (other : rule.isInPlace = false) (values : rule.checksNames = false) (inside : item ∈ items.zipIdx)
      (twig : (token.toList, node) ∈ rule.twigs) :
      Applies rule facts target (.array items) (facts.applyToItem node item token)
  | member {members : List (String × Json)} {member : String × Json} {node : Nat} {token : Option String}
      (other : rule.isInPlace = false) (values : rule.checksNames = false) (inside : member ∈ members)
      (twig : (token.toList, node) ∈ rule.twigs) :
      Applies rule facts target (.object members) (facts.applyToMember node member token)
  | name {members : List (String × Json)} {member : String × Json} {node : Nat} (checks : rule = .propertyNames node)
      (inside : member ∈ members) :
      Applies rule facts target (.object members) (facts.applyIsolated node (.string member.1) (some member.1))
  | content {value content : Json} {node : Nat} (describes : rule = .contentSchema node)
      (asserted : facts.options.assertContent = true) :
      Applies rule facts target value (facts.applyIsolated node content none)

variable {rule : Rule} {facts : Facts} {target : Option Target} {value : Json} {application : Application}

/-- What a rule plans comes from it in one of these ways. -/
theorem applies_of_mem_plan (member : application ∈ (rule.plan facts target value).applications) :
    rule.Applies facts target value application := by
  have none {outcome : Outcome} (impossible : application ∈ (Plan.done outcome).applications) : False :=
    List.not_mem_nil impossible
  cases rule with
  | ref url | dynamicRef url anchor =>
    cases target with
    | none => exact (none member).elim
    | some found =>
      obtain rfl : application = _ := List.mem_singleton.mp member
      exact .reference rfl rfl
  | combination kind schemas =>
    obtain ⟨⟨schema, index⟩, inside, rfl⟩ := List.mem_map.mp member
    exact .inPlace rfl (List.mem_map_of_mem inside)
  | condition schema =>
    obtain rfl : application = _ := List.mem_singleton.mp member
    exact .inPlace rfl (List.mem_singleton_self _)
  | branch truth schema =>
    rw [plan, Facts.planBranch] at member
    split at member
    · obtain rfl : application = _ := List.mem_singleton.mp member
      exact .inPlace rfl (List.mem_singleton_self _)
    · exact (none member).elim
  | dependentSchemas schemas =>
    cases value with
    | object members =>
      obtain ⟨entry, inside, rfl⟩ := List.mem_map.mp member
      exact .inPlace rfl (List.mem_map_of_mem (List.mem_of_mem_filter inside))
    | _ => exact (none member).elim
  | not schema =>
    obtain rfl : application = _ := List.mem_singleton.mp member
    exact .negation rfl
  | prefixItems schemas =>
    cases value with
    | array items =>
      obtain ⟨⟨schema, item⟩, inside, rfl⟩ := List.mem_map.mp member
      exact .item rfl rfl (List.of_mem_zip inside).2 (List.mem_map_of_mem (mem_zipIdx_of_mem_zip_zipIdx inside))
    | _ => exact (none member).elim
  | items schema =>
    cases value with
    | array items =>
      obtain ⟨item, inside, rfl⟩ := List.mem_map.mp member
      exact .item rfl rfl (List.mem_of_mem_drop inside) (List.mem_singleton_self _)
    | _ => exact (none member).elim
  | contains schema =>
    cases value with
    | array items =>
      obtain ⟨item, inside, rfl⟩ := List.mem_map.mp member
      exact .item rfl rfl inside (List.mem_singleton_self _)
    | _ => exact (none member).elim
  | unevaluatedItems schema =>
    cases value with
    | array items =>
      obtain ⟨item, inside, rfl⟩ := List.mem_map.mp member
      exact .item rfl rfl (Facts.mem_zipIdx_of_mem_unevaluatedItems inside) (List.mem_singleton_self _)
    | _ => exact (none member).elim
  | properties schemas =>
    cases value with
    | object members =>
      obtain ⟨choice, inside, rfl⟩ := List.mem_map.mp member
      obtain ⟨⟨name, schema⟩, declared, present⟩ := List.mem_filterMap.mp inside
      obtain ⟨value, found, rfl⟩ := Option.map_eq_some_iff.mp present
      exact .member rfl rfl (mem_of_assoc? found) (List.mem_map_of_mem declared)
    | _ => exact (none member).elim
  | patternProperties schemas =>
    cases value with
    | object members =>
      obtain ⟨choice, inside, rfl⟩ := List.mem_map.mp member
      obtain ⟨entry, present, matching⟩ := List.mem_flatMap.mp inside
      obtain ⟨⟨pattern, schema⟩, declared, rfl⟩ := List.mem_map.mp matching
      exact .member rfl rfl present (List.mem_map_of_mem (List.mem_of_mem_filter declared))
    | _ => exact (none member).elim
  | additionalProperties schema | unevaluatedProperties schema =>
    cases value with
    | object members =>
      obtain ⟨entry, inside, rfl⟩ := List.mem_map.mp member
      exact .member rfl rfl (List.mem_of_mem_filter inside) (List.mem_singleton_self _)
    | _ => exact (none member).elim
  | propertyNames schema =>
    cases value with
    | object members =>
      obtain ⟨entry, inside, rfl⟩ := List.mem_map.mp member
      exact .name rfl inside
    | _ => exact (none member).elim
  | contentSchema schema =>
    rw [plan] at member
    unfold Facts.planContentSchema at member
    split at member
    · next asserted _ =>
      split at member
      · obtain rfl : application = _ := List.mem_singleton.mp member
        exact .content rfl asserted
      · exact (none member).elim
    · exact (none member).elim
  | assertion check | description kind described | format name asserted => exact (none member).elim
  | contentEncoding name | contentMediaType name | unknown name described | comment text => exact (none member).elim
  | defs schemas => exact (none member).elim

/-- How the applications that a rule plans stand to the instance and to the document of the rule. -/
structure Plans (rule : Rule) (facts : Facts) (target : Option Target) (value : Json) (application : Application) :
    Prop where
  contributes_eq : application.contributes = rule.isInPlace
  value_eq : rule.isInPlace = true → application.value = value
  leads : application.target.document = facts.document ∨ target = some application.target

theorem plans_of_mem_plan (member : application ∈ (rule.plan facts target value).applications) :
    rule.Plans facts target value application := by
  cases applies_of_mem_plan member with
  | reference refers leads => exact ⟨(isInPlace_of_isReference refers).symm, fun _ => rfl, .inr leads⟩
  | inPlace applies => exact ⟨applies.symm, fun _ => rfl, .inl rfl⟩
  | item other | member other =>
    exact ⟨other.symm, fun applies => absurd (other.symm.trans applies) Bool.false_ne_true, .inl rfl⟩
  | negation same | name same | content same =>
    subst same
    exact ⟨rfl, (nomatch ·), .inl rfl⟩

/-- A rule that is no reference applies only its own sub-schemas. -/
theorem mem_subschemas_of_mem_plan (plain : rule.isReference = false)
    (member : application ∈ (rule.plan facts target value).applications) :
    application.target.document = facts.document ∧ application.target.node ∈ rule.subschemas := by
  cases applies_of_mem_plan member with
  | reference refers => exact absurd (plain.symm.trans refers) Bool.false_ne_true
  | inPlace _ twig | item _ _ _ twig | member _ _ _ twig => exact ⟨rfl, map_snd_twigs rule ▸ List.mem_map_of_mem twig⟩
  | negation same | name same | content same =>
    subst same
    exact ⟨rfl, List.mem_singleton_self _⟩

/-- Every rule accounts for its failures. -/
theorem accounts_plan (rule : Rule) (facts : Facts) (target : Option Target) (value : Json) :
    (rule.plan facts target value).Accounts := by
  cases rule with
  | ref url | dynamicRef url anchor =>
    cases target with
    | none => exact Plan.accounts_done (by simp)
    | some found => exact Plan.accounts_follow _
  | combination kind schemas =>
    exact Plan.accounts_of_ne fun outcomes => by simp [plan, Facts.planCombination, Combination.combine]
  | not schema => exact Plan.accounts_of_ne fun outcomes => by simp [plan, Facts.planNot]
  | condition schema => exact Plan.accounts_of_ne fun outcomes => by simp [plan, Facts.planCondition]
  | branch truth schema => exact facts.accounts_planBranch truth schema value
  | dependentSchemas schemas =>
    cases value with
    | object members => exact facts.accounts_planDependentSchemas schemas members
    | _ => exact Plan.accounts_done (by simp)
  | prefixItems schemas =>
    cases value with
    | array items =>
      refine Plan.accounts_all _ ?_
      repeat' split
      all_goals simp
    | _ => exact Plan.accounts_done (by simp)
  | items schema | unevaluatedItems schema =>
    cases value with
    | array items => exact Plan.accounts_all _ (by simp)
    | _ => exact Plan.accounts_done (by simp)
  | contains schema =>
    cases value with
    | array items => exact facts.accounts_planContains schema items
    | _ => exact Plan.accounts_done (by simp)
  | properties schemas | patternProperties schemas =>
    cases value with
    | object members => exact Plan.accounts_all _ (by simp)
    | _ => exact Plan.accounts_done (by simp)
  | unevaluatedProperties schema =>
    cases value with
    | object members => exact Plan.accounts_all _ (by simp)
    | _ => exact Plan.accounts_done (by simp)
  | additionalProperties schema =>
    cases value with
    | object members => exact facts.accounts_planAdditionalProperties schema members
    | _ => exact Plan.accounts_done (by simp)
  | propertyNames schema =>
    cases value with
    | object members => exact Plan.accounts_of_ne fun outcomes => by simp [plan, Facts.planPropertyNames]
    | _ => exact Plan.accounts_done (by simp)
  | assertion check => exact Plan.accounts_done (by simp [Assertion.check])
  | format name asserted => exact Plan.accounts_done (facts.checkFormat_ne name asserted value)
  | contentEncoding name => exact Plan.accounts_done (facts.checkEncoding_ne name value)
  | contentMediaType name => exact Plan.accounts_done (facts.checkMediaType_ne name value)
  | contentSchema schema => exact facts.accounts_planContentSchema schema value
  | description kind described | unknown keyword described => exact Plan.accounts_done (by simp)
  | defs schemas => exact Plan.accounts_done (by simp)
  | comment text => exact Plan.accounts_done (by simp)

end Rule

end JsonSchema
