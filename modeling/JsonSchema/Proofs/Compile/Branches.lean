import JsonSchema.Proofs.Compile.Bundle
import JsonSchema.Proofs.Compile.Readings
import JsonSchema.Proofs.Evaluation.Plan

/-! # Sub-schemas and the paths to them

The sub-schemas of a value stand in the slots of its keywords in the order of application, each at the path of some
tokens (`Json.slots`). A compiled node lists its sub-schemas rule by rule, and the same paths can be read off its rules
(`Node.slots`): what a keyword is compiled to has a branch for each of its slots
(`KeywordSite.listsSlots`).
-/

namespace JsonSchema

open Compile

/-! ## Values inside a value -/

namespace Json

mutual

/-- A value and all values inside. -/
def values : Json → List Json
  | .array items => .array items :: valuesOfItems items
  | .object members => .object members :: valuesOfMembers members
  | value => [value]

/-- The items and all values inside. -/
def valuesOfItems : List Json → List Json
  | [] => []
  | item :: rest => values item ++ valuesOfItems rest

/-- The values of members and all values inside. -/
def valuesOfMembers : List (String × Json) → List Json
  | [] => []
  | (_, value) :: rest => values value ++ valuesOfMembers rest

end

theorem self_mem_values (value : Json) : value ∈ value.values := by
  cases value <;> simp [values]

theorem values_subset_valuesOfItems {items : List Json} {item : Json} (member : item ∈ items) :
    item.values ⊆ valuesOfItems items := by
  induction items with
  | nil => exact absurd member List.not_mem_nil
  | cons first rest ih =>
    rw [valuesOfItems]
    rcases List.mem_cons.mp member with rfl | member
    · exact List.subset_append_left _ _
    · exact List.Subset.trans (ih member) (List.subset_append_right _ _)

theorem values_subset_valuesOfMembers {members : List (String × Json)} {name : String} {value : Json}
    (member : (name, value) ∈ members) : value.values ⊆ valuesOfMembers members := by
  induction members with
  | nil => exact absurd member List.not_mem_nil
  | cons first rest ih =>
    obtain ⟨other, head⟩ := first
    rw [valuesOfMembers]
    rcases List.mem_cons.mp member with same | member
    · rw [(Prod.mk.inj same).2]
      exact List.subset_append_left _ _
    · exact List.Subset.trans (ih member) (List.subset_append_right _ _)

theorem values_subset_of_mem {members : List (String × Json)} {name : String} {value : Json}
    (member : (name, value) ∈ members) : value.values ⊆ (Json.object members).values :=
  List.Subset.trans (values_subset_valuesOfMembers member) (List.subset_cons_self _ _)

theorem Part.values_subset {inner value : Json} (part : Part inner value) : inner.values ⊆ value.values := by
  cases part with
  | self => exact List.Subset.refl _
  | item member => exact List.Subset.trans (values_subset_valuesOfItems member) (List.subset_cons_self _ _)
  | member inside => exact values_subset_of_mem inside

/-- Whether all objects in a value name every member once. -/
def NamesOnce (value : Json) : Prop := ∀ inner ∈ value.values, inner.HasDistinctNames

instance : DecidablePred NamesOnce := fun value => inferInstanceAs (Decidable (∀ inner ∈ value.values, _))

theorem NamesOnce.mono {inner value : Json} (names : value.NamesOnce) (inside : inner.values ⊆ value.values) :
    inner.NamesOnce :=
  fun other member => names other (inside member)

theorem NamesOnce.nodup {members : List (String × Json)} (names : (Json.object members).NamesOnce) :
    (members.map (·.1)).Nodup :=
  names _ (self_mem_values _)

end Json

/-! ## Slots -/

/-- The sub-schemas in a keyword of a schema object, each with the tokens that lead to it from there. -/
def KeywordEntry.slots (entry : KeywordEntry Json) : List (List String × Json) :=
  (entry.spec.meaning.slots entry.item).map fun slot => (entry.spec.keyword :: slot.1, slot.2)

/-- The sub-schemas of a schema of the draft in the order in which its keywords are applied, each with the tokens that
lead to it. -/
def Json.slots : Json → List (List String × Json)
  | .object members =>
    (KeywordEntry.inOrder (Site.knownMembers Draft.dialect members)).flatMap KeywordEntry.slots
  | _ => []

theorem KeywordEntry.ne_nil_of_mem_slots {entry : KeywordEntry Json} {slot : List String × Json}
    (member : slot ∈ entry.slots) : slot.1 ≠ [] := by
  obtain ⟨inner, -, rfl⟩ := List.mem_map.mp member
  exact List.cons_ne_nil _ _

theorem Json.exists_entry_of_mem_slots {value : Json} {slot : List String × Json} (member : slot ∈ value.slots) :
    ∃ members, value = .object members ∧
      ∃ entry ∈ KeywordEntry.inOrder (Site.knownMembers Draft.dialect members), slot ∈ entry.slots := by
  cases value with
  | object members =>
    obtain ⟨entry, inside, found⟩ := List.mem_flatMap.mp member
    exact ⟨members, rfl, entry, inside, found⟩
  | _ => exact absurd member List.not_mem_nil

theorem Json.ne_nil_of_mem_slots {value : Json} {slot : List String × Json} (member : slot ∈ value.slots) :
    slot.1 ≠ [] := by
  obtain ⟨members, -, entry, -, found⟩ := Json.exists_entry_of_mem_slots member
  exact KeywordEntry.ne_nil_of_mem_slots found

theorem KeywordEntry.values_subset_of_mem_slots {entry : KeywordEntry Json} {slot : List String × Json}
    (member : slot ∈ entry.slots) : slot.2.values ⊆ entry.item.values := by
  obtain ⟨inner, inside, rfl⟩ := List.mem_map.mp member
  exact (StandardKeyword.part_of_mem_slots _ inside).values_subset

/-! ## Branches -/

namespace Rule

/-- The sub-schemas of a rule in order, each with the tokens that lead to it from the schema object. -/
def branches (rule : Rule) : List (List String × Nat) :=
  rule.twigs.map fun twig => (rule.keyword :: twig.1, twig.2)

theorem map_snd_branches (rule : Rule) : rule.branches.map (·.2) = rule.subschemas := by
  rw [branches, List.map_map, ← map_snd_twigs]
  rfl

end Rule

namespace Node

/-- The sub-schemas of a node in the order in which its rules are applied, each with the tokens that lead to it. -/
def slots (node : Node) : List (List String × Nat) := node.rules.flatMap Rule.branches

/-- The numbers of the sub-schemas of a node in the order in which its rules are applied. -/
def children (node : Node) : List Nat := node.rules.flatMap Rule.subschemas

theorem map_snd_slots (node : Node) : node.slots.map (·.2) = node.children := by
  rw [slots, children, List.map_flatMap]
  exact congrArg (List.flatMap · node.rules) (funext Rule.map_snd_branches)

/-- Whether a node has rules of keywords of a value only, some numbers in the slots of the value, and references that
the texts in the value give with a base. -/
structure Shows (node : Node) (value : Json) (base : Url) (numbers : List Nat) : Prop where
  slots_eq : node.slots = (value.slots.map (·.1)).zip numbers
  keywords : ∀ rule ∈ node.rules, (value.member? rule.keyword).isSome
  references : ∀ rule ∈ node.rules, ∀ reference ∈ rule.reference?,
    ∃ text, value.member? rule.keyword = some (.string text) ∧ base.join text = .ok reference

end Node

/-- Unknown members have no sub-schemas. -/
theorem Site.flatMap_branches_withUnknown (unknown : List (String × Json)) (rules : List Rule) :
    (withUnknown unknown rules).flatMap Rule.branches = rules.flatMap Rule.branches := by
  obtain ⟨ahead, behind, rfl, inserted, -⟩ := withUnknown_eq unknown rules
  have none : (unknown.map fun member => Rule.unknown member.1 member.2).flatMap Rule.branches = [] := by
    rw [List.flatMap_map]
    exact List.flatMap_eq_nil_iff.mpr fun member _ => rfl
  rw [inserted, List.flatMap_append, List.flatMap_append, none, List.append_nil, List.flatMap_append]

/-! ## Keywords list their slots -/

namespace KeywordSite

/-- Whether the rule that a keyword is compiled to has a branch for each slot of the keyword. -/
def ListsSlots (meaning : StandardKeyword) (value : Json) : Prop :=
  ∀ (place : KeywordSite) (registered : Bool) (sub : Site → Json → Compile Nat) (before after : Assembly)
    (result : Site × Option Rule), Yields (place.compile registered sub meaning value) before result after →
      ∃ numbers, Yields (place.compileSlots sub (meaning.slots value)) before numbers after ∧
        result.2.toList.flatMap Rule.twigs = ((meaning.slots value).map (·.1)).zip numbers

variable {meaning : StandardKeyword} {value : Json} {place : KeywordSite} {sub : Site → Json → Compile Nat}
  {before after : Assembly}

theorem length_of_yields_compileSlots {slots : List (List String × Json)} {numbers : List Nat}
    (yields : Yields (place.compileSlots sub slots) before numbers after) : numbers.length = slots.length := by
  induction slots generalizing before numbers with
  | nil =>
    obtain ⟨rfl, -⟩ := yields_compileSlots_nil.mp yields
    rfl
  | cons slot slots ih =>
    obtain ⟨number, rest, between, rfl, -, others⟩ := yields_compileSlots_cons.mp yields
    rw [List.length_cons, List.length_cons, ih others]

/-- A keyword without slots leaves no rule with sub-schemas. -/
theorem listsSlots_of_none (other : meaning ≠ .id) (none : meaning.slots value = []) : ListsSlots meaning value := by
  intro place registered sub before after result yields
  obtain ⟨-, numbers, slots, lists, -⟩ := fillsSlots meaning value other _ _ _ _ _ _ yields
  refine ⟨numbers, slots, ?_⟩
  rw [none] at slots ⊢
  obtain ⟨rfl, -⟩ := yields_compileSlots_nil.mp slots
  refine List.flatMap_eq_nil_iff.mpr fun rule member => Rule.twigs_eq_nil (lists rule ?_)
  exact Option.mem_toList.mp member

theorem listsSlots_of_subschema (rule : Nat → Rule) (slots : meaning.slots value = [([], value)])
    (compiles : ∀ place registered sub, compile place registered sub meaning value =
      do return place.leaves (rule (← place.subschema sub value)))
    (twigs : ∀ number, (rule number).twigs = [([], number)]) : ListsSlots meaning value := by
  intro place registered sub before after result yields
  rw [compiles, yields_bind] at yields
  obtain ⟨number, between, yields, made⟩ := yields
  obtain ⟨rfl, rfl⟩ := yields_pure.mp made
  rw [slots]
  refine ⟨[number], yields_compileSlots_singleton.mpr ⟨number, rfl, yields⟩, ?_⟩
  rw [leaves, Option.toList_some, List.flatMap_singleton, twigs]
  rfl

theorem zip_zipIdx {elements : List Json} {numbers : List Nat} (same : numbers.length = elements.length)
    (start : Nat) : (numbers.zipIdx start).map (fun entry => ([toString entry.2], entry.1)) =
      (((elements.zipIdx start).map fun entry => ([toString entry.2], entry.1)).map (·.1)).zip numbers := by
  induction elements generalizing numbers start with
  | nil =>
    obtain rfl := List.length_eq_zero_iff.mp same
    rfl
  | cons element elements ih =>
    cases numbers with
    | nil => cases same
    | cons number numbers =>
      simp only [List.zipIdx_cons, List.map_cons, List.zip_cons_cons, ih (Nat.succ.inj same) (start + 1)]

theorem listsSlots_of_someSubschemas (rule : List Nat → Rule)
    (slots : ∀ elements, value = .array elements →
      meaning.slots value = elements.zipIdx.map fun (element, index) => ([toString index], element))
    (compiles : ∀ place registered sub, compile place registered sub meaning value =
      do return place.leaves (rule (← place.someSubschemas sub value)))
    (twigs : ∀ numbers, (rule numbers).twigs = numbers.zipIdx.map fun (number, index) => ([toString index], number)) :
    ListsSlots meaning value := by
  intro place registered sub before after result yields
  rw [compiles, yields_bind] at yields
  obtain ⟨numbers, between, yields, made⟩ := yields
  obtain ⟨rfl, rfl⟩ := yields_pure.mp made
  obtain ⟨first, rest, same, yields⟩ := yields_someSubschemas.mp yields
  rw [slots _ same]
  refine ⟨numbers, yields, ?_⟩
  have length := length_of_yields_compileSlots yields
  rw [List.length_map, List.length_zipIdx] at length
  rw [leaves, Option.toList_some, List.flatMap_singleton, twigs]
  exact zip_zipIdx length 0

theorem zip_members {κ : Type} {key : String → Except CompileError κ} {name : κ → String}
    (named : ∀ text found, key text = .ok found → name found = text) {members : List (String × Json)}
    {found : List (κ × Nat)} (keys : members.map (fun member => key member.1) = found.map fun entry => .ok entry.1) :
    found.map (fun entry => ([name entry.1], entry.2)) =
      ((members.map fun member => ([member.1], member.2)).map (·.1)).zip (found.map (·.2)) := by
  induction members generalizing found with
  | nil =>
    obtain rfl := List.map_eq_nil_iff.mp keys.symm
    rfl
  | cons member members ih =>
    cases found with
    | nil => cases keys
    | cons entry found =>
      obtain ⟨first, rest⟩ := List.cons.inj keys
      simp only [List.map_cons, List.zip_cons_cons, named _ _ first, ih rest]

theorem listsSlots_of_subschemasBy {κ : Type} (key : KeywordSite → String → Except CompileError κ)
    (rule : List (κ × Nat) → Rule) (name : κ → String)
    (slots : ∀ members, value = .object members →
      meaning.slots value = members.map fun (name, member) => ([name], member))
    (compiles : ∀ place registered sub, compile place registered sub meaning value =
      do return place.leaves (rule (← place.subschemasBy sub (key place) value)))
    (named : ∀ place text found, key place text = .ok found → name found = text)
    (twigs : ∀ found, (rule found).twigs = found.map fun (key, number) => ([name key], number)) :
    ListsSlots meaning value := by
  intro place registered sub before after result yields
  rw [compiles, yields_bind] at yields
  obtain ⟨found, between, yields, made⟩ := yields
  obtain ⟨rfl, rfl⟩ := yields_pure.mp made
  obtain ⟨members, same, keys, yields⟩ := yields_subschemasBy.mp yields
  rw [slots _ same]
  refine ⟨found.map (·.2), yields, ?_⟩
  rw [leaves, Option.toList_some, List.flatMap_singleton, twigs]
  exact zip_members (named place) keys

theorem source_of_pattern {source : String} {pattern : Pattern} (read : place.pattern source = .ok pattern) :
    pattern.source = source := by
  unfold KeywordSite.pattern at read
  cases found : Pattern.ofSource? source with
  | none =>
    rw [found] at read
    cases read
  | some made =>
    rw [found] at read
    obtain rfl := Except.ok.inj read
    obtain ⟨expression, -, rfl⟩ := Option.map_eq_some_iff.mp found
    rfl

/-- Every keyword but an id lists its slots. -/
theorem listsSlots (meaning : StandardKeyword) (value : Json) (other : meaning ≠ .id) : ListsSlots meaning value := by
  cases meaning with
  | items => exact listsSlots_of_subschema .items rfl (fun _ _ _ => rfl) fun _ => rfl
  | contains => exact listsSlots_of_subschema .contains rfl (fun _ _ _ => rfl) fun _ => rfl
  | additionalProperties => exact listsSlots_of_subschema .additionalProperties rfl (fun _ _ _ => rfl) fun _ => rfl
  | propertyNames => exact listsSlots_of_subschema .propertyNames rfl (fun _ _ _ => rfl) fun _ => rfl
  | condition => exact listsSlots_of_subschema .condition rfl (fun _ _ _ => rfl) fun _ => rfl
  | consequence => exact listsSlots_of_subschema (.branch true) rfl (fun _ _ _ => rfl) fun _ => rfl
  | alternative => exact listsSlots_of_subschema (.branch false) rfl (fun _ _ _ => rfl) fun _ => rfl
  | not => exact listsSlots_of_subschema .not rfl (fun _ _ _ => rfl) fun _ => rfl
  | unevaluatedItems => exact listsSlots_of_subschema .unevaluatedItems rfl (fun _ _ _ => rfl) fun _ => rfl
  | unevaluatedProperties =>
    exact listsSlots_of_subschema .unevaluatedProperties rfl (fun _ _ _ => rfl) fun _ => rfl
  | contentSchema => exact listsSlots_of_subschema .contentSchema rfl (fun _ _ _ => rfl) fun _ => rfl
  | prefixItems =>
    exact listsSlots_of_someSubschemas .prefixItems (fun _ same => by rw [same]; rfl) (fun _ _ _ => rfl) fun _ => rfl
  | combination kind =>
    exact listsSlots_of_someSubschemas (.combination kind) (fun _ same => by rw [same]; rfl) (fun _ _ _ => rfl)
      fun _ => rfl
  | defs =>
    exact listsSlots_of_subschemasBy (fun _ => .ok) .defs id (fun _ same => by rw [same]; rfl) (fun _ _ _ => rfl)
      (fun _ _ _ => Except.ok.inj ∘ Eq.symm) fun _ => rfl
  | properties =>
    exact listsSlots_of_subschemasBy (fun _ => .ok) .properties id (fun _ same => by rw [same]; rfl)
      (fun _ _ _ => rfl) (fun _ _ _ => Except.ok.inj ∘ Eq.symm) fun _ => rfl
  | dependentSchemas =>
    exact listsSlots_of_subschemasBy (fun _ => .ok) .dependentSchemas id (fun _ same => by rw [same]; rfl)
      (fun _ _ _ => rfl) (fun _ _ _ => Except.ok.inj ∘ Eq.symm) fun _ => rfl
  | patternProperties =>
    exact listsSlots_of_subschemasBy pattern .patternProperties (·.source) (fun _ same => by rw [same]; rfl)
      (fun _ _ _ => rfl) (fun _ _ _ => source_of_pattern) fun _ => rfl
  | _ => exact listsSlots_of_none other rfl

end KeywordSite

end JsonSchema
