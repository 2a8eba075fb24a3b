import JsonSchema.Proofs.Evaluation.Closed

/-! # Unevaluated items

Rules about items attach truths, last indices and lists of indices to an array. Decoded
(`StandardKeyword.Decodes`), these values tell exactly the items that the rules evaluate by themselves
(`Rule.EvaluatesItem`). The rule about unevaluated items therefore applies its sub-schema to exactly the items that
neither a rule of the same schema object evaluates nor a rule of sub-schemas that were applied in place and are
valid.
-/

namespace JsonSchema

/-- The number of items of an array. -/
def Json.itemCount : Json → Nat
  | .array items => items.length
  | _ => 0

/-- Whether a rule evaluates the item at an index by itself. The rules about the items behind others and about
unevaluated items evaluate all items once they are applied to one; `contains` evaluates those that match. -/
def Rule.EvaluatesItem (owner : Application) (step : Trace) (rule : Rule) (index : Nat) : Prop :=
  index < owner.value.itemCount ∧
    match rule with
    | .prefixItems schemas => index < schemas.length
    | .items _ | .unevaluatedItems _ => step.children ≠ []
    | .contains _ => ∃ child, step.children[index]? = some child ∧ child.isValid = true
    | _ => False

/-! ## The values that rules attach -/

/-- The keywords whose attached values tell items. -/
def itemKeywords : List StandardKeyword := [.prefixItems, .items, .contains, .unevaluatedItems]

theorem standard_mem_of_mem_itemKeywords :
    ∀ keyword ∈ itemKeywords, KeywordSpec.standard keyword ∈ Draft.dialect.keywords := by
  rw [Draft.keywords_eq]
  decide +kernel

/-- Whether the value attached under a keyword tells the item at an index: `true` tells all items, the number of
`prefixItems` those up to it, and the list of `contains` those in it. -/
def StandardKeyword.Decodes (keyword : StandardKeyword) (value : Json) (index : Nat) : Prop :=
  match keyword with
  | .prefixItems => value = .bool true ∨ ∃ last, value.index? = some last ∧ index < countThrough last
  | .items | .unevaluatedItems => value = .bool true
  | .contains => ∃ positions, value = .array positions ∧ ∃ position ∈ positions, position.index? = some index
  | _ => False

/-- Whether an attached value tells an item. -/
def TellsItem (value : Json) (entry : String × Json) (index : Nat) : Prop :=
  index < value.itemCount ∧ ∃ keyword ∈ itemKeywords, entry.1 = keyword.name ∧ keyword.Decodes entry.2 index

theorem lt_foldl_max {counts : List Nat} {start index : Nat} :
    index < counts.foldl max start ↔ index < start ∨ ∃ count ∈ counts, index < count := by
  induction counts generalizing start with
  | nil => simp
  | cons head rest ih =>
    have either : index < max start head ↔ index < start ∨ index < head := by omega
    simp [ih, either, or_assoc]

/-- The items behind some others are those whose index is not among the first ones. -/
theorem drop_zipIdx {α : Type} (values : List α) (base start : Nat) :
    (values.zipIdx base).drop start = (values.zipIdx base).filter fun entry => base + start ≤ entry.2 := by
  induction values generalizing base start with
  | nil => simp
  | cons head rest ih =>
    cases start with
    | zero =>
      refine (List.filter_eq_self.mpr fun entry member => ?_).symm
      simpa using List.le_snd_of_mem_zipIdx member
    | succ start =>
      have behind := ih (base + 1) start
      simp only [Nat.add_right_comm base 1 start] at behind
      rw [List.zipIdx_cons, List.drop_succ_cons, List.filter_cons_of_neg (by simp), behind]
      rfl

theorem index?_ofNat {index : Nat} (small : index < Word.count) : (Json.ofNat index).index? = some index := by
  have exact : Number.inExactRange index = true := by
    refine Bool.and_eq_true_iff.mpr ⟨decide_eq_true ?_, decide_eq_true (Int.ofNat_lt.mpr small)⟩
    exact Int.le_trans (Int.neg_nonpos_of_nonneg (Int.natCast_nonneg _)) (Int.natCast_nonneg _)
  rw [Json.ofNat, Json.ofInt, Number.ofInt, if_pos exact, Json.index?, if_pos (Int.natCast_nonneg _), Int.toNat_natCast]

theorem countThrough_pred {count : Nat} (positive : 0 < count) (small : count < Word.count) :
    countThrough (count - 1) = count := by
  rw [countThrough, Nat.sub_add_cancel positive, Nat.mod_eq_of_lt small]

/-- The index of the last of some items tells these items. -/
theorem decodes_last {count index : Nat} (positive : 0 < count) (small : count < Word.count) :
    StandardKeyword.prefixItems.Decodes (.ofNat (count - 1)) index ↔ index < count := by
  have through := countThrough_pred positive small
  have last := index?_ofNat (Nat.lt_of_le_of_lt (Nat.sub_le count 1) small)
  constructor
  · rintro (impossible | ⟨position, found, early⟩)
    · cases impossible
    · obtain rfl := Option.some.inj (last.symm.trans found)
      exact through ▸ early
  · exact fun early => .inr ⟨_, last, through.symm ▸ early⟩

/-- A list of indices tells the items at these. -/
theorem decodes_positions {positions : List Nat} {index : Nat} (small : ∀ position ∈ positions, position < Word.count) :
    StandardKeyword.contains.Decodes (.array (positions.map .ofNat)) index ↔ index ∈ positions := by
  constructor
  · rintro ⟨_, same, _, member, found⟩
    obtain rfl := Json.array.inj same
    obtain ⟨position, listed, rfl⟩ := List.mem_map.mp member
    obtain rfl := Option.some.inj ((index?_ofNat (small position listed)).symm.trans found)
    exact listed
  · exact fun member => ⟨_, rfl, _, List.mem_map_of_mem member, index?_ofNat (small index member)⟩

namespace Facts

variable {facts : Facts}

theorem mem_validPositions {outcomes : List Outcome} {index : Nat} :
    index ∈ validPositions outcomes ↔ ∃ outcome, outcomes[index]? = some outcome ∧ outcome.isValid = true := by
  simp [validPositions, List.mem_zipIdx_iff_getElem?]

theorem allItemsEvaluated_iff : facts.allItemsEvaluated = true ↔ .bool true ∈
    facts.attachedBy .items ++ facts.attachedBy .unevaluatedItems ++ facts.attachedBy .prefixItems := by
  unfold allItemsEvaluated
  rw [List.any_eq_true]
  constructor
  · rintro ⟨value, member, holds⟩
    split at holds
    · exact member
    · exact Bool.noConfusion holds
  · exact fun member => ⟨_, member, rfl⟩

/-- Whether the attached values say that one of the items was evaluated, given its index. -/
def tellsItem (facts : Facts) (items : List Json) (index : Nat) : Bool :=
  decide (index < items.length) && (facts.allItemsEvaluated ||
    decide (index < (((facts.attachedBy .prefixItems).filterMap (·.index?)).map countThrough).foldl max 0) ||
    (((facts.attachedBy .contains).filterMap (·.items?)).flatten.filterMap (·.index?)).contains index)

theorem lt_prefix_iff {index : Nat} :
    index < (((facts.attachedBy .prefixItems).filterMap (·.index?)).map countThrough).foldl max 0 ↔
      ∃ value ∈ facts.attachedBy .prefixItems, ∃ last, value.index? = some last ∧ index < countThrough last := by
  rw [lt_foldl_max]
  simp only [List.mem_map, List.mem_filterMap, Nat.not_lt_zero, false_or]
  constructor
  · rintro ⟨_, ⟨last, ⟨value, member, found⟩, rfl⟩, early⟩
    exact ⟨value, member, last, found, early⟩
  · rintro ⟨value, member, last, found, early⟩
    exact ⟨_, ⟨last, ⟨value, member, found⟩, rfl⟩, early⟩

theorem mem_contained_iff {index : Nat} :
    index ∈ ((facts.attachedBy .contains).filterMap (·.items?)).flatten.filterMap (·.index?) ↔
      ∃ value ∈ facts.attachedBy .contains, StandardKeyword.contains.Decodes value index := by
  simp [StandardKeyword.Decodes, Json.items?_eq_some_iff]

/-- The items taken for evaluated are those that attached values tell. -/
theorem tellsItem_iff {items : List Json} {index : Nat} :
    facts.tellsItem items index = true ↔ ∃ entry ∈ facts.attached, TellsItem (.array items) entry index := by
  have collected : facts.tellsItem items index = true ↔ index < items.length ∧
      ∃ keyword ∈ itemKeywords, ∃ attached ∈ facts.attachedBy keyword, keyword.Decodes attached index := by
    rw [tellsItem, Bool.and_eq_true, decide_eq_true_eq, Bool.or_eq_true, Bool.or_eq_true, decide_eq_true_eq,
      List.contains_iff_mem, allItemsEvaluated_iff, lt_prefix_iff, mem_contained_iff]
    grind [itemKeywords, StandardKeyword.Decodes]
  rw [collected]
  constructor
  · rintro ⟨inside, keyword, member, attached, present, decodes⟩
    exact ⟨_, mem_attachedBy.mp present, inside, keyword, member, rfl, decodes⟩
  · rintro ⟨⟨other, attached⟩, present, inside, keyword, member, rfl, decodes⟩
    exact ⟨inside, keyword, member, attached, mem_attachedBy.mpr present, decodes⟩

theorem unevaluatedItems_eq (items : List Json) :
    facts.unevaluatedItems items = items.zipIdx.filter (!facts.tellsItem items ·.2) := by
  have early (entry : Json × Nat) (member : entry ∈ items.zipIdx) : decide (entry.2 < items.length) = true := by
    simpa using List.snd_lt_of_mem_zipIdx member
  unfold unevaluatedItems tellsItem
  cases facts.allItemsEvaluated with
  | true =>
    refine (List.filter_eq_nil_iff.mpr fun entry member => ?_).symm
    simp [early entry member]
  | false =>
    simp only [Bool.false_eq_true, if_false, Bool.false_or, drop_zipIdx, List.filter_filter, Nat.zero_add]
    refine List.filter_congr fun entry member => ?_
    rw [early entry member, Bool.true_and, Bool.not_or, Bool.and_comm, ← decide_not]
    simp only [Nat.not_lt]

end Facts

/-! ## What attached values tell -/

namespace Rule

/-- Whether a rule tells the item at an index with its outcome. -/
def ConcludesItem (outcome : Outcome) (keyword : StandardKeyword) (index : Nat) : Prop :=
  ∃ value, outcome.value? = some value ∧ keyword.Decodes value index

theorem concludesItem_annotated {value : Json} {keyword : StandardKeyword} {index : Nat} :
    ConcludesItem (.annotated value) keyword index ↔ keyword.Decodes value index := by
  simp [ConcludesItem, Outcome.value?]

section Conclusions

variable {facts : Facts} {items : List Json} {outcomes : List Outcome} {index : Nat}

theorem concludesItem_prefixItems (fits : items.length ≤ Word.count) (inside : index < items.length)
    {schemas : List Nat} (valid : ((facts.planPrefixItems schemas items).conclude outcomes).isValid = true) :
    ConcludesItem ((facts.planPrefixItems schemas items).conclude outcomes) .prefixItems index ↔
      index < schemas.length := by
  have paired : (schemas.zip items.zipIdx).length = min schemas.length items.length := by simp
  unfold Facts.planPrefixItems at valid ⊢
  rw [Plan.conclude_all valid]
  split
  · next empty =>
    rw [List.isEmpty_iff_length_eq_zero, paired] at empty
    exact iff_of_false (fun ⟨_, impossible, _⟩ => nomatch impossible) (by omega)
  · next some =>
    rw [List.isEmpty_iff_length_eq_zero] at some
    rw [paired] at some ⊢
    split
    · exact iff_of_true (concludesItem_annotated.mpr (.inl rfl)) (by omega)
    · rw [concludesItem_annotated, decodes_last (by omega) (by omega)]
      omega

theorem concludesItem_items {schema : Nat}
    (placed : outcomes.length = (facts.planItems schema items).applications.length)
    (valid : ((facts.planItems schema items).conclude outcomes).isValid = true) :
    ConcludesItem ((facts.planItems schema items).conclude outcomes) .items index ↔ outcomes ≠ [] := by
  unfold Facts.planItems at placed valid ⊢
  rw [Plan.conclude_all valid, concludesItem_annotated, ← List.length_pos_iff, placed]
  simp only [StandardKeyword.Decodes, Plan.all, Json.bool.injEq, decide_eq_true_eq, List.length_map, List.length_drop,
    List.length_zipIdx]
  omega

theorem concludesItem_unevaluatedItems {schema : Nat}
    (placed : outcomes.length = (facts.planUnevaluatedItems schema items).applications.length)
    (valid : ((facts.planUnevaluatedItems schema items).conclude outcomes).isValid = true) :
    ConcludesItem ((facts.planUnevaluatedItems schema items).conclude outcomes) .unevaluatedItems index ↔
      outcomes ≠ [] := by
  unfold Facts.planUnevaluatedItems at placed valid ⊢
  rw [Plan.conclude_all valid, concludesItem_annotated, ← List.length_pos_iff, placed]
  simp [StandardKeyword.Decodes, Plan.all, List.length_pos_iff]

theorem concludesItem_contains (fits : items.length ≤ Word.count) {schema : Nat}
    (placed : outcomes.length = (facts.planContains schema items).applications.length)
    (valid : ((facts.planContains schema items).conclude outcomes).isValid = true) :
    ConcludesItem ((facts.planContains schema items).conclude outcomes) .contains index ↔
      ∃ outcome, outcomes[index]? = some outcome ∧ outcome.isValid = true := by
  have small (position : Nat) (member : position ∈ Facts.validPositions outcomes) : position < Word.count := by
    obtain ⟨outcome, found, -⟩ := Facts.mem_validPositions.mp member
    have inside := (List.getElem?_eq_some_iff.mp found).1
    rw [placed, Facts.planContains, List.length_map, List.length_zipIdx] at inside
    omega
  unfold Facts.planContains at valid ⊢
  dsimp only at valid ⊢
  split at valid
  · exact Bool.noConfusion valid
  · next matched => rw [if_neg matched, concludesItem_annotated, decodes_positions small, Facts.mem_validPositions]

end Conclusions

theorem EvaluatesItem.kind {owner : Application} {step : Trace} {rule : Rule} {index : Nat}
    (evaluates : rule.EvaluatesItem owner step index) : ∃ keyword ∈ itemKeywords, rule.standard? = some keyword := by
  cases rule with
  | prefixItems schemas => exact ⟨.prefixItems, by decide, rfl⟩
  | items schema => exact ⟨.items, by decide, rfl⟩
  | contains schema => exact ⟨.contains, by decide, rfl⟩
  | unevaluatedItems schema => exact ⟨.unevaluatedItems, by decide, rfl⟩
  | _ => exact evaluates.2.elim

end Rule

/-- A valid rule about items tells with its outcome what it evaluates by itself. -/
theorem Run.Performs.evaluatesItem_iff {run : Run} {active : List ActiveResource} {application : Application}
    {before : List Step} {step : Step} (performs : run.Performs active application before step) (scope : Scope)
    (fits : application.value.itemCount ≤ Word.count) (valid : step.isValid = true) {keyword : StandardKeyword}
    (kind : keyword ∈ itemKeywords) (means : step.rule.standard? = some keyword) {index : Nat} :
    step.rule.EvaluatesItem application (step.trace scope) index ↔
      index < application.value.itemCount ∧ Rule.ConcludesItem step.outcome keyword index := by
  refine and_congr_right fun inside => ?_
  cases array : application.value with
  | array items =>
    rw [array] at fits inside
    have placed := congrArg List.length performs.applications_eq
    rw [List.length_map] at placed
    have children := performs.children_trace scope
    have outcomes : (step.results.map (·.2.outcome)).length = step.plan.applications.length := by
      rw [List.length_map, placed]
    rw [Step.isValid] at valid
    rw [Step.outcome] at valid ⊢
    rw [Step.plan, performs.value_eq, array] at valid outcomes ⊢
    simp only [itemKeywords, List.mem_cons, List.not_mem_nil, or_false] at kind
    rcases kind with rfl | rfl | rfl | rfl <;> obtain ⟨schemas, ruled⟩ := Rule.forms_of_standard? means <;>
      rw [ruled] at valid outcomes ⊢
    · exact (Rule.concludesItem_prefixItems fits inside valid).symm
    · rw [children]
      refine Iff.trans ?_ (Rule.concludesItem_items outcomes valid).symm
      simp
    · rw [children]
      refine Iff.trans ?_ (Rule.concludesItem_contains fits outcomes valid).symm
      simp only [List.getElem?_map, Option.map_eq_some_iff, exists_exists_and_eq_and]
      exact Iff.rfl
    · rw [children]
      refine Iff.trans ?_ (Rule.concludesItem_unevaluatedItems outcomes valid).symm
      simp
  | _ =>
    rw [array] at inside
    exact absurd inside (Nat.not_lt_zero index)

/-- The values that rules attach tell which items they evaluate. -/
theorem tells_items : Tells (fun value => value.itemCount ≤ Word.count) Rule.EvaluatesItem TellsItem := by
  constructor
  · intro run active application before step scope fits succeeds value index valued told
    obtain ⟨inside, keyword, kind, named, decodes⟩ := told
    have registered := standard_mem_of_mem_itemKeywords keyword kind
    have means := (succeeds.drafted.orderly.keyword_eq_iff registered succeeds.member).mp named
    rw [succeeds.performs.evaluatesItem_iff scope fits succeeds.valid kind means]
    exact ⟨inside, value, valued, decodes⟩
  · intro run active application before step scope fits succeeds index evaluates
    obtain ⟨keyword, kind, means⟩ := evaluates.kind
    obtain ⟨inside, value, valued, decodes⟩ :=
      (succeeds.performs.evaluatesItem_iff scope fits succeeds.valid kind means).mp evaluates
    exact .inl ⟨value, valued, inside, keyword, kind, Rule.keyword_of_standard? means, decodes⟩

/-! ## The items that are left -/

/-- In an evaluation under the draft the rule about unevaluated items of an array applies its sub-schema to exactly
the items that no other rule of the schema object evaluates, in order, if all other rules are valid. Indices of an
array are words. -/
theorem Schema.unevaluatedItems_applied (schema : Schema) (options : Options) (value : Json)
    (dialects : DialectCache) (drafted : (schema.trace options value dialects).1.IsDrafted) {object : Trace}
    (part : object ∈ (schema.trace options value dialects).1.parts) (branch : object.isBranch = true)
    {application : Application} (applied : object.subject = .application application) {items : List Json}
    (instance_ : application.value = .array items) (fits : items.length ≤ Word.count) {subschema : Nat}
    (ruled : .unevaluatedItems subschema ∈ application.node.rules)
    (succeeded : ∀ step ∈ object.children, step.subject ≠ .rule (.unevaluatedItems subschema) →
      step.isValid = true) :
    ∃ evaluated : Nat → Bool,
      (∀ index, evaluated index = true ↔
        object.EvaluatesBeside Rule.EvaluatesItem (.unevaluatedItems subschema) index) ∧
      ∃ step ∈ object.children, step.subject = .rule (.unevaluatedItems subschema) ∧
        step.children.map (·.subject) = (items.zipIdx.filter (!evaluated ·.2)).map fun item => .application
          ⟨⟨application.target.document, subschema⟩, item.1, some (toString item.2), none, false⟩ := by
  obtain ⟨path, result, yields, rfl⟩ := (Run.yields_evaluate ⟨options, schema⟩ value ⟨[], dialects⟩).part part applied
  have root := drafted _ part application applied
  have silent (other : Rule) (inside : other ∈ application.node.rules) (late : other.category = .unevaluated)
      (different : other ≠ .unevaluatedItems subschema) (step : Trace) (index : Nat) :
      ¬ other.EvaluatesItem application step index := by
    rintro ⟨-, evaluates⟩
    cases other with
    | unevaluatedItems schema => exact different (root.orderly.eq_of_standard? inside ruled rfl rfl)
    | prefixItems schemas | items schema | contains schema => cases late
    | _ => exact evaluates
  obtain ⟨active, before, step, scope, same, performs, member, applications, told⟩ :=
    yields.unevaluated tells_items (by rw [instance_]; exact fits) (drafted.part part) branch ruled rfl silent succeeded
  refine ⟨step.facts.tellsItem items, ?_, step.trace scope, member, ?_, ?_⟩
  · intro index
    rw [Facts.tellsItem_iff, performs.facts_eq, ← instance_, told]
  · rw [step.subject_trace, same]
  · rw [applications, Step.plan, same, performs.value_eq, instance_, performs.facts_eq]
    simp only [Rule.plan, Facts.planUnevaluatedItems, Plan.all, Facts.unevaluatedItems_eq, List.map_map]
    rfl

/-- Items that only a failed branch covers are left, one that a referenced schema contains is not. -/
theorem Schema.unevaluatedItems_behind_failed_branch :
    ∃ schema, (compile .standard (Draft.url "example") (.object [
        ("$defs", .object [("gap", .object [("contains", .object [("type", .string "null")])])]),
        ("allOf", .array [.object [("$ref", .string "#/$defs/gap")]]),
        ("anyOf", .array [.bool true, .object [("prefixItems", .array [.bool true, .bool true, .bool false])]]),
        ("contains", .object [("type", .string "string")]), ("prefixItems", .array [.bool true]),
        ("unevaluatedItems", .object [("type", .string "integer")])])).toOption = some schema ∧
      ∃ items application subschema,
        let object := (schema.trace .standard (.array items) []).1
        items = [.bool true, .string "b", .ofNat 3, .ofNat 4, .null] ∧
          object.IsDrafted ∧ object ∈ object.parts ∧ object.isBranch = true ∧
          object.subject = .application application ∧ application.value = .array items ∧
          items.length ≤ Word.count ∧ .unevaluatedItems subschema ∈ application.node.rules ∧
          (∀ step ∈ object.children, step.subject ≠ .rule (.unevaluatedItems subschema) → step.isValid = true) ∧
          ∃ evaluated : Nat → Bool,
            (∀ index, evaluated index = true ↔
              object.EvaluatesBeside Rule.EvaluatesItem (.unevaluatedItems subschema) index) ∧
            (items.zipIdx.filter (!evaluated ·.2)).map (toString ·.2) = ["2", "3"] := by
  let items : List Json := [.bool true, .string "b", .ofNat 3, .ofNat 4, .null]
  let check (schema : Schema) : Bool := schema.reaches .standard (.array items) .unevaluatedItems ["2", "3"]
  refine (Option.map_eq_some_iff.mp (?_ : Option.map check _ = some true)).imp fun schema ⟨compiled, reaches⟩ =>
    ⟨compiled, items, .inPlace ⟨schema.document, schema.rootIndex⟩ (.array items) none, ?_⟩
  · decide +kernel
  obtain ⟨drafted, branch, valid, rule, member, means, reached⟩ := of_reaches Options.knowsOnlyDraft_standard compiled
    (standard_mem_of_mem_itemKeywords _ (by decide)) reaches
  obtain ⟨subschema, rfl⟩ := Rule.forms_of_standard? means
  have subject := schema.subject_trace .standard (.array items) []
  have part := Trace.self_mem_parts (schema.trace .standard (.array items) []).1
  have fits : items.length ≤ Word.count := by decide +kernel
  obtain ⟨evaluated, evaluates, step, inside, ruled, applied⟩ := unevaluatedItems_applied schema .standard
    (.array items) [] drafted part branch subject rfl fits member fun step inside _ => valid step inside
  refine ⟨subschema, rfl, drafted, part, branch, subject, rfl, fits, member, fun step inside _ => valid step inside,
    evaluated, evaluates, ?_⟩
  rw [← reached step inside ruled]
  exact (Trace.reached_eq applied fun _ => rfl).symm

end JsonSchema
