import JsonSchema.Proofs.Compile.Node
import JsonSchema.Proofs.Keyword.Canonical

/-! # Rules of the draft

The rules of a schema object of Draft 2020-12 are `Orderly`: no keyword has two rules, an unknown keyword has
no name of the draft, no rule stands in front of one that it waits for, and the rules about what is unevaluated stand
behind all others. This needs that the schema object names no member twice.
-/

namespace JsonSchema.Dialect

variable {dialect : Dialect} {members : List (String × Json)}

/-! ## Known members -/

theorem mem_keywords_of_keyword? {name : String} {position : Nat} {spec : KeywordSpec}
    (known : dialect.keyword? name = some (position, spec)) : spec ∈ dialect.keywords ∧ spec.keyword = name := by
  obtain ⟨⟨found, index⟩, search, same⟩ := Option.map_eq_some_iff.mp known
  obtain ⟨rfl, rfl⟩ := Prod.mk.inj same
  exact ⟨List.fst_mem_of_mem_zipIdx (List.mem_of_find?_eq_some search), by simpa using List.find?_some search⟩

theorem keywords_knownMembers_sublist :
    ((Site.knownMembers dialect members).map (·.spec.keyword)).Sublist (members.map (·.1)) := by
  induction members with
  | nil => exact .slnil
  | cons member rest ih =>
    obtain ⟨name, value⟩ := member
    simp only [Site.knownMembers, List.filterMap_cons, List.map_cons] at ih ⊢
    cases known : dialect.keyword? name with
    | none => exact ih.cons _
    | some found =>
      obtain ⟨position, spec⟩ := found
      simp only [Option.map_some, List.map_cons, (mem_keywords_of_keyword? known).2]
      exact ih.cons_cons _

variable (dialect) in
/-- A schema object that names no member twice has every keyword once. -/
theorem nodup_keywords_inOrder (distinct : (members.map (·.1)).Nodup) :
    ((KeywordEntry.inOrder (Site.knownMembers dialect members)).map (·.spec.keyword)).Nodup :=
  ((KeywordEntry.inOrder_perm _).map _).nodup_iff.mpr (distinct.sublist keywords_knownMembers_sublist)

end JsonSchema.Dialect

namespace JsonSchema.Draft

/-! ## The keyword table -/

/-- Keywords with dependencies and their dependencies, each keyword behind those that it waits for. -/
def waiting : List String :=
  ["contentEncoding", "contentMediaType", "contentSchema", "if", "then", "else", "prefixItems", "items", "contains",
   "minContains", "maxContains", "properties", "patternProperties", "additionalProperties", "unevaluatedItems",
   "unevaluatedProperties"]

/-- The vocabularies of the dialect share no keyword. -/
theorem keywords_eq : dialect.keywords =
    [core, applicator, unevaluated, validation, metaData, formatAnnotations, content].flatMap (·.keywords) := by
  decide +kernel

theorem eq_standard_of_mem : ∀ spec ∈ dialect.keywords, spec = .standard spec.meaning := by
  rw [keywords_eq]
  decide +kernel

theorem eq_of_keyword_eq :
    ∀ a ∈ dialect.keywords, ∀ b ∈ dialect.keywords, a.keyword = b.keyword → a = b := by
  rw [keywords_eq]
  decide +kernel

theorem idxOf_dependency_lt : ∀ spec ∈ dialect.keywords, ∀ name ∈ spec.dependencies,
    waiting.idxOf name < waiting.idxOf spec.keyword := by
  rw [keywords_eq]
  decide +kernel

/-- No keyword waits for one about what is unevaluated unless it is such a keyword itself. -/
theorem category_dependency_ne : ∀ spec ∈ dialect.keywords, spec.category ≠ .unevaluated →
    ∀ other ∈ dialect.keywords, other.keyword ∈ spec.dependencies → other.category ≠ .unevaluated := by
  rw [keywords_eq]
  decide +kernel

theorem order_lt_of_unevaluated : ∀ a ∈ dialect.keywords, ∀ b ∈ dialect.keywords,
    a.category = .unevaluated → b.category ≠ .unevaluated → b.order < a.order := by
  rw [keywords_eq]
  decide +kernel

/-! ## The keywords of a schema object -/

/-- Whether an entry is about what is unevaluated. -/
def isLate (entry : KeywordEntry Json) : Bool := entry.spec.category == .unevaluated

variable {members : List (String × Json)}

theorem keyword?_ne_none {spec : KeywordSpec} (registered : spec ∈ dialect.keywords) :
    dialect.keyword? spec.keyword ≠ none := by
  intro unknown
  obtain ⟨index, bound, rfl⟩ := List.mem_iff_getElem.mp registered
  have absent := List.find?_eq_none.mp (Option.map_eq_none_iff.mp unknown) _
    (List.mk_mem_zipIdx_iff_getElem?.mpr (List.getElem?_eq_getElem bound))
  simp at absent

theorem mem_keywords_of_mem_knownMembers {entry : KeywordEntry Json}
    (member : entry ∈ Site.knownMembers dialect members) : entry.spec ∈ dialect.keywords := by
  obtain ⟨⟨name, value⟩, -, made⟩ := List.mem_filterMap.mp member
  obtain ⟨⟨position, spec⟩, known, rfl⟩ := Option.map_eq_some_iff.mp made
  exact (Dialect.mem_keywords_of_keyword? known).1

theorem layered_knownMembers :
    KeywordEntry.Layered waiting.idxOf isLate (Site.knownMembers dialect members) := by
  constructor
  · intro entry member
    exact idxOf_dependency_lt _ (mem_keywords_of_mem_knownMembers member)
  · intro entry member early other inside depends
    simp only [isLate, beq_eq_false_iff_ne] at early ⊢
    exact category_dependency_ne _ (mem_keywords_of_mem_knownMembers member) early _
      (mem_keywords_of_mem_knownMembers inside) depends

theorem pairwise_inOrder_knownMembers :
    (KeywordEntry.inOrder (Site.knownMembers dialect members)).Pairwise fun a b =>
      isLate a = true → isLate b = true := by
  refine KeywordEntry.pairwise_inOrder layered_knownMembers ?_
  intro a memberA b memberB lateA earlyB
  simp only [isLate, beq_eq_false_iff_ne, beq_iff_eq] at lateA earlyB
  exact order_lt_of_unevaluated _ (mem_keywords_of_mem_knownMembers memberA) _
    (mem_keywords_of_mem_knownMembers memberB) lateA earlyB

theorem mem_keywords_of_mem_inOrder {entry : KeywordEntry Json}
    (member : entry ∈ KeywordEntry.inOrder (Site.knownMembers dialect members)) : entry.spec ∈ dialect.keywords :=
  mem_keywords_of_mem_knownMembers ((KeywordEntry.inOrder_perm _).subset member)

/-- What holds between the keywords of a schema object in the order of application follows from their meanings. -/
theorem pairwise_meanings_inOrder (related : KeywordSpec → KeywordSpec → Prop)
    (between : (KeywordEntry.inOrder (Site.knownMembers dialect members)).Pairwise fun a b => related a.spec b.spec) :
    (KeywordEntry.inOrder (Site.knownMembers dialect members)).Pairwise fun a b =>
      related (.standard a.spec.meaning) (.standard b.spec.meaning) := by
  refine between.imp_of_mem fun {a b} memberA memberB holds => ?_
  rwa [← eq_standard_of_mem _ (mem_keywords_of_mem_inOrder memberA),
    ← eq_standard_of_mem _ (mem_keywords_of_mem_inOrder memberB)]

/-- Keywords in the order of application that are named once have distinct meanings. -/
theorem nodup_meanings_inOrder (distinct : (members.map (·.1)).Nodup) :
    ((KeywordEntry.inOrder (Site.knownMembers dialect members)).map (some ·.spec.meaning)).Nodup := by
  have named := pairwise_meanings_inOrder (fun a b => a.keyword ≠ b.keyword)
    (List.pairwise_map.mp (Dialect.nodup_keywords_inOrder dialect distinct))
  rw [List.Nodup, List.pairwise_map]
  exact named.imp fun different same => different (by rw [Option.some.inj same])

/-! ## Orderly rules -/

end JsonSchema.Draft

namespace JsonSchema.Rule

theorem keyword_of_standard? {rule : Rule} {meaning : StandardKeyword} (means : rule.standard? = some meaning) :
    rule.keyword = meaning.name := by
  cases rule <;> cases means <;> rfl

theorem eq_unknown_of_standard? {rule : Rule} (strange : rule.standard? = none) :
    ∃ name value, rule = .unknown name value := by
  cases rule <;> first | exact ⟨_, _, rfl⟩ | cases strange

theorem exists_standard?_of_unevaluated {rule : Rule} (late : rule.category = .unevaluated) :
    ∃ meaning, rule.standard? = some meaning := by
  cases means : rule.standard? with
  | some meaning => exact ⟨meaning, rfl⟩
  | none =>
    rw [category, means] at late
    cases late

/-- What the rules of those keywords look like that are about members, items or conditions. -/
def Forms (rule : Rule) : StandardKeyword → Prop
  | .condition => ∃ schema, rule = .condition schema
  | .properties => ∃ schemas, rule = .properties schemas
  | .patternProperties => ∃ schemas, rule = .patternProperties schemas
  | .additionalProperties => ∃ schema, rule = .additionalProperties schema
  | .unevaluatedProperties => ∃ schema, rule = .unevaluatedProperties schema
  | .prefixItems => ∃ schemas, rule = .prefixItems schemas
  | .items => ∃ schema, rule = .items schema
  | .contains => ∃ schema, rule = .contains schema
  | .unevaluatedItems => ∃ schema, rule = .unevaluatedItems schema
  | _ => True

theorem forms_of_standard? {rule : Rule} {meaning : StandardKeyword} (means : rule.standard? = some meaning) :
    rule.Forms meaning := by
  cases rule with
  | branch truth schema => cases truth <;> cases means <;> trivial
  | assertion check => cases check <;> cases means <;> trivial
  | format name asserted => cases asserted <;> cases means <;> trivial
  | unknown name value => cases means
  | _ =>
    cases means
    first | exact ⟨_, rfl⟩ | trivial

/-- Whether a rule of the draft waits for another: its keyword depends on that of the other. -/
def WaitsFor (rule other : Rule) : Prop :=
  ∃ meaning awaited, rule.standard? = some meaning ∧ other.standard? = some awaited ∧
    awaited.name ∈ meaning.dependencies

end JsonSchema.Rule

namespace JsonSchema.Draft

variable {members : List (String × Json)}

/-- How the rules of a schema object stand to each other. -/
structure Orderly (rules : List Rule) : Prop where
  /-- No keyword has two rules. -/
  distinct : rules.Pairwise fun a b => a.standard?.isSome → a.standard? ≠ b.standard?
  registered : ∀ rule ∈ rules, ∀ meaning, rule.standard? = some meaning → .standard meaning ∈ dialect.keywords
  strange : ∀ name value, .unknown name value ∈ rules → dialect.keyword? name = none
  /-- No rule waits for one behind it. -/
  ahead : rules.Pairwise fun a b => ¬ a.WaitsFor b
  /-- The rules about what is unevaluated come last. -/
  last : rules.Pairwise fun a b => a.category = .unevaluated → b.category = .unevaluated

section Unknown

variable {unknown : List (String × Json)} {known : List Rule}

theorem mem_withUnknown {rule : Rule} (member : rule ∈ Site.withUnknown unknown known) :
    rule ∈ known ∨ ∃ entry ∈ unknown, rule = .unknown entry.1 entry.2 := by
  obtain ⟨ahead, behind, rfl, inserted, -⟩ := Site.withUnknown_eq unknown known
  rw [inserted] at member
  rcases List.mem_append.mp member with member | inside
  · rcases List.mem_append.mp member with inside | new
    · exact .inl (List.mem_append_left _ inside)
    · obtain ⟨entry, inside, rfl⟩ := List.mem_map.mp new
      exact .inr ⟨entry, inside, rfl⟩
  · exact .inl (List.mem_append_right _ inside)

/-- What holds between known rules holds with unknown ones among them, if it holds of an unknown rule and any
other, and of a rule that is not about what is unevaluated and an unknown one. -/
theorem pairwise_withUnknown {related : Rule → Rule → Prop} (between : known.Pairwise related)
    (first : ∀ name value other, related (.unknown name value) other)
    (second : ∀ rule, rule.category ≠ .unevaluated → ∀ name value, related rule (.unknown name value)) :
    (Site.withUnknown unknown known).Pairwise related := by
  obtain ⟨ahead, behind, rfl, inserted, early⟩ := Site.withUnknown_eq unknown known
  obtain ⟨inAhead, inBehind, across⟩ := List.pairwise_append.mp between
  rw [inserted, List.append_assoc, List.pairwise_append, List.pairwise_append, List.pairwise_map]
  refine ⟨inAhead, ⟨?_, inBehind, ?_⟩, ?_⟩
  · exact List.pairwise_of_forall fun entry other => first entry.1 entry.2 _
  · intro rule member other _
    obtain ⟨entry, -, rfl⟩ := List.mem_map.mp member
    exact first entry.1 entry.2 other
  · intro rule member other inside
    rcases List.mem_append.mp inside with new | inside
    · obtain ⟨entry, -, rfl⟩ := List.mem_map.mp new
      exact second rule (early rule member) entry.1 entry.2
    · exact across rule member other inside

end Unknown

/-- What holds between the keywords of a schema object in the order of application holds between those of its rules. -/
theorem pairwise_of_sublist (related : KeywordSpec → KeywordSpec → Prop) {known : List Rule}
    (sublist : (known.map (·.standard?)).Sublist
      ((KeywordEntry.inOrder (Site.knownMembers dialect members)).map (some ·.spec.meaning)))
    (between : (KeywordEntry.inOrder (Site.knownMembers dialect members)).Pairwise fun a b => related a.spec b.spec) :
    known.Pairwise fun a b => ∀ meaning other, a.standard? = some meaning → b.standard? = some other →
      related (.standard meaning) (.standard other) := by
  have meanings : ((KeywordEntry.inOrder (Site.knownMembers dialect members)).map (some ·.spec.meaning)).Pairwise
      fun a b => ∀ meaning other, a = some meaning → b = some other →
        related (.standard meaning) (.standard other) := by
    refine List.pairwise_map.mpr ((pairwise_meanings_inOrder related between).imp ?_)
    intro a b holds meaning other sameA sameB
    rwa [Option.some.inj sameA, Option.some.inj sameB] at holds
  exact List.pairwise_map.mp (meanings.sublist sublist)

theorem orderly_of_arranges {rules : List Rule} (distinct : (members.map (·.1)).Nodup)
    (arranged : dialect.Arranges members rules) : Orderly rules := by
  obtain ⟨known, unknown, rfl, sublist, strange⟩ := arranged
  -- Every known rule has the meaning of an entry that is registered.
  have means (rule : Rule) (member : rule ∈ known) : ∃ spec ∈ dialect.keywords, rule.standard? = some spec.meaning := by
    obtain ⟨entry, inside, same⟩ := List.mem_map.mp (sublist.subset (List.mem_map_of_mem member))
    exact ⟨entry.spec, mem_keywords_of_mem_inOrder inside, same.symm⟩
  constructor
  · refine pairwise_withUnknown ?_ ?_ ?_
    · refine (List.pairwise_map.mp ((nodup_meanings_inOrder distinct).sublist sublist)).imp ?_
      intro a b different _
      exact different
    · exact fun name value other known => by cases known
    · intro rule early name value known same
      rw [same] at known
      cases known
  · intro rule member meaning same
    rcases mem_withUnknown member with inside | ⟨entry, -, rfl⟩
    · obtain ⟨spec, registered, means⟩ := means rule inside
      obtain rfl : spec.meaning = meaning := Option.some.inj (means.symm.trans same)
      rw [← eq_standard_of_mem spec registered]
      exact registered
    · cases same
  · intro name value member
    rcases mem_withUnknown member with inside | ⟨entry, inside, same⟩
    · obtain ⟨spec, -, means⟩ := means _ inside
      cases means
    · obtain ⟨rfl, rfl⟩ := Rule.unknown.inj same
      exact strange entry inside
  · have free := pairwise_of_sublist (fun a b => b.keyword ∉ a.dependencies) sublist
      layered_knownMembers.acyclic.pairwise_inOrder
    refine pairwise_withUnknown ?_ ?_ ?_
    · refine free.imp fun {a b} free => ?_
      rintro ⟨meaning, awaited, meansA, meansB, depends⟩
      exact free meaning awaited meansA meansB depends
    · exact fun name value other ⟨_, _, impossible, _⟩ => nomatch impossible
    · exact fun rule early name value ⟨_, _, _, impossible, _⟩ => nomatch impossible
  · have late := pairwise_of_sublist (fun a b => a.category == .unevaluated → b.category == .unevaluated) sublist
      pairwise_inOrder_knownMembers
    refine pairwise_withUnknown ?_ ?_ ?_
    · refine late.imp_of_mem fun {a b} memberA memberB implies => ?_
      obtain ⟨specA, -, meansA⟩ := means a memberA
      obtain ⟨specB, -, meansB⟩ := means b memberB
      simpa [Rule.category, KeywordSpec.standard, meansA, meansB] using implies _ _ meansA meansB
    · exact fun name value other impossible => by cases impossible
    · exact fun rule early name value late => absurd late early

namespace Orderly

variable {rules : List Rule} {meaning : StandardKeyword}

theorem sublist (orderly : Orderly rules) {fewer : List Rule} (part : fewer.Sublist rules) : Orderly fewer :=
  ⟨orderly.distinct.sublist part, fun rule member => orderly.registered rule (part.subset member),
    fun name value member => orderly.strange name value (part.subset member), orderly.ahead.sublist part,
    orderly.last.sublist part⟩

/-- No other rule stands before or behind that of a keyword. -/
theorem standard?_ne (orderly : Orderly rules) {before after : List Rule} {rule : Rule}
    (split : rules = before ++ rule :: after) (means : rule.standard? = some meaning) :
    ∀ other ∈ before ++ after, other.standard? ≠ some meaning := by
  have distinct := orderly.distinct
  rw [split] at distinct
  obtain ⟨-, behind, across⟩ := List.pairwise_append.mp distinct
  intro other member same
  rcases List.mem_append.mp member with earlier | later
  · exact across other earlier rule List.mem_cons_self (by simp [same]) (same.trans means.symm)
  · exact (List.pairwise_cons.mp behind).1 other later (by simp [means]) (means.trans same.symm)

/-- A keyword has at most one rule. -/
theorem eq_of_standard? (orderly : Orderly rules) {a b : Rule} (memberA : a ∈ rules) (memberB : b ∈ rules)
    (meansA : a.standard? = some meaning) (meansB : b.standard? = some meaning) : a = b := by
  obtain ⟨before, after, split⟩ := List.append_of_mem memberA
  rw [split] at memberB
  rcases List.mem_append.mp memberB with earlier | memberB
  · exact absurd meansB (orderly.standard?_ne split meansA b (List.mem_append_left _ earlier))
  · rcases List.mem_cons.mp memberB with rfl | later
    · rfl
    · exact absurd meansB (orderly.standard?_ne split meansA b (List.mem_append_right _ later))

/-- A rule that another waits for stands in front of it. -/
theorem mem_before (orderly : Orderly rules) {before after : List Rule} {rule other : Rule}
    (split : rules = before ++ rule :: after) (member : other ∈ rules) (waits : rule.WaitsFor other) :
    other ∈ before := by
  have ahead := orderly.ahead
  rw [split] at ahead member
  rcases List.mem_append.mp member with earlier | behind
  · exact earlier
  rcases List.mem_cons.mp behind with rfl | later
  · -- No keyword depends on itself.
    obtain ⟨meaning, awaited, means, same, depends⟩ := waits
    obtain rfl := Option.some.inj (means.symm.trans same)
    have registered := orderly.registered other (split ▸ List.mem_append_right _ behind) meaning means
    exact absurd (idxOf_dependency_lt _ registered _ depends) (Nat.lt_irrefl _)
  · exact absurd waits ((List.pairwise_cons.mp (List.pairwise_append.mp ahead).2.1).1 other later)

/-- A rule reports under the name of a keyword of the draft only if it is a rule of this keyword. -/
theorem keyword_eq_iff (orderly : Orderly rules) (registered : .standard meaning ∈ dialect.keywords) {rule : Rule}
    (member : rule ∈ rules) : rule.keyword = meaning.name ↔ rule.standard? = some meaning := by
  cases means : rule.standard? with
  | some other =>
    rw [Rule.keyword_of_standard? means]
    constructor
    · intro same
      have equal := eq_of_keyword_eq _ (orderly.registered rule member other means) _ registered same
      exact congrArg (some ·.meaning) equal
    · intro same
      rw [Option.some.inj same]
  | none =>
    obtain ⟨name, value, rfl⟩ := Rule.eq_unknown_of_standard? means
    refine ⟨?_, fun impossible => by cases impossible⟩
    rintro rfl
    exact absurd (orderly.strange _ value member) (keyword?_ne_none registered)

end Orderly

end JsonSchema.Draft

namespace JsonSchema

/-- Whether no object of a value has two members of one name at its top. -/
def Json.HasDistinctNames : Json → Prop
  | .object members => (members.map (·.1)).Nodup
  | _ => True

instance : DecidablePred Json.HasDistinctNames
  | .object members => inferInstanceAs (Decidable (members.map (·.1)).Nodup)
  | .null | .bool _ | .number _ | .string _ | .array _ => .isTrue trivial

/-- Whether a node is a schema with distinct names that was compiled under the draft. -/
structure Node.IsDrafted (node : Node) : Prop where
  distinct : node.value.HasDistinctNames
  compiled : node.CompiledUnder Draft.dialect

theorem Node.IsDrafted.orderly {node : Node} (drafted : node.IsDrafted) : Draft.Orderly node.rules := by
  have forms := drafted.compiled.forms
  have distinct := drafted.distinct
  unfold Node.rules
  cases shape : node.shape with
  | boolean accepts => exact ⟨.nil, by simp, by simp, .nil, .nil⟩
  | object rules =>
    rw [shape] at forms
    cases value : node.value with
    | object members =>
      rw [value] at forms distinct
      exact Draft.orderly_of_arranges distinct forms
    | _ =>
      rw [value] at forms
      cases forms

theorem Node.mem_of_rule? {node : Node} {keyword : String} {rule : Rule} (found : node.rule? keyword = some rule) :
    rule ∈ node.rules ∧ rule.keyword = keyword := by
  unfold Node.rule? at found
  exact ⟨List.mem_of_find?_eq_some found, by simpa using List.find?_some found⟩

/-- The rule of a keyword of the draft is found by the name of the keyword. -/
theorem Node.IsDrafted.rule?_eq_some_iff {node : Node} (drafted : node.IsDrafted) {meaning : StandardKeyword}
    (registered : .standard meaning ∈ Draft.dialect.keywords) {rule : Rule} :
    node.rule? meaning.name = some rule ↔ rule ∈ node.rules ∧ rule.standard? = some meaning := by
  constructor
  · intro found
    obtain ⟨member, named⟩ := Node.mem_of_rule? found
    exact ⟨member, (drafted.orderly.keyword_eq_iff registered member).mp named⟩
  · rintro ⟨member, means⟩
    have named := (drafted.orderly.keyword_eq_iff registered member).mpr means
    cases found : node.rule? meaning.name with
    | none => exact absurd (beq_iff_eq.mpr named) (List.find?_eq_none.mp found rule member)
    | some other =>
      obtain ⟨otherMember, otherNamed⟩ := Node.mem_of_rule? found
      have otherMeans := (drafted.orderly.keyword_eq_iff registered otherMember).mp otherNamed
      rw [drafted.orderly.eq_of_standard? otherMember member otherMeans means]

end JsonSchema
