import JsonSchema.Proofs.Compile.Parallel

/-! # Unknown keywords in documents

Where unknown keywords are left out a value is compiled to the document that it is compiled to where they attach their
values, without the rules for them (`Schema.compileDocument_ignore`). In particular it compiles in both cases or in none.
-/

namespace JsonSchema

open Compile

/-- The rules of keywords that their dialect knows. -/
def knownRules (rules : List Rule) : List Rule := rules.filter (·.standard?.isSome)

theorem knownRules_of_forall {rules : List Rule} (known : ∀ rule ∈ rules, rule.standard?.isSome) :
    knownRules rules = rules :=
  List.filter_eq_self.mpr known

theorem Site.knownRules_withUnknown (unknown : List (String × Json)) {rules : List Rule}
    (known : ∀ rule ∈ rules, rule.standard?.isSome) : knownRules (withUnknown unknown rules) = rules := by
  obtain ⟨ahead, behind, rfl, inserted, -⟩ := withUnknown_eq unknown rules
  have none : knownRules (unknown.map fun member => .unknown member.1 member.2) = [] := by
    refine List.filter_eq_nil_iff.mpr fun rule member => ?_
    obtain ⟨entry, -, rfl⟩ := List.mem_map.mp member
    exact Bool.noConfusion
  unfold knownRules at none ⊢
  rw [inserted, List.filter_append, List.filter_append, none, List.append_nil, ← List.filter_append]
  exact knownRules_of_forall known

/-- The keywords of a dialect leave rules that it knows. -/
theorem Site.isSome_standard?_of_compileKeywords {registered : Bool} {sub : Site → Json → Compile Nat} {site : Site}
    {entries : List (KeywordEntry Json)} {before : Assembly} {result : Site × List Rule}
    (ends : ((compileKeywords registered sub site entries).run before).1 = .ok result) :
    ∀ rule ∈ result.2, rule.standard?.isSome := by
  intro rule member
  have means := ((keeps_compileKeywords (fun _ _ _ => keeps_true) _ site rfl before trivial).2 result ends).2
  obtain ⟨entry, -, same⟩ := List.mem_map.mp (means.subset (List.mem_map_of_mem member))
  rw [← same]
  rfl

/-- The options with another treatment of unknown keywords. -/
def Options.treating (options : Options) (unknown : UnknownKeywords) : Options :=
  { options with unknownKeywords := unknown }

theorem Site.parallel_libraryDialect? {options other : Options} (change : List Rule → List Rule)
    (same : other.dialects = options.dialects) (id : Url) :
    Parallel change Eq (libraryDialect? options id) (libraryDialect? other id) := by
  unfold libraryDialect?
  rw [same]
  split
  · exact parallel_pure _
  · refine couples_get.bind ?_
    rintro left _ ⟨_, rfl, rfl⟩
    exact fun _ _ _ => ⟨rfl, _, rfl, rfl⟩

/-- Leaving unknown keywords out goes along with annotating them. -/
theorem Options.parallels_ignore (options : Options) :
    (options.treating .annotate).Parallels knownRules Eq (fun _ => True) (options.treating .ignore) where
  below _ _ _ _ _ _ _ := trivial
  selects site _ _ := site.parallel_selectDialect fun _ _ =>
    site.parallel_namedDialect (Site.parallel_libraryDialect? _ rfl) rfl rfl fun _ _ _ _ _ _ => rfl
  completes _ _ _ _ known :=
    couples_pure (Prod.ext rfl (Site.knownRules_withUnknown _ known).symm)

/-- A value is compiled to the same document without the rules for unknown keywords if these are left out. -/
theorem Schema.compileDocument_ignore (options : Options) (dialect : Dialect) (base : Url) (registered : Bool)
    (value : Json) (dialects : DialectCache) :
    let annotated := compileDocument (options.treating .annotate) dialect base registered value dialects
    let ignored := compileDocument (options.treating .ignore) dialect base registered value dialects
    ignored.1.toOption = annotated.1.toOption.map (·.mapRules knownRules) ∧ ignored.2 = annotated.2 := by
  obtain ⟨same, remembered⟩ := options.parallels_ignore.compileDocument dialect base registered trivial (Eq.refl dialects)
  exact ⟨same, remembered.symm⟩

end JsonSchema
