import JsonSchema.Dialect
import Mathlib.Data.List.Induction
import Mathlib.Data.List.Nodup

/-! # Keyword tables

A keyword table holds every registered name once: at the place where it was first registered among the different names,
with its last registration (`Dialect.Tabulates`). What a dialect says of a keyword is read off this registration alone,
and the earlier ones of the same name have no influence. A dialect that a document describes has the table of the
vocabularies that are found for it (`Dialect.ofSchema_tabulates`).
-/

namespace JsonSchema

/-- The last registration of a name. -/
def lastRegistration? (specs : List KeywordSpec) (name : String) : Option KeywordSpec :=
  (specs.filter (·.keyword == name)).getLast?

/-- How many different names are registered ahead of the first registration of a name. -/
def placeOf (specs : List KeywordSpec) (name : String) : Nat :=
  ((specs.takeWhile (·.keyword != name)).map (·.keyword)).eraseDups.length

/-! ## Names in order of their first mention -/

section Mentions

variable {names : List String} {name : String}

theorem eraseDups_append_singleton : (names ++ [name]).eraseDups =
    if name ∈ names then names.eraseDups else names.eraseDups ++ [name] := by
  rw [List.eraseDups_append]
  split
  · next known => simp [List.removeAll, known]
  · next strange => simp [List.removeAll, strange, List.eraseDups_cons]

theorem nodup_eraseDups : names.eraseDups.Nodup := by
  induction names using List.reverseRecOn with
  | nil => exact .nil
  | append_singleton names name ih =>
    rw [eraseDups_append_singleton]
    split
    · exact ih
    · next strange =>
      refine List.nodup_append.mpr ⟨ih, List.nodup_singleton _, fun other member last same => ?_⟩
      rw [List.mem_singleton] at same
      exact fun equal => strange (List.mem_eraseDups.mp (same ▸ equal ▸ member))

/-- A name stands behind the different names that are mentioned ahead of it. -/
theorem getElem?_eraseDups {before after : List String} (first : name ∉ before) :
    (before ++ name :: after).eraseDups[before.eraseDups.length]? = some name := by
  rw [List.eraseDups_append, List.getElem?_append_right (Nat.le_refl _), Nat.sub_self, List.removeAll,
    List.filter_cons_of_pos (by simpa using first), List.eraseDups_cons]
  rfl

end Mentions

/-! ## Registrations -/

section Registrations

variable {specs table : List KeywordSpec} {spec other : KeywordSpec} {name : String}

theorem names_registerKeyword : (registerKeyword spec table).map (·.keyword) =
    if spec.keyword ∈ table.map (·.keyword) then table.map (·.keyword)
    else table.map (·.keyword) ++ [spec.keyword] := by
  induction table with
  | nil => simp [registerKeyword]
  | cons head rest ih =>
    rw [registerKeyword]
    split
    · next same => simp [same]
    · next different =>
      simp only [List.map_cons, ih, List.mem_cons, Ne.symm different, false_or]
      split <;> rfl

theorem mem_registerKeyword (distinct : (table.map (·.keyword)).Nodup) (member : other ∈ registerKeyword spec table) :
    other = spec ∨ other ∈ table ∧ other.keyword ≠ spec.keyword := by
  induction table with
  | nil => exact .inl (List.mem_singleton.mp member)
  | cons head rest ih =>
    obtain ⟨apart, distinct⟩ := List.nodup_cons.mp distinct
    rw [registerKeyword] at member
    split at member
    · next same =>
      refine (List.mem_cons.mp member).imp_right fun inside => ⟨List.mem_cons_of_mem _ inside, fun equal => ?_⟩
      exact apart (List.mem_map.mpr ⟨other, inside, equal.trans same.symm⟩)
    · next different =>
      rcases List.mem_cons.mp member with rfl | inside
      · exact .inr ⟨List.mem_cons_self, different⟩
      · exact (ih distinct inside).imp_right fun kept => ⟨List.mem_cons_of_mem _ kept.1, kept.2⟩

theorem keywordTable_append_singleton : keywordTable (specs ++ [spec]) = registerKeyword spec (keywordTable specs) := by
  rw [keywordTable, List.foldl_append]
  rfl

theorem names_keywordTable : (keywordTable specs).map (·.keyword) = (specs.map (·.keyword)).eraseDups := by
  induction specs using List.reverseRecOn with
  | nil => rfl
  | append_singleton specs spec ih =>
    rw [keywordTable_append_singleton, names_registerKeyword, ih, List.map_append, List.map_singleton,
      eraseDups_append_singleton]
    simp only [List.mem_eraseDups]

theorem lastRegistration?_append_singleton : lastRegistration? (specs ++ [spec]) name =
    if spec.keyword = name then some spec else lastRegistration? specs name := by
  rw [lastRegistration?, List.filter_append]
  split <;> next same => simp [same, lastRegistration?]

theorem lastRegistration?_of_mem_keywordTable (member : spec ∈ keywordTable specs) :
    lastRegistration? specs spec.keyword = some spec := by
  induction specs using List.reverseRecOn with
  | nil => exact absurd member List.not_mem_nil
  | append_singleton specs latest ih =>
    rw [keywordTable_append_singleton] at member
    rw [lastRegistration?_append_singleton]
    rcases mem_registerKeyword (names_keywordTable ▸ nodup_eraseDups) member with rfl | ⟨member, different⟩
    · exact if_pos rfl
    · rw [if_neg (Ne.symm different), ih member]

theorem exists_lastRegistration?_iff :
    (∃ spec, lastRegistration? specs name = some spec) ↔ name ∈ specs.map (·.keyword) := by
  rw [← Option.ne_none_iff_exists', lastRegistration?, ne_eq, List.getLast?_eq_none_iff, List.filter_eq_nil_iff]
  simp

theorem keyword_of_lastRegistration? (last : lastRegistration? specs name = some spec) : spec.keyword = name := by
  simpa using (List.mem_filter.mp (List.mem_of_getLast? last)).2

/-- A registered name stands in the table at its place. -/
theorem names_getElem?_placeOf (registered : name ∈ specs.map (·.keyword)) :
    ((keywordTable specs).map (·.keyword))[placeOf specs name]? = some name := by
  obtain ⟨spec, found⟩ := Option.isSome_iff_exists.mp
    (List.find?_isSome (p := fun spec : KeywordSpec => spec.keyword == name).mpr (by simpa using registered))
  obtain ⟨same, before, after, rfl, first⟩ := List.find?_eq_some_iff_append.mp found
  have ahead : (before ++ spec :: after).takeWhile (·.keyword != name) = before := by
    rw [List.takeWhile_append_of_pos fun other member => by simpa using first other member, List.takeWhile_cons_of_neg
      (by simpa using same), List.append_nil]
  have strange : name ∉ before.map (·.keyword) := by
    rintro known
    obtain ⟨other, member, rfl⟩ := List.mem_map.mp known
    simpa using first other member
  rw [names_keywordTable, placeOf, ahead, List.map_append, List.map_cons, eq_of_beq same]
  exact getElem?_eraseDups strange

end Registrations

/-! ## What a dialect says of keywords -/

theorem Category.appliesSubschemas_iff {category : Category} :
    category.appliesSubschemas = true ↔ category ∈ [.reference, .composite, .applicator, .unevaluated] := by
  cases category <;> decide

/-- Whether the keyword table of a dialect is the one that results from registrations in order. -/
structure Dialect.Tabulates (dialect : Dialect) (specs : List KeywordSpec) : Prop where
  /-- Every name occurs once. -/
  nodup_names : (dialect.keywords.map (·.keyword)).Nodup
  /-- At each position stands the last registration of a name whose place it is. -/
  getElem?_eq_some_iff : ∀ position spec, dialect.keywords[position]? = some spec ↔
    lastRegistration? specs spec.keyword = some spec ∧ placeOf specs spec.keyword = position
  /-- A name is looked up with its place and its last registration. -/
  keyword?_eq : ∀ name,
    dialect.keyword? name = (lastRegistration? specs name).map fun spec => (placeOf specs name, spec)
  /-- Different names have different places. -/
  placeOf_injective : ∀ name ∈ specs.map (·.keyword), ∀ other ∈ specs.map (·.keyword),
    placeOf specs name = placeOf specs other → name = other
  isIdentifier_iff : ∀ name, dialect.isIdentifier name = true ↔
    ∃ spec, lastRegistration? specs name = some spec ∧ spec.category = .identifier
  isApplicator_iff : ∀ name, dialect.isApplicator name = true ↔
    ∃ spec, lastRegistration? specs name = some spec ∧
      spec.category ∈ [.reference, .composite, .applicator, .unevaluated]
  isReserved_iff : ∀ name, dialect.isReserved name = true ↔
    ∃ spec, lastRegistration? specs name = some spec ∧ spec.category = .reserved

namespace Dialect

variable {dialect : Dialect}

theorem of_keyword?_eq_some {name : String} {position : Nat} {spec : KeywordSpec}
    (known : dialect.keyword? name = some (position, spec)) :
    dialect.keywords[position]? = some spec ∧ spec.keyword = name := by
  obtain ⟨⟨found, index⟩, search, same⟩ := Option.map_eq_some_iff.mp known
  obtain ⟨rfl, rfl⟩ := Prod.mk.inj same
  exact ⟨List.mk_mem_zipIdx_iff_getElem?.mp (List.mem_of_find?_eq_some search), by simpa using List.find?_some search⟩

/-- In a table that holds every name once a name is looked up where it stands. -/
theorem keyword?_eq_some_iff (distinct : (dialect.keywords.map (·.keyword)).Nodup) {name : String} {position : Nat}
    {spec : KeywordSpec} :
    dialect.keyword? name = some (position, spec) ↔ dialect.keywords[position]? = some spec ∧ spec.keyword = name := by
  refine ⟨of_keyword?_eq_some, ?_⟩
  rintro ⟨stands, rfl⟩
  have bound : position < (dialect.keywords.map (·.keyword)).length := by
    rw [List.length_map]
    exact (List.getElem?_eq_some_iff.mp stands).1
  match known : dialect.keyword? spec.keyword with
  | none =>
    have absent :=
      List.find?_eq_none.mp (Option.map_eq_none_iff.mp known) _ (List.mk_mem_zipIdx_iff_getElem?.mpr stands)
    simp at absent
  | some (other, found) =>
    obtain ⟨there, same⟩ := of_keyword?_eq_some known
    have equal : position = other := (List.getElem?_inj bound distinct).mp (by
      rw [List.getElem?_map, List.getElem?_map, stands, there, Option.map_some, Option.map_some, same])
    subst equal
    rw [Option.some.inj (stands.symm.trans there)]

section Table

variable {specs : List KeywordSpec} (table : dialect.keywords = keywordTable specs)

include table

theorem nodup_names_of_keywords_eq : (dialect.keywords.map (·.keyword)).Nodup :=
  table ▸ names_keywordTable ▸ nodup_eraseDups

theorem getElem?_keywords_eq_some_iff {position : Nat} {spec : KeywordSpec} :
    dialect.keywords[position]? = some spec ↔
      lastRegistration? specs spec.keyword = some spec ∧ placeOf specs spec.keyword = position := by
  have last {position : Nat} {spec : KeywordSpec} (found : dialect.keywords[position]? = some spec) :
      lastRegistration? specs spec.keyword = some spec :=
    lastRegistration?_of_mem_keywordTable (table ▸ List.mem_of_getElem? found)
  have stands {spec : KeywordSpec} (effective : lastRegistration? specs spec.keyword = some spec) :
      (dialect.keywords.map (·.keyword))[placeOf specs spec.keyword]? = some spec.keyword :=
    table ▸ names_getElem?_placeOf (exists_lastRegistration?_iff.mp ⟨spec, effective⟩)
  constructor
  · intro found
    have bound : position < (dialect.keywords.map (·.keyword)).length := by
      rw [List.length_map]
      exact (List.getElem?_eq_some_iff.mp found).1
    refine ⟨last found, ((List.getElem?_inj bound (nodup_names_of_keywords_eq table)).mp ?_).symm⟩
    rw [stands (last found), List.getElem?_map, found, Option.map_some]
  · rintro ⟨effective, rfl⟩
    obtain ⟨other, found, same⟩ := Option.map_eq_some_iff.mp (List.getElem?_map ▸ stands effective)
    rw [found, ← effective, ← same, last found]

theorem keyword?_eq_lastRegistration? (name : String) :
    dialect.keyword? name = (lastRegistration? specs name).map fun spec => (placeOf specs name, spec) := by
  apply Option.ext
  rintro ⟨position, spec⟩
  rw [keyword?_eq_some_iff (nodup_names_of_keywords_eq table), getElem?_keywords_eq_some_iff table,
    Option.map_eq_some_iff]
  constructor
  · rintro ⟨⟨effective, rfl⟩, rfl⟩
    exact ⟨spec, effective, rfl⟩
  · rintro ⟨found, effective, same⟩
    obtain ⟨rfl, rfl⟩ := Prod.mk.inj same
    obtain rfl := keyword_of_lastRegistration? effective
    exact ⟨⟨effective, rfl⟩, rfl⟩

theorem category?_eq_lastRegistration? (name : String) :
    dialect.category? name = (lastRegistration? specs name).map (·.category) := by
  rw [category?, keyword?_eq_lastRegistration? table, Option.map_map]
  rfl

theorem tabulates_of_keywords_eq : dialect.Tabulates specs where
  nodup_names := nodup_names_of_keywords_eq table
  getElem?_eq_some_iff _ _ := getElem?_keywords_eq_some_iff table
  keyword?_eq := keyword?_eq_lastRegistration? table
  placeOf_injective name registered other known equal := by
    have stands := names_getElem?_placeOf registered
    rw [equal, names_getElem?_placeOf known] at stands
    exact (Option.some.inj stands).symm
  isIdentifier_iff name := by
    rw [isIdentifier, beq_iff_eq, category?_eq_lastRegistration? table, Option.map_eq_some_iff]
  isApplicator_iff name := by
    rw [isApplicator, category?_eq_lastRegistration? table, Option.any_map, Option.any_eq_true]
    simp only [Category.appliesSubschemas_iff]
  isReserved_iff name := by
    rw [isReserved, beq_iff_eq, category?_eq_lastRegistration? table, Option.map_eq_some_iff]

end Table

/-! ## Dialects that documents describe -/

theorem selectVocabularies_eq (find? : Url → Option Vocabulary) (declared : List (Url × Bool)) :
    selectVocabularies find? declared =
      match declared.find? fun entry => entry.2 && (find? entry.1).isNone with
      | some entry => .error entry.1
      | none => .ok (declared.filterMap fun entry => (find? entry.1).map (·, entry.2)) := by
  induction declared with
  | nil => rfl
  | cons entry rest ih =>
    obtain ⟨id, required⟩ := entry
    unfold selectVocabularies
    rcases located : find? id with - | vocabulary
    · cases required <;> simp [located, ih]
    · rw [ih, List.find?_cons_of_neg (by simp [located]), List.filterMap_cons_some (by rw [located, Option.map_some])]
      cases rest.find? fun entry => entry.2 && (find? entry.1).isNone <;> rfl

theorem selectVocabularies_eq_error_iff {find? : Url → Option Vocabulary} {declared : List (Url × Bool)}
    {unknown : Url} :
    selectVocabularies find? declared = .error unknown ↔
      ∃ before after, declared = before ++ (unknown, true) :: after ∧ find? unknown = none ∧
        ∀ id, (id, true) ∈ before → (find? id).isSome := by
  rw [selectVocabularies_eq]
  constructor
  · intro failed
    split at failed
    · next entry found =>
      obtain ⟨missing, before, after, rfl, first⟩ := List.find?_eq_some_iff_append.mp found
      obtain ⟨id, required⟩ := entry
      obtain ⟨rfl, missing⟩ := (Bool.and_eq_true _ _).mp missing
      obtain rfl := Except.error.inj failed
      exact ⟨before, after, rfl, Option.isNone_iff_eq_none.mp missing,
        fun other member => by simpa using first _ member⟩
    · cases failed
  · rintro ⟨before, after, rfl, missing, located⟩
    have first : (before ++ (unknown, true) :: after).find? (fun entry => entry.2 && (find? entry.1).isNone) =
        some (unknown, true) := by
      refine List.find?_eq_some_iff_append.mpr ⟨by simp [missing], before, after, rfl, ?_⟩
      rintro ⟨id, required⟩ member
      cases required with
      | false => rfl
      | true => simpa using located id member
    rw [first]

theorem eq_of_selectVocabularies {find? : Url → Option Vocabulary} {declared : List (Url × Bool)}
    {vocabularies : List (Vocabulary × Bool)} (selected : selectVocabularies find? declared = .ok vocabularies) :
    vocabularies = declared.filterMap fun entry => (find? entry.1).map (·, entry.2) := by
  rw [selectVocabularies_eq] at selected
  split at selected
  · cases selected
  · exact (Except.ok.inj selected).symm

theorem ofSchema_eq (schema : Schema) (find? : Url → Option Vocabulary) (fallback : Dialect) :
    ofSchema schema find? fallback =
      (match schema.root.vocabularies with
        | some declared => selectVocabularies find? declared
        | none => .ok fallback.vocabularies).map (ofVocabularies schema.id · [] (.document schema)) := by
  rw [ofSchema]
  cases schema.root.vocabularies with
  | none => rfl
  | some declared => cases selectVocabularies find? declared <;> rfl

end Dialect

end JsonSchema
