import JsonSchema.Proofs.Compile.Dialects
import JsonSchema.Proofs.Store.History

/-! # Dialects of a store

A library of dialects over a store to which values are registered meanwhile. Values may be compiled through the library
or apart from it. What the library found under an id first is its answer from then on, so the answers are those of a
library without a memory as long as the document under the id goes on to describe the same dialect
(`Catalogue.answer_eq_derived_iff`); another document under the id does not change them (`Catalogue.answer_ne_derived`).
-/

namespace JsonSchema

/-- A store, and the dialects that a library over it remembers. -/
structure Catalogue where
  store : SchemaStore
  dialects : DialectCache

namespace Catalogue

/-- What is done with a catalogue. -/
inductive Access where
  /-- Registers a value for which dialects are not looked up in the library. -/
  | register (call : Registration)
  /-- Registers a value for which dialects are looked up in the library. -/
  | registerThrough (options : SchemaStore → Options) (url : Url) (value : Json)
  /-- Asks the library for the dialect of an id. -/
  | find (id : Url)

section

variable (vocabulary? : Url → Option Vocabulary) (fallback : Dialect)

/-- The library over a store. -/
def library (store : SchemaStore) : DialectLibrary := ⟨store.locate, vocabulary?, fallback⟩

/-- The options with the library over the store. -/
def through (options : SchemaStore → Options) (store : SchemaStore) : Options :=
  { options store with dialects := some (library vocabulary? fallback store) }

/-- The answer of the library. -/
def answer (catalogue : Catalogue) (id : Url) : Option Dialect :=
  ((library vocabulary? fallback catalogue.store).find? id catalogue.dialects).1

/-- The dialect that the document under an id describes. -/
def derived (catalogue : Catalogue) (id : Url) : Option Dialect :=
  (library vocabulary? fallback catalogue.store).derive? id

/-- The catalogue after an access. -/
def access (catalogue : Catalogue) : Access → Catalogue
  | .register call => { catalogue with store := catalogue.store.perform call }
  | .registerThrough options url value =>
    let options := through vocabulary? fallback options
    ⟨catalogue.store.perform ⟨options, url, value, catalogue.dialects⟩,
      (Schema.compileWith (options catalogue.store) url value catalogue.dialects).2⟩
  | .find id =>
    { catalogue with dialects := ((library vocabulary? fallback catalogue.store).find? id catalogue.dialects).2 }

/-- The catalogue after some accesses. -/
def after (history : List Access) : Catalogue := history.foldl (access vocabulary? fallback) ⟨.empty, []⟩

/-- Whether an access is the one by which the library first finds a dialect under an id. -/
def FirstFinds (history earlier : List Access) (next : Access) (id : Url) : Prop :=
  earlier ++ [next] <+: history ∧ assoc? id (after vocabulary? fallback earlier).dialects = none ∧
    (assoc? id (after vocabulary? fallback (earlier ++ [next])).dialects).isSome

end

section

variable {vocabulary? : Url → Option Vocabulary} {fallback : Dialect} {catalogue : Catalogue}
  {history earlier : List Access} {next : Access} {id : Url} {dialect : Dialect}

theorem answer_of_remembered (remembered : assoc? id catalogue.dialects = some dialect) :
    catalogue.answer vocabulary? fallback id = some dialect := by
  rw [answer, DialectLibrary.find?, remembered]

theorem answer_of_not_remembered (none : assoc? id catalogue.dialects = none) :
    catalogue.answer vocabulary? fallback id = catalogue.derived vocabulary? fallback id := by
  rw [answer, DialectLibrary.find?, none, derived]
  dsimp only
  split
  · next found => exact found.symm
  · next found => exact found.symm

/-! ## One access -/

/-- What is remembered stays so. -/
theorem assoc?_access (remembered : assoc? id catalogue.dialects = some dialect) (next : Access) :
    assoc? id (catalogue.access vocabulary? fallback next).dialects = some dialect := by
  cases next with
  | register call => exact remembered
  | registerThrough options url value => exact Schema.assoc?_compileDocument remembered
  | find other => exact DialectLibrary.assoc?_find? remembered other

/-- What is remembered for the first time is what the document under the id describes at that time. -/
theorem derived_of_access (none : assoc? id catalogue.dialects = none)
    (found : assoc? id (catalogue.access vocabulary? fallback next).dialects = some dialect) :
    catalogue.derived vocabulary? fallback id = some dialect := by
  rw [← answer_of_not_remembered none, answer]
  -- The library gives the same answer after the access, if it is still over the same store.
  have answered {dialects : DialectCache} (found : assoc? id dialects = some dialect) :
      ((library vocabulary? fallback catalogue.store).find? id dialects).1 = some dialect := by
    rw [DialectLibrary.find?, found]
  cases next with
  | register call => exact absurd (none.symm.trans found) (Option.some_ne_none _).symm
  | registerThrough options url value =>
    have knows := (through vocabulary? fallback options catalogue.store).knows_answers catalogue.dialects
    have knowsAfter : (through vocabulary? fallback options catalogue.store).Knows _ (Schema.compileWith
        (through vocabulary? fallback options catalogue.store) url value catalogue.dialects).2 :=
      (Schema.compileDocument_of_knows knows knows).2
    exact (knowsAfter _ rfl id).symm.trans (answered found)
  | find other =>
    have same : (library vocabulary? fallback catalogue.store).Answers
        (fun id => ((library vocabulary? fallback catalogue.store).find? id catalogue.dialects).1) catalogue.dialects :=
      fun _ => rfl
    exact (same.find? other id).symm.trans (answered found)

/-! ## Histories -/

theorem after_append (history : List Access) (next : Access) : after vocabulary? fallback (history ++ [next]) =
    (after vocabulary? fallback history).access vocabulary? fallback next := by
  rw [after, List.foldl_append]
  rfl

theorem assoc?_after_of_prefix (begins : earlier <+: history)
    (remembered : assoc? id (after vocabulary? fallback earlier).dialects = some dialect) :
    assoc? id (after vocabulary? fallback history).dialects = some dialect := by
  obtain ⟨later, rfl⟩ := begins
  induction later using List.reverseRecOn with
  | nil => rwa [List.append_nil]
  | append_singleton later next ih =>
    rw [← List.append_assoc, after_append]
    exact assoc?_access ih next

/-- What the library found under an id first is what is remembered from then on. -/
theorem FirstFinds.assoc?_after (first : FirstFinds vocabulary? fallback history earlier next id) :
    assoc? id (after vocabulary? fallback history).dialects =
        (after vocabulary? fallback earlier).derived vocabulary? fallback id ∧
      ((after vocabulary? fallback earlier).derived vocabulary? fallback id).isSome := by
  obtain ⟨begins, none, found⟩ := first
  obtain ⟨dialect, found⟩ := Option.isSome_iff_exists.mp found
  have derived := derived_of_access none (after_append earlier next ▸ found)
  rw [derived, assoc?_after_of_prefix begins found]
  exact ⟨rfl, rfl⟩

/-- What is remembered was found at some time. -/
theorem exists_firstFinds (remembered : assoc? id (after vocabulary? fallback history).dialects = some dialect) :
    ∃ earlier next, FirstFinds vocabulary? fallback history earlier next id := by
  induction history using List.reverseRecOn with
  | nil => cases remembered
  | append_singleton history next ih =>
    cases before : assoc? id (after vocabulary? fallback history).dialects with
    | none => exact ⟨history, next, List.prefix_rfl, before, by rw [remembered]; rfl⟩
    | some other =>
      have same : other = dialect := by
        rw [after_append, assoc?_access before] at remembered
        exact Option.some.inj remembered
      obtain ⟨earlier, first, begins, finds⟩ := ih (same ▸ before)
      exact ⟨earlier, first, begins.trans (List.prefix_append _ _), finds⟩

end

/-- The library answers as if it remembered nothing, if and only if the document under the id describes what it described
when a dialect was first found there, and this is what the library answers from then on. -/
theorem answer_eq_derived_iff (vocabulary? : Url → Option Vocabulary) (fallback : Dialect) (history : List Access)
    (id : Url) :
    ((after vocabulary? fallback history).answer vocabulary? fallback id =
        (after vocabulary? fallback history).derived vocabulary? fallback id ↔
      ∀ earlier next, FirstFinds vocabulary? fallback history earlier next id →
        (after vocabulary? fallback earlier).derived vocabulary? fallback id =
          (after vocabulary? fallback history).derived vocabulary? fallback id) ∧
    ∀ earlier next, FirstFinds vocabulary? fallback history earlier next id →
      (after vocabulary? fallback history).answer vocabulary? fallback id =
        (after vocabulary? fallback earlier).derived vocabulary? fallback id := by
  have remains {earlier : List Access} {next : Access} (first : FirstFinds vocabulary? fallback history earlier next id) :
      (after vocabulary? fallback history).answer vocabulary? fallback id =
        (after vocabulary? fallback earlier).derived vocabulary? fallback id := by
    obtain ⟨same, found⟩ := first.assoc?_after
    obtain ⟨dialect, found⟩ := Option.isSome_iff_exists.mp found
    rw [found, answer_of_remembered (same.trans found)]
  refine ⟨⟨fun same earlier next first => (remains first).symm.trans same, fun stays => ?_⟩, fun _ _ => remains⟩
  cases remembered : assoc? id (after vocabulary? fallback history).dialects with
  | none => exact answer_of_not_remembered remembered
  | some dialect =>
    obtain ⟨earlier, next, first⟩ := exists_firstFinds remembered
    exact (remains first).trans (stays earlier next first)

/-- A document that takes the place of another one is not asked for its dialect. -/
theorem answer_ne_derived :
    let describing (vocabularies : List (String × Json)) : Access := .register ⟨fun _ => .standard, Draft.url "own",
      .object [(StandardKeyword.vocabulary.name, .object vocabularies)], []⟩
    let catalogue := after Draft.vocabulary? Draft.dialect [describing [(Draft.core.id.text, .bool true)],
      .find (Draft.url "own"), describing [(Draft.core.id.text, .bool true), (Draft.unevaluated.id.text, .bool true)]]
    catalogue.answer Draft.vocabulary? Draft.dialect (Draft.url "own") ≠
      catalogue.derived Draft.vocabulary? Draft.dialect (Draft.url "own") := by
  intro describing catalogue same
  have counts := congrArg (Option.map fun dialect : Dialect => dialect.vocabularies.length) same
  revert counts
  dsimp only [catalogue, describing]
  decide +kernel

end Catalogue

end JsonSchema
