import JsonSchema.Proofs.Compile.Governed
import JsonSchema.Proofs.Compile.Registered
import JsonSchema.Proofs.Keyword.Table

/-! # Documents without ids

Which dialects a schema can have is settled by the options and the dialects found before (`Options.Selects`). If none of
the members in a document is an id in such a dialect then the document has no resource but itself, under the URL from
which it was retrieved (`Schema.ids_of_compileWith`). The proof goes through the steps of compilation, which then keep
the ids of the resources (`Site.keepsIdsBelow_compileWithin`).
-/

namespace JsonSchema

open Compile

/-! ## Names that declare ids -/

/-- Whether a dialect takes a member of the given name for an id. -/
def Dialect.ReadsAsId (dialect : Dialect) (name : String) : Prop :=
  ∃ position spec, dialect.keyword? name = some (position, spec) ∧ spec.meaning = .id

namespace Options

/-- Whether a schema of a document can have a dialect: that of the options or one that can be named. -/
def Selects (options : Options) (dialects : DialectCache) (dialect : Dialect) : Prop :=
  dialect = options.dialect ∨ ∃ id, options.dialectNamed? dialects options.dialect id = some dialect

/-- Whether no member in a value declares an id, whatever dialect it is read with. -/
def FindsNoId (options : Options) (dialects : DialectCache) (value : Json) : Prop :=
  ∀ members, .object members ∈ value.values → ∀ member ∈ members, ∀ dialect, options.Selects dialects dialect →
    ¬ dialect.ReadsAsId member.1

variable {options : Options} {dialects : DialectCache} {inherited dialect : Dialect} {value inner : Json}

/-- A schema that inherits a dialect can name no further ones. -/
theorem Selects.named (selects : options.Selects dialects inherited) {id : Url}
    (named : options.dialectNamed? dialects inherited id = some dialect) : options.Selects dialects dialect := by
  unfold dialectNamed? at named
  split at named
  · exact Option.some.inj named ▸ selects
  · split at named
    · exact .inl (Option.some.inj named).symm
    · next foreign =>
      refine .inr ⟨id, ?_⟩
      rw [dialectNamed?, if_neg foreign, if_neg foreign]
      exact named

theorem Selects.effective (selects : options.Selects dialects inherited)
    (effective : options.effectiveDialect? dialects inherited value = some dialect) :
    options.Selects dialects dialect := by
  unfold effectiveDialect? at effective
  split at effective
  · split at effective
    · exact Option.some.inj effective ▸ selects
    · obtain ⟨url, -, named⟩ := Option.bind_eq_some_iff.mp effective
      exact selects.named named
    · exact nomatch effective
  · exact Option.some.inj effective ▸ selects

theorem FindsNoId.mono (noId : options.FindsNoId dialects value) (inside : inner.values ⊆ value.values) :
    options.FindsNoId dialects inner :=
  fun members member => noId members (inside member)

/-- With the standard options every schema has the dialect of the draft. -/
theorem eq_of_selects_standard (selects : standard.Selects [] dialect) : dialect = Draft.dialect := by
  rcases selects with rfl | ⟨id, named⟩
  · rfl
  · unfold dialectNamed? at named
    split at named
    · exact (Option.some.inj named).symm
    · rcases Option.or_eq_some_iff.mp named with impossible | ⟨-, named⟩
      · cases impossible
      · rcases Option.or_eq_some_iff.mp named with drafted | ⟨-, impossible⟩
        · exact Draft.eq_of_dialect? drafted
        · cases impossible

end Options

/-- A keyword of a schema object is one of its members, read with the dialect. -/
theorem keyword?_of_mem_inOrder {dialect : Dialect} {members : List (String × Json)} {entry : KeywordEntry Json}
    (member : entry ∈ KeywordEntry.inOrder (Site.knownMembers dialect members)) :
    ∃ name position, (name, entry.item) ∈ members ∧ dialect.keyword? name = some (position, entry.spec) := by
  obtain ⟨⟨name, value⟩, inside, made⟩ := List.mem_filterMap.mp ((KeywordEntry.inOrder_perm _).subset member)
  obtain ⟨⟨position, spec⟩, found, rfl⟩ := Option.map_eq_some_iff.mp made
  exact ⟨name, position, inside, found⟩

/-- In the draft only one name declares ids. -/
theorem Draft.readsAsId_iff {name : String} : Draft.dialect.ReadsAsId name ↔ name = StandardKeyword.id.name := by
  constructor
  · rintro ⟨position, spec, found, means⟩
    have every : ∀ spec ∈ Draft.dialect.keywords, spec.meaning = .id → spec.keyword = StandardKeyword.id.name := by
      decide +kernel
    obtain ⟨stands, rfl⟩ := Dialect.of_keyword?_eq_some found
    exact every spec (List.mem_of_getElem? stands) means
  · rintro rfl
    exact ⟨0, .standard .id, Draft.keyword?_id, rfl⟩

/-- With the standard options a value without ids is one in which no object has a member of that name. -/
theorem Options.findsNoId_standard_iff {value : Json} : Options.standard.FindsNoId [] value ↔
    ∀ inner ∈ value.values, inner.member? StandardKeyword.id.name = none := by
  constructor
  · intro noId inner inside
    cases inner with
    | object members =>
      refine assoc?_eq_none fun declared => ?_
      obtain ⟨member, own, same⟩ := List.mem_map.mp declared
      exact noId members inside member own _ (.inl rfl) (Draft.readsAsId_iff.mpr same)
    | _ => rfl
  · intro absent members inside member own dialect selects reads
    obtain rfl := eq_of_selects_standard selects
    have declared : (assoc? StandardKeyword.id.name members).isSome = true :=
      isSome_assoc?_iff.mpr (List.mem_map.mpr ⟨member, own, Draft.readsAsId_iff.mp reads⟩)
    rw [show assoc? StandardKeyword.id.name members = none from absent _ inside] at declared
    cases declared

/-! ## Compilation -/

/-- The ids of the resources of an assembly. -/
def Assembly.resourceIds (assembly : Assembly) : List Url := assembly.resources.toList.map (·.id)

/-- Whether the ids of the resources are kept, and the library of dialects goes on to give the same answers. -/
def Assembly.KeepsIds (options : Options) (dialects : DialectCache) (before after : Assembly) : Prop :=
  after.resourceIds = before.resourceIds ∧ options.Knows (options.answers dialects) after.dialects

section

variable {options : Options} {dialects : DialectCache} {registered : Bool} {sub : Site → Json → Compile Nat}
  {before between after : Assembly}

theorem Assembly.resourceIds_eq_of_getElem? (same : ∀ index : Nat, (after.resources[index]?).map (·.id) =
    (before.resources[index]?).map (·.id)) : after.resourceIds = before.resourceIds := by
  refine List.ext_getElem? fun index => ?_
  simpa [resourceIds] using same index

theorem Assembly.KeepsIds.trans (first : before.KeepsIds options dialects between)
    (second : between.KeepsIds options dialects after) : before.KeepsIds options dialects after :=
  ⟨second.1.trans first.1, second.2⟩

/-- Whether compiling a value without ids keeps the ids of the resources. -/
def KeepsIdsBelow (options : Options) (dialects : DialectCache) (sub : Site → Json → Compile Nat) : Prop :=
  ∀ site value before number after, options.Selects dialects site.dialect → options.FindsNoId dialects value →
    options.Knows (options.answers dialects) before.dialects → Yields (sub site value) before number after →
      before.KeepsIds options dialects after

variable (below : KeepsIdsBelow options dialects sub) (known : options.Knows (options.answers dialects) before.dialects)
include below known

namespace KeywordSite

variable {place : KeywordSite} {meaning : StandardKeyword} {value : Json}
  (selects : options.Selects dialects place.site.dialect)
include selects

theorem keepsIds_compileSlots {slots : List (List String × Json)} {numbers : List Nat}
    (yields : Yields (place.compileSlots sub slots) before numbers after)
    (noId : ∀ slot ∈ slots, options.FindsNoId dialects slot.2) : before.KeepsIds options dialects after := by
  induction slots generalizing before numbers with
  | nil =>
    obtain ⟨rfl, rfl⟩ := yields_compileSlots_nil.mp yields
    exact ⟨rfl, known⟩
  | cons slot slots ih =>
    obtain ⟨number, rest, between, rfl, first, others⟩ := yields_compileSlots_cons.mp yields
    obtain ⟨noIdFirst, noIdRest⟩ := List.forall_mem_cons.mp noId
    have keeps := below (place.site.descend (place.keyword :: slot.1)) _ _ _ _ selects noIdFirst known first
    exact keeps.trans (ih keeps.2 others noIdRest)

theorem keepsIds_compile {result : Site × Option Rule}
    (yields : Yields (place.compile registered sub meaning value) before result after) (other : meaning ≠ .id)
    (noId : options.FindsNoId dialects value) : before.KeepsIds options dialects after := by
  obtain ⟨-, numbers, slots, -⟩ := fillsSlots meaning value other _ _ _ _ _ _ yields
  exact keepsIds_compileSlots below known selects slots fun slot member =>
    noId.mono (StandardKeyword.part_of_mem_slots meaning member).values_subset

end KeywordSite

namespace Site

variable {site : Site}

theorem keepsIds_compileKeywords {entries : List (KeywordEntry Json)} {result : Site × List Rule}
    (selects : options.Selects dialects site.dialect)
    (yields : Yields (compileKeywords registered sub site entries) before result after)
    (noId : ∀ entry ∈ entries, entry.spec.meaning ≠ .id ∧ options.FindsNoId dialects entry.item) :
    before.KeepsIds options dialects after := by
  induction entries generalizing site before result with
  | nil =>
    obtain ⟨rfl, rfl⟩ := yields_compileKeywords_nil.mp yields
    exact ⟨rfl, known⟩
  | cons entry entries ih =>
    obtain ⟨first, between, rest, yieldsFirst, yieldsRest, rfl⟩ := yields_compileKeywords_cons.mp yields
    obtain ⟨⟨other, noIdFirst⟩, noIdRest⟩ := List.forall_mem_cons.mp noId
    have keeps := KeywordSite.keepsIds_compile below known selects yieldsFirst other noIdFirst
    have stays : first.1.dialect = site.dialect := (KeywordSite.leaves_of_yields yieldsFirst).1
    exact keeps.trans (ih keeps.2 (stays ▸ selects) yieldsRest noIdRest)

omit below

/-- To select a dialect keeps the ids of the resources. -/
theorem keepsIds_selectDialect {members : List (String × Json)} {selected : Site}
    (yields : Yields (site.selectDialect options members) before selected after) :
    before.KeepsIds options dialects after := by
  refine ⟨?_, knows_of_yields (site.isSteady_selectDialect (options.settles_knows _) members) known yields⟩
  rcases cases_of_yields_selectDialect yields with ⟨-, -, rfl⟩ | ⟨value, dialect, found, -, -, -, rfl⟩
  · rfl
  · exact Assembly.resourceIds_eq_of_getElem? (map_resources_selected before.resources dialect site fun _ => rfl)

include below

theorem keepsIds_compileShape {value : Json} {made : Site × Shape} (selects : options.Selects dialects site.dialect)
    (noId : options.FindsNoId dialects value)
    (yields : Yields (site.compileShape options registered sub value) before made after) :
    before.KeepsIds options dialects after := by
  cases value with
  | bool accepts =>
    obtain ⟨-, rfl⟩ := yields_pure.mp yields
    exact ⟨rfl, known⟩
  | object members =>
    obtain ⟨selected, start, rules, complete, chosen, keywords, -⟩ := yields_compileShape_object.mp yields
    have keeps := keepsIds_selectDialect known chosen
    have selectsChosen := selects.effective (effectiveDialect?_of_yields known chosen)
    refine keeps.trans (keepsIds_compileKeywords below keeps.2 selectsChosen keywords fun entry member => ?_)
    obtain ⟨name, position, inside, found⟩ := keyword?_of_mem_inOrder member
    refine ⟨fun means => ?_, noId.mono (Json.values_subset_of_mem inside)⟩
    exact noId members (Json.self_mem_values _) _ inside _ selectsChosen ⟨position, entry.spec, found, means⟩
  | _ => exact absurd yields yields_throw

omit below known

theorem resourceIds_finished {value : Json} {shape : Shape} :
    (site.finished value shape before).resourceIds = before.resourceIds := by
  refine Assembly.resourceIds_eq_of_getElem? fun index => ?_
  rw [getElem?_resources_finished, Option.map_map]
  exact congrArg (Option.map · _) (funext fun resource => id_enteredResource _ _ _)

/-- A value without ids is compiled without further resources. -/
theorem keepsIdsBelow_compileWithin (depth : Nat) :
    KeepsIdsBelow options dialects (compileWithin options registered depth) := by
  induction depth with
  | zero => exact fun _ _ _ _ _ _ _ _ yields => absurd yields yields_throw
  | succ depth ih =>
    intro site value before number after selects noId known yields
    obtain ⟨-, made, middle, shapes, finishes⟩ := yields_compileNode.mp yields
    have selectsStarted : options.Selects dialects (site.start before.nodes.size).dialect := selects
    have knownPushed : options.Knows (options.answers dialects)
      ({ before with nodes := before.nodes.push none } : Assembly).dialects := known
    have keeps := keepsIds_compileShape ih knownPushed selectsStarted noId shapes
    obtain rfl := yields_finish.mp finishes
    exact ⟨resourceIds_finished.trans keeps.1, keeps.2⟩

end Site

end

/-- A document without ids has one resource, with the URL from which it was retrieved as its id. -/
theorem Schema.ids_of_compileWith {options : Options} {dialects found : DialectCache} {url : Url} {value : Json}
    {schema : Schema} (noId : options.FindsNoId dialects value) (known : options.Knows (options.answers dialects) found)
    (compiled : (compileWith options url value found).1 = .ok schema) :
    schema.document.resources.toList.map (·.id) = [url.withoutFragment] := by
  obtain ⟨root, final, yields, finished, -⟩ := exists_assembly_of_compileDocument compiled
  obtain ⟨resources, -⟩ := Assembly.resources_of_document? finished
  rw [resources]
  exact (Site.keepsIdsBelow_compileWithin _ _ _ _ _ _ (.inl rfl) noId known yields).1

end JsonSchema
