import JsonSchema.Proofs.Compile.Bundle
import JsonSchema.Proofs.Compile.Readings
import JsonSchema.Proofs.Evaluation.Mirrored
import JsonSchema.Proofs.Store.History
import Mathlib.Data.List.DropRight

/-! # Bundles and stores

A schema that declares an absolute id may stand among the definitions of a document that refers to it, or in a store
in which it is looked up by this id. Both evaluations mirror each other: the document in the store and what the bundle
holds behind its root go together, as does everything else that either evaluation comes to with itself
(`Bundled.mirrors`). The reports are the same in every shape (`Schema.validate_bundle`), unless a schema inside names
the one around it as its dialect, which is then found in the store only (`Schema.bundle_ignores_own_dialect`).
-/

namespace JsonSchema

/-- A URL without its fragment stays so. -/
theorem Url.withoutFragment_withoutFragment (url : Url) :
    url.withoutFragment.withoutFragment = url.withoutFragment := by
  obtain ⟨scheme, authority, path, query, fragment⟩ := url
  cases closed : (authority.isNone && !"/".isPrefixOf path) && query.isNone with
  | true =>
    have once : withoutFragment ⟨scheme, authority, path, query, fragment⟩ =
        ⟨scheme, authority, String.ofList (path.toList.reverse.dropWhile (· == ' ')).reverse, query, none⟩ := by
      simp only [withoutFragment, cannotBeABase, closed, if_true]
    rw [once]
    simp only [withoutFragment, String.toList_ofList, List.reverse_reverse, List.dropWhile_idempotent, ite_self]
  | false =>
    have once (fragment : Option String) : withoutFragment ⟨scheme, authority, path, query, fragment⟩ =
        ⟨scheme, authority, path, query, none⟩ := by
      simp only [withoutFragment, cannotBeABase, closed, Bool.false_eq_true, if_false]
    rw [once, once]

/-! ## Documents in a store -/

/-- A document that is registered under the id of its root is found by the ids of its resources only. -/
theorem SchemaStore.locate_registerAs {document : Document} (tree : document.IsTree)
    (named : ∀ (id : Url) (index : Nat), assoc? id document.ids = some index ↔
      ∃ resource, document.resources[index]? = some resource ∧ resource.id = id)
    {url : Url} {root : Resource} (outermost : document.resources[0]? = some root) (held : root.id = url.withoutFragment)
    (id : Url) : (empty.registerAs url ⟨document, 0⟩).locate id = document.find? id.withoutFragment := by
  by_cases covers : document.Covers url.withoutFragment id.withoutFragment
  · obtain ⟨schema, offers⟩ := Document.covers_iff_exists_offers.mp covers
    rw [locate_registerAs_of_offers tree empty offers, Document.find?]
    cases offers with
    | @resource index resource found own => rw [(named _ index).mpr ⟨resource, found, own⟩, Option.map_some]
    | retrieved same unnamed => exact absurd (held.trans same.symm) (unnamed root (Array.mem_of_getElem? outermost))
  · rw [locate_registerAs_of_not_covers tree empty covers, Document.find?]
    cases found : assoc? id.withoutFragment document.ids with
    | none => rfl
    | some index =>
      obtain ⟨resource, present, own⟩ := (named _ index).mp found
      exact absurd (.inr ⟨resource, Array.mem_of_getElem? present, own⟩) covers

/-! ## Pointers into what has a property -/

/-- The text of the root has no slash. -/
theorem Pointer.tokens_ne_nil_of_parse {fragment : String} (slash : "/".isPrefixOf fragment = true) {pointer : Pointer}
    (parsed : parse fragment = .ok pointer) : pointer.tokens ≠ [] := by
  obtain ⟨rest, same⟩ := String.startsWith_string_iff.mp slash
  have first : fragment.toList = '/' :: rest := same.symm
  simp only [parse, first] at parsed
  split at parsed
  · next tokens read =>
    obtain rfl := Except.ok.inj parsed
    rintro rfl
    obtain ⟨piece, pieces, pieced⟩ := List.exists_cons_of_ne_nil (splitList_ne_nil '/' rest)
    rw [pieced, readTokens?] at read
    obtain ⟨token, -, read⟩ := Option.bind_eq_some_iff.mp read
    obtain ⟨tokens, -, read⟩ := Option.bind_eq_some_iff.mp read
    cases read
  · cases parsed

theorem Json.Inherited.follow? {allows : Url → Prop} {fits : Url → Json → Prop} (inherited : Json.Inherited allows fits)
    {base : Url} {tokens : List String} {value found : Json} (fit : fits base value)
    (follows : Pointer.follow? tokens value = some found) : fits base found := by
  induction tokens generalizing value with
  | nil => exact Option.some.inj follows ▸ fit
  | cons token tokens ih =>
    obtain ⟨next, step, further⟩ := Option.bind_eq_some_iff.mp follows
    refine ih ?_ further
    cases value with
    | object members => exact inherited.member _ _ _ _ fit (mem_of_assoc? step)
    | array items =>
      obtain ⟨index, -, there⟩ := Option.bind_eq_some_iff.mp step
      exact inherited.item _ _ _ fit (List.mem_of_getElem? there)
    | _ => cases step

/-- What a pointer finds inside a value that settles fits. -/
theorem Json.Settles.fit_of_resolve? {allows : Url → Prop} {fits : Url → Json → Prop}
    (inherited : Json.Inherited allows fits) {base : Url} {value found : Json} (settles : value.Settles fits base)
    {fragment : String} (slash : "/".isPrefixOf fragment = true) {pointer : Pointer}
    (parsed : Pointer.parse fragment = .ok pointer) (resolves : pointer.resolve? value = some found) :
    fits base found := by
  obtain ⟨tokens⟩ := pointer
  cases tokens with
  | nil => exact absurd rfl (Pointer.tokens_ne_nil_of_parse slash parsed)
  | cons token tokens =>
    obtain ⟨next, step, further⟩ := Option.bind_eq_some_iff.mp resolves
    refine inherited.follow? ?_ further
    cases value with
    | object members => exact settles.member _ _ _ rfl (mem_of_assoc? step)
    | array items =>
      obtain ⟨index, -, there⟩ := Option.bind_eq_some_iff.mp step
      exact settles.item _ _ rfl (List.mem_of_getElem? there)
    | _ => cases step

/-! ## What goes together -/

namespace Rule

@[simp] theorem isApplied_rename (number : Nat → Nat) (rule : Rule) :
    (rule.rename number).isApplied = rule.isApplied := by
  simp only [isApplied, category, standard?_rename]

@[simp] theorem isLeaf_rename (number : Nat → Nat) (rule : Rule) : (rule.rename number).isLeaf = rule.isLeaf := by
  cases rule <;> rfl

/-- A plan does not depend on where schemas are looked up. -/
theorem plan_locating (rule : Rule) (facts : Facts) (locator : Locator) (target : Option Target) (value : Json) :
    rule.plan { facts with options := facts.options.locating locator } target value = rule.plan facts target value :=
  rfl

end Rule

/-- Whether the id of a dialect is that of the default one or unknown to a locator. -/
def Options.Overlooks (options : Options) (locator : Locator) (id : Url) : Prop :=
  options.dialect.id = id ∨ locator id = none

/-- Whether a value refers nowhere to the default base, and names no dialect that a locator finds. -/
def Json.Abides (options : Options) (locator : Locator) : Url → Json → Prop :=
  Json.Complies (·.withoutFragment ≠ Url.defaultBase) (options.Overlooks locator)

/-- Whether a document was made of a value that abides. -/
def Document.Abides (options : Options) (locator : Locator) (document : Document) : Prop :=
  document.Inherits (·.withoutFragment ≠ Url.defaultBase) (Json.Abides options locator)

/-- Whether two documents refer to the same schema, which a locator finds as a document of its own and which the other
one holds. -/
structure Bundled (options : Options) (locator : Locator) (url : Url) (reference bundle apart : Document) : Prop where
  only : options.KnowsOnlyDraft
  refers : reference.Refers Url.defaultBase url
  ids_eq : reference.ids = [(Url.defaultBase, 0)]
  bundles : bundle.Bundles Url.defaultBase url apart
  abides : apart.Abides options locator
  finds : ∀ id, locator id = apart.find? id.withoutFragment

section

variable (options : Options) (locator : Locator) (reference bundle apart : Document)

/-- The nodes that go together: the roots, what the bundle holds, and whatever both evaluations come to. -/
inductive Target.Bundles : Target → Target → Prop
  | root : Bundles ⟨reference, 0⟩ ⟨bundle, 0⟩
  | held {node : Nat} (inside : node < apart.nodes.size) : Bundles ⟨apart, node⟩ ⟨bundle, node + 1⟩
  | same {document : Document} (abides : document.Abides options locator) (node : Nat) :
      Bundles ⟨document, node⟩ ⟨document, node⟩

/-- The schemas that go together. -/
inductive Schema.Bundles : Schema → Schema → Prop
  | held (index : Nat) : Bundles ⟨apart, index⟩ ⟨bundle, index + 1⟩
  | same {document : Document} (abides : document.Abides options locator) (index : Nat) :
      Bundles ⟨document, index⟩ ⟨document, index⟩

/-- The active resources that go together. -/
inductive ActiveResource.Bundles : ActiveResource → ActiveResource → Prop
  | root : Bundles ⟨reference, 0⟩ ⟨bundle, 0⟩
  | inner {schema found : Schema} (pair : schema.Bundles options locator bundle apart found) :
      Bundles ⟨schema.document, schema.resource⟩ ⟨found.document, found.resource⟩

/-- Everything that goes together. -/
def Pairing.bundling : Pairing :=
  ⟨Target.Bundles options locator reference bundle apart, ActiveResource.Bundles options locator reference bundle apart⟩

end

/-- A document that compiles where only the draft is known names no other dialect. -/
theorem Schema.namesDraft_of_compile {options : Options} (only : options.KnowsOnlyDraft) {url : Url} {value : Json}
    {schema : Schema} (compiled : compile options url value = .ok schema) :
    ∀ dialect ∈ value.member? StandardKeyword.schema.name, Site.NamesDraft dialect := by
  obtain ⟨root, assembly, yields, -⟩ := exists_assembly_of_compileDocument compiled
  obtain ⟨-, made, middle, shapes, -⟩ := Site.yields_compileNode.mp yields
  intro dialect named
  cases value with
  | object members =>
    obtain ⟨result, stop, yieldsMembers, -⟩ := Compile.yields_bind.mp shapes
    obtain ⟨selected, start, selects, -⟩ := Compile.yields_bind.mp yieldsMembers
    have found : assoc? StandardKeyword.schema.name members = some dialect := named
    rw [Site.selectDialect, found] at selects
    obtain ⟨chosen, between, names, -⟩ := Compile.yields_bind.mp selects
    exact ((Site.yields_namedDialect only only.dialect_eq).mp names).1
  | _ => cases named

theorem Draft.id_eq_of_namesDraft {text : String} (names : Site.NamesDraft (.string text)) :
    (Url.parse text).toOption.map (·.withoutFragment) = some dialect.id := by
  obtain ⟨_, url, same, parses, names⟩ := names
  obtain rfl := Json.string.inj same
  rw [parses]
  refine congrArg some (names.elim Eq.symm fun found => ?_)
  rw [dialect?] at found
  split at found
  · next known => exact url.withoutFragment_withoutFragment.symm.trans known
  · cases found

theorem Draft.member?_schema_documents : ∀ value ∈ documents,
    value.member? StandardKeyword.schema.name = some (.string schemaText) := by
  decide +kernel

/-- The documents of the draft abide. -/
theorem Draft.abides_of_locate {options : Options} (drafted : options.dialect = dialect) (locator : Locator) {id : Url}
    {schema : Schema} (found : locate id = some schema) : schema.document.Abides options locator := by
  obtain ⟨other, member, same⟩ := List.mem_map.mp (mem_of_assoc? found)
  obtain rfl : other = schema := congrArg Prod.snd same
  obtain ⟨value, inside, compiles⟩ := List.mem_filterMap.mp member
  obtain ⟨text, declared, compiles⟩ := Option.bind_eq_some_iff.mp compiles
  cases read : Url.parse text with
  | error cause =>
    rw [read] at compiles
    cases compiles
  | ok url =>
    rw [read] at compiles
    have only := Options.knowsOnlyDraft_standard
    have complies := complies_documents value inside text declared url (by rw [read]; rfl)
    have dialects (id : Url) (named : id ∈ (Url.parse schemaText).toOption.map (·.withoutFragment)) :
        options.Overlooks locator id := by
      have names := Schema.namesDraft_of_compile only (Except.eq_ok_of_toOption compiles) _
        (member?_schema_documents value inside)
      rw [id_eq_of_namesDraft names] at named
      exact .inl (drafted ▸ Option.some.inj named)
    exact Schema.inherits_compileDocument Json.inherited_complies only (complies.mono dialects)
      (Schema.compileDocument_of_compile only compiles)

theorem rel_orElse {α β : Type _} {related : α → β → Prop} {found next : Option α} {other last : Option β}
    (first : Option.Rel related found other) (second : Option.Rel related next last) :
    Option.Rel related (found <|> next) (other <|> last) := by
  cases first with
  | none => exact second
  | some pair => exact .some pair

namespace Bundled

variable {options : Options} {locator : Locator} {url : Url} {reference bundle apart : Document}
  (bundled : Bundled options locator url reference bundle apart)
include bundled

/-! ### Resources -/

theorem find?_reference {id : Url} (foreign : id ≠ Url.defaultBase) : reference.find? id = none := by
  rw [Document.find?, bundled.ids_eq, assoc?, if_neg foreign]
  rfl

theorem rel_find? {id : Url} (foreign : id ≠ Url.defaultBase) :
    Option.Rel (Schema.Bundles options locator bundle apart) (apart.find? id) (bundle.find? id) := by
  rw [Document.find?, Document.find?, bundled.bundles.ids, assoc?, if_neg foreign, assoc?_moveEntries]
  cases assoc? id apart.ids with
  | none => exact .none
  | some index => exact .some (.held index)

theorem rel_drafted (id : Url) :
    Option.Rel (Schema.Bundles options locator bundle apart) (Draft.locate id) (Draft.locate id) := by
  cases found : Draft.locate id with
  | none => exact .none
  | some schema =>
    obtain ⟨document, index⟩ := schema
    exact .some (.same (Draft.abides_of_locate bundled.only.dialect_eq locator found) index)

/-- Both evaluations look schemas up among those of the draft. -/
theorem exists_home : ∃ home : Locator,
    (∀ id, Option.Rel (Schema.Bundles options locator bundle apart) (home id) (home id)) ∧
      (Run.mk options ⟨bundle, 0⟩).locators = [home, home] ∧
        (Run.mk (options.locating locator) ⟨reference, 0⟩).locators = [locator, home, home] := by
  obtain ⟨locations, outermost⟩ := bundled.bundles.outermost
  obtain ⟨locationsApart, outermostApart⟩ := bundled.refers.outermost
  have home : options.dialect.home.locate = Draft.locate := by
    rw [bundled.only.dialect_eq]
    rfl
  refine ⟨Draft.locate, bundled.rel_drafted, ?_, ?_⟩
  · rw [Run.locators, Schema.info?, outermost, bundled.only.schemas_eq, home]
    rfl
  · rw [Run.locators, Schema.info?, outermostApart]
    show [locator, Draft.locate, options.dialect.home.locate] = _
    rw [home]

/-- From documents that go together the same is found by an id, unless it is the default base. -/
theorem rel_resource? {target target' : Target} (pair : target.Bundles options locator reference bundle apart target')
    {id : Url} (foreign : id.withoutFragment ≠ Url.defaultBase) :
    Option.Rel (Schema.Bundles options locator bundle apart)
      ((Run.mk (options.locating locator) ⟨reference, 0⟩).resource? target.document id.withoutFragment)
      ((Run.mk options ⟨bundle, 0⟩).resource? target'.document id.withoutFragment) := by
  obtain ⟨home, drafted, locators, locatorsApart⟩ := bundled.exists_home
  have asked : locator id.withoutFragment = apart.find? id.withoutFragment := by
    rw [bundled.finds, Url.withoutFragment_withoutFragment]
  have stored : firstOf [locator, home, home] id.withoutFragment =
      (apart.find? id.withoutFragment <|> firstOf [home, home] id.withoutFragment) := by
    rw [← asked, firstOf, List.findSome?_cons]
    cases locator id.withoutFragment <;> rfl
  have beyond : Option.Rel (Schema.Bundles options locator bundle apart)
      (apart.find? id.withoutFragment <|> firstOf [home, home] id.withoutFragment)
      (bundle.find? id.withoutFragment <|> firstOf [home, home] id.withoutFragment) :=
    rel_orElse (bundled.rel_find? foreign) (rel_findSome?
      (.cons (drafted id.withoutFragment) (.cons (drafted id.withoutFragment) .nil)) fun _ _ pair => pair)
  simp only [Run.resource?, locators, locatorsApart, stored, bundled.find?_reference foreign]
  cases pair with
  | root =>
    rw [bundled.find?_reference foreign]
    cases found : bundle.find? id.withoutFragment <;> rw [found] at beyond <;> exact beyond
  | held inside => exact rel_orElse (bundled.rel_find? foreign) beyond
  | same abides node =>
    refine rel_orElse ?_ beyond
    rw [Document.find?]
    exact rel_map (rel_refl (fun _ => rfl) _) fun index _ same => same ▸ .same abides index

/-! ### Fragments -/

omit bundled in
theorem nodeOfFragment?_bundled (resource : Resource) (fragment : String) (kinds : FragmentKinds) :
    resource.bundled.nodeOfFragment? fragment kinds = (resource.nodeOfFragment? fragment kinds).map (· + 1) := by
  simp only [Resource.nodeOfFragment?, Resource.bundled, assoc?_moveEntries]
  split
  · split <;> rfl
  · split
    · split
      · split <;> rfl
      · rfl
    · cases kinds.allowsStandard <;> cases kinds.allowsDynamic <;> cases assoc? fragment resource.anchors <;> rfl

omit bundled in
theorem lt_of_nodeOfFragment? {document : Document} (abides : document.Abides options locator) {index : Nat}
    {resource : Resource} (found : document.resources[index]? = some resource) {fragment : String}
    {kinds : FragmentKinds} {node : Nat} (names : resource.nodeOfFragment? fragment kinds = some node) :
    node < document.nodes.size := by
  have own := abides.resources index resource found
  unfold Resource.nodeOfFragment? at names
  split at names
  · split at names
    · exact Option.some.inj names ▸ own.node
    · cases names
  · split at names
    · split at names
      · split at names
        · exact own.locations _ (mem_of_assoc? names)
        · cases names
      · cases names
    · have anchors := abides.anchors index resource found
      rcases Option.or_eq_some_iff.mp (Option.orElse_eq_or.symm.trans names) with anchored | ⟨-, declared⟩
      · split at anchored
        · exact anchors _ (List.mem_append_left _ (mem_of_assoc? anchored))
        · cases anchored
      · split at declared
        · exact anchors _ (List.mem_append_right _ (mem_of_assoc? declared))
        · cases declared

omit bundled in
theorem rel_nodeOfFragment? {schema found : Schema} (bundles : bundle.Bundles Url.defaultBase url apart)
    (abides : apart.Abides options locator) (pair : schema.Bundles options locator bundle apart found)
    (fragment : String) (kinds : FragmentKinds) :
    Option.Rel (fun node node' => Target.Bundles options locator reference bundle apart ⟨schema.document, node⟩
      ⟨found.document, node'⟩) (schema.nodeOfFragment? fragment kinds) (found.nodeOfFragment? fragment kinds) := by
  cases pair with
  | same abides index => exact rel_refl (fun node => .same abides node) _
  | held index =>
    simp only [Schema.nodeOfFragment?, Schema.info?, bundles.resources]
    cases present : apart.resources[index]? with
    | none => exact .none
    | some resource =>
      simp only [Option.map_some, Option.bind_some, nodeOfFragment?_bundled]
      cases names : resource.nodeOfFragment? fragment kinds with
      | none => exact .none
      | some node => exact .some (.held (lt_of_nodeOfFragment? abides present names))

omit bundled in
/-- Schemas that go together have the same source, with the same id. -/
theorem sources {schema found : Schema} (bundles : bundle.Bundles Url.defaultBase url apart)
    (abides : apart.Abides options locator) (pair : schema.Bundles options locator bundle apart found) :
    Option.Rel (fun resource resource' => resource'.id = resource.id ∧ resource.dialect = Draft.dialect ∧
        resource'.dialect = Draft.dialect ∧ found.value = schema.value ∧
          schema.value.Settles (Json.Abides options locator) resource.id) schema.info? found.info? := by
  have own {document : Document} (abides : document.Abides options locator) {index : Nat} {resource : Resource}
      (found : document.resources[index]? = some resource) : resource.dialect = Draft.dialect ∧
        Json.Settles (Json.Abides options locator) resource.id (⟨document, index⟩ : Schema).value := by
    refine ⟨abides.drafted index resource found, ?_⟩
    rw [Schema.value, Schema.root, Schema.rootIndex, Schema.info?, found]
    exact abides.roots index resource found
  cases pair with
  | @same document abides index =>
    show Option.Rel _ document.resources[index]? document.resources[index]?
    cases found : document.resources[index]? with
    | none => exact .none
    | some resource => exact .some ⟨rfl, (own abides found).1, (own abides found).1, rfl, (own abides found).2⟩
  | held index =>
    show Option.Rel _ apart.resources[index]? bundle.resources[index + 1]?
    rw [bundles.resources]
    cases found : apart.resources[index]? with
    | none => exact .none
    | some resource =>
      obtain ⟨drafted, settles⟩ := own abides found
      refine .some ⟨rfl, drafted, drafted, ?_, settles⟩
      have inside := (abides.resources index resource found).node
      simp only [Schema.value, Schema.root, Schema.rootIndex, Schema.info?, bundles.resources, found, Option.map_some,
        Option.getD_some, Resource.bundled, bundles.nodes _ inside, Node.bundled]

/-- What is compiled on demand in schemas that go together is the same. -/
theorem leads_compilePointer {schema found : Schema} (pair : schema.Bundles options locator bundle apart found)
    {fragment : String} (slash : "/".isPrefixOf fragment = true) :
    (Pairing.bundling options locator reference bundle apart).Leads
      ((Run.mk (options.locating locator) ⟨reference, 0⟩).compilePointer schema fragment)
      ((Run.mk options ⟨bundle, 0⟩).compilePointer found fragment) := by
  have infos := sources bundled.bundles bundled.abides pair
  unfold Run.compilePointer
  cases parsed : Pointer.parse fragment with
  | error cause => exact Pairing.leads_pure .none
  | ok pointer =>
    generalize schema.info? = info at infos ⊢
    generalize found.info? = info' at infos ⊢
    cases infos with
    | none => exact Pairing.leads_pure .none
    | @some resource resource' same =>
      obtain ⟨id, drafted, drafted', value, settles⟩ := same
      dsimp only
      rw [value]
      cases resolved : pointer.resolve? schema.value with
      | none => exact Pairing.leads_pure .none
      | some part =>
        intro memory memory' remembers
        have complies := settles.fit_of_resolve? Json.inherited_complies slash parsed resolved
        obtain ⟨compiles, dialects⟩ := Schema.compileDocument_locating bundled.only.schemas_eq
          (fun _ overlooks => overlooks) Draft.dialect false complies memory.dialects
        simp only [Evaluation.run_bind, Evaluation.run_get, Schema.compileFragment, drafted, drafted', id,
          remembers.dialects_eq]
        refine ⟨?_, remembers.fragments, dialects.symm⟩
        show Option.Rel _ (Option.map _ _) (Option.map _ _)
        rw [compiles]
        cases compiled : (Schema.compileDocument options Draft.dialect resource.id false part memory.dialects).1 with
        | error cause => exact .none
        | ok made =>
          exact .some (.same (Schema.inherits_compileDocument Json.inherited_complies bundled.only complies compiled) _)

/-! ### Rules -/

theorem leads_resolve {target target' : Target} (pair : target.Bundles options locator reference bundle apart target')
    {link : Url} (foreign : link.withoutFragment ≠ Url.defaultBase) :
    (Pairing.bundling options locator reference bundle apart).Leads
      ((Run.mk (options.locating locator) ⟨reference, 0⟩).resolve target.document link)
      ((Run.mk options ⟨bundle, 0⟩).resolve target'.document link) :=
  Pairing.leads_resolve (rel_imp (bundled.rel_resource? pair foreign) fun _ _ found =>
    ⟨rel_nodeOfFragment? bundled.bundles bundled.abides found _ _, bundled.leads_compilePointer found⟩)

theorem isSound : (Pairing.bundling options locator reference bundle apart).IsSound where
  active target target' pair := by
    cases pair with
    | root =>
      show ActiveResource.Bundles _ _ _ _ _ ⟨reference, (reference.node 0).resource⟩ ⟨bundle, (bundle.node 0).resource⟩
      rw [bundled.refers.resource_eq, bundled.bundles.resource_eq]
      exact .root
    | @held node inside =>
      show ActiveResource.Bundles _ _ _ _ _ ⟨apart, (apart.node node).resource⟩
        ⟨bundle, (bundle.node (node + 1)).resource⟩
      rw [bundled.bundles.nodes node inside]
      exact .inner (.held (apart.node node).resource)
    | @same document abides node => exact .inner (.same abides (document.node node).resource)
  dynamicAnchor? resource resource' pair name := by
    cases pair with
    | root =>
      obtain ⟨locations, outermost⟩ := bundled.bundles.outermost
      obtain ⟨locationsApart, outermostApart⟩ := bundled.refers.outermost
      simp only [ActiveResource.dynamicAnchor?, outermost, outermostApart]
      exact .none
    | inner pair =>
      cases pair with
      | same abides index => exact rel_map (rel_refl (fun _ => rfl) _) fun node _ same => same ▸ .same abides node
      | held index =>
        simp only [ActiveResource.dynamicAnchor?, bundled.bundles.resources]
        cases present : apart.resources[index]? with
        | none => exact .none
        | some resource =>
          simp only [Option.map_some, Option.bind_some, Resource.bundled, assoc?_moveEntries]
          cases declared : assoc? name resource.dynamicAnchors with
          | none => exact .none
          | some node =>
            have inside := bundled.abides.anchors index resource present _
              (List.mem_append_right _ (mem_of_assoc? declared))
            exact .some (.held inside)

/-- A rule does the same in the bundle, under the number that its sub-schemas have there. -/
theorem enacts {target target' : Target} (pair : target.Bundles options locator reference bundle apart target')
    {rule : Rule} (foreign : ∀ link ∈ rule.reference?, link.withoutFragment ≠ Url.defaultBase) {number : Nat → Nat}
    (alike : rule.isReference = false →
      (target'.document.node target'.node).rules = (target.document.node target.node).rules.map (·.rename number) ∧
        ∀ schema ∈ rule.subschemas, Target.Bundles options locator reference bundle apart ⟨target.document, schema⟩
            ⟨target'.document, number schema⟩ ∧
          (target'.document.node (number schema)).value = (target.document.node schema).value) :
    (Pairing.bundling options locator reference bundle apart).Enacts (Run.mk (options.locating locator) ⟨reference, 0⟩)
      (Run.mk options ⟨bundle, 0⟩) target target' rule (rule.rename number) where
  keyword_eq := rule.keyword_rename number
  isLeaf_eq := rule.isLeaf_rename number
  leads active active' pairs := bundled.isSound.leads_target pairs rule number fun link refers =>
    bundled.leads_resolve pair (foreign link refers)
  plans siblings attached found found' value rel := by
    cases refers : rule.isReference with
    | true => exact Pairing.plans_of_isReference refers rel _ _ number value
    | false =>
      obtain ⟨rules_eq, below⟩ := alike refers
      have renumbers : Facts.Renumbers number
          ⟨options, target.document, target.document.node target.node, siblings, attached⟩
          ⟨options, target'.document, target'.document.node target'.node, siblings, attached⟩ :=
        ⟨rfl, rules_eq, rfl, rfl⟩
      have moved := Rule.plan_rename renumbers refers (fun schema inside => (below schema inside).2) found found' value
      have located := rule.plan_locating
        ⟨options, target.document, target.document.node target.node, siblings, attached⟩ locator found value
      rw [moved, located]
      exact Pairing.plans_moveTo refers fun schema inside => (below schema inside).1

/-- The roots apply the same reference. -/
theorem shapes_root : Shape.Mirrors ((Pairing.bundling options locator reference bundle apart).Enacts
    (Run.mk (options.locating locator) ⟨reference, 0⟩) (Run.mk options ⟨bundle, 0⟩) ⟨reference, 0⟩ ⟨bundle, 0⟩)
      (reference.node 0).shape (bundle.node 0).shape := by
  obtain ⟨rules, shape, applied⟩ := bundled.bundles.shape
  obtain ⟨rulesApart, shapeApart, appliedApart⟩ := bundled.refers.shape
  rw [shape, shapeApart]
  refine .object ?_
  rw [applied, appliedApart]
  have foreign (link : Url) (refers : link ∈ (Rule.ref url).reference?) : link.withoutFragment ≠ Url.defaultBase :=
    Option.some.inj refers ▸ bundled.bundles.foreign
  have refers : (Rule.ref url).rename id = .ref url := rfl
  exact .cons (refers ▸ bundled.enacts .root foreign fun resolved => by cases resolved) .nil

/-- A node of the schema has the shape that it has in the bundle. -/
theorem shapes_held {node : Nat} (inside : node < apart.nodes.size) :
    Shape.Mirrors ((Pairing.bundling options locator reference bundle apart).Enacts
      (Run.mk (options.locating locator) ⟨reference, 0⟩) (Run.mk options ⟨bundle, 0⟩) ⟨apart, node⟩ ⟨bundle, node + 1⟩)
        (apart.node node).shape (bundle.node (node + 1)).shape := by
  have same := bundled.bundles.nodes node inside
  rw [same]
  cases shape : (apart.node node).shape with
  | boolean accepts =>
    rw [Node.bundled, shape]
    exact .boolean accepts
  | object rules =>
    rw [Node.bundled, shape]
    refine .object ?_
    rw [List.filter_map, List.forall₂_map_right_iff]
    simp only [Function.comp_def, Rule.isApplied_rename]
    refine List.forall₂_same.mpr fun rule member => ?_
    obtain ⟨allowed, below⟩ := bundled.abides.rules node rule (Node.applied_subset shape member)
    refine bundled.enacts (.held inside) allowed fun _ => ⟨?_, fun schema subschema => ?_⟩
    · show (bundle.node (node + 1)).rules = (apart.node node).rules.map _
      rw [same, Node.rules_of_shape shape, Node.bundled, shape]
      rfl
    · refine ⟨.held (below schema subschema), ?_⟩
      show (bundle.node (schema + 1)).value = _
      rw [bundled.bundles.nodes schema (below schema subschema)]
      rfl

/-- A node of any other document goes together with itself. -/
theorem shapes_same {document : Document} (abides : document.Abides options locator) (node : Nat) :
    Shape.Mirrors ((Pairing.bundling options locator reference bundle apart).Enacts
      (Run.mk (options.locating locator) ⟨reference, 0⟩) (Run.mk options ⟨bundle, 0⟩) ⟨document, node⟩ ⟨document, node⟩)
        (document.node node).shape (document.node node).shape := by
  cases shape : (document.node node).shape with
  | boolean accepts => exact .boolean accepts
  | object rules =>
    refine .object (List.forall₂_same.mpr fun rule member => ?_)
    have alike : (document.node node).rules = (document.node node).rules.map (·.rename id) := by simp
    have own := bundled.enacts (.same abides node)
      (abides.rules node rule (Node.applied_subset shape member)).allowed fun _ =>
        ⟨alike, fun schema _ => ⟨.same abides schema, rfl⟩⟩
    rwa [Rule.rename_id] at own

/-- The evaluation that finds the schema by its locator and the one in the bundle mirror each other. -/
theorem mirrors : (Pairing.bundling options locator reference bundle apart).Mirrors
    (Run.mk (options.locating locator) ⟨reference, 0⟩) (Run.mk options ⟨bundle, 0⟩) where
  toIsSound := bundled.isSound
  maxDepth_eq := rfl
  root_eq := by
    obtain ⟨locations, outermost⟩ := bundled.bundles.outermost
    obtain ⟨locationsApart, outermostApart⟩ := bundled.refers.outermost
    simp only [Schema.id, Schema.info?, outermost, outermostApart]
    rfl
  id_eq resource resource' pair := by
    cases pair with
    | root =>
      obtain ⟨locations, outermost⟩ := bundled.bundles.outermost
      obtain ⟨locationsApart, outermostApart⟩ := bundled.refers.outermost
      simp only [Schema.id, Schema.info?, outermost, outermostApart]
      rfl
    | inner pair =>
      cases pair with
      | same abides index => rfl
      | held index =>
        simp only [Schema.id, Schema.info?, bundled.bundles.resources, Option.map_map]
        rfl
  location_eq target target' pair := by
    cases pair with
    | root => exact bundled.bundles.location_eq.trans bundled.refers.location_eq.symm
    | held inside =>
      rw [bundled.bundles.nodes _ inside]
      rfl
    | same abides node => rfl
  shapes target target' pair := by
    cases pair with
    | root => exact bundled.shapes_root
    | held inside => exact bundled.shapes_held inside
    | same abides node => exact bundled.shapes_same abides node

end Bundled

/-! ## A bundle and a store -/

/-- Whether a text means a URL on its own, and no other one against the default base or against itself. -/
structure Url.IsAbsolute (text : String) (url : Url) : Prop where
  parse_eq : Url.parse text = .ok url
  join_eq : Url.defaultBase.join text = .ok url
  join_own : url.withoutFragment.join text = .ok url

/-- What is registered was compiled. -/
theorem SchemaStore.exists_document_of_registerValue {store next : SchemaStore} {options : Options} {url : Url}
    {value : Json} {dialects : DialectCache} {schema : Schema}
    (registered : (store.registerValue options url value dialects).1 = .ok (schema, next)) :
    ∃ document, (Schema.compileDocument options options.dialect url.withoutFragment true value dialects).1 =
      .ok ⟨document, 0⟩ ∧ next = store.registerAs url ⟨document, 0⟩ := by
  change (Schema.compileDocument options options.dialect url.withoutFragment true value dialects).1.map
    (fun schema => (schema, store.registerAs url schema)) = _ at registered
  cases compiled : (Schema.compileDocument options options.dialect url.withoutFragment true value dialects).1 with
  | error cause =>
    rw [compiled] at registered
    cases registered
  | ok made =>
    rw [compiled] at registered
    obtain ⟨-, rfl⟩ := Prod.mk.inj (Except.ok.inj registered)
    obtain ⟨-, -, -, -, first⟩ := Schema.exists_assembly_of_compileDocument compiled
    obtain ⟨document, index⟩ := made
    obtain rfl : index = 0 := first
    exact ⟨document, rfl, rfl⟩

/-- A reference abides if it leads to no other base. -/
theorem Json.abides_reference {options : Options} {locator : Locator} {text : String} {base url : Url}
    (joined : base.join text = .ok url) (foreign : url.withoutFragment ≠ Url.defaultBase) :
    (Json.object [(StandardKeyword.ref.name, .string text)]).Abides options locator base := by
  have plain : (Reading.mk base [(StandardKeyword.ref.name, .string text)]).declared? = none := rfl
  intro reading inside
  obtain rfl : reading = ⟨base, [(StandardKeyword.ref.name, .string text)]⟩ := by
    simpa [readings, readingsOfMembers, Reading.bases, plain] using inside
  refine ⟨List.nodup_singleton _, fun reference refers => ?_, fun id named => nomatch named⟩
  obtain ⟨keyword, -, found⟩ := List.mem_filterMap.mp refers
  rw [plain, Option.getD_none] at found
  obtain ⟨written, there, meant⟩ := Option.bind_eq_some_iff.mp found
  obtain ⟨value, under, isText⟩ := Option.bind_eq_some_iff.mp there
  obtain rfl : value = .string text := (Prod.mk.inj (List.mem_singleton.mp (mem_of_assoc? under))).2
  obtain rfl := Option.some.inj isText
  rw [joined] at meant
  exact Option.some.inj meant ▸ foreign

namespace Schema

/-- A schema that declares an absolute id is evaluated alike where it stands among the definitions of a document that
refers to it and where it is registered in a store. It must not refer to the default base, nor name a dialect that is
found in the store. -/
theorem validate_bundle {options : Options} (only : options.KnowsOnlyDraft)
    (annotates : options.unknownKeywords = .annotate) {members : List (String × Json)} {text name : String} {url : Url}
    (declares : (StandardKeyword.id.name, .string text) ∈ members) (absolute : Url.IsAbsolute text url)
    {bundle held reference : Schema} {store : SchemaStore}
    (bundled : (compile options Url.defaultBase (.object
      [(StandardKeyword.defs.name, .object [(name, .object members)]),
        (StandardKeyword.ref.name, .string text)])).toOption = some bundle)
    (registered : (SchemaStore.empty.registerValue (options.locating SchemaStore.empty.locate) url (.object members)
      []).1 = .ok (held, store))
    (refers : (compile (options.locating store.locate) Url.defaultBase
      (.object [(StandardKeyword.ref.name, .string text)])).toOption = some reference)
    (abides : (Json.object members).Abides options store.locate url.withoutFragment) (format : OutputFormat)
    (value : Json) (dialects : DialectCache) :
    (bundle.validate options format value dialects).1 =
      (reference.validate (options.locating store.locate) format value dialects).1 := by
  have home : Url.defaultBase.withoutFragment = Url.defaultBase := by decide
  have bundledIn := compileDocument_of_compile only bundled
  rw [home] at bundledIn
  -- The store is empty when the schema is compiled.
  obtain ⟨apart, compiled, stored⟩ := SchemaStore.exists_document_of_registerValue registered
  have tree := (Schema.isTree_of_compileWith compiled).1
  have empty (id : Url) (_ : True) : options.dialect.id = id ∨ SchemaStore.empty.locate id = none := .inr rfl
  have located := (compileDocument_locating only.schemas_eq empty options.dialect true (abides.mono fun _ _ => trivial)
    []).1
  replace compiled := Except.eq_ok_of_toOption (located.symm.trans (congrArg Except.toOption compiled))
  rw [only.dialect_eq] at compiled
  have distinct := abides.own.distinct
  have bundles := bundles_of_compileDocument only annotates absolute.join_eq distinct declares absolute.join_own
    bundledIn compiled
  have refersIn := Except.eq_ok_of_toOption refers
  change (compileDocument _ options.dialect Url.defaultBase.withoutFragment true _ []).1 = _ at refersIn
  rw [home] at refersIn
  have link : (Json.object [(StandardKeyword.ref.name, .string text)]).Abides options store.locate Url.defaultBase :=
    Json.abides_reference absolute.join_eq bundles.foreign
  have plain := (compileDocument_locating only.schemas_eq (fun _ overlooks => overlooks) options.dialect true link []).1
  replace refersIn := Except.eq_ok_of_toOption (plain.symm.trans (congrArg Except.toOption refersIn))
  rw [only.dialect_eq] at refersIn
  obtain ⟨refersTo, ids⟩ := refers_of_compileDocument only annotates absolute.join_eq refersIn
  have inherits := inherits_compileDocument Json.inherited_complies only abides compiled
  obtain ⟨root, outermost, own⟩ := bundles.held
  obtain ⟨-, -, -, -, bundleRoot⟩ := exists_assembly_of_compileDocument bundledIn
  obtain ⟨-, -, -, -, referenceRoot⟩ := exists_assembly_of_compileDocument refersIn
  obtain ⟨bundleDocument, bundleIndex⟩ := bundle
  obtain ⟨referenceDocument, referenceIndex⟩ := reference
  obtain rfl : bundleIndex = 0 := bundleRoot
  obtain rfl : referenceIndex = 0 := referenceRoot
  have finds (id : Url) : store.locate id = apart.find? id.withoutFragment :=
    stored ▸ SchemaStore.locate_registerAs tree bundles.named outermost own id
  have together : Bundled options store.locate url referenceDocument bundleDocument apart :=
    ⟨only, refersTo, ids, bundles, inherits, finds⟩
  have roots : Target.Bundles options store.locate referenceDocument bundleDocument apart
      ⟨referenceDocument, (⟨referenceDocument, 0⟩ : Schema).rootIndex⟩
        ⟨bundleDocument, (⟨bundleDocument, 0⟩ : Schema).rootIndex⟩ := by
    obtain ⟨locations, first⟩ := refersTo.outermost
    obtain ⟨bundleLocations, bundleFirst⟩ := bundles.outermost
    simp only [Schema.rootIndex, Schema.info?, first, bundleFirst]
    exact .root
  exact together.mirrors.validate_eq rfl roots format value dialects

/-- A schema with a schema of its own id inside, to which a keyword points that is not known. -/
theorem validate_bundle_embedded :
    let text := "local:/a"
    let url : Url := ⟨"local", none, "/a", none, none⟩
    let members := [("$dynamicAnchor", Json.string "top"), ("$id", .string text), ("$ref", .string "b#/x-c/0"),
      ("$defs", .object [("b", .object [("$id", .string "b"), ("x-c", .array [.object [("items", .object
        [("$dynamicRef", .string "a#top")]), ("maxItems", .ofNat 1)]])])])]
    let source := Json.object [(StandardKeyword.defs.name, .object [("k", .object members)]),
      (StandardKeyword.ref.name, .string text)]
    Options.standard.KnowsOnlyDraft ∧ Options.standard.unknownKeywords = .annotate ∧
      (StandardKeyword.id.name, Json.string text) ∈ members ∧ Url.IsAbsolute text url ∧
        ∃ bundle held reference store, (compile .standard Url.defaultBase source).toOption = some bundle ∧
          (SchemaStore.empty.registerValue (Options.standard.locating SchemaStore.empty.locate) url (.object members)
            []).1 = .ok (held, store) ∧
          (compile (Options.standard.locating store.locate) Url.defaultBase
            (.object [(StandardKeyword.ref.name, .string text)])).toOption = some reference ∧
          (Json.object members).Abides .standard store.locate url.withoutFragment ∧
          ∀ format value dialects, (bundle.validate .standard format value dialects).1 =
            (reference.validate (Options.standard.locating store.locate) format value dialects).1 := by
  intro text url members source
  have declares : (StandardKeyword.id.name, Json.string text) ∈ members := .tail _ (.head _)
  have absolute : Url.IsAbsolute text url := ⟨by decide +kernel, by decide +kernel, by decide +kernel⟩
  obtain ⟨bundle, bundled⟩ : ∃ bundle, (compile .standard Url.defaultBase source).toOption = some bundle :=
    Option.isSome_iff_exists.mp (by decide +kernel)
  obtain ⟨reference, found⟩ : ∃ reference, ((SchemaStore.empty.registerValue
      (Options.standard.locating SchemaStore.empty.locate) url (.object members) []).1.toOption.bind fun made =>
        (compile (Options.standard.locating made.2.locate) Url.defaultBase
          (.object [(StandardKeyword.ref.name, .string text)])).toOption) = some reference :=
    Option.isSome_iff_exists.mp (by decide +kernel)
  obtain ⟨⟨held, store⟩, registered, refers⟩ := Option.bind_eq_some_iff.mp found
  replace registered := Except.eq_ok_of_toOption registered
  have plain : ∀ reading ∈ (Json.object members).readings url.withoutFragment,
      (reading.members.map (·.1)).Nodup ∧
        (∀ link ∈ reading.references, link.withoutFragment ≠ Url.defaultBase) ∧ reading.dialect? = none := by
    decide +kernel
  have abides : (Json.object members).Abides .standard store.locate url.withoutFragment := by
    intro reading inside
    obtain ⟨distinct, foreign, none⟩ := plain reading inside
    exact ⟨distinct, foreign, fun id named => by rw [none] at named; cases named⟩
  exact ⟨Options.knowsOnlyDraft_standard, rfl, declares, absolute, bundle, held, reference, store, bundled, registered,
    refers, abides, validate_bundle Options.knowsOnlyDraft_standard rfl declares absolute bundled registered refers
      abides⟩

/-- A schema in a store can be found as a dialect, while the same schema in a bundle is not: where a schema inside names
the one around as its dialect, what is compiled on demand differs. -/
theorem bundle_ignores_own_dialect :
    let text := "local:/a"
    let url : Url := ⟨"local", none, "/a", none, none⟩
    let members := [("$id", Json.string text), ("$ref", .string "#/x-b"),
      ("x-b", .object [("$schema", .string text), ("type", .string "string")])]
    let source := Json.object [(StandardKeyword.defs.name, .object [("k", .object members)]),
      (StandardKeyword.ref.name, .string text)]
    assoc? StandardKeyword.schema.name members = none ∧ (StandardKeyword.id.name, Json.string text) ∈ members ∧
      Url.IsAbsolute text url ∧
        (∀ reading ∈ (Json.object members).readings url.withoutFragment, ∀ link ∈ reading.references,
          link.withoutFragment ≠ Url.defaultBase) ∧
        ∃ bundle held reference store, (compile .standard Url.defaultBase source).toOption = some bundle ∧
          (SchemaStore.empty.registerValue (Options.standard.locating SchemaStore.empty.locate) url (.object members)
            []).1 = .ok (held, store) ∧
          (compile (Options.standard.locating store.locate) Url.defaultBase
            (.object [(StandardKeyword.ref.name, .string text)])).toOption = some reference ∧
          (bundle.validate .standard .flag (.string "s") []).1 ≠
            (reference.validate (Options.standard.locating store.locate) .flag (.string "s") []).1 := by
  intro text url members source
  let verdicts : Option (Bool × Bool) := (compile .standard Url.defaultBase source).toOption.bind fun bundle =>
    (SchemaStore.empty.registerValue (Options.standard.locating SchemaStore.empty.locate) url (.object members)
      []).1.toOption.bind fun made =>
        (compile (Options.standard.locating made.2.locate) Url.defaultBase
          (.object [(StandardKeyword.ref.name, .string text)])).toOption.map fun reference =>
            ((bundle.validate .standard .flag (.string "s") []).1.isValid,
              (reference.validate (Options.standard.locating made.2.locate) .flag (.string "s") []).1.isValid)
  have computed : verdicts = some (false, true) := by decide +kernel
  obtain ⟨bundle, bundled, computed⟩ := Option.bind_eq_some_iff.mp computed
  obtain ⟨⟨held, store⟩, registered, computed⟩ := Option.bind_eq_some_iff.mp computed
  obtain ⟨reference, refers, computed⟩ := Option.map_eq_some_iff.mp computed
  obtain ⟨invalid, valid⟩ := Prod.mk.inj computed
  refine ⟨rfl, .head _, ⟨by decide +kernel, by decide +kernel, by decide +kernel⟩, by decide +kernel, bundle, held,
    reference, store, bundled, Except.eq_ok_of_toOption registered, refers, fun same => ?_⟩
  rw [same] at invalid
  exact Bool.false_ne_true (invalid.symm.trans valid)

end Schema

end JsonSchema
