import JsonSchema.Proofs.Compile.Relocation

/-! # Excerpts

A document is an excerpt of another one if its nodes and inner resources are found there under other numbers, while the
resource around them stands in for that of the whole excerpt. Every schema of a document of the draft that declares no
id can be compiled apart in the resource in which it stands, and the result is an excerpt of the document
(`Schema.excerpts_of_compileDocument`).
-/

namespace JsonSchema

open Compile

/-! ## Rules of dynamic references -/

/-- Whether a rule that is a dynamic reference to an anchor has the name of this anchor as its fragment. -/
def Rule.IsNamed : Rule → Prop
  | .dynamicRef url (some name) => url.fragmentText = name ∧ isAnchorName name = true
  | _ => True

section

variable {options : Options} {registered : Bool} {sub : Site → Json → Compile Nat} {before after : Assembly}

theorem KeywordSite.isNamed_of_yields {place : KeywordSite} {meaning : StandardKeyword} {value : Json}
    {result : Site × Option Rule} (yields : Yields (place.compile registered sub meaning value) before result after) :
    ∀ rule ∈ result.2, rule.IsNamed := by
  intro rule member
  have anything : KeepsBelow (fun _ => True) place.site.dialect sub := fun _ _ _ _ _ => ⟨trivial, fun _ _ => trivial⟩
  have means := ((keeps_compile anything rfl registered meaning value before trivial).2 result
    (congrArg Prod.fst yields)).2 rule member
  cases rule with
  | dynamicRef url anchor =>
    obtain rfl : StandardKeyword.dynamicRef = meaning := Option.some.inj means
    obtain ⟨found, between, read, made⟩ := yields_bind.mp yields
    obtain ⟨rfl, rfl⟩ := yields_pure.mp made
    obtain ⟨rfl, rfl⟩ := Rule.dynamicRef.inj (Option.some.inj member)
    split
    · next plain => exact ⟨rfl, plain⟩
    · trivial
  | _ => trivial

theorem Site.isNamed_of_yields_compileKeywords {site : Site} {entries : List (KeywordEntry Json)}
    {result : Site × List Rule} (yields : Yields (compileKeywords registered sub site entries) before result after) :
    ∀ rule ∈ result.2, rule.IsNamed := by
  induction entries generalizing site before result with
  | nil =>
    obtain ⟨rfl, rfl⟩ := yields_compileKeywords_nil.mp yields
    exact fun rule member => absurd member List.not_mem_nil
  | cons entry entries ih =>
    obtain ⟨first, between, rest, yieldsFirst, yieldsRest, rfl⟩ := yields_compileKeywords_cons.mp yields
    intro rule member
    rcases List.mem_append.mp member with early | late
    · exact KeywordSite.isNamed_of_yields yieldsFirst rule (Option.mem_toList.mp early)
    · exact ih yieldsRest rule late

theorem Site.isNamed_of_yields_compileMembers {site : Site} {members : List (String × Json)} {result : Site × List Rule}
    (yields : Yields (site.compileMembers options registered sub members) before result after) :
    ∀ rule ∈ result.2, rule.IsNamed := by
  obtain ⟨selected, start, -, goesOn⟩ := yields_bind.mp yields
  obtain ⟨⟨final, rules⟩, between, keywords, made⟩ := yields_bind.mp goesOn
  have named := isNamed_of_yields_compileKeywords keywords
  dsimp only at made
  split at made
  · exact absurd made yields_throw
  · obtain ⟨rfl, rfl⟩ := yields_pure.mp made
    intro rule member
    rcases Draft.mem_withUnknown member with inside | ⟨entry, -, rfl⟩
    · exact named rule inside
    · trivial
  · obtain ⟨rfl, rfl⟩ := yields_pure.mp made
    exact named

/-- The rules of compiled nodes are named. -/
theorem Node.CompiledUnder.isNamed {dialect : Dialect} {node : Node} (compiled : node.CompiledUnder dialect) :
    ∀ rule ∈ node.rules, rule.IsNamed := by
  obtain ⟨site, options, registered, sub, before, final, after, run, -⟩ := compiled
  have yields : Yields (site.compileShape options registered sub node.value) before (final, node.shape) after := run
  cases value : node.value with
  | bool accepts =>
    rw [value] at yields
    rw [Node.rules, ← (Prod.mk.inj (yields_pure.mp yields).1).2]
    exact fun rule member => absurd member List.not_mem_nil
  | object members =>
    rw [value] at yields
    obtain ⟨compiled, stop, yieldsMembers, shaped⟩ := yields_bind.mp yields
    rw [Node.rules_of_shape (Prod.mk.inj (yields_pure.mp shaped).1).2.symm]
    exact Site.isNamed_of_yields_compileMembers yieldsMembers
  | _ =>
    rw [value] at yields
    exact absurd yields yields_throw

end

/-! ## Documents -/

theorem Node.Relocates.rules_eq {offsets : Offsets} {nodes resources : Nat} {node apart : Node}
    (relocates : node.Relocates offsets nodes resources apart) :
    node.rules = apart.rules.map (·.rename (· + offsets.node)) := by
  rw [Node.rules, Node.rules, relocates.shape_eq]
  cases apart.shape <;> rfl

/-- Whether a document is an excerpt of another one. -/
structure Document.Excerpts (offsets : Offsets) (document excerpt : Document) : Prop where
  nodes : ∀ index < excerpt.nodes.size, (document.node (index + offsets.node)).Relocates offsets excerpt.nodes.size
    excerpt.resources.size (excerpt.node index)
  resources : ∀ (index : Nat) (inner : Resource), excerpt.resources[index + 1]? = some inner →
    ∃ resource, document.resources[index + offsets.resource]? = some resource ∧
      resource.Relocates offsets excerpt.nodes.size inner
  around : ∃ outer first, document.resources[offsets.around]? = some outer ∧ excerpt.resources[0]? = some first ∧
    outer.StandsIn first
  ids : ∀ (id : Url) (index : Nat), assoc? id excerpt.ids = some index → ∃ inner, index = inner + 1 ∧
    index < excerpt.resources.size ∧ assoc? id document.ids = some (inner + offsets.resource)
  /-- Anchors of the excerpt name nodes of the resource that declares them. -/
  anchored : ∀ (index : Nat) (resource : Resource), excerpt.resources[index]? = some resource →
    ∀ entry ∈ resource.anchors ++ resource.dynamicAnchors, (excerpt.node entry.2).resource = index
  named : ∀ (index : Nat), ∀ rule ∈ (excerpt.node index).rules, rule.IsNamed

namespace Assembly

variable {assembly apart final : Assembly} {document excerpt : Document} {offsets : Offsets}

theorem getElem?_nodes_of_document? (finished : assembly.document? = some document) (index : Nat) :
    assembly.nodes[index]? = (document.nodes[index]?).map some := by
  obtain ⟨nodes, filled, rfl⟩ := Option.map_eq_some_iff.mp finished
  rw [← Array.getElem?_toList, eq_map_some_of_mapM filled, List.getElem?_map, List.getElem?_toArray]

theorem resources_of_document? (finished : assembly.document? = some document) :
    document.resources = assembly.resources ∧ document.ids = assembly.ids := by
  obtain ⟨nodes, filled, rfl⟩ := Option.map_eq_some_iff.mp finished
  exact ⟨rfl, rfl⟩

theorem size_of_document? (finished : assembly.document? = some document) :
    document.nodes.size = assembly.nodes.size := by
  obtain ⟨nodes, filled, rfl⟩ := Option.map_eq_some_iff.mp finished
  rw [List.size_toArray, ← Array.length_toList, eq_map_some_of_mapM filled, List.length_map]

theorem node_of_document? (finished : assembly.document? = some document) {index : Nat} {node : Node}
    (found : assembly.nodes[index]? = some (some node)) : document.node index = node := by
  rw [getElem?_nodes_of_document? finished, Option.map_eq_some_iff] at found
  obtain ⟨own, found, same⟩ := found
  rw [Document.node, Array.getD_eq_getD_getElem?, found, Option.getD_some, Option.some.inj same]

theorem exists_node_of_document? (finished : assembly.document? = some document) {index : Nat}
    (inside : index < assembly.nodes.size) : assembly.nodes[index]? = some (some (document.node index)) := by
  rw [← size_of_document? finished] at inside
  rw [getElem?_nodes_of_document? finished, Array.getElem?_eq_getElem inside, Option.map_some, Document.node,
    Array.getD_eq_getD_getElem?, Array.getElem?_eq_getElem inside, Option.getD_some]

/-- An assembly of finished nodes is a document. -/
theorem exists_document? (all : ∀ index < assembly.nodes.size, ∃ node, assembly.nodes[index]? = some (some node)) :
    ∃ document, assembly.document? = some document := by
  have filled : ∃ nodes, assembly.nodes.toList.mapM id = some nodes := by
    have each : ∀ slot ∈ assembly.nodes.toList, slot.isSome := by
      intro slot member
      obtain ⟨index, bound, rfl⟩ := List.mem_iff_getElem.mp member
      obtain ⟨node, found⟩ := all index bound
      rw [Array.getElem?_eq_getElem bound] at found
      rw [Array.getElem_toList, Option.some.inj found]
      rfl
    generalize assembly.nodes.toList = slots at each
    induction slots with
    | nil => exact ⟨[], rfl⟩
    | cons slot rest ih =>
      obtain ⟨node, rfl⟩ := Option.isSome_iff_exists.mp (each slot List.mem_cons_self)
      obtain ⟨nodes, filled⟩ := ih fun other member => each other (List.mem_cons_of_mem _ member)
      exact ⟨node :: nodes, by rw [List.mapM_cons, filled]; rfl⟩
  obtain ⟨nodes, filled⟩ := filled
  exact ⟨_, by rw [document?, filled]; rfl⟩

/-- What was made apart is an excerpt of any document that goes on from what was made in place. -/
theorem Relocates.excerpts (relocates : assembly.Relocates offsets apart) (grows : assembly.Grows final)
    (sound : apart.Sound) (finished : final.document? = some document) (finishedApart : apart.document? = some excerpt)
    (named : ∀ (index : Nat), ∀ rule ∈ (excerpt.node index).rules, rule.IsNamed) :
    document.Excerpts offsets excerpt := by
  obtain ⟨resources, ids⟩ := resources_of_document? finished
  obtain ⟨resourcesApart, idsApart⟩ := resources_of_document? finishedApart
  have size := size_of_document? finishedApart
  have inPlace (index : Nat) (inside : index < apart.nodes.size) : ∃ node,
      assembly.nodes[index + offsets.node]? = some (some node) ∧
        node.Relocates offsets apart.nodes.size apart.resources.size (excerpt.node index) :=
    relocates.nodes index _ (exists_node_of_document? finishedApart inside)
  refine ⟨?_, ?_, ?_, ?_, ?_, named⟩
  · intro index inside
    rw [size] at inside ⊢
    obtain ⟨node, found, moved⟩ := inPlace index inside
    rw [node_of_document? finished (grows.finished _ node found), resourcesApart]
    exact moved
  · intro index inner found
    rw [resourcesApart] at found
    obtain ⟨resource, foundPlace, moved⟩ := relocates.resources index inner found
    obtain ⟨root, foundRoot, -⟩ := inPlace inner.node moved.node_lt
    rw [← moved.node_eq] at foundRoot
    rw [resources, size]
    exact ⟨resource, grows.closed _ resource root foundPlace foundRoot, moved⟩
  · obtain ⟨outer, first, foundOuter, foundFirst, standsIn⟩ := relocates.around
    obtain ⟨later, foundLater, becomes⟩ := grows.becomes _ outer foundOuter
    rw [resources, resourcesApart]
    exact ⟨later, first, foundLater, foundFirst, becomes.id_eq.trans standsIn.id_eq,
      becomes.dialect_eq.trans standsIn.dialect_eq, standsIn.node_eq,
      fun name declared => becomes.dynamic name (standsIn.dynamic name declared)⟩
  · intro id index named
    rw [idsApart] at named
    obtain ⟨inner, same, bound, found⟩ := relocates.ids id index named
    rw [resourcesApart, ids]
    exact ⟨inner, same, bound, grows.ids id _ found⟩
  · intro index resource found entry member
    rw [resourcesApart] at found
    obtain ⟨node, foundNode, own⟩ := sound.anchored index resource found entry member
    rw [node_of_document? finishedApart foundNode]
    exact own

end Assembly

/-- A fragment names in a resource the node that it names in the one that was made apart. -/
theorem Resource.Relocates.nodeOfFragment?_eq {offsets : Offsets} {nodes : Nat} {resource inner : Resource}
    (moved : resource.Relocates offsets nodes inner) (fragment : String) (kinds : FragmentKinds) :
    resource.nodeOfFragment? fragment kinds = (inner.nodeOfFragment? fragment kinds).map (· + offsets.node) ∧
      ∀ node ∈ inner.nodeOfFragment? fragment kinds, node < nodes := by
  unfold Resource.nodeOfFragment?
  rw [moved.node_eq, moved.anchors_eq, moved.dynamicAnchors_eq, moved.locations_eq, assoc?_moveEntries,
    assoc?_moveEntries]
  split
  · split
    · exact ⟨rfl, fun node found => Option.some.inj found ▸ moved.node_lt⟩
    · exact ⟨rfl, fun node impossible => by cases impossible⟩
  · split
    · split
      · split
        · next pointer _ =>
          exact ⟨assoc?_moveEntries pointer, fun node found => moved.locations_lt _ (mem_of_assoc? found)⟩
        · exact ⟨rfl, fun node impossible => by cases impossible⟩
      · exact ⟨rfl, fun node impossible => by cases impossible⟩
    · have anchors (node : Nat) (found : assoc? fragment inner.anchors = some node) : node < nodes :=
        moved.anchors_lt _ (mem_of_assoc? found)
      have dynamicAnchors (node : Nat) (found : assoc? fragment inner.dynamicAnchors = some node) : node < nodes :=
        moved.dynamicAnchors_lt _ (mem_of_assoc? found)
      cases kinds with
      | standard =>
        cases named : assoc? fragment inner.anchors with
        | none => exact ⟨rfl, fun node impossible => by cases impossible⟩
        | some node => exact ⟨rfl, fun other found => Option.some.inj found ▸ anchors node named⟩
      | dynamicOnly =>
        cases named : assoc? fragment inner.dynamicAnchors with
        | none => exact ⟨rfl, fun node impossible => by cases impossible⟩
        | some node => exact ⟨rfl, fun other found => Option.some.inj found ▸ dynamicAnchors node named⟩
      | standardAndDynamic =>
        cases named : assoc? fragment inner.anchors with
        | some node => exact ⟨rfl, fun other found => Option.some.inj found ▸ anchors node named⟩
        | none => exact ⟨rfl, fun node found => dynamicAnchors node found⟩

theorem Except.eq_ok_of_toOption {ε α : Type} {result : Except ε α} {value : α} (some : result.toOption = some value) :
    result = .ok value := by
  cases result with
  | error cause => cases some
  | ok found => exact congrArg _ (Option.some.inj some)

namespace Schema

variable {options : Options}

/-- A compiled document is what its assembly was finished to. -/
theorem exists_assembly_of_compileDocument {dialect : Dialect} {base : Url} {registered : Bool} {value : Json}
    {dialects : DialectCache} {schema : Schema}
    (compiled : (compileDocument options dialect base registered value dialects).1 = .ok schema) :
    ∃ root assembly, Yields (Site.compileWithin options registered (value.depth + 1) (.root dialect base) value)
        (.start dialect base registered dialects) root assembly ∧
      assembly.document? = some schema.document ∧ schema.resource = 0 := by
  rcases compilation : (Site.compileWithin options registered (value.depth + 1) (.root dialect base) value).run
    (.start dialect base registered dialects) with ⟨result, assembly⟩
  unfold compileDocument at compiled
  dsimp only at compiled
  rw [compilation] at compiled
  cases result with
  | error cause => injection compiled
  | ok root =>
    dsimp only at compiled
    cases finished : assembly.document? with
    | none =>
      rw [finished] at compiled
      injection compiled
    | some document =>
      rw [finished] at compiled
      obtain rfl : ⟨document, 0⟩ = schema := Except.ok.inj compiled
      exact ⟨root, assembly, compilation, finished, rfl⟩

theorem compileDocument_of_yields {dialect : Dialect} {base : Url} {registered : Bool} {value : Json}
    {dialects : DialectCache} {root : Nat} {assembly : Assembly} {document : Document}
    (yields : Yields (Site.compileWithin options registered (value.depth + 1) (.root dialect base) value)
      (.start dialect base registered dialects) root assembly) (finished : assembly.document? = some document) :
    (compileDocument options dialect base registered value dialects).1 = .ok ⟨document, 0⟩ := by
  unfold compileDocument
  dsimp only
  rw [yields]
  dsimp only
  rw [finished]
  rfl

/-- A schema without an id that is compiled at a site on the way to a document can be compiled apart, as an excerpt of
this document. -/
theorem exists_excerpt (only : options.KnowsOnlyDraft) {registered : Bool} {depth : Nat} {site : Site} {value : Json}
    {before after final : Assembly} {document : Document} {number : Nat} (plain : value.declaresId = false)
    (awaits : site.Awaits before) (sound : before.Sound)
    (yields : Yields (Site.compileWithin options registered depth site value) before number after)
    (grows : after.Grows final) (finished : final.document? = some document) (dialects : DialectCache) :
    ∃ excerpt root, (compileDocument options Draft.dialect site.base false value dialects).1 = .ok ⟨excerpt, 0⟩ ∧
      document.Excerpts (site.offsets before) excerpt ∧ 0 < excerpt.nodes.size ∧
      after.nodes[before.nodes.size]? = some (some root) ∧ root.resource = site.resource := by
  obtain ⟨last, yieldsApart, relocates⟩ := Site.relocates_compileWithin only plain awaits sound dialects yields
  obtain ⟨-, extendsApart⟩ :=
    Site.extends_compileWithin only (Site.awaits_root _ _ _) (Site.sound_start _ _ _) yieldsApart
  obtain ⟨first, foundFirst, -, own⟩ :=
    Site.root_of_compileWithin only (Site.awaits_root _ _ _) (Site.sound_start _ _ _) rfl yieldsApart
  obtain ⟨excerpt, finishedApart⟩ := @Assembly.exists_document? last fun index bound => by
    obtain ⟨made, foundMade, -⟩ := extendsApart.newer index (Nat.zero_le _) bound
    exact ⟨made, foundMade⟩
  obtain ⟨moved, foundMoved, relocated⟩ := relocates.nodes 0 first foundFirst
  have compiledApart := compileDocument_of_yields yieldsApart finishedApart
  refine ⟨excerpt, moved, compiledApart, relocates.excerpts grows extendsApart.sound finished finishedApart
    (fun index => (compiledUnder_of_compileDocument only compiledApart index).isNamed), ?_, ?_, ?_⟩
  · rw [Assembly.size_of_document? finishedApart]
    exact (Array.getElem?_eq_some_iff.mp foundFirst).1
  · rwa [Nat.zero_add] at foundMoved
  · rw [relocated.resource_eq, own]
    rfl

theorem compileDocument_of_compile (only : options.KnowsOnlyDraft) {url : Url} {value : Json} {schema : Schema}
    (compiled : (compile options url value).toOption = some schema) :
    (compileDocument options Draft.dialect url.withoutFragment true value []).1 = .ok schema := by
  rw [compile, compileWith, only.dialect_eq] at compiled
  exact Except.eq_ok_of_toOption compiled

/-- The resources of a document are under the draft if it is compiled where no other dialect is known. -/
theorem dialect_eq_of_compile (only : options.KnowsOnlyDraft) {url : Url} {value : Json} {schema : Schema}
    (compiled : (compile options url value).toOption = some schema) {index : Nat} {resource : Resource}
    (found : schema.document.resources[index]? = some resource) : resource.dialect = Draft.dialect := by
  obtain ⟨root, final, yields, finished, -⟩ :=
    exists_assembly_of_compileDocument (compileDocument_of_compile only compiled)
  obtain ⟨-, extends_⟩ := Site.extends_compileWithin only (Site.awaits_root _ _ _) (Site.sound_start _ _ _) yields
  rw [(Assembly.resources_of_document? finished).1] at found
  exact extends_.sound.drafted index resource found

/-- Below the root of a document of the draft, a schema without an id can be compiled apart in the resource in which it
stands, and the result is an excerpt of the document. -/
theorem excerpts_of_compileDocument (only : options.KnowsOnlyDraft) {base : Url} {registered : Bool} {value : Json}
    {dialects : DialectCache} {schema : Schema}
    (compiled : (compileDocument options Draft.dialect base registered value dialects).1 = .ok schema) {index : Nat}
    (inside : index < schema.document.nodes.size) (below : index ≠ 0)
    (plain : (schema.document.node index).value.declaresId = false) :
    ∃ around offsets, schema.document.resources[(schema.document.node index).resource]? = some around ∧
      offsets.node = index ∧ offsets.around = (schema.document.node index).resource ∧
      ∀ dialects, ∃ excerpt,
        (compileFragment options around (schema.document.node index).value dialects).1 = .ok ⟨excerpt, 0⟩ ∧
        schema.document.Excerpts offsets excerpt ∧ 0 < excerpt.nodes.size := by
  obtain ⟨root, final, yields, finished, -⟩ := exists_assembly_of_compileDocument compiled
  obtain ⟨-, extends_⟩ := Site.extends_compileWithin only (Site.awaits_root _ _ _) (Site.sound_start _ _ _) yields
  rw [Assembly.size_of_document? finished] at inside
  obtain ⟨node, found, depth, site, before, after, awaits, sound, rfl, yieldsNode, grows⟩ :=
    extends_.newer index (Nat.zero_le _) inside
  rw [Assembly.node_of_document? finished found] at plain ⊢
  obtain ⟨resources, -⟩ := Assembly.resources_of_document? finished
  have own : node.resource = site.resource := by
    obtain ⟨-, root, -, -, -, foundRoot, same⟩ := exists_excerpt only plain awaits sound yieldsNode grows finished []
    have kept := grows.finished _ root foundRoot
    rw [found] at kept
    rw [Option.some.inj (Option.some.inj kept), same]
  obtain ⟨resource, foundBefore, id, -⟩ := awaits.base
  have continues :=
    Site.continuesBelow_compileWithin only depth _ _ _ _ _ awaits sound (Nat.pos_of_ne_zero below) yieldsNode
  obtain ⟨around, foundAround, becomes⟩ := (continues.toGrows.trans grows).becomes _ resource foundBefore
  refine ⟨around, site.offsets before, ?_, rfl, own.symm, fun dialects => ?_⟩
  · rw [resources, own]
    exact foundAround
  · obtain ⟨excerpt, -, compiledApart, excerpts, some, -⟩ :=
      exists_excerpt only plain awaits sound yieldsNode grows finished dialects
    refine ⟨excerpt, ?_, excerpts, some⟩
    rw [compileFragment, extends_.sound.drafted _ around foundAround, becomes.id_eq.trans id]
    exact compiledApart

end Schema

end JsonSchema
