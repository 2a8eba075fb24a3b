import JsonSchema.Proofs.Compile.Inherited

/-! # Bundles

A bundle is a document that holds a schema with an id among its definitions and refers to it. What the schema is
compiled to in the bundle is what it is compiled to as the document with this id: its nodes and resources come behind
the root of the bundle, which is the resource around them (`Schema.bundles_of_compile`). Each step of the
compilation keeps this, since the place in the bundle and that in the document differ in numbers only
(`Site.couples_compileWithin`).
-/

namespace JsonSchema

open Compile

/-! ## Documents behind a root -/

/-- The node as it is found in a bundle. -/
def Node.bundled (node : Node) : Node :=
  { node with resource := node.resource + 1, shape := node.shape.rename (· + 1) }

/-- The resource as it is found in a bundle. -/
def Resource.bundled (resource : Resource) : Resource :=
  { resource with
    node := resource.node + 1
    parent := some (resource.parent.elim 0 (· + 1))
    anchors := moveEntries 1 resource.anchors
    dynamicAnchors := moveEntries 1 resource.dynamicAnchors
    locations := moveEntries 1 resource.locations }

/-- The first resource of a bundle, which only enters nodes under their locations. -/
def Resource.outermost (base : Url) (locations : List (Pointer × Nat)) : Resource :=
  ⟨base, 0, none, Draft.dialect, [], [], locations⟩

/-- The site as it is found in a bundle, at its location there. -/
def Site.bundled (site : Site) (location : Pointer) : Site :=
  { site with
    resource := site.resource + 1
    paths := site.paths.map (Prod.map (· + 1) id) ++ [(0, location)]
    location
    node := site.node + 1 }

namespace Assembly

/-- The assembly as it is found in a bundle, behind a root that is not finished. -/
def bundled (assembly : Assembly) (outer : Resource) : Assembly :=
  { nodes := #[none] ++ assembly.nodes.map (·.map (·.bundled))
    resources := #[outer] ++ assembly.resources.map (·.bundled)
    ids := (outer.id, 0) :: moveEntries 1 assembly.ids
    taken := assembly.taken ++ [outer.id]
    dialects := assembly.dialects }

/-- Whether the resources of an assembly are those that are found by their ids. -/
structure IsNamed (assembly : Assembly) : Prop where
  named : ∀ (id : Url) (index : Nat), assoc? id assembly.ids = some index ↔
    ∃ resource, assembly.resources[index]? = some resource ∧ resource.id = id
  taken : ∀ (id : Url) (index : Nat), assoc? id assembly.ids = some index → id ∈ assembly.taken

/-- Whether an assembly is a bundle of another one with an id, in which the root is started at least. -/
structure Bundles (base held : Url) (assembly apart : Assembly) : Prop where
  bundled : ∃ locations, assembly = apart.bundled (.outermost base locations)
  named : apart.IsNamed
  started : 0 < apart.nodes.size
  held : ∃ resource, apart.resources[0]? = some resource ∧ resource.id = held

end Assembly

/-- Whether a site is one in a bundle, and another one that in the document. -/
def Site.Bundles (site apart : Site) : Prop :=
  ∃ location, site = apart.bundled location ∧ apart.paths ≠ [] ∧ apart.dialect = Draft.dialect

/-- Whether sites of one node in a bundle and in the document go together. -/
def Site.BundlesAt (node : Nat) (site apart : Site) : Prop := site.Bundles apart ∧ apart.node = node

namespace Json

theorem Part.depth_le {inner value : Json} (part : Part inner value) : inner.depth ≤ value.depth := by
  cases part with
  | self => exact le_rfl
  | item member => exact (depth_le_of_mem_items member).trans (Nat.le_succ _)
  | member member => exact (depth_le_of_mem_members member).trans (Nat.le_succ _)

end Json

/-! ## Couplings by results -/

namespace Compile

variable {α β : Type} {related : Assembly → Assembly → Prop} {agree : α → β → Prop} {first : Compile α}
  {second : Compile β}

theorem couples_of_yields
    (leads : ∀ left right value after, related left right → Yields first left value after →
      ∃ other last, Yields second right other last ∧ agree value other ∧ related after last) :
    Couples True related agree first second := by
  intro left right kept
  rcases run : first.run left with ⟨result, after⟩
  cases result with
  | ok value =>
    obtain ⟨other, last, yields, agrees, keptAfter⟩ := leads left right value after kept run
    rw [Yields] at yields
    rw [yields]
    exact ⟨agrees, keptAfter⟩
  | error cause =>
    rcases second.run right with ⟨_ | _, _⟩
    · exact .inl trivial
    · trivial

theorem Couples.yields (couples : Couples True related agree first second) {left right after : Assembly} {value : α}
    (kept : related left right) (yields : Yields first left value after) :
    ∃ other last, Yields second right other last ∧ agree value other ∧ related after last := by
  have matched := couples left right kept
  rw [Yields] at yields
  rw [yields] at matched
  rcases result : second.run right with ⟨cause | other, last⟩ <;> rw [result] at matched
  · exact matched.elim
  · exact ⟨other, last, result, matched.1, matched.2⟩

end Compile

section

variable {α : Type} (first : α) (rest : Array α)

theorem getElem?_singleton_append_zero : (#[first] ++ rest)[0]? = some first := by
  rw [Array.getElem?_append_left (by simp)]
  rfl

theorem getElem?_singleton_append_succ (index : Nat) : (#[first] ++ rest)[index + 1]? = rest[index]? := by
  rw [Array.getElem?_append_right (by simp)]
  simp

end

/-! ## Identification -/

namespace Assembly

variable {assembly : Assembly}

@[simp] theorem size_nodes_bundled (outer : Resource) :
    (assembly.bundled outer).nodes.size = assembly.nodes.size + 1 := by
  simp [bundled, Nat.add_comm]

@[simp] theorem size_resources_bundled (outer : Resource) :
    (assembly.bundled outer).resources.size = assembly.resources.size + 1 := by
  simp [bundled, Nat.add_comm]

/-- A resource with a new id is found by it. -/
theorem IsNamed.declare (named : assembly.IsNamed) {resource : Resource} (free : resource.id ∉ assembly.taken) :
    ({ assembly with
        taken := resource.id :: assembly.taken
        ids := putEntry resource.id assembly.resources.size assembly.ids
        resources := assembly.resources.push resource } : Assembly).IsNamed := by
  have fresh (id : Url) (index : Nat) (found : assoc? id assembly.ids = some index) : id ≠ resource.id :=
    fun same => free (same ▸ named.taken id index found)
  refine ⟨fun id index => ?_, fun id index found => ?_⟩
  · dsimp only
    by_cases same : id = resource.id
    · subst same
      rw [assoc?_putEntry_self]
      constructor
      · intro last
        obtain rfl := Option.some.inj last
        exact ⟨resource, Array.getElem?_push_size, rfl⟩
      · rintro ⟨found, present, same⟩
        rcases eq_or_of_getElem?_push present with ⟨last, -⟩ | earlier
        · rw [last]
        · exact absurd rfl (fresh _ index ((named.named _ index).mpr ⟨found, earlier, same⟩))
    · rw [assoc?_putEntry_of_ne same, named.named]
      constructor
      · rintro ⟨found, present, known⟩
        exact ⟨found, getElem?_push_of_eq_some present _, known⟩
      · rintro ⟨found, present, known⟩
        rcases eq_or_of_getElem?_push present with ⟨-, rfl⟩ | earlier
        · exact absurd known.symm same
        · exact ⟨found, earlier, known⟩
  · dsimp only at found
    by_cases same : id = resource.id
    · exact same ▸ List.mem_cons_self
    · rw [assoc?_putEntry_of_ne same] at found
      exact List.mem_cons_of_mem _ (named.taken id index found)

/-- An id that is declared in a document is declared behind it in a bundle. -/
theorem putEntry_bundled {base id : Url} (inner : id ≠ base) (index : Nat) (ids : List (Url × Nat)) :
    putEntry id (index + 1) ((base, 0) :: moveEntries 1 ids) = (base, 0) :: moveEntries 1 (putEntry id index ids) := by
  rw [putEntry, if_neg inner, putEntry_moveEntries]

end Assembly

namespace KeywordSite

variable {base held : Url} {node : Nat} {place other : KeywordSite}

/-- A resource is started in a bundle as in the document. -/
theorem couples_startResource (sites : place.site.BundlesAt node other.site) (id : Url) :
    Couples True (Assembly.Bundles base held)
      (fun site apart => Site.BundlesAt node { site with base := id } { apart with base := id })
      (place.startResource id) (other.startResource id) := by
  refine couples_of_yields fun left right started after bundles yields => ?_
  obtain ⟨locations, rfl⟩ := bundles.bundled
  obtain ⟨⟨location, same, paths, drafted⟩, own⟩ := sites
  obtain ⟨free, rfl, rfl⟩ := yields_startResource.mp yields
  have freeApart : id ∉ right.taken := fun taken => free (List.mem_append_left _ taken)
  have inner : id ≠ base := fun same => free (same ▸ List.mem_append_right _ (List.mem_singleton.mpr rfl))
  refine ⟨_, _, yields_startResource.mpr ⟨freeApart, rfl, rfl⟩, ?_, ?_⟩
  · rw [same, Assembly.size_resources_bundled]
    exact ⟨⟨location, rfl, List.cons_ne_nil _ _, drafted⟩, own⟩
  · obtain ⟨first, found, named⟩ := bundles.held
    refine ⟨⟨locations, ?_⟩, bundles.named.declare freeApart, bundles.started, first,
      getElem?_push_of_eq_some found _, named⟩
    have ids := Assembly.putEntry_bundled inner right.resources.size right.ids
    rw [same, Assembly.size_resources_bundled]
    simp only [Assembly.bundled, Resource.outermost, ids, Array.map_push, Array.append_push]
    rfl

/-- Below its root an id is declared in a bundle as in the document. -/
theorem couples_declareId (inner : node ≠ 0) (sites : place.site.BundlesAt node other.site)
    (registered registered' : Bool) (value : Json) :
    Couples True (Assembly.Bundles base held) (Site.BundlesAt node) (place.declareId registered value)
      (other.declareId registered' value) := by
  obtain ⟨⟨location, same, paths, drafted⟩, own⟩ := sites
  have bases : place.site.base = other.site.base := by rw [same, Site.bundled]
  refine (couples_read (toOption_declaredId bases value)).bind ?_
  rintro id _ ⟨rfl, -⟩
  have placed : place.site.node ≠ 0 := by
    rw [same]
    exact Nat.succ_ne_zero _
  rw [if_neg placed, if_neg (own ▸ inner)]
  exact (couples_startResource ⟨⟨location, same, paths, drafted⟩, own⟩ id).bind fun _ _ started => couples_pure started

end KeywordSite

/-! ## Schema objects -/

namespace Site

open KeywordSite

variable {base held : Url} {node : Nat} {options : Options} {registered registered' : Bool} {site apart : Site}
  {sub sub' : Site → Json → Compile Nat} {limit : Nat}

theorem Bundles.descend (sites : site.Bundles apart) (tokens : List String) :
    (site.descend tokens).Bundles (apart.descend tokens) := by
  obtain ⟨location, rfl, paths, drafted⟩ := sites
  refine ⟨location.append tokens, ?_, by simpa [Site.descend] using paths, drafted⟩
  simp [Site.descend, Site.bundled]

/-- Whether sub-schemas up to some depth are compiled in a bundle as in the document. -/
def BundlesBelow (base held : Url) (sub sub' : Site → Json → Compile Nat) (limit : Nat) : Prop :=
  ∀ (site apart : Site) (value : Json), value.depth < limit → site.Bundles apart →
    Couples True (Assembly.Bundles base held) (fun number number' => number = number' + 1) (sub site value) (sub' apart value)

/-- A dialect is selected in a bundle as in the document. -/
theorem couples_selectDialect (only : options.KnowsOnlyDraft) (inner : node ≠ 0) (sites : site.BundlesAt node apart)
    (members : List (String × Json)) :
    Couples True (Assembly.Bundles base held) (fun selected selected' => site = selected ∧ apart = selected')
      (site.selectDialect options members) (apart.selectDialect options members) := by
  obtain ⟨⟨location, rfl, paths, drafted⟩, own⟩ := sites
  unfold selectDialect
  cases assoc? StandardKeyword.schema.name members with
  | none => exact couples_pure ⟨rfl, rfl⟩
  | some value =>
    have named : Couples True (Assembly.Bundles base held)
        (fun dialect dialect' => dialect = Draft.dialect ∧ dialect' = Draft.dialect)
        ((apart.bundled location).namedDialect options value) (apart.namedDialect options value) := by
      refine couples_of_yields fun left right dialect after bundles yields => ?_
      have placed : (apart.bundled location).dialect = Draft.dialect := drafted
      obtain ⟨names, rfl, rfl⟩ := (yields_namedDialect only placed).mp yields
      exact ⟨_, right, (yields_namedDialect only drafted).mpr ⟨names, rfl, rfl⟩, ⟨rfl, rfl⟩, bundles⟩
    refine named.bind ?_
    rintro _ _ ⟨rfl, rfl⟩
    have placed : (apart.bundled location).node ≠ 0 := Nat.succ_ne_zero _
    dsimp only
    rw [if_neg placed, if_neg (own ▸ inner)]
    exact couples_pure ⟨by rw [← drafted]; rfl, by rw [← drafted]⟩

/-- Keywords are compiled in a bundle as in the document, if none of them declares the id of the document. -/
theorem couples_compileKeywords (below : BundlesBelow base held sub sub' limit) {entries : List (KeywordEntry Json)}
    (flat : ∀ entry ∈ entries, entry.item.depth < limit)
    (inner : ∀ entry ∈ entries, entry.spec.meaning = .id → node ≠ 0) (sites : site.BundlesAt node apart) :
    Couples True (Assembly.Bundles base held)
      (fun result result' => result.1.BundlesAt node result'.1 ∧ result.2 = result'.2.map (·.rename (· + 1)))
      (compileKeywords registered sub site entries) (compileKeywords registered' sub' apart entries) := by
  induction entries generalizing site apart with
  | nil => exact couples_pure ⟨sites, rfl⟩
  | cons entry entries ih =>
    obtain ⟨location, same, paths, drafted⟩ := sites.1
    have own := sites.2
    have first : Couples True (Assembly.Bundles base held) (LeavesAlike (Site.BundlesAt node) (· + 1))
        ((KeywordSite.mk site entry.spec.keyword).compile registered sub entry.spec.meaning entry.item)
        ((KeywordSite.mk apart entry.spec.keyword).compile registered' sub' entry.spec.meaning entry.item) := by
      refine couples_compile rfl ?_ sites ?_ ?_ ?_ ?_ ?_
      · rw [same, Site.bundled]
      · exact fun id => couples_declareId (inner entry List.mem_cons_self id) sites registered registered' entry.item
      · exact fun _ name => ⟨⟨location, by rw [same]; rfl, paths, drafted⟩, own⟩
      · exact fun _ name => ⟨⟨location, by rw [same]; rfl, paths, drafted⟩, own⟩
      · exact fun _ name => ⟨⟨location, by rw [same]; rfl, paths, drafted⟩, own⟩
      · intro tokens value part
        exact below _ _ value (part.depth_le.trans_lt (flat entry List.mem_cons_self)) (sites.1.descend tokens)
    refine first.bind ?_
    rintro ⟨next, rule⟩ ⟨next', rule'⟩ ⟨sitesNext, renamed⟩
    refine (ih (fun other member => flat other (List.mem_cons_of_mem _ member))
      (fun other member => inner other (List.mem_cons_of_mem _ member)) sitesNext).bind ?_
    rintro ⟨last, rules⟩ ⟨last', rules'⟩ ⟨sitesLast, renamedRest⟩
    refine couples_pure ⟨sitesLast, ?_⟩
    dsimp only at renamed renamedRest ⊢
    rw [renamed, renamedRest, List.map_append]
    cases rule' <;> rfl

/-- The members of a schema object inside the document are compiled in a bundle as there. -/
theorem couples_compileMembers (only : options.KnowsOnlyDraft) (below : BundlesBelow base held sub sub' limit)
    {members : List (String × Json)} (flat : ∀ member ∈ members, member.2.depth < limit) (inner : node ≠ 0)
    (sites : site.BundlesAt node apart) :
    Couples True (Assembly.Bundles base held)
      (fun result result' => result.1.BundlesAt node result'.1 ∧ result.2 = result'.2.map (·.rename (· + 1)))
      (site.compileMembers options registered sub members) (apart.compileMembers options registered' sub' members) := by
  obtain ⟨location, same, paths, drafted⟩ := sites.1
  refine (couples_selectDialect only inner sites members).bind ?_
  rintro _ _ ⟨rfl, rfl⟩
  have placed : site.dialect = Draft.dialect := by rw [same, ← drafted, Site.bundled]
  rw [placed, drafted]
  refine (couples_compileKeywords below (fun entry member => flat _ (Draft.mem_of_mem_inOrder member).1)
    (fun _ _ _ => inner) sites).bind ?_
  rintro ⟨last, rules⟩ ⟨last', rules'⟩ ⟨sitesLast, renamed⟩
  dsimp only at sitesLast renamed ⊢
  split
  · exact couples_throw _ _
  · exact couples_pure ⟨sitesLast, renamed ▸ withUnknown_rename _ _ _⟩
  · exact couples_pure ⟨sitesLast, renamed⟩

/-- The shape of a node inside the document is made in a bundle as there. -/
theorem couples_compileShape (only : options.KnowsOnlyDraft) (below : BundlesBelow base held sub sub' limit) {value : Json}
    (flat : value.depth ≤ limit) (inner : node ≠ 0) (sites : site.BundlesAt node apart) :
    Couples True (Assembly.Bundles base held)
      (fun made made' => made.1.BundlesAt node made'.1 ∧ made.2 = made'.2.rename (· + 1))
      (site.compileShape options registered sub value) (apart.compileShape options registered' sub' value) := by
  cases value with
  | bool accepts => exact couples_pure ⟨sites, rfl⟩
  | object members =>
    rw [Json.depth] at flat
    have shallow (member : String × Json) (inside : member ∈ members) : member.2.depth < limit :=
      (Nat.lt_succ_of_le (Json.depth_le_of_mem_members inside)).trans_le flat
    refine (couples_compileMembers only below shallow inner sites).bind ?_
    rintro result result' ⟨sitesLast, renamed⟩
    exact couples_pure ⟨sitesLast, congrArg Shape.object renamed⟩
  | _ => exact couples_throw _ _

end Site

/-! ## Nodes -/

namespace Site

section

variable {site : Site} {location : Pointer} (placed : site.paths ≠ [])
include placed

theorem innermost_bundled : (site.bundled location).innermost = (site.innermost.1 + 1, site.innermost.2) := by
  obtain ⟨first, rest, paths⟩ := List.exists_cons_of_ne_nil placed
  simp only [innermost, bundled, paths, List.map_cons, List.cons_append, List.head?_cons, Option.getD_some]
  rfl

theorem finishedNode_bundled (value : Json) (shape : Shape) :
    (site.bundled location).finishedNode value (shape.rename (· + 1)) = (site.finishedNode value shape).bundled := by
  rw [finishedNode, innermost_bundled placed]
  rfl

/-- The first resource of a bundle enters all nodes under their locations. -/
theorem enteredResource_outermost (base : Url) (locations : List (Pointer × Nat)) :
    (site.bundled location).enteredResource 0 (.outermost base locations) =
      .outermost base (addEntry location (site.node + 1) locations) := by
  have inside : (site.bundled location).paths.filter (·.1 = 0) = [(0, location)] := by
    rw [bundled, List.filter_append, List.filter_eq_nil_iff.mpr]
    · rfl
    · intro path member
      obtain ⟨outer, -, rfl⟩ := List.mem_map.mp member
      simp
  rw [enteredResource, inside, innermost_bundled placed, if_neg (Nat.succ_ne_zero _)]
  rfl

/-- A node is entered into its own resource in a bundle as in the document. -/
theorem enterNode_bundled (resource : Resource) :
    (site.bundled location).enterNode resource.bundled = (site.enterNode resource).bundled := by
  have put (name : String) (entries : List (String × Nat)) :
      putEntry name (site.node + 1) (moveEntries 1 entries) = moveEntries 1 (putEntry name site.node entries) :=
    putEntry_moveEntries name site.node
  have root : (site.bundled location).innermost.2 = site.innermost.2 := by rw [innermost_bundled placed]
  simp only [enterNode, root, Resource.bundled, Resource.mk.injEq, true_and, and_true]
  refine ⟨by split <;> rfl, ?_, ?_⟩
  · cases anchor : site.anchor with
    | none => simp only [bundled, anchor]
    | some name => simpa only [bundled, anchor] using put name _
  · cases anchor : site.dynamicAnchor with
    | none => simp only [bundled, anchor]
    | some name => simpa only [bundled, anchor] using put name _

/-- A node is entered into a resource in a bundle as in the document. -/
theorem enteredResource_bundled (index : Nat) (resource : Resource) :
    (site.bundled location).enteredResource (index + 1) resource.bundled =
      (site.enteredResource index resource).bundled := by
  have inside : (site.bundled location).paths.filter (·.1 = index + 1) =
      (site.paths.filter (·.1 = index)).map (Prod.map (· + 1) id) := by
    rw [bundled, List.filter_append, List.filter_map, List.filter_cons_of_neg (by simp), List.filter_nil,
      List.append_nil]
    congr 2
    funext path
    simp
  have locations : ((site.bundled location).paths.filter (·.1 = index + 1)).foldl
      (fun locations path => addEntry path.2 (site.node + 1) locations) (moveEntries 1 resource.locations) =
      moveEntries 1 ((site.paths.filter (·.1 = index)).foldl
        (fun locations path => addEntry path.2 site.node locations) resource.locations) := by
    rw [inside, List.foldl_map]
    exact foldl_addEntry_moveEntries _ _
  have entered : ({ resource.bundled with
      locations := ((site.bundled location).paths.filter (·.1 = index + 1)).foldl
        (fun locations path => addEntry path.2 (site.node + 1) locations) (moveEntries 1 resource.locations) } :
      Resource) = ({ resource with
        locations := (site.paths.filter (·.1 = index)).foldl
          (fun locations path => addEntry path.2 site.node locations) resource.locations } : Resource).bundled := by
    rw [locations]
    rfl
  unfold enteredResource
  dsimp only
  rw [innermost_bundled placed]
  by_cases here : site.innermost.1 = index
  · rw [if_pos here, if_pos (congrArg (· + 1) here), ← enterNode_bundled placed, ← entered]
    rfl
  · rw [if_neg here, if_neg (fun moved => here (Nat.succ.inj moved)), ← entered]
    rfl

end

variable {base held : Url} {node : Nat} {options : Options} {registered registered' : Bool} {site apart : Site}

/-- A node is entered into the resources of a bundle as into those of the document. -/
theorem mapIdx_enteredResource_bundled {location : Pointer} (paths : apart.paths ≠ []) (assembly : Assembly)
    (locations : List (Pointer × Nat)) :
    (assembly.bundled (.outermost base locations)).resources.mapIdx (apart.bundled location).enteredResource =
      #[.outermost base (addEntry location (apart.node + 1) locations)] ++
        (assembly.resources.mapIdx apart.enteredResource).map (·.bundled) := by
  refine Array.ext_getElem? fun index => ?_
  rw [Array.getElem?_mapIdx, Assembly.bundled]
  cases index with
  | zero =>
    rw [getElem?_singleton_append_zero, getElem?_singleton_append_zero, Option.map_some,
      enteredResource_outermost paths]
  | succ index =>
    rw [getElem?_singleton_append_succ, getElem?_singleton_append_succ, Array.getElem?_map, Array.getElem?_map,
      Array.getElem?_mapIdx, Option.map_map, Option.map_map]
    congr 1
    funext resource
    exact enteredResource_bundled paths index resource

/-- A finished node is put among the nodes of a bundle as among those of the document. -/
theorem setIfInBounds_finishedNode_bundled {location : Pointer} (paths : apart.paths ≠ []) (assembly : Assembly)
    (outer : Resource) (value : Json) (shape : Shape) :
    (assembly.bundled outer).nodes.setIfInBounds (apart.bundled location).node
        (some ((apart.bundled location).finishedNode value (shape.rename (· + 1)))) =
      #[none] ++ (assembly.nodes.setIfInBounds apart.node (some (apart.finishedNode value shape))).map
        (·.map (·.bundled)) := by
  refine Array.ext_getElem? fun index => ?_
  rw [Array.getElem?_setIfInBounds, finishedNode_bundled paths, Assembly.size_nodes_bundled]
  have number : (apart.bundled location).node = apart.node + 1 := rfl
  cases index with
  | zero => rw [number, if_neg (Nat.succ_ne_zero _), Assembly.bundled, getElem?_singleton_append_zero,
      getElem?_singleton_append_zero]
  | succ index =>
    rw [number, Assembly.bundled, getElem?_singleton_append_succ, getElem?_singleton_append_succ,
      Array.getElem?_map, Array.getElem?_map, Array.getElem?_setIfInBounds]
    simp only [Nat.add_right_cancel_iff, Nat.add_lt_add_iff_right]
    split
    · split <;> rfl
    · rfl

/-- To enter a node keeps the ids under which resources are found. -/
theorem isNamed_finished {assembly : Assembly} (named : assembly.IsNamed) (site : Site) (value : Json) (shape : Shape) :
    ({ assembly with
        resources := assembly.resources.mapIdx site.enteredResource
        nodes := assembly.nodes.setIfInBounds site.node (some (site.finishedNode value shape)) } :
      Assembly).IsNamed := by
  refine ⟨fun id index => (named.named id index).trans ?_, named.taken⟩
  dsimp only
  rw [Array.getElem?_mapIdx]
  constructor
  · rintro ⟨resource, present, same⟩
    exact ⟨_, by rw [present]; rfl, (id_enteredResource site index resource).trans same⟩
  · rintro ⟨entered, present, same⟩
    obtain ⟨resource, found, rfl⟩ := Option.map_eq_some_iff.mp present
    exact ⟨resource, found, (id_enteredResource site index resource).symm.trans same⟩

/-- A node is finished in a bundle as in the document. -/
theorem couples_finish (sites : site.Bundles apart) (value : Json) (shape : Shape) :
    Couples True (Assembly.Bundles base held) (fun _ _ => True) (site.finish value (shape.rename (· + 1)))
      (apart.finish value shape) := by
  refine couples_of_yields fun left right done after bundles yields => ?_
  obtain ⟨locations, rfl⟩ := bundles.bundled
  obtain ⟨location, rfl, paths, -⟩ := sites
  obtain rfl := yields_finish.mp yields
  refine ⟨⟨⟩, _, yields_finish.mpr rfl, trivial, ⟨addEntry location (apart.node + 1) locations, ?_⟩,
    isNamed_finished bundles.named apart value shape, ?_, ?_⟩
  · rw [mapIdx_enteredResource_bundled paths, setIfInBounds_finishedNode_bundled paths]
    rfl
  · dsimp only
    rw [Array.size_setIfInBounds]
    exact bundles.started
  · obtain ⟨first, found, named⟩ := bundles.held
    exact ⟨_, Array.getElem?_mapIdx.trans (by rw [found]; rfl), (id_enteredResource apart 0 first).trans named⟩

/-- A node inside the document is made in a bundle as there. -/
theorem couples_compileNode (only : options.KnowsOnlyDraft) {sub sub' : Site → Json → Compile Nat} {limit : Nat}
    (below : BundlesBelow base held sub sub' limit) {value : Json} (flat : value.depth ≤ limit)
    (sites : site.Bundles apart) :
    Couples True (Assembly.Bundles base held) (fun number number' => number = number' + 1)
      (site.compileNode options registered sub value) (apart.compileNode options registered' sub' value) := by
  refine couples_get.bind fun left right bundles => ?_
  obtain ⟨locations, rfl⟩ := bundles.bundled
  obtain ⟨location, rfl, paths, drafted⟩ := sites
  have sites : ((apart.bundled location).start (right.nodes.size + 1)).BundlesAt right.nodes.size
      (apart.start right.nodes.size) := ⟨⟨location, rfl, paths, drafted⟩, rfl⟩
  dsimp only
  rw [Assembly.size_nodes_bundled]
  refine Couples.bind (couples_modify ?_ : Couples _ _ (fun _ _ => True) _ _) fun _ _ _ => ?_
  · rintro left right bundles
    obtain ⟨locations, rfl⟩ := bundles.bundled
    refine ⟨⟨locations, ?_⟩, ⟨bundles.named.named, bundles.named.taken⟩, ?_, bundles.held⟩
    · simp [Assembly.bundled]
    · simp
  · refine (couples_compileShape only below flat bundles.started.ne' sites).bind ?_
    rintro ⟨final, _⟩ ⟨final', shape⟩ ⟨sitesLast, rfl⟩
    exact (couples_finish sitesLast.1 value shape).bind fun _ _ _ => couples_pure rfl

/-- What is compiled inside the document is compiled in a bundle as there. -/
theorem couples_compileWithin (only : options.KnowsOnlyDraft) (depth limit : Nat) :
    BundlesBelow base held (compileWithin options registered depth) (compileWithin options registered' limit) limit := by
  induction depth generalizing limit with
  | zero =>
    refine fun site apart value _ _ => couples_of_yields fun left right number after _ yields => ?_
    exact absurd yields yields_throw
  | succ depth ih =>
    intro site apart value flat sites
    cases limit with
    | zero => exact absurd flat (Nat.not_lt_zero _)
    | succ limit => exact couples_compileNode only (ih limit) (Nat.le_of_lt_succ flat) sites

end Site

/-! ## The root of a document -/

namespace Draft

/-- The keyword table begins with the one for ids. -/
theorem place_of_mem_zipIdx : ∀ entry ∈ dialect.keywords.zipIdx, Category.identifier.order ≤ entry.1.order ∧
    if entry.1.meaning = .id then entry.1.order = Category.identifier.order ∧ entry.2 = 0 else 0 < entry.2 := by
  rw [keywords_eq]
  decide +kernel

/-- Whether an entry is for other uses than to declare an id. -/
def isNoId (entry : KeywordEntry Json) : Bool := entry.spec.meaning != .id

theorem mem_zipIdx_of_mem_knownMembers {members : List (String × Json)} {entry : KeywordEntry Json}
    (member : entry ∈ Site.knownMembers dialect members) : (entry.spec, entry.position) ∈ dialect.keywords.zipIdx := by
  obtain ⟨⟨name, value⟩, -, made⟩ := List.mem_filterMap.mp member
  obtain ⟨⟨position, spec⟩, known, rfl⟩ := Option.map_eq_some_iff.mp made
  obtain ⟨⟨found, index⟩, search, same⟩ := Option.map_eq_some_iff.mp known
  obtain ⟨rfl, rfl⟩ := Prod.mk.inj same
  exact List.mem_of_find?_eq_some search

/-- An id is declared before all else. -/
theorem pairwise_isNoId (members : List (String × Json)) :
    (KeywordEntry.inOrder (Site.knownMembers dialect members)).Pairwise fun a b => isNoId a = true → isNoId b = true := by
  have layered : KeywordEntry.Layered waiting.idxOf isNoId (Site.knownMembers dialect members) := by
    refine ⟨layered_knownMembers.descends, fun entry member early other inside depends => ?_⟩
    simp only [isNoId, bne_eq_false_iff_eq] at early
    rw [eq_standard_of_mem _ (mem_keywords_of_mem_knownMembers member), early] at depends
    exact absurd depends List.not_mem_nil
  refine KeywordEntry.pairwise_inOrder_of_precedes layered fun a memberA b memberB lateA earlyB => ?_
  obtain ⟨least, placeA⟩ := place_of_mem_zipIdx _ (mem_zipIdx_of_mem_knownMembers memberA)
  obtain ⟨-, placeB⟩ := place_of_mem_zipIdx _ (mem_zipIdx_of_mem_knownMembers memberB)
  simp only [isNoId, bne_iff_ne, bne_eq_false_iff_eq] at lateA earlyB
  rw [if_neg lateA] at placeA
  rw [if_pos earlyB] at placeB
  simp only [KeywordEntry.precedes, Bool.or_eq_false_iff, Bool.and_eq_false_imp, decide_eq_false_iff_not, beq_iff_eq]
  dsimp only at least placeA placeB
  omega

/-- The id of a schema object comes first among its keywords, and only once. -/
theorem inOrder_eq_cons_of_id {members : List (String × Json)} {value : Json} (distinct : (members.map (·.1)).Nodup)
    (declares : (StandardKeyword.id.name, value) ∈ members) :
    ∃ entry rest, KeywordEntry.inOrder (Site.knownMembers dialect members) = entry :: rest ∧
      entry.spec = .standard .id ∧ entry.item = value ∧ ∀ other ∈ rest, other.spec.meaning ≠ .id := by
  have declared := mem_inOrder_of_id declares
  have sorted := pairwise_isNoId members
  have nodup := nodup_meanings_inOrder distinct
  have items := @mem_of_mem_inOrder members
  generalize KeywordEntry.inOrder (Site.knownMembers dialect members) = entries at declared sorted nodup items
  cases entries with
  | nil => exact absurd declared List.not_mem_nil
  | cons entry rest =>
    have first : entry.spec.meaning = .id := by
      by_contra late
      rcases List.mem_cons.mp declared with same | behind
      · exact late (by rw [← same]; rfl)
      · exact nomatch (List.pairwise_cons.mp sorted).1 _ behind (by simpa [isNoId] using late)
    obtain ⟨inside, standard⟩ := items List.mem_cons_self
    rw [first] at standard
    refine ⟨entry, rest, rfl, standard, ?_, fun other member same => ?_⟩
    · rw [standard] at inside
      exact congrArg Prod.snd (List.inj_on_of_nodup_map distinct inside declares rfl)
    · refine (List.nodup_cons.mp nodup).1 (List.mem_map.mpr ⟨other, member, ?_⟩)
      exact congrArg some (same.trans first.symm)

theorem keyword?_ref : dialect.keyword? StandardKeyword.ref.name = some (2, .standard .ref) := by decide +kernel

theorem keyword?_defs : dialect.keyword? StandardKeyword.defs.name = some (8, .standard .defs) := by decide +kernel

/-- A reference has one keyword and no unknown members. -/
theorem inOrder_reference (value : Json) :
    KeywordEntry.inOrder (Site.knownMembers dialect [(StandardKeyword.ref.name, value)]) =
        [⟨2, .standard .ref, value⟩] ∧
      Site.unknownMembers dialect [(StandardKeyword.ref.name, value)] = [] := by
  have known : Site.knownMembers dialect [(StandardKeyword.ref.name, value)] = [⟨2, .standard .ref, value⟩] := by
    simp only [Site.knownMembers, List.filterMap_cons, keyword?_ref]
    rfl
  refine ⟨?_, by simp [Site.unknownMembers, keyword?_ref]⟩
  rw [known, KeywordEntry.inOrder, KeywordEntry.release_eq_self]
  · rfl
  · exact List.forall_mem_singleton.mpr rfl

/-- The reference of a bundle comes before its definitions. -/
theorem inOrder_bundle (definitions value : Json) :
    KeywordEntry.inOrder (Site.knownMembers dialect
        [(StandardKeyword.defs.name, definitions), (StandardKeyword.ref.name, value)]) =
        [⟨2, .standard .ref, value⟩, ⟨8, .standard .defs, definitions⟩] ∧
      Site.unknownMembers dialect
        [(StandardKeyword.defs.name, definitions), (StandardKeyword.ref.name, value)] = [] := by
  have known : Site.knownMembers dialect [(StandardKeyword.defs.name, definitions), (StandardKeyword.ref.name, value)] =
      [⟨8, .standard .defs, definitions⟩, ⟨2, .standard .ref, value⟩] := by
    simp only [Site.knownMembers, List.filterMap_cons, keyword?_ref, keyword?_defs]
    rfl
  refine ⟨?_, by simp [Site.unknownMembers, keyword?_ref, keyword?_defs]⟩
  rw [known, KeywordEntry.inOrder, KeywordEntry.release_eq_self]
  · rfl
  · exact List.forall_mem_cons.mpr ⟨rfl, List.forall_mem_singleton.mpr rfl⟩

end Draft

theorem Compile.Yields.unique {α : Type} {step : Compile α} {before after last : Assembly} {value other : α}
    (first : Yields step before value after) (second : Yields step before other last) : value = other ∧ after = last := by
  rw [Yields] at first second
  obtain ⟨same, ends⟩ := Prod.mk.inj (first.symm.trans second)
  exact ⟨Except.ok.inj same, ends⟩

namespace KeywordSite

variable {registered : Bool} {place : KeywordSite} {sub : Site → Json → Compile Nat} {before after : Assembly}
  {text : String} {url : Url} {result : Site × Option Rule}
  (yields : Yields (place.compile registered sub .id (.string text)) before result after)
  (joined : place.site.base.join text = .ok url)
include yields joined

theorem yields_declareId_of_compile :
    ∃ declared, result = (declared, none) ∧
      Yields (if place.site.node = 0 then do
          place.renameDocument registered url.withoutFragment
          return { place.site with base := url.withoutFragment }
        else return { ← place.startResource url.withoutFragment with base := url.withoutFragment }) before declared
        after := by
  obtain ⟨declared, between, yieldsDeclared, made⟩ := yields_bind.mp yields
  obtain ⟨rfl, rfl⟩ := yields_pure.mp made
  obtain ⟨id, start, read, goesOn⟩ := yields_bind.mp yieldsDeclared
  obtain ⟨reads, rfl⟩ := yields_read.mp read
  obtain ⟨other, found, same, joinedOther, rfl⟩ := declaredId_eq_ok reads
  obtain rfl := Json.string.inj same
  obtain rfl := Except.ok.inj (joined.symm.trans joinedOther)
  exact ⟨declared, rfl, goesOn⟩

/-- Inside a document an id starts a resource. -/
theorem yields_startResource_of_compile (inner : place.site.node ≠ 0) :
    ∃ started, result = ({ started with base := url.withoutFragment }, none) ∧
      Yields (place.startResource url.withoutFragment) before started after := by
  obtain ⟨declared, rfl, goesOn⟩ := yields_declareId_of_compile yields joined
  rw [if_neg inner] at goesOn
  obtain ⟨started, stop, starts, kept⟩ := yields_bind.mp goesOn
  obtain ⟨rfl, rfl⟩ := yields_pure.mp kept
  exact ⟨started, rfl, starts⟩

/-- A document that already has the id that it declares stays as it is. -/
theorem eq_of_compile_id (root : place.site.node = 0) {resource : Resource} (found : before.resources[0]? = some resource)
    (named : resource.id = url.withoutFragment) :
    result = ({ place.site with base := url.withoutFragment }, none) ∧ before = after := by
  obtain ⟨declared, rfl, goesOn⟩ := yields_declareId_of_compile yields joined
  rw [if_pos root] at goesOn
  obtain ⟨done, stop, renames, kept⟩ := yields_bind.mp goesOn
  obtain ⟨rfl, rfl⟩ := yields_pure.mp kept
  obtain ⟨assembly, middle, got, renames⟩ := yields_bind.mp renames
  obtain ⟨rfl, rfl⟩ := yields_get.mp got
  rw [found, Option.any_some, named, bne_self_eq_false] at renames
  obtain ⟨-, rfl⟩ := yields_pure.mp renames
  exact ⟨rfl, rfl⟩

end KeywordSite

namespace Site

open KeywordSite

variable {base : Url} {options : Options} (only : options.KnowsOnlyDraft)
  (annotates : options.unknownKeywords = .annotate)
include only annotates

/-- A schema object has the rules of its keywords and rules that attach its unknown members. -/
theorem exists_rules_of_compileShape {registered : Bool} {site : Site} {sub : Site → Json → Compile Nat}
    {before after : Assembly} {members : List (String × Json)} {made : Site × Shape} (stands : site.Stands before)
    (sound : before.Sound) (yields : Yields (site.compileShape options registered sub (.object members)) before made after) :
    ∃ rules, Yields (compileKeywords registered sub site (KeywordEntry.inOrder (knownMembers Draft.dialect members)))
        before (made.1, rules) after ∧
      made.2 = .object (withUnknown (unknownMembers Draft.dialect members) rules) := by
  obtain ⟨result, stop, yieldsMembers, shaped⟩ := yields_bind.mp yields
  obtain ⟨rfl, rfl⟩ := yields_pure.mp shaped
  obtain ⟨selected, start, selects, goesOn⟩ := yields_bind.mp yieldsMembers
  obtain ⟨-, rfl, rfl⟩ := (yields_selectDialect only stands sound).mp selects
  obtain ⟨⟨final, rules⟩, middle, keywords, finishes⟩ := yields_bind.mp goesOn
  rw [annotates] at finishes
  obtain ⟨rfl, rfl⟩ := yields_pure.mp finishes
  rw [stands.drafted] at keywords ⊢
  exact ⟨rules, keywords, rfl⟩

omit only annotates

/-- An assembly before the first keyword of its root. -/
def opened (base : Url) : Assembly := { Assembly.start Draft.dialect base true [] with nodes := #[none] }

theorem stands_opened (base : Url) : (Site.root Draft.dialect base).Stands (opened base) := awaits_root base true []

theorem sound_opened (base : Url) : (opened base).Sound := (sound_start base true []).push

theorem bundles_opened (base id : Url) :
    Assembly.Bundles base id ((opened id).bundled (.outermost base [])) (opened id) := by
  refine ⟨⟨[], rfl⟩, ⟨fun other index => ?_, fun other index found => ?_⟩, Nat.zero_lt_one, _, rfl, rfl⟩
  · by_cases same : other = id
    · subst same
      cases index with
      | zero => exact iff_of_true (by simp [opened, Assembly.start, assoc?]) ⟨_, rfl, rfl⟩
      | succ index =>
        refine iff_of_false (by simp [opened, Assembly.start, assoc?]) ?_
        rintro ⟨_, found, _⟩
        cases found
    · refine iff_of_false (by simp [opened, Assembly.start, assoc?, same]) ?_
      rintro ⟨resource, found, named⟩
      cases index with
      | zero =>
        obtain rfl := Option.some.inj found
        exact same named.symm
      | succ index => cases found
  · exact (sound_opened id).taken other index found

theorem bundled_opened {id : Url} (inner : id ≠ base) :
    (opened id).bundled (.outermost base []) = ⟨#[none, none],
      #[.outermost base [], ⟨id, 1, some 0, Draft.dialect, [], [], []⟩], putEntry id 1 [(base, 0)], [id, base], []⟩ := by
  simp [Assembly.bundled, opened, Assembly.start, putEntry, inner, moveEntries, Resource.bundled, Resource.outermost]

/-- Where a bundle declares the id of the schema in it, it is a bundle of the document with this id from now on. -/
theorem eq_bundled_of_compile_id {text : String} {url : Url} {tokens : List String} {keyword : String}
    {registered : Bool} {sub : Site → Json → Compile Nat} {result : Site × Option Rule} {after : Assembly}
    (yields : Yields (KeywordSite.compile ⟨((Site.root Draft.dialect base).descend tokens).start 1, keyword⟩ registered
      sub .id (.string text)) { opened base with nodes := #[none, none] } result after)
    (joined : base.join text = .ok url) :
    result = ((Site.root Draft.dialect url.withoutFragment).bundled (Pointer.root.append tokens), none) ∧
      after = (opened url.withoutFragment).bundled (.outermost base []) ∧ url.withoutFragment ≠ base := by
  obtain ⟨started, rfl, starts⟩ := yields_startResource_of_compile yields joined (Nat.succ_ne_zero _)
  obtain ⟨free, rfl, rfl⟩ := yields_startResource.mp starts
  have inner : url.withoutFragment ≠ base := fun same => free (same ▸ List.mem_singleton.mpr rfl)
  refine ⟨rfl, ?_, inner⟩
  rw [bundled_opened inner]
  rfl

include only annotates

/-- A schema that declares its id in a bundle is compiled as the document with this id. -/
theorem bundles_compileWithin {members : List (String × Json)} {text : String} {url : Url}
    (distinct : (members.map (·.1)).Nodup) (declares : (StandardKeyword.id.name, .string text) ∈ members)
    (joined : base.join text = .ok url) (joinedOwn : url.withoutFragment.join text = .ok url) {tokens : List String}
    (further : tokens ≠ []) {depth number root : Nat} {after last : Assembly}
    (yields : Yields (compileWithin options true depth ((Site.root Draft.dialect base).descend tokens)
      (.object members)) (opened base) number after)
    (yieldsApart : Yields (compileWithin options true ((Json.object members).depth + 1)
        (.root Draft.dialect url.withoutFragment) (.object members))
      (.start Draft.dialect url.withoutFragment true []) root last) :
    number = 1 ∧ Assembly.Bundles base url.withoutFragment after last ∧ url.withoutFragment ≠ base := by
  cases depth with
  | zero => exact absurd yields yields_throw
  | succ depth =>
    obtain ⟨rfl, ⟨final, shape⟩, middle, yieldsShape, finishes⟩ := yields_compileNode.mp yields
    obtain ⟨-, ⟨finalApart, shapeApart⟩, middleApart, yieldsShapeApart, finishesApart⟩ :=
      yields_compileNode.mp yieldsApart
    obtain ⟨rules, keywords, rfl⟩ := exists_rules_of_compileShape only annotates
      ((stands_opened base).descend further) (sound_opened base).push yieldsShape
    obtain ⟨rulesApart, keywordsApart, rfl⟩ := exists_rules_of_compileShape only annotates
      (stands_opened url.withoutFragment) (sound_opened url.withoutFragment) yieldsShapeApart
    obtain ⟨entry, rest, same, standard, item, others⟩ := Draft.inOrder_eq_cons_of_id distinct declares
    have flat (other : KeywordEntry Json) (member : other ∈ rest) :
        other.item.depth < (Json.object members).depth := by
      have inside := (@Draft.mem_of_mem_inOrder members other (same ▸ List.mem_cons_of_mem _ member)).1
      exact Nat.lt_succ_of_le (Json.depth_le_of_mem_members inside)
    rw [same] at keywords keywordsApart
    obtain ⟨first, between, found, identifies, goesOn, made⟩ := yields_compileKeywords_cons.mp keywords
    obtain ⟨firstApart, betweenApart, foundApart, identifiesApart, goesOnApart, madeApart⟩ :=
      yields_compileKeywords_cons.mp keywordsApart
    rw [standard, item] at identifies identifiesApart
    have outer : (opened url.withoutFragment).resources[0]? = some (.outermost url.withoutFragment []) := rfl
    obtain ⟨rfl, rfl, inner⟩ := eq_bundled_of_compile_id identifies joined
    obtain ⟨rfl, rfl⟩ := eq_of_compile_id identifiesApart joinedOwn rfl outer rfl
    have root : Site.BundlesAt 0 ((Site.root Draft.dialect url.withoutFragment).bundled (Pointer.root.append tokens))
        (Site.root Draft.dialect url.withoutFragment) := ⟨⟨_, rfl, List.cons_ne_nil _ _, rfl⟩, rfl⟩
    have alike := @couples_compileKeywords base url.withoutFragment 0 true true _ _ _ _ _
      (@couples_compileWithin base url.withoutFragment options true true only depth _) rest flat
      (fun other member id => absurd id (others other member)) root
    obtain ⟨foundOther, middleOther, yieldsRest, ⟨sites, renamed⟩, bundlesRest⟩ :=
      alike.yields (bundles_opened base url.withoutFragment) goesOn
    obtain ⟨rfl, rfl⟩ := yieldsRest.unique goesOnApart
    obtain ⟨rfl, rfl⟩ := Prod.mk.inj made
    obtain ⟨rfl, rfl⟩ := Prod.mk.inj madeApart
    simp only [Option.toList_none, List.nil_append, renamed, withUnknown_rename] at finishes finishesApart
    obtain ⟨_, _, yieldsFinish, -, bundlesLast⟩ := (couples_finish sites.1 (.object members)
      (.object (withUnknown (unknownMembers Draft.dialect members) foundOther.2))).yields bundlesRest finishes
    obtain ⟨-, rfl⟩ := yieldsFinish.unique finishesApart
    exact ⟨rfl, bundlesLast, inner⟩

end Site

/-! ## Documents that refer to a schema -/

/-- Whether a document does nothing but refer to a schema, as far as an evaluation can see. -/
structure Document.Refers (base url : Url) (document : Document) : Prop where
  outermost : ∃ locations, document.resources[0]? = some (.outermost base locations)
  resource_eq : (document.node 0).resource = 0
  location_eq : (document.node 0).location = .root
  shape : ∃ rules, (document.node 0).shape = .object rules ∧ rules.filter (·.isApplied) = [.ref url]

/-- Whether a document is a bundle of another one: it refers to it, and has its nodes and resources behind the root. -/
structure Document.Bundles (base url : Url) (document apart : Document) : Prop extends document.Refers base url where
  nodes : ∀ index < apart.nodes.size, document.node (index + 1) = (apart.node index).bundled
  resources : ∀ index, document.resources[index + 1]? = (apart.resources[index]?).map (·.bundled)
  ids : document.ids = (base, 0) :: moveEntries 1 apart.ids
  named : ∀ (id : Url) (index : Nat), assoc? id apart.ids = some index ↔
    ∃ resource, apart.resources[index]? = some resource ∧ resource.id = id
  held : ∃ resource, apart.resources[0]? = some resource ∧ resource.id = url.withoutFragment
  foreign : url.withoutFragment ≠ base

namespace Site

variable {base url : Url} {options : Options} {text : String} {before after last : Assembly}

/-- The keyword for a reference leaves everything as it is. -/
theorem eq_of_compile_ref {place : KeywordSite} {registered : Bool} {sub : Site → Json → Compile Nat}
    {result : Site × Option Rule}
    (yields : Yields (place.compile registered sub .ref (.string text)) before result after)
    (joined : place.site.base.join text = .ok url) : result = (place.site, some (.ref url)) ∧ before = after := by
  obtain ⟨found, between, read, made⟩ := yields_bind.mp yields
  obtain ⟨rfl, rfl⟩ := yields_pure.mp made
  obtain ⟨reads, rfl⟩ := yields_read.mp read
  obtain ⟨other, same, joinedOther⟩ := KeywordSite.reference_eq_ok reads
  obtain rfl := Json.string.inj same
  obtain rfl := Except.ok.inj (joined.symm.trans joinedOther)
  exact ⟨rfl, rfl⟩

/-- The root of a document that has compiled its keywords is finished. -/
theorem refers_of_finish {rules : List Rule} {value : Json} {document : Document} {locations : List (Pointer × Nat)}
    (applied : rules.filter (·.isApplied) = [.ref url])
    (outermost : before.resources[0]? = some (.outermost base locations)) (started : before.nodes[0]? = some none)
    (yields : Yields ((Site.root Draft.dialect base).finish value (.object rules)) before ⟨⟩ after)
    (finished : after.document? = some document) : document.Refers base url := by
  obtain rfl := yields_finish.mp yields
  have node : document.node 0 = (Site.root Draft.dialect base).finishedNode value (.object rules) := by
    refine Assembly.node_of_document? finished ?_
    exact getElem?_setIfInBounds_self_of_free started _
  refine ⟨⟨addEntry .root 0 locations, ?_⟩, ?_, ?_, rules, ?_, applied⟩
  · rw [(Assembly.resources_of_document? finished).1, Array.getElem?_mapIdx, outermost]
    rfl
  · rw [node]
    rfl
  · rw [node]
    rfl
  · rw [node]
    rfl

end Site

namespace Schema

variable {options : Options} (only : options.KnowsOnlyDraft) (annotates : options.unknownKeywords = .annotate)
  {base url : Url} {text : String} (joined : base.join text = .ok url)
include only annotates joined

/-- A schema that is nothing but a reference is compiled to a document that refers to the target. -/
theorem refers_of_compileDocument {schema : Schema}
    (compiled : (compileDocument options Draft.dialect base true (.object [(StandardKeyword.ref.name, .string text)])
      []).1 = .ok schema) : schema.document.Refers base url ∧ schema.document.ids = [(base, 0)] := by
  obtain ⟨root, final, yields, finished, -⟩ := exists_assembly_of_compileDocument compiled
  obtain ⟨-, ⟨last, shape⟩, middle, yieldsShape, finishes⟩ := Site.yields_compileNode.mp yields
  obtain ⟨rules, keywords, rfl⟩ := Site.exists_rules_of_compileShape only annotates (Site.stands_opened base)
    (Site.sound_opened base) yieldsShape
  rw [(Draft.inOrder_reference _).1] at keywords
  obtain ⟨first, between, found, refers, goesOn, made⟩ := Site.yields_compileKeywords_cons.mp keywords
  obtain ⟨rfl, rfl⟩ := Site.eq_of_compile_ref refers joined
  obtain ⟨rfl, rfl⟩ := Site.yields_compileKeywords_nil.mp goesOn
  obtain ⟨rfl, rfl⟩ := Prod.mk.inj made
  rw [(Draft.inOrder_reference _).2, Site.withUnknown_nil] at finishes
  have refersLast := Site.refers_of_finish rfl rfl rfl finishes finished
  obtain rfl := Site.yields_finish.mp finishes
  exact ⟨refersLast, (Assembly.resources_of_document? finished).2⟩

/-- A bundle holds the document of the schema in it. -/
theorem bundles_of_compileDocument {members : List (String × Json)} (distinct : (members.map (·.1)).Nodup)
    (declares : (StandardKeyword.id.name, .string text) ∈ members) (joinedOwn : url.withoutFragment.join text = .ok url)
    {name : String} {bundle schema : Schema}
    (bundled : (compileDocument options Draft.dialect base true (.object
      [(StandardKeyword.defs.name, .object [(name, .object members)]), (StandardKeyword.ref.name, .string text)]) []).1 =
        .ok bundle)
    (compiled : (compileDocument options Draft.dialect url.withoutFragment true (.object members) []).1 = .ok schema) :
    bundle.document.Bundles base url schema.document := by
  obtain ⟨root, final, yields, finished, -⟩ := exists_assembly_of_compileDocument bundled
  obtain ⟨-, ⟨last, shape⟩, middle, yieldsShape, finishes⟩ := Site.yields_compileNode.mp yields
  obtain ⟨rules, keywords, rfl⟩ := Site.exists_rules_of_compileShape only annotates (Site.stands_opened base)
    (Site.sound_opened base) yieldsShape
  rw [(Draft.inOrder_bundle _ _).1] at keywords
  obtain ⟨first, between, found, refers, goesOn, made⟩ := Site.yields_compileKeywords_cons.mp keywords
  obtain ⟨rfl, rfl⟩ := Site.eq_of_compile_ref refers joined
  obtain ⟨defines, between, rest, definesOne, goesOn, madeRest⟩ := Site.yields_compileKeywords_cons.mp goesOn
  obtain ⟨rfl, rfl⟩ := Site.yields_compileKeywords_nil.mp goesOn
  obtain ⟨found, stop, yieldsFound, leaves⟩ := yields_bind.mp definesOne
  obtain ⟨rfl, rfl⟩ := yields_pure.mp leaves
  obtain ⟨inner, same, -, slots⟩ := KeywordSite.yields_subschemasBy.mp yieldsFound
  obtain rfl := Json.object.inj same
  obtain ⟨number, rest, between, numbers, yieldsInner, none⟩ := KeywordSite.yields_compileSlots_cons.mp slots
  obtain ⟨rfl, rfl⟩ := KeywordSite.yields_compileSlots_nil.mp none
  obtain ⟨rootApart, finalApart, yieldsApart, finishedApart, -⟩ := exists_assembly_of_compileDocument compiled
  obtain ⟨-, bundles, foreign⟩ := Site.bundles_compileWithin only annotates distinct declares joined joinedOwn
    (List.cons_ne_nil _ _) yieldsInner yieldsApart
  obtain ⟨locations, rfl⟩ := bundles.bundled
  obtain rfl := madeRest
  obtain ⟨rfl, rfl⟩ := Prod.mk.inj made
  rw [(Draft.inOrder_bundle _ _).2, Site.withUnknown_nil] at finishes
  replace finishes : Yields ((Site.root Draft.dialect base).finish _ (.object [.ref url, .defs found])) _ ⟨⟩ final :=
    finishes
  have refersLast := Site.refers_of_finish rfl (getElem?_singleton_append_zero _ _) (getElem?_singleton_append_zero _ _)
    finishes finished
  obtain rfl := Site.yields_finish.mp finishes
  obtain ⟨resources, ids⟩ := Assembly.resources_of_document? finished
  obtain ⟨resourcesApart, idsApart⟩ := Assembly.resources_of_document? finishedApart
  refine ⟨refersLast, fun index inside => ?_, fun index => ?_, ?_, ?_, ?_, foreign⟩
  · rw [Assembly.size_of_document? finishedApart] at inside
    refine Assembly.node_of_document? finished ?_
    have number : (Site.root Draft.dialect base).node = 0 := rfl
    rw [Array.getElem?_setIfInBounds, number, if_neg (Nat.succ_ne_zero _).symm, Assembly.bundled,
      getElem?_singleton_append_succ, Array.getElem?_map, Assembly.exists_node_of_document? finishedApart inside]
    rfl
  · rw [resources, resourcesApart, Array.getElem?_mapIdx, Assembly.bundled, getElem?_singleton_append_succ,
      Array.getElem?_map, Option.map_map]
    rfl
  · rw [ids, idsApart]
    rfl
  · rw [resourcesApart, idsApart]
    exact bundles.named.named
  · rw [resourcesApart]
    exact bundles.held

end Schema

end JsonSchema
