import JsonSchema.Proofs.Compile.Growth

/-! # Values compiled apart

A value that is compiled inside a document can be compiled apart, as a document of its own with the same base. Both
compilations go the same way: the document made apart is found in the other one, with its nodes and resources
renumbered (`Site.relocates_compileWithin`). The resource around the value stands in for the resource that is made apart
for it. This needs that the value declares no id of its own, since apart it would be the document that has this id.
-/

namespace JsonSchema

open Compile

/-- Where what was compiled apart is found: the number of its root node, that of its first inner resource and that of
the resource around. -/
structure Offsets where
  node : Nat
  resource : Nat
  around : Nat

/-- Where a resource that was made apart is found. -/
def Offsets.resourceOf (offsets : Offsets) : Nat → Nat
  | 0 => offsets.around
  | index + 1 => index + offsets.resource

/-- Where the nodes and resources are found that are made apart for a value at a site. -/
def Site.offsets (site : Site) (assembly : Assembly) : Offsets :=
  ⟨assembly.nodes.size, assembly.resources.size, site.resource⟩

/-- Whether a schema object declares an id. -/
def Json.declaresId : Json → Bool
  | .object members => (assoc? StandardKeyword.id.name members).isSome
  | _ => false

/-- The shape with its sub-schemas renumbered. -/
def Shape.rename (number : Nat → Nat) : Shape → Shape
  | .boolean accepts => .boolean accepts
  | .object rules => .object (rules.map (·.rename number))

/-- Entries of nodes, renumbered. -/
def moveEntries {α : Type} (by_ : Nat) (entries : List (α × Nat)) : List (α × Nat) :=
  entries.map (Prod.map id (· + by_))

/-- Whether a node is one that was made apart, renumbered. -/
structure Node.Relocates (offsets : Offsets) (nodes resources : Nat) (node apart : Node) : Prop where
  value_eq : node.value = apart.value
  shape_eq : node.shape = apart.shape.rename (· + offsets.node)
  resource_eq : node.resource = offsets.resourceOf apart.resource
  inside : apart.resource < resources
  below : ∀ rule ∈ apart.rules, ∀ number ∈ rule.subschemas, number < nodes

/-- Whether a resource is one that was made apart, renumbered. -/
structure Resource.Relocates (offsets : Offsets) (nodes : Nat) (resource apart : Resource) : Prop where
  id_eq : resource.id = apart.id
  dialect_eq : resource.dialect = apart.dialect
  node_eq : resource.node = apart.node + offsets.node
  anchors_eq : resource.anchors = moveEntries offsets.node apart.anchors
  dynamicAnchors_eq : resource.dynamicAnchors = moveEntries offsets.node apart.dynamicAnchors
  locations_eq : resource.locations = moveEntries offsets.node apart.locations
  node_lt : apart.node < nodes
  anchors_lt : ∀ entry ∈ apart.anchors, entry.2 < nodes
  dynamicAnchors_lt : ∀ entry ∈ apart.dynamicAnchors, entry.2 < nodes
  locations_lt : ∀ entry ∈ apart.locations, entry.2 < nodes

/-- Whether a resource stands in for that of a document made apart: it has its id and dialect, and its dynamic anchors
at least. -/
structure Resource.StandsIn (resource apart : Resource) : Prop where
  id_eq : resource.id = apart.id
  dialect_eq : resource.dialect = apart.dialect
  node_eq : apart.node = 0
  dynamic : ∀ name, (assoc? name apart.dynamicAnchors).isSome → (assoc? name resource.dynamicAnchors).isSome

/-- Whether what an assembly made apart is found in another one. -/
structure Assembly.Relocates (offsets : Offsets) (assembly apart : Assembly) : Prop where
  size : assembly.nodes.size = apart.nodes.size + offsets.node
  nodes : ∀ (index : Nat) (other : Node), apart.nodes[index]? = some (some other) →
    ∃ node, assembly.nodes[index + offsets.node]? = some (some node) ∧
      node.Relocates offsets apart.nodes.size apart.resources.size other
  resources_size : assembly.resources.size + 1 = apart.resources.size + offsets.resource
  resources : ∀ (index : Nat) (other : Resource), apart.resources[index + 1]? = some other →
    ∃ resource, assembly.resources[index + offsets.resource]? = some resource ∧
      resource.Relocates offsets apart.nodes.size other
  around_lt : offsets.around < offsets.resource
  around : ∃ outer first, assembly.resources[offsets.around]? = some outer ∧ apart.resources[0]? = some first ∧
    outer.StandsIn first
  ids : ∀ (id : Url) (index : Nat), assoc? id apart.ids = some index → ∃ inner, index = inner + 1 ∧
    index < apart.resources.size ∧ assoc? id assembly.ids = some (inner + offsets.resource)
  taken : apart.taken ⊆ assembly.taken

/-- Whether a site in an assembly is one in an assembly made apart. -/
structure Site.Relocates (offsets : Offsets) (site apart : Site) : Prop where
  base_eq : site.base = apart.base
  resource_eq : site.resource = offsets.resourceOf apart.resource
  /-- The sites have the same locations below inner resources. -/
  paths_eq : site.paths.filter (offsets.resource ≤ ·.1) =
    (apart.paths.filter (1 ≤ ·.1)).map fun path => (path.1 - 1 + offsets.resource, path.2)

/-- Whether the node of a site is that of a site in an assembly made apart, with the same marks. -/
structure Site.Twins (offsets : Offsets) (site apart : Site) : Prop extends Site.Relocates offsets site apart where
  node_eq : site.node = apart.node + offsets.node
  marks : apart.marked site = apart

/-! ## Entries -/

section

variable {α : Type} [DecidableEq α] {by_ : Nat} {entries : List (α × Nat)}

@[simp] theorem assoc?_moveEntries (key : α) :
    assoc? key (moveEntries by_ entries) = (assoc? key entries).map (· + by_) := by
  induction entries with
  | nil => rfl
  | cons entry entries ih =>
    obtain ⟨other, number⟩ := entry
    simp only [moveEntries, List.map_cons, Prod.map, id, assoc?] at ih ⊢
    split
    · rfl
    · exact ih

theorem putEntry_moveEntries (key : α) (number : Nat) :
    putEntry key (number + by_) (moveEntries by_ entries) = moveEntries by_ (putEntry key number entries) := by
  induction entries with
  | nil => rfl
  | cons entry entries ih =>
    obtain ⟨other, old⟩ := entry
    simp only [moveEntries, List.map_cons, Prod.map, id, putEntry] at ih ⊢
    split
    · rfl
    · rw [ih, List.map_cons]
      rfl

theorem addEntry_moveEntries (key : α) (number : Nat) :
    addEntry key (number + by_) (moveEntries by_ entries) = moveEntries by_ (addEntry key number entries) := by
  unfold addEntry
  rw [assoc?_moveEntries]
  cases assoc? key entries with
  | some old => rfl
  | none => simp [moveEntries]

theorem snd_lt_of_mem_putEntry {key : α} {number bound : Nat} (least : number < bound)
    (all : ∀ entry ∈ entries, entry.2 < bound) : ∀ entry ∈ putEntry key number entries, entry.2 < bound := by
  induction entries with
  | nil =>
    intro entry member
    rw [List.mem_singleton.mp member]
    exact least
  | cons first entries ih =>
    obtain ⟨other, old⟩ := first
    intro entry member
    rw [putEntry] at member
    split at member
    · rcases List.mem_cons.mp member with rfl | member
      · exact least
      · exact all entry (List.mem_cons_of_mem _ member)
    · rcases List.mem_cons.mp member with rfl | member
      · exact all _ List.mem_cons_self
      · exact ih (fun entry member => all entry (List.mem_cons_of_mem _ member)) entry member

theorem snd_lt_of_mem_addEntry {key : α} {number bound : Nat} (least : number < bound)
    (all : ∀ entry ∈ entries, entry.2 < bound) : ∀ entry ∈ addEntry key number entries, entry.2 < bound := by
  intro entry member
  unfold addEntry at member
  split at member
  · exact all entry member
  · rcases List.mem_append.mp member with member | member
    · exact all entry member
    · rw [List.mem_singleton.mp member]
      exact least

end

namespace Site

variable {offsets : Offsets} {site apart : Site}

theorem Relocates.descend (relocates : site.Relocates offsets apart) (tokens : List String) :
    (site.descend tokens).Relocates offsets (apart.descend tokens) := by
  refine ⟨relocates.base_eq, relocates.resource_eq, ?_⟩
  have moved := congrArg (List.map fun path : Nat × Pointer => (path.1, path.2.append tokens)) relocates.paths_eq
  simp only [Site.descend, List.filter_map, List.map_map] at moved ⊢
  exact moved

theorem Relocates.start (relocates : site.Relocates offsets apart) {assembly other : Assembly}
    (sizes : assembly.nodes.size = other.nodes.size + offsets.node) :
    (site.start assembly.nodes.size).Twins offsets (apart.start other.nodes.size) :=
  ⟨⟨relocates.base_eq, relocates.resource_eq, relocates.paths_eq⟩, sizes, rfl⟩

/-- The sites at which a resource is started. -/
theorem Twins.inner (twins : site.Twins offsets apart) (id : Url) {index other : Nat} (some : 0 < other)
    (renumbered : index = other - 1 + offsets.resource) :
    ({ site with base := id, resource := index, paths := (index, .root) :: site.paths } : Site).Twins offsets
      { apart with base := id, resource := other, paths := (other, .root) :: apart.paths } := by
  obtain ⟨inner, rfl⟩ := Nat.exists_eq_succ_of_ne_zero some.ne'
  refine ⟨⟨rfl, renumbered, ?_⟩, twins.node_eq, ?_⟩
  · have inPlace : offsets.resource ≤ index := renumbered ▸ Nat.le_add_left _ _
    dsimp only
    rw [List.filter_cons_of_pos (by simpa using inPlace), List.filter_cons_of_pos (by simp), List.map_cons,
      twins.paths_eq, renumbered]
  · have anchors := congrArg Site.anchor twins.marks
    have dynamicAnchors := congrArg Site.dynamicAnchor twins.marks
    have vocabularies := congrArg Site.vocabularies twins.marks
    simp only [Site.marked, Site.mk.injEq, true_and]
    exact ⟨anchors, dynamicAnchors, vocabularies⟩

end Site

namespace Json

theorem depth_le_of_mem_items {items : List Json} {item : Json} (member : item ∈ items) :
    item.depth ≤ depthItems items := by
  induction items with
  | nil => exact absurd member List.not_mem_nil
  | cons first rest ih =>
    rw [depthItems]
    rcases List.mem_cons.mp member with rfl | member
    · exact le_max_left _ _
    · exact (ih member).trans (le_max_right _ _)

theorem depth_le_of_mem_members {members : List (String × Json)} {name : String} {value : Json}
    (member : (name, value) ∈ members) : value.depth ≤ depthMembers members := by
  induction members with
  | nil => exact absurd member List.not_mem_nil
  | cons first rest ih =>
    obtain ⟨other, head⟩ := first
    rw [depthMembers]
    rcases List.mem_cons.mp member with same | member
    · rw [(Prod.mk.inj same).2]
      exact le_max_left _ _
    · exact (ih member).trans (le_max_right _ _)

end Json

theorem StandardKeyword.depth_slots_le (meaning : StandardKeyword) {value : Json} {slot : List String × Json}
    (member : slot ∈ meaning.slots value) : slot.2.depth ≤ value.depth := by
  have own (member : slot ∈ [([], value)]) : slot.2.depth ≤ value.depth := by
    rw [List.mem_singleton.mp member]
  have items {elements : List Json} (same : value = .array elements)
      (member : slot ∈ elements.zipIdx.map fun entry => ([toString entry.2], entry.1)) :
      slot.2.depth ≤ value.depth := by
    obtain ⟨item, inside, rfl⟩ := List.mem_map.mp member
    rw [same, Json.depth]
    exact (Json.depth_le_of_mem_items (List.fst_mem_of_mem_zipIdx inside)).trans (Nat.le_succ _)
  have members {members : List (String × Json)} (same : value = .object members)
      (member : slot ∈ members.map fun entry => ([entry.1], entry.2)) : slot.2.depth ≤ value.depth := by
    obtain ⟨⟨name, inner⟩, inside, rfl⟩ := List.mem_map.mp member
    rw [same, Json.depth]
    exact (Json.depth_le_of_mem_members inside).trans (Nat.le_succ _)
  unfold slots at member
  split at member
  all_goals
    first
    | exact items rfl member
    | exact members rfl member
    | exact absurd member List.not_mem_nil
    | exact own member

theorem Node.Relocates.mono {offsets : Offsets} {nodes resources moreNodes moreResources : Nat} {node apart : Node}
    (relocates : node.Relocates offsets nodes resources apart) (more : nodes ≤ moreNodes)
    (further : resources ≤ moreResources) : node.Relocates offsets moreNodes moreResources apart :=
  { relocates with
    inside := relocates.inside.trans_le further
    below := fun rule member number inside => (relocates.below rule member number inside).trans_le more }

theorem Resource.Relocates.mono {offsets : Offsets} {nodes moreNodes : Nat} {resource apart : Resource}
    (relocates : resource.Relocates offsets nodes apart) (more : nodes ≤ moreNodes) :
    resource.Relocates offsets moreNodes apart :=
  { relocates with
    node_lt := relocates.node_lt.trans_le more
    anchors_lt := fun entry member => (relocates.anchors_lt entry member).trans_le more
    dynamicAnchors_lt := fun entry member => (relocates.dynamicAnchors_lt entry member).trans_le more
    locations_lt := fun entry member => (relocates.locations_lt entry member).trans_le more }

namespace KeywordSite

open Site

variable {options : Options} {registered : Bool} {offsets : Offsets} {assembly apart after : Assembly}
  {sub subApart : Site → Json → Compile Nat} {limit : Nat} {place other : KeywordSite}

/-- Whether sub-schemas up to some depth are compiled apart as they are compiled in place. -/
structure RelocatesBelow (options : Options) (registered : Bool) (offsets : Offsets)
    (sub subApart : Site → Json → Compile Nat) (limit : Nat) : Prop where
  continues : ContinuesBelow options registered sub
  continuesApart : ContinuesBelow options false subApart
  relocates : ∀ (site other : Site) (value : Json) (assembly apart after : Assembly) (number : Nat),
    value.depth < limit → site.Relocates offsets other → assembly.Relocates offsets apart → site.Awaits assembly →
    assembly.Sound → other.Awaits apart → apart.Sound → 0 < apart.nodes.size →
    Yields (sub site value) assembly number after → ∃ renumbered last,
      Yields (subApart other value) apart renumbered last ∧
      number = renumbered + offsets.node ∧ renumbered < last.nodes.size ∧ after.Relocates offsets last

/-- What an assembly and one made apart have in common where sub-schemas are compiled. -/
structure Beside (offsets : Offsets) (site other : Site) (assembly apart : Assembly) : Prop where
  twins : site.Twins offsets other
  relocates : assembly.Relocates offsets apart
  stands : site.Stands assembly
  sound : assembly.Sound
  standsApart : other.Stands apart
  soundApart : apart.Sound

/-- What keywords are compiled to in place and apart: the same rules up to the numbers of nodes. -/
structure Alike (offsets : Offsets) (start : Site) (result made : Site × List Rule) (after apart last : Assembly) :
    Prop where
  beside : Beside offsets result.1 made.1 after last
  rules_eq : result.2 = made.2.map (·.rename (· + offsets.node))
  below : ∀ rule ∈ made.2, ∀ number ∈ rule.subschemas, number < last.nodes.size
  size : apart.nodes.size ≤ last.nodes.size
  node_eq : made.1.node = start.node

variable (below : RelocatesBelow options registered offsets sub subApart limit)
include below

/-- Slots are compiled apart as in place. -/
theorem relocates_compileSlots {slots : List (List String × Json)} {numbers : List Nat}
    (named : place.keyword = other.keyword) (flat : ∀ slot ∈ slots, slot.2.depth < limit)
    (beside : Beside offsets place.site other.site assembly apart)
    (yields : Yields (place.compileSlots sub slots) assembly numbers after) :
    ∃ renumbered last, Yields (other.compileSlots subApart slots) apart renumbered last ∧
      numbers = renumbered.map (· + offsets.node) ∧ (∀ number ∈ renumbered, number < last.nodes.size) ∧
      after.Relocates offsets last := by
  induction slots generalizing assembly apart numbers with
  | nil =>
    obtain ⟨rfl, rfl⟩ := yields_compileSlots_nil.mp yields
    exact ⟨[], apart, yields_compileSlots_nil.mpr ⟨rfl, rfl⟩, rfl, fun _ member => absurd member List.not_mem_nil,
      beside.relocates⟩
  | cons slot slots ih =>
    obtain ⟨number, rest, between, rfl, first, others⟩ := yields_compileSlots_cons.mp yields
    have further : place.keyword :: slot.1 ≠ [] := List.cons_ne_nil _ _
    have awaits := beside.stands.descend further
    have awaitsApart := beside.standsApart.descend further
    obtain ⟨renumbered, middle, yieldsApart, same, least, relocates⟩ :=
      below.relocates _ _ _ _ _ _ _ (flat slot List.mem_cons_self) (beside.twins.toRelocates.descend _)
        beside.relocates awaits beside.sound awaitsApart beside.soundApart beside.standsApart.pos first
    have continues := below.continues _ _ _ _ _ awaits beside.sound beside.stands.pos first
    have continuesApart :=
      below.continuesApart _ _ _ _ _ awaitsApart beside.soundApart beside.standsApart.pos yieldsApart
    obtain ⟨renumberedRest, last, yieldsRest, sameRest, leastRest, relocatesLast⟩ :=
      ih (fun slot member => flat slot (List.mem_cons_of_mem _ member))
        ⟨beside.twins, relocates, beside.stands.continues continues, continues.sound,
          beside.standsApart.continues continuesApart, continuesApart.sound⟩ others
    have named' : place.keyword :: slot.1 = other.keyword :: slot.1 := by rw [named]
    have continuesRest := continues_compileSlots below.continuesApart (beside.standsApart.continues continuesApart)
      continuesApart.sound yieldsRest
    refine ⟨renumbered :: renumberedRest, last, ?_, ?_, ?_, relocatesLast⟩
    · refine yields_compileSlots_cons.mpr ⟨renumbered, renumberedRest, middle, rfl, ?_, yieldsRest⟩
      rw [subschemaAt, ← named]
      exact yieldsApart
    · rw [same, sameRest, List.map_cons]
    · intro number member
      rcases List.mem_cons.mp member with rfl | member
      · exact least.trans_le continuesRest.size
      · exact leastRest number member

/-- A keyword that is no id is compiled apart as in place. -/
theorem relocates_compile {meaning : StandardKeyword} {value : Json} {result : Site × Option Rule}
    (different : meaning ≠ .id) (flat : value.depth < limit) (named : place.keyword = other.keyword)
    (beside : Beside offsets place.site other.site assembly apart)
    (yields : Yields (place.compile registered sub meaning value) assembly result after) :
    ∃ made last, Yields (other.compile false subApart meaning value) apart made last ∧
      Alike offsets other.site (result.1, result.2.toList) (made.1, made.2.toList) after apart last := by
  obtain ⟨marked, numbers, slots, -, remade⟩ := fillsSlots meaning value different _ _ _ _ _ _ yields
  obtain ⟨renumbered, last, slotsApart, same, least, relocates⟩ := relocates_compileSlots below named
    (fun slot member => (meaning.depth_slots_le member).trans_lt flat) beside slots
  obtain ⟨rule, yieldsApart, renamed, listed⟩ := remade other false subApart apart last renumbered _
    beside.twins.base_eq beside.twins.marks slotsApart same
  obtain ⟨continues, stands, -⟩ := continues_compile below.continues different beside.stands beside.sound yields
  obtain ⟨continuesApart, standsApart, sameNode⟩ :=
    continues_compile below.continuesApart different beside.standsApart beside.soundApart yieldsApart
  refine ⟨_, last, yieldsApart, ⟨?_, relocates, stands, continues.sound, standsApart, continuesApart.sound⟩, ?_, ?_,
    continuesApart.size, sameNode⟩
  · rw [← marked]
    exact ⟨⟨beside.twins.base_eq, beside.twins.resource_eq, beside.twins.paths_eq⟩, beside.twins.node_eq, rfl⟩
  · rw [renamed]
    cases rule <;> rfl
  · intro found member number inside
    rw [listed found (Option.mem_toList.mp member)] at inside
    exact least number inside

omit below

theorem resources_pos (relocates : assembly.Relocates offsets apart) : 0 < apart.resources.size := by
  obtain ⟨-, first, -, found, -⟩ := relocates.around
  exact (Array.getElem?_eq_some_iff.mp found).1

/-- A new resource is entered apart as in place. -/
theorem relocates_pushResource (relocates : assembly.Relocates offsets apart) (id : Url) {resource inner : Resource}
    (moved : resource.Relocates offsets apart.nodes.size inner) :
    ({ assembly with
        taken := id :: assembly.taken
        ids := putEntry id assembly.resources.size assembly.ids
        resources := assembly.resources.push resource } : Assembly).Relocates offsets
      { apart with
        taken := id :: apart.taken
        ids := putEntry id apart.resources.size apart.ids
        resources := apart.resources.push inner } := by
  have some := resources_pos relocates
  have sizes := relocates.resources_size
  refine ⟨relocates.size, ?_, ?_, ?_, relocates.around_lt, ?_, ?_, ?_⟩
  · intro index found present
    obtain ⟨node, foundPlace, moved⟩ := relocates.nodes index found present
    exact ⟨node, foundPlace, moved.mono le_rfl (by simp)⟩
  · simp only [Array.size_push]
    omega
  · intro index found present
    simp only [Array.getElem?_push] at present ⊢
    by_cases new : index + 1 = apart.resources.size
    · rw [if_pos new] at present
      rw [if_pos (by omega)]
      obtain rfl := Option.some.inj present
      exact ⟨resource, rfl, moved⟩
    · rw [if_neg new] at present
      rw [if_neg (by omega)]
      exact relocates.resources index found present
  · obtain ⟨outer, first, foundOuter, foundFirst, standsIn⟩ := relocates.around
    exact ⟨outer, first, getElem?_push_of_eq_some foundOuter _, getElem?_push_of_eq_some foundFirst _, standsIn⟩
  · intro url index named
    by_cases same : url = id
    · subst same
      rw [assoc?_putEntry_self] at named
      obtain rfl := Option.some.inj named
      refine ⟨apart.resources.size - 1, (Nat.sub_add_cancel some).symm, by simp, ?_⟩
      dsimp only
      rw [assoc?_putEntry_self]
      exact congrArg Option.some (by omega)
    · rw [assoc?_putEntry_of_ne same] at named
      obtain ⟨inner, rfl, bound, found⟩ := relocates.ids url index named
      refine ⟨inner, rfl, by simp; omega, ?_⟩
      dsimp only
      rw [assoc?_putEntry_of_ne same]
      exact found
  · exact List.cons_subset_cons id relocates.taken

/-- A resource is started apart as in place. -/
theorem relocates_startResource {id : Url} {started : Site}
    (beside : Beside offsets place.site other.site assembly apart)
    (yields : Yields (place.startResource id) assembly started after) :
    ∃ startedApart last, Yields (other.startResource id) apart startedApart last ∧
      ({ started with base := id } : Site).Twins offsets { startedApart with base := id } ∧
      after.Relocates offsets last := by
  obtain ⟨free, rfl, rfl⟩ := yields_startResource.mp yields
  have relocates := beside.relocates
  have some := resources_pos relocates
  have renumbered : assembly.resources.size = apart.resources.size - 1 + offsets.resource := by
    have sizes := relocates.resources_size
    omega
  refine ⟨_, _, yields_startResource.mpr ⟨fun taken => free (relocates.taken taken), rfl, rfl⟩,
    beside.twins.inner id some renumbered, relocates_pushResource relocates id ?_⟩
  refine ⟨rfl, beside.stands.drafted.trans beside.standsApart.drafted.symm, beside.twins.node_eq, rfl, rfl, rfl,
    (Array.getElem?_eq_some_iff.mp beside.standsApart.started).1, ?_, ?_, ?_⟩
  all_goals exact fun entry member => absurd member List.not_mem_nil

/-- Inside the value an id is declared apart as in place. -/
theorem relocates_compile_id {value : Json} {result : Site × Option Rule} (inner : other.site.node ≠ 0)
    (beside : Beside offsets place.site other.site assembly apart)
    (yields : Yields (place.compile registered sub .id value) assembly result after) :
    ∃ made last, Yields (other.compile false subApart .id value) apart made last ∧
      Alike offsets other.site (result.1, result.2.toList) (made.1, made.2.toList) after apart last := by
  have declares := declares_compile beside.stands beside.sound yields
  obtain ⟨declared, between, yieldsDeclared, made⟩ := yields_bind.mp yields
  obtain ⟨rfl, rfl⟩ := yields_pure.mp made
  obtain ⟨id, start, read, goesOn⟩ := yields_bind.mp yieldsDeclared
  obtain ⟨reads, rfl⟩ := yields_read.mp read
  have placed : place.site.node ≠ 0 := by
    have same := beside.twins.node_eq
    omega
  rw [if_neg placed] at goesOn
  obtain ⟨started, stop, starts, kept⟩ := yields_bind.mp goesOn
  obtain ⟨rfl, rfl⟩ := yields_pure.mp kept
  obtain ⟨startedApart, last, startsApart, twins, relocates⟩ := relocates_startResource beside starts
  have readsApart := toOption_eq_some (toOption_declaredId beside.twins.base_eq value) reads
  have yieldsApart :
      Yields (other.compile false subApart .id value) apart ({ startedApart with base := id }, none) last := by
    refine yields_bind.mpr ⟨_, last, yields_bind.mpr ⟨id, apart, yields_read.mpr ⟨readsApart, rfl⟩, ?_⟩,
      yields_pure.mpr ⟨rfl, rfl⟩⟩
    rw [if_neg inner]
    exact yields_bind.mpr ⟨startedApart, last, startsApart, yields_pure.mpr ⟨rfl, rfl⟩⟩
  have declaresApart := declares_compile beside.standsApart beside.soundApart yieldsApart
  exact ⟨_, last, yieldsApart, ⟨twins, relocates, declares.stands, declares.sound, declaresApart.stands,
    declaresApart.sound⟩, rfl, fun rule member => absurd member List.not_mem_nil, by rw [declaresApart.nodes_eq],
    declaresApart.node_eq⟩

end KeywordSite

namespace Site

open KeywordSite

variable {options : Options} {registered : Bool} {offsets : Offsets} {site other : Site}
  {assembly apart after : Assembly} {sub subApart : Site → Json → Compile Nat} {limit : Nat}

/-- Keywords are compiled apart as in place, if none of them declares the id of a document. -/
theorem relocates_compileKeywords (below : RelocatesBelow options registered offsets sub subApart limit)
    {entries : List (KeywordEntry Json)} {result : Site × List Rule}
    (flat : ∀ entry ∈ entries, entry.item.depth < limit)
    (inner : ∀ entry ∈ entries, entry.spec.meaning = .id → other.node ≠ 0)
    (beside : Beside offsets site other assembly apart)
    (yields : Yields (compileKeywords registered sub site entries) assembly result after) :
    ∃ made last, Yields (compileKeywords false subApart other entries) apart made last ∧
      Alike offsets other result made after apart last := by
  induction entries generalizing site other assembly apart result with
  | nil =>
    obtain ⟨rfl, rfl⟩ := yields_compileKeywords_nil.mp yields
    exact ⟨_, apart, yields_compileKeywords_nil.mpr ⟨rfl, rfl⟩, beside, rfl,
      fun rule member => absurd member List.not_mem_nil, le_rfl, rfl⟩
  | cons entry entries ih =>
    obtain ⟨first, between, rest, yieldsFirst, yieldsRest, rfl⟩ := yields_compileKeywords_cons.mp yields
    obtain ⟨made, middle, yieldsApart, alike⟩ : ∃ made last,
        Yields ((KeywordSite.mk other entry.spec.keyword).compile false subApart entry.spec.meaning entry.item) apart
          made last ∧
        Alike offsets other (first.1, first.2.toList) (made.1, made.2.toList) between apart last := by
      by_cases id : entry.spec.meaning = .id
      · rw [id] at yieldsFirst ⊢
        exact relocates_compile_id (inner entry List.mem_cons_self id) beside yieldsFirst
      · exact relocates_compile below id (flat entry List.mem_cons_self) (by rfl) beside yieldsFirst
    obtain ⟨madeRest, last, yieldsApartRest, alikeRest⟩ :=
      ih (fun other member => flat other (List.mem_cons_of_mem _ member))
        (fun entry member id => alike.node_eq ▸ inner entry (List.mem_cons_of_mem _ member) id) alike.beside yieldsRest
    refine ⟨(madeRest.1, made.2.toList ++ madeRest.2), last,
      yields_compileKeywords_cons.mpr ⟨made, middle, madeRest, yieldsApart, yieldsApartRest, rfl⟩, alikeRest.beside,
      ?_, ?_, alike.size.trans alikeRest.size, alikeRest.node_eq.trans alike.node_eq⟩
    · rw [List.map_append, ← alike.rules_eq, ← alikeRest.rules_eq]
    · intro rule member number inside
      rcases List.mem_append.mp member with early | late
      · exact (alike.below rule early number inside).trans_le alikeRest.size
      · exact alikeRest.below rule late number inside

theorem withUnknown_rename (number : Nat → Nat) (unknown : List (String × Json)) (rules : List Rule) :
    withUnknown unknown (rules.map (·.rename number)) = (withUnknown unknown rules).map (·.rename number) := by
  have early : (fun rule : Rule => rule.category != .unevaluated) ∘ Rule.rename number =
      fun rule : Rule => rule.category != .unevaluated := by
    funext rule
    simp only [Function.comp_apply, Rule.category, Rule.standard?_rename]
  simp only [withUnknown, List.span_eq_takeWhile_dropWhile, List.takeWhile_map, List.dropWhile_map, early,
    List.map_append, List.map_map]
  rfl

theorem subschemas_of_mem_withUnknown {unknown : List (String × Json)} {rules : List Rule} {rule : Rule}
    (member : rule ∈ withUnknown unknown rules) : rule ∈ rules ∨ rule.subschemas = [] := by
  rcases Draft.mem_withUnknown member with known | ⟨entry, -, rfl⟩
  · exact .inl known
  · exact .inr rfl

/-- The members of a schema object are compiled once its dialect is selected, its keywords are compiled and unknown
members are dealt with. -/
theorem yields_compileMembers_of {registered : Bool} {sub : Site → Json → Compile Nat} {members : List (String × Json)}
    {site selected final : Site} {rules : List Rule} {start between after : Assembly} {made : Site × List Rule}
    (selects : Yields (site.selectDialect options members) before selected start)
    (keywords : Yields (selected.compileKeywords registered sub
      (KeywordEntry.inOrder (knownMembers selected.dialect members)))
      start (final, rules) between)
    (finishes : Yields (match options.unknownKeywords, unknownMembers selected.dialect members with
      | .error, (name, _) :: _ => throw (.unknownKeyword selected.location name)
      | .annotate, unknown => return (final, withUnknown unknown rules)
      | _, _ => return (final, rules)) between made after) :
    Yields (site.compileMembers options registered sub members) before made after :=
  yields_bind.mpr ⟨selected, start, selects, yields_bind.mpr ⟨(final, rules), between, keywords, finishes⟩⟩

/-- The members of a schema object that declares no id of a document are compiled apart as in place. -/
theorem relocates_compileMembers (only : options.KnowsOnlyDraft)
    (below : RelocatesBelow options registered offsets sub subApart limit) {members : List (String × Json)}
    {result : Site × List Rule} (flat : ∀ member ∈ members, member.2.depth < limit)
    (inner : (Json.object members).declaresId = true → other.node ≠ 0)
    (beside : Beside offsets site other assembly apart)
    (yields : Yields (site.compileMembers options registered sub members) assembly result after) :
    ∃ made last, Yields (other.compileMembers options false subApart members) apart made last ∧
      Alike offsets other result made after apart last := by
  obtain ⟨selected, start, selects, goesOn⟩ := yields_bind.mp yields
  obtain ⟨named, rfl, rfl⟩ := (yields_selectDialect only beside.stands beside.sound).mp selects
  obtain ⟨⟨final, rules⟩, stop, keywords, finishes⟩ := yields_bind.mp goesOn
  have selectsApart := (yields_selectDialect only beside.standsApart beside.soundApart).mpr ⟨named, rfl, rfl⟩
  rw [beside.stands.drafted] at keywords
  obtain ⟨⟨finalApart, rulesApart⟩, last, keywordsApart, alike⟩ := relocates_compileKeywords below
    (fun entry member => flat _ (Draft.mem_of_mem_inOrder member).1)
    (fun entry member id => by
      obtain ⟨inside, standard⟩ := Draft.mem_of_mem_inOrder member
      rw [standard, id] at inside
      exact inner (isSome_assoc?_iff.mpr (List.mem_map_of_mem inside)))
    beside keywords
  rw [← beside.standsApart.drafted] at keywordsApart
  dsimp only at finishes
  rw [beside.stands.drafted] at finishes
  split at finishes
  · exact absurd finishes yields_throw
  · next mode =>
    obtain ⟨rfl, rfl⟩ := yields_pure.mp finishes
    refine ⟨(finalApart, withUnknown (unknownMembers Draft.dialect members) rulesApart), last,
      yields_compileMembers_of selectsApart keywordsApart ?_, ⟨alike.beside, ?_, ?_, alike.size, alike.node_eq⟩⟩
    · rw [beside.standsApart.drafted, mode]
      exact yields_pure.mpr ⟨rfl, rfl⟩
    · exact (congrArg (withUnknown _) alike.rules_eq).trans (withUnknown_rename _ _ _)
    · intro rule member number inside
      rcases subschemas_of_mem_withUnknown member with known | none
      · exact alike.below rule known number inside
      · rw [none] at inside
        exact absurd inside List.not_mem_nil
  · next noNotes noFault =>
    obtain ⟨rfl, rfl⟩ := yields_pure.mp finishes
    refine ⟨(finalApart, rulesApart), last, yields_compileMembers_of selectsApart keywordsApart ?_, alike⟩
    rw [beside.standsApart.drafted]
    split
    · next mode strange => exact absurd strange (noFault _ _ _ mode)
    · next mode => exact absurd mode noNotes
    · exact yields_pure.mpr ⟨rfl, rfl⟩

/-- The shape of a node is made apart as in place. -/
theorem relocates_compileShape (only : options.KnowsOnlyDraft)
    (below : RelocatesBelow options registered offsets sub subApart limit) {value : Json} {result : Site × Shape}
    (flat : value.depth ≤ limit) (inner : value.declaresId = true → other.node ≠ 0)
    (beside : Beside offsets site other assembly apart)
    (yields : Yields (site.compileShape options registered sub value) assembly result after) :
    ∃ made last, Yields (other.compileShape options false subApart value) apart made last ∧
      Beside offsets result.1 made.1 after last ∧ result.2 = made.2.rename (· + offsets.node) ∧
      (∀ rule ∈ (made.1.finishedNode value made.2).rules, ∀ number ∈ rule.subschemas, number < last.nodes.size) ∧
      made.1.node = other.node := by
  cases value with
  | bool accepts =>
    obtain ⟨rfl, rfl⟩ := yields_pure.mp yields
    exact ⟨_, apart, yields_pure.mpr ⟨rfl, rfl⟩, beside, rfl, fun rule member => absurd member List.not_mem_nil, rfl⟩
  | object members =>
    obtain ⟨⟨final, rules⟩, stop, yieldsMembers, shaped⟩ := yields_bind.mp yields
    obtain ⟨rfl, rfl⟩ := yields_pure.mp shaped
    rw [Json.depth] at flat
    have shallow (member : String × Json) (inside : member ∈ members) : member.2.depth < limit :=
      (Nat.lt_succ_of_le (Json.depth_le_of_mem_members inside)).trans_le flat
    obtain ⟨made, last, yieldsApart, alike⟩ := relocates_compileMembers only below shallow inner beside yieldsMembers
    exact ⟨(made.1, .object made.2), last, yields_bind.mpr ⟨made, last, yieldsApart, yields_pure.mpr ⟨rfl, rfl⟩⟩,
      alike.beside, congrArg Shape.object alike.rules_eq, alike.below, alike.node_eq⟩
  | _ => exact absurd yields yields_throw

end Site

/-! ## Finishing nodes apart -/

namespace Offsets

variable {offsets : Offsets} {resource : Nat}

theorem resourceOf_eq_add_iff (least : offsets.around < offsets.resource) {index : Nat} :
    offsets.resourceOf resource = index + offsets.resource ↔ resource = index + 1 := by
  cases resource with
  | zero =>
    simp only [resourceOf]
    omega
  | succ inner => simp [resourceOf]

theorem resourceOf_eq_around_iff (least : offsets.around < offsets.resource) :
    offsets.resourceOf resource = offsets.around ↔ resource = 0 := by
  cases resource with
  | zero => simp [resourceOf]
  | succ inner =>
    simp only [resourceOf]
    omega

end Offsets

namespace Site

variable {offsets : Offsets} {site other : Site} {assembly apart after : Assembly}

/-- Sites that go together have the same locations below each inner resource. -/
theorem Relocates.filter_eq (relocates : site.Relocates offsets other) (index : Nat) :
    site.paths.filter (·.1 = index + offsets.resource) =
      (other.paths.filter (·.1 = index + 1)).map fun path => (path.1 - 1 + offsets.resource, path.2) := by
  have inPlace : site.paths.filter (·.1 = index + offsets.resource) =
      (site.paths.filter (offsets.resource ≤ ·.1)).filter (·.1 = index + offsets.resource) := by
    rw [List.filter_filter]
    refine List.filter_congr fun path _ => ?_
    rw [← Bool.decide_and]
    exact decide_eq_decide.mpr (by omega)
  have inApart : other.paths.filter (·.1 = index + 1) =
      (other.paths.filter (1 ≤ ·.1)).filter fun path => path.1 - 1 + offsets.resource = index + offsets.resource := by
    rw [List.filter_filter]
    refine List.filter_congr fun path _ => ?_
    rw [← Bool.decide_and]
    exact decide_eq_decide.mpr (by omega)
  rw [inPlace, inApart, relocates.paths_eq, List.filter_map]
  rfl

theorem foldl_addEntry_moveEntries {by_ node : Nat} (paths : List (Nat × Pointer)) (locations : List (Pointer × Nat)) :
    paths.foldl (fun locations path => addEntry path.2 (node + by_) locations) (moveEntries by_ locations) =
      moveEntries by_ (paths.foldl (fun locations path => addEntry path.2 node locations) locations) := by
  induction paths generalizing locations with
  | nil => rfl
  | cons path paths ih => rw [List.foldl_cons, addEntry_moveEntries, ih, List.foldl_cons]

theorem snd_lt_of_mem_foldl_addEntry {node bound : Nat} (least : node < bound) (paths : List (Nat × Pointer))
    {locations : List (Pointer × Nat)} (all : ∀ entry ∈ locations, entry.2 < bound) :
    ∀ entry ∈ paths.foldl (fun locations path => addEntry path.2 node locations) locations, entry.2 < bound := by
  induction paths generalizing locations with
  | nil => exact all
  | cons path paths ih => exact ih (snd_lt_of_mem_addEntry least all)

/-- Below an inner resource sites that go together stand at the same location. -/
theorem Relocates.innermost_eq (relocates : site.Relocates offsets other)
    (innermost : site.paths.head?.map (·.1) = some site.resource)
    (innermostApart : other.paths.head?.map (·.1) = some other.resource) (inner : other.resource ≠ 0) :
    site.innermost.2 = other.innermost.2 := by
  obtain ⟨index, same⟩ := Nat.exists_eq_succ_of_ne_zero inner
  obtain ⟨first, rest, split⟩ : ∃ first rest, site.paths = first :: rest := by
    cases paths : site.paths with
    | nil => simp [paths] at innermost
    | cons first rest => exact ⟨first, rest, rfl⟩
  obtain ⟨firstApart, restApart, splitApart⟩ : ∃ first rest, other.paths = first :: rest := by
    cases paths : other.paths with
    | nil => simp [paths] at innermostApart
    | cons first rest => exact ⟨first, rest, rfl⟩
  have paths := relocates.paths_eq
  rw [split] at innermost paths
  rw [splitApart] at innermostApart paths
  simp only [List.head?_cons, Option.map_some, Option.some.injEq] at innermost innermostApart
  rw [relocates.resource_eq, same, Offsets.resourceOf] at innermost
  rw [List.filter_cons_of_pos (by simp [innermost]), List.filter_cons_of_pos (by simp [innermostApart, same])] at paths
  simp only [Site.innermost, split, splitApart, List.head?_cons, Option.getD_some]
  rw [(List.cons.inj paths).1]

open KeywordSite

section

variable (beside : Beside offsets site other assembly apart)
include beside

theorem innermost_eq_add_iff (index : Nat) :
    site.innermost.1 = index + offsets.resource ↔ other.innermost.1 = index + 1 := by
  rw [beside.stands.innermost_mem.1, beside.standsApart.innermost_mem.1, beside.twins.resource_eq]
  exact Offsets.resourceOf_eq_add_iff beside.relocates.around_lt

theorem innermost_eq_around_iff : site.innermost.1 = offsets.around ↔ other.innermost.1 = 0 := by
  rw [beside.stands.innermost_mem.1, beside.standsApart.innermost_mem.1, beside.twins.resource_eq]
  exact Offsets.resourceOf_eq_around_iff beside.relocates.around_lt

/-- A node is entered into an inner resource that was made apart as into that in place. -/
theorem relocates_enteredResource {index : Nat} {resource found : Resource}
    (relocates : resource.Relocates offsets apart.nodes.size found) :
    (site.enteredResource (index + offsets.resource) resource).Relocates offsets apart.nodes.size
      (other.enteredResource (index + 1) found) := by
  have anchors := congrArg Site.anchor beside.twins.marks
  have dynamicAnchors := congrArg Site.dynamicAnchor beside.twins.marks
  dsimp only [Site.marked] at anchors dynamicAnchors
  have least : other.node < apart.nodes.size := (Array.getElem?_eq_some_iff.mp beside.standsApart.started).1
  have locations : (site.paths.filter (·.1 = index + offsets.resource)).foldl
      (fun locations path => addEntry path.2 site.node locations) resource.locations =
        moveEntries offsets.node ((other.paths.filter (·.1 = index + 1)).foldl
          (fun locations path => addEntry path.2 other.node locations) found.locations) := by
    rw [beside.twins.filter_eq, List.foldl_map, beside.twins.node_eq, relocates.locations_eq]
    exact foldl_addEntry_moveEntries _ _
  have locationsLt := snd_lt_of_mem_foldl_addEntry least (other.paths.filter (·.1 = index + 1)) relocates.locations_lt
  unfold enteredResource
  by_cases here : other.innermost.1 = index + 1
  · rw [if_pos here, if_pos ((innermost_eq_add_iff beside index).mpr here)]
    have inner : other.resource ≠ 0 := by
      rw [← beside.standsApart.innermost_mem.1, here]
      exact Nat.succ_ne_zero index
    have root := beside.twins.innermost_eq beside.stands.innermost beside.standsApart.innermost inner
    refine ⟨relocates.id_eq, relocates.dialect_eq, ?_, ?_, ?_, locations, ?_, ?_, ?_, locationsLt⟩
    · simp only [enterNode, root]
      split
      · exact beside.twins.node_eq
      · exact relocates.node_eq
    · simp only [enterNode, anchors, beside.twins.node_eq]
      split
      · rw [relocates.anchors_eq, putEntry_moveEntries]
      · exact relocates.anchors_eq
    · simp only [enterNode, dynamicAnchors, beside.twins.node_eq]
      split
      · rw [relocates.dynamicAnchors_eq, putEntry_moveEntries]
      · exact relocates.dynamicAnchors_eq
    · simp only [enterNode]
      split
      · exact least
      · exact relocates.node_lt
    · simp only [enterNode]
      split
      · exact snd_lt_of_mem_putEntry least relocates.anchors_lt
      · exact relocates.anchors_lt
    · simp only [enterNode]
      split
      · exact snd_lt_of_mem_putEntry least relocates.dynamicAnchors_lt
      · exact relocates.dynamicAnchors_lt
  · rw [if_neg here, if_neg (fun inPlace => here ((innermost_eq_add_iff beside index).mp inPlace))]
    exact { relocates with locations_eq := locations, locations_lt := locationsLt }

/-- The resource around still stands in for that of the whole document when a node is entered. -/
theorem standsIn_enteredResource {outer first : Resource} (found : apart.resources[0]? = some first)
    (standsIn : outer.StandsIn first) :
    (site.enteredResource offsets.around outer).StandsIn (other.enteredResource 0 first) := by
  have dynamicAnchors := congrArg Site.dynamicAnchor beside.twins.marks
  dsimp only [Site.marked] at dynamicAnchors
  unfold enteredResource
  by_cases here : other.innermost.1 = 0
  · rw [if_pos here, if_pos ((innermost_eq_around_iff beside).mpr here)]
    refine ⟨standsIn.id_eq, standsIn.dialect_eq, ?_, ?_⟩
    · obtain ⟨own, foundOwn, -, root⟩ := beside.standsApart.base
      rw [← beside.standsApart.innermost_mem.1, here, found] at foundOwn
      simp only [enterNode]
      split
      · next isRoot => rw [← root isRoot, ← Option.some.inj foundOwn, standsIn.node_eq]
      · exact standsIn.node_eq
    intro name
    simp only [enterNode, dynamicAnchors]
    split
    · next anchor _ =>
      by_cases same : name = anchor
      · simp [same, assoc?_putEntry_self]
      · simpa [assoc?_putEntry_of_ne same] using standsIn.dynamic name
    · exact standsIn.dynamic name
  · rw [if_neg here, if_neg (fun inPlace => here ((innermost_eq_around_iff beside).mp inPlace))]
    exact ⟨standsIn.id_eq, standsIn.dialect_eq, standsIn.node_eq, standsIn.dynamic⟩

/-- A node is finished apart as in place. -/
theorem relocates_finish {value : Json} {shape : Shape} {done : Unit}
    (least : ∀ rule ∈ (other.finishedNode value shape).rules, ∀ number ∈ rule.subschemas, number < apart.nodes.size)
    (yields : Yields (site.finish value (shape.rename (· + offsets.node))) assembly done after) :
    ∃ last, Yields (other.finish value shape) apart ⟨⟩ last ∧ after.Relocates offsets last := by
  have relocates := beside.relocates
  obtain ⟨bound, -⟩ := Array.getElem?_eq_some_iff.mp beside.standsApart.started
  obtain ⟨last, yieldsApart⟩ : ∃ last, Yields (other.finish value shape) apart ⟨⟩ last := ⟨_, yields_modify.mpr rfl⟩
  refine ⟨last, yieldsApart, ?_⟩
  obtain rfl := yields_finish.mp yields
  obtain rfl := yields_finish.mp yieldsApart
  refine ⟨?_, ?_, ?_, ?_, relocates.around_lt, ?_, ?_, relocates.taken⟩
  · simp only [Array.size_setIfInBounds]
    exact relocates.size
  · intro index found present
    simp only [Array.getElem?_setIfInBounds, Array.size_setIfInBounds, Array.size_mapIdx, beside.twins.node_eq,
      relocates.size, Nat.add_left_inj, Nat.add_lt_add_iff_right] at present ⊢
    by_cases own : other.node = index
    · rw [if_pos own, if_pos (own ▸ bound)] at present ⊢
      obtain rfl := Option.some.inj (Option.some.inj present)
      obtain ⟨first, foundFirst, -⟩ := beside.standsApart.base
      refine ⟨_, rfl, rfl, rfl, ?_, ?_, least⟩
      · simp only [finishedNode]
        rw [beside.stands.innermost_mem.1, beside.standsApart.innermost_mem.1]
        exact beside.twins.resource_eq
      · simp only [finishedNode]
        rw [beside.standsApart.innermost_mem.1]
        exact (Array.getElem?_eq_some_iff.mp foundFirst).1
    · rw [if_neg own] at present ⊢
      exact relocates.nodes index found present
  · simp only [Array.size_mapIdx]
    exact relocates.resources_size
  · intro index found present
    simp only [Array.size_setIfInBounds]
    obtain ⟨earlier, before, rfl⟩ := Option.map_eq_some_iff.mp (Array.getElem?_mapIdx.symm.trans present)
    obtain ⟨resource, foundPlace, moved⟩ := relocates.resources index earlier before
    exact ⟨_, Array.getElem?_mapIdx.trans (by rw [foundPlace]; rfl), relocates_enteredResource beside moved⟩
  · obtain ⟨outer, first, foundOuter, foundFirst, standsIn⟩ := relocates.around
    exact ⟨_, _, Array.getElem?_mapIdx.trans (by rw [foundOuter]; rfl),
      Array.getElem?_mapIdx.trans (by rw [foundFirst]; rfl),
      standsIn_enteredResource beside foundFirst standsIn⟩
  · intro url index named
    simp only [Array.size_mapIdx]
    exact relocates.ids url index named

end

/-! ## Nodes apart -/

variable {options : Options} {registered : Bool}

theorem relocates_push (relocates : assembly.Relocates offsets apart) :
    ({ assembly with nodes := assembly.nodes.push none } : Assembly).Relocates offsets
      { apart with nodes := apart.nodes.push none } where
  size := by
    have sizes := relocates.size
    simp only [Array.size_push]
    omega
  nodes index found present := by
    obtain ⟨node, foundPlace, moved⟩ := relocates.nodes index found (getElem?_of_push_none present)
    exact ⟨node, getElem?_push_of_eq_some foundPlace _, moved.mono (by simp) le_rfl⟩
  resources_size := relocates.resources_size
  resources index found present := by
    obtain ⟨resource, foundPlace, moved⟩ := relocates.resources index found present
    exact ⟨resource, foundPlace, moved.mono (by simp)⟩
  around_lt := relocates.around_lt
  around := relocates.around
  ids := relocates.ids
  taken := relocates.taken

/-- A node that declares no id of a document is made apart as in place. -/
theorem relocates_compileNode (only : options.KnowsOnlyDraft) {depth limit : Nat}
    (below : RelocatesBelow options registered offsets (compileWithin options registered depth)
      (compileWithin options false limit) limit) {value : Json} {number : Nat} (flat : value.depth ≤ limit)
    (inner : value.declaresId = true → apart.nodes.size ≠ 0) (relocates : assembly.Relocates offsets apart)
    (moved : site.Relocates offsets other) (awaits : site.Awaits assembly) (sound : assembly.Sound)
    (awaitsApart : other.Awaits apart) (soundApart : apart.Sound)
    (yields : Yields (compileWithin options registered (depth + 1) site value) assembly number after) :
    ∃ last, Yields (compileWithin options false (limit + 1) other value) apart apart.nodes.size last ∧
      number = apart.nodes.size + offsets.node ∧ apart.nodes.size < last.nodes.size ∧ after.Relocates offsets last := by
  obtain ⟨rfl, ⟨final, shape⟩, shaped, yieldsShape, yieldsFinish⟩ := yields_compileNode.mp yields
  have beside : Beside offsets (site.start assembly.nodes.size) (other.start apart.nodes.size)
      { assembly with nodes := assembly.nodes.push none } { apart with nodes := apart.nodes.push none } :=
    ⟨moved.start relocates.size, relocates_push relocates, awaits, sound.push, awaitsApart, soundApart.push⟩
  obtain ⟨⟨finalApart, shapeApart⟩, middle, shapesApart, besideFinal, renamed, least, same⟩ :=
    relocates_compileShape only below flat inner beside yieldsShape
  dsimp only at renamed same besideFinal
  rw [renamed] at yieldsFinish
  obtain ⟨last, finishesApart, relocatesLast⟩ := relocates_finish besideFinal least yieldsFinish
  obtain ⟨bound, -⟩ := Array.getElem?_eq_some_iff.mp besideFinal.standsApart.started
  refine ⟨last, ?_, relocates.size, ?_, relocatesLast⟩
  · exact yields_compileNode.mpr ⟨rfl, _, middle, shapesApart, finishesApart⟩
  · obtain rfl := yields_finish.mp finishesApart
    rw [same] at bound
    simpa [start] using bound

theorem relocatesBelow_compileWithin (only : options.KnowsOnlyDraft) (offsets : Offsets) (depth limit : Nat) :
    RelocatesBelow options registered offsets (compileWithin options registered depth)
      (compileWithin options false limit) limit := by
  refine ⟨continuesBelow_compileWithin only depth, continuesBelow_compileWithin only limit, ?_⟩
  induction depth generalizing limit with
  | zero => exact fun _ _ _ _ _ _ _ _ _ _ _ _ _ _ _ yields => absurd yields yields_throw
  | succ depth ih =>
    intro site other value assembly apart after number flat moved relocates awaits sound awaitsApart soundApart positive
      yields
    cases limit with
    | zero => exact absurd flat (Nat.not_lt_zero _)
    | succ limit =>
      obtain ⟨last, yieldsApart, made⟩ := relocates_compileNode only
        ⟨continuesBelow_compileWithin only depth, continuesBelow_compileWithin only limit, ih limit⟩
        (Nat.le_of_lt_succ flat) (fun _ => positive.ne') relocates moved awaits sound awaitsApart soundApart yields
      exact ⟨_, last, yieldsApart, made⟩

theorem relocates_root (awaits : site.Awaits assembly) :
    site.Relocates (site.offsets assembly) (.root Draft.dialect site.base) := by
  refine ⟨rfl, rfl, ?_⟩
  have outside (path : Nat × Pointer) (member : path ∈ site.paths) : path.1 < assembly.resources.size := by
    obtain ⟨resource, found, -⟩ := awaits.around path member
    exact (Array.getElem?_eq_some_iff.mp found).1
  rw [List.filter_eq_nil_iff.mpr]
  · rfl
  · exact fun path member inside => absurd (of_decide_eq_true inside) (Nat.not_le.mpr (outside path member))

theorem relocates_start (awaits : site.Awaits assembly) (sound : assembly.Sound) (dialects : DialectCache) :
    assembly.Relocates (site.offsets assembly) (.start Draft.dialect site.base false dialects) := by
  obtain ⟨resource, found, id, -⟩ := awaits.base
  refine ⟨(Nat.zero_add _).symm, fun index node present => (by cases present), Nat.add_comm _ _, ?_, ?_, ?_, ?_, ?_⟩
  · exact fun index other present => by cases present
  · exact (Array.getElem?_eq_some_iff.mp found).1
  · exact ⟨resource, _, found, rfl, id, sound.drafted _ _ found, rfl, fun name declared => (by cases declared)⟩
  · exact fun url index named => by cases named
  · exact List.nil_subset _

theorem sound_start (base : Url) (registered : Bool) (dialects : DialectCache) :
    (Assembly.start Draft.dialect base registered dialects).Sound := by
  constructor
  · intro id index named
    cases registered with
    | false => cases named
    | true =>
      simp only [Assembly.start, if_pos, assoc?] at named ⊢
      split at named
      · next same => exact same ▸ List.mem_cons_self
      · cases named
  · intro index resource found
    cases index with
    | zero =>
      obtain rfl := Option.some.inj found
      rfl
    | succ index => cases found
  · intro index resource found
    cases index with
    | zero =>
      obtain rfl := Option.some.inj found
      exact fun entry member => absurd member List.not_mem_nil
    | succ index => cases found

theorem awaits_root (base : Url) (registered : Bool) (dialects : DialectCache) :
    (Site.root Draft.dialect base).Awaits (.start Draft.dialect base registered dialects) := by
  refine ⟨rfl, rfl, fun _ => rfl, rfl, ?_, _, rfl, rfl, fun _ => rfl⟩
  intro path member
  rw [List.mem_singleton.mp member]
  exact ⟨_, rfl, rfl⟩

/-- A value that declares no id is compiled apart as it is compiled in place. -/
theorem relocates_compileWithin (only : options.KnowsOnlyDraft) {depth : Nat} {value : Json} {number : Nat}
    (plain : value.declaresId = false) (awaits : site.Awaits assembly) (sound : assembly.Sound)
    (dialects : DialectCache)
    (yields : Yields (compileWithin options registered depth site value) assembly number after) :
    ∃ last, Yields (compileWithin options false (value.depth + 1) (.root Draft.dialect site.base) value)
        (.start Draft.dialect site.base false dialects) 0 last ∧
      after.Relocates (site.offsets assembly) last := by
  cases depth with
  | zero => exact absurd yields yields_throw
  | succ depth =>
    obtain ⟨last, yieldsApart, -, -, relocates⟩ := relocates_compileNode only
      (relocatesBelow_compileWithin only _ depth value.depth) le_rfl (fun declares => absurd declares (by simp [plain]))
      (relocates_start awaits sound dialects) (relocates_root awaits) awaits sound (awaits_root _ _ _)
      (sound_start _ _ _) yields
    exact ⟨last, yieldsApart, relocates⟩

end Site

end JsonSchema
