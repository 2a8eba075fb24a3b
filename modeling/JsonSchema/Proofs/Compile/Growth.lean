import JsonSchema.Proofs.Compile.Slots
import JsonSchema.Proofs.Draft.Rules

/-! # How documents grow

While a document is compiled, what is finished stays as it is: a finished node is never touched again, a resource whose
root is finished is closed, and an id that can be found stays found (`Assembly.Grows`). Every node of the finished
document was made by a compilation of its own, from which the document has grown (`Site.extends_compileWithin`).
This is about documents of the draft, where an id is declared before any sub-schema is compiled.
-/

namespace JsonSchema

open Compile

theorem getElem?_push_of_eq_some {α : Type _} {array : Array α} {index : Nat} {item : α}
    (found : array[index]? = some item) (last : α) : (array.push last)[index]? = some item := by
  obtain ⟨bound, same⟩ := Array.getElem?_eq_some_iff.mp found
  rw [Array.getElem?_push_lt bound, same]

/-- What is found in an array with a new last item is that item, or it was found before. -/
theorem eq_or_of_getElem?_push {α : Type _} {array : Array α} {index : Nat} {item last : α}
    (found : (array.push last)[index]? = some item) : index = array.size ∧ item = last ∨ array[index]? = some item := by
  rw [Array.getElem?_push] at found
  split at found
  · next own => exact .inl ⟨own, (Option.some.inj found).symm⟩
  · exact .inr found

theorem getElem?_of_push_none {α : Type _} {array : Array (Option α)} {index : Nat} {item : α}
    (found : (array.push none)[index]? = some (some item)) : array[index]? = some (some item) :=
  (eq_or_of_getElem?_push found).resolve_left fun last => nomatch last.2

theorem getElem?_modify_zero {α : Type _} (array : Array α) (change : α → α) (index : Nat) :
    (array.modify 0 change)[index]? = (array[index]?).map fun item => if index = 0 then change item else item := by
  rw [Array.getElem?_modify]
  by_cases first : index = 0
  · simp [first]
  · simp [first, Ne.symm first]

section Slots

variable {α : Type _} {slots : Array (Option α)} {place index : Nat} {item last : α}

theorem getElem?_setIfInBounds_of_free (free : slots[place]? = some none) (found : slots[index]? = some (some item))
    (filled : Option α) : (slots.setIfInBounds place filled)[index]? = some (some item) := by
  have other : place ≠ index := by
    rintro rfl
    rw [free] at found
    cases found
  rw [Array.getElem?_setIfInBounds_ne other, found]

theorem getElem?_setIfInBounds_self_of_free (free : slots[place]? = some none) (last : α) :
    (slots.setIfInBounds place (some last))[place]? = some (some last) :=
  Array.getElem?_setIfInBounds_self_of_lt (Array.getElem?_eq_some_iff.mp free).1

/-- What is found in slots of which one was filled is what fills it, or it was found before. -/
theorem eq_or_of_getElem?_setIfInBounds
    (found : (slots.setIfInBounds place (some last))[index]? = some (some item)) :
    index = place ∧ item = last ∨ slots[index]? = some (some item) := by
  rw [Array.getElem?_setIfInBounds] at found
  split at found
  · next own =>
    split at found
    · exact .inl ⟨own.symm, (Option.some.inj (Option.some.inj found)).symm⟩
    · cases found
  · exact .inr found

end Slots

/-- Whether a resource keeps what identifies it, and the dynamic anchors that it has. -/
structure Resource.Becomes (resource later : Resource) : Prop where
  id_eq : later.id = resource.id
  node_eq : later.node = resource.node
  dialect_eq : later.dialect = resource.dialect
  dynamic : ∀ name, (assoc? name resource.dynamicAnchors).isSome → (assoc? name later.dynamicAnchors).isSome

theorem Resource.Becomes.refl (resource : Resource) : resource.Becomes resource :=
    ⟨rfl, rfl, rfl, fun _ declared => declared⟩

theorem Resource.Becomes.trans {resource later last : Resource} (first : resource.Becomes later)
    (second : later.Becomes last) : resource.Becomes last :=
  ⟨second.id_eq.trans first.id_eq, second.node_eq.trans first.node_eq, second.dialect_eq.trans first.dialect_eq,
    fun name declared => second.dynamic name (first.dynamic name declared)⟩

namespace Assembly

/-- Whether an assembly goes on from another one: what is finished stays. -/
structure Grows (before after : Assembly) : Prop where
  finished : ∀ (index : Nat) (node : Node), before.nodes[index]? = some (some node) →
    after.nodes[index]? = some (some node)
  /-- A resource is closed when its root is finished. -/
  closed : ∀ (index : Nat) (resource : Resource) (node : Node), before.resources[index]? = some resource →
    before.nodes[resource.node]? = some (some node) → after.resources[index]? = some resource
  becomes : ∀ (index : Nat) (resource : Resource), before.resources[index]? = some resource →
    ∃ later, after.resources[index]? = some later ∧ resource.Becomes later
  ids : ∀ (id : Url) (index : Nat), assoc? id before.ids = some index → assoc? id after.ids = some index
  taken : before.taken ⊆ after.taken

theorem Grows.refl (assembly : Assembly) : assembly.Grows assembly :=
  ⟨fun _ _ found => found, fun _ _ _ found _ => found, fun _ resource found => ⟨resource, found, .refl resource⟩,
    fun _ _ found => found, fun _ member => member⟩

theorem Grows.trans {before between after : Assembly} (first : before.Grows between) (second : between.Grows after) :
    before.Grows after where
  finished index node found := second.finished index node (first.finished index node found)
  closed index resource node found finished :=
    second.closed index resource node (first.closed index resource node found finished)
      (first.finished resource.node node finished)
  becomes index resource found := by
    obtain ⟨later, foundLater, becomes⟩ := first.becomes index resource found
    obtain ⟨last, foundLast, becomesLast⟩ := second.becomes index later foundLater
    exact ⟨last, foundLast, becomes.trans becomesLast⟩
  ids id index found := second.ids id index (first.ids id index found)
  taken := fun _ member => second.taken (first.taken member)

/-- What holds of every assembly of the draft. -/
structure Sound (assembly : Assembly) : Prop where
  taken : ∀ (id : Url) (index : Nat), assoc? id assembly.ids = some index → id ∈ assembly.taken
  drafted : ∀ (index : Nat) (resource : Resource), assembly.resources[index]? = some resource →
    resource.dialect = Draft.dialect
  /-- A node with an anchor is entered only when it is finished, and only into its own resource. -/
  anchored : ∀ (index : Nat) (resource : Resource), assembly.resources[index]? = some resource →
    ∀ entry ∈ resource.anchors ++ resource.dynamicAnchors,
      ∃ node, assembly.nodes[entry.2]? = some (some node) ∧ node.resource = index

theorem Sound.push {assembly : Assembly} (sound : assembly.Sound) :
    ({ assembly with nodes := assembly.nodes.push none } : Assembly).Sound where
  taken := sound.taken
  drafted := sound.drafted
  anchored index resource found entry member := by
    obtain ⟨node, finished, own⟩ := sound.anchored index resource found entry member
    exact ⟨node, getElem?_push_of_eq_some finished none, own⟩

theorem Sound.modify_dialect {assembly : Assembly} (sound : assembly.Sound) (index : Nat) :
    (assembly.resources.modify index fun resource => { resource with dialect := Draft.dialect }) = assembly.resources := by
  refine Array.ext_getElem? fun other => ?_
  rw [Array.getElem?_modify]
  split
  · cases found : assembly.resources[other]? with
    | none => rfl
    | some resource =>
      rw [Option.map_some, ← sound.drafted other resource found]
      cases resource
      rfl
  · rfl

end Assembly

/-- Whether an assembly is one in which the node of a site is being compiled: the node and the roots of all resources
around it are started but not finished. -/
structure Site.Stands (site : Site) (assembly : Assembly) : Prop where
  started : assembly.nodes[site.node]? = some none
  drafted : site.dialect = Draft.dialect
  document : site.node = 0 → site.resource = 0
  innermost : site.paths.head?.map (·.1) = some site.resource
  around : ∀ path ∈ site.paths, ∃ resource, assembly.resources[path.1]? = some resource ∧
    assembly.nodes[resource.node]? = some none
  base : ∃ resource, assembly.resources[site.resource]? = some resource ∧ resource.id = site.base ∧
    (site.innermost.2.isRoot = true → resource.node = site.node)

/-- Whether an assembly is one in which a node can be started at a site. -/
def Site.Awaits (site : Site) (assembly : Assembly) : Prop :=
  (site.start assembly.nodes.size).Stands { assembly with nodes := assembly.nodes.push none }

namespace Assembly

/-- Whether a node was made by a compilation of its own, from which the assembly has grown. -/
def Made (options : Options) (registered : Bool) (assembly : Assembly) (index : Nat) (node : Node) : Prop :=
  ∃ depth site before after, Site.Awaits site before ∧ before.Sound ∧ before.nodes.size = index ∧
    Yields (Site.compileWithin options registered depth site node.value) before index after ∧ after.Grows assembly

/-- Whether an assembly has all nodes of another one and further nodes that are finished. -/
structure Extends (options : Options) (registered : Bool) (before after : Assembly) : Prop where
  sound : after.Sound
  size : before.nodes.size ≤ after.nodes.size
  older : ∀ index < before.nodes.size, after.nodes[index]? = before.nodes[index]?
  newer : ∀ index, before.nodes.size ≤ index → index < after.nodes.size →
    ∃ node, after.nodes[index]? = some (some node) ∧ after.Made options registered index node

/-- Whether an assembly goes on from another one by compiling sub-schemas. -/
structure Continues (options : Options) (registered : Bool) (before after : Assembly) : Prop
    extends Extends options registered before after, Grows before after

variable {options : Options} {registered : Bool} {before between after : Assembly}

theorem Made.grows {index : Nat} {node : Node} (made : before.Made options registered index node)
    (grows : before.Grows after) : after.Made options registered index node := by
  obtain ⟨depth, site, start, stop, awaits, sound, size, yields, grown⟩ := made
  exact ⟨depth, site, start, stop, awaits, sound, size, yields, grown.trans grows⟩

theorem Continues.refl (sound : before.Sound) : Continues options registered before before where
  toGrows := .refl before
  sound := sound
  size := le_refl _
  older _ _ := rfl
  newer index least bound := absurd bound (by omega)

theorem Extends.trans (first : Extends options registered before between)
    (second : Continues options registered between after) : Extends options registered before after where
  sound := second.sound
  size := first.size.trans second.size
  older index bound := (second.older index (bound.trans_le first.size)).trans (first.older index bound)
  newer index least bound := by
    by_cases early : index < between.nodes.size
    · obtain ⟨node, found, made⟩ := first.newer index least early
      exact ⟨node, second.finished index node found, made.grows second.toGrows⟩
    · exact second.newer index (by omega) bound

theorem Continues.trans (first : Continues options registered before between)
    (second : Continues options registered between after) : Continues options registered before after :=
  { first.toExtends.trans second, first.toGrows.trans second.toGrows with }

end Assembly

namespace Site

variable {options : Options} {registered : Bool} {site : Site} {before after : Assembly}

theorem Stands.pos (stands : site.Stands before) : 0 < before.nodes.size := by
  obtain ⟨bound, -⟩ := Array.getElem?_eq_some_iff.mp stands.started
  exact Nat.zero_lt_of_lt bound

theorem Stands.continues (stands : site.Stands before)
    (continues : Assembly.Continues options registered before after) : site.Stands after := by
  have unfinished {index : Nat} (started : before.nodes[index]? = some none) : after.nodes[index]? = some none := by
    obtain ⟨bound, -⟩ := Array.getElem?_eq_some_iff.mp started
    rw [continues.older index bound, started]
  refine ⟨unfinished stands.started, stands.drafted, stands.document, stands.innermost, ?_, ?_⟩
  · intro path member
    obtain ⟨resource, found, started⟩ := stands.around path member
    obtain ⟨later, foundLater, becomes⟩ := continues.becomes path.1 resource found
    exact ⟨later, foundLater, by rw [becomes.node_eq]; exact unfinished started⟩
  · obtain ⟨resource, found, id, root⟩ := stands.base
    obtain ⟨later, foundLater, becomes⟩ := continues.becomes site.resource resource found
    exact ⟨later, foundLater, becomes.id_eq.trans id, fun isRoot => becomes.node_eq.trans (root isRoot)⟩

theorem Stands.marked (stands : site.Stands before) (other : Site) : (site.marked other).Stands before :=
  ⟨stands.started, stands.drafted, stands.document, stands.innermost, stands.around, stands.base⟩

/-- A node can be started anywhere below a site. -/
theorem Stands.descend (stands : site.Stands before) {tokens : List String} (further : tokens ≠ []) :
    (site.descend tokens).Awaits before := by
  refine ⟨Array.getElem?_push_size, stands.drafted, ?_, ?_, ?_, ?_⟩
  · intro zero
    exact absurd zero stands.pos.ne'
  · have mapped := stands.innermost
    cases paths : site.paths with
    | nil => simp [paths] at mapped
    | cons first rest => simpa [start, Site.descend, paths] using mapped
  · intro path member
    obtain ⟨outer, inside, rfl⟩ := List.mem_map.mp member
    obtain ⟨resource, found, started⟩ := stands.around outer inside
    exact ⟨resource, found, getElem?_push_of_eq_some started none⟩
  · obtain ⟨resource, found, id, -⟩ := stands.base
    refine ⟨resource, found, id, fun isRoot => absurd isRoot ?_⟩
    have mapped := stands.innermost
    cases paths : site.paths with
    | nil => simp [paths] at mapped
    | cons first rest =>
      simp [start, Site.descend, Site.innermost, paths, Pointer.isRoot, Pointer.append, further]

end Site

namespace KeywordSite

open Site

variable {options : Options} {registered : Bool} {place : KeywordSite} {before after : Assembly}

/-- Whether compiling sub-schemas makes nodes in order and keeps what is there. -/
def ContinuesBelow (options : Options) (registered : Bool) (sub : Site → Json → Compile Nat) : Prop :=
  ∀ (site : Site) value before number after, site.Awaits before → before.Sound → 0 < before.nodes.size →
    Yields (sub site value) before number after → Assembly.Continues options registered before after

variable {sub : Site → Json → Compile Nat} (below : ContinuesBelow options registered sub)
include below

theorem continues_compileSlots {slots : List (List String × Json)} {numbers : List Nat}
    (stands : place.site.Stands before) (sound : before.Sound)
    (yields : Yields (place.compileSlots sub slots) before numbers after) :
    Assembly.Continues options registered before after := by
  induction slots generalizing before numbers with
  | nil =>
    obtain ⟨-, rfl⟩ := yields_compileSlots_nil.mp yields
    exact .refl sound
  | cons slot slots ih =>
    obtain ⟨number, rest, between, rfl, first, others⟩ := yields_compileSlots_cons.mp yields
    have continues := below _ _ _ _ _ (stands.descend (List.cons_ne_nil _ _)) sound stands.pos first
    exact continues.trans (ih (stands.continues continues) continues.sound others)

/-- A keyword that is no id does nothing but compile sub-schemas. -/
theorem continues_compile {meaning : StandardKeyword} {value : Json} {result : Site × Option Rule}
    (other : meaning ≠ .id) (stands : place.site.Stands before) (sound : before.Sound)
    (yields : Yields (place.compile registered sub meaning value) before result after) :
    Assembly.Continues options registered before after ∧ result.1.Stands after ∧
      result.1.node = place.site.node := by
  obtain ⟨marked, numbers, slots, -⟩ := fillsSlots meaning value other _ _ _ _ _ _ yields
  have continues := continues_compileSlots below stands sound slots
  exact ⟨continues, marked ▸ (stands.marked result.1).continues continues, marked ▸ rfl⟩

omit below

/-- What declaring an id does: the site is that of a resource with this id, and no node is touched. Only the id of the
document itself may change. -/
structure Declares (site : Site) (before : Assembly) (declared : Site) (after : Assembly) : Prop where
  nodes_eq : after.nodes = before.nodes
  node_eq : declared.node = site.node
  sound : after.Sound
  stands : declared.Stands after
  grows : site.node ≠ 0 → before.Grows after

theorem yields_takeId {id : Url} {done : Unit} :
    Yields (place.takeId id) before done after ↔
      id ∉ before.taken ∧ after = { before with taken := id :: before.taken } := by
  rw [takeId, yields_bind]
  constructor
  · rintro ⟨assembly, between, got, yields⟩
    obtain ⟨rfl, rfl⟩ := yields_get.mp got
    dsimp only at yields
    split at yields
    · obtain ⟨_, _, thrown, -⟩ := yields_bind.mp yields
      exact absurd thrown yields_throw
    · next free => exact ⟨by simpa using free, (yields_set.mp yields).symm⟩
  · rintro ⟨free, rfl⟩
    refine ⟨before, before, yields_get.mpr ⟨rfl, rfl⟩, ?_⟩
    dsimp only
    rw [if_neg (by simpa using free)]
    exact yields_set.mpr rfl

theorem yields_startResource {id : Url} {started : Site} :
    Yields (place.startResource id) before started after ↔ id ∉ before.taken ∧
      { place.site with
        resource := before.resources.size
        paths := (before.resources.size, .root) :: place.site.paths } = started ∧
      { before with
        taken := id :: before.taken
        ids := putEntry id before.resources.size before.ids
        resources := before.resources.push
          ⟨id, place.site.node, some place.site.resource, place.site.dialect, [], [], []⟩ } = after := by
  constructor
  · intro yields
    obtain ⟨done, between, took, yields⟩ := yields_bind.mp yields
    obtain ⟨free, rfl⟩ := yields_takeId.mp took
    obtain ⟨current, between, got, yields⟩ := yields_bind.mp yields
    obtain ⟨rfl, rfl⟩ := yields_get.mp got
    obtain ⟨done, between, modified, made⟩ := yields_bind.mp yields
    obtain rfl := yields_modify.mp modified
    obtain ⟨rfl, rfl⟩ := yields_pure.mp made
    exact ⟨free, rfl, rfl⟩
  · rintro ⟨free, rfl, rfl⟩
    exact yields_bind.mpr ⟨⟨⟩, _, yields_takeId.mpr ⟨free, rfl⟩, yields_bind.mpr ⟨_, _, yields_get.mpr ⟨rfl, rfl⟩,
      yields_bind.mpr ⟨⟨⟩, _, yields_modify.mpr rfl, yields_pure.mpr ⟨rfl, rfl⟩⟩⟩⟩

theorem Sound.declare {id : Url} {index : Nat} (sound : before.Sound) (other : Url) (found : Nat)
    (named : assoc? other (putEntry id index before.ids) = some found) : other ∈ id :: before.taken := by
  by_cases same : other = id
  · exact same ▸ List.mem_cons_self
  · rw [assoc?_putEntry_of_ne same] at named
    exact List.mem_cons_of_mem _ (sound.taken other found named)

theorem declares_startResource {id : Url} {started : Site} (stands : place.site.Stands before) (sound : before.Sound)
    (inner : place.site.node ≠ 0) (yields : Yields (place.startResource id) before started after) :
    Declares place.site before { started with base := id } after := by
  obtain ⟨free, rfl, rfl⟩ := yields_startResource.mp yields
  refine ⟨rfl, rfl, ⟨Sound.declare sound, ?_, ?_⟩, ⟨stands.started, stands.drafted, ?_, rfl, ?_, ?_⟩, ?_⟩
  · intro index resource found
    rcases eq_or_of_getElem?_push found with ⟨-, rfl⟩ | earlier
    · exact stands.drafted
    · exact sound.drafted index resource earlier
  · intro index resource found
    rcases eq_or_of_getElem?_push found with ⟨-, rfl⟩ | earlier
    · exact fun entry member => absurd member List.not_mem_nil
    · exact sound.anchored index resource earlier
  · exact fun zero => absurd zero inner
  · intro path member
    rcases List.mem_cons.mp member with rfl | member
    · exact ⟨_, Array.getElem?_push_size, stands.started⟩
    · obtain ⟨resource, found, unfinished⟩ := stands.around path member
      exact ⟨resource, getElem?_push_of_eq_some found _, unfinished⟩
  · exact ⟨_, Array.getElem?_push_size, rfl, fun _ => rfl⟩
  · intro _
    refine ⟨fun _ _ found => found, fun _ _ _ found _ => getElem?_push_of_eq_some found _,
      fun _ resource found => ⟨resource, getElem?_push_of_eq_some found _, .refl resource⟩, ?_,
      fun _ member => List.mem_cons_of_mem _ member⟩
    intro other index found
    have different : other ≠ id := fun same => free (same ▸ sound.taken other index found)
    rw [assoc?_putEntry_of_ne different]
    exact found

theorem declares_renameDocument {id : Url} {done : Unit} (stands : place.site.Stands before) (sound : before.Sound)
    (root : place.site.node = 0) (yields : Yields (place.renameDocument registered id) before done after) :
    Declares place.site before { place.site with base := id } after := by
  obtain ⟨resource, found, same, isRoot⟩ := stands.base
  rw [stands.document root] at found
  obtain ⟨assembly, between, got, yields⟩ := yields_bind.mp yields
  obtain ⟨rfl, rfl⟩ := yields_get.mp got
  rw [found, Option.any_some] at yields
  split at yields
  · obtain ⟨done, between, took, modified⟩ := yields_bind.mp yields
    obtain ⟨free, rfl⟩ := yields_takeId.mp took
    obtain rfl := yields_modify.mp modified
    have changed := getElem?_modify_zero before.resources fun resource => { resource with id }
    refine ⟨rfl, rfl, ⟨?_, ?_, ?_⟩, ⟨stands.started, stands.drafted, stands.document, stands.innermost, ?_, ?_⟩, ?_⟩
    · intro other index named
      dsimp only at named
      split at named
      · exact Sound.declare sound other index named
      · exact List.mem_cons_of_mem _ (sound.taken other index named)
    · intro index other inside
      dsimp only at inside
      rw [changed, Option.map_eq_some_iff] at inside
      obtain ⟨earlier, inside, rfl⟩ := inside
      split
      · exact sound.drafted index earlier inside
      · exact sound.drafted index earlier inside
    · intro index other inside
      dsimp only at inside
      rw [changed, Option.map_eq_some_iff] at inside
      obtain ⟨earlier, inside, rfl⟩ := inside
      split
      · exact sound.anchored index earlier inside
      · exact sound.anchored index earlier inside
    · intro path member
      obtain ⟨around, inside, unfinished⟩ := stands.around path member
      refine ⟨if path.1 = 0 then { around with id } else around, (changed path.1).trans (by rw [inside]; rfl), ?_⟩
      rw [show (if path.1 = 0 then { around with id } else around).node = around.node by split <;> rfl]
      exact unfinished
    · refine ⟨{ resource with id }, ?_, rfl, isRoot⟩
      dsimp only
      rw [stands.document root, changed, found]
      rfl
    · exact fun inner => absurd root inner
  · next unchanged =>
    obtain ⟨-, rfl⟩ := yields_pure.mp yields
    refine ⟨rfl, rfl, sound, ⟨stands.started, stands.drafted, stands.document, stands.innermost, stands.around, ?_⟩,
      fun _ => .refl before⟩
    refine ⟨resource, by rw [stands.document root]; exact found, by simpa using unchanged, isRoot⟩

/-- An id is declared without a node being touched. -/
theorem declares_compile {value : Json} {result : Site × Option Rule}
    (stands : place.site.Stands before) (sound : before.Sound)
    (yields : Yields (place.compile registered sub .id value) before result after) :
    Declares place.site before result.1 after := by
  obtain ⟨declared, between, declares, made⟩ := yields_bind.mp yields
  obtain ⟨rfl, rfl⟩ := yields_pure.mp made
  obtain ⟨id, start, read, goesOn⟩ := yields_bind.mp declares
  obtain ⟨-, rfl⟩ := yields_read.mp read
  by_cases root : place.site.node = 0
  · rw [if_pos root] at goesOn
    obtain ⟨done, between, renamed, kept⟩ := yields_bind.mp goesOn
    obtain ⟨rfl, rfl⟩ := yields_pure.mp kept
    exact declares_renameDocument stands sound root renamed
  · rw [if_neg root] at goesOn
    obtain ⟨started, between, starts, kept⟩ := yields_bind.mp goesOn
    obtain ⟨rfl, rfl⟩ := yields_pure.mp kept
    exact declares_startResource stands sound root starts

end KeywordSite

/-! ## Keywords in order -/

namespace Draft

/-- Whether an entry is for other uses than to identify a schema. -/
def isBehind (entry : KeywordEntry Json) : Bool := entry.spec.category != .identifier

theorem dependencies_of_identifier :
    ∀ spec ∈ dialect.keywords, spec.category = .identifier → spec.dependencies = [] := by
  rw [keywords_eq]
  decide +kernel

theorem order_lt_of_identifier : ∀ a ∈ dialect.keywords, ∀ b ∈ dialect.keywords,
    a.category ≠ .identifier → b.category = .identifier → b.order < a.order := by
  rw [keywords_eq]
  decide +kernel

/-- What identifies a schema comes first. -/
theorem pairwise_isBehind (members : List (String × Json)) :
    (KeywordEntry.inOrder (Site.knownMembers dialect members)).Pairwise fun a b =>
      isBehind a = true → isBehind b = true := by
  have layered : KeywordEntry.Layered waiting.idxOf isBehind (Site.knownMembers dialect members) := by
    refine ⟨layered_knownMembers.descends, ?_⟩
    intro entry member early other inside depends
    simp only [isBehind, bne_eq_false_iff_eq] at early
    rw [dependencies_of_identifier _ (mem_keywords_of_mem_knownMembers member) early] at depends
    exact absurd depends List.not_mem_nil
  refine KeywordEntry.pairwise_inOrder layered ?_
  intro a memberA b memberB behindA earlyB
  simp only [isBehind, bne_iff_ne, bne_eq_false_iff_eq] at behindA earlyB
  exact order_lt_of_identifier _ (mem_keywords_of_mem_knownMembers memberA) _
    (mem_keywords_of_mem_knownMembers memberB) behindA earlyB

/-- Behind an entry that is for other uses there is no id any more. -/
theorem ne_id_of_isBehind {entry : KeywordEntry Json} {entries : List (KeywordEntry Json)}
    (sorted : (entry :: entries).Pairwise fun a b => isBehind a = true → isBehind b = true)
    (meanings : ∀ other ∈ entry :: entries, other.spec.category = other.spec.meaning.category)
    (late : isBehind entry = true) : ∀ other ∈ entry :: entries, other.spec.meaning ≠ .id := by
  intro other member same
  have behind : isBehind other = true := by
    rcases List.mem_cons.mp member with rfl | member
    · exact late
    · exact List.rel_of_pairwise_cons sorted member late
  rw [isBehind, meanings other member, same] at behind
  exact absurd behind (by decide)

/-- A keyword that is compiled is a standard one and a member of the schema object. -/
theorem mem_of_mem_inOrder {members : List (String × Json)} {entry : KeywordEntry Json}
    (member : entry ∈ KeywordEntry.inOrder (Site.knownMembers dialect members)) :
    (entry.spec.keyword, entry.item) ∈ members ∧ entry.spec = .standard entry.spec.meaning := by
  have known := (KeywordEntry.inOrder_perm _).subset member
  refine ⟨?_, eq_standard_of_mem _ (mem_keywords_of_mem_knownMembers known)⟩
  obtain ⟨⟨name, value⟩, inside, made⟩ := List.mem_filterMap.mp known
  obtain ⟨⟨position, spec⟩, found, rfl⟩ := Option.map_eq_some_iff.mp made
  rw [(Dialect.mem_keywords_of_keyword? found).2]
  exact inside

end Draft

namespace Site

open KeywordSite

variable {options : Options} {registered : Bool} {site : Site} {before after : Assembly}
  {sub : Site → Json → Compile Nat} {result : Site × List Rule}

theorem yields_compileKeywords_nil :
    Yields (compileKeywords registered sub site []) before result after ↔ (site, []) = result ∧ before = after :=
  yields_pure

theorem yields_compileKeywords_cons {entry : KeywordEntry Json} {entries : List (KeywordEntry Json)} :
    Yields (compileKeywords registered sub site (entry :: entries)) before result after ↔
      ∃ first between rest, Yields ((KeywordSite.mk site entry.spec.keyword).compile registered sub entry.spec.meaning
          entry.item) before first between ∧
        Yields (compileKeywords registered sub first.1 entries) between rest after ∧
        result = (rest.1, first.2.toList ++ rest.2) := by
  rw [compileKeywords, yields_bind]
  constructor
  · rintro ⟨first, between, yields, others⟩
    obtain ⟨rest, stop, yieldsRest, made⟩ := yields_bind.mp others
    obtain ⟨rfl, rfl⟩ := yields_pure.mp made
    exact ⟨first, between, rest, yields, yieldsRest, rfl⟩
  · rintro ⟨first, between, rest, yields, yieldsRest, rfl⟩
    exact ⟨first, between, yields, yields_bind.mpr ⟨rest, after, yieldsRest, yields_pure.mpr ⟨rfl, rfl⟩⟩⟩

/-- Keywords that are no ids do nothing but compile sub-schemas. -/
theorem continues_compileKeywords (below : ContinuesBelow options registered sub) {entries : List (KeywordEntry Json)}
    (others : ∀ entry ∈ entries, entry.spec.meaning ≠ .id) (stands : site.Stands before) (sound : before.Sound)
    (yields : Yields (compileKeywords registered sub site entries) before result after) :
    Assembly.Continues options registered before after ∧ result.1.Stands after ∧ result.1.node = site.node := by
  induction entries generalizing site before result with
  | nil =>
    obtain ⟨rfl, rfl⟩ := yields_compileKeywords_nil.mp yields
    exact ⟨.refl sound, stands, rfl⟩
  | cons entry entries ih =>
    obtain ⟨first, between, rest, yieldsFirst, yieldsRest, rfl⟩ := yields_compileKeywords_cons.mp yields
    obtain ⟨continues, standsNext, same⟩ :=
      continues_compile below (others entry List.mem_cons_self) stands sound yieldsFirst
    obtain ⟨continuesRest, standsLast, sameLast⟩ :=
      ih (fun other member => others other (List.mem_cons_of_mem _ member))
      standsNext continues.sound yieldsRest
    exact ⟨continues.trans continuesRest, standsLast, sameLast.trans same⟩

theorem Declares.trans {between last : Assembly} {next final : Site} (first : Declares site before next between)
    (second : Declares next between final last) : Declares site before final last where
  nodes_eq := second.nodes_eq.trans first.nodes_eq
  node_eq := second.node_eq.trans first.node_eq
  sound := second.sound
  stands := second.stands
  grows inner := (first.grows inner).trans (second.grows (by rwa [first.node_eq]))

/-- Keywords that identify a schema have no slots. -/
theorem slots_of_identifier {meaning : StandardKeyword} (identifies : meaning.category = .identifier) (value : Json) :
    meaning.slots value = [] := by
  cases meaning <;> first | rfl | cases identifies

/-- A keyword that identifies a schema touches no node. -/
theorem declares_of_identifier {place : KeywordSite} {meaning : StandardKeyword} {value : Json}
    {result : Site × Option Rule} (identifies : meaning.category = .identifier) (stands : place.site.Stands before)
    (sound : before.Sound) (yields : Yields (place.compile registered sub meaning value) before result after) :
    Declares place.site before result.1 after := by
  by_cases id : meaning = .id
  · subst id
    exact declares_compile stands sound yields
  · obtain ⟨marked, numbers, slots, -⟩ := fillsSlots meaning value id _ _ _ _ _ _ yields
    rw [slots_of_identifier identifies] at slots
    obtain ⟨-, rfl⟩ := yields_compileSlots_nil.mp slots
    refine ⟨rfl, ?_, sound, marked ▸ stands.marked result.1, fun _ => .refl before⟩
    rw [← marked]
    rfl

/-- The keywords of a schema object first identify it, and then compile sub-schemas. -/
theorem extends_compileKeywords (below : ContinuesBelow options registered sub) {entries : List (KeywordEntry Json)}
    (sorted : entries.Pairwise fun a b => Draft.isBehind a = true → Draft.isBehind b = true)
    (meanings : ∀ entry ∈ entries, entry.spec.category = entry.spec.meaning.category)
    (stands : site.Stands before) (sound : before.Sound)
    (yields : Yields (compileKeywords registered sub site entries) before result after) :
    ∃ declared between, Declares site before declared between ∧ Assembly.Continues options registered between after ∧
      result.1.Stands after ∧ result.1.node = site.node := by
  induction entries generalizing site before result with
  | nil =>
    obtain ⟨rfl, rfl⟩ := yields_compileKeywords_nil.mp yields
    exact ⟨site, before, ⟨rfl, rfl, sound, stands, fun _ => .refl before⟩, .refl sound, stands, rfl⟩
  | cons entry entries ih =>
    have sortedRest := (List.pairwise_cons.mp sorted).2
    cases late : Draft.isBehind entry with
    | true =>
      have others := Draft.ne_id_of_isBehind sorted meanings late
      obtain ⟨continues, standsLast⟩ := continues_compileKeywords below others stands sound yields
      exact ⟨site, before, ⟨rfl, rfl, sound, stands, fun _ => .refl before⟩, continues, standsLast⟩
    | false =>
      obtain ⟨first, between, rest, yieldsFirst, yieldsRest, rfl⟩ := yields_compileKeywords_cons.mp yields
      have identifies : entry.spec.meaning.category = .identifier := by
        rw [← meanings entry List.mem_cons_self]
        simpa [Draft.isBehind] using late
      have declares := declares_of_identifier identifies stands sound yieldsFirst
      obtain ⟨declared, middle, declaresRest, continues, standsLast, same⟩ :=
        ih sortedRest (fun other member => meanings other (List.mem_cons_of_mem _ member)) declares.stands
          declares.sound yieldsRest
      exact ⟨declared, middle, Declares.trans declares declaresRest, continues, standsLast,
        same.trans declares.node_eq⟩

/-- Whether a value names the dialect of the draft. -/
def NamesDraft (value : Json) : Prop :=
  ∃ text url, value = .string text ∧ Url.parse text = .ok url ∧
    (Draft.dialect.id = url.withoutFragment ∨ Draft.dialect? url.withoutFragment = some Draft.dialect)

/-- A schema object can name no dialect but that of the draft. -/
theorem yields_namedDialect (only : options.KnowsOnlyDraft) (drafted : site.dialect = Draft.dialect) {value : Json}
    {dialect : Dialect} :
    Yields (site.namedDialect options value) before dialect after ↔
      NamesDraft value ∧ Draft.dialect = dialect ∧ before = after := by
  have unknown (id : Url) : libraryDialect? options id = pure none := by
    rw [libraryDialect?, only.dialects_eq]
  constructor
  · intro yields
    obtain ⟨text, start, read, named⟩ := yields_bind.mp yields
    obtain ⟨string, rfl⟩ := yields_read.mp read
    obtain ⟨id, middle, readId, known⟩ := yields_bind.mp named
    obtain ⟨parses, rfl⟩ := yields_read.mp readId
    obtain rfl : value = .string text := by
      cases value <;> first | exact congrArg Json.string (Except.ok.inj string) | cases string
    obtain ⟨url, parsed, rfl⟩ : ∃ url, Url.parse text = .ok url ∧ url.withoutFragment = id := by
      unfold dialectId at parses
      split at parses
      · next url parsed => exact ⟨url, parsed, Except.ok.inj parses⟩
      · cases parses
    rw [drafted, only.dialect_eq, unknown] at known
    split at known
    · next same =>
      obtain ⟨rfl, rfl⟩ := yields_pure.mp known
      exact ⟨⟨text, url, rfl, parsed, .inl same⟩, rfl, rfl⟩
    · obtain ⟨missing, stop, asked, searched⟩ := yields_bind.mp known
      obtain ⟨rfl, rfl⟩ := yields_pure.mp asked
      dsimp only at searched
      split at searched
      · next found =>
        obtain ⟨rfl, rfl⟩ := yields_pure.mp searched
        obtain rfl := Draft.eq_of_dialect? found
        exact ⟨⟨text, url, rfl, parsed, .inr found⟩, rfl, rfl⟩
      · rw [only.schemas_eq] at searched
        exact absurd searched yields_throw
  · rintro ⟨⟨text, url, rfl, parsed, named⟩, rfl, rfl⟩
    refine yields_bind.mpr ⟨text, before, yields_read.mpr ⟨rfl, rfl⟩, ?_⟩
    refine yields_bind.mpr ⟨url.withoutFragment, before, yields_read.mpr ⟨by rw [dialectId, parsed], rfl⟩, ?_⟩
    rw [drafted, only.dialect_eq, unknown]
    split
    · exact yields_pure.mpr ⟨rfl, rfl⟩
    · next other =>
      refine yields_bind.mpr ⟨none, before, yields_pure.mpr ⟨rfl, rfl⟩, ?_⟩
      dsimp only
      rw [named.resolve_left other]
      exact yields_pure.mpr ⟨rfl, rfl⟩

/-- Selecting a dialect changes nothing where there is only that of the draft. -/
theorem yields_selectDialect (only : options.KnowsOnlyDraft) {members : List (String × Json)} {selected : Site}
    (stands : site.Stands before) (sound : before.Sound) :
    Yields (site.selectDialect options members) before selected after ↔
      (∀ value ∈ assoc? StandardKeyword.schema.name members, NamesDraft value) ∧ site = selected ∧ before = after := by
  unfold selectDialect
  cases assoc? StandardKeyword.schema.name members with
  | none =>
    refine yields_pure.trans (and_iff_right fun value member => by cases member).symm
  | some value =>
    have same : { site with dialect := Draft.dialect } = site := by rw [← stands.drafted]
    have unchanged : { before with
        resources := before.resources.modify 0 fun resource => { resource with dialect := Draft.dialect } } =
          before := by
      rw [sound.modify_dialect]
    have marks : Yields (do
          if site.node = 0 then
            modify fun assembly => { assembly with
              resources := assembly.resources.modify 0 fun resource => { resource with dialect := Draft.dialect } }
          return { site with dialect := Draft.dialect }) before selected after ↔ site = selected ∧ before = after := by
      rw [same]
      split
      · constructor
        · intro yields
          obtain ⟨done, stop, modified, made⟩ := yields_bind.mp yields
          obtain rfl := yields_modify.mp modified
          obtain ⟨rfl, rfl⟩ := yields_pure.mp made
          exact ⟨rfl, unchanged.symm⟩
        · rintro ⟨rfl, rfl⟩
          exact yields_bind.mpr ⟨⟨⟩, before, yields_modify.mpr unchanged, yields_pure.mpr ⟨rfl, rfl⟩⟩
      · exact yields_pure
    rw [yields_bind]
    constructor
    · rintro ⟨dialect, middle, named, goesOn⟩
      obtain ⟨names, rfl, rfl⟩ := (yields_namedDialect only stands.drafted).mp named
      exact ⟨fun other member => Option.some.inj member ▸ names, marks.mp goesOn⟩
    · rintro ⟨names, kept⟩
      exact ⟨Draft.dialect, before,
        (yields_namedDialect only stands.drafted).mpr ⟨names value rfl, rfl, rfl⟩, marks.mpr kept⟩

/-- The members of a schema object first identify it, and then compile sub-schemas. -/
theorem extends_compileMembers (only : options.KnowsOnlyDraft) (below : ContinuesBelow options registered sub)
    {members : List (String × Json)} (stands : site.Stands before) (sound : before.Sound)
    (yields : Yields (site.compileMembers options registered sub members) before result after) :
    ∃ declared between, Declares site before declared between ∧ Assembly.Continues options registered between after ∧
      result.1.Stands after ∧ result.1.node = site.node := by
  obtain ⟨selected, start, selects, goesOn⟩ := yields_bind.mp yields
  obtain ⟨-, rfl, rfl⟩ := (yields_selectDialect only stands sound).mp selects
  obtain ⟨⟨final, rules⟩, stop, keywords, made⟩ := yields_bind.mp goesOn
  rw [stands.drafted] at keywords
  have meanings (entry : KeywordEntry Json)
      (member : entry ∈ KeywordEntry.inOrder (knownMembers Draft.dialect members)) :
      entry.spec.category = entry.spec.meaning.category := by
    rw [(Draft.mem_of_mem_inOrder member).2]
    rfl
  have extends_ := extends_compileKeywords below (Draft.pairwise_isBehind members) meanings stands sound keywords
  have same : result.1 = final ∧ stop = after := by
    dsimp only at made
    split at made
    · exact absurd made yields_throw
    · obtain ⟨rfl, rfl⟩ := yields_pure.mp made
      exact ⟨rfl, rfl⟩
    · obtain ⟨rfl, rfl⟩ := yields_pure.mp made
      exact ⟨rfl, rfl⟩
  rw [same.1, ← same.2]
  exact extends_

/-- The shape of a node is made by first identifying the schema, and then compiling sub-schemas. -/
theorem extends_compileShape (only : options.KnowsOnlyDraft) (below : ContinuesBelow options registered sub)
    {value : Json} {made : Site × Shape} (stands : site.Stands before) (sound : before.Sound)
    (yields : Yields (site.compileShape options registered sub value) before made after) :
    ∃ declared between, Declares site before declared between ∧ Assembly.Continues options registered between after ∧
      made.1.Stands after ∧ made.1.node = site.node := by
  cases value with
  | bool accepts =>
    obtain ⟨rfl, rfl⟩ := yields_pure.mp yields
    exact ⟨site, before, ⟨rfl, rfl, sound, stands, fun _ => .refl before⟩, .refl sound, stands, rfl⟩
  | object members =>
    obtain ⟨compiled, stop, yieldsMembers, shaped⟩ := yields_bind.mp yields
    obtain ⟨rfl, rfl⟩ := yields_pure.mp shaped
    exact extends_compileMembers only below stands sound yieldsMembers
  | _ => exact absurd yields yields_throw

/-! ## Finishing a node -/

/-- A node is entered into resources under its locations. -/
theorem getElem?_enterLocations (node : Nat) (paths : List (Nat × Pointer)) (resources : Array Resource) (index : Nat) :
    (paths.foldl (enterLocation node) resources)[index]? =
      (resources[index]?).map fun resource => { resource with
        locations := (paths.filter (·.1 = index)).foldl (fun locations path => addEntry path.2 node locations)
          resource.locations } := by
  induction paths generalizing resources with
  | nil =>
    rw [List.foldl_nil]
    cases resources[index]? with
    | none => rfl
    | some resource => cases resource; rfl
  | cons path paths ih =>
    rw [List.foldl_cons, ih, enterLocation, Array.getElem?_modify]
    by_cases here : path.1 = index
    · rw [if_pos here, Option.map_map, List.filter_cons_of_pos (by simpa using here)]
      rfl
    · rw [if_neg here, List.filter_cons_of_neg (by simpa using here)]

variable (site) in
theorem becomes_enterNode {resource : Resource} (isRoot : site.innermost.2.isRoot = true → resource.node = site.node) :
    resource.Becomes (site.enterNode resource) := by
  refine ⟨rfl, ?_, rfl, ?_⟩
  · simp only [enterNode]
    split
    · next root => exact (isRoot root).symm
    · rfl
  · intro name declared
    simp only [enterNode]
    split
    · next anchor _ =>
      by_cases same : name = anchor
      · rw [same, assoc?_putEntry_self]
        rfl
      · rwa [assoc?_putEntry_of_ne same]
    · exact declared

theorem Stands.innermost_mem (stands : site.Stands before) :
    site.innermost.1 = site.resource ∧ site.innermost ∈ site.paths := by
  have first := stands.innermost
  cases paths : site.paths with
  | nil => simp [paths] at first
  | cons path rest => exact ⟨by simpa [Site.innermost, paths] using first, by simp [Site.innermost, paths]⟩

/-- The node that is made of a value. -/
def finishedNode (site : Site) (value : Json) (shape : Shape) : Node :=
  { resource := site.innermost.1, location := site.innermost.2, value, anchor := site.anchor
    dynamicAnchor := site.dynamicAnchor, vocabularies := site.vocabularies, shape }

/-- A resource when the node of a site has been entered. -/
def enteredResource (site : Site) (index : Nat) (resource : Resource) : Resource :=
  let entered := { resource with
    locations := (site.paths.filter (·.1 = index)).foldl (fun locations path => addEntry path.2 site.node locations)
      resource.locations }
  if site.innermost.1 = index then site.enterNode entered else entered

theorem id_enteredResource (site : Site) (index : Nat) (resource : Resource) :
    (site.enteredResource index resource).id = resource.id := by
  unfold enteredResource
  split <;> rfl

theorem parent_enteredResource (site : Site) (index : Nat) (resource : Resource) :
    (site.enteredResource index resource).parent = resource.parent := by
  unfold enteredResource
  split <;> rfl

theorem dialect_enteredResource (site : Site) (index : Nat) (resource : Resource) :
    (site.enteredResource index resource).dialect = resource.dialect := by
  unfold enteredResource
  split <;> rfl

theorem locations_enteredResource (site : Site) (index : Nat) (resource : Resource) :
    (site.enteredResource index resource).locations = (site.paths.filter (·.1 = index)).foldl
      (fun locations path => addEntry path.2 site.node locations) resource.locations := by
  unfold enteredResource
  split <;> rfl

variable (site) in
/-- Only the node of the site gets new anchors, and only in the innermost resource. -/
theorem mem_anchors_enteredResource {index : Nat} {resource : Resource} {entry : String × Nat}
    (member : entry ∈ (site.enteredResource index resource).anchors ++
      (site.enteredResource index resource).dynamicAnchors) :
    entry ∈ resource.anchors ++ resource.dynamicAnchors ∨ entry.2 = site.node ∧ site.innermost.1 = index := by
  have put {name : String} {entries : List (String × Nat)} (inside : entry ∈ putEntry name site.node entries) :
      entry ∈ entries ∨ entry.2 = site.node := by
    induction entries with
    | nil => exact .inr (by rw [List.mem_singleton.mp inside])
    | cons first rest ih =>
      obtain ⟨other, old⟩ := first
      rw [putEntry] at inside
      split at inside
      · rcases List.mem_cons.mp inside with rfl | inside
        · exact .inr rfl
        · exact .inl (List.mem_cons_of_mem _ inside)
      · rcases List.mem_cons.mp inside with rfl | inside
        · exact .inl List.mem_cons_self
        · exact (ih inside).imp_left (List.mem_cons_of_mem _)
  unfold enteredResource at member
  split at member
  · next here =>
    rw [List.mem_append] at member ⊢
    rcases member with inside | inside
    · simp only [enterNode] at inside
      split at inside
      · exact (put inside).imp .inl fun own => ⟨own, here⟩
      · exact .inl (.inl inside)
    · simp only [enterNode] at inside
      split at inside
      · exact (put inside).imp .inr fun own => ⟨own, here⟩
      · exact .inl (.inr inside)
  · exact .inl member

/-- What is left of an assembly when the node of a site is finished. -/
theorem yields_finish {value : Json} {shape : Shape} {done : Unit} :
    Yields (site.finish value shape) before done after ↔
      { before with
        resources := before.resources.mapIdx site.enteredResource
        nodes := before.nodes.setIfInBounds site.node (some (site.finishedNode value shape)) } = after := by
  have entered : (site.paths.foldl (enterLocation site.node) before.resources).modify site.innermost.1 site.enterNode =
      before.resources.mapIdx site.enteredResource := by
    refine Array.ext_getElem? fun index => ?_
    unfold enteredResource
    rw [Array.getElem?_modify, getElem?_enterLocations, Array.getElem?_mapIdx]
    split
    · rw [Option.map_map]
      rfl
    · rfl
  rw [← entered]
  exact yields_modify

/-- To enter a node into a resource keeps what identifies the resource. -/
theorem Stands.becomes_enteredResource (stands : site.Stands before) {index : Nat} {resource : Resource}
    (found : before.resources[index]? = some resource) : resource.Becomes (site.enteredResource index resource) := by
  have moved {locations : List (Pointer × Nat)} : resource.Becomes { resource with locations } :=
    ⟨rfl, rfl, rfl, fun _ declared => declared⟩
  unfold enteredResource
  split
  · next here =>
    refine moved.trans (becomes_enterNode site fun isRoot => ?_)
    obtain ⟨base, foundBase, -, root⟩ := stands.base
    rw [← stands.innermost_mem.1, here, found] at foundBase
    rw [Option.some.inj foundBase]
    exact root isRoot
  · exact moved

/-- No node is entered into a resource that is closed: those around a site are unfinished. -/
theorem Stands.enteredResource_eq_self (stands : site.Stands before) {index : Nat} {resource : Resource} {node : Node}
    (found : before.resources[index]? = some resource) (finished : before.nodes[resource.node]? = some (some node)) :
    site.enteredResource index resource = resource := by
  have away (path : Nat × Pointer) (member : path ∈ site.paths) : path.1 ≠ index := by
    rintro rfl
    obtain ⟨around, foundAround, unfinished⟩ := stands.around path member
    rw [found] at foundAround
    rw [← Option.some.inj foundAround, finished] at unfinished
    cases unfinished
  have none : site.paths.filter (·.1 = index) = [] :=
    List.filter_eq_nil_iff.mpr fun path member => by simpa using away path member
  rw [enteredResource, none, if_neg (away _ stands.innermost_mem.2)]
  cases resource
  rfl

/-- Finishing a node touches this node and resources around it only. -/
theorem grows_finish {value : Json} {shape : Shape} {done : Unit} (stands : site.Stands before) (sound : before.Sound)
    (yields : Yields (site.finish value shape) before done after) :
    before.Grows after ∧ after.Sound ∧
      after.nodes = before.nodes.setIfInBounds site.node (some (site.finishedNode value shape)) := by
  obtain rfl := yields_finish.mp yields
  have kept {index : Nat} {node : Node} (finished : before.nodes[index]? = some (some node)) :=
    getElem?_setIfInBounds_of_free stands.started finished (some (site.finishedNode value shape))
  refine ⟨⟨?_, ?_, ?_, fun _ _ named => named, fun _ member => member⟩, ⟨sound.taken, ?_, ?_⟩, rfl⟩
  · exact fun index node => kept
  · intro index resource node found finished
    refine Array.getElem?_mapIdx.trans ?_
    rw [found, Option.map_some, stands.enteredResource_eq_self found finished]
  · intro index resource found
    exact ⟨_, Array.getElem?_mapIdx.trans (by rw [found]; rfl), stands.becomes_enteredResource found⟩
  · intro index later found
    obtain ⟨resource, earlier, rfl⟩ := Option.map_eq_some_iff.mp (Array.getElem?_mapIdx.symm.trans found)
    rw [dialect_enteredResource]
    exact sound.drafted index resource earlier
  · intro index later found entry member
    obtain ⟨resource, earlier, rfl⟩ := Option.map_eq_some_iff.mp (Array.getElem?_mapIdx.symm.trans found)
    dsimp only
    rcases site.mem_anchors_enteredResource member with old | ⟨own, innermost⟩
    · obtain ⟨node, finished, same⟩ := sound.anchored index resource earlier entry old
      exact ⟨node, kept finished, same⟩
    · refine ⟨site.finishedNode value shape, ?_, innermost⟩
      rw [own]
      exact getElem?_setIfInBounds_self_of_free stands.started _

/-! ## Nodes in order -/

/-- A node is started, its shape is made and it is finished. -/
theorem yields_compileNode {depth : Nat} {value : Json} {number : Nat} :
    Yields (compileWithin options registered (depth + 1) site value) before number after ↔
      number = before.nodes.size ∧ ∃ made middle, Yields ((site.start before.nodes.size).compileShape options registered
          (compileWithin options registered depth) value) { before with nodes := before.nodes.push none } made middle ∧
        Yields (made.1.finish value made.2) middle ⟨⟩ after := by
  constructor
  · intro yields
    obtain ⟨assembly, start, got, goesOn⟩ := yields_bind.mp yields
    obtain ⟨rfl, rfl⟩ := yields_get.mp got
    obtain ⟨pushed, started, modified, shapes⟩ := yields_bind.mp goesOn
    obtain rfl := yields_modify.mp modified
    obtain ⟨made, middle, yieldsShape, finishes⟩ := yields_bind.mp shapes
    obtain ⟨done, stop, yieldsFinish, returned⟩ := yields_bind.mp finishes
    obtain ⟨rfl, rfl⟩ := yields_pure.mp returned
    exact ⟨rfl, made, middle, yieldsShape, yieldsFinish⟩
  · rintro ⟨rfl, made, middle, yieldsShape, yieldsFinish⟩
    exact yields_bind.mpr ⟨before, before, yields_get.mpr ⟨rfl, rfl⟩, yields_bind.mpr ⟨⟨⟩, _, yields_modify.mpr rfl,
      yields_bind.mpr ⟨made, middle, yieldsShape,
        yields_bind.mpr ⟨⟨⟩, after, yieldsFinish, yields_pure.mpr ⟨rfl, rfl⟩⟩⟩⟩⟩

/-- A node is made with all nodes below it, and nothing else is touched. -/
theorem extends_compileNode (only : options.KnowsOnlyDraft) {depth : Nat}
    (below : ContinuesBelow options registered (compileWithin options registered depth)) {value : Json} {number : Nat}
    (awaits : site.Awaits before) (sound : before.Sound)
    (yields : Yields (compileWithin options registered (depth + 1) site value) before number after) :
    number = before.nodes.size ∧ Assembly.Extends options registered before after ∧
      (0 < before.nodes.size → before.Grows after) := by
  obtain ⟨rfl, ⟨final, shape⟩, shaped, yieldsShape, yieldsFinish⟩ := yields_compileNode.mp yields
  obtain ⟨declared, between, declares, continues, stands, same⟩ :=
    extends_compileShape only below awaits sound.push yieldsShape
  obtain ⟨grows, soundLast, nodes⟩ := grows_finish stands continues.sound yieldsFinish
  rw [show final.node = before.nodes.size from same] at nodes
  have sizeBetween : between.nodes.size = before.nodes.size + 1 := by rw [declares.nodes_eq, Array.size_push]
  have sizeShaped := continues.size
  refine ⟨rfl, ⟨soundLast, ?_, ?_, ?_⟩, ?_⟩
  · rw [nodes, Array.size_setIfInBounds]
    omega
  · intro index bound
    rw [nodes, Array.getElem?_setIfInBounds, if_neg (by omega), continues.older index (by omega), declares.nodes_eq]
    exact Array.getElem?_push_lt bound |>.trans (Array.getElem?_eq_getElem bound).symm
  · intro index least bound
    rw [nodes, Array.size_setIfInBounds] at bound
    by_cases own : index = before.nodes.size
    · refine ⟨final.finishedNode value shape, ?_, depth + 1, site, before, after, awaits, sound, own.symm, ?_,
        .refl after⟩
      · rw [nodes, own, Array.getElem?_setIfInBounds, if_pos rfl, if_pos (own ▸ bound)]
      · rw [own]
        exact yields
    · obtain ⟨node, finished, made⟩ := continues.newer index (by omega) bound
      exact ⟨node, grows.finished index node finished, made.grows grows⟩
  · intro positive
    have pushes : before.Grows { before with nodes := before.nodes.push none } := by
      exact ⟨fun _ _ finished => getElem?_push_of_eq_some finished none, fun _ _ _ found _ => found,
        fun _ resource found => ⟨resource, found, .refl resource⟩, fun _ _ named => named, fun _ member => member⟩
    exact ((pushes.trans (declares.grows positive.ne')).trans continues.toGrows).trans grows

theorem continuesBelow_compileWithin (only : options.KnowsOnlyDraft) (depth : Nat) :
    ContinuesBelow options registered (compileWithin options registered depth) := by
  induction depth with
  | zero => exact fun site value before number after _ _ _ yields => absurd yields yields_throw
  | succ depth ih =>
    intro site value before number after awaits sound positive yields
    obtain ⟨-, extends_, grows⟩ := extends_compileNode only ih awaits sound yields
    exact { extends_, grows positive with }

/-- A value is compiled to new nodes in order, each of which was made by a compilation of its own. -/
theorem extends_compileWithin (only : options.KnowsOnlyDraft) {depth : Nat} {value : Json} {number : Nat}
    (awaits : site.Awaits before) (sound : before.Sound)
    (yields : Yields (compileWithin options registered depth site value) before number after) :
    number = before.nodes.size ∧ Assembly.Extends options registered before after := by
  cases depth with
  | zero => exact absurd yields yields_throw
  | succ depth =>
    obtain ⟨number, extends_, -⟩ :=
      extends_compileNode only (continuesBelow_compileWithin only depth) awaits sound yields
    exact ⟨number, extends_⟩

/-- The first node of a document is made of the whole value and belongs to the first resource. -/
theorem root_of_compileWithin (only : options.KnowsOnlyDraft) {depth : Nat} {value : Json} {number : Nat}
    (awaits : site.Awaits before) (sound : before.Sound) (empty : before.nodes.size = 0)
    (yields : Yields (compileWithin options registered depth site value) before number after) :
    ∃ node, after.nodes[0]? = some (some node) ∧ node.value = value ∧ node.resource = 0 := by
  cases depth with
  | zero => exact absurd yields yields_throw
  | succ depth =>
    obtain ⟨-, ⟨final, shape⟩, shaped, yieldsShape, yieldsFinish⟩ := yields_compileNode.mp yields
    obtain ⟨declared, between, -, continues, stands, same⟩ :=
      extends_compileShape only (continuesBelow_compileWithin only depth) awaits sound.push yieldsShape
    obtain ⟨-, -, nodes⟩ := grows_finish stands continues.sound yieldsFinish
    have first : final.node = 0 := same.trans empty
    refine ⟨final.finishedNode value shape, ?_, rfl, stands.innermost_mem.1.trans (stands.document first)⟩
    rw [nodes, first, Array.getElem?_setIfInBounds, if_pos rfl, if_pos stands.pos]

end Site

end JsonSchema
