import JsonSchema.Proofs.Compile.Construction

/-! # Compiled schemas in finished documents

What is made of a schema stands in the finished document: its nodes are finished and stay as they are, its resources
keep what can be found in them, and both are numbered in the order in which they were made. `Document.Lays` says this of
the finished document alone, without the states on the way, so that a property of compiled documents is proved by an
induction over the schemas in them (`Schema.exists_document_of_compilesUnder`).
-/

namespace JsonSchema

open Compile

/-! ## How nodes are added -/

namespace Assembly

/-- Whether an assembly has all nodes of another one and further nodes that are finished. -/
structure Fills (before after : Assembly) : Prop where
  size : before.nodes.size ≤ after.nodes.size
  older : ∀ index < before.nodes.size, after.nodes[index]? = before.nodes[index]?
  newer : ∀ index, before.nodes.size ≤ index → index < after.nodes.size → ∃ node, after.nodes[index]? = some (some node)

variable {before between after : Assembly}

theorem Fills.refl (assembly : Assembly) : assembly.Fills assembly :=
  ⟨Nat.le_refl _, fun _ _ => rfl, fun _ least bound => absurd bound (Nat.not_lt.mpr least)⟩

theorem Fills.trans (first : before.Fills between) (second : between.Fills after) : before.Fills after where
  size := first.size.trans second.size
  older index bound := (second.older index (bound.trans_le first.size)).trans (first.older index bound)
  newer index least bound := by
    by_cases early : index < between.nodes.size
    · obtain ⟨node, found⟩ := first.newer index least early
      exact ⟨node, (second.older index early).trans found⟩
    · exact second.newer index (Nat.not_lt.mp early) bound

end Assembly

/-- Whether a document has the finished nodes of an assembly. -/
def Document.Holds (document : Document) (assembly : Assembly) : Prop :=
  ∀ index node, assembly.nodes[index]? = some (some node) → document.node index = node

theorem Document.Holds.of_fills {document : Document} {before after : Assembly} (holds : document.Holds after)
    (fills : before.Fills after) : document.Holds before := by
  intro index node found
  obtain ⟨bound, -⟩ := Array.getElem?_eq_some_iff.mp found
  exact holds index node ((fills.older index bound).trans found)

namespace Site

variable {registered : Bool} {site opened final : Site} {tokens : List String} {value : Json}
  {slots : List (List String × Json)} {before named middle after : Assembly} {numbers : List Nat} {shape : Shape}
  {dialects : DialectCache} {document : Document}

/-- What has been done when the nodes below a new node are compiled: the node is started, and all others are finished. -/
structure Surrounds (before named middle : Assembly) (final : Site) : Prop where
  node_eq : final.node = before.nodes.size
  named_eq : named.nodes = before.nodes.push none
  fills : named.Fills middle

namespace Surrounds

variable (surrounds : Surrounds before named middle final)
include surrounds

theorem size_lt : before.nodes.size < middle.nodes.size := by
  have size := surrounds.fills.size
  rwa [surrounds.named_eq, Array.size_push] at size

theorem started : middle.nodes[final.node]? = some none := by
  rw [surrounds.node_eq, surrounds.fills.older _ (by rw [surrounds.named_eq, Array.size_push]; exact Nat.lt_succ_self _),
    surrounds.named_eq, Array.getElem?_push_size]

theorem fills_finished : before.Fills (final.finished value shape middle) where
  size := by
    rw [finished, Array.size_setIfInBounds]
    exact surrounds.size_lt.le
  older index bound := by
    rw [finished, Array.getElem?_setIfInBounds, if_neg (by rw [surrounds.node_eq]; exact bound.ne'),
      surrounds.fills.older index (by rw [surrounds.named_eq, Array.size_push]; exact bound.trans (Nat.lt_succ_self _)),
      surrounds.named_eq, Array.getElem?_push_lt bound, Array.getElem?_eq_getElem bound]
  newer index least bound := by
    rw [finished, Array.size_setIfInBounds] at bound
    rw [finished, Array.getElem?_setIfInBounds, surrounds.node_eq]
    split
    · exact ⟨_, by rw [if_pos surrounds.size_lt]⟩
    · next other =>
      exact surrounds.fills.newer index (by rw [surrounds.named_eq, Array.size_push]; omega) bound

/-- A document with the finished node has the nodes below it. -/
theorem holds (holds : document.Holds (final.finished value shape middle)) :
    document.node before.nodes.size = final.finishedNode value shape ∧ document.Holds middle := by
  constructor
  · rw [← surrounds.node_eq]
    exact holds _ _ (getElem?_setIfInBounds_self_of_free surrounds.started _)
  · exact fun index node found => holds index node (getElem?_setIfInBounds_of_free surrounds.started found _)

end Surrounds

theorem surrounds_of_opens
    (opens : ((site.descend tokens).start before.nodes.size).Opens registered value
      { before with nodes := before.nodes.push none, dialects } opened named)
    (fills : named.Fills middle) (marked : opened.marked final = final) : Surrounds before named middle final where
  node_eq := by
    rw [← marked]
    exact opens.node_eq
  named_eq := opens.nodes_eq
  fills := fills

namespace Compiles

theorem fills (compiles : Compiles registered site slots before numbers after) : before.Fills after := by
  induction compiles with
  | nil => exact .refl _
  | cons dialects opens _ marked _ _ _ inner rest => exact (surrounds_of_opens opens inner marked).fills_finished.trans rest

end Compiles

end Site

/-! ## How resources are added -/

section

variable {α β : Type _} [DecidableEq α]

theorem assoc?_addEntry (key other : α) (value : β) (entries : List (α × β)) :
    assoc? key (addEntry other value entries) =
      (assoc? key entries).or (if key = other then some value else none) := by
  unfold addEntry
  split
  · next old found =>
    split
    · next same => rw [same, found, Option.some_or]
    · rw [Option.or_none]
  · rw [assoc?_append]
    rfl

theorem isSome_assoc?_putEntry (key other : α) (value : β) (entries : List (α × β)) :
    (assoc? key (putEntry other value entries)).isSome ↔ key = other ∨ (assoc? key entries).isSome := by
  by_cases same : key = other
  · rw [same, assoc?_putEntry_self]
    exact ⟨fun _ => .inl rfl, fun _ => rfl⟩
  · rw [assoc?_putEntry_of_ne same, or_iff_right same]

end

/-- A node is found under all of its locations that no other node has taken before. -/
theorem assoc?_foldl_addEntry (key : Pointer) (node : Nat) (paths : List (Nat × Pointer))
    (locations : List (Pointer × Nat)) :
    assoc? key (paths.foldl (fun locations path => addEntry path.2 node locations) locations) =
      (assoc? key locations).or (if key ∈ paths.map (·.2) then some node else none) := by
  induction paths generalizing locations with
  | nil => rw [List.foldl_nil, List.map_nil, if_neg List.not_mem_nil, Option.or_none]
  | cons path paths ih =>
    rw [List.foldl_cons, ih, assoc?_addEntry, List.map_cons, Option.or_assoc]
    by_cases same : key = path.2
    · rw [if_pos same, if_pos (List.mem_cons.mpr (.inl same)), Option.some_or]
    · rw [if_neg same, Option.none_or]
      simp only [List.mem_cons, same, false_or]

/-- Whether a resource keeps what it is, and what can be found in it. -/
structure Resource.Extends (resource later : Resource) : Prop where
  id_eq : later.id = resource.id
  node_eq : later.node = resource.node
  parent_eq : later.parent = resource.parent
  located : ∀ pointer node, assoc? pointer resource.locations = some node →
    assoc? pointer later.locations = some node
  anchored : ∀ name, (assoc? name resource.anchors).isSome → (assoc? name later.anchors).isSome

theorem Resource.Extends.refl (resource : Resource) : resource.Extends resource :=
  ⟨rfl, rfl, rfl, fun _ _ found => found, fun _ found => found⟩

theorem Resource.Extends.trans {resource later last : Resource} (first : resource.Extends later)
    (second : later.Extends last) : resource.Extends last :=
  ⟨second.id_eq.trans first.id_eq, second.node_eq.trans first.node_eq, second.parent_eq.trans first.parent_eq,
    fun pointer node found => second.located pointer node (first.located pointer node found),
    fun name found => second.anchored name (first.anchored name found)⟩

/-- Whether an assembly keeps all resources of another one. -/
def Assembly.Spreads (before after : Assembly) : Prop :=
  ∀ (index : Nat) (resource : Resource), before.resources[index]? = some resource →
    ∃ later, after.resources[index]? = some later ∧ resource.Extends later

namespace Assembly

variable {before between after : Assembly}

theorem Spreads.refl (assembly : Assembly) : assembly.Spreads assembly :=
  fun _ resource found => ⟨resource, found, .refl resource⟩

theorem Spreads.trans (first : before.Spreads between) (second : between.Spreads after) : before.Spreads after := by
  intro index resource found
  obtain ⟨later, foundLater, extends_⟩ := first index resource found
  obtain ⟨last, foundLast, extendsLast⟩ := second index later foundLater
  exact ⟨last, foundLast, extends_.trans extendsLast⟩

end Assembly

namespace Site

variable {registered : Bool} {site opened final : Site} {tokens : List String} {value : Json}
  {slots : List (List String × Json)} {before named middle after : Assembly} {numbers : List Nat} {shape : Shape}
  {dialects : DialectCache}

/-- A resource into which a node is entered keeps its root, unless the node is another root. -/
theorem extends_enteredResource {index : Nat} {resource : Resource}
    (rooted : site.innermost.1 = index → site.innermost.2.isRoot = true → resource.node = site.node) :
    resource.Extends (site.enteredResource index resource) := by
  have located (pointer : Pointer) (node : Nat) (found : assoc? pointer resource.locations = some node) :
      assoc? pointer ((site.paths.filter (·.1 = index)).foldl
        (fun locations path => addEntry path.2 site.node locations) resource.locations) = some node := by
    rw [assoc?_foldl_addEntry, found, Option.some_or]
  unfold enteredResource
  dsimp only
  split
  · next own =>
    refine ⟨rfl, ?_, rfl, located, fun name found => ?_⟩
    · dsimp only [enterNode]
      split
      · next isRoot => exact (rooted own isRoot).symm
      · rfl
    · dsimp only [enterNode]
      split
      · exact (isSome_assoc?_putEntry _ _ _ _).mpr (.inr found)
      · exact found
  · exact ⟨rfl, rfl, rfl, located, fun _ found => found⟩

theorem getElem?_resources_finished (index : Nat) :
    (final.finished value shape middle).resources[index]? =
      (middle.resources[index]?).map (final.enteredResource index) := Array.getElem?_mapIdx

theorem spreads_finished (rooted : final.innermost.2.isRoot = true →
      ∀ resource ∈ middle.resources[final.innermost.1]?, resource.node = final.node) :
    middle.Spreads (final.finished value shape middle) := by
  intro index resource found
  refine ⟨_, (getElem?_resources_finished index).trans (by rw [found]; rfl), extends_enteredResource ?_⟩
  intro own isRoot
  exact rooted isRoot resource (own ▸ found)

/-- Whether the paths of a site begin with the one from the resource of the site. -/
def IsHeaded (site : Site) : Prop := site.paths.head?.map (·.1) = some site.resource

theorem IsHeaded.innermost_eq (headed : site.IsHeaded) : site.innermost.1 = site.resource := by
  unfold IsHeaded at headed
  cases paths : site.paths with
  | nil => simp [paths] at headed
  | cons path rest => simpa [Site.innermost, paths] using headed

theorem IsHeaded.innermost_mem (headed : site.IsHeaded) : site.innermost ∈ site.paths := by
  unfold IsHeaded at headed
  cases paths : site.paths with
  | nil => simp [paths] at headed
  | cons path rest => simp [Site.innermost, paths]

theorem IsHeaded.descend (headed : site.IsHeaded) (tokens : List String) (node : Nat) :
    ((site.descend tokens).start node).IsHeaded := by
  unfold IsHeaded at headed ⊢
  cases paths : site.paths with
  | nil => simp [paths] at headed
  | cons path rest => simpa [start, Site.descend, paths] using headed

theorem IsHeaded.opens (headed : site.IsHeaded) (opens : site.Opens registered value before opened after) :
    opened.IsHeaded := by
  cases opens with
  | resource => rfl
  | _ => exact headed

/-- Below a site with a path no location is that of a root. -/
theorem not_isRoot_descend (headed : site.IsHeaded) (further : tokens ≠ []) (node : Nat) :
    ((site.descend tokens).start node).innermost.2.isRoot ≠ true := by
  unfold IsHeaded at headed
  cases paths : site.paths with
  | nil => simp [paths] at headed
  | cons path rest => simp [start, Site.descend, Site.innermost, paths, Pointer.isRoot, Pointer.append, further]

theorem innermost_of_marked (marked : opened.marked final = final) : final.innermost = opened.innermost := by
  rw [← marked]
  rfl

/-- Inside a document, opening a node keeps all resources. -/
theorem Opens.spreads (opens : site.Opens registered value before opened after) (inner : site.node ≠ 0) :
    before.Spreads after := by
  cases opens with
  | plain => exact .refl _
  | same _ root => exact absurd root inner
  | renamed _ root => exact absurd root inner
  | resource =>
    exact fun index resource found => ⟨resource, getElem?_push_of_eq_some found _, .refl resource⟩

/-- Below the root of a document, finishing a node keeps all resources. -/
theorem spreads_finished_of_opens
    (opens : ((site.descend tokens).start before.nodes.size).Opens registered value
      { before with nodes := before.nodes.push none, dialects } opened named)
    (spreads : named.Spreads middle) (surrounds : Surrounds before named middle final)
    (marked : opened.marked final = final) (headed : site.IsHeaded) (further : tokens ≠ [])
    (some : 0 < before.nodes.size) : middle.Spreads (final.finished value shape middle) := by
  refine spreads_finished fun isRoot resource found => ?_
  rw [innermost_of_marked marked] at isRoot found
  cases opens with
  | plain => exact absurd isRoot (not_isRoot_descend headed further _)
  | same _ root => exact absurd root some.ne'
  | renamed _ root => exact absurd root some.ne'
  | resource =>
    obtain ⟨later, foundLater, extends_⟩ := spreads _ _ Array.getElem?_push_size
    rw [Option.mem_def] at found
    obtain rfl := Option.some.inj (found.symm.trans foundLater)
    exact extends_.node_eq.trans surrounds.node_eq.symm

namespace Compiles

/-- Below the root of a document, schemas that are compiled keep all resources. -/
theorem spreads (compiles : Compiles registered site slots before numbers after)
    (further : ∀ slot ∈ slots, slot.1 ≠ []) (headed : site.IsHeaded) (some : 0 < before.nodes.size) :
    before.Spreads after := by
  induction compiles with
  | nil => exact .refl _
  | @cons site opened final tokens value slots before named middle after below numbers shape dialects opens inner marked
      anchored shown rest ihInner ihRest =>
    have surrounds := surrounds_of_opens opens inner.fills marked
    have spreadsNamed := opens.spreads some.ne'
    have spreadsInner := ihInner (fun slot member => Json.ne_nil_of_mem_slots member)
      ((headed.descend tokens _).opens opens) (by rw [surrounds.named_eq, Array.size_push]; exact Nat.succ_pos _)
    have spreadsRest := ihRest (fun slot member => further slot (List.mem_cons_of_mem _ member)) headed
      (some.trans_le surrounds.fills_finished.size)
    have spreadsFinished : middle.Spreads (final.finished value shape middle) :=
      spreads_finished_of_opens opens spreadsInner surrounds marked headed (further _ List.mem_cons_self) some
    exact ((spreadsNamed.trans spreadsInner).trans spreadsFinished).trans spreadsRest

end Compiles

end Site

/-! ## How resources are registered -/

/-- Whether the resources of an assembly are a tree, and each of them is found by its id; the document itself may not be
one that can be found. -/
structure Assembly.Registers (registered : Bool) (assembly : Assembly) : Prop where
  outermost : ∃ resource, assembly.resources[0]? = some resource ∧ resource.parent = none
  inner : ∀ index resource, assembly.resources[index]? = some resource → index ≠ 0 →
    ∃ parent < index, resource.parent = some parent
  found : ∀ index resource, assembly.resources[index]? = some resource → (index = 0 → registered = true) →
    assoc? resource.id assembly.ids = some index
  taken : ∀ index resource, assembly.resources[index]? = some resource → (index = 0 → registered = true) →
    resource.id ∈ assembly.taken

/-- Only the ids of resources and what they are in matter. -/
theorem Assembly.Registers.congr {registered : Bool} {before after : Assembly} (registers : before.Registers registered)
    (alike : ∀ index : Nat, (after.resources[index]?).map (fun resource => (resource.id, resource.parent)) =
      (before.resources[index]?).map fun resource => (resource.id, resource.parent))
    (ids : after.ids = before.ids) (taken : after.taken = before.taken) : after.Registers registered := by
  have earlier {index : Nat} {resource : Resource} (found : after.resources[index]? = some resource) :
      ∃ other, before.resources[index]? = some other ∧ other.id = resource.id ∧ other.parent = resource.parent := by
    have same := alike index
    rw [found, Option.map_some, eq_comm, Option.map_eq_some_iff] at same
    obtain ⟨other, foundOther, same⟩ := same
    exact ⟨other, foundOther, Prod.mk.inj same⟩
  obtain ⟨first, foundFirst, noParent⟩ := registers.outermost
  have outermost := alike 0
  rw [foundFirst, Option.map_some, Option.map_eq_some_iff] at outermost
  obtain ⟨resource, found, same⟩ := outermost
  refine ⟨⟨resource, found, (Prod.mk.inj same).2.trans noParent⟩, ?_, ?_, ?_⟩
  · intro index resource found inner
    obtain ⟨other, foundOther, -, parent⟩ := earlier found
    exact parent ▸ registers.inner index other foundOther inner
  · intro index resource found own
    obtain ⟨other, foundOther, id, -⟩ := earlier found
    rw [ids, ← id]
    exact registers.found index other foundOther own
  · intro index resource found own
    obtain ⟨other, foundOther, id, -⟩ := earlier found
    rw [taken, ← id]
    exact registers.taken index other foundOther own

namespace Site

variable {registered : Bool} {site opened final : Site} {value : Json} {slots : List (List String × Json)}
  {before after : Assembly} {numbers : List Nat} {shape : Shape}

theorem Opens.size_resources_le (opens : site.Opens registered value before opened after) :
    before.resources.size ≤ after.resources.size := by
  cases opens <;> simp

/-- A document that gets a free id keeps its resources registered. -/
theorem registers_renamed (registers : before.Registers registered) {id : Url} (free : id ∉ before.taken) :
    ({ before with
        taken := id :: before.taken
        ids := if registered then putEntry id 0 before.ids else before.ids
        resources := before.resources.modify 0 fun resource => { resource with id } } : Assembly).Registers
      registered := by
  have changed := getElem?_modify_zero before.resources fun resource => { resource with id }
  obtain ⟨outermost, foundOutermost, noParent⟩ := registers.outermost
  refine ⟨⟨{ outermost with id }, by rw [changed, foundOutermost]; rfl, noParent⟩, ?_, ?_, ?_⟩
  · intro index resource found other
    rw [changed, Option.map_eq_some_iff] at found
    obtain ⟨earlier, found, rfl⟩ := found
    rw [if_neg other]
    exact registers.inner index earlier found other
  · intro index resource found own
    rw [changed, Option.map_eq_some_iff] at found
    obtain ⟨earlier, found, rfl⟩ := found
    by_cases first : index = 0
    · rw [if_pos first, if_pos (own first), first]
      exact assoc?_putEntry_self _ _ _
    · rw [if_neg first]
      have taken := registers.taken index earlier found own
      have named := registers.found index earlier found own
      have different : earlier.id ≠ id := fun same => free (same ▸ taken)
      dsimp only
      split
      · rw [assoc?_putEntry_of_ne different, named]
      · exact named
  · intro index resource found own
    rw [changed, Option.map_eq_some_iff] at found
    obtain ⟨earlier, found, rfl⟩ := found
    by_cases first : index = 0
    · rw [if_pos first]
      exact List.mem_cons_self
    · rw [if_neg first]
      exact List.mem_cons_of_mem _ (registers.taken index earlier found own)

/-- A resource that starts inside of another one under a free id is registered with the others. -/
theorem registers_pushed (registers : before.Registers registered) {resource : Resource} {outer : Nat}
    (inside : outer < before.resources.size) (parent : resource.parent = some outer)
    (free : resource.id ∉ before.taken) :
    ({ before with
        taken := resource.id :: before.taken
        ids := putEntry resource.id before.resources.size before.ids
        resources := before.resources.push resource } : Assembly).Registers registered := by
  obtain ⟨outermost, foundOutermost, noParent⟩ := registers.outermost
  refine ⟨⟨outermost, getElem?_push_of_eq_some foundOutermost _, noParent⟩, ?_, ?_, ?_⟩
  · intro index last found other
    rcases eq_or_of_getElem?_push found with ⟨rfl, rfl⟩ | earlier
    · exact ⟨outer, inside, parent⟩
    · exact registers.inner index last earlier other
  · intro index last found own
    rcases eq_or_of_getElem?_push found with ⟨rfl, rfl⟩ | earlier
    · exact assoc?_putEntry_self _ _ _
    · have taken := registers.taken index last earlier own
      have different : last.id ≠ resource.id := fun same => free (same ▸ taken)
      exact (assoc?_putEntry_of_ne different _ _).trans (registers.found index last earlier own)
  · intro index last found own
    rcases eq_or_of_getElem?_push found with ⟨rfl, rfl⟩ | earlier
    · exact List.mem_cons_self
    · exact List.mem_cons_of_mem _ (registers.taken index last earlier own)

theorem Opens.registers (opens : site.Opens registered value before opened after)
    (registers : before.Registers registered) (inside : site.resource < before.resources.size) :
    after.Registers registered ∧ opened.resource < after.resources.size := by
  cases opens with
  | plain => exact ⟨registers, inside⟩
  | same => exact ⟨registers, inside⟩
  | renamed _ _ free => exact ⟨registers_renamed registers free, by rwa [Array.size_modify]⟩
  | resource _ _ free => exact ⟨registers_pushed registers inside rfl free, by simp⟩

theorem registers_finished (registers : before.Registers registered) :
    (final.finished value shape before).Registers registered := by
  refine registers.congr (fun index => ?_) rfl rfl
  rw [getElem?_resources_finished, Option.map_map]
  refine congrArg (Option.map · _) (funext fun resource => ?_)
  exact Prod.ext (id_enteredResource _ _ _) (parent_enteredResource _ _ _)

theorem size_resources_finished : (final.finished value shape before).resources.size = before.resources.size :=
  Array.size_mapIdx

theorem Compiles.size_resources_le (compiles : Compiles registered site slots before numbers after) :
    before.resources.size ≤ after.resources.size := by
  induction compiles with
  | nil => exact Nat.le_refl _
  | cons dialects opens _ _ _ _ _ inner rest =>
    rw [size_resources_finished] at rest
    exact (opens.size_resources_le.trans inner).trans rest

/-- Compilation keeps the resources registered. -/
theorem Compiles.registers (compiles : Compiles registered site slots before numbers after)
    (registers : before.Registers registered) (inside : site.resource < before.resources.size) :
    after.Registers registered := by
  induction compiles with
  | nil => exact registers
  | cons dialects opens inner marked anchored shown rest ihInner ihRest =>
    obtain ⟨registersNamed, insideNamed⟩ :=
      opens.registers ⟨registers.outermost, registers.inner, registers.found, registers.taken⟩ inside
    refine ihRest (registers_finished (ihInner registersNamed insideNamed)) ?_
    rw [size_resources_finished]
    exact inside.trans_le (opens.size_resources_le.trans inner.size_resources_le)

/-- Whether a site is headed by its own resource and all its paths are those from resources that there are. -/
structure Fits (site : Site) (resources : Nat) : Prop where
  headed : site.IsHeaded
  inside : ∀ path ∈ site.paths, path.1 < resources

theorem Fits.descend {resources : Nat} (fits : site.Fits resources) (tokens : List String) (node : Nat) :
    ((site.descend tokens).start node).Fits resources where
  headed := fits.headed.descend tokens node
  inside path member := by
    obtain ⟨outer, inside, rfl⟩ := List.mem_map.mp member
    exact fits.inside outer inside

theorem Fits.mono {resources more : Nat} (fits : site.Fits resources) (le : resources ≤ more) : site.Fits more :=
  ⟨fits.headed, fun path member => (fits.inside path member).trans_le le⟩

theorem Opens.fits (opens : site.Opens registered value before opened after)
    (fits : site.Fits before.resources.size) : opened.Fits after.resources.size := by
  refine ⟨fits.headed.opens opens, ?_⟩
  cases opens with
  | plain => exact fits.inside
  | same => exact fits.inside
  | renamed => simpa using fits.inside
  | resource =>
    intro path member
    rw [Array.size_push]
    rcases List.mem_cons.mp member with rfl | member
    · exact Nat.lt_succ_self _
    · exact (fits.inside path member).trans (Nat.lt_succ_self _)

/-- Whether the base of a site is the id of its resource. -/
def IsBased (site : Site) (assembly : Assembly) : Prop :=
  ∃ resource, assembly.resources[site.resource]? = some resource ∧ resource.id = site.base

theorem IsBased.of_spreads (based : site.IsBased before) (spreads : before.Spreads after) : site.IsBased after := by
  obtain ⟨resource, found, id⟩ := based
  obtain ⟨later, foundLater, extends_⟩ := spreads _ resource found
  exact ⟨later, foundLater, extends_.id_eq.trans id⟩

/-- A schema that declares an id gets it as its base, and so does its resource. -/
theorem Opens.isBased (opens : site.Opens registered value before opened after) (based : site.IsBased before)
    (document : site.node = 0 → site.resource = 0) : opened.IsBased after := by
  cases opens with
  | plain => exact based
  | same _ root has =>
    obtain ⟨resource, found, -⟩ := based
    exact ⟨resource, found, has resource (document root ▸ found)⟩
  | @renamed id _ root =>
    obtain ⟨resource, found, -⟩ := based
    refine ⟨{ resource with id }, ?_, rfl⟩
    rw [Array.getElem?_modify, if_pos (document root).symm, found]
    rfl
  | resource => exact ⟨_, Array.getElem?_push_size, rfl⟩

end Site

/-! ## How schemas stand in a finished document -/

/-- How many nodes and resources there are. -/
structure Extent where
  nodes : Nat
  resources : Nat

/-- How many nodes and resources an assembly has. -/
def Assembly.extent (assembly : Assembly) : Extent := ⟨assembly.nodes.size, assembly.resources.size⟩

namespace Document

/-- Whether a node is what a value was compiled to at a site, with some nodes in its slots. -/
structure Has (document : Document) (index : Nat) (value : Json) (site : Site) (below : List Nat) : Prop where
  value_eq : (document.node index).value = value
  resource_eq : (document.node index).resource = site.resource
  location_eq : (document.node index).location = site.innermost.2
  anchor_eq : (document.node index).anchor = value.anchor?
  shown : (document.node index).Shows value site.base below
  based : ∃ resource, document.resources[site.resource]? = some resource ∧ resource.id = site.base
  located : ∀ path ∈ site.paths, ∃ resource, document.resources[path.1]? = some resource ∧
    (assoc? path.2 resource.locations).isSome
  anchored : ∀ name, value.anchor? = some name → ∃ resource, document.resources[site.resource]? = some resource ∧
    (assoc? name resource.anchors).isSome

/-- What becomes of a site where a schema declares its id, given the numbers of resources before and after. -/
inductive Opens (document : Document) (site : Site) (value : Json) (resources : Nat) : Site → Nat → Prop
  | plain (plain : value.declaresId = false) : Opens document site value resources site resources
  | root {id : Url} (declares : value.Declares site.base id) (root : site.node = 0) :
      Opens document site value resources { site with base := id } resources
  | resource {id : Url} {resource : Resource} (declares : value.Declares site.base id) (inner : site.node ≠ 0)
      (found : document.resources[resources]? = some resource) (node_eq : resource.node = site.node) :
      Opens document site value resources
        { site with resource := resources, paths := (resources, .root) :: site.paths, base := id } (resources + 1)

/-- How schemas that were compiled at a site one after the other stand in a document: their numbers, and what was entered
of them and of the nodes below them into resources around. -/
inductive Lays (document : Document) :
    Site → List (List String × Json) → Extent → List Nat → List ((Nat × Pointer) × Nat) → Extent → Prop
  | nil (site : Site) (extent : Extent) : Lays document site [] extent [] [] extent
  | cons {site opened : Site} {tokens : List String} {value : Json} {slots : List (List String × Json)}
      {start middle stop : Extent} {resources : Nat} {below numbers : List Nat}
      {entries others : List ((Nat × Pointer) × Nat)}
      (opens : document.Opens ((site.descend tokens).start start.nodes) value start.resources opened resources)
      (has : document.Has start.nodes value opened below)
      (inner : Lays document opened value.slots ⟨start.nodes + 1, resources⟩ below entries middle)
      (rest : Lays document site slots middle numbers others stop) :
      Lays document site ((tokens, value) :: slots) start (start.nodes :: numbers)
        (entries ++ opened.paths.map (·, start.nodes) ++ others) stop

end Document

namespace Site

variable {registered : Bool} {site opened final : Site} {tokens : List String} {value : Json}
  {slots : List (List String × Json)} {before named middle after last : Assembly} {numbers below : List Nat}
  {shape : Shape} {dialects : DialectCache} {document : Document}

theorem paths_of_marked (marked : opened.marked final = final) : final.paths = opened.paths := by
  rw [← marked]
  rfl

/-- A finished node is what its value was compiled to. -/
theorem has_of_finished (surrounds : Surrounds before named middle final)
    (holds : document.Holds (final.finished value shape middle))
    (spreads : (final.finished value shape middle).Spreads last) (resources : document.resources = last.resources)
    (fits : opened.Fits middle.resources.size) (based : opened.IsBased last) (marked : opened.marked final = final)
    (anchored : final.anchor = value.anchor?) (shown : (final.finishedNode value shape).Shows value opened.base below) :
    document.Has before.nodes.size value opened below := by
  obtain ⟨node, -⟩ := surrounds.holds holds
  have innermost := innermost_of_marked marked
  have entered (index : Nat) (bound : index < middle.resources.size) : ∃ resource later,
      document.resources[index]? = some later ∧ (final.enteredResource index resource).Extends later := by
    obtain ⟨later, found, extends_⟩ :=
      spreads index _ ((getElem?_resources_finished index).trans (by rw [Array.getElem?_eq_getElem bound]; rfl))
    exact ⟨_, later, by rw [resources]; exact found, extends_⟩
  refine ⟨by rw [node]; rfl, ?_, by rw [node, ← innermost]; rfl, by rw [node]; exact anchored,
    by rw [node]; exact shown, by rw [resources]; exact based, ?_, ?_⟩
  · rw [node, ← fits.headed.innermost_eq, ← innermost]
    rfl
  · intro path member
    obtain ⟨resource, later, found, extends_⟩ := entered path.1 (fits.inside path member)
    have listed : path.2 ∈ (final.paths.filter (·.1 = path.1)).map (·.2) := by
      rw [paths_of_marked marked]
      exact List.mem_map_of_mem (List.mem_filter.mpr ⟨member, by simp⟩)
    have present : (assoc? path.2 (final.enteredResource path.1 resource).locations).isSome := by
      rw [locations_enteredResource, assoc?_foldl_addEntry, if_pos listed, Option.or_some]
      rfl
    obtain ⟨number, located⟩ := Option.isSome_iff_exists.mp present
    exact ⟨later, found, by rw [extends_.located _ _ located]; rfl⟩
  · intro name declared
    have head : final.innermost.1 = opened.resource := by rw [innermost, fits.headed.innermost_eq]
    have bound : opened.resource < middle.resources.size := by
      rw [← fits.headed.innermost_eq]
      exact fits.inside _ fits.headed.innermost_mem
    obtain ⟨resource, later, found, extends_⟩ := entered opened.resource bound
    refine ⟨later, found, extends_.anchored name ?_⟩
    rw [enteredResource, if_pos head, enterNode]
    dsimp only
    rw [anchored, declared]
    exact (isSome_assoc?_putEntry _ _ _ _).mpr (.inl rfl)

/-- Below the root, a node that is opened is opened in the finished document. -/
theorem Opens.stays (opens : site.Opens registered value before opened named) (inner : site.node ≠ 0)
    (spreads : named.Spreads last) (resources : document.resources = last.resources) :
    document.Opens site value before.resources.size opened named.resources.size := by
  cases opens with
  | plain plain => exact .plain plain
  | same _ root => exact absurd root inner
  | renamed _ root => exact absurd root inner
  | resource declares _ _ =>
    obtain ⟨later, found, extends_⟩ := spreads _ _ Array.getElem?_push_size
    rw [Array.size_push]
    exact .resource declares inner (by rw [resources]; exact found) extends_.node_eq

theorem mem_foldl_addEntry {node : Nat} {paths : List (Nat × Pointer)} {locations : List (Pointer × Nat)}
    {entry : Pointer × Nat}
    (member : entry ∈ paths.foldl (fun locations path => addEntry path.2 node locations) locations) :
    entry ∈ locations ∨ entry.2 = node ∧ entry.1 ∈ paths.map (·.2) := by
  induction paths generalizing locations with
  | nil => exact .inl member
  | cons path paths ih =>
    rcases ih member with inside | ⟨own, inside⟩
    · dsimp only [addEntry] at inside
      split at inside
      · exact .inl inside
      · rcases List.mem_append.mp inside with inside | same
        · exact .inl inside
        · rw [List.mem_singleton.mp same]
          exact .inr ⟨rfl, List.mem_cons_self⟩
    · exact .inr ⟨own, List.mem_cons_of_mem _ inside⟩

/-- What is entered into resources when a node is finished. -/
theorem mem_locations_finished {index : Nat} {later : Resource} {entry : Pointer × Nat}
    (found : (final.finished value shape middle).resources[index]? = some later) (member : entry ∈ later.locations) :
    (∃ resource, middle.resources[index]? = some resource ∧ entry ∈ resource.locations) ∨
      entry.2 = final.node ∧ (index, entry.1) ∈ final.paths := by
  rw [getElem?_resources_finished, Option.map_eq_some_iff] at found
  obtain ⟨resource, found, rfl⟩ := found
  rw [locations_enteredResource] at member
  rcases mem_foldl_addEntry member with inside | ⟨own, inside⟩
  · exact .inl ⟨resource, found, inside⟩
  · obtain ⟨path, inside, named⟩ := List.mem_map.mp inside
    obtain ⟨inside, here⟩ := List.mem_filter.mp inside
    refine .inr ⟨own, ?_⟩
    rw [← named, ← show path.1 = index by simpa using here]
    exact inside

theorem extent_finished : (final.finished value shape middle).extent = middle.extent := by
  rw [Assembly.extent, Assembly.extent, size_resources_finished, finished, Array.size_setIfInBounds]

/-- Whether what is entered into the resources of an assembly was there before or is among some entries. -/
def Logs (before after : Assembly) (entries : List ((Nat × Pointer) × Nat)) : Prop :=
  ∀ (index : Nat) (later : Resource), after.resources[index]? = some later → ∀ entry ∈ later.locations,
    (∃ resource, before.resources[index]? = some resource ∧ entry ∈ resource.locations) ∨
      ((index, entry.1), entry.2) ∈ entries

theorem Logs.trans {entries others : List ((Nat × Pointer) × Nat)} (first : Logs before middle entries)
    (second : Logs middle after others) : Logs before after (entries ++ others) := by
  intro index later found entry member
  rcases second index later found entry member with ⟨resource, foundEarlier, inside⟩ | new
  · exact (first index resource foundEarlier entry inside).imp_right (List.mem_append_left _)
  · exact .inr (List.mem_append_right _ new)

theorem Opens.logs (opens : site.Opens registered value before opened named) : Logs before named [] := by
  intro index later found entry member
  obtain ⟨id, ⟨earlier, present, rfl⟩ | rfl⟩ := opens.cases_of_resource found
  · exact .inl ⟨earlier, present, member⟩
  · exact absurd member List.not_mem_nil

theorem logs_finished (surrounds : Surrounds before named middle final) (marked : opened.marked final = final) :
    Logs middle (final.finished value shape middle) (opened.paths.map (·, before.nodes.size)) := by
  intro index later found entry member
  refine (mem_locations_finished found member).imp_right fun new => ?_
  rw [paths_of_marked marked, surrounds.node_eq] at new
  exact List.mem_map.mpr ⟨_, new.2, Prod.ext rfl new.1.symm⟩

/-- Below the root of a document, schemas that were compiled stand in any document that goes on from there. -/
theorem Compiles.lays (compiles : Compiles registered site slots before numbers after) (holds : document.Holds after)
    (spreads : after.Spreads last) (resources : document.resources = last.resources)
    (further : ∀ slot ∈ slots, slot.1 ≠ []) (fits : site.Fits before.resources.size) (based : site.IsBased before)
    (some : 0 < before.nodes.size) :
    ∃ entries, document.Lays site slots before.extent numbers entries after.extent ∧ Logs before after entries := by
  induction compiles with
  | nil => exact ⟨[], .nil _ _, fun index later found entry member => .inl ⟨later, found, member⟩⟩
  | @cons site opened final tokens value slots before named middle after below numbers shape dialects opens inner marked
      anchored shown rest ihInner ihRest =>
    have surrounds := surrounds_of_opens opens inner.fills marked
    have holdsFinished := holds.of_fills rest.fills
    have furtherRest (slot : List String × Json) (member : slot ∈ slots) := further slot (List.mem_cons_of_mem _ member)
    have furtherInner (slot : List String × Json) (member : slot ∈ value.slots) := Json.ne_nil_of_mem_slots member
    have fitsNamed := opens.fits (fits.descend tokens before.nodes.size)
    have someNamed : 0 < named.nodes.size := by
      rw [surrounds.named_eq, Array.size_push]
      exact Nat.succ_pos _
    have someFinished : 0 < (final.finished value shape middle).nodes.size :=
      some.trans_le surrounds.fills_finished.size
    have spreadsInner := inner.spreads furtherInner fitsNamed.headed someNamed
    have spreadsFinished : (final.finished value shape middle).Spreads last :=
      (rest.spreads furtherRest fits.headed someFinished).trans spreads
    have spreadsMade : middle.Spreads (final.finished value shape middle) :=
      spreads_finished_of_opens opens spreadsInner surrounds marked fits.headed (further _ List.mem_cons_self) some
    have spreadsMiddle : middle.Spreads last := spreadsMade.trans spreadsFinished
    have fitsMiddle := fitsNamed.mono inner.size_resources_le
    have fitsFinished : site.Fits (final.finished value shape middle).resources.size := by
      rw [size_resources_finished]
      exact fits.mono (opens.size_resources_le.trans inner.size_resources_le)
    have basedNamed : opened.IsBased named := opens.isBased based fun root => absurd root some.ne'
    have basedFinished : site.IsBased (final.finished value shape middle) :=
      based.of_spreads ((opens.spreads some.ne').trans (spreadsInner.trans spreadsMade))
    obtain ⟨entries, lays, logs⟩ :=
      ihInner (surrounds.holds holdsFinished).2 spreadsMiddle furtherInner fitsNamed basedNamed someNamed
    obtain ⟨others, laysRest, logsRest⟩ := ihRest holds spreads furtherRest fitsFinished basedFinished someFinished
    have basedLast : opened.IsBased last := basedNamed.of_spreads (spreadsInner.trans spreadsMiddle)
    have has := has_of_finished surrounds holdsFinished spreadsFinished resources fitsMiddle basedLast marked anchored
      shown
    have opensDocument := opens.stays some.ne' (spreadsInner.trans spreadsMiddle) resources
    rw [Assembly.extent, surrounds.named_eq, Array.size_push] at lays
    rw [extent_finished] at laysRest
    exact ⟨_, .cons opensDocument has lays laysRest,
      ((Logs.trans opens.logs logs).trans (logs_finished surrounds marked)).trans logsRest⟩

/-- The root of a document is opened in the finished document, and the first resource starts at it. -/
theorem Opens.stays_root (document : Document) (opens : site.Opens registered value before opened named)
    (root : site.node = 0) {resource : Resource} (found : before.resources[0]? = some resource) :
    document.Opens site value before.resources.size opened named.resources.size ∧ opened.paths = site.paths ∧
      ∃ later, named.resources[0]? = some later ∧ later.node = resource.node := by
  cases opens with
  | plain plain => exact ⟨.plain plain, rfl, resource, found, rfl⟩
  | same declares => exact ⟨.root declares root, rfl, resource, found, rfl⟩
  | @renamed id declares =>
    rw [Array.size_modify]
    refine ⟨.root declares root, rfl, { resource with id }, ?_, rfl⟩
    rw [Array.getElem?_modify, if_pos rfl, found]
    rfl
  | resource _ inner => exact absurd root inner

/-- A document is finished when its root is. -/
theorem Compiles.exists_document? {base : Url} (compiles : Compiles registered (.root Draft.dialect base) slots
    (.start Draft.dialect base registered dialects) numbers after) :
    ∃ document, after.document? = some document :=
  Assembly.exists_document? fun index bound => compiles.fills.newer index (Nat.zero_le _) bound

/-- What was compiled stands in the finished document. -/
theorem Compiles.lays_document {base : Url}
    (compiles : Compiles registered (.root Draft.dialect base) [([], value)]
      (.start Draft.dialect base registered dialects) [0] after) (finishes : after.document? = some document) :
    ∃ entries,
      document.Lays (.root Draft.dialect base) [([], value)] ⟨0, 1⟩ [0] entries after.extent ∧
      (∀ (index : Nat) (resource : Resource), document.resources[index]? = some resource →
        ∀ entry ∈ resource.locations, ((index, entry.1), entry.2) ∈ entries) ∧
      ∃ resource, document.resources[0]? = some resource ∧ resource.node = 0 := by
  obtain ⟨resources, -⟩ := Assembly.resources_of_document? finishes
  have holds : document.Holds after := fun index node found => Assembly.node_of_document? finishes found
  have fits : (Site.root Draft.dialect base).Fits 1 :=
    ⟨rfl, fun path member => by rw [List.mem_singleton.mp member]; exact Nat.zero_lt_one⟩
  cases compiles with
  | @cons _ opened final _ _ _ _ named middle _ below _ shape _ opens inner marked anchored shown rest =>
    cases rest
    have surrounds := surrounds_of_opens opens inner.fills marked
    have someNamed : 0 < named.nodes.size := by
      rw [surrounds.named_eq, Array.size_push]
      exact Nat.succ_pos _
    have furtherInner (slot : List String × Json) (member : slot ∈ value.slots) := Json.ne_nil_of_mem_slots member
    have fitsNamed := opens.fits (fits.descend [] 0)
    have spreadsInner := inner.spreads furtherInner fitsNamed.headed someNamed
    obtain ⟨opensDocument, paths, first, foundFirst, isRoot⟩ := opens.stays_root document rfl rfl
    obtain ⟨later, foundLater, extendsFirst⟩ := spreadsInner 0 first foundFirst
    have innermost : final.innermost.1 = 0 := by
      rw [innermost_of_marked marked, Site.innermost, paths]
      rfl
    have spreadsFinished : middle.Spreads (final.finished value shape middle) := by
      refine spreads_finished fun _ resource found => ?_
      rw [innermost, Option.mem_def, foundLater] at found
      rw [← Option.some.inj found, extendsFirst.node_eq, isRoot]
      exact surrounds.node_eq.symm
    have basedNamed : opened.IsBased named := opens.isBased ⟨_, rfl, rfl⟩ fun _ => rfl
    obtain ⟨entries, lays, logs⟩ :=
      inner.lays (surrounds.holds holds).2 spreadsFinished resources furtherInner fitsNamed basedNamed someNamed
    have has := has_of_finished surrounds holds (.refl _) resources (fitsNamed.mono inner.size_resources_le)
      (basedNamed.of_spreads (spreadsInner.trans spreadsFinished)) marked anchored shown
    have logsFinished : Logs middle (final.finished value shape middle) (opened.paths.map (·, 0)) :=
      logs_finished surrounds marked
    have logsWhole := (Logs.trans opens.logs logs).trans logsFinished
    rw [Assembly.extent, surrounds.named_eq, Array.size_push] at lays
    rw [extent_finished]
    refine ⟨_, .cons opensDocument has lays (.nil _ _), ?_, ?_⟩
    · intro index resource found entry member
      rw [resources] at found
      rcases logsWhole index resource found entry member with ⟨earlier, foundEarlier, old⟩ | new
      · obtain rfl : index = 0 := by
          have bound := (Array.getElem?_eq_some_iff.mp foundEarlier).1
          exact Nat.lt_one_iff.mp bound
        rw [← Option.some.inj foundEarlier] at old
        exact absurd old List.not_mem_nil
      · exact List.mem_append_left _ new
    · obtain ⟨last, foundLast, extendsLast⟩ := spreadsFinished 0 later foundLater
      exact ⟨last, by rw [resources]; exact foundLast,
        extendsLast.node_eq.trans (extendsFirst.node_eq.trans isRoot)⟩

end Site


namespace Document

variable {document : Document} {site opened : Site} {value : Json} {slots : List (List String × Json)}
  {start stop : Extent} {numbers : List Nat} {entries : List ((Nat × Pointer) × Nat)} {resources more : Nat}

theorem Opens.le (opens : document.Opens site value resources opened more) : resources ≤ more := by
  cases opens with
  | resource => exact Nat.le_succ _
  | _ => exact Nat.le_refl _

theorem Has.children_eq {index : Nat} {below : List Nat} (has : document.Has index value site below)
    (length : below.length = value.slots.length) : (document.node index).children = below := by
  rw [← Node.map_snd_slots, has.shown.slots_eq, List.map_snd_zip]
  rw [List.length_map, length]

namespace Lays

theorem length_eq (lays : document.Lays site slots start numbers entries stop) : numbers.length = slots.length := by
  induction lays with
  | nil => rfl
  | cons _ _ _ _ _ ih => rw [List.length_cons, List.length_cons, ih]

theorem le (lays : document.Lays site slots start numbers entries stop) :
    start.nodes ≤ stop.nodes ∧ start.resources ≤ stop.resources := by
  induction lays with
  | nil => exact ⟨Nat.le_refl _, Nat.le_refl _⟩
  | cons opens _ _ _ ihInner ihRest =>
    exact ⟨(Nat.le_succ _).trans (ihInner.1.trans ihRest.1), opens.le.trans (ihInner.2.trans ihRest.2)⟩

theorem inside (lays : document.Lays site slots start numbers entries stop) :
    ∀ number ∈ numbers, start.nodes ≤ number ∧ number < stop.nodes := by
  induction lays with
  | nil => exact fun number member => absurd member List.not_mem_nil
  | cons opens has inner rest ihInner ihRest =>
    have before := (Nat.le_succ _).trans inner.le.1
    refine List.forall_mem_cons.mpr ⟨⟨Nat.le_refl _, Nat.lt_of_succ_le (inner.le.1.trans rest.le.1)⟩, ?_⟩
    exact fun number member => ⟨before.trans (ihRest number member).1, (ihRest number member).2⟩

end Lays

end Document

/-! ## Compiled documents -/

namespace Schema

variable {options : Options}

/-- Whether a value compiles to a document with all of its nodes under a dialect. -/
def CompilesUnder (dialect : Dialect) (options : Options) (own : Dialect) (base : Url) (registered : Bool) (value : Json)
    (dialects : DialectCache) : Prop :=
  ∃ root assembly, Yields (Site.compileUnder dialect options registered (value.depth + 1) (.root own base) value)
    (.start own base registered dialects) root assembly

/-- Where no other dialect is known, every value that compiles does so under the draft. -/
theorem compilesUnder_of_compileDocument (only : options.KnowsOnlyDraft) {base : Url} {registered : Bool} {value : Json}
    {dialects : DialectCache}
    (succeeds : (compileDocument options Draft.dialect base registered value dialects).1.toOption.isSome = true) :
    CompilesUnder Draft.dialect options Draft.dialect base registered value dialects := by
  cases compiled : (compileDocument options Draft.dialect base registered value dialects).1 with
  | error cause =>
    rw [compiled] at succeeds
    cases succeeds
  | ok schema =>
    obtain ⟨root, assembly, yields, -⟩ := exists_assembly_of_compileDocument compiled
    exact ⟨root, assembly, Site.yields_compileUnder_of_compileWithin only rfl yields⟩

/-- A value whose nodes all compile under the draft compiles, and the document is made node by node. -/
theorem exists_document_of_compilesUnder {own : Dialect} {base : Url} {registered : Bool} {value : Json}
    {dialects : DialectCache} (names : value.NamesOnce)
    (compiles : CompilesUnder Draft.dialect options own base registered value dialects) :
    ∃ document assembly, (compileDocument options own base registered value dialects).1 = .ok ⟨document, 0⟩ ∧
      assembly.document? = some document ∧ Site.Compiles registered (.root Draft.dialect base) [([], value)]
        (.start Draft.dialect base registered dialects) [0] assembly := by
  obtain ⟨root, assembly, yields⟩ := compiles
  have made := Site.compiles_document names yields
  obtain ⟨document, finishes⟩ := made.exists_document?
  exact ⟨document, assembly,
    compileDocument_of_yields (Site.yields_compileWithin_of_compileUnder yields) finishes, finishes, made⟩

theorem registers_start (dialect : Dialect) (base : Url) (registered : Bool) (dialects : DialectCache) :
    (Assembly.start dialect base registered dialects).Registers registered := by
  have only {index : Nat} {resource : Resource}
      (found : (Assembly.start dialect base registered dialects).resources[index]? = some resource) :
      index = 0 ∧ resource.id = base ∧ resource.parent = none := by
    obtain rfl : index = 0 := Nat.lt_one_iff.mp (Array.getElem?_eq_some_iff.mp found).1
    rw [← Option.some.inj found]
    exact ⟨rfl, rfl, rfl⟩
  refine ⟨⟨_, rfl, rfl⟩, ?_, ?_, ?_⟩
  · exact fun index resource found other => absurd (only found).1 other
  · intro index resource found own
    obtain ⟨rfl, id, -⟩ := only found
    rw [id, Assembly.start, own rfl]
    exact if_pos rfl
  · intro index resource found own
    obtain ⟨rfl, id, -⟩ := only found
    rw [id, Assembly.start, own rfl]
    exact List.mem_singleton_self _

end Schema

end JsonSchema
