import JsonSchema.Proofs.Compile.Faults
import JsonSchema.Proofs.Compile.Strictness
import JsonSchema.Proofs.Pointer.Routes

/-! # Places of nodes

Every node of a document stands at a place of its own in the value that was compiled, and a location in a resource leads
from the place of its root to that of the node, under whatever dialects (`Schema.exists_isPlaced`). So what a pointer
names in a resource stands where the pointer leads in its value, and nowhere else (`Schema.pointers_agree`).
-/

namespace JsonSchema

open Compile

/-! ## Scattered places -/

theorem Diverge.append_left {one other : List String} (diverge : Diverge one other) (front : List String) :
    Diverge (front ++ one) (front ++ other) := by
  rwa [Diverge, List.prefix_append_right_inj, List.prefix_append_right_inj]

/-- Whether pointers are different and each of them goes on from one of some token lists. -/
def ScatterFrom (bases : List (List String)) (pointers : List Pointer) : Prop :=
  pointers.Nodup ∧ ∀ pointer ∈ pointers, ∃ base ∈ bases, base <+: pointer.tokens

namespace ScatterFrom

variable {bases : List (List String)} {base : List String} {pointers others : List Pointer}

theorem nil (bases : List (List String)) : ScatterFrom bases [] :=
  ⟨List.nodup_nil, fun _ member => absurd member List.not_mem_nil⟩

theorem append (first : ScatterFrom [base] pointers) (second : ScatterFrom bases others)
    (diverge : ∀ other ∈ bases, Diverge base other) : ScatterFrom (base :: bases) (pointers ++ others) := by
  constructor
  · refine List.nodup_append.mpr ⟨first.1, second.1, fun pointer member other memberOther => ?_⟩
    rintro rfl
    obtain ⟨from_, inside, ⟨more, here⟩⟩ := first.2 pointer member
    obtain ⟨other, beside, ⟨further, there⟩⟩ := second.2 pointer memberOther
    rw [List.mem_singleton.mp inside] at here
    exact (diverge other beside).append_ne more further (here.trans there.symm)
  · intro pointer member
    rcases List.mem_append.mp member with inside | inside
    · obtain ⟨from_, same, begins⟩ := first.2 pointer inside
      exact ⟨base, List.mem_cons_self, List.mem_singleton.mp same ▸ begins⟩
    · obtain ⟨from_, member, begins⟩ := second.2 pointer inside
      exact ⟨from_, List.mem_cons_of_mem _ member, begins⟩

theorem coarsen (scatter : ScatterFrom bases pointers) (begin_ : ∀ from_ ∈ bases, base <+: from_) :
    ScatterFrom [base] pointers := by
  refine ⟨scatter.1, fun pointer member => ?_⟩
  obtain ⟨from_, inside, begins⟩ := scatter.2 pointer member
  exact ⟨base, List.mem_singleton_self _, (begin_ from_ inside).trans begins⟩

/-- A pointer is different from those that go on from further down. -/
theorem cons {place : Pointer} (scatter : ScatterFrom bases pointers)
    (below : ∀ from_ ∈ bases, ∃ token, from_ = place.tokens ++ [token]) :
    ScatterFrom [place.tokens] (place :: pointers) := by
  have further : ScatterFrom [place.tokens] pointers := scatter.coarsen fun from_ member => by
    obtain ⟨token, rfl⟩ := below from_ member
    exact List.prefix_append _ _
  refine ⟨List.nodup_cons.mpr ⟨fun member => ?_, scatter.1⟩, List.forall_mem_cons.mpr ⟨?_, further.2⟩⟩
  · obtain ⟨from_, inside, begins⟩ := scatter.2 place member
    obtain ⟨token, rfl⟩ := below from_ inside
    have shorter := begins.length_le
    rw [List.length_append] at shorter
    exact absurd shorter (Nat.not_succ_le_self _)
  · exact ⟨place.tokens, List.mem_singleton_self _, List.prefix_rfl⟩

end ScatterFrom

/-! ## Places in an assembly -/

theorem getElem?_append_of_eq_some {α : Type _} {items : List α} {index : Nat} {item : α}
    (found : items[index]? = some item) (more : List α) : (items ++ more)[index]? = some item := by
  rw [List.getElem?_append_left (List.getElem?_eq_some_iff.mp found).1, found]

namespace Assembly

/-- Whether the root of a resource stands at a place, given the places of the nodes. -/
def HasRoot (assembly : Assembly) (places : List Pointer) (index : Nat) (root : Pointer) : Prop :=
  ∃ resource, assembly.resources[index]? = some resource ∧ places[resource.node]? = some root

/-- Whether the nodes of an assembly stand at places in a value, and resources find them where they stand, the first one
all of them. -/
structure Placed (whole : Json) (assembly : Assembly) (places : List Pointer) : Prop where
  length_eq : places.length = assembly.nodes.size
  leads : ∀ (index : Nat) (node : Node), assembly.nodes[index]? = some (some node) →
    ∃ place, places[index]? = some place ∧ place.resolve? whole = some node.value
  located : ∀ (index : Nat) (resource : Resource), assembly.resources[index]? = some resource →
    ∃ root, places[resource.node]? = some root ∧
      ∀ entry ∈ resource.locations, places[entry.2]? = some (root.append entry.1.tokens)
  entered : ∀ (index : Nat) (node : Node) (place : Pointer), assembly.nodes[index]? = some (some node) →
    places[index]? = some place → ∃ resource, assembly.resources[0]? = some resource ∧
      (assoc? place resource.locations).isSome

/-- Whether the nodes that were made between two assemblies stand at further places, and the roots of all resources stand
where they stood. -/
structure Occupies (whole : Json) (before : Assembly) (places : List Pointer) (after : Assembly) (more : List Pointer) :
    Prop where
  placed : after.Placed whole (places ++ more)
  kept : ∀ index root, before.HasRoot places index root → after.HasRoot (places ++ more) index root

variable {whole : Json} {before between after : Assembly} {places more others : List Pointer}

theorem Occupies.refl (placed : before.Placed whole places) : before.Occupies whole places before [] where
  placed := by rwa [List.append_nil]
  kept := by
    rw [List.append_nil]
    exact fun _ _ has => has

theorem Occupies.trans (first : before.Occupies whole places between more)
    (second : between.Occupies whole (places ++ more) after others) :
    before.Occupies whole places after (more ++ others) where
  placed := by
    rw [← List.append_assoc]
    exact second.placed
  kept index root has := by
    rw [← List.append_assoc]
    exact second.kept index root (first.kept index root has)

/-- A change of resources that touches neither their roots nor their locations leaves all places as they are. -/
theorem occupies_of_map (placed : before.Placed whole places) (change : Nat → Resource → Resource)
    (nodes : after.nodes = before.nodes)
    (resources : ∀ index : Nat, after.resources[index]? = (before.resources[index]?).map (change index))
    (keeps : ∀ index resource, (change index resource).node = resource.node ∧
      (change index resource).locations = resource.locations) : before.Occupies whole places after [] where
  placed := by
    rw [List.append_nil]
    refine ⟨by rw [placed.length_eq, nodes], by rw [nodes]; exact placed.leads, ?_, ?_⟩
    · intro index later found
      rw [resources, Option.map_eq_some_iff] at found
      obtain ⟨resource, found, rfl⟩ := found
      rw [(keeps index resource).1, (keeps index resource).2]
      exact placed.located index resource found
    · intro index node place finished stands
      rw [nodes] at finished
      obtain ⟨resource, found, entered⟩ := placed.entered index node place finished stands
      exact ⟨change 0 resource, by rw [resources, found]; rfl, by rwa [(keeps 0 resource).2]⟩
  kept := by
    rintro index root ⟨resource, found, stands⟩
    rw [List.append_nil]
    exact ⟨_, by rw [resources, found]; rfl, by rwa [(keeps index resource).1]⟩

/-- A new node stands at a new place. -/
theorem Placed.push (placed : before.Placed whole places) (place : Pointer) :
    before.Occupies whole places { before with nodes := before.nodes.push none } [place] where
  placed := by
    refine ⟨by simp [placed.length_eq], ?_, ?_, ?_⟩
    · intro index node found
      obtain ⟨own, stands, leads⟩ := placed.leads index node (getElem?_of_push_none found)
      exact ⟨own, getElem?_append_of_eq_some stands _, leads⟩
    · intro index resource found
      obtain ⟨root, stands, entries⟩ := placed.located index resource found
      exact ⟨root, getElem?_append_of_eq_some stands _, fun entry member =>
        getElem?_append_of_eq_some (entries entry member) _⟩
    · intro index node own found stands
      obtain ⟨earlier, standsEarlier, -⟩ := placed.leads index node (getElem?_of_push_none found)
      refine placed.entered index node own (getElem?_of_push_none found) ?_
      rw [standsEarlier, ← stands, getElem?_append_of_eq_some standsEarlier]
  kept := by
    rintro index root ⟨resource, found, stands⟩
    exact ⟨resource, found, getElem?_append_of_eq_some stands _⟩

end Assembly

namespace Site

/-- Whether the paths of a site lead to it from the roots of the resources around it. -/
structure IsAround (site : Site) (assembly : Assembly) (places : List Pointer) : Prop where
  headed : site.IsHeaded
  outermost : (0, site.location) ∈ site.paths
  around : ∀ path ∈ site.paths, ∃ root, assembly.HasRoot places path.1 root ∧ root.append path.2.tokens = site.location

/-- Whether, moreover, the node of a site stands where the site is. -/
structure IsPlaced (site : Site) (assembly : Assembly) (places : List Pointer) : Prop extends
    site.IsAround assembly places where
  own : places[site.node]? = some site.location

variable {whole : Json} {site other : Site} {before after : Assembly} {places more : List Pointer}

theorem IsAround.occupies (isAround : site.IsAround before places) (occupies : before.Occupies whole places after more) :
    site.IsAround after (places ++ more) where
  headed := isAround.headed
  outermost := isAround.outermost
  around path member := by
    obtain ⟨root, has, same⟩ := isAround.around path member
    exact ⟨root, occupies.kept _ _ has, same⟩

theorem IsPlaced.occupies (isPlaced : site.IsPlaced before places) (occupies : before.Occupies whole places after more) :
    site.IsPlaced after (places ++ more) where
  toIsAround := isPlaced.toIsAround.occupies occupies
  own := getElem?_append_of_eq_some isPlaced.own _

theorem IsPlaced.stays (isPlaced : site.IsPlaced before places) (occupies : before.Occupies whole places after []) :
    site.IsPlaced after places := by
  have stands := isPlaced.occupies occupies
  rwa [List.append_nil] at stands

theorem IsAround.descend (isAround : site.IsAround before places) (tokens : List String) :
    (site.descend tokens).IsAround before places where
  headed := isAround.headed.descend tokens site.node
  outermost := List.mem_map.mpr ⟨_, isAround.outermost, rfl⟩
  around path member := by
    obtain ⟨outer, inside, rfl⟩ := List.mem_map.mp member
    obtain ⟨root, has, same⟩ := isAround.around outer inside
    refine ⟨root, has, ?_⟩
    rw [Site.descend, ← same, Pointer.append_append]
    rfl

end Site

/-! ## Keywords -/

namespace KeywordSite

open Assembly

variable {whole value : Json} {registered : Bool} {sub : Site → Json → Compile Nat} {before after : Assembly}
  {places : List Pointer} {place : KeywordSite} {meaning : StandardKeyword} {result : Site × Option Rule}

/-- Whether values are compiled at sites that lead to them so that the new nodes stand at further places. -/
def OccupiesBelow (whole : Json) (sub : Site → Json → Compile Nat) : Prop :=
  ∀ site inner before number after places, before.Placed whole places → site.IsAround before places →
    site.location.resolve? whole = some inner → Yields (sub site inner) before number after →
      ∃ more, before.Occupies whole places after more ∧ ScatterFrom [site.location.tokens] more

theorem occupies_compileSlots (below : OccupiesBelow whole sub) {slots : List (List String × Json)}
    (leads : ∀ slot ∈ slots, (place.site.descend (place.keyword :: slot.1)).location.resolve? whole = some slot.2)
    (diverge : (slots.map (·.1)).Pairwise Diverge) (placed : before.Placed whole places)
    (isAround : place.site.IsAround before places) {numbers : List Nat}
    (yields : Yields (place.compileSlots sub slots) before numbers after) :
    ∃ more, before.Occupies whole places after more ∧
      ScatterFrom (slots.map fun slot => place.location.tokens ++ slot.1) more := by
  induction slots generalizing before places numbers with
  | nil =>
    obtain ⟨rfl, rfl⟩ := yields_compileSlots_nil.mp yields
    exact ⟨[], .refl placed, .nil _⟩
  | cons slot slots ih =>
    obtain ⟨number, rest, between, rfl, first, others⟩ := yields_compileSlots_cons.mp yields
    obtain ⟨away, diverge⟩ := List.pairwise_cons.mp diverge
    obtain ⟨more, occupies, scatter⟩ :=
      below _ _ _ _ _ _ placed (isAround.descend _) (leads slot List.mem_cons_self) first
    obtain ⟨further, occupiesRest, scatterRest⟩ := ih
      (fun other member => leads other (List.mem_cons_of_mem _ member)) diverge occupies.placed
      (isAround.occupies occupies) others
    have here : (place.site.descend (place.keyword :: slot.1)).location.tokens = place.location.tokens ++ slot.1 := by
      simp [Site.descend, KeywordSite.location, Pointer.append, Pointer.push]
    rw [here] at scatter
    refine ⟨more ++ further, occupies.trans occupiesRest, scatter.append scatterRest fun other member => ?_⟩
    obtain ⟨beside, inside, rfl⟩ := List.mem_map.mp member
    exact (away beside.1 (List.mem_map_of_mem inside)).append_left _

/-- A resource that starts at a node has its root where the node stands. -/
theorem occupies_of_opens {site opened : Site} (placed : before.Placed whole places)
    (isPlaced : site.IsPlaced before places) (opens : site.Opens registered value before opened after) :
    before.Occupies whole places after [] ∧ opened.IsPlaced after places ∧ opened.location = site.location := by
  have headed := isPlaced.headed.opens opens
  cases opens with
  | plain => exact ⟨.refl placed, isPlaced, rfl⟩
  | same => exact ⟨.refl placed, ⟨⟨headed, isPlaced.outermost, isPlaced.around⟩, isPlaced.own⟩, rfl⟩
  | @renamed id =>
    have occupies : before.Occupies whole places { before with
        taken := id :: before.taken
        ids := if registered then putEntry id 0 before.ids else before.ids
        resources := before.resources.modify 0 fun resource => { resource with id } } [] :=
      occupies_of_map placed _ rfl (getElem?_modify_zero before.resources _) fun index resource => by
        split <;> exact ⟨rfl, rfl⟩
    have stays := isPlaced.stays occupies
    exact ⟨occupies, ⟨⟨headed, stays.outermost, stays.around⟩, stays.own⟩, rfl⟩
  | @resource id =>
    have occupies : before.Occupies whole places { before with
        taken := id :: before.taken
        ids := putEntry id before.resources.size before.ids
        resources := before.resources.push
          ⟨id, site.node, some site.resource, site.dialect, [], [], []⟩ } [] := by
      constructor
      · rw [List.append_nil]
        refine ⟨placed.length_eq, placed.leads, fun index resource found => ?_, ?_⟩
        · rcases eq_or_of_getElem?_push found with ⟨-, rfl⟩ | earlier
          · exact ⟨_, isPlaced.own, fun entry member => absurd member List.not_mem_nil⟩
          · exact placed.located index resource earlier
        · intro index node place finished stands
          obtain ⟨resource, found, entered⟩ := placed.entered index node place finished stands
          exact ⟨resource, getElem?_push_of_eq_some found _, entered⟩
      · rintro index root ⟨resource, found, stands⟩
        rw [List.append_nil]
        exact ⟨resource, getElem?_push_of_eq_some found _, stands⟩
    have stays := isPlaced.stays occupies
    refine ⟨occupies, ⟨⟨headed, List.mem_cons_of_mem _ stays.outermost,
      List.forall_mem_cons.mpr ⟨?_, stays.around⟩⟩, stays.own⟩, rfl⟩
    exact ⟨site.location, ⟨_, Array.getElem?_push_size, isPlaced.own⟩, Pointer.append_nil _⟩

/-- A keyword whose value is found at its location puts the nodes that it makes where they are found, and stays at its
place. -/
theorem occupies_compile (names : whole.NamesOnce) (countable : whole.IsCountable) (below : OccupiesBelow whole sub)
    (placed : before.Placed whole places) (isPlaced : place.site.IsPlaced before places)
    (leads : place.location.resolve? whole = some value)
    (yields : Yields (place.compile registered sub meaning value) before result after) :
    ∃ more, before.Occupies whole places after more ∧ ScatterFrom [place.location.tokens] more ∧
      result.1.IsPlaced after (places ++ more) ∧ result.1.location = place.site.location := by
  by_cases identifies : meaning = .id
  · subst identifies
    have present : (Json.object [(StandardKeyword.id.name, value)]).member? StandardKeyword.id.name = some value := rfl
    obtain ⟨occupies, placedResult, same⟩ := occupies_of_opens placed isPlaced (opens_of_yields _ present yields).1
    refine ⟨[], occupies, .nil _, ?_, same⟩
    rwa [List.append_nil]
  · obtain ⟨marked, numbers, slots, -⟩ := fillsSlots meaning value identifies _ _ _ _ _ _ yields
    have distinct := names _ (Pointer.values_subset_of_resolve? leads (Json.self_mem_values value))
    obtain ⟨more, occupies, scatter⟩ := occupies_compileSlots below
      (fun slot member => resolve?_slot names countable leads meaning member) (meaning.pairwise_slots distinct) placed
      isPlaced.toIsAround slots
    have stays := isPlaced.occupies occupies
    rw [← marked]
    refine ⟨more, occupies, scatter.coarsen fun from_ member => ?_,
      ⟨⟨stays.headed, stays.outermost, stays.around⟩, stays.own⟩, rfl⟩
    obtain ⟨slot, -, rfl⟩ := List.mem_map.mp member
    exact List.prefix_append _ _

end KeywordSite

/-! ## Nodes -/

namespace Site

open Assembly KeywordSite

variable {whole value : Json} {options : Options} {registered : Bool} {sub : Site → Json → Compile Nat}
  {before after : Assembly} {places : List Pointer} {site : Site} {members : List (String × Json)}

theorem occupies_selectDialect {selected : Site} (placed : before.Placed whole places)
    (isPlaced : site.IsPlaced before places)
    (yields : Yields (site.selectDialect options members) before selected after) :
    before.Occupies whole places after [] ∧ selected.IsPlaced after places ∧ selected.location = site.location := by
  rcases cases_of_yields_selectDialect yields with ⟨-, rfl, rfl⟩ | ⟨value, dialect, dialects, -, -, rfl, rfl⟩
  · exact ⟨.refl placed, isPlaced, rfl⟩
  · have occupies : before.Occupies whole places { before with
        dialects
        resources := if site.node = 0 then before.resources.modify 0 fun resource => { resource with dialect }
          else before.resources } [] :=
      occupies_of_map placed _ rfl (getElem?_resources_selected before.resources dialect site) fun index resource => by
        split <;> exact ⟨rfl, rfl⟩
    have stays := isPlaced.stays occupies
    exact ⟨occupies, ⟨⟨stays.headed, stays.outermost, stays.around⟩, stays.own⟩, rfl⟩

theorem occupies_compileKeywords (names : whole.NamesOnce) (countable : whole.IsCountable)
    (below : OccupiesBelow whole sub) {entries : List (KeywordEntry Json)}
    (inside : ∀ entry ∈ entries, (entry.spec.keyword, entry.item) ∈ members)
    (once : (entries.map (·.spec.keyword)).Nodup) (placed : before.Placed whole places)
    (isPlaced : site.IsPlaced before places) (leads : site.location.resolve? whole = some (.object members))
    {result : Site × List Rule} (yields : Yields (compileKeywords registered sub site entries) before result after) :
    ∃ more, before.Occupies whole places after more ∧
      ScatterFrom (entries.map fun entry => site.location.tokens ++ [entry.spec.keyword]) more ∧
      result.1.IsPlaced after (places ++ more) ∧ result.1.location = site.location := by
  have distinct := (names.mono (Pointer.values_subset_of_resolve? leads)).nodup
  induction entries generalizing site before places result with
  | nil =>
    obtain ⟨rfl, rfl⟩ := yields_compileKeywords_nil.mp yields
    refine ⟨[], .refl placed, .nil _, ?_, rfl⟩
    rwa [List.append_nil]
  | cons entry entries ih =>
    obtain ⟨first, between, rest, yieldsFirst, yieldsRest, rfl⟩ := yields_compileKeywords_cons.mp yields
    obtain ⟨fresh, once⟩ := List.nodup_cons.mp once
    have member := assoc?_of_mem distinct (inside entry List.mem_cons_self)
    obtain ⟨more, occupies, scatter, placedFirst, same⟩ :=
      occupies_compile names countable below placed isPlaced (resolve?_of_mem leads member) yieldsFirst
    obtain ⟨further, occupiesRest, scatterRest, placedRest, sameRest⟩ := ih
      (fun other member => inside other (List.mem_cons_of_mem _ member)) once occupies.placed placedFirst
      (by rw [same]; exact leads) yieldsRest
    rw [same] at scatterRest
    refine ⟨more ++ further, occupies.trans occupiesRest, scatter.append scatterRest fun other member => ?_, ?_,
      sameRest.trans same⟩
    · obtain ⟨beside, inside, rfl⟩ := List.mem_map.mp member
      have different : entry.spec.keyword ≠ beside.spec.keyword := fun named =>
        fresh (List.mem_map.mpr ⟨beside, inside, named.symm⟩)
      exact (diverge_of_head different [] []).append_left _
    · rwa [← List.append_assoc]

theorem occupies_compileShape (names : whole.NamesOnce) (countable : whole.IsCountable)
    (below : OccupiesBelow whole sub) (placed : before.Placed whole places) (isPlaced : site.IsPlaced before places)
    (leads : site.location.resolve? whole = some value) {made : Site × Shape}
    (yields : Yields (site.compileShape options registered sub value) before made after) :
    ∃ more, before.Occupies whole places after more ∧ ScatterFrom [site.location.tokens] (site.location :: more) ∧
      made.1.IsPlaced after (places ++ more) ∧ made.1.location = site.location := by
  cases value with
  | bool accepts =>
    obtain ⟨rfl, rfl⟩ := yields_pure.mp yields
    refine ⟨[], .refl placed, (ScatterFrom.nil []).cons fun _ impossible => absurd impossible List.not_mem_nil, ?_, rfl⟩
    rwa [List.append_nil]
  | object members =>
    obtain ⟨selected, start, rules, complete, selects, keywords, -⟩ := yields_compileShape_object.mp yields
    obtain ⟨occupies, placedSelected, same⟩ := occupies_selectDialect placed isPlaced selects
    have placedStart := occupies.placed
    rw [List.append_nil] at placedStart
    have distinct := (names.mono (Pointer.values_subset_of_resolve? leads)).nodup
    obtain ⟨more, occupiesRest, scatter, placedFinal, sameFinal⟩ := occupies_compileKeywords names countable below
      (fun _ => mem_of_mem_inOrder) (Dialect.nodup_keywords_inOrder selected.dialect distinct) placedStart
      placedSelected (by rw [same]; exact leads) keywords
    rw [same] at scatter
    refine ⟨more, ?_, scatter.cons fun from_ member => ?_, placedFinal, sameFinal.trans same⟩
    · have whole := occupies.trans (by rwa [List.append_nil])
      rwa [List.nil_append] at whole
    · obtain ⟨entry, -, rfl⟩ := List.mem_map.mp member
      exact ⟨_, rfl⟩
  | _ => exact absurd yields yields_throw

/-- A resource finds something under the paths to a node that is entered into it, and where it did before. -/
theorem isSome_assoc?_enteredResource {index : Nat} {resource : Resource} {pointer : Pointer} :
    (assoc? pointer (site.enteredResource index resource).locations).isSome ↔
      (assoc? pointer resource.locations).isSome ∨ (index, pointer) ∈ site.paths := by
  have listed : pointer ∈ (site.paths.filter (·.1 = index)).map (·.2) ↔ (index, pointer) ∈ site.paths := by simp
  rw [locations_enteredResource, assoc?_foldl_addEntry, Option.isSome_or, Bool.or_eq_true, ← listed]
  refine or_congr_right ?_
  split
  · next inside => exact iff_of_true rfl inside
  · next outside => exact iff_of_false Bool.false_ne_true outside

/-- The root of a resource into which a node is entered stands where it stood. -/
theorem IsPlaced.root_enteredResource (isPlaced : site.IsPlaced before places) {index : Nat} {resource : Resource}
    {root : Pointer} (found : before.resources[index]? = some resource) (stands : places[resource.node]? = some root) :
    places[(site.enteredResource index resource).node]? = some root := by
  unfold enteredResource enterNode
  dsimp only
  split
  · next own =>
    dsimp only
    split
    · next isRoot =>
      -- The site is the root of the resource, so the root of the resource stands where the site is.
      obtain ⟨outer, ⟨same, foundSame, standsSame⟩, location⟩ := isPlaced.around _ isPlaced.headed.innermost_mem
      rw [own, found] at foundSame
      rw [← Option.some.inj foundSame, stands] at standsSame
      rw [List.isEmpty_iff.mp isRoot, Pointer.append_nil, ← Option.some.inj standsSame] at location
      rw [isPlaced.own, location]
    · exact stands
  · exact stands

/-- A finished node has the value that was compiled, and all others are as they were. -/
theorem finished_cases {shape : Shape} {index : Nat} {node : Node}
    (found : (site.finished value shape before).nodes[index]? = some (some node)) :
    index = site.node ∧ node.value = value ∨ before.nodes[index]? = some (some node) :=
  (eq_or_of_getElem?_setIfInBounds found).imp_left fun ⟨own, same⟩ => ⟨own, same ▸ rfl⟩

/-- A node that is finished stands where its site is, and is entered into the resources around under the paths from their
roots. -/
theorem placed_finished {shape : Shape} (placed : before.Placed whole places) (isPlaced : site.IsPlaced before places)
    (leads : site.location.resolve? whole = some value) : (site.finished value shape before).Placed whole places := by
  refine ⟨?_, ?_, ?_, ?_⟩
  · rw [placed.length_eq, finished, Array.size_setIfInBounds]
  · intro index node found
    rcases finished_cases found with ⟨rfl, same⟩ | earlier
    · exact ⟨site.location, isPlaced.own, by rw [same]; exact leads⟩
    · exact placed.leads index node earlier
  · intro index later found
    have entered := found
    rw [getElem?_resources_finished, Option.map_eq_some_iff] at found
    obtain ⟨resource, found, rfl⟩ := found
    obtain ⟨place, stands, entries⟩ := placed.located index resource found
    refine ⟨place, isPlaced.root_enteredResource found stands, fun entry member => ?_⟩
    rcases mem_locations_finished entered member with ⟨same, foundSame, inside⟩ | ⟨own, inside⟩
    · obtain rfl := Option.some.inj (found.symm.trans foundSame)
      exact entries entry inside
    · obtain ⟨outer, ⟨same, foundSame, standsSame⟩, location⟩ := isPlaced.around _ inside
      rw [found] at foundSame
      rw [← Option.some.inj foundSame, stands] at standsSame
      rw [own, isPlaced.own, Option.some.inj standsSame, location]
  · intro index node place found stands
    have enters {resource : Resource} (foundResource : before.resources[0]? = some resource)
        (inside : (assoc? place resource.locations).isSome ∨ (0, place) ∈ site.paths) :
        ∃ later, (site.finished value shape before).resources[0]? = some later ∧
          (assoc? place later.locations).isSome :=
      ⟨_, by rw [getElem?_resources_finished, foundResource]; rfl, isSome_assoc?_enteredResource.mpr inside⟩
    rcases finished_cases found with ⟨rfl, -⟩ | earlier
    · obtain ⟨outer, ⟨resource, foundResource, -⟩, -⟩ := isPlaced.around _ isPlaced.outermost
      obtain rfl := Option.some.inj (isPlaced.own.symm.trans stands)
      exact enters foundResource (.inr isPlaced.outermost)
    · obtain ⟨resource, foundResource, entered⟩ := placed.entered index node place earlier stands
      exact enters foundResource (.inl entered)

theorem occupies_finished {shape : Shape} (placed : before.Placed whole places) (isPlaced : site.IsPlaced before places)
    (leads : site.location.resolve? whole = some value) :
    before.Occupies whole places (site.finished value shape before) [] := by
  constructor
  · rw [List.append_nil]
    exact placed_finished placed isPlaced leads
  · rintro index place ⟨resource, found, stands⟩
    rw [List.append_nil]
    refine ⟨site.enteredResource index resource, ?_, isPlaced.root_enteredResource found stands⟩
    rw [getElem?_resources_finished, found]
    rfl

/-- A node for whose place room has been made is compiled at this place. -/
theorem occupies_started (names : whole.NamesOnce) (countable : whole.IsCountable) {depth : Nat}
    (below : OccupiesBelow whole (compileWithin options registered depth))
    (placed : { before with nodes := before.nodes.push none }.Placed whole (places ++ [site.location]))
    (isAround : site.IsAround { before with nodes := before.nodes.push none } (places ++ [site.location]))
    (leads : site.location.resolve? whole = some value) {number : Nat}
    (yields : Yields (compileWithin options registered (depth + 1) site value) before number after) :
    ∃ more, { before with nodes := before.nodes.push none }.Occupies whole (places ++ [site.location]) after more ∧
      ScatterFrom [site.location.tokens] (site.location :: more) := by
  obtain ⟨-, made, middle, shapes, finishes⟩ := yields_compileNode.mp yields
  have length : places.length = before.nodes.size := by simpa using placed.length_eq
  have isPlaced : (site.start before.nodes.size).IsPlaced { before with nodes := before.nodes.push none }
      (places ++ [site.location]) :=
    ⟨⟨isAround.headed, isAround.outermost, isAround.around⟩, by rw [← length]; exact List.getElem?_concat_length⟩
  obtain ⟨more, occupies, scatter, placedFinal, same⟩ :=
    occupies_compileShape names countable below placed isPlaced leads shapes
  obtain rfl := yields_finish.mp finishes
  have leadsFinal : made.1.location.resolve? whole = some value := by
    rw [same]
    exact leads
  have finishes : middle.Occupies whole _ (made.1.finished value made.2 middle) [] :=
    occupies_finished occupies.placed placedFinal leadsFinal
  refine ⟨more, ?_, scatter⟩
  have throughout := occupies.trans finishes
  rwa [List.append_nil] at throughout

variable (options registered) in
theorem occupies_compileWithin (names : whole.NamesOnce) (countable : whole.IsCountable) (depth : Nat) :
    OccupiesBelow whole (compileWithin options registered depth) := by
  induction depth with
  | zero => exact fun _ _ _ _ _ _ _ _ _ yields => absurd yields yields_throw
  | succ depth ih =>
    intro site inner before number after places placed isAround leads yields
    have pushed := placed.push site.location
    obtain ⟨more, occupies, scatter⟩ :=
      occupies_started names countable ih pushed.placed (isAround.occupies pushed) leads yields
    exact ⟨site.location :: more, pushed.trans occupies, scatter⟩

end Site

/-! ## Documents -/

/-- Whether the nodes of a document stand at places in a value, under which the document finds them, and what a pointer
names in a resource stands where the pointer leads from the place of the root. -/
structure Document.IsPlaced (document : Document) (whole : Json) (place : Nat → Pointer) : Prop where
  leads : ∀ index < document.nodes.size, (place index).resolve? whole = some (document.node index).value
  found : ∀ index < document.nodes.size,
    (⟨document, 0⟩ : Schema).nodeOfFragment? (place index).text .standard = some index
  names : ∀ (resource : Nat) (pointer : Pointer) (number : Nat),
    (⟨document, resource⟩ : Schema).nodeOfFragment? pointer.text .standard = some number →
      (⟨document, resource⟩ : Schema).rootIndex < document.nodes.size ∧ number < document.nodes.size ∧
        place number = (place (⟨document, resource⟩ : Schema).rootIndex).append pointer.tokens

/-- What a pointer names in a resource is what it leads to in the value of the resource. -/
theorem Document.IsPlaced.resolves {document : Document} {whole : Json} {place : Nat → Pointer}
    (isPlaced : document.IsPlaced whole place) {resource number : Nat} {pointer : Pointer}
    (named : (⟨document, resource⟩ : Schema).nodeOfFragment? pointer.text .standard = some number) :
    pointer.resolve? (⟨document, resource⟩ : Schema).value = some (document.node number).value := by
  obtain ⟨rootBound, bound, same⟩ := isPlaced.names resource pointer number named
  have leads := isPlaced.leads number bound
  rw [same, Pointer.resolve?, Pointer.append, Pointer.follow?_append] at leads
  obtain ⟨root, leadsRoot, further⟩ := Option.bind_eq_some_iff.mp leads
  obtain rfl := Option.some.inj (leadsRoot.symm.trans (isPlaced.leads _ rootBound))
  exact further

/-- If the places are different, the document finds every node under its place. -/
theorem Assembly.Placed.finds {whole : Json} {assembly : Assembly} {places : List Pointer}
    (placed : assembly.Placed whole places) (distinct : places.Nodup) (rooted : assembly.HasRoot places 0 .root)
    {index : Nat} {node : Node} {place : Pointer} (finished : assembly.nodes[index]? = some (some node))
    (stands : places[index]? = some place) : ∃ resource, assembly.resources[0]? = some resource ∧
      resource.nodeOfFragment? place.text .standard = some index := by
  obtain ⟨resource, found, entered⟩ := placed.entered index node place finished stands
  have only {number : Nat} (same : places[number]? = some place) : number = index :=
    ((List.getElem?_inj (List.getElem?_eq_some_iff.mp stands).1 distinct).mp (stands.trans same.symm)).symm
  obtain ⟨root, foundRoot, standsRoot⟩ := rooted
  obtain rfl := Option.some.inj (found.symm.trans foundRoot)
  refine ⟨resource, found, ?_⟩
  rw [Resource.nodeOfFragment?_text]
  split
  · next isRoot =>
    have same : Pointer.root = place := congrArg Pointer.mk (List.isEmpty_iff.mp isRoot).symm
    rw [only (standsRoot.trans (congrArg some same))]
  · obtain ⟨number, named⟩ := Option.isSome_iff_exists.mp entered
    obtain ⟨outer, standsOuter, entries⟩ := placed.located 0 resource found
    obtain rfl := Option.some.inj (standsRoot.symm.trans standsOuter)
    have same := only (entries _ (mem_of_assoc? named))
    dsimp only at same
    rw [named, same]

/-- An assembly whose nodes stand at different places is finished to a document whose nodes stand there. -/
theorem Assembly.Placed.isPlaced {whole : Json} {assembly : Assembly} {places : List Pointer} {document : Document}
    (placed : assembly.Placed whole places) (distinct : places.Nodup) (rooted : assembly.HasRoot places 0 .root)
    (finished : assembly.document? = some document) : document.IsPlaced whole (places.getD · .root) := by
  have size := Assembly.size_of_document? finished
  have stands {index : Nat} {place : Pointer} (found : places[index]? = some place) :
      index < document.nodes.size ∧ places.getD index .root = place := by
    rw [size, ← placed.length_eq, List.getD_eq_getElem?_getD, found]
    exact ⟨(List.getElem?_eq_some_iff.mp found).1, rfl⟩
  constructor
  · intro index bound
    rw [size] at bound
    obtain ⟨place, found, leads⟩ := placed.leads index _ (Assembly.exists_node_of_document? finished bound)
    rw [(stands found).2]
    exact leads
  · intro index bound
    rw [size] at bound
    have node := Assembly.exists_node_of_document? finished bound
    obtain ⟨place, stand, -⟩ := placed.leads index _ node
    obtain ⟨resource, found, named⟩ := placed.finds distinct rooted node stand
    rw [(stands stand).2, Schema.nodeOfFragment?, Schema.info?, (Assembly.resources_of_document? finished).1, found]
    exact named
  · intro index pointer number named
    obtain ⟨resource, found, named⟩ := Option.bind_eq_some_iff.mp named
    have root : (⟨document, index⟩ : Schema).rootIndex = resource.node := by rw [Schema.rootIndex, found]; rfl
    rw [Schema.info?, (Assembly.resources_of_document? finished).1] at found
    obtain ⟨place, foundRoot, entries⟩ := placed.located index resource found
    rw [Resource.nodeOfFragment?_text] at named
    rw [root, (stands foundRoot).2]
    refine ⟨(stands foundRoot).1, ?_⟩
    split at named
    · next isRoot =>
      rw [← Option.some.inj named, (stands foundRoot).2, List.isEmpty_iff.mp isRoot, Pointer.append_nil]
      exact ⟨(stands foundRoot).1, rfl⟩
    · exact stands (entries _ (mem_of_assoc? named))

namespace Schema

/-- The nodes of a compiled document stand at places in its value. -/
theorem exists_isPlaced {options : Options} {dialect : Dialect} {base : Url} {registered : Bool} {value : Json}
    {dialects : DialectCache} {schema : Schema} (names : value.NamesOnce) (countable : value.IsCountable)
    (compiled : (compileDocument options dialect base registered value dialects).1 = .ok schema) :
    ∃ place, schema.document.IsPlaced value place := by
  obtain ⟨root, assembly, yields, finished, -⟩ := exists_assembly_of_compileDocument compiled
  -- The document itself is a resource before its node has a place, so the first node is not like those below it.
  let start : Assembly := .start dialect base registered dialects
  have placed : { start with nodes := start.nodes.push none }.Placed value ([] ++ [Pointer.root]) := by
    have unfinished {index : Nat} {node : Node} (found : (start.nodes.push none)[index]? = some (some node)) : False := by
      rcases Array.mem_push.mp (Array.mem_of_getElem? found) with inside | impossible
      · exact absurd inside (by simp [start, Assembly.start])
      · cases impossible
    refine ⟨rfl, fun _ _ found => (unfinished found).elim, fun index resource found => ?_,
      fun _ _ _ found => (unfinished found).elim⟩
    have member : resource ∈ start.resources := Array.mem_of_getElem? found
    rw [Array.mem_singleton.mp member]
    exact ⟨.root, rfl, fun entry impossible => absurd impossible List.not_mem_nil⟩
  have isAround : (Site.root dialect base).IsAround { start with nodes := start.nodes.push none }
      ([] ++ [Pointer.root]) := by
    refine ⟨rfl, List.mem_singleton_self _, fun path member => ?_⟩
    rw [List.mem_singleton.mp member]
    exact ⟨.root, ⟨_, rfl, rfl⟩, rfl⟩
  obtain ⟨more, occupies, scatter⟩ := Site.occupies_started names countable
    (Site.occupies_compileWithin options registered names countable _) placed isAround rfl yields
  exact ⟨_, occupies.placed.isPlaced scatter.1 (occupies.kept 0 .root ⟨_, rfl, rfl⟩) finished⟩

/-- The indices are the numerals of words. Different pointers into a value take different routes, to whose ends they
resolve, and a pointer that goes on with another resolves to what the other resolves to behind it. So a compiled
document finds every node under its place, and what a pointer names in a resource is what it leads to in the value of
the resource, where no other pointer leads along the same route. -/
theorem pointers_agree :
    (∀ (token : String) (n : Nat), Pointer.index? token = some n ↔ token = toString n ∧ n ≤ Word.greatest) ∧
      (∀ (p : Pointer) (value found : Json), p.resolve? value = some found ↔
        ∃ route, p.route? value = some route ∧ value.walk? route = some found) ∧
      (∀ (p q : Pointer) (value found other : Json), p.resolve? value = some found → q.resolve? value = some other →
        p ≠ q → p.route? value ≠ q.route? value) ∧
      (∀ (p q : Pointer) (value : Json), (p.append q.tokens).resolve? value = (p.resolve? value).bind q.resolve?) ∧
      ∀ {options : Options} {dialect : Dialect} {base : Url} {registered : Bool} {value : Json}
        {dialects : DialectCache} {schema : Schema}, value.NamesOnce → value.IsCountable →
        (compileDocument options dialect base registered value dialects).1 = .ok schema →
          ∃ place, schema.document.IsPlaced value place ∧
            ∀ (resource : Nat) (pointer : Pointer) (number : Nat),
              (⟨schema.document, resource⟩ : Schema).nodeOfFragment? pointer.text .standard = some number →
                pointer.resolve? (⟨schema.document, resource⟩ : Schema).value =
                  some (schema.document.node number).value ∧
                ∀ other : Pointer, other.route? (⟨schema.document, resource⟩ : Schema).value =
                  pointer.route? (⟨schema.document, resource⟩ : Schema).value → other = pointer := by
  have unique {p q : Pointer} {value found : Json} (resolves : p.resolve? value = some found)
      (same : q.route? value = p.route? value) : q = p := by
    obtain ⟨route, taken, -⟩ := Pointer.resolve?_eq_some_iff.mp resolves
    exact Pointer.eq_of_route? (same.trans taken) taken
  refine ⟨fun _ _ => Pointer.index?_eq_some_iff, fun _ _ _ => Pointer.resolve?_eq_some_iff, ?_, ?_, ?_⟩
  · exact fun p q value found other resolves _ different same => different (unique resolves same.symm).symm
  · exact fun p q value => Pointer.follow?_append _ _ _
  · intro options dialect base registered value dialects schema names countable compiled
    obtain ⟨place, isPlaced⟩ := exists_isPlaced names countable compiled
    exact ⟨place, isPlaced, fun resource pointer number named =>
      ⟨isPlaced.resolves named, fun other same => unique (isPlaced.resolves named) same⟩⟩

/-- A node below an id, in an array and below names that have to be escaped. -/
theorem pointers_agree_embedded :
    let value : Json := .object [("$defs", .object [("a/b~", .object [("$id", .string "x"),
      ("allOf", .array [.bool true, .object [("properties", .object [("", .bool false)])]])])])]
    let inner : Pointer := ⟨["allOf", "1", "properties", ""]⟩
    let outer : Pointer := Pointer.append ⟨["$defs", "a/b~"]⟩ inner.tokens
    let other : Pointer := ⟨["$defs", "a/b~", "allOf", "0"]⟩
    value.NamesOnce ∧ value.IsCountable ∧ outer.resolve? value = some (.bool false) ∧
      other.resolve? value = some (.bool true) ∧ outer ≠ other ∧ outer.route? value ≠ other.route? value ∧
      ∃ schema, (compileDocument .standard Draft.dialect (Draft.url "example") true value []).1 = .ok schema ∧
        (⟨schema.document, 0⟩ : Schema).nodeOfFragment? outer.text .standard = some 4 ∧
        (⟨schema.document, 1⟩ : Schema).nodeOfFragment? inner.text .standard = some 4 ∧
        inner.resolve? (⟨schema.document, 1⟩ : Schema).value = some (schema.document.node 4).value ∧
        ∀ pointer : Pointer, pointer.route? (⟨schema.document, 1⟩ : Schema).value =
          inner.route? (⟨schema.document, 1⟩ : Schema).value → pointer = inner := by
  intro value inner outer other
  have names : value.NamesOnce := by decide
  have countable : value.IsCountable := by decide +kernel
  have leadsOuter : outer.resolve? value = some (.bool false) := by decide +kernel
  have leadsOther : other.resolve? value = some (.bool true) := by decide +kernel
  have different : outer ≠ other := by decide
  let check (schema : Schema) : Bool :=
    (⟨schema.document, 0⟩ : Schema).nodeOfFragment? outer.text .standard = some 4 ∧
      (⟨schema.document, 1⟩ : Schema).nodeOfFragment? inner.text .standard = some 4
  obtain ⟨schema, compiled, checked⟩ := Option.map_eq_some_iff.mp (by decide +kernel :
    (compileDocument .standard Draft.dialect (Draft.url "example") true value []).1.toOption.map check = some true)
  obtain ⟨namedOuter, namedInner⟩ := of_decide_eq_true checked
  have compiled := Except.eq_ok_of_toOption compiled
  obtain ⟨place, isPlaced, agree⟩ := pointers_agree.2.2.2.2 names countable compiled
  exact ⟨names, countable, leadsOuter, leadsOther, different,
    pointers_agree.2.2.1 outer other value _ _ leadsOuter leadsOther different, schema, compiled, namedOuter, namedInner,
    agree 1 inner 4 namedInner⟩

end Schema

end JsonSchema
