import JsonSchema.Proofs.Compile.Excerpt
import JsonSchema.Proofs.Evaluation.Fragments

/-! # What documents inherit from their values

A property of values and the bases against which their references are taken may pass from a value to its parts, under
the same base and under the one that a schema object declares (`Json.Inherited`). Then it holds of what is inside of every
resource that is compiled from a value with the property, under the id of this resource, and no rule has a reference that
the property excludes (`Schema.inherits_compileDocument`). On the way all numbers in a document are those of its nodes,
and every inner resource has a parent before it.
-/

namespace JsonSchema

open Compile

/-- Whether the values in a schema object have a property under a base, which allows the references of the object. -/
structure Json.Settled (allows : Url → Prop) (fits : Url → Json → Prop) (base : Url)
    (members : List (String × Json)) : Prop where
  member : ∀ name value, (name, value) ∈ members → fits base value
  reference : ∀ keyword text url, keyword ∈ [StandardKeyword.ref, .dynamicRef] →
    (keyword.name, .string text) ∈ members → base.join text = .ok url → allows url

/-- Whether a property of values with their bases passes to what is in a value, under the base and under the one that a
schema object declares. The references of the object are only taken against the latter, if there is one. -/
structure Json.Inherited (allows : Url → Prop) (fits : Url → Json → Prop) : Prop where
  distinct : ∀ base members, fits base (.object members) → (members.map (·.1)).Nodup
  item : ∀ base items inner, fits base (.array items) → inner ∈ items → fits base inner
  member : ∀ base members name value, fits base (.object members) → (name, value) ∈ members → fits base value
  settled : ∀ base members, fits base (.object members) → StandardKeyword.id.name ∉ members.map (·.1) →
    Json.Settled allows fits base members
  id : ∀ base members text url, fits base (.object members) → (StandardKeyword.id.name, .string text) ∈ members →
    base.join text = .ok url → Json.Settled allows fits url.withoutFragment members

theorem Json.Inherited.part {allows : Url → Prop} {fits : Url → Json → Prop} (inherited : Json.Inherited allows fits)
    {base : Url} {value inner : Json} (fit : fits base value) (part : Json.Part inner value) : fits base inner := by
  cases part with
  | self => exact fit
  | item member => exact inherited.item _ _ _ fit member
  | member member => exact inherited.member _ _ _ _ fit member

/-- Whether what is in a value has a property under a base. -/
structure Json.Settles (fits : Url → Json → Prop) (base : Url) (value : Json) : Prop where
  item : ∀ items inner, value = .array items → inner ∈ items → fits base inner
  member : ∀ members name inner, value = .object members → (name, inner) ∈ members → fits base inner

theorem Json.Inherited.settles {allows : Url → Prop} {fits : Url → Json → Prop} (inherited : Json.Inherited allows fits)
    {base : Url} {value : Json} (fit : fits base value) : value.Settles fits base := by
  refine ⟨?_, ?_⟩
  · rintro items inner rfl member
    exact inherited.item base items inner fit member
  · rintro members name inner rfl member
    exact inherited.member base members name inner fit member

/-- Whether a rule has only references that are allowed and leads only to a number of nodes. -/
structure Rule.Inside (allows : Url → Prop) (size : Nat) (rule : Rule) : Prop where
  allowed : ∀ url ∈ rule.reference?, allows url
  below : ∀ number ∈ rule.subschemas, number < size

theorem Rule.Inside.mono {allows : Url → Prop} {size more : Nat} {rule : Rule} (inside : rule.Inside allows size)
    (le : size ≤ more) : rule.Inside allows more :=
  ⟨inside.allowed, fun number member => (inside.below number member).trans_le le⟩

/-- What a resource of an assembly has: nodes of the assembly, and a parent unless it is the first one. -/
structure Resource.Inside (size index : Nat) (resource : Resource) : Prop where
  node : resource.node < size
  locations : ∀ entry ∈ resource.locations, entry.2 < size
  outermost : index = 0 → resource.parent = none
  parent : index ≠ 0 → ∃ parent < index, resource.parent = some parent

theorem Resource.Inside.mono {size more index : Nat} {resource : Resource} (inside : resource.Inside size index)
    (le : size ≤ more) : resource.Inside more index :=
  ⟨inside.node.trans_le le, fun entry member => (inside.locations entry member).trans_le le, inside.outermost,
    inside.parent⟩

namespace Assembly

/-- Whether what was finished has inherited a property. -/
structure Inherits (allows : Url → Prop) (fits : Url → Json → Prop) (assembly : Assembly) : Prop where
  rules : ∀ (index : Nat) (node : Node), assembly.nodes[index]? = some (some node) →
    ∀ rule ∈ node.rules, rule.Inside allows assembly.nodes.size
  resources : ∀ (index : Nat) (resource : Resource), assembly.resources[index]? = some resource →
    resource.Inside assembly.nodes.size index
  roots : ∀ (index : Nat) (resource : Resource) (node : Node), assembly.resources[index]? = some resource →
    assembly.nodes[resource.node]? = some (some node) → node.value.Settles fits resource.id

/-- Whether a value is settled under the ids of all resources with some root. -/
def Owns (fits : Url → Json → Prop) (node : Nat) (value : Json) (assembly : Assembly) : Prop :=
  ∀ (index : Nat) (resource : Resource), assembly.resources[index]? = some resource → resource.node = node →
    value.Settles fits resource.id

/-- Whether an assembly goes on from another one by compiling sub-schemas that inherit a property. -/
structure Advances (options : Options) (registered : Bool) (allows : Url → Prop) (fits : Url → Json → Prop)
    (before after : Assembly) : Prop extends Continues options registered before after where
  inherits : after.Inherits allows fits
  /-- The roots of new resources are new nodes. -/
  fresh : ∀ (index : Nat) (resource : Resource), after.resources[index]? = some resource →
    before.resources.size ≤ index → before.nodes.size ≤ resource.node

variable {options : Options} {registered : Bool} {allows : Url → Prop} {fits : Url → Json → Prop}
  {before between after : Assembly}

theorem Grows.getElem?_resources (grows : before.Grows after) {index : Nat} {later : Resource}
    (found : after.resources[index]? = some later) (old : index < before.resources.size) :
    ∃ resource, before.resources[index]? = some resource ∧ resource.Becomes later := by
  have present := Array.getElem?_eq_getElem old
  obtain ⟨other, foundOther, becomes⟩ := grows.becomes index _ present
  rw [found] at foundOther
  exact ⟨_, present, Option.some.inj foundOther ▸ becomes⟩

theorem Advances.refl (sound : before.Sound) (inherits : before.Inherits allows fits) :
    Advances options registered allows fits before before where
  toContinues := .refl sound
  inherits := inherits
  fresh index resource found new := by
    obtain ⟨bound, -⟩ := Array.getElem?_eq_some_iff.mp found
    omega

theorem Advances.trans (first : Advances options registered allows fits before between)
    (second : Advances options registered allows fits between after) :
    Advances options registered allows fits before after where
  toContinues := first.toContinues.trans second.toContinues
  inherits := second.inherits
  fresh index resource found new := by
    by_cases old : index < between.resources.size
    · obtain ⟨earlier, present, becomes⟩ := second.toGrows.getElem?_resources found old
      rw [becomes.node_eq]
      exact first.fresh index earlier present new
    · exact first.size.trans (second.fresh index resource found (Nat.le_of_not_lt old))

/-- What a value owns stays so when sub-schemas are compiled. -/
theorem Owns.advances {node : Nat} {value : Json} (owns : before.Owns fits node value)
    (started : node < before.nodes.size) (advances : Advances options registered allows fits before after) :
    after.Owns fits node value := by
  intro index resource found root
  by_cases old : index < before.resources.size
  · obtain ⟨earlier, present, becomes⟩ := advances.toGrows.getElem?_resources found old
    rw [becomes.id_eq]
    exact owns index earlier present (becomes.node_eq ▸ root)
  · have least := advances.fresh index resource found (Nat.le_of_not_lt old)
    omega

theorem Inherits.push (inherits : before.Inherits allows fits) :
    ({ before with nodes := before.nodes.push none } : Assembly).Inherits allows fits := by
  have size : before.nodes.size ≤ (before.nodes.push none).size := by simp
  refine ⟨fun index node found rule member => ?_, fun index resource found => ?_, fun index resource node found root => ?_⟩
  · exact (inherits.rules index node (getElem?_of_push_none found) rule member).mono size
  · exact (inherits.resources index resource found).mono size
  · exact inherits.roots index resource node found (getElem?_of_push_none root)

end Assembly

namespace Draft

theorem keyword?_id : dialect.keyword? StandardKeyword.id.name = some (0, .standard .id) := by decide +kernel

theorem mem_inOrder_of_id {members : List (String × Json)} {value : Json}
    (declares : (StandardKeyword.id.name, value) ∈ members) :
    ⟨0, .standard .id, value⟩ ∈ KeywordEntry.inOrder (Site.knownMembers dialect members) :=
  (KeywordEntry.inOrder_perm _).mem_iff.mpr
    (List.mem_filterMap.mpr ⟨_, declares, by dsimp only; rw [keyword?_id]; rfl⟩)

end Draft

namespace StandardKeyword

/-- The sub-schemas of a keyword are its value or parts of it. -/
theorem part_of_mem_slots (meaning : StandardKeyword) {value : Json} {slot : List String × Json}
    (member : slot ∈ meaning.slots value) : Json.Part slot.2 value := by
  unfold slots at member
  split at member
  all_goals
    first
    | exact List.mem_singleton.mp member ▸ .self _
    | exact absurd member List.not_mem_nil
    | obtain ⟨item, inside, rfl⟩ := List.mem_map.mp member
      first
      | exact .item (List.fst_mem_of_mem_zipIdx inside)
      | exact .member inside

end StandardKeyword

namespace KeywordSite

open Site

variable {options : Options} {registered : Bool} {allows : Url → Prop} {fits : Url → Json → Prop}
  {place : KeywordSite} {sub : Site → Json → Compile Nat} {before after : Assembly}

/-- Whether sub-schemas inherit a property when they are compiled. -/
def AdvancesBelow (options : Options) (registered : Bool) (allows : Url → Prop) (fits : Url → Json → Prop)
    (sub : Site → Json → Compile Nat) : Prop :=
  ∀ (site : Site) value before number after, site.Awaits before → before.Sound → 0 < before.nodes.size →
    before.Inherits allows fits → fits site.base value → Yields (sub site value) before number after →
      Assembly.Advances options registered allows fits before after ∧ number < after.nodes.size

theorem reference_string (text : String) :
    place.reference (.string text) = match place.site.base.join text with
      | .ok url => .ok url
      | .error cause => place.invalidValue ("invalid reference " ++ quoted text ++ ": " ++ cause.message) :=
  rfl

theorem reference_eq_ok {value : Json} {url : Url} (refers : place.reference value = .ok url) :
    ∃ text, value = .string text ∧ place.site.base.join text = .ok url := by
  cases value with
  | string text =>
    rw [reference_string] at refers
    cases joined : place.site.base.join text with
    | ok found =>
      rw [joined] at refers
      exact ⟨text, rfl, joined.trans (congrArg Except.ok (Except.ok.inj refers))⟩
    | error cause =>
      rw [joined] at refers
      cases refers
  | _ => cases refers

/-- The references of a keyword are those that its text gives with the base. -/
theorem join_of_reference? {meaning : StandardKeyword} {value : Json} {result : Site × Option Rule}
    (yields : Yields (place.compile registered sub meaning value) before result after) :
    ∀ rule ∈ result.2, ∀ url ∈ rule.reference?, meaning ∈ [StandardKeyword.ref, .dynamicRef] ∧
      ∃ text, value = .string text ∧ place.site.base.join text = .ok url := by
  intro rule member url refers
  have anything : KeepsBelow (fun _ => True) place.site.dialect sub := fun _ _ _ _ _ => ⟨trivial, fun _ _ => trivial⟩
  have means := ((keeps_compile anything rfl registered meaning value before trivial).2 result
    (congrArg Prod.fst yields)).2 rule member
  cases rule with
  | ref target =>
    obtain rfl : StandardKeyword.ref = meaning := Option.some.inj means
    obtain ⟨found, between, read, made⟩ := yields_bind.mp yields
    obtain ⟨rfl, rfl⟩ := yields_pure.mp made
    obtain rfl := Rule.ref.inj (Option.some.inj member)
    obtain rfl := Option.some.inj refers
    exact ⟨by simp, reference_eq_ok (yields_read.mp read).1⟩
  | dynamicRef target anchor =>
    obtain rfl : StandardKeyword.dynamicRef = meaning := Option.some.inj means
    obtain ⟨found, between, read, made⟩ := yields_bind.mp yields
    obtain ⟨rfl, rfl⟩ := yields_pure.mp made
    obtain ⟨rfl, -⟩ := Rule.dynamicRef.inj (Option.some.inj member)
    obtain rfl := Option.some.inj refers
    exact ⟨by simp, reference_eq_ok (yields_read.mp read).1⟩
  | _ => cases refers

section

variable (inherited : Json.Inherited allows fits) (below : AdvancesBelow options registered allows fits sub)
include below

theorem advances_compileSlots {slots : List (List String × Json)} {numbers : List Nat}
    (fit : ∀ slot ∈ slots, fits place.site.base slot.2) (stands : place.site.Stands before) (sound : before.Sound)
    (inherits : before.Inherits allows fits) (yields : Yields (place.compileSlots sub slots) before numbers after) :
    Assembly.Advances options registered allows fits before after ∧ ∀ number ∈ numbers, number < after.nodes.size := by
  induction slots generalizing before numbers with
  | nil =>
    obtain ⟨rfl, rfl⟩ := yields_compileSlots_nil.mp yields
    exact ⟨.refl sound inherits, fun number member => absurd member List.not_mem_nil⟩
  | cons slot slots ih =>
    obtain ⟨number, rest, between, rfl, first, others⟩ := yields_compileSlots_cons.mp yields
    obtain ⟨advances, bound⟩ := below _ _ _ _ _ (stands.descend (List.cons_ne_nil _ _)) sound stands.pos inherits
      (fit slot List.mem_cons_self) first
    obtain ⟨advancesRest, bounds⟩ := ih (fun slot member => fit slot (List.mem_cons_of_mem _ member))
      (stands.continues advances.toContinues) advances.sound advances.inherits others
    exact ⟨advances.trans advancesRest, List.forall_mem_cons.mpr ⟨bound.trans_le advancesRest.size, bounds⟩⟩

include inherited

/-- A keyword that is no id only compiles sub-schemas, which inherit from the schema object. -/
theorem advances_compile {meaning : StandardKeyword} {value : Json} {members : List (String × Json)}
    {result : Site × Option Rule} (other : meaning ≠ .id) (member : (meaning.name, value) ∈ members)
    (settled : Json.Settled allows fits place.site.base members) (stands : place.site.Stands before)
    (sound : before.Sound) (inherits : before.Inherits allows fits)
    (yields : Yields (place.compile registered sub meaning value) before result after) :
    Assembly.Advances options registered allows fits before after ∧ result.1.base = place.site.base ∧
      ∀ rule ∈ result.2, rule.Inside allows after.nodes.size := by
  obtain ⟨marked, numbers, slots, listed, -⟩ := fillsSlots meaning value other _ _ _ _ _ _ yields
  have own := settled.member _ _ member
  obtain ⟨advances, bounds⟩ := advances_compileSlots below
    (fun slot inside => inherited.part own (meaning.part_of_mem_slots inside)) stands sound inherits slots
  refine ⟨advances, marked ▸ rfl, fun rule found => ⟨fun url refers => ?_, fun number inside => ?_⟩⟩
  · obtain ⟨reference, text, rfl, joined⟩ := join_of_reference? yields rule found url refers
    exact settled.reference _ _ _ reference member joined
  · rw [listed rule found] at inside
    exact bounds number inside

end

/-! ## Identification -/

/-- What declaring ids does: the schema object is settled under each of them. -/
structure Identifies (allows : Url → Prop) (fits : Url → Json → Prop) (value : Json) (site : Site) (before : Assembly)
    (declared : Site) (after : Assembly) : Prop extends Declares site before declared after where
  inherits : after.Inherits allows fits
  owns : after.Owns fits site.node value
  /-- A new resource has its root here, and others keep theirs. -/
  rooted : ∀ (index : Nat) (resource : Resource), after.resources[index]? = some resource →
    resource.node = site.node ∨ ∃ earlier, before.resources[index]? = some earlier ∧ resource.node = earlier.node

variable {members : List (String × Json)} {value : Json}

theorem Identifies.refl {site : Site} (stands : site.Stands before) (sound : before.Sound)
    (inherits : before.Inherits allows fits) (owns : before.Owns fits site.node value) :
    Identifies allows fits value site before site before :=
  ⟨⟨rfl, rfl, sound, stands, fun _ => .refl before⟩, inherits, owns, fun _ resource found => .inr ⟨resource, found, rfl⟩⟩

theorem Identifies.trans {between : Assembly} {site next final : Site}
    (first : Identifies allows fits value site before next between)
    (second : Identifies allows fits value next between final after) :
    Identifies allows fits value site before final after where
  toDeclares := Declares.trans first.toDeclares second.toDeclares
  inherits := second.inherits
  owns := first.node_eq ▸ second.owns
  rooted index resource found := by
    rcases second.rooted index resource found with own | ⟨earlier, present, same⟩
    · exact .inl (own.trans first.node_eq)
    · rw [same]
      exact first.rooted index earlier present

theorem declaredId_string (text : String) :
    place.declaredId (.string text) = match place.site.base.join text with
      | .ok url =>
        if url.fragment.any (!·.isEmpty) then
          .error (.invalidSchemaId place.location text "must not contain a non-empty fragment")
        else .ok url.withoutFragment
      | .error cause => .error (.invalidSchemaId place.location text cause.message) :=
  rfl

theorem declaredId_eq_ok {id : Url} (declares : place.declaredId value = .ok id) :
    ∃ text url, value = .string text ∧ place.site.base.join text = .ok url ∧ url.withoutFragment = id := by
  cases value with
  | string text =>
    rw [declaredId_string] at declares
    cases joined : place.site.base.join text with
    | ok url =>
      rw [joined] at declares
      dsimp only at declares
      split at declares
      · cases declares
      · exact ⟨text, url, rfl, joined, Except.ok.inj declares⟩
    | error cause =>
      rw [joined] at declares
      cases declares
  | _ => cases declares

theorem identifies_renameDocument {id : Url} {done : Unit} (own : value.Settles fits id)
    (root : place.site.node = 0) (stands : place.site.Stands before) (sound : before.Sound)
    (inherits : before.Inherits allows fits) (owns : before.Owns fits place.site.node value)
    (yields : Yields (place.renameDocument registered id) before done after) :
    Identifies allows fits value place.site before { place.site with base := id } after := by
  have declares := declares_renameDocument stands sound root yields
  obtain ⟨assembly, middle, got, renames⟩ := yields_bind.mp yields
  obtain ⟨rfl, rfl⟩ := yields_get.mp got
  split at renames
  · obtain ⟨done, middle, took, modified⟩ := yields_bind.mp renames
    obtain ⟨free, rfl⟩ := yields_takeId.mp took
    obtain rfl := yields_modify.mp modified
    have changed {index : Nat} {resource : Resource}
        (found : (before.resources.modify 0 fun resource => { resource with id })[index]? = some resource) :
        ∃ earlier, before.resources[index]? = some earlier ∧
          (resource = earlier ∨ resource = { earlier with id } ∧ index = 0) := by
      rw [getElem?_modify_zero, Option.map_eq_some_iff] at found
      obtain ⟨earlier, present, rfl⟩ := found
      refine ⟨earlier, present, ?_⟩
      split
      · next first => exact .inr ⟨rfl, first⟩
      · exact .inl rfl
    have first {resource : Resource} (found : before.resources[0]? = some resource) :
        before.nodes[resource.node]? = some none := by
      obtain ⟨innermost, inside⟩ := stands.innermost_mem
      obtain ⟨other, present, unfinished⟩ := stands.around _ inside
      rw [innermost, stands.document root, found] at present
      rwa [Option.some.inj present]
    refine ⟨declares, ⟨inherits.rules, fun index resource found => ?_,
      fun index resource node found finished => ?_⟩, fun index resource found same => ?_,
      fun index resource found => ?_⟩
    · obtain ⟨earlier, present, rfl | ⟨rfl, -⟩⟩ := changed found
      · exact inherits.resources index resource present
      · obtain ⟨node, locations, outermost, parent⟩ := inherits.resources index earlier present
        exact ⟨node, locations, outermost, parent⟩
    · obtain ⟨earlier, present, rfl | ⟨rfl, rfl⟩⟩ := changed found
      · exact inherits.roots index resource node present finished
      · exact nomatch (first present).symm.trans finished
    · obtain ⟨earlier, present, rfl | ⟨rfl, -⟩⟩ := changed found
      · exact owns index resource present same
      · exact own
    · obtain ⟨earlier, present, rfl | ⟨rfl, -⟩⟩ := changed found
      · exact .inr ⟨resource, present, rfl⟩
      · exact .inr ⟨earlier, present, rfl⟩
  · obtain ⟨-, rfl⟩ := yields_pure.mp renames
    exact ⟨declares, inherits, owns, fun index resource found => .inr ⟨resource, found, rfl⟩⟩

theorem identifies_startResource {id : Url} {started : Site} (own : value.Settles fits id)
    (inner : place.site.node ≠ 0) (stands : place.site.Stands before) (sound : before.Sound)
    (inherits : before.Inherits allows fits) (owns : before.Owns fits place.site.node value)
    (yields : Yields (place.startResource id) before started after) :
    Identifies allows fits value place.site before { started with base := id } after := by
  have declares := declares_startResource stands sound inner yields
  obtain ⟨free, rfl, rfl⟩ := yields_startResource.mp yields
  obtain ⟨outer, foundOuter, -⟩ := stands.base
  obtain ⟨around, -⟩ := Array.getElem?_eq_some_iff.mp foundOuter
  obtain ⟨bound, -⟩ := Array.getElem?_eq_some_iff.mp stands.started
  refine ⟨declares, ⟨inherits.rules, fun index resource found => ?_,
    fun index resource node found finished => ?_⟩, fun index resource found same => ?_,
    fun index resource found => ?_⟩
  all_goals rcases eq_or_of_getElem?_push found with ⟨last, rfl⟩ | earlier
  · exact ⟨bound, fun entry member => absurd member List.not_mem_nil, fun zero => by omega,
      fun _ => ⟨place.site.resource, by omega, rfl⟩⟩
  · exact inherits.resources index resource earlier
  · exact nomatch stands.started.symm.trans finished
  · exact inherits.roots index resource node earlier finished
  · exact own
  · exact owns index resource earlier same
  · exact .inl rfl
  · exact .inr ⟨resource, earlier, rfl⟩

/-- An id is declared under which the schema object is settled. -/
theorem identifies_compile_id (inherited : Json.Inherited allows fits) {result : Site × Option Rule}
    (member : (StandardKeyword.id.name, value) ∈ members) (fit : fits place.site.base (.object members))
    (stands : place.site.Stands before) (sound : before.Sound) (inherits : before.Inherits allows fits)
    (owns : before.Owns fits place.site.node (.object members))
    (yields : Yields (place.compile registered sub .id value) before result after) :
    Identifies allows fits (.object members) place.site before result.1 after ∧
      Json.Settled allows fits result.1.base members := by
  obtain ⟨declared, between, yieldsDeclared, made⟩ := yields_bind.mp yields
  obtain ⟨rfl, rfl⟩ := yields_pure.mp made
  obtain ⟨id, start, read, goesOn⟩ := yields_bind.mp yieldsDeclared
  obtain ⟨reads, rfl⟩ := yields_read.mp read
  obtain ⟨text, url, rfl, joined, rfl⟩ := declaredId_eq_ok reads
  have settled := inherited.id _ _ _ _ fit member joined
  have own : (Json.object members).Settles fits url.withoutFragment := by
    refine ⟨fun items inner same => (by cases same), fun other name inner same => ?_⟩
    obtain rfl := Json.object.inj same
    exact settled.member name inner
  by_cases root : place.site.node = 0
  · rw [if_pos root] at goesOn
    obtain ⟨done, stop, renamed, kept⟩ := yields_bind.mp goesOn
    obtain ⟨rfl, rfl⟩ := yields_pure.mp kept
    exact ⟨identifies_renameDocument own root stands sound inherits owns renamed, settled⟩
  · rw [if_neg root] at goesOn
    obtain ⟨started, stop, starts, kept⟩ := yields_bind.mp goesOn
    obtain ⟨rfl, rfl⟩ := yields_pure.mp kept
    exact ⟨identifies_startResource own root stands sound inherits owns starts, settled⟩

/-- What identifies a schema object makes no rule, and leaves it settled if it is an id. -/
theorem identifies_of_identifier (inherited : Json.Inherited allows fits) {meaning : StandardKeyword}
    {result : Site × Option Rule} (identifies : meaning.category = .identifier)
    (member : (meaning.name, value) ∈ members) (fit : meaning = .id → fits place.site.base (.object members))
    (stands : place.site.Stands before) (sound : before.Sound) (inherits : before.Inherits allows fits)
    (owns : before.Owns fits place.site.node (.object members))
    (yields : Yields (place.compile registered sub meaning value) before result after) :
    Identifies allows fits (.object members) place.site before result.1 after ∧ result.2 = none ∧
      (meaning = .id → Json.Settled allows fits result.1.base members) := by
  have silent : result.2 = none := by
    cases meaning with
    | id | schema | anchor | dynamicAnchor | vocabulary =>
      obtain ⟨_, _, _, made⟩ := yields_bind.mp yields
      exact (congrArg Prod.snd (yields_pure.mp made).1).symm
    | _ => cases identifies
  by_cases id : meaning = .id
  · subst id
    obtain ⟨identifies, settled⟩ := identifies_compile_id inherited member (fit rfl) stands sound inherits owns yields
    exact ⟨identifies, silent, fun _ => settled⟩
  · have declares := declares_of_identifier identifies stands sound yields
    obtain ⟨-, numbers, slots, -⟩ := fillsSlots meaning value id _ _ _ _ _ _ yields
    rw [slots_of_identifier identifies] at slots
    obtain ⟨-, rfl⟩ := yields_compileSlots_nil.mp slots
    refine ⟨⟨declares, inherits, owns, fun index resource found => .inr ⟨resource, found, rfl⟩⟩, silent, fun same => ?_⟩
    exact absurd same id

end KeywordSite

/-! ## Schema objects -/

namespace Site

open KeywordSite

variable {options : Options} {registered : Bool} {allows : Url → Prop} {fits : Url → Json → Prop} {site : Site}
  {sub : Site → Json → Compile Nat} {before between after : Assembly} {members : List (String × Json)} {value : Json}
  {result : Site × List Rule}

section

variable (inherited : Json.Inherited allows fits) (below : AdvancesBelow options registered allows fits sub)
  (continuesBelow : ContinuesBelow options registered sub)
include inherited below continuesBelow

/-- Keywords that are no ids only compile sub-schemas. -/
theorem advances_compileKeywords {entries : List (KeywordEntry Json)}
    (others : ∀ entry ∈ entries, entry.spec.meaning ≠ .id)
    (inside : ∀ entry ∈ entries, (entry.spec.meaning.name, entry.item) ∈ members)
    (settled : Json.Settled allows fits site.base members) (stands : site.Stands before) (sound : before.Sound)
    (inherits : before.Inherits allows fits)
    (yields : Yields (compileKeywords registered sub site entries) before result after) :
    Assembly.Advances options registered allows fits before after ∧
      ∀ rule ∈ result.2, rule.Inside allows after.nodes.size := by
  induction entries generalizing site before result with
  | nil =>
    obtain ⟨rfl, rfl⟩ := yields_compileKeywords_nil.mp yields
    exact ⟨.refl sound inherits, fun rule member => absurd member List.not_mem_nil⟩
  | cons entry entries ih =>
    obtain ⟨first, between, rest, yieldsFirst, yieldsRest, rfl⟩ := yields_compileKeywords_cons.mp yields
    have other := others entry List.mem_cons_self
    obtain ⟨continues, standsNext, -⟩ := continues_compile continuesBelow other stands sound yieldsFirst
    obtain ⟨advances, base, rules⟩ := advances_compile inherited below other (inside entry List.mem_cons_self) settled
      stands sound inherits yieldsFirst
    obtain ⟨advancesRest, rulesRest⟩ := ih (fun other member => others other (List.mem_cons_of_mem _ member))
      (fun entry member => inside entry (List.mem_cons_of_mem _ member)) (base ▸ settled) standsNext continues.sound
      advances.inherits yieldsRest
    refine ⟨advances.trans advancesRest, fun rule member => ?_⟩
    rcases List.mem_append.mp member with early | late
    · exact (rules rule (Option.mem_toList.mp early)).mono advancesRest.size
    · exact rulesRest rule late

/-- The keywords of a schema object first identify it, and then sub-schemas inherit from it. -/
theorem identifies_compileKeywords {entries : List (KeywordEntry Json)}
    (sorted : entries.Pairwise fun a b => Draft.isBehind a = true → Draft.isBehind b = true)
    (meanings : ∀ entry ∈ entries, entry.spec.category = entry.spec.meaning.category)
    (inside : ∀ entry ∈ entries, (entry.spec.meaning.name, entry.item) ∈ members)
    (once : (entries.map (some ·.spec.meaning)).Nodup)
    (fit : ∀ entry ∈ entries, entry.spec.meaning = .id → fits site.base (.object members))
    (settled : (∀ entry ∈ entries, entry.spec.meaning ≠ .id) → Json.Settled allows fits site.base members)
    (stands : site.Stands before) (sound : before.Sound) (inherits : before.Inherits allows fits)
    (owns : before.Owns fits site.node (.object members))
    (yields : Yields (compileKeywords registered sub site entries) before result after) :
    ∃ declared between, Identifies allows fits (.object members) site before declared between ∧
      Assembly.Advances options registered allows fits between after ∧
      ∀ rule ∈ result.2, rule.Inside allows after.nodes.size := by
  induction entries generalizing site before result with
  | nil =>
    obtain ⟨rfl, rfl⟩ := yields_compileKeywords_nil.mp yields
    exact ⟨site, before, .refl stands sound inherits owns, .refl sound inherits,
      fun rule member => absurd member List.not_mem_nil⟩
  | cons entry entries ih =>
    have sortedRest := (List.pairwise_cons.mp sorted).2
    obtain ⟨single, onceRest⟩ := List.nodup_cons.mp once
    cases late : Draft.isBehind entry with
    | true =>
      have others := Draft.ne_id_of_isBehind sorted meanings late
      obtain ⟨advances, rules⟩ :=
        advances_compileKeywords inherited below continuesBelow others inside (settled others) stands sound inherits
          yields
      exact ⟨site, before, .refl stands sound inherits owns, advances, rules⟩
    | false =>
      obtain ⟨first, between, rest, yieldsFirst, yieldsRest, rfl⟩ := yields_compileKeywords_cons.mp yields
      have identifier : entry.spec.meaning.category = .identifier := by
        rw [← meanings entry List.mem_cons_self]
        simpa [Draft.isBehind] using late
      obtain ⟨identifies, silent, settles⟩ := identifies_of_identifier inherited identifier
        (inside entry List.mem_cons_self) (fit entry List.mem_cons_self) stands sound inherits owns yieldsFirst
      -- An id is declared once, so the base stays as it is up to an id that is still to come.
      have fitRest (other : KeywordEntry Json) (member : other ∈ entries) (id : other.spec.meaning = .id) :
          fits first.1.base (.object members) := by
        have different : entry.spec.meaning ≠ .id := fun same =>
          single (List.mem_map.mpr ⟨other, member, congrArg some (id.trans same.symm)⟩)
        obtain ⟨marked, -⟩ := fillsSlots _ _ different _ _ _ _ _ _ yieldsFirst
        rw [← marked]
        exact fit other (List.mem_cons_of_mem _ member) id
      have settledRest (others : ∀ other ∈ entries, other.spec.meaning ≠ .id) :
          Json.Settled allows fits first.1.base members := by
        by_cases id : entry.spec.meaning = .id
        · exact settles id
        · obtain ⟨marked, -⟩ := fillsSlots _ _ id _ _ _ _ _ _ yieldsFirst
          rw [← marked]
          exact settled (List.forall_mem_cons.mpr ⟨id, others⟩)
      obtain ⟨declared, middle, identifiesRest, advances, rules⟩ :=
        ih sortedRest (fun other member => meanings other (List.mem_cons_of_mem _ member))
          (fun other member => inside other (List.mem_cons_of_mem _ member)) onceRest fitRest settledRest
          identifies.stands identifies.sound identifies.inherits (identifies.node_eq ▸ identifies.owns) yieldsRest
      refine ⟨declared, middle, identifies.trans identifiesRest, advances, ?_⟩
      rw [silent]
      exact rules

theorem identifies_compileMembers (only : options.KnowsOnlyDraft) (fit : fits site.base (.object members))
    (stands : site.Stands before) (sound : before.Sound) (inherits : before.Inherits allows fits)
    (owns : before.Owns fits site.node (.object members))
    (yields : Yields (site.compileMembers options registered sub members) before result after) :
    ∃ declared between, Identifies allows fits (.object members) site before declared between ∧
      Assembly.Advances options registered allows fits between after ∧
      ∀ rule ∈ result.2, rule.Inside allows after.nodes.size := by
  obtain ⟨selected, start, selects, goesOn⟩ := yields_bind.mp yields
  obtain ⟨-, rfl, rfl⟩ := (yields_selectDialect only stands sound).mp selects
  obtain ⟨⟨final, rules⟩, stop, keywords, made⟩ := yields_bind.mp goesOn
  rw [stands.drafted] at keywords
  have standard (entry : KeywordEntry Json)
      (member : entry ∈ KeywordEntry.inOrder (knownMembers Draft.dialect members)) :
      entry.spec.category = entry.spec.meaning.category ∧ (entry.spec.meaning.name, entry.item) ∈ members := by
    obtain ⟨inside, same⟩ := Draft.mem_of_mem_inOrder member
    rw [same] at inside ⊢
    exact ⟨rfl, inside⟩
  -- Without an entry for an id there is none, so that the base stays that of the site.
  have settled (others : ∀ entry ∈ KeywordEntry.inOrder (knownMembers Draft.dialect members), entry.spec.meaning ≠ .id) :
      Json.Settled allows fits site.base members := by
    refine inherited.settled site.base members fit fun declares => ?_
    obtain ⟨⟨_, value⟩, member, rfl⟩ := List.mem_map.mp declares
    exact others _ (Draft.mem_inOrder_of_id member) rfl
  obtain ⟨declared, between, identifies, advances, insides⟩ := identifies_compileKeywords inherited below continuesBelow
    (Draft.pairwise_isBehind members) (fun entry member => (standard entry member).1)
    (fun entry member => (standard entry member).2) (Draft.nodup_meanings_inOrder (inherited.distinct _ _ fit))
    (fun _ _ _ => fit) settled stands sound inherits owns keywords
  have ends : stop = after ∧ ∀ rule ∈ result.2, rule ∈ rules ∨ ∃ member : String × Json, rule = .unknown member.1 member.2 := by
    dsimp only at made
    split at made
    · exact absurd made yields_throw
    · obtain ⟨rfl, rfl⟩ := yields_pure.mp made
      refine ⟨rfl, fun rule member => (Draft.mem_withUnknown member).imp id fun ⟨entry, _, same⟩ => ⟨entry, same⟩⟩
    · obtain ⟨rfl, rfl⟩ := yields_pure.mp made
      exact ⟨rfl, fun rule member => .inl member⟩
  obtain ⟨rfl, known⟩ := ends
  refine ⟨declared, between, identifies, advances, fun rule member => ?_⟩
  rcases known rule member with inside | ⟨member, rfl⟩
  · exact insides rule inside
  · exact ⟨fun url refers => (by cases refers), fun number impossible => absurd impossible List.not_mem_nil⟩

/-- The shape of a node is made by first identifying the schema, from which sub-schemas inherit then. -/
theorem identifies_compileShape (only : options.KnowsOnlyDraft) {made : Site × Shape} (fit : fits site.base value)
    (stands : site.Stands before) (sound : before.Sound) (inherits : before.Inherits allows fits)
    (owns : before.Owns fits site.node value)
    (yields : Yields (site.compileShape options registered sub value) before made after) :
    ∃ declared between, Identifies allows fits value site before declared between ∧
      Assembly.Advances options registered allows fits between after ∧
      ∀ rule ∈ (made.1.finishedNode value made.2).rules, rule.Inside allows after.nodes.size := by
  cases value with
  | bool accepts =>
    obtain ⟨rfl, rfl⟩ := yields_pure.mp yields
    exact ⟨site, before, .refl stands sound inherits owns, .refl sound inherits,
      fun rule member => absurd member List.not_mem_nil⟩
  | object members =>
    obtain ⟨compiled, stop, yieldsMembers, shaped⟩ := yields_bind.mp yields
    obtain ⟨rfl, rfl⟩ := yields_pure.mp shaped
    exact identifies_compileMembers inherited below continuesBelow only fit stands sound inherits owns yieldsMembers
  | _ => exact absurd yields yields_throw

end

/-! ## Nodes -/

theorem Resource.Inside.enteredResource {size index : Nat} {resource : Resource} (inside : resource.Inside size index)
    (started : site.node < size) (becomes : resource.Becomes (site.enteredResource index resource)) :
    (site.enteredResource index resource).Inside size index := by
  have locations : ∀ entry ∈ (site.enteredResource index resource).locations, entry.2 < size := by
    rw [Site.locations_enteredResource]
    exact snd_lt_of_mem_foldl_addEntry started (site.paths.filter (·.1 = index)) inside.locations
  have parent := site.parent_enteredResource index resource
  exact ⟨becomes.node_eq ▸ inside.node, locations, parent ▸ inside.outermost, parent ▸ inside.parent⟩

/-- A node that is finished passes the property on to the resources whose root it is. -/
theorem inherits_finish {shape : Shape} {done : Unit} (stands : site.Stands before)
    (inherits : before.Inherits allows fits) (owns : before.Owns fits site.node value)
    (rules : ∀ rule ∈ (site.finishedNode value shape).rules, rule.Inside allows before.nodes.size)
    (yields : Yields (site.finish value shape) before done after) : after.Inherits allows fits := by
  obtain ⟨started, -⟩ := Array.getElem?_eq_some_iff.mp stands.started
  obtain rfl := yields_finish.mp yields
  have entered {index : Nat} {later : Resource} (found : (before.resources.mapIdx site.enteredResource)[index]? =
      some later) : ∃ resource, before.resources[index]? = some resource ∧
        later = site.enteredResource index resource ∧ resource.Becomes later := by
    obtain ⟨resource, present, rfl⟩ := Option.map_eq_some_iff.mp (Array.getElem?_mapIdx.symm.trans found)
    exact ⟨resource, present, rfl, stands.becomes_enteredResource present⟩
  refine ⟨fun index node found rule member => ?_, fun index later found => ?_, fun index later node found root => ?_⟩
  · rw [Array.size_setIfInBounds]
    rcases eq_or_of_getElem?_setIfInBounds found with ⟨-, rfl⟩ | old
    · exact rules rule member
    · exact inherits.rules index node old rule member
  · obtain ⟨resource, present, rfl, becomes⟩ := entered found
    rw [Array.size_setIfInBounds]
    exact Resource.Inside.enteredResource (inherits.resources index resource present) started becomes
  · obtain ⟨resource, present, -, becomes⟩ := entered found
    rw [becomes.node_eq] at root
    rw [becomes.id_eq]
    rcases eq_or_of_getElem?_setIfInBounds root with ⟨own, rfl⟩ | old
    · exact owns index resource present own
    · exact inherits.roots index resource node present old

/-- A node is made with all nodes below it, and all of them inherit from its value. -/
theorem inherits_compileNode (inherited : Json.Inherited allows fits) (only : options.KnowsOnlyDraft) {depth : Nat}
    (below : AdvancesBelow options registered allows fits (compileWithin options registered depth)) {number : Nat}
    (awaits : site.Awaits before) (sound : before.Sound) (fit : fits site.base value)
    (inherits : ({ before with nodes := before.nodes.push none } : Assembly).Inherits allows fits)
    (owns : ({ before with nodes := before.nodes.push none } : Assembly).Owns fits before.nodes.size value)
    (yields : Yields (compileWithin options registered (depth + 1) site value) before number after) :
    after.Inherits allows fits ∧ number < after.nodes.size ∧
      ∀ (index : Nat) (resource : Resource), after.resources[index]? = some resource →
        before.resources.size ≤ index → before.nodes.size ≤ resource.node := by
  obtain ⟨rfl, ⟨final, shape⟩, shaped, yieldsShape, yieldsFinish⟩ := yields_compileNode.mp yields
  have continuesBelow := @continuesBelow_compileWithin options registered only depth
  have begins : (site.start before.nodes.size).Stands { before with nodes := before.nodes.push none } := awaits
  obtain ⟨_, _, _, continues, stands, same⟩ := extends_compileShape only continuesBelow begins sound.push yieldsShape
  obtain ⟨declared, between, identifies, advances, rules⟩ :=
    identifies_compileShape inherited below continuesBelow only (show fits (site.start _).base value from fit) begins
      sound.push inherits owns yieldsShape
  obtain ⟨grows, -, nodes⟩ := grows_finish stands continues.sound yieldsFinish
  have ownsLast : shaped.Owns fits final.node value := by
    rw [show final.node = before.nodes.size from same]
    have started : before.nodes.size < between.nodes.size := by
      rw [identifies.nodes_eq, Array.size_push]
      exact Nat.lt_succ_self _
    exact identifies.owns.advances started advances
  refine ⟨inherits_finish stands advances.inherits ownsLast rules yieldsFinish, ?_, ?_⟩
  · have size := advances.size
    rw [identifies.nodes_eq, Array.size_push] at size
    rw [nodes, Array.size_setIfInBounds]
    omega
  · intro index resource found new
    obtain rfl := yields_finish.mp yieldsFinish
    obtain ⟨earlier, present, rfl⟩ := Option.map_eq_some_iff.mp (Array.getElem?_mapIdx.symm.trans found)
    obtain ⟨other, foundOther, becomes⟩ := grows.becomes index earlier present
    obtain rfl := Option.some.inj (found.symm.trans foundOther)
    rw [becomes.node_eq]
    by_cases old : index < between.resources.size
    · obtain ⟨first, foundFirst, kept⟩ := advances.toGrows.getElem?_resources present old
      rw [kept.node_eq]
      rcases identifies.rooted index first foundFirst with own | ⟨older, foundOlder, -⟩
      · exact own.ge
      · obtain ⟨bound, -⟩ := Array.getElem?_eq_some_iff.mp foundOlder
        exact absurd new (Nat.not_le.mpr bound)
    · have least := advances.fresh index earlier present (Nat.le_of_not_lt old)
      rw [identifies.nodes_eq, Array.size_push] at least
      omega

theorem advancesBelow_compileWithin (inherited : Json.Inherited allows fits) (only : options.KnowsOnlyDraft)
    (depth : Nat) : AdvancesBelow options registered allows fits (compileWithin options registered depth) := by
  induction depth with
  | zero => exact fun site value before number after _ _ _ _ _ yields => absurd yields yields_throw
  | succ depth ih =>
    intro site value before number after awaits sound positive inherits fit yields
    have continues := continuesBelow_compileWithin only _ _ _ _ _ _ awaits sound positive yields
    have owns : ({ before with nodes := before.nodes.push none } : Assembly).Owns fits before.nodes.size value :=
      fun index resource found same => absurd same (inherits.resources index resource found).node.ne
    obtain ⟨inheritsLast, bound, fresh⟩ :=
      inherits_compileNode inherited only ih awaits sound fit inherits.push owns yields
    exact ⟨⟨continues, inheritsLast, fresh⟩, bound⟩

end Site

/-- Whether a document has inherited a property from its value. -/
structure Document.Inherits (allows : Url → Prop) (fits : Url → Json → Prop) (document : Document) : Prop where
  rules : ∀ index, ∀ rule ∈ (document.node index).rules, rule.Inside allows document.nodes.size
  drafted : ∀ (index : Nat) (resource : Resource), document.resources[index]? = some resource →
    resource.dialect = Draft.dialect
  resources : ∀ (index : Nat) (resource : Resource), document.resources[index]? = some resource →
    resource.Inside document.nodes.size index
  anchors : ∀ (index : Nat) (resource : Resource), document.resources[index]? = some resource →
    ∀ entry ∈ resource.anchors ++ resource.dynamicAnchors, entry.2 < document.nodes.size
  roots : ∀ (index : Nat) (resource : Resource), document.resources[index]? = some resource →
    (document.node resource.node).value.Settles fits resource.id

namespace Schema

variable {options : Options} {allows : Url → Prop} {fits : Url → Json → Prop}

/-- A document of the draft inherits from the value of which it is compiled. -/
theorem inherits_compileDocument (inherited : Json.Inherited allows fits) (only : options.KnowsOnlyDraft) {base : Url}
    {registered : Bool} {value : Json} {dialects : DialectCache} {schema : Schema} (fit : fits base value)
    (compiled : (compileDocument options Draft.dialect base registered value dialects).1 = .ok schema) :
    schema.document.Inherits allows fits := by
  obtain ⟨root, final, yields, finished, -⟩ := exists_assembly_of_compileDocument compiled
  have awaits := Site.awaits_root base registered dialects
  have sound := Site.sound_start base registered dialects
  obtain ⟨-, extends_⟩ := Site.extends_compileWithin only awaits sound yields
  have first {index : Nat} {resource : Resource}
      (found : (Assembly.start Draft.dialect base registered dialects).resources[index]? = some resource) :
      index = 0 ∧ resource = ⟨base, 0, none, Draft.dialect, [], [], []⟩ := by
    cases index with
    | zero => exact ⟨rfl, (Option.some.inj found).symm⟩
    | succ index => cases found
  have start : ({ Assembly.start Draft.dialect base registered dialects with
      nodes := (Assembly.start Draft.dialect base registered dialects).nodes.push none } : Assembly).Inherits
        allows fits := by
    refine ⟨fun index node found => ?_, fun index resource found => ?_, fun index resource node found root => ?_⟩
    · cases index <;> cases found
    · obtain ⟨rfl, rfl⟩ := first found
      exact ⟨Nat.zero_lt_one, fun entry member => absurd member List.not_mem_nil, fun _ => rfl, fun impossible =>
        absurd rfl impossible⟩
    · obtain ⟨rfl, rfl⟩ := first found
      cases root
  obtain ⟨inherits, -⟩ := Site.inherits_compileNode inherited only (Site.advancesBelow_compileWithin inherited only _)
    awaits sound fit start (fun index resource found _ => (first found).2 ▸ inherited.settles fit) yields
  obtain ⟨resources, -⟩ := Assembly.resources_of_document? finished
  have size := Assembly.size_of_document? finished
  refine ⟨fun index rule member => ?_, ?_, ?_, ?_, fun index resource found => ?_⟩
  · by_cases inside : index < final.nodes.size
    · rw [size]
      exact inherits.rules index _ (Assembly.exists_node_of_document? finished inside) rule member
    · rw [Document.node, Array.getD_eq_getD_getElem?, Array.getElem?_eq_none (by omega)] at member
      exact absurd member List.not_mem_nil
  · rw [resources]
    exact extends_.sound.drafted
  · rw [resources, size]
    exact inherits.resources
  · rw [resources, size]
    intro index resource found entry member
    obtain ⟨node, present, -⟩ := extends_.sound.anchored index resource found entry member
    exact (Array.getElem?_eq_some_iff.mp present).1
  · rw [resources] at found
    exact inherits.roots index resource _ found
      (Assembly.exists_node_of_document? finished (inherits.resources index resource found).node)

end Schema

end JsonSchema
