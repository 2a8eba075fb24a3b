import JsonSchema.Proofs.Compile.Branches

/-! # How documents of the draft are made

A node is opened, its sub-schemas are compiled in the order of its slots, and it is finished (`Site.Compiles`). What is
to be proved about a compiled document is proved by induction on how it was made. This covers whatever dialects the
options know, as long as every node is compiled under the draft: `Site.compileUnder` compiles as `Site.compileWithin`
does and gives up at the first node under another dialect (`Site.compiles_document`).
-/

namespace JsonSchema

open Compile

variable {options : Options} {registered : Bool} {sub other : Site → Json → Compile Nat} {before after : Assembly}

/-! ## Compilation under one dialect -/

namespace Site

open Classical in
/-- Compiles as `compileWithin` does, but gives up at a node that is not compiled under a dialect. -/
noncomputable def compileUnder (dialect : Dialect) (options : Options) (registered : Bool) :
    Nat → Site → Json → Compile Nat
  | 0, site, _ => throw (.invalidType site.location "object or boolean")
  | depth + 1, site, value => do
    let node := (← get).nodes.size
    modify fun assembly => { assembly with nodes := assembly.nodes.push none }
    let (final, shape) ← (site.start node).compileShape options registered
      (compileUnder dialect options registered depth) value
    if final.dialect = dialect then
      final.finish value shape
      return node
    else throw (.unknownDialect site.location final.dialect.id.text)

variable {dialect : Dialect} {depth : Nat} {site : Site} {value : Json} {number : Nat}

theorem yields_compileUnder :
    Yields (compileUnder dialect options registered (depth + 1) site value) before number after ↔
      number = before.nodes.size ∧ ∃ made middle, Yields ((site.start before.nodes.size).compileShape options registered
          (compileUnder dialect options registered depth) value) { before with nodes := before.nodes.push none } made
            middle ∧
        made.1.dialect = dialect ∧ Yields (made.1.finish value made.2) middle ⟨⟩ after := by
  constructor
  · intro yields
    obtain ⟨assembly, start, got, goesOn⟩ := yields_bind.mp yields
    obtain ⟨rfl, rfl⟩ := yields_get.mp got
    obtain ⟨pushed, started, modified, shapes⟩ := yields_bind.mp goesOn
    obtain rfl := yields_modify.mp modified
    obtain ⟨made, middle, yieldsShape, finishes⟩ := yields_bind.mp shapes
    dsimp only at finishes
    split at finishes
    · next same =>
      obtain ⟨done, stop, yieldsFinish, returned⟩ := yields_bind.mp finishes
      obtain ⟨rfl, rfl⟩ := yields_pure.mp returned
      exact ⟨rfl, made, middle, yieldsShape, same, yieldsFinish⟩
    · exact absurd finishes yields_throw
  · rintro ⟨rfl, made, middle, yieldsShape, same, yieldsFinish⟩
    refine yields_bind.mpr ⟨before, before, yields_get.mpr ⟨rfl, rfl⟩, yields_bind.mpr ⟨⟨⟩, _, yields_modify.mpr rfl,
      yields_bind.mpr ⟨made, middle, yieldsShape, ?_⟩⟩⟩
    dsimp only
    rw [if_pos same]
    exact yields_bind.mpr ⟨⟨⟩, after, yieldsFinish, yields_pure.mpr ⟨rfl, rfl⟩⟩

end Site

namespace KeywordSite

variable {place : KeywordSite} {meaning : StandardKeyword} {value : Json} {result : Site × Option Rule}

/-- A keyword stays in the dialect and leaves a rule of its meaning if any. -/
theorem leaves_of_yields (yields : Yields (place.compile registered sub meaning value) before result after) :
    Leaves place.site.dialect meaning result := by
  have anything : KeepsBelow (fun _ => True) place.site.dialect sub := fun _ _ _ _ _ => ⟨trivial, fun _ _ => trivial⟩
  exact (keeps_compile anything rfl registered meaning value before trivial).2 result (congrArg Prod.fst yields)

/-- What a keyword is compiled to stays the same where its slots are compiled in the same way. -/
theorem yields_compile_of_slots (id : meaning ≠ .id)
    (yields : Yields (place.compile registered sub meaning value) before result after)
    (slots : ∀ numbers, Yields (place.compileSlots sub (meaning.slots value)) before numbers after →
      Yields (place.compileSlots other (meaning.slots value)) before numbers after) :
    Yields (place.compile registered other meaning value) before result after := by
  obtain ⟨marked, numbers, yieldsSlots, lists, remade⟩ := fillsSlots meaning value id _ _ _ _ _ _ yields
  obtain ⟨rule, yieldsOther, same, -⟩ := remade place registered other before after numbers (fun number => number) rfl
    rfl (slots numbers yieldsSlots) (List.map_id' numbers).symm
  have own : result.2 = rule := by
    rw [same]
    exact (congrArg (Option.map · rule) (funext Rule.rename_id)).trans (Option.map_id_fun' ▸ rfl)
  rwa [marked, ← own] at yieldsOther

variable (includes : ∀ site inner before number after, site.dialect = place.site.dialect →
  Yields (sub site inner) before number after → Yields (other site inner) before number after)
include includes

theorem yields_compileSlots_mono {slots : List (List String × Json)} {numbers : List Nat}
    (yields : Yields (place.compileSlots sub slots) before numbers after) :
    Yields (place.compileSlots other slots) before numbers after := by
  induction slots generalizing before numbers with
  | nil => exact yields
  | cons slot slots ih =>
    obtain ⟨number, rest, between, rfl, first, others⟩ := yields_compileSlots_cons.mp yields
    exact yields_compileSlots_cons.mpr ⟨number, rest, between, rfl, includes _ _ _ _ _ rfl first, ih others⟩

/-- What a keyword is compiled to stays the same when more sub-schemas can be compiled. -/
theorem yields_compile_mono (yields : Yields (place.compile registered sub meaning value) before result after) :
    Yields (place.compile registered other meaning value) before result after := by
  by_cases id : meaning = .id
  · subst id
    exact yields
  · exact yields_compile_of_slots id yields fun _ => yields_compileSlots_mono includes

end KeywordSite

namespace Site

variable {site : Site} {value : Json}

theorem dialect_of_yields_compileKeywords {entries : List (KeywordEntry Json)} {result : Site × List Rule}
    (yields : Yields (compileKeywords registered sub site entries) before result after) :
    result.1.dialect = site.dialect := by
  induction entries generalizing site before result with
  | nil =>
    obtain ⟨rfl, rfl⟩ := yields_compileKeywords_nil.mp yields
    rfl
  | cons entry entries ih =>
    obtain ⟨first, between, rest, yieldsFirst, yieldsRest, rfl⟩ := yields_compileKeywords_cons.mp yields
    exact (ih yieldsRest).trans (KeywordSite.leaves_of_yields yieldsFirst).1

theorem yields_compileKeywords_mono {entries : List (KeywordEntry Json)} {result : Site × List Rule}
    (includes : ∀ place inner before number after, place.dialect = site.dialect →
      Yields (sub place inner) before number after → Yields (other place inner) before number after)
    (yields : Yields (compileKeywords registered sub site entries) before result after) :
    Yields (compileKeywords registered other site entries) before result after := by
  induction entries generalizing site before result with
  | nil => exact yields
  | cons entry entries ih =>
    obtain ⟨first, between, rest, yieldsFirst, yieldsRest, rfl⟩ := yields_compileKeywords_cons.mp yields
    have stays : first.1.dialect = site.dialect := (KeywordSite.leaves_of_yields yieldsFirst).1
    exact yields_compileKeywords_cons.mpr ⟨first, between, rest, KeywordSite.yields_compile_mono includes yieldsFirst,
      ih (by rw [stays]; exact includes) yieldsRest, rfl⟩

theorem yields_compileShape_mono {made : Site × Shape}
    (includes : ∀ place inner before number after, place.dialect = made.1.dialect →
      Yields (sub place inner) before number after → Yields (other place inner) before number after)
    (yields : Yields (site.compileShape options registered sub value) before made after) :
    Yields (site.compileShape options registered other value) before made after := by
  cases value with
  | object members =>
    obtain ⟨result, stop, yieldsMembers, shaped⟩ := yields_bind.mp yields
    obtain ⟨rfl, rfl⟩ := yields_pure.mp shaped
    obtain ⟨selected, start, selects, goesOn⟩ := yields_bind.mp yieldsMembers
    obtain ⟨⟨final, rules⟩, middle, keywords, finishes⟩ := yields_bind.mp goesOn
    have ends : result.1 = final := by
      dsimp only at finishes
      split at finishes
      · exact absurd finishes yields_throw
      · exact congrArg Prod.fst (yields_pure.mp finishes).1.symm
      · exact congrArg Prod.fst (yields_pure.mp finishes).1.symm
    have stays : final.dialect = selected.dialect := dialect_of_yields_compileKeywords keywords
    refine yields_bind.mpr ⟨result, _, yields_compileMembers_of selects ?_ finishes, shaped⟩
    exact yields_compileKeywords_mono (by rw [← stays, ← ends]; exact includes) keywords
  | _ => exact yields

variable {depth number : Nat}

/-- What compiles under one dialect compiles. -/
theorem yields_compileWithin_of_compileUnder {dialect : Dialect}
    (yields : Yields (compileUnder dialect options registered depth site value) before number after) :
    Yields (compileWithin options registered depth site value) before number after := by
  induction depth generalizing site value before number after with
  | zero => exact absurd yields yields_throw
  | succ depth ih =>
    obtain ⟨rfl, made, middle, yieldsShape, -, yieldsFinish⟩ := yields_compileUnder.mp yields
    exact yields_compileNode.mpr ⟨rfl, made, middle,
      yields_compileShape_mono (fun _ _ _ _ _ _ => ih) yieldsShape, yieldsFinish⟩

/-- With options that know no other dialect, what compiles from the draft compiles under the draft. -/
theorem yields_compileUnder_of_compileWithin (only : options.KnowsOnlyDraft) (drafted : site.dialect = Draft.dialect)
    (yields : Yields (compileWithin options registered depth site value) before number after) :
    Yields (compileUnder Draft.dialect options registered depth site value) before number after := by
  induction depth generalizing site value before number after with
  | zero => exact absurd yields yields_throw
  | succ depth ih =>
    obtain ⟨rfl, made, middle, yieldsShape, yieldsFinish⟩ := yields_compileNode.mp yields
    have anything (dialect : Dialect) (same : dialect = Draft.dialect) : KeywordSite.KeepsBelow (fun _ => True) dialect
        (compileWithin options registered depth) := fun _ _ _ _ _ => ⟨trivial, fun _ _ => trivial⟩
    have stays : made.1.dialect = Draft.dialect :=
      ((keeps_compileShape (· = Draft.dialect) options registered _ (site.start before.nodes.size) value drafted
        (keeps_selectDialect only drafted) anything _ trivial).2 made (congrArg Prod.fst yieldsShape)).1
    exact yields_compileUnder.mpr ⟨rfl, made, middle,
      yields_compileShape_mono (fun _ _ _ _ _ same => ih (same.trans stays)) yieldsShape, stays, yieldsFinish⟩

/-! ## How nodes are made -/

end Site

/-- The anchor that a schema declares, if any. -/
def Json.anchor? : Json → Option String
  | .object members => (assoc? StandardKeyword.anchor.name members).bind (·.string?)
  | _ => none

/-- Whether a schema declares an id, given the base around it. -/
def Json.Declares (value : Json) (around id : Url) : Prop :=
  ∃ text url, value.member? StandardKeyword.id.name = some (.string text) ∧ around.join text = .ok url ∧
    url.withoutFragment = id

theorem Json.Declares.declaresId {value : Json} {around id : Url} (declares : value.Declares around id) :
    value.declaresId = true := by
  obtain ⟨text, -, found, -⟩ := declares
  cases value with
  | object members => exact Option.isSome_iff_exists.mpr ⟨_, found⟩
  | _ => cases found

namespace Site

/-- What becomes of a site and of the assembly when a schema declares its id, if it does. -/
inductive Opens (registered : Bool) (site : Site) (value : Json) (before : Assembly) : Site → Assembly → Prop
  | plain (plain : value.declaresId = false) : Opens registered site value before site before
  /-- A document may declare the id that it has. -/
  | same {id : Url} (declares : value.Declares site.base id) (root : site.node = 0)
      (has : ∀ resource ∈ before.resources[0]?, resource.id = id) :
      Opens registered site value before { site with base := id } before
  /-- The document gets another id. -/
  | renamed {id : Url} (declares : value.Declares site.base id) (root : site.node = 0) (free : id ∉ before.taken) :
      Opens registered site value before { site with base := id }
        { before with
          taken := id :: before.taken
          ids := if registered then putEntry id 0 before.ids else before.ids
          resources := before.resources.modify 0 fun resource => { resource with id } }
  /-- A resource starts at the node. -/
  | resource {id : Url} (declares : value.Declares site.base id) (inner : site.node ≠ 0) (free : id ∉ before.taken) :
      Opens registered site value before
        { site with
          resource := before.resources.size
          paths := (before.resources.size, .root) :: site.paths
          base := id }
        { before with
          taken := id :: before.taken
          ids := putEntry id before.resources.size before.ids
          resources := before.resources.push
            ⟨id, site.node, some site.resource, site.dialect, [], [], []⟩ }

/-- The assembly when the node of a site is finished. -/
def finished (site : Site) (value : Json) (shape : Shape) (assembly : Assembly) : Assembly :=
  { assembly with
    resources := assembly.resources.mapIdx site.enteredResource
    nodes := assembly.nodes.setIfInBounds site.node (some (site.finishedNode value shape)) }

/-- How schemas are compiled at a site one after the other, each at the path of some tokens: a node is opened, its
sub-schemas are compiled, and it is finished with their numbers. -/
inductive Compiles (registered : Bool) : Site → List (List String × Json) → Assembly → List Nat → Assembly → Prop
  | nil (site : Site) (assembly : Assembly) : Compiles registered site [] assembly [] assembly
  | cons {site opened final : Site} {tokens : List String} {value : Json} {slots : List (List String × Json)}
      {before named middle after : Assembly} {below numbers : List Nat} {shape : Shape} (dialects : DialectCache)
      (opens : ((site.descend tokens).start before.nodes.size).Opens registered value
        { before with nodes := before.nodes.push none, dialects } opened named)
      (inner : Compiles registered opened value.slots named below middle)
      (marked : opened.marked final = final)
      (anchored : final.anchor = value.anchor?)
      (shown : (final.finishedNode value shape).Shows value opened.base below)
      (rest : Compiles registered site slots (final.finished value shape middle) numbers after) :
      Compiles registered site ((tokens, value) :: slots) before (before.nodes.size :: numbers) after

namespace Opens

variable {site opened : Site} {value : Json}

theorem nodes_eq (opens : site.Opens registered value before opened after) : after.nodes = before.nodes := by
  cases opens <;> rfl

theorem node_eq (opens : site.Opens registered value before opened after) : opened.node = site.node := by
  cases opens <;> rfl

theorem anchor_eq (opens : site.Opens registered value before opened after) : opened.anchor = site.anchor := by
  cases opens <;> rfl

theorem dialect_eq (opens : site.Opens registered value before opened after) : opened.dialect = site.dialect := by
  cases opens <;> rfl

/-- A resource behind a node that was opened was there before, but perhaps under another id, or it starts at the node. -/
theorem cases_of_resource (opens : site.Opens registered value before opened after) {index : Nat} {resource : Resource}
    (found : after.resources[index]? = some resource) : ∃ id,
    (∃ earlier, before.resources[index]? = some earlier ∧ resource = { earlier with id }) ∨
      resource = ⟨id, site.node, some site.resource, site.dialect, [], [], []⟩ := by
  have kept {earlier : Resource} (present : before.resources[index]? = some earlier) : ∃ id,
      (∃ other, before.resources[index]? = some other ∧ earlier = { other with id }) ∨
        earlier = ⟨id, site.node, some site.resource, site.dialect, [], [], []⟩ :=
    ⟨earlier.id, .inl ⟨earlier, present, by cases earlier; rfl⟩⟩
  cases opens with
  | plain => exact kept found
  | same => exact kept found
  | @renamed id =>
    rw [getElem?_modify_zero, Option.map_eq_some_iff] at found
    obtain ⟨earlier, present, rfl⟩ := found
    split
    · exact ⟨id, .inl ⟨earlier, present, rfl⟩⟩
    · exact kept present
  | @resource id =>
    rcases eq_or_of_getElem?_push found with ⟨-, rfl⟩ | earlier
    · exact ⟨id, .inr rfl⟩
    · exact kept earlier

end Opens

namespace Compiles

variable {site : Site} {slots more : List (List String × Json)} {between : Assembly} {numbers others : List Nat}

theorem length_eq (compiles : Compiles registered site slots before numbers after) :
    numbers.length = slots.length := by
  induction compiles with
  | nil => rfl
  | cons _ _ _ _ _ _ _ _ ih => rw [List.length_cons, List.length_cons, ih]

theorem append (first : Compiles registered site slots before numbers between)
    (second : Compiles registered site more between others after) :
    Compiles registered site (slots ++ more) before (numbers ++ others) after := by
  induction first with
  | nil => exact second
  | cons dialects opens inner marked anchored shown rest _ ih =>
    exact .cons dialects opens inner marked anchored shown (ih second)

theorem size_le (compiles : Compiles registered site slots before numbers after) :
    before.nodes.size ≤ after.nodes.size := by
  induction compiles with
  | nil => exact Nat.le_refl _
  | cons _ opens _ _ _ _ _ inner rest =>
    rw [opens.nodes_eq, Array.size_push] at inner
    rw [finished, Array.size_setIfInBounds] at rest
    omega

/-- Where a node stands does not depend on the marks of the node around it. -/
theorem unmarked (other : Site) (compiles : Compiles registered site slots before numbers after) :
    Compiles registered (site.marked other) slots before numbers after := by
  induction compiles with
  | nil => exact .nil _ _
  | cons dialects opens inner marked anchored shown rest _ ih =>
    exact .cons dialects opens inner marked anchored shown ih

end Compiles

end Site

/-! ## Keywords -/

theorem Compile.couples_refl {α : Type} (step : Compile α) : Couples True Eq Eq step step := by
  rintro assembly _ rfl
  rcases step.run assembly with ⟨cause | found, after⟩
  · exact .inl trivial
  · exact ⟨rfl, rfl⟩

namespace KeywordSite

open Site

variable {place : KeywordSite} {meaning : StandardKeyword} {value : Json} {result : Site × Option Rule}

/-- Whether sub-schemas below a site of the draft are compiled as nodes of their own. -/
def CompilesBelow (registered : Bool) (sub : Site → Json → Compile Nat) : Prop :=
  ∀ (site : Site) tokens value before number after, site.dialect = Draft.dialect → 0 < before.nodes.size →
    value.NamesOnce → Yields (sub (site.descend tokens) value) before number after →
      Compiles registered site [(tokens, value)] before [number] after

theorem compiles_compileSlots (below : CompilesBelow registered sub) (drafted : place.site.dialect = Draft.dialect)
    {slots : List (List String × Json)} (names : ∀ slot ∈ slots, slot.2.NamesOnce) {numbers : List Nat}
    (some : 0 < before.nodes.size) (yields : Yields (place.compileSlots sub slots) before numbers after) :
    Compiles registered place.site (slots.map fun slot => (place.keyword :: slot.1, slot.2)) before numbers after := by
  induction slots generalizing before numbers with
  | nil =>
    obtain ⟨rfl, rfl⟩ := yields_compileSlots_nil.mp yields
    exact .nil _ _
  | cons slot slots ih =>
    obtain ⟨number, rest, between, rfl, first, others⟩ := yields_compileSlots_cons.mp yields
    have compiles := below _ _ _ _ _ _ drafted some (names slot List.mem_cons_self) first
    exact compiles.append
      (ih (fun other member => names other (List.mem_cons_of_mem _ member)) (some.trans_le compiles.size_le) others)

/-- A keyword that is no id compiles its slots to the branches of its rule. -/
theorem compiles_compile (below : CompilesBelow registered sub) (other : meaning ≠ .id)
    (named : place.keyword = meaning.name) (drafted : place.site.dialect = Draft.dialect) (names : value.NamesOnce)
    (some : 0 < before.nodes.size) (yields : Yields (place.compile registered sub meaning value) before result after) :
    ∃ numbers, Compiles registered place.site
        ((meaning.slots value).map fun slot => (place.keyword :: slot.1, slot.2)) before numbers after ∧
      result.2.toList.flatMap Rule.branches =
        (((meaning.slots value).map fun slot => (place.keyword :: slot.1, slot.2)).map (·.1)).zip numbers ∧
      place.site.marked result.1 = result.1 := by
  obtain ⟨numbers, slots, twigs⟩ := listsSlots meaning value other _ _ _ _ _ _ yields
  have inside (slot : List String × Json) (member : slot ∈ meaning.slots value) : slot.2.NamesOnce :=
    names.mono (StandardKeyword.part_of_mem_slots meaning member).values_subset
  refine ⟨numbers, compiles_compileSlots below drafted inside some slots, ?_,
    (fillsSlots meaning value other _ _ _ _ _ _ yields).1⟩
  have means := (leaves_of_yields yields).2
  have branches (rule : Rule) (member : rule ∈ result.2.toList) :
      rule.branches = rule.twigs.map fun twig => (place.keyword :: twig.1, twig.2) := by
    rw [Rule.branches, Rule.keyword_of_standard? (means rule (Option.mem_toList.mp member)), named]
  have zipped := congrArg (List.map fun twig : List String × Nat => (place.keyword :: twig.1, twig.2)) twigs
  rw [List.map_flatMap] at zipped
  rw [List.flatMap_congr branches, zipped, List.map_map]
  exact (List.zip_map_left.symm.trans (by rw [List.map_map]; rfl))

/-- A keyword that declares neither an id nor an anchor keeps the anchor that was declared before. -/
theorem anchor_eq_of_yields (noId : meaning ≠ .id) (noAnchor : meaning ≠ .anchor)
    (yields : Yields (place.compile registered sub meaning value) before result after) :
    result.1.anchor = place.site.anchor := by
  have couples : Couples True Eq (LeavesAlike (fun site _ => site.anchor = place.site.anchor) id)
      (place.compile registered sub meaning value) (place.compile registered sub meaning value) :=
    couples_compile rfl rfl rfl (fun id => absurd id noId) (fun anchor => absurd anchor noAnchor) (fun _ _ => rfl)
      (fun _ _ => rfl) fun _ _ _ => couples_refl _
  obtain ⟨_, _, -, alike, -⟩ := couples.yields rfl yields
  exact alike.1

theorem anchor_of_yields_anchor (yields : Yields (place.compile registered sub .anchor value) before result after) :
    ∃ name, value = .string name ∧ result.1.anchor = some name := by
  obtain ⟨name, between, read, made⟩ := yields_bind.mp yields
  obtain ⟨reads, rfl⟩ := yields_read.mp read
  obtain ⟨rfl, rfl⟩ := yields_pure.mp made
  cases value with
  | string text =>
    refine ⟨text, rfl, congrArg some ?_⟩
    have whole : (if isAnchorName text then .ok text else .error (.invalidAnchor place.location text)) =
        (.ok name : Except CompileError String) := reads
    split at whole
    · exact (Except.ok.inj whole).symm
    · cases whole
  | _ => cases reads

/-- How an id is declared. -/
theorem opens_of_yields {inner : Json} (value : Json) (present : value.member? StandardKeyword.id.name = some inner)
    (yields : Yields (place.compile registered sub .id inner) before result after) :
    place.site.Opens registered value before result.1 after ∧ result.2 = none := by
  obtain ⟨declared, between, yieldsDeclared, made⟩ := yields_bind.mp yields
  obtain ⟨rfl, rfl⟩ := yields_pure.mp made
  refine ⟨?_, rfl⟩
  obtain ⟨id, start, read, goesOn⟩ := yields_bind.mp yieldsDeclared
  obtain ⟨found, rfl⟩ := yields_read.mp read
  obtain ⟨text, url, rfl, joined, same⟩ := declaredId_eq_ok found
  have declares : value.Declares place.site.base id := ⟨text, url, present, joined, same⟩
  by_cases root : place.site.node = 0
  · rw [if_pos root] at goesOn
    obtain ⟨done, middle, renames, kept⟩ := yields_bind.mp goesOn
    obtain ⟨rfl, rfl⟩ := yields_pure.mp kept
    obtain ⟨assembly, stop, got, renames⟩ := yields_bind.mp renames
    obtain ⟨rfl, rfl⟩ := yields_get.mp got
    split at renames
    · obtain ⟨done, taken, took, modified⟩ := yields_bind.mp renames
      obtain ⟨free, rfl⟩ := yields_takeId.mp took
      obtain rfl := yields_modify.mp modified
      exact .renamed declares root free
    · next unchanged =>
      obtain ⟨-, rfl⟩ := yields_pure.mp renames
      refine .same declares root fun resource member => ?_
      rw [Option.mem_def] at member
      rw [member] at unchanged
      simpa using unchanged
  · rw [if_neg root] at goesOn
    obtain ⟨started, middle, starts, kept⟩ := yields_bind.mp goesOn
    obtain ⟨rfl, rfl⟩ := yields_pure.mp kept
    obtain ⟨free, rfl, rfl⟩ := yields_startResource.mp starts
    exact .resource declares root free

end KeywordSite

namespace Draft

theorem keyword?_anchor : dialect.keyword? StandardKeyword.anchor.name = some (3, .standard .anchor) := by
  decide +kernel

/-- Among the keywords of a schema object is one that declares its anchor, or it has none. -/
theorem eq_anchor?_of_entries {members : List (String × Json)} (distinct : (members.map (·.1)).Nodup)
    {anchor : Option String}
    (found : (∃ entry ∈ KeywordEntry.inOrder (Site.knownMembers dialect members), entry.spec.meaning = .anchor ∧
        ∃ name, entry.item = .string name ∧ anchor = some name) ∨
      (∀ entry ∈ KeywordEntry.inOrder (Site.knownMembers dialect members), entry.spec.meaning ≠ .anchor) ∧
        anchor = none) :
    anchor = (Json.object members).anchor? := by
  rcases found with ⟨entry, member, means, name, item, rfl⟩ | ⟨none, rfl⟩
  · obtain ⟨inside, standard⟩ := mem_of_mem_inOrder member
    rw [standard, means, item] at inside
    have held : assoc? StandardKeyword.anchor.name members = some (.string name) := assoc?_of_mem distinct inside
    rw [Json.anchor?, held]
    rfl
  · cases present : assoc? StandardKeyword.anchor.name members with
    | none => rw [Json.anchor?, present, Option.bind_none]
    | some value =>
      have known : ⟨3, .standard .anchor, value⟩ ∈ KeywordEntry.inOrder (Site.knownMembers dialect members) :=
        (KeywordEntry.inOrder_perm _).mem_iff.mpr (List.mem_filterMap.mpr
          ⟨_, mem_of_assoc? present, by dsimp only; rw [keyword?_anchor]; rfl⟩)
      exact absurd rfl (none _ known)

end Draft

namespace Site

open KeywordSite

variable {site : Site}

theorem marked_of_marked {next final : Site} (first : site.marked next = next) (second : next.marked final = final) :
    site.marked final = final := by
  rw [← first] at second
  exact second

/-- Keywords that are no ids compile their slots to the branches of their rules. -/
theorem compiles_compileKeywords (below : CompilesBelow registered sub) {entries : List (KeywordEntry Json)}
    (others : ∀ entry ∈ entries, entry.spec.meaning ≠ .id)
    (standard : ∀ entry ∈ entries, entry.spec = .standard entry.spec.meaning)
    (names : ∀ entry ∈ entries, entry.item.NamesOnce) (drafted : site.dialect = Draft.dialect)
    (some : 0 < before.nodes.size) {result : Site × List Rule}
    (yields : Yields (compileKeywords registered sub site entries) before result after) :
    ∃ numbers, Compiles registered site (entries.flatMap KeywordEntry.slots) before numbers after ∧
      result.2.flatMap Rule.branches = ((entries.flatMap KeywordEntry.slots).map (·.1)).zip numbers ∧
      site.marked result.1 = result.1 := by
  induction entries generalizing site before result with
  | nil =>
    obtain ⟨rfl, rfl⟩ := yields_compileKeywords_nil.mp yields
    exact ⟨[], .nil _ _, rfl, rfl⟩
  | cons entry entries ih =>
    obtain ⟨first, between, rest, yieldsFirst, yieldsRest, rfl⟩ := yields_compileKeywords_cons.mp yields
    have named : entry.spec.keyword = entry.spec.meaning.name :=
      congrArg KeywordSpec.keyword (standard entry List.mem_cons_self)
    obtain ⟨numbers, compiles, branches, marked⟩ := compiles_compile below (others entry List.mem_cons_self) named
      drafted (names entry List.mem_cons_self) some yieldsFirst
    obtain ⟨more, compilesRest, branchesRest, markedRest⟩ := ih
      (fun other member => others other (List.mem_cons_of_mem _ member))
      (fun other member => standard other (List.mem_cons_of_mem _ member))
      (fun other member => names other (List.mem_cons_of_mem _ member))
      ((leaves_of_yields yieldsFirst).1.trans drafted) (some.trans_le compiles.size_le) yieldsRest
    have unmarked := compilesRest.unmarked site
    rw [← marked] at unmarked
    refine ⟨numbers ++ more, compiles.append unmarked, ?_, marked_of_marked marked markedRest⟩
    rw [List.flatMap_append, branches, branchesRest, List.flatMap_cons, List.map_append, List.zip_append]
    · rfl
    · rw [List.length_map, compiles.length_eq]
      rfl

/-- The rules of keywords that are no ids have the names of these keywords, and references that their texts give. -/
theorem rules_of_yields_compileKeywords {entries : List (KeywordEntry Json)}
    (others : ∀ entry ∈ entries, entry.spec.meaning ≠ .id)
    (standard : ∀ entry ∈ entries, entry.spec = .standard entry.spec.meaning) {result : Site × List Rule}
    (yields : Yields (compileKeywords registered sub site entries) before result after) :
    ∀ rule ∈ result.2, ∃ entry ∈ entries, rule.keyword = entry.spec.keyword ∧
      ∀ reference ∈ rule.reference?, ∃ text, entry.item = .string text ∧ site.base.join text = .ok reference := by
  induction entries generalizing site before result with
  | nil =>
    obtain ⟨rfl, rfl⟩ := yields_compileKeywords_nil.mp yields
    exact fun rule member => absurd member List.not_mem_nil
  | cons entry entries ih =>
    obtain ⟨first, between, rest, yieldsFirst, yieldsRest, rfl⟩ := yields_compileKeywords_cons.mp yields
    intro rule member
    rcases List.mem_append.mp member with early | late
    · have own := Option.mem_toList.mp early
      refine ⟨entry, List.mem_cons_self, ?_, fun reference refers =>
        (join_of_reference? yieldsFirst rule own reference refers).2⟩
      rw [Rule.keyword_of_standard? ((leaves_of_yields yieldsFirst).2 rule own), standard entry List.mem_cons_self]
      rfl
    · have marked := (fillsSlots _ _ (others entry List.mem_cons_self) _ _ _ _ _ _ yieldsFirst).1
      have base : first.1.base = site.base := by
        rw [← marked]
        rfl
      obtain ⟨other, inside, same, joined⟩ := ih (fun other inside => others other (List.mem_cons_of_mem _ inside))
        (fun other inside => standard other (List.mem_cons_of_mem _ inside)) yieldsRest rule late
      rw [base] at joined
      exact ⟨other, List.mem_cons_of_mem _ inside, same, joined⟩

/-- The anchor of a site after some keywords is the one among them, or the one before. -/
theorem anchor_of_yields_compileKeywords {entries : List (KeywordEntry Json)}
    (others : ∀ entry ∈ entries, entry.spec.meaning ≠ .id) {result : Site × List Rule}
    (yields : Yields (compileKeywords registered sub site entries) before result after) :
    (∃ entry ∈ entries, entry.spec.meaning = .anchor ∧ ∃ name, entry.item = .string name ∧
        result.1.anchor = some name) ∨
      (∀ entry ∈ entries, entry.spec.meaning ≠ .anchor) ∧ result.1.anchor = site.anchor := by
  induction entries generalizing site before result with
  | nil =>
    obtain ⟨rfl, rfl⟩ := yields_compileKeywords_nil.mp yields
    exact .inr ⟨fun _ member => absurd member List.not_mem_nil, rfl⟩
  | cons entry entries ih =>
    obtain ⟨first, between, rest, yieldsFirst, yieldsRest, rfl⟩ := yields_compileKeywords_cons.mp yields
    rcases ih (fun other member => others other (List.mem_cons_of_mem _ member)) yieldsRest with
      ⟨later, member, found⟩ | ⟨none, stays⟩
    · exact .inl ⟨later, List.mem_cons_of_mem _ member, found⟩
    · by_cases means : entry.spec.meaning = .anchor
      · rw [means] at yieldsFirst
        obtain ⟨name, item, marked⟩ := anchor_of_yields_anchor yieldsFirst
        exact .inl ⟨entry, List.mem_cons_self, means, name, item, stays.trans marked⟩
      · refine .inr ⟨List.forall_mem_cons.mpr ⟨means, none⟩, stays.trans ?_⟩
        exact anchor_eq_of_yields (others entry List.mem_cons_self) means yieldsFirst

/-- How a schema object of the draft is compiled: it is opened, and its sub-schemas are compiled in the order of its
slots. -/
theorem compiles_members (below : CompilesBelow registered sub) {members : List (String × Json)}
    (names : (Json.object members).NamesOnce) (drafted : site.dialect = Draft.dialect) (blank : site.anchor = none)
    (some : 0 < before.nodes.size) {result : Site × List Rule}
    (yields : Yields (compileKeywords registered sub site (KeywordEntry.inOrder (knownMembers Draft.dialect members)))
      before result after) :
    ∃ opened named numbers, site.Opens registered (.object members) before opened named ∧
      Compiles registered opened (Json.object members).slots named numbers after ∧
      opened.marked result.1 = result.1 ∧ result.1.anchor = (Json.object members).anchor? ∧
      result.2.flatMap Rule.branches = ((Json.object members).slots.map (·.1)).zip numbers ∧
      ∀ rule ∈ result.2, ∃ entry ∈ KeywordEntry.inOrder (knownMembers Draft.dialect members),
        rule.keyword = entry.spec.keyword ∧
          ∀ reference ∈ rule.reference?, ∃ text, entry.item = .string text ∧ opened.base.join text = .ok reference := by
  have standard (entry : KeywordEntry Json)
      (member : entry ∈ KeywordEntry.inOrder (knownMembers Draft.dialect members)) :
      entry.spec = .standard entry.spec.meaning := (Draft.mem_of_mem_inOrder member).2
  have namesInside (entry : KeywordEntry Json)
      (member : entry ∈ KeywordEntry.inOrder (knownMembers Draft.dialect members)) : entry.item.NamesOnce :=
    names.mono (Json.values_subset_of_mem (Draft.mem_of_mem_inOrder member).1)
  cases present : assoc? StandardKeyword.id.name members with
  | none =>
    have plain : (Json.object members).declaresId = false := by rw [Json.declaresId, present, Option.isSome_none]
    have others (entry : KeywordEntry Json)
        (member : entry ∈ KeywordEntry.inOrder (knownMembers Draft.dialect members)) : entry.spec.meaning ≠ .id := by
      intro id
      obtain ⟨inside, own⟩ := Draft.mem_of_mem_inOrder member
      rw [own, id] at inside
      have found := isSome_assoc?_iff.mpr (List.mem_map_of_mem (f := (·.1)) inside)
      exact absurd (present ▸ found) (by simp)
    obtain ⟨numbers, compiles, branches, marked⟩ :=
      compiles_compileKeywords below others standard namesInside drafted some yields
    refine ⟨site, before, numbers, .plain plain, compiles, marked, ?_, branches,
      rules_of_yields_compileKeywords others standard yields⟩
    have anchored := anchor_of_yields_compileKeywords others yields
    rw [blank] at anchored
    exact Draft.eq_anchor?_of_entries names.nodup anchored
  | some inner =>
    obtain ⟨entry, rest, ordered, own, item, others⟩ :=
      Draft.inOrder_eq_cons_of_id names.nodup (mem_of_assoc? present)
    have anchors := @Draft.eq_anchor?_of_entries members names.nodup result.1.anchor
    rw [ordered] at yields standard namesInside anchors
    obtain ⟨first, between, made, yieldsFirst, yieldsRest, rfl⟩ := yields_compileKeywords_cons.mp yields
    have means : entry.spec.meaning = .id := by rw [own]; rfl
    rw [means, item] at yieldsFirst
    obtain ⟨opens, none⟩ := opens_of_yields (.object members) present yieldsFirst
    obtain ⟨numbers, compiles, branches, marked⟩ := compiles_compileKeywords below others
      (fun other member => standard other (List.mem_cons_of_mem _ member))
      (fun other member => namesInside other (List.mem_cons_of_mem _ member)) (opens.dialect_eq.trans drafted)
      (by rw [opens.nodes_eq]; exact some) yieldsRest
    have slots : (Json.object members).slots = rest.flatMap KeywordEntry.slots := by
      rw [Json.slots, ordered, List.flatMap_cons, KeywordEntry.slots, means]
      rfl
    rw [slots, ordered]
    refine ⟨first.1, between, numbers, opens, compiles, marked, anchors ?_, ?_, ?_⟩
    · rcases anchor_of_yields_compileKeywords others yieldsRest with ⟨later, member, found⟩ | ⟨absent, stays⟩
      · exact .inl ⟨later, List.mem_cons_of_mem _ member, found⟩
      · refine .inr ⟨List.forall_mem_cons.mpr ⟨by rw [means]; decide, absent⟩, stays.trans ?_⟩
        exact opens.anchor_eq.trans blank
    · rw [none]
      exact branches
    · rw [none]
      intro rule inside
      obtain ⟨other, member, told⟩ := rules_of_yields_compileKeywords others
        (fun other member => standard other (List.mem_cons_of_mem _ member)) yieldsRest rule inside
      exact ⟨other, List.mem_cons_of_mem _ member, told⟩

/-! ## Nodes -/

theorem dialects_of_yields_libraryDialect? {id : Url} {found : Option Dialect}
    (yields : Yields (libraryDialect? options id) before found after) : ∃ dialects, after = { before with dialects } := by
  unfold libraryDialect? at yields
  split at yields
  · obtain ⟨-, rfl⟩ := yields_pure.mp yields
    exact ⟨_, rfl⟩
  · obtain ⟨assembly, between, got, goesOn⟩ := yields_bind.mp yields
    obtain ⟨rfl, rfl⟩ := yields_get.mp got
    obtain ⟨done, stop, sets, kept⟩ := yields_bind.mp goesOn
    obtain rfl := yields_set.mp sets
    obtain ⟨-, rfl⟩ := yields_pure.mp kept
    exact ⟨_, rfl⟩

/-- Looking for a dialect only keeps the dialects that were found. -/
theorem dialects_of_yields_namedDialect {value : Json} {dialect : Dialect}
    (yields : Yields (site.namedDialect options value) before dialect after) :
    ∃ dialects, after = { before with dialects } := by
  obtain ⟨text, start, read, named⟩ := yields_bind.mp yields
  obtain ⟨-, rfl⟩ := yields_read.mp read
  obtain ⟨id, middle, readId, known⟩ := yields_bind.mp named
  obtain ⟨-, rfl⟩ := yields_read.mp readId
  have kept {found : Dialect} {start last : Assembly} (made : Yields (pure found) start dialect last) : last = start :=
    (yields_pure.mp made).2.symm
  split at known
  · exact ⟨_, kept known⟩
  · split at known
    · exact ⟨_, kept known⟩
    · obtain ⟨found, stop, asked, searched⟩ := yields_bind.mp known
      obtain ⟨dialects, rfl⟩ := dialects_of_yields_libraryDialect? asked
      refine ⟨dialects, ?_⟩
      cases found with
      | some found => exact kept searched
      | none =>
        dsimp only at searched
        split at searched
        · exact kept searched
        · split at searched
          · split at searched
            · exact kept searched
            · exact absurd searched yields_throw
          · exact absurd searched yields_throw

/-- A schema object is under the dialect of its site, or it names one. The document has the dialect of its root, and
otherwise nothing changes but the dialects that were found. -/
theorem cases_of_yields_selectDialect {members : List (String × Json)} {selected : Site}
    (yields : Yields (site.selectDialect options members) before selected after) :
    assoc? StandardKeyword.schema.name members = none ∧ selected = site ∧ after = before ∨
      ∃ value dialect dialects, assoc? StandardKeyword.schema.name members = some value ∧
        Yields (site.namedDialect options value) before dialect { before with dialects } ∧
        selected = { site with dialect } ∧ after = { before with
          dialects
          resources := if site.node = 0 then before.resources.modify 0 fun resource => { resource with dialect }
            else before.resources } := by
  unfold selectDialect at yields
  split at yields
  · next none =>
    obtain ⟨rfl, rfl⟩ := yields_pure.mp yields
    exact .inl ⟨none, rfl, rfl⟩
  · next value present =>
    obtain ⟨dialect, between, named, goesOn⟩ := yields_bind.mp yields
    obtain ⟨dialects, rfl⟩ := dialects_of_yields_namedDialect named
    refine .inr ⟨value, dialect, dialects, present, named, ?_⟩
    dsimp only at goesOn
    split at goesOn
    · next root =>
      obtain ⟨done, stop, modified, made⟩ := yields_bind.mp goesOn
      obtain rfl := yields_modify.mp modified
      obtain ⟨rfl, rfl⟩ := yields_pure.mp made
      exact ⟨rfl, by rw [if_pos root]⟩
    · next inner =>
      obtain ⟨rfl, rfl⟩ := yields_pure.mp goesOn
      exact ⟨rfl, by rw [if_neg inner]⟩

/-- To select a dialect changes no resource but that of the document, and of this one the dialect. -/
theorem getElem?_resources_selected (resources : Array Resource) (dialect : Dialect) (site : Site) (index : Nat) :
    (if site.node = 0 then resources.modify 0 fun resource => { resource with dialect } else resources)[index]? =
      (resources[index]?).map fun resource =>
        if site.node = 0 ∧ index = 0 then { resource with dialect } else resource := by
  split
  · next root => simp only [getElem?_modify_zero, root, true_and]
  · next inner => simp only [inner, false_and, if_false, Option.map_id']

/-- What is read of a resource aside from its dialect stays when a dialect is selected. -/
theorem map_resources_selected {α : Type _} {view : Resource → α} (resources : Array Resource) (dialect : Dialect)
    (site : Site) (same : ∀ resource : Resource, view { resource with dialect } = view resource) (index : Nat) :
    ((if site.node = 0 then resources.modify 0 fun resource => { resource with dialect } else resources)[index]?).map
      view = (resources[index]?).map view := by
  rw [getElem?_resources_selected, Option.map_map]
  refine congrArg (Option.map · _) (funext fun resource => ?_)
  dsimp only [Function.comp]
  split
  · exact same resource
  · rfl

theorem size_resources_selected (resources : Array Resource) (dialect : Dialect) (site : Site) :
    (if site.node = 0 then resources.modify 0 fun resource => { resource with dialect } else resources).size =
      resources.size := by
  split
  · exact Array.size_modify
  · rfl

/-- What selecting the draft at a site makes of the assembly: the document has the dialect of its root, and otherwise
nothing changes but the dialects that were found. -/
def Drafts (site : Site) (before after : Assembly) : Prop :=
  site.dialect = Draft.dialect ∧ after = before ∨
    ∃ dialects, after = { before with
      dialects
      resources := if site.node = 0
        then before.resources.modify 0 fun resource => { resource with dialect := Draft.dialect }
        else before.resources }

theorem drafts_of_yields_selectDialect {members : List (String × Json)} {selected : Site}
    (yields : Yields (site.selectDialect options members) before selected after)
    (drafted : selected.dialect = Draft.dialect) :
    selected = { site with dialect := Draft.dialect } ∧ site.Drafts before after := by
  rcases cases_of_yields_selectDialect yields with
    ⟨-, rfl, rfl⟩ | ⟨value, dialect, dialects, -, -, rfl, rfl⟩
  · refine ⟨?_, .inl ⟨drafted, rfl⟩⟩
    rw [← drafted]
  · obtain rfl : dialect = Draft.dialect := drafted
    exact ⟨rfl, .inr ⟨dialects, rfl⟩⟩

/-- How the shape of a node of the draft is made. -/
theorem compiles_compileShape (below : CompilesBelow registered sub) {value : Json} (names : value.NamesOnce)
    (blank : site.anchor = none) (some : 0 < before.nodes.size) {made : Site × Shape}
    (drafted : made.1.dialect = Draft.dialect)
    (yields : Yields (site.compileShape options registered sub value) before made after) :
    ∃ start opened named numbers, site.Drafts before start ∧
      ({ site with dialect := Draft.dialect } : Site).Opens registered value start opened named ∧
      Compiles registered opened value.slots named numbers after ∧
      opened.marked made.1 = made.1 ∧ made.1.anchor = value.anchor? ∧
      (made.1.finishedNode value made.2).Shows value opened.base numbers := by
  cases value with
  | bool accepts =>
    obtain ⟨rfl, rfl⟩ := yields_pure.mp yields
    refine ⟨before, site, before, [], .inl ⟨drafted, rfl⟩, ?_, .nil _ _, rfl, blank, rfl,
      fun rule impossible => absurd impossible List.not_mem_nil,
      fun rule impossible => absurd impossible List.not_mem_nil⟩
    rw [← show site.dialect = Draft.dialect from drafted]
    exact .plain rfl
  | object members =>
    obtain ⟨result, stop, yieldsMembers, shaped⟩ := yields_bind.mp yields
    obtain ⟨rfl, rfl⟩ := yields_pure.mp shaped
    obtain ⟨selected, start, selects, goesOn⟩ := yields_bind.mp yieldsMembers
    obtain ⟨⟨final, rules⟩, middle, keywords, finishes⟩ := yields_bind.mp goesOn
    obtain ⟨ends, rfl, branches, known⟩ : result.1 = final ∧ middle = stop ∧
        result.2.flatMap Rule.branches = rules.flatMap Rule.branches ∧
        ∀ rule ∈ result.2, rule ∈ rules ∨ ∃ member ∈ members, rule = .unknown member.1 member.2 := by
      dsimp only at finishes
      split at finishes
      · exact absurd finishes yields_throw
      · obtain ⟨rfl, rfl⟩ := yields_pure.mp finishes
        refine ⟨rfl, rfl, flatMap_branches_withUnknown _ _, fun rule inside => ?_⟩
        obtain known | ⟨member, strange, rfl⟩ := Draft.mem_withUnknown inside
        · exact .inl known
        · exact .inr ⟨member, List.mem_of_mem_filter strange, rfl⟩
      · obtain ⟨rfl, rfl⟩ := yields_pure.mp finishes
        exact ⟨rfl, rfl, rfl, fun rule inside => .inl inside⟩
    have stays : selected.dialect = Draft.dialect := by
      rw [← dialect_of_yields_compileKeywords keywords, ← ends]
      exact drafted
    obtain ⟨own, drafts⟩ := drafts_of_yields_selectDialect selects stays
    have pos : 0 < start.nodes.size := by
      obtain ⟨-, rfl⟩ | ⟨dialects, rfl⟩ := drafts
      · exact some
      · exact some
    obtain ⟨opened, named, numbers, opens, compiles, marked, anchored, lists, told⟩ :=
      compiles_members below names stays (by rw [own]; exact blank) pos (by rwa [stays] at keywords)
    rw [own] at opens
    refine ⟨start, opened, named, numbers, drafts, opens, compiles, ?_, ?_, branches.trans lists, ?_, ?_⟩
    · rw [ends]
      exact marked
    · rw [ends]
      exact anchored
    · intro rule inside
      refine isSome_assoc?_iff.mpr ?_
      rcases known rule inside with inside | ⟨member, among, rfl⟩
      · obtain ⟨entry, entered, same, -⟩ := told rule inside
        rw [same]
        exact List.mem_map_of_mem (f := (·.1)) (Draft.mem_of_mem_inOrder entered).1
      · exact List.mem_map_of_mem (f := (·.1)) among
    · intro rule inside reference refers
      rcases known rule inside with inside | ⟨member, among, rfl⟩
      · obtain ⟨entry, entered, same, joined⟩ := told rule inside
        obtain ⟨text, item, joined⟩ := joined reference refers
        refine ⟨text, ?_, joined⟩
        rw [same, Json.member?, assoc?_of_mem names.nodup (Draft.mem_of_mem_inOrder entered).1, item]
      · cases refers
  | _ => exact absurd yields yields_throw

/-- Below the root of a document, a value is compiled to a node of its own. -/
theorem compilesBelow_compileUnder (depth : Nat) :
    CompilesBelow registered (compileUnder Draft.dialect options registered depth) := by
  induction depth with
  | zero => exact fun site tokens value before number after _ _ _ yields => absurd yields yields_throw
  | succ depth ih =>
    intro site tokens value before number after drafted some names yields
    obtain ⟨rfl, made, middle, yieldsShape, stays, yieldsFinish⟩ := yields_compileUnder.mp yields
    obtain ⟨start, opened, named, numbers, drafts, opens, compiles, marked, anchored, shown⟩ :=
      compiles_compileShape ih names rfl (by simp) stays yieldsShape
    obtain rfl : made.1.finished value made.2 middle = after := yields_finish.mp yieldsFinish
    have own : ({ (site.descend tokens).start before.nodes.size with dialect := Draft.dialect } : Site) =
        (site.descend tokens).start before.nodes.size := by
      rw [← drafted]
      rfl
    rw [own] at opens
    obtain ⟨dialects, rfl⟩ : ∃ dialects, start = { before with nodes := before.nodes.push none, dialects } := by
      obtain ⟨-, rfl⟩ | ⟨dialects, rfl⟩ := drafts
      · exact ⟨_, rfl⟩
      · refine ⟨dialects, ?_⟩
        rw [if_neg (show ((site.descend tokens).start before.nodes.size).node ≠ 0 from some.ne')]
    exact .cons dialects opens compiles marked anchored shown (.nil _ _)

/-- A document that compiles under the draft is compiled as one node, with all others below it. -/
theorem compiles_document {depth number : Nat} {dialect : Dialect} {base : Url} {dialects : DialectCache} {value : Json}
    (names : value.NamesOnce)
    (yields : Yields (compileUnder Draft.dialect options registered depth (.root dialect base) value)
      (.start dialect base registered dialects) number after) :
    Compiles registered (.root Draft.dialect base) [([], value)] (.start Draft.dialect base registered dialects) [0]
      after := by
  cases depth with
  | zero => exact absurd yields yields_throw
  | succ depth =>
    obtain ⟨rfl, made, middle, yieldsShape, stays, yieldsFinish⟩ := yields_compileUnder.mp yields
    obtain ⟨start, opened, named, numbers, drafts, opens, compiles, marked, anchored, shown⟩ :=
      compiles_compileShape (compilesBelow_compileUnder depth) names rfl (by simp) stays yieldsShape
    obtain rfl : made.1.finished value made.2 middle = after := yields_finish.mp yieldsFinish
    obtain ⟨found, rfl⟩ : ∃ found, start =
        { Assembly.start Draft.dialect base registered dialects with nodes := #[none], dialects := found } := by
      obtain ⟨own, rfl⟩ | ⟨found, rfl⟩ := drafts
      · obtain rfl : dialect = Draft.dialect := own
        exact ⟨_, rfl⟩
      · exact ⟨found, rfl⟩
    exact .cons found opens compiles marked anchored shown (.nil _ _)

end Site

end JsonSchema
