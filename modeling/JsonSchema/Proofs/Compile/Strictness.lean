import JsonSchema.Proofs.Compile.Construction
import JsonSchema.Proofs.Compile.UnknownKeywords

/-! # Compilation that rejects unknown keywords

Where unknown keywords are faults a value compiles just if it compiles with unknown keywords annotated and no node has a
rule for one, and then it is compiled to the same document (`Schema.compileDocument_strict`). A lenient step
`Admits` a strict one if that is so for the nodes that the two make. Nodes that have been started are never touched by
the nodes that come after them (`Site.keeps_compileWithin_slot`).
-/

namespace JsonSchema

open Compile

/-! ## Nodes stay as they are -/

theorem Compile.Keeps.of_yields {α : Type} {nodes : Array (Option Node) → Prop} {yields : α → Prop} {step : Compile α}
    (keeps : Keeps nodes yields step) {before after : Assembly} {value : α} (run : Yields step before value after)
    (kept : nodes before.nodes) : nodes after.nodes ∧ yields value := by
  have ends := keeps before kept
  rw [show step.run before = (.ok value, after) from run] at ends
  exact ⟨ends.1, ends.2 value rfl⟩

namespace KeywordSite

variable {registered : Bool} {sub : Site → Json → Compile Nat} {before after : Assembly} {place : KeywordSite}
  {meaning : StandardKeyword} {value : Json} {result : Site × Option Rule}

/-- A keyword is compiled at one node. -/
theorem node_of_yields (yields : Yields (place.compile registered sub meaning value) before result after) :
    result.1.node = place.site.node := by
  by_cases identifies : meaning = .id
  · subst identifies
    obtain ⟨declared, between, declares, made⟩ := yields_bind.mp yields
    obtain ⟨rfl, rfl⟩ := yields_pure.mp made
    obtain ⟨id, start, -, goesOn⟩ := yields_bind.mp declares
    split at goesOn
    · obtain ⟨done, between, -, kept⟩ := yields_bind.mp goesOn
      obtain ⟨rfl, rfl⟩ := yields_pure.mp kept
      rfl
    · obtain ⟨started, between, starts, kept⟩ := yields_bind.mp goesOn
      obtain ⟨rfl, rfl⟩ := yields_pure.mp kept
      obtain ⟨-, rfl, -⟩ := yields_startResource.mp starts
      rfl
  · obtain ⟨marked, -⟩ := fillsSlots meaning value identifies _ _ _ _ _ _ yields
    rw [← marked]
    rfl

end KeywordSite

namespace Site

variable {options : Options} {registered : Bool} {sub : Site → Json → Compile Nat} {before after : Assembly}
  {site : Site} {value : Json} {nodes : Array (Option Node) → Prop}

theorem node_of_yields_compileKeywords {entries : List (KeywordEntry Json)} {result : Site × List Rule}
    (yields : Yields (compileKeywords registered sub site entries) before result after) :
    result.1.node = site.node := by
  induction entries generalizing site before result with
  | nil =>
    obtain ⟨rfl, rfl⟩ := yields_compileKeywords_nil.mp yields
    rfl
  | cons entry entries ih =>
    obtain ⟨first, between, rest, yieldsFirst, yieldsRest, rfl⟩ := yields_compileKeywords_cons.mp yields
    exact (ih yieldsRest).trans (KeywordSite.node_of_yields yieldsFirst)

theorem node_of_yields_selectDialect {members : List (String × Json)} {selected : Site}
    (yields : Yields (site.selectDialect options members) before selected after) : selected.node = site.node := by
  rcases cases_of_yields_selectDialect yields with ⟨-, rfl, -⟩ | ⟨value, dialect, dialects, -, -, rfl, -⟩ <;> rfl

theorem keeps_namedDialect_of_nodes : Keeps nodes (fun _ => True) (site.namedDialect options value) := by
  have library (id : Url) : Keeps nodes (fun _ => True) (libraryDialect? options id) := by
    unfold libraryDialect?
    split
    · exact keeps_pure trivial
    · exact keeps_bind keeps_get fun _ kept => keeps_bind (keeps_set kept) fun _ _ => keeps_pure trivial
  refine keeps_bind KeywordSite.keeps_read fun text _ => keeps_bind KeywordSite.keeps_read fun id _ => ?_
  split
  · exact keeps_pure trivial
  · split
    · exact keeps_pure trivial
    · refine keeps_bind (library id) fun found _ => ?_
      split
      · exact keeps_pure trivial
      · split
        · exact keeps_pure trivial
        · split
          · split
            · exact keeps_pure trivial
            · exact keeps_throw
          · exact keeps_throw

theorem keeps_selectDialect_of_nodes (members : List (String × Json)) :
    Keeps nodes (fun _ => True) (site.selectDialect options members) := by
  unfold selectDialect
  split
  · exact keeps_pure trivial
  · refine keeps_bind keeps_namedDialect_of_nodes fun dialect _ => ?_
    dsimp only
    split
    · exact keeps_bind (keeps_modify fun _ kept => kept) fun _ _ => keeps_pure trivial
    · exact keeps_pure trivial

end Site

/-- The rules of a schema object, given its unknown members and the rules of its other ones, unless unknown keywords are
faults. -/
def UnknownKeywords.complete? : UnknownKeywords → List (String × Json) → List Rule → Option (List Rule)
  | .error, _ :: _, _ => none
  | .annotate, unknown, rules => some (Site.withUnknown unknown rules)
  | _, _, rules => some rules

namespace Site

variable {options : Options} {registered : Bool} {sub other : Site → Json → Compile Nat} {before after : Assembly}
  {site : Site} {value : Json} {made : Site × Shape} {members : List (String × Json)}

/-- A schema object selects its dialect, its keywords are compiled, and its unknown members are seen to. -/
theorem yields_compileShape_object :
    Yields (site.compileShape options registered sub (.object members)) before made after ↔
      ∃ selected start rules complete, Yields (site.selectDialect options members) before selected start ∧
        Yields (selected.compileKeywords registered sub (KeywordEntry.inOrder (knownMembers selected.dialect members)))
          start (made.1, rules) after ∧
        options.unknownKeywords.complete? (unknownMembers selected.dialect members) rules = some complete ∧
        made.2 = .object complete := by
  constructor
  · intro yields
    obtain ⟨result, stop, yieldsMembers, shaped⟩ := yields_bind.mp yields
    obtain ⟨rfl, rfl⟩ := yields_pure.mp shaped
    obtain ⟨selected, start, selects, goesOn⟩ := yields_bind.mp yieldsMembers
    obtain ⟨⟨final, rules⟩, middle, keywords, finishes⟩ := yields_bind.mp goesOn
    refine ⟨selected, start, rules, result.2, selects, ?_⟩
    dsimp only at finishes
    split at finishes
    · exact absurd finishes yields_throw
    · next treats =>
      obtain ⟨rfl, rfl⟩ := yields_pure.mp finishes
      exact ⟨keywords, by rw [treats]; rfl, rfl⟩
    · next lenient strict =>
      obtain ⟨rfl, rfl⟩ := yields_pure.mp finishes
      refine ⟨keywords, ?_, rfl⟩
      unfold UnknownKeywords.complete?
      split
      · next treats some => exact (strict _ _ _ treats some).elim
      · next treats => exact (lenient treats).elim
      · rfl
  · rintro ⟨selected, start, rules, complete, selects, keywords, completes, shaped⟩
    refine yields_bind.mpr ⟨(made.1, complete), after, yields_compileMembers_of selects keywords ?_,
      yields_pure.mpr ⟨Prod.ext rfl shaped.symm, rfl⟩⟩
    unfold UnknownKeywords.complete? at completes
    split at completes
    · cases completes
    · next treats =>
      rw [treats, ← Option.some.inj completes]
      exact yields_pure.mpr ⟨rfl, rfl⟩
    · next lenient strict =>
      split
      · next treats some => exact (strict _ _ treats some).elim
      · next treats => exact (lenient treats).elim
      · rw [← Option.some.inj completes]
        exact yields_pure.mpr ⟨rfl, rfl⟩

/-- A shape is made at one node. -/
theorem node_of_yields_compileShape
    (yields : Yields (site.compileShape options registered sub value) before made after) : made.1.node = site.node := by
  cases value with
  | bool accepts =>
    obtain ⟨rfl, rfl⟩ := yields_pure.mp yields
    rfl
  | object members =>
    obtain ⟨selected, start, rules, complete, selects, keywords, -⟩ := yields_compileShape_object.mp yields
    exact (node_of_yields_compileKeywords keywords).trans (node_of_yields_selectDialect selects)
  | _ => exact absurd yields yields_throw

theorem keeps_compileShape_slot {index : Nat} {slot : Option Node}
    (below : ∀ site inner, Keeps (fun nodes => nodes[index]? = some slot) (fun _ => True) (sub site inner))
    (site : Site) (value : Json) :
    Keeps (fun nodes => nodes[index]? = some slot) (fun _ => True)
      (site.compileShape options registered sub value) :=
  fun before kept =>
    have ends := keeps_compileShape (fun _ => True) options registered sub site value trivial
      (fun _ => keeps_selectDialect_of_nodes _) (fun _ _ site inner _ => below site inner) before kept
    ⟨ends.1, fun _ _ => trivial⟩

/-- What is in a slot for a node stays there when further nodes are compiled. -/
theorem keeps_compileWithin_slot (index : Nat) (slot : Option Node) (depth : Nat) (site : Site) (value : Json) :
    Keeps (fun nodes => nodes[index]? = some slot) (fun _ => True)
      (compileWithin options registered depth site value) := by
  induction depth generalizing site value with
  | zero => exact keeps_throw
  | succ depth ih =>
    refine keeps_bind keeps_get fun assembly kept => ?_
    have bound := (Array.getElem?_eq_some_iff.mp kept).1
    refine keeps_bind (keeps_modify fun _ kept => getElem?_push_of_eq_some kept none) fun _ _ => ?_
    refine keeps_bind (keeps_compileShape_slot ih _ value).and_run ?_
    rintro ⟨final, shape⟩ ⟨-, before, after, run⟩
    have own : final.node = assembly.nodes.size := node_of_yields_compileShape run
    refine keeps_bind (keeps_modify fun started kept => ?_) fun _ _ => keeps_pure trivial
    dsimp only
    rw [Array.getElem?_setIfInBounds_ne (by omega)]
    exact kept

/-- While the nodes below a new node are compiled its slot is free. -/
theorem free_of_yields_compileShape {depth : Nat}
    (yields : Yields ((site.start before.nodes.size).compileShape options registered
      (compileWithin options registered depth) value) { before with nodes := before.nodes.push none } made after) :
    after.nodes[made.1.node]? = some none := by
  have started : (before.nodes.push none)[before.nodes.size]? = some none := Array.getElem?_push_size
  rw [node_of_yields_compileShape yields]
  exact ((keeps_compileShape_slot (keeps_compileWithin_slot before.nodes.size none depth) _ value).of_yields yields
    started).1

end Site

/-! ## Lenient and strict steps -/

/-- Whether no finished node has a rule for an unknown keyword. -/
def Assembly.IsBare (assembly : Assembly) : Prop :=
  ∀ node, some node ∈ assembly.nodes → ∀ rule ∈ node.rules, rule.standard?.isSome

namespace Compile

variable {α β : Type}

/-- Whether a strict step yields just what a lenient one yields without a rule for an unknown keyword. -/
structure Admits (lenient strict : Compile α) : Prop where
  of_strict : ∀ before value after, Yields strict before value after →
    Yields lenient before value after ∧ (before.IsBare → after.IsBare)
  of_lenient : ∀ before value after, Yields lenient before value after → after.IsBare →
    before.IsBare ∧ Yields strict before value after

/-- A step that touches no nodes is as strict as it is lenient. -/
theorem admits_of_keeps {step : Compile α} {yields : (Array (Option Node) → Prop) → α → Prop}
    (keeps : ∀ nodes, Keeps nodes (yields nodes) step) : Admits step step := by
  have same {before after : Assembly} {value : α} (yields : Yields step before value after) :
      after.nodes = before.nodes :=
    ((keeps (· = before.nodes)).of_yields yields rfl).1
  constructor
  · intro before value after yields
    refine ⟨yields, fun bare => ?_⟩
    rwa [Assembly.IsBare, same yields]
  · intro before value after yields bare
    refine ⟨?_, yields⟩
    rwa [Assembly.IsBare, same yields] at bare

theorem Admits.bind {lenient strict : Compile α} {next nextStrict : α → Compile β} (first : Admits lenient strict)
    (second : ∀ value, Admits (next value) (nextStrict value)) : Admits (lenient >>= next) (strict >>= nextStrict) := by
  constructor
  · intro before value after yields
    obtain ⟨found, between, yieldsFirst, yieldsNext⟩ := yields_bind.mp yields
    obtain ⟨lenientFirst, keepsFirst⟩ := first.of_strict _ _ _ yieldsFirst
    obtain ⟨lenientNext, keepsNext⟩ := (second found).of_strict _ _ _ yieldsNext
    exact ⟨yields_bind.mpr ⟨found, between, lenientFirst, lenientNext⟩, fun bare => keepsNext (keepsFirst bare)⟩
  · intro before value after yields bare
    obtain ⟨found, between, yieldsFirst, yieldsNext⟩ := yields_bind.mp yields
    obtain ⟨bareBetween, strictNext⟩ := (second found).of_lenient _ _ _ yieldsNext bare
    obtain ⟨bareBefore, strictFirst⟩ := first.of_lenient _ _ _ yieldsFirst bareBetween
    exact ⟨bareBefore, yields_bind.mpr ⟨found, between, strictFirst, strictNext⟩⟩

theorem admits_pure (value : α) : Admits (pure value) (pure value) :=
  admits_of_keeps fun _ => (keeps_pure trivial : Keeps _ (fun _ => True) _)

theorem admits_mapM {list : List α} {step stepStrict : α → Compile β}
    (each : ∀ item, Admits (step item) (stepStrict item)) : Admits (list.mapM step) (list.mapM stepStrict) := by
  induction list with
  | nil => exact admits_pure _
  | cons first rest ih =>
    rw [List.mapM_cons, List.mapM_cons]
    exact (each first).bind fun _ => ih.bind fun _ => admits_pure _

end Compile

section

variable {registered : Bool} {lenient strict : Site → Json → Compile Nat}
  (below : ∀ site inner, Admits (lenient site inner) (strict site inner))
include below

theorem KeywordSite.admits_compile (place : KeywordSite) (meaning : StandardKeyword) (value : Json) :
    Admits (place.compile registered lenient meaning value) (place.compile registered strict meaning value) := by
  by_cases identifies : meaning = .id
  · subst identifies
    exact (admits_of_keeps fun _ => keeps_declareId rfl registered value).bind fun _ => admits_pure _
  · have slots : Admits (place.compileSlots lenient (meaning.slots value))
        (place.compileSlots strict (meaning.slots value)) :=
      admits_mapM fun slot => below _ slot.2
    constructor
    · intro before result after yields
      obtain ⟨-, numbers, yieldsSlots, -⟩ := fillsSlots meaning value identifies _ _ _ _ _ _ yields
      refine ⟨yields_compile_of_slots identifies yields fun _ yields => (slots.of_strict _ _ _ yields).1, ?_⟩
      exact (slots.of_strict _ _ _ yieldsSlots).2
    · intro before result after yields bare
      obtain ⟨-, numbers, yieldsSlots, -⟩ := fillsSlots meaning value identifies _ _ _ _ _ _ yields
      refine ⟨(slots.of_lenient _ _ _ yieldsSlots bare).1, ?_⟩
      exact yields_compile_of_slots identifies yields fun _ yields => (slots.of_lenient _ _ _ yields bare).2

namespace Site

theorem admits_compileKeywords (site : Site) (entries : List (KeywordEntry Json)) :
    Admits (compileKeywords registered lenient site entries) (compileKeywords registered strict site entries) := by
  induction entries generalizing site with
  | nil => exact admits_pure _
  | cons entry entries ih =>
    exact (KeywordSite.admits_compile below _ _ _).bind fun result => (ih result.1).bind fun _ => admits_pure _

variable {options : Options} {site : Site} {value : Json} {before after : Assembly} {made : Site × Shape}

/-- A strict shape is a lenient one without rules for unknown keywords, made without them. -/
theorem yields_compileShape_strict
    (yields : Yields (site.compileShape (options.treating .error) registered strict value) before made after) :
    Yields (site.compileShape (options.treating .annotate) registered lenient value) before made after ∧
      (before.IsBare → after.IsBare) ∧ ∀ rule ∈ (made.1.finishedNode value made.2).rules, rule.standard?.isSome := by
  cases value with
  | bool accepts =>
    obtain ⟨rfl, rfl⟩ := yields_pure.mp yields
    exact ⟨yields, fun bare => bare, fun _ member => absurd member List.not_mem_nil⟩
  | object members =>
    obtain ⟨selected, start, rules, complete, selects, keywords, completes, shaped⟩ :=
      yields_compileShape_object.mp yields
    obtain ⟨lenientKeywords, keepsBare⟩ := (admits_compileKeywords below _ _).of_strict _ _ _ keywords
    obtain ⟨none, rfl⟩ : unknownMembers selected.dialect members = [] ∧ complete = rules := by
      cases unknown : unknownMembers selected.dialect members with
      | nil =>
        rw [unknown] at completes
        exact ⟨rfl, (Option.some.inj completes).symm⟩
      | cons first rest =>
        rw [unknown] at completes
        cases completes
    refine ⟨yields_compileShape_object.mpr ⟨selected, start, complete, complete, selects, lenientKeywords, ?_, shaped⟩,
      fun bare => keepsBare ?_, ?_⟩
    · rw [none]
      exact congrArg some (withUnknown_nil complete)
    · exact ((admits_of_keeps fun _ => keeps_selectDialect_of_nodes members).of_strict _ _ _ selects).2 bare
    · rw [Node.rules_of_shape shaped]
      exact isSome_standard?_of_compileKeywords (congrArg Prod.fst keywords)
  | _ => exact absurd yields yields_throw

/-- A lenient shape without rules for unknown keywords, made without them, is a strict one. -/
theorem yields_compileShape_lenient
    (yields : Yields (site.compileShape (options.treating .annotate) registered lenient value) before made after)
    (bare : after.IsBare) (known : ∀ rule ∈ (made.1.finishedNode value made.2).rules, rule.standard?.isSome) :
    before.IsBare ∧ Yields (site.compileShape (options.treating .error) registered strict value) before made after := by
  cases value with
  | bool accepts =>
    obtain ⟨rfl, rfl⟩ := yields_pure.mp yields
    exact ⟨bare, yields⟩
  | object members =>
    obtain ⟨selected, start, rules, complete, selects, keywords, completes, shaped⟩ :=
      yields_compileShape_object.mp yields
    obtain ⟨bareStart, strictKeywords⟩ := (admits_compileKeywords below _ _).of_lenient _ _ _ keywords bare
    obtain rfl : withUnknown (unknownMembers selected.dialect members) rules = complete := Option.some.inj completes
    rw [Node.rules_of_shape shaped] at known
    have none : unknownMembers selected.dialect members = [] := by
      obtain ⟨ahead, behind, -, inserted, -⟩ := withUnknown_eq (unknownMembers selected.dialect members) rules
      rw [inserted] at known
      refine List.eq_nil_iff_forall_not_mem.mpr fun member inside => ?_
      have there := known (.unknown member.1 member.2)
        (List.mem_append_left _ (List.mem_append_right _ (List.mem_map.mpr ⟨member, inside, rfl⟩)))
      cases there
    refine ⟨((admits_of_keeps fun _ => keeps_selectDialect_of_nodes members).of_lenient _ _ _ selects bareStart).1, ?_⟩
    refine yields_compileShape_object.mpr ⟨selected, start, rules, _, selects, strictKeywords, ?_, shaped⟩
    rw [none, withUnknown_nil]
    rfl
  | _ => exact absurd yields yields_throw

end Site

end

namespace Site

variable {options : Options} {registered : Bool}

theorem some_mem_setIfInBounds {nodes : Array (Option Node)} {index : Nat} {node other : Node}
    (free : nodes[index]? = some none) :
    some other ∈ nodes.setIfInBounds index (some node) ↔ other = node ∨ some other ∈ nodes := by
  rw [Array.mem_iff_getElem?, Array.mem_iff_getElem?]
  constructor
  · rintro ⟨place, found⟩
    exact (eq_or_of_getElem?_setIfInBounds found).imp And.right fun earlier => ⟨place, earlier⟩
  · rintro (rfl | ⟨place, found⟩)
    · exact ⟨index, getElem?_setIfInBounds_self_of_free free other⟩
    · exact ⟨place, getElem?_setIfInBounds_of_free free found _⟩

variable (options registered) in
/-- A node is compiled where unknown keywords are faults just if it is compiled without a rule for one. -/
theorem admits_compileWithin (depth : Nat) (site : Site) (value : Json) :
    Admits (compileWithin (options.treating .annotate) registered depth site value)
      (compileWithin (options.treating .error) registered depth site value) := by
  induction depth generalizing site value with
  | zero => exact ⟨fun _ _ _ yields => absurd yields yields_throw, fun _ _ _ yields => absurd yields yields_throw⟩
  | succ depth ih =>
    constructor
    · intro before number after yields
      obtain ⟨rfl, made, middle, shapes, finishes⟩ := yields_compileNode.mp yields
      obtain ⟨lenient, keepsBare, known⟩ := yields_compileShape_strict ih shapes
      refine ⟨yields_compileNode.mpr ⟨rfl, made, middle, lenient, finishes⟩, fun bare node member => ?_⟩
      obtain rfl := yields_finish.mp finishes
      rcases Array.mem_or_eq_of_mem_setIfInBounds member with inside | same
      · refine keepsBare (fun other started => ?_) node inside
        rcases Array.mem_push.mp started with older | impossible
        · exact bare other older
        · cases impossible
      · rw [Option.some.inj same]
        exact known
    · intro before number after yields bare
      obtain ⟨rfl, made, middle, shapes, finishes⟩ := yields_compileNode.mp yields
      have free := free_of_yields_compileShape shapes
      obtain rfl := yields_finish.mp finishes
      have bareMiddle : middle.IsBare := fun node member => bare node ((some_mem_setIfInBounds free).mpr (.inr member))
      have known := bare _ ((some_mem_setIfInBounds free).mpr (.inl rfl))
      obtain ⟨barePushed, strict⟩ := yields_compileShape_lenient ih shapes bareMiddle known
      refine ⟨fun node member => barePushed node (Array.mem_push.mpr (.inl member)), ?_⟩
      exact yields_compileNode.mpr ⟨rfl, made, middle, strict, finishes⟩

end Site

/-- Whether no node of the document has a rule for an unknown keyword. -/
def Document.IsBare (document : Document) : Prop :=
  ∀ node ∈ document.nodes, ∀ rule ∈ node.rules, rule.standard?.isSome

theorem Assembly.isBare_of_document? {assembly : Assembly} {document : Document}
    (finished : assembly.document? = some document) : assembly.IsBare ↔ document.IsBare := by
  obtain ⟨nodes, filled, rfl⟩ := Option.map_eq_some_iff.mp finished
  have slots := eq_map_some_of_mapM filled
  have same (node : Node) : some node ∈ assembly.nodes ↔ node ∈ nodes.toArray := by
    rw [← Array.mem_toList_iff, slots, List.mem_map, List.mem_toArray]
    simp
  simp only [Assembly.IsBare, Document.IsBare, same]

/-- Where unknown keywords are faults a value compiles just if it compiles with unknown keywords annotated and none
comes up, and then to the same document. -/
theorem Schema.compileDocument_strict (options : Options) (dialect : Dialect) (base : Url) (registered : Bool)
    (value : Json) (dialects : DialectCache) (schema : Schema) :
    (compileDocument (options.treating .error) dialect base registered value dialects).1 = .ok schema ↔
      (compileDocument (options.treating .annotate) dialect base registered value dialects).1 = .ok schema ∧
        schema.document.IsBare := by
  have admits := Site.admits_compileWithin options registered (value.depth + 1) (.root dialect base) value
  obtain ⟨document, resource⟩ := schema
  constructor
  · intro compiled
    obtain ⟨root, assembly, yields, finished, rfl⟩ := exists_assembly_of_compileDocument compiled
    obtain ⟨lenient, keepsBare⟩ := admits.of_strict _ _ _ yields
    have start : (Assembly.start dialect base registered dialects).IsBare :=
      fun _ member => absurd member (Array.not_mem_empty _)
    exact ⟨compileDocument_of_yields lenient finished, (Assembly.isBare_of_document? finished).mp (keepsBare start)⟩
  · rintro ⟨compiled, bare⟩
    obtain ⟨root, assembly, yields, finished, rfl⟩ := exists_assembly_of_compileDocument compiled
    have strict := (admits.of_lenient _ _ _ yields ((Assembly.isBare_of_document? finished).mpr bare)).2
    exact compileDocument_of_yields strict finished

end JsonSchema
