import JsonSchema.Proofs.Compile.Dialects
import JsonSchema.Proofs.Compile.Erasure
import JsonSchema.Proofs.Compile.Standing
import JsonSchema.Proofs.Compile.Strictness

/-! # Treatments of unknown keywords

A schema object is compiled under the dialect that it names, and otherwise under the one that it inherits from the
schema around it (`Document.Governs`). What becomes of unknown keywords makes no difference to compilation beyond
that: leaving them out comes to the same end as annotating them, up to the rules for them, and a value compiles where
they are faults just if it compiles at all and no node has a member that its dialect does not know
(`Schema.compileDocument_treating`).
-/

namespace JsonSchema

open Compile

/-! ## Effective dialects -/

namespace Options

/-- The dialect that an id names in a schema that inherits one. -/
def dialectNamed? (options : Options) (dialects : DialectCache) (inherited : Dialect) (id : Url) : Option Dialect :=
  if inherited.id = id then some inherited
  else if options.dialect.id = id then some options.dialect
  else
    (options.answers dialects id).or <| (Draft.dialect? id).or <| (options.schemas.bind (· id)).bind fun schema =>
      (Dialect.ofSchema schema options.vocabulary? options.dialect).toOption

/-- The dialect that a schema is compiled under if it inherits one: that which it names, if it names any. -/
def effectiveDialect? (options : Options) (dialects : DialectCache) (inherited : Dialect) : Json → Option Dialect
  | .object members =>
    match assoc? StandardKeyword.schema.name members with
    | none => some inherited
    | some (.string text) =>
      (Url.parse text).toOption.bind fun url => options.dialectNamed? dialects inherited url.withoutFragment
    | some _ => none
  | _ => some inherited

end Options

/-- Whether a schema at or below a node that inherits a dialect is governed by a dialect, where schemas hand down the
dialect that they are compiled under. -/
inductive Document.Governs (document : Document) (effective? : Dialect → Json → Option Dialect) :
    Nat → Dialect → Nat → Dialect → Prop
  | self {start : Nat} {inherited dialect : Dialect}
    (effective : effective? inherited (document.node start).value = some dialect) :
    Governs document effective? start inherited start dialect
  | child {start child index : Nat} {inherited dialect governing : Dialect}
    (effective : effective? inherited (document.node start).value = some dialect)
    (member : child ∈ (document.node start).children)
    (further : Governs document effective? child dialect index governing) :
    Governs document effective? start inherited index governing

/-- Whether a value has no member that a dialect does not know. -/
def Json.IsKnownTo (dialect : Dialect) (value : Json) : Prop :=
  ∀ members, value = .object members → ∀ member ∈ members, (dialect.keyword? member.1).isSome

namespace Site

variable {options : Options} {dialects : DialectCache} {site : Site} {before after : Assembly} {value : Json}

theorem knows_of_yields {α : Type} {step : Compile α} {answers : Url → Option Dialect} {result : α}
    (steady : IsSteady (options.Knows answers) step) (known : options.Knows answers before.dialects)
    (yields : Yields step before result after) : options.Knows answers after.dialects := by
  have matched := steady before before ⟨before.dialects, rfl, known, known⟩
  rw [show step.run before = (.ok result, after) from yields] at matched
  obtain ⟨-, -, -, knows, -⟩ := matched
  exact knows

theorem answers_of_yields_libraryDialect? {id : Url} {found : Option Dialect}
    (known : options.Knows (options.answers dialects) before.dialects)
    (yields : Yields (libraryDialect? options id) before found after) : found = options.answers dialects id := by
  unfold libraryDialect? at yields
  split at yields
  · next none =>
    obtain ⟨rfl, -⟩ := yields_pure.mp yields
    rw [Options.answers, none]
    rfl
  · next library same =>
    obtain ⟨assembly, between, got, goesOn⟩ := yields_bind.mp yields
    obtain ⟨rfl, rfl⟩ := yields_get.mp got
    obtain ⟨done, stop, -, kept⟩ := yields_bind.mp goesOn
    obtain ⟨rfl, -⟩ := yields_pure.mp kept
    exact known library same id

/-- The dialect that a schema object names at its site is the one that its id names there. -/
theorem dialectNamed?_of_yields {dialect : Dialect} (known : options.Knows (options.answers dialects) before.dialects)
    (yields : Yields (site.namedDialect options value) before dialect after) :
    ∃ text url, value = .string text ∧ Url.parse text = .ok url ∧
      options.dialectNamed? dialects site.dialect url.withoutFragment = some dialect := by
  obtain ⟨text, start, read, named⟩ := yields_bind.mp yields
  obtain ⟨string, rfl⟩ := yields_read.mp read
  obtain ⟨id, middle, readId, found⟩ := yields_bind.mp named
  obtain ⟨parses, rfl⟩ := yields_read.mp readId
  obtain ⟨url, parsed, rfl⟩ := withoutFragment_of_dialectId parses
  refine ⟨text, url, string_eq_ok string, parsed, ?_⟩
  unfold Options.dialectNamed?
  split at found
  · next own =>
    rw [if_pos own]
    exact congrArg some (yields_pure.mp found).1
  · next other =>
    rw [if_neg other]
    split at found
    · next standard =>
      rw [if_pos standard]
      exact congrArg some (yields_pure.mp found).1
    · next foreign =>
      rw [if_neg foreign]
      obtain ⟨answer, stop, asked, searched⟩ := yields_bind.mp found
      obtain rfl := answers_of_yields_libraryDialect? known asked
      cases answered : options.answers dialects url.withoutFragment with
      | some found =>
        rw [answered] at searched
        exact congrArg some (yields_pure.mp searched).1
      | none =>
        rw [answered] at searched
        dsimp only at searched
        cases drafted : Draft.dialect? url.withoutFragment with
        | some found =>
          rw [drafted] at searched
          exact congrArg some (yields_pure.mp searched).1
        | none =>
          rw [drafted] at searched
          dsimp only at searched
          split at searched
          · next schema located =>
            split at searched
            · next described =>
              rw [located]
              show (Dialect.ofSchema schema options.vocabulary? options.dialect).toOption = _
              rw [described]
              exact congrArg some (yields_pure.mp searched).1
            · exact absurd searched yields_throw
          · exact absurd searched yields_throw

/-- A schema object selects its effective dialect. -/
theorem effectiveDialect?_of_yields {members : List (String × Json)} {selected : Site}
    (known : options.Knows (options.answers dialects) before.dialects)
    (yields : Yields (site.selectDialect options members) before selected after) :
    options.effectiveDialect? dialects site.dialect (.object members) = some selected.dialect := by
  unfold Options.effectiveDialect?
  dsimp only
  rcases cases_of_yields_selectDialect yields with
    ⟨none, rfl, -⟩ | ⟨value, dialect, cache, present, named, rfl, -⟩
  · rw [none]
  · obtain ⟨text, url, rfl, parsed, found⟩ := dialectNamed?_of_yields known named
    rw [present]
    dsimp only
    rw [parsed]
    exact found

end Site

/-! ## Nodes and the dialects that govern them -/

/-- What has been done between two assemblies when schemas that inherit a dialect were compiled to some nodes: the nodes
from before are untouched, every new one is governed by one dialect from one of these nodes, and it has a rule for an
unknown keyword just if it has a member that this dialect does not know. -/
structure Assembly.Accounts (options : Options) (dialects : DialectCache) (document : Document) (dialect : Dialect)
    (before : Assembly) (numbers : List Nat) (after : Assembly) : Prop where
  knows : options.Knows (options.answers dialects) after.dialects
  size_le : before.nodes.size ≤ after.nodes.size
  older : ∀ (index : Nat) (slot : Option Node), before.nodes[index]? = some slot → after.nodes[index]? = some slot
  governed : document.Holds after → ∀ number ∈ numbers, ∀ index governing,
    document.Governs (options.effectiveDialect? dialects) number dialect index governing →
      before.nodes.size ≤ index ∧ index < after.nodes.size ∧
        ((∀ rule ∈ (document.node index).rules, rule.standard?.isSome) ↔
          (document.node index).value.IsKnownTo governing)
  covered : document.Holds after → ∀ index, before.nodes.size ≤ index → index < after.nodes.size →
    ∃! governing, ∃ number ∈ numbers,
      document.Governs (options.effectiveDialect? dialects) number dialect index governing

namespace Assembly

variable {options : Options} {dialects : DialectCache} {document : Document} {dialect : Dialect}
  {before between after : Assembly} {numbers more : List Nat}

theorem accounts_nil (knows : options.Knows (options.answers dialects) after.dialects)
    (same : after.nodes = before.nodes) : before.Accounts options dialects document dialect [] after where
  knows := knows
  size_le := Nat.le_of_eq (congrArg Array.size same.symm)
  older _ _ found := by rwa [same]
  governed _ _ impossible := absurd impossible List.not_mem_nil
  covered _ index old new := by
    rw [same] at new
    omega

theorem Accounts.holds (accounts : before.Accounts options dialects document dialect numbers after)
    (holds : document.Holds after) : document.Holds before :=
  fun index node found => holds index node (accounts.older index _ found)

theorem Accounts.append (first : before.Accounts options dialects document dialect numbers between)
    (second : between.Accounts options dialects document dialect more after) :
    before.Accounts options dialects document dialect (numbers ++ more) after where
  knows := second.knows
  size_le := first.size_le.trans second.size_le
  older index slot found := second.older index slot (first.older index slot found)
  governed holds number member index governing governs := by
    rcases List.mem_append.mp member with inside | inside
    · obtain ⟨old, new, tells⟩ := first.governed (second.holds holds) number inside index governing governs
      exact ⟨old, new.trans_le second.size_le, tells⟩
    · obtain ⟨old, new, tells⟩ := second.governed holds number inside index governing governs
      exact ⟨first.size_le.trans old, new, tells⟩
  covered holds index old new := by
    have holdsBetween := second.holds holds
    by_cases early : index < between.nodes.size
    · obtain ⟨governing, ⟨number, inside, governs⟩, unique⟩ := first.covered holdsBetween index old early
      refine ⟨governing, ⟨number, List.mem_append_left _ inside, governs⟩, ?_⟩
      rintro other ⟨number', member, governsOther⟩
      rcases List.mem_append.mp member with inside' | inside'
      · exact unique other ⟨number', inside', governsOther⟩
      · have late := (second.governed holds number' inside' index other governsOther).1
        omega
    · obtain ⟨governing, ⟨number, inside, governs⟩, unique⟩ := second.covered holds index (by omega) new
      refine ⟨governing, ⟨number, List.mem_append_right _ inside, governs⟩, ?_⟩
      rintro other ⟨number', member, governsOther⟩
      rcases List.mem_append.mp member with inside' | inside'
      · have past := (first.governed holdsBetween number' inside' index other governsOther).2.1
        omega
      · exact unique other ⟨number', inside', governsOther⟩

end Assembly

section

open Assembly

variable {options : Options} {dialects : DialectCache} {document : Document} {registered : Bool}
  {sub : Site → Json → Compile Nat} {before after : Assembly}

/-- Whether sub-schemas are compiled to nodes that are accounted for. -/
def AccountsBelow (options : Options) (dialects : DialectCache) (document : Document)
    (sub : Site → Json → Compile Nat) : Prop :=
  ∀ site inner before number after, options.Knows (options.answers dialects) before.dialects →
    Yields (sub site inner) before number after →
      before.Accounts options dialects document site.dialect [number] after

variable (below : AccountsBelow options dialects document sub)
  (known : options.Knows (options.answers dialects) before.dialects)
include below known

namespace KeywordSite

variable {place : KeywordSite} {meaning : StandardKeyword} {value : Json}

theorem accounts_compileSlots {slots : List (List String × Json)} {numbers : List Nat}
    (yields : Yields (place.compileSlots sub slots) before numbers after) :
    before.Accounts options dialects document place.site.dialect numbers after := by
  induction slots generalizing before numbers with
  | nil =>
    obtain ⟨rfl, rfl⟩ := yields_compileSlots_nil.mp yields
    exact accounts_nil known rfl
  | cons slot slots ih =>
    obtain ⟨number, rest, between, rfl, first, others⟩ := yields_compileSlots_cons.mp yields
    have accounts := below _ _ _ _ _ known first
    exact accounts.append (ih accounts.knows others)

/-- The nodes that a keyword is compiled to are the sub-schemas of its rule. -/
theorem accounts_compile {result : Site × Option Rule}
    (yields : Yields (place.compile registered sub meaning value) before result after) :
    before.Accounts options dialects document place.site.dialect (result.2.toList.flatMap Rule.subschemas) after := by
  by_cases identifies : meaning = .id
  · subst identifies
    obtain ⟨declared, between, declares, made⟩ := yields_bind.mp yields
    obtain ⟨rfl, rfl⟩ := yields_pure.mp made
    have same : between.nodes = before.nodes :=
      ((keeps_declareId rfl registered value : Keeps (· = before.nodes) _ _).of_yields declares rfl).1
    exact accounts_nil (Site.knows_of_yields (place.isSteady_declareId registered value) known declares) same
  · obtain ⟨numbers, yieldsSlots, twigs⟩ := listsSlots meaning value identifies _ _ _ _ _ _ yields
    have numbered : result.2.toList.flatMap Rule.subschemas = numbers := by
      have length := length_of_yields_compileSlots yieldsSlots
      have listed := congrArg (List.map (·.2)) twigs
      rw [List.map_snd_zip (by rw [List.length_map, length]), List.map_flatMap] at listed
      rw [← listed]
      exact congrArg (List.flatMap · _) (funext fun rule => (Rule.map_snd_twigs rule).symm)
    rw [numbered]
    exact accounts_compileSlots below known yieldsSlots

end KeywordSite

namespace Site

variable {site : Site} {value : Json}

theorem accounts_compileKeywords {entries : List (KeywordEntry Json)} {result : Site × List Rule}
    (yields : Yields (compileKeywords registered sub site entries) before result after) :
    before.Accounts options dialects document site.dialect (result.2.flatMap Rule.subschemas) after := by
  induction entries generalizing site before result with
  | nil =>
    obtain ⟨rfl, rfl⟩ := yields_compileKeywords_nil.mp yields
    exact accounts_nil known rfl
  | cons entry entries ih =>
    obtain ⟨first, between, rest, yieldsFirst, yieldsRest, rfl⟩ := yields_compileKeywords_cons.mp yields
    have accounts := KeywordSite.accounts_compile below known yieldsFirst
    have others := ih accounts.knows yieldsRest
    rw [(KeywordSite.leaves_of_yields yieldsFirst).1] at others
    rw [List.flatMap_append]
    exact accounts.append others

end Site

end

namespace Document

variable {document : Document} {effective? : Dialect → Json → Option Dialect} {start index : Nat}
  {inherited dialect governing : Dialect}

/-- A schema is governed by its own dialect, and those below it are governed from its sub-schemas. -/
theorem governs_iff (effective : effective? inherited (document.node start).value = some dialect) :
    document.Governs effective? start inherited index governing ↔
      start = index ∧ dialect = governing ∨
        ∃ child ∈ (document.node start).children, document.Governs effective? child dialect index governing := by
  constructor
  · intro governs
    cases governs with
    | self own =>
      rw [effective] at own
      exact .inl ⟨rfl, Option.some.inj own⟩
    | child own member further =>
      rw [effective] at own
      rw [Option.some.inj own]
      exact .inr ⟨_, member, further⟩
  · rintro (⟨rfl, rfl⟩ | ⟨child, member, further⟩)
    · exact .self effective
    · exact .child effective member further

end Document

namespace Site

variable {options : Options} {dialects : DialectCache} {document : Document} {registered : Bool}

/-- Unknown members have no sub-schemas. -/
theorem flatMap_subschemas_withUnknown (unknown : List (String × Json)) (rules : List Rule) :
    (withUnknown unknown rules).flatMap Rule.subschemas = rules.flatMap Rule.subschemas := by
  have branches := congrArg (List.map (·.2)) (flatMap_branches_withUnknown unknown rules)
  rw [List.map_flatMap, List.map_flatMap] at branches
  have listed : (fun rule : Rule => rule.branches.map (·.2)) = Rule.subschemas := funext Rule.map_snd_branches
  rwa [listed] at branches

/-- A schema object has a rule for an unknown keyword just if it has a member that its dialect does not know. -/
theorem isSome_standard?_withUnknown_iff {dialect : Dialect} {members : List (String × Json)} {rules : List Rule}
    (known : ∀ rule ∈ rules, rule.standard?.isSome) :
    (∀ rule ∈ withUnknown (unknownMembers dialect members) rules, rule.standard?.isSome) ↔
      (Json.object members).IsKnownTo dialect := by
  obtain ⟨ahead, behind, rfl, inserted, -⟩ := withUnknown_eq (unknownMembers dialect members) rules
  rw [inserted]
  constructor
  · rintro standard _ ⟨⟩ member inside
    by_contra strange
    have unknown : member ∈ unknownMembers dialect members :=
      List.mem_filter.mpr ⟨inside, by simpa using strange⟩
    have impossible := standard (.unknown member.1 member.2)
      (List.mem_append_left _ (List.mem_append_right _ (List.mem_map.mpr ⟨member, unknown, rfl⟩)))
    cases impossible
  · intro knows rule member
    have none : unknownMembers dialect members = [] := by
      refine List.filter_eq_nil_iff.mpr fun member inside => ?_
      have isKnown := knows members rfl member inside
      simp [Option.isSome_iff_ne_none.mp isKnown]
    rw [none, List.map_nil, List.append_nil] at member
    exact known rule member

/-- A shape is made under the effective dialect, which accounts for the nodes below it. -/
theorem accounts_compileShape {sub : Site → Json → Compile Nat} (below : AccountsBelow options dialects document sub)
    {site : Site} {value : Json} {before after : Assembly} {made : Site × Shape}
    (yields : Yields (site.compileShape (options.treating .annotate) registered sub value) before made after)
    (known : options.Knows (options.answers dialects) before.dialects) :
    ∃ dialect, options.effectiveDialect? dialects site.dialect value = some dialect ∧
      before.Accounts options dialects document dialect (made.1.finishedNode value made.2).children after ∧
      ((∀ rule ∈ (made.1.finishedNode value made.2).rules, rule.standard?.isSome) ↔ value.IsKnownTo dialect) := by
  cases value with
  | bool accepts =>
    obtain ⟨rfl, rfl⟩ := yields_pure.mp yields
    refine ⟨site.dialect, rfl, Assembly.accounts_nil known rfl, ?_⟩
    exact ⟨fun _ _ impossible => (nomatch impossible), fun _ _ member => absurd member List.not_mem_nil⟩
  | object members =>
    obtain ⟨selected, start, rules, complete, selects, keywords, completes, shaped⟩ :=
      yields_compileShape_object.mp yields
    obtain rfl : withUnknown (unknownMembers selected.dialect members) rules = complete := Option.some.inj completes
    have knownStart : options.Knows (options.answers dialects) start.dialects :=
      knows_of_yields (site.isSteady_selectDialect (options.settles_knows _) members) known selects
    have same : start.nodes = before.nodes :=
      ((keeps_selectDialect_of_nodes members : Keeps (· = before.nodes) _ _).of_yields selects rfl).1
    refine ⟨selected.dialect, effectiveDialect?_of_yields known selects, ?_, ?_⟩
    · rw [Node.children, Node.rules_of_shape shaped, flatMap_subschemas_withUnknown]
      exact (Assembly.accounts_nil knownStart same).append (accounts_compileKeywords below knownStart keywords)
    · rw [Node.rules_of_shape shaped]
      exact isSome_standard?_withUnknown_iff (isSome_standard?_of_compileKeywords (congrArg Prod.fst keywords))
  | _ => exact absurd yields yields_throw

end Site

/-- A node is accounted for when it is finished, with the nodes below it. -/
theorem Assembly.Accounts.finish {options : Options} {dialects : DialectCache} {document : Document}
    {inherited dialect : Dialect} {before middle after : Assembly} {node : Node}
    (accounts : Accounts options dialects document dialect { before with nodes := before.nodes.push none } node.children
      middle)
    (free : middle.nodes[before.nodes.size]? = some none)
    (effective : options.effectiveDialect? dialects inherited node.value = some dialect)
    (tells : (∀ rule ∈ node.rules, rule.standard?.isSome) ↔ node.value.IsKnownTo dialect)
    (nodes : after.nodes = middle.nodes.setIfInBounds before.nodes.size (some node))
    (found : after.dialects = middle.dialects) :
    before.Accounts options dialects document inherited [before.nodes.size] after := by
  have size : after.nodes.size = middle.nodes.size := by rw [nodes, Array.size_setIfInBounds]
  have above : before.nodes.size + 1 ≤ middle.nodes.size := by
    have pushed := accounts.size_le
    rwa [Array.size_push] at pushed
  have others {index : Nat} (other : index ≠ before.nodes.size) : after.nodes[index]? = middle.nodes[index]? := by
    rw [nodes, Array.getElem?_setIfInBounds_ne other.symm]
  have own (holds : document.Holds after) : document.node before.nodes.size = node := by
    refine holds _ node ?_
    rw [nodes, getElem?_setIfInBounds_self_of_free free]
  have holdsMiddle (holds : document.Holds after) : document.Holds middle := by
    intro index other finished
    refine holds index other ?_
    rw [nodes, getElem?_setIfInBounds_of_free free finished]
  have governs_iff (holds : document.Holds after) {index : Nat} {governing : Dialect} :
      document.Governs (options.effectiveDialect? dialects) before.nodes.size inherited index governing ↔
        before.nodes.size = index ∧ dialect = governing ∨
          ∃ child ∈ node.children,
            document.Governs (options.effectiveDialect? dialects) child dialect index governing := by
    rw [← own holds] at effective
    rw [Document.governs_iff effective, own holds]
  have inside (holds : document.Holds after) {child index : Nat} {governing : Dialect} (member : child ∈ node.children)
      (governs : document.Governs (options.effectiveDialect? dialects) child dialect index governing) :=
    accounts.governed (holdsMiddle holds) child member index governing governs
  simp only [Array.size_push] at inside
  refine ⟨?_, by omega, ?_, ?_, ?_⟩
  · rw [found]
    exact accounts.knows
  · intro index slot older
    have bound := (Array.getElem?_eq_some_iff.mp older).1
    rw [others (by omega)]
    exact accounts.older index slot (getElem?_push_of_eq_some older none)
  · intro holds number member index governing governs
    obtain rfl := List.mem_singleton.mp member
    rcases (governs_iff holds).mp governs with ⟨rfl, rfl⟩ | ⟨child, member, further⟩
    · rw [own holds]
      exact ⟨Nat.le_refl _, by omega, tells⟩
    · obtain ⟨old, new, known⟩ := inside holds member further
      exact ⟨by omega, by omega, known⟩
  · intro holds index old new
    simp only [List.mem_singleton, exists_eq_left, governs_iff holds]
    by_cases same : before.nodes.size = index
    · refine ⟨dialect, .inl ⟨same, rfl⟩, ?_⟩
      rintro other (⟨-, rfl⟩ | ⟨child, member, further⟩)
      · rfl
      · have late := (inside holds member further).1
        omega
    · obtain ⟨governing, ⟨child, member, further⟩, unique⟩ := accounts.covered (holdsMiddle holds) index
        (by rw [Array.size_push]; omega) (by omega)
      refine ⟨governing, .inr ⟨child, member, further⟩, ?_⟩
      rintro other (⟨impossible, -⟩ | furtherOther)
      · exact absurd impossible same
      · exact unique other furtherOther

namespace Site

variable {options : Options} {dialects : DialectCache} {document : Document} {registered : Bool}

variable (document registered) in
/-- The nodes of a schema are accounted for if unknown keywords are annotated. -/
theorem accountsBelow_compileWithin (depth : Nat) :
    AccountsBelow options dialects document (compileWithin (options.treating .annotate) registered depth) := by
  induction depth with
  | zero => exact fun _ _ _ _ _ _ yields => absurd yields yields_throw
  | succ depth ih =>
    intro site value before number after known yields
    obtain ⟨rfl, made, middle, shapes, finishes⟩ := yields_compileNode.mp yields
    have own : made.1.node = before.nodes.size := node_of_yields_compileShape shapes
    have free := free_of_yields_compileShape shapes
    obtain ⟨dialect, effective, accounts, tells⟩ := accounts_compileShape ih shapes known
    obtain rfl := yields_finish.mp finishes
    rw [own] at free
    refine accounts.finish free effective tells ?_ rfl
    rw [← own]

end Site

namespace Document

variable {document other : Document} {effective? : Dialect → Json → Option Dialect} {start index : Nat}
  {inherited governing : Dialect}

/-- What governs a schema depends on the values and the sub-schemas of nodes only. -/
theorem Governs.congr (values : ∀ index, (other.node index).value = (document.node index).value)
    (children : ∀ index, (other.node index).children = (document.node index).children)
    (governs : document.Governs effective? start inherited index governing) :
    other.Governs effective? start inherited index governing := by
  induction governs with
  | self effective => exact .self (by rwa [values])
  | child effective member _ ih => exact .child (by rwa [values]) (by rwa [children]) ih

theorem children_mapRules_knownRules (index : Nat) :
    ((document.mapRules knownRules).node index).children = (document.node index).children := by
  rw [node_mapRules, Node.children, Node.children]
  have unknown (rules : List Rule) : (knownRules rules).flatMap Rule.subschemas = rules.flatMap Rule.subschemas := by
    induction rules with
    | nil => rfl
    | cons rule rules ih =>
      rw [knownRules, List.filter_cons, List.flatMap_cons, ← ih]
      cases rule <;> rfl
  cases shape : (document.node index).shape with
  | boolean accepts => simp [Node.rules, Node.mapRules, Shape.mapRules, shape]
  | object rules => simpa [Node.rules, Node.mapRules, Shape.mapRules, shape] using unknown rules

/-- The same dialects govern a document without the rules for unknown keywords. -/
theorem governs_mapRules_knownRules_iff :
    (document.mapRules knownRules).Governs effective? start inherited index governing ↔
      document.Governs effective? start inherited index governing := by
  have values (index : Nat) : ((document.mapRules knownRules).node index).value = (document.node index).value := by
    rw [node_mapRules]
    rfl
  constructor
  · exact .congr (fun index => (values index).symm) fun index => (children_mapRules_knownRules index).symm
  · exact .congr values children_mapRules_knownRules

theorem IsBare.mapRules_eq {schema : Schema} (bare : schema.document.IsBare) :
    schema.mapRules knownRules = schema := by
  obtain ⟨document, resource⟩ := schema
  have nodes : document.nodes.map (·.mapRules knownRules) = document.nodes := by
    refine Array.ext (by simp) fun index bound other => ?_
    have known := bare document.nodes[index] (Array.getElem_mem other)
    rw [Array.getElem_map, Node.mapRules]
    cases shape : document.nodes[index].shape with
    | boolean accepts => rw [Shape.mapRules, ← shape]
    | object rules =>
      rw [Node.rules_of_shape shape] at known
      rw [Shape.mapRules, knownRules_of_forall known, ← shape]
  rw [Schema.mapRules, mapRules, nodes]
  cases document
  rfl

end Document

/-- Whether no node in a document has a member that the dialect governing it does not know. -/
def Document.IsKnown (document : Document) (effective? : Dialect → Json → Option Dialect) (dialect : Dialect) : Prop :=
  ∀ index governing, document.Governs effective? 0 dialect index governing →
    (document.node index).value.IsKnownTo governing

namespace Schema

variable (options : Options) (dialect : Dialect) (base : Url) (registered : Bool) (value : Json)
  (dialects : DialectCache)

/-- A document that is compiled with unknown keywords annotated is accounted for. -/
theorem accounts_of_compileDocument {schema : Schema}
    (compiled : (compileDocument (options.treating .annotate) dialect base registered value dialects).1 = .ok schema) :
    (∀ index < schema.document.nodes.size, ∃! governing,
      schema.document.Governs (options.effectiveDialect? dialects) 0 dialect index governing) ∧
    (schema.document.IsBare ↔ schema.document.IsKnown (options.effectiveDialect? dialects) dialect) := by
  obtain ⟨root, assembly, yields, finished, -⟩ := exists_assembly_of_compileDocument compiled
  have known : options.Knows (options.answers dialects) (Assembly.start dialect base registered dialects).dialects :=
    options.knows_answers dialects
  have accounts := Site.accountsBelow_compileWithin schema.document registered _ _ _ _ _ _ known yields
  have holds : schema.document.Holds assembly := fun index node found => Assembly.node_of_document? finished found
  have rootIndex : root = 0 := by
    obtain ⟨rfl, -⟩ := Site.yields_compileNode.mp yields
    rfl
  have start : (Assembly.start dialect base registered dialects).nodes.size = 0 := rfl
  subst rootIndex
  have governed := accounts.governed holds 0 List.mem_cons_self
  have covered := accounts.covered holds
  simp only [start, List.mem_singleton, exists_eq_left, Nat.zero_le, true_and, forall_const] at governed covered
  rw [Assembly.size_of_document? finished]
  refine ⟨covered, ?_⟩
  have there (index : Nat) (bound : index < assembly.nodes.size) :
      schema.document.nodes[index]? = some (schema.document.node index) := by
    have found := Assembly.exists_node_of_document? finished bound
    rw [Assembly.getElem?_nodes_of_document? finished, Option.map_eq_some_iff] at found
    obtain ⟨node, found, same⟩ := found
    rw [found, Option.some.inj same]
  constructor
  · intro bare index governing governs
    obtain ⟨bound, tells⟩ := governed index governing governs
    exact tells.mp (bare _ (Array.mem_of_getElem? (there index bound)))
  · intro isKnown node member
    obtain ⟨index, bound, rfl⟩ := Array.mem_iff_getElem.mp member
    rw [Assembly.size_of_document? finished] at bound
    obtain ⟨governing, governs, -⟩ := covered index bound
    have known := (governed index governing governs).2.mpr (isKnown index governing governs)
    obtain ⟨inside, own⟩ := Array.getElem?_eq_some_iff.mp (there index bound)
    rwa [own]

/-- Unknown keywords are left out and annotated to the same end, up to the rules for them, and every node is governed by
one dialect; where they are faults a value compiles, to the same document, just if it compiles when they are left out
and no node has a member that the dialect governing it does not know. -/
theorem compileDocument_treating :
    let ignored := (compileDocument (options.treating .ignore) dialect base registered value dialects).1
    let annotated := (compileDocument (options.treating .annotate) dialect base registered value dialects).1
    let strict := (compileDocument (options.treating .error) dialect base registered value dialects).1
    ignored = annotated.map (·.mapRules knownRules) ∧
      (∀ schema, ignored = .ok schema → ∀ index < schema.document.nodes.size, ∃! governing,
        schema.document.Governs (options.effectiveDialect? dialects) 0 dialect index governing) ∧
      ∀ schema, strict = .ok schema ↔
        ignored = .ok schema ∧ schema.document.IsKnown (options.effectiveDialect? dialects) dialect := by
  have erased := compileDocument_erased options dialect base registered value dialects
  have strictly := compileDocument_strict options dialect base registered value dialects
  have accounted := @accounts_of_compileDocument options dialect base registered value dialects
  revert erased strictly accounted
  generalize (compileDocument (options.treating .annotate) dialect base registered value dialects).1 = annotated
  generalize (compileDocument (options.treating .ignore) dialect base registered value dialects).1 = ignored
  rintro rfl strictly accounted
  have exists_annotated {schema : Schema} (compiled : annotated.map (·.mapRules knownRules) = .ok schema) :
      ∃ whole : Schema, annotated = .ok whole ∧ whole.mapRules knownRules = schema := by
    cases annotated with
    | error cause => cases compiled
    | ok whole => exact ⟨whole, rfl, Except.ok.inj compiled⟩
  refine ⟨rfl, ?_, ?_⟩
  · intro schema compiled index bound
    obtain ⟨whole, annotates, rfl⟩ := exists_annotated compiled
    simp only [mapRules, Document.governs_mapRules_knownRules_iff]
    refine (accounted annotates).1 index ?_
    simpa [mapRules, Document.mapRules] using bound
  · intro schema
    rw [strictly]
    constructor
    · rintro ⟨rfl, bare⟩
      refine ⟨?_, (accounted rfl).2.mp bare⟩
      rw [Except.map, bare.mapRules_eq]
    · rintro ⟨compiled, isKnown⟩
      obtain ⟨whole, rfl, rfl⟩ := exists_annotated compiled
      have bare : whole.document.IsBare := by
        refine (accounted rfl).2.mpr fun index governing governs => ?_
        have known := isKnown index governing (Document.governs_mapRules_knownRules_iff.mpr governs)
        rwa [mapRules, Document.node_mapRules] at known
      rw [bare.mapRules_eq]
      exact ⟨rfl, bare⟩

end Schema

end JsonSchema
