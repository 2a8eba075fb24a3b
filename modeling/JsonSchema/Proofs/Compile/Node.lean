import JsonSchema.Proofs.Compile.Invariant
import Mathlib.Data.List.TakeDrop
import Mathlib.Data.List.TakeWhile

/-! # Compiled nodes

A node is compiled under a dialect if its shape is what compilation made of its value at a site that ended in
this dialect. Its rules are then those of its known members in the order of application, with rules for
unknown members inserted (`Node.CompiledUnder.forms`). With options that know no other dialect, all nodes of a
document are compiled under Draft 2020-12 (`Schema.compiledUnder_of_compileDocument`).
-/

namespace JsonSchema

open Compile

/-- Whether rules are those of some members of a schema object: the known ones in the order of application, and
perhaps rules for unknown ones. -/
def Dialect.Arranges (dialect : Dialect) (members : List (String × Json)) (rules : List Rule) : Prop :=
  ∃ known unknown, rules = Site.withUnknown unknown known ∧
    (known.map (·.standard?)).Sublist
      ((KeywordEntry.inOrder (Site.knownMembers dialect members)).map (some ·.spec.meaning)) ∧
    ∀ member ∈ unknown, dialect.keyword? member.1 = none

/-- Whether a shape is one that a dialect gives to a value. -/
def Dialect.Forms (dialect : Dialect) : Json → Shape → Prop
  | .bool accepts, shape => shape = .boolean accepts
  | .object members, .object rules => dialect.Arranges members rules
  | _, _ => False

/-- Whether a node is what compilation made of its value, ending in a dialect. -/
def Node.CompiledUnder (dialect : Dialect) (node : Node) : Prop :=
  ∃ site options registered sub before final after,
    (Site.compileShape site options registered sub node.value).run before = (.ok (final, node.shape), after) ∧
      final.dialect = dialect

theorem Node.compiledUnder_of_boolean {node : Node} {accepts : Bool} (dialect : Dialect)
    (value : node.value = .bool accepts) (shape : node.shape = .boolean accepts) : node.CompiledUnder dialect := by
  refine ⟨.root dialect default, .standard, true, fun _ _ => pure 0, .start dialect default true [],
    .root dialect default, .start dialect default true [], ?_, rfl⟩
  rw [value, shape]
  rfl

namespace Site

variable {nodes : Array (Option Node) → Prop} {dialects : Dialect → Prop} {options : Options} {registered : Bool}
  {sub : Site → Json → Compile Nat}

theorem keeps_compileKeywords {dialect : Dialect} (below : KeywordSite.KeepsBelow nodes dialect sub)
    (entries : List (KeywordEntry Json)) (site : Site) (stays : site.dialect = dialect) :
    Keeps nodes (fun result => result.1.dialect = dialect ∧
      (result.2.map (·.standard?)).Sublist (entries.map (some ·.spec.meaning)))
      (compileKeywords registered sub site entries) := by
  induction entries generalizing site with
  | nil => exact keeps_pure ⟨stays, .slnil⟩
  | cons entry rest ih =>
    refine keeps_bind (KeywordSite.keeps_compile below stays registered entry.spec.meaning entry.item) ?_
    intro ⟨next, rule⟩ ⟨staysNext, means⟩
    refine keeps_bind (ih next staysNext) ?_
    intro ⟨final, rules⟩ ⟨staysFinal, sublist⟩
    refine keeps_pure ⟨staysFinal, ?_⟩
    cases rule with
    | none => exact sublist.cons _
    | some compiled =>
      simp only [Option.toList_some, List.singleton_append, List.map_cons, means compiled rfl]
      exact sublist.cons_cons _

/-- Unknown members are inserted behind rules that are not about what is unevaluated. -/
theorem withUnknown_eq (unknown : List (String × Json)) (rules : List Rule) :
    ∃ ahead behind, rules = ahead ++ behind ∧
      withUnknown unknown rules = ahead ++ unknown.map (fun member => .unknown member.1 member.2) ++ behind ∧
      ∀ rule ∈ ahead, rule.category ≠ .unevaluated := by
  refine ⟨rules.takeWhile (·.category != .unevaluated), rules.dropWhile (·.category != .unevaluated), ?_, ?_, ?_⟩
  · exact List.takeWhile_append_dropWhile.symm
  · rw [withUnknown, List.span_eq_takeWhile_dropWhile]
  · intro rule member
    simpa using List.mem_takeWhile_imp member

theorem withUnknown_nil (rules : List Rule) : withUnknown [] rules = rules := by
  obtain ⟨ahead, behind, same, inserted, -⟩ := withUnknown_eq [] rules
  rw [inserted, same, List.map_nil, List.append_nil]

/-- How a schema object is compiled: with the rules of the dialect that it ends in. -/
theorem keeps_compileMembers {site : Site} {members : List (String × Json)}
    (selects : Keeps nodes (fun selected => dialects selected.dialect) (site.selectDialect options members))
    (below : ∀ dialect, dialects dialect → KeywordSite.KeepsBelow nodes dialect sub) :
    Keeps nodes (fun result => dialects result.1.dialect ∧ result.1.dialect.Arranges members result.2)
      (site.compileMembers options registered sub members) := by
  refine keeps_bind selects fun selected known => ?_
  refine keeps_bind (keeps_compileKeywords (below _ known) _ selected rfl) ?_
  intro ⟨final, rules⟩ ⟨stays, sublist⟩
  have arranged {unknown : List (String × Json)} (strange : ∀ member ∈ unknown,
      selected.dialect.keyword? member.1 = none) :
      dialects final.dialect ∧ final.dialect.Arranges members (withUnknown unknown rules) := by
    simp only at stays
    rw [stays]
    exact ⟨known, rules, unknown, rfl, sublist, strange⟩
  dsimp only
  split
  · exact keeps_throw
  · refine keeps_pure (arranged ?_)
    intro member inside
    simpa [unknownMembers] using (List.mem_filter.mp inside).2
  · refine keeps_pure ?_
    have none := @arranged [] (by simp)
    rwa [withUnknown_nil] at none

variable (dialects options registered sub) in
theorem keeps_compileShape (site : Site) (value : Json) (known : dialects site.dialect)
    (selects : ∀ members, Keeps nodes (fun selected => dialects selected.dialect) (site.selectDialect options members))
    (below : ∀ dialect, dialects dialect → KeywordSite.KeepsBelow nodes dialect sub) :
    Keeps nodes (fun result => dialects result.1.dialect ∧ result.1.dialect.Forms value result.2)
      (site.compileShape options registered sub value) := by
  cases value with
  | bool accepts => exact keeps_pure ⟨known, rfl⟩
  | object members =>
    exact keeps_bind (keeps_compileMembers (selects members) below) fun result arranged => keeps_pure arranged
  | _ => exact keeps_throw

end Site

/-- The shape of a compiled node is one that its dialect gives to its value. -/
theorem Node.CompiledUnder.forms {dialect : Dialect} {node : Node} (compiled : node.CompiledUnder dialect) :
    dialect.Forms node.value node.shape := by
  obtain ⟨site, options, registered, sub, before, final, after, run, rfl⟩ := compiled
  have anyStep {α : Type} (step : Compile α) : Keeps (fun _ => True) (fun _ => True) step :=
    fun _ _ => ⟨trivial, fun _ _ => trivial⟩
  have keeps := Site.keeps_compileShape (fun _ => True) options registered sub site node.value trivial
    (fun _ => anyStep _) (fun _ _ _ _ _ => anyStep _)
  exact ((keeps before trivial).2 _ (congrArg Prod.fst run)).2

/-! ## Documents of the draft -/

/-- Whether options know no dialect but that of the draft. -/
structure Options.KnowsOnlyDraft (options : Options) : Prop where
  dialect_eq : options.dialect = Draft.dialect
  dialects_eq : options.dialects = none
  schemas_eq : options.schemas = none

theorem Options.knowsOnlyDraft_standard : Options.standard.KnowsOnlyDraft := ⟨rfl, rfl, rfl⟩

namespace Site

/-- Whether all finished nodes are compiled under a dialect. -/
def AllUnder (dialect : Dialect) (nodes : Array (Option Node)) : Prop :=
  ∀ node, some node ∈ nodes → node.CompiledUnder dialect

variable {nodes : Array (Option Node) → Prop} {dialects : Dialect → Prop} {options : Options} {registered : Bool}

/-- A schema object can only name the draft if no other dialect is known. -/
theorem keeps_namedDialect (only : options.KnowsOnlyDraft) {site : Site} (drafted : site.dialect = Draft.dialect)
    (value : Json) : Keeps nodes (· = Draft.dialect) (site.namedDialect options value) := by
  have library (id : Url) : Keeps nodes (· = none) (libraryDialect? options id) := by
    rw [libraryDialect?, only.dialects_eq]
    exact keeps_pure rfl
  refine keeps_bind KeywordSite.keeps_read fun text _ => keeps_bind KeywordSite.keeps_read fun id _ => ?_
  split
  · exact keeps_pure drafted
  · split
    · exact keeps_pure only.dialect_eq
    · refine keeps_bind (library id) ?_
      rintro _ rfl
      dsimp only
      split
      · next dialect found => exact keeps_pure (Draft.eq_of_dialect? found)
      · rw [only.schemas_eq]
        exact keeps_throw

theorem keeps_selectDialect (only : options.KnowsOnlyDraft) {site : Site} (drafted : site.dialect = Draft.dialect)
    (members : List (String × Json)) :
    Keeps nodes (·.dialect = Draft.dialect) (site.selectDialect options members) := by
  unfold selectDialect
  split
  · exact keeps_pure drafted
  · next value named =>
    refine keeps_bind (keeps_namedDialect only drafted value) fun dialect same => ?_
    dsimp only
    split
    · exact keeps_bind (keeps_modify fun _ kept => kept) fun _ _ => keeps_pure same
    · exact keeps_pure same

theorem forall_node_push_none {holds : Node → Prop} {slots : Array (Option Node)}
    (all : ∀ node, some node ∈ slots → holds node) : ∀ node, some node ∈ slots.push none → holds node := by
  intro node member
  rcases Array.mem_push.mp member with inside | impossible
  · exact all node inside
  · cases impossible

theorem forall_node_setIfInBounds {holds : Node → Prop} {slots : Array (Option Node)} {index : Nat} {node : Node}
    (all : ∀ node, some node ∈ slots → holds node) (new : holds node) :
    ∀ other, some other ∈ slots.setIfInBounds index (some node) → holds other := by
  intro other member
  rcases Array.mem_or_eq_of_mem_setIfInBounds member with inside | same
  · exact all other inside
  · rw [Option.some.inj same]
    exact new

variable (dialects) in
/-- A node is compiled, if the nodes below it are: all nodes have what every node has that ends in one of some
dialects. -/
theorem keeps_compileNode {holds : Node → Prop} {sub : Site → Json → Compile Nat}
    (compiled : ∀ node dialect, dialects dialect → node.CompiledUnder dialect → holds node)
    (below : ∀ dialect, dialects dialect →
      KeywordSite.KeepsBelow (fun slots => ∀ node, some node ∈ slots → holds node) dialect sub)
    (site : Site) (value : Json) (known : dialects site.dialect)
    (selects : ∀ number members, Keeps (fun slots => ∀ node, some node ∈ slots → holds node)
      (fun selected => dialects selected.dialect) ((site.start number).selectDialect options members)) :
    Keeps (fun slots => ∀ node, some node ∈ slots → holds node) (fun _ => True)
      (site.compileNode options registered sub value) := by
  refine keeps_bind keeps_get fun assembly _ => ?_
  refine keeps_bind (keeps_modify fun _ => forall_node_push_none) fun _ _ => ?_
  refine keeps_bind (keeps_compileShape dialects options registered sub (site.start assembly.nodes.size)
    value known (selects _) below).and_run ?_
  rintro ⟨final, shape⟩ ⟨⟨ends, -⟩, before, after, run⟩
  refine keeps_bind (keeps_modify fun _ all => ?_) fun _ _ => keeps_pure trivial
  exact forall_node_setIfInBounds all (compiled _ _ ends ⟨_, _, _, _, _, _, _, run, rfl⟩)

theorem keeps_compileWithin (only : options.KnowsOnlyDraft) (depth : Nat) :
    KeywordSite.KeepsBelow (AllUnder Draft.dialect) Draft.dialect (compileWithin options registered depth) := by
  induction depth with
  | zero => exact fun _ _ _ => keeps_throw
  | succ depth ih =>
    refine fun site value drafted => keeps_compileNode (· = Draft.dialect) ?_ ?_ site value drafted fun number _ => ?_
    · rintro node _ rfl compiled
      exact compiled
    · rintro _ rfl
      exact ih
    · exact keeps_selectDialect only (show (site.start number).dialect = Draft.dialect from drafted) _

end Site

namespace Assembly

theorem eq_map_some_of_mapM {slots : List (Option Node)} {nodes : List Node} (filled : slots.mapM id = some nodes) :
    slots = nodes.map some := by
  induction slots generalizing nodes with
  | nil =>
    obtain rfl : [] = nodes := by simpa using filled
    rfl
  | cons slot rest ih =>
    rw [List.mapM_cons] at filled
    obtain ⟨node, rfl, others⟩ := Option.bind_eq_some_iff.mp filled
    obtain ⟨left, filledRest, same⟩ := Option.bind_eq_some_iff.mp others
    obtain rfl : node :: left = nodes := Option.some.inj same
    rw [ih filledRest, List.map_cons]

/-- The nodes of a finished document are those of the assembly. -/
theorem some_mem_of_document? {assembly : Assembly} {document : Document}
    (finished : assembly.document? = some document) {node : Node} (member : node ∈ document.nodes) :
    some node ∈ assembly.nodes := by
  obtain ⟨nodes, filled, rfl⟩ := Option.map_eq_some_iff.mp finished
  rw [← Array.mem_toList_iff, eq_map_some_of_mapM filled]
  exact List.mem_map_of_mem (List.mem_toArray.mp member)

end Assembly

namespace Schema

/-- With options that know no other dialect, all nodes of a document are compiled under the draft. -/
theorem compiledUnder_of_compileDocument {options : Options} (only : options.KnowsOnlyDraft) {base : Url}
    {registered : Bool} {value : Json} {dialects : DialectCache} {schema : Schema}
    (compiled : (compileDocument options Draft.dialect base registered value dialects).1 = .ok schema) (index : Nat) :
    (schema.document.node index).CompiledUnder Draft.dialect := by
  rcases compilation : (Site.compileWithin options registered (value.depth + 1) (.root Draft.dialect base) value).run
    (.start Draft.dialect base registered dialects) with ⟨result, assembly⟩
  have all : Site.AllUnder Draft.dialect assembly.nodes := by
    have nothing : Site.AllUnder Draft.dialect (Assembly.start Draft.dialect base registered dialects).nodes :=
      fun node member => absurd member (by simp [Assembly.start])
    rw [show assembly = _ from (congrArg (·.2) compilation).symm]
    exact (Site.keeps_compileWithin only (value.depth + 1) (.root Draft.dialect base) value rfl _ nothing).1
  unfold compileDocument at compiled
  dsimp only at compiled
  rw [compilation] at compiled
  obtain ⟨document, finished, rfl⟩ : ∃ document, assembly.document? = some document ∧ schema = ⟨document, 0⟩ := by
    cases result with
    | error cause => injection compiled
    | ok root =>
      dsimp only at compiled
      cases finished : assembly.document? with
      | none =>
        rw [finished] at compiled
        injection compiled
      | some document =>
        rw [finished] at compiled
        exact ⟨document, rfl, (Except.ok.inj compiled).symm⟩
  rcases document.node_mem_or_beyond index with inside | beyond
  · exact all _ (Assembly.some_mem_of_document? finished inside)
  · rw [beyond]
    exact Node.compiledUnder_of_boolean Draft.dialect rfl rfl

end Schema

end JsonSchema
