import JsonSchema.Proofs.Compile.Coupling
import JsonSchema.Proofs.Compile.Node
import JsonSchema.Proofs.Keyword.Order

/-! # Compilations in parallel

Two compilations of a value at one site, with different options or after different dialects were found, make the same
document up to the rules in its nodes, if the dialects that they select and the rules that they end up with go together.
How sub-schemas are reached and how ids are declared is the same for both
(`Options.Parallels.couples_compileWithin`).
-/

namespace JsonSchema

open Compile

/-- The shape with other rules. -/
def Shape.mapRules (change : List Rule → List Rule) : Shape → Shape
  | .boolean accepts => .boolean accepts
  | .object rules => .object (change rules)

/-- The node with other rules. -/
def Node.mapRules (change : List Rule → List Rule) (node : Node) : Node :=
  { node with shape := node.shape.mapRules change }

/-- Whether an assembly is another one with other rules and other dialects found before. -/
def Assembly.Parallel (change : List Rule → List Rule) (knows : DialectCache → DialectCache → Prop)
    (left right : Assembly) : Prop :=
  ∃ dialects, right = { left with nodes := left.nodes.map (·.map (·.mapRules change)), dialects } ∧
    knows left.dialects dialects

/-- Whether two steps of compilation do the same in assemblies that differ in rules and in dialects. -/
abbrev Compile.Parallel {α : Type} (change : List Rule → List Rule)
    (knows : DialectCache → DialectCache → Prop) (first second : Compile α) : Prop :=
  Couples False (Assembly.Parallel change knows) Eq first second

variable {change : List Rule → List Rule} {knows : DialectCache → DialectCache → Prop}

namespace Compile

variable {α β : Type}

theorem Parallel.bind {first second : Compile α} {next other : α → Compile β}
    (parallel : Parallel change knows first second)
    (parallelNext : ∀ value, Parallel change knows (next value) (other value)) :
    Parallel change knows (first >>= next) (second >>= other) := by
  refine Couples.bind parallel ?_
  rintro value _ rfl
  exact parallelNext value

theorem keeps_true {step : Compile α} : Keeps (fun _ => True) (fun _ => True) step :=
  fun _ _ => ⟨trivial, fun _ _ => trivial⟩

/-- Of steps that go together the first one may be known to yield certain values only. -/
theorem Couples.and_keeps {lax : Prop} {related : Assembly → Assembly → Prop} {agree : α → β → Prop}
    {first : Compile α} {second : Compile β} {yields : α → Prop} (couples : Couples lax related agree first second)
    (keeps : Keeps (fun _ => True) yields first) :
    Couples lax related (fun value other => agree value other ∧ yields value) first second := by
  intro left right kept
  have matched := couples left right kept
  have holds := (keeps left trivial).2
  match result : first.run left, second.run right, matched with
  | (.ok value, left'), (.ok other, right'), ⟨agrees, kept'⟩ => exact ⟨⟨agrees, holds value (by rw [result])⟩, kept'⟩
  | (.error cause, left'), (.error cause', right'), kept' => exact kept'
  | (.error cause, left'), (.ok other, right'), lax => exact lax

theorem parallel_pure (value : α) : Parallel change knows (pure value) (pure value) := couples_pure rfl

theorem parallel_read (value : Except CompileError α) :
    Parallel change knows (liftM value : Compile α) (liftM value) :=
  (couples_read rfl).mono fun _ _ read => read.1

/-- A change does the same if it touches neither nodes nor dialects. -/
theorem parallel_modify {enter : Assembly → Assembly}
    (blind : ∀ assembly nodes dialects, enter { assembly with nodes, dialects } =
      { enter assembly with nodes, dialects }) :
    Parallel change knows (modify enter : Compile PUnit) (modify enter) := by
  refine (couples_modify ?_).mono fun _ _ _ => rfl
  rintro left _ ⟨dialects, rfl, known⟩
  have own : enter left = { enter left with nodes := left.nodes, dialects := left.dialects } :=
    blind left left.nodes left.dialects
  have nodes : (enter left).nodes = left.nodes := (congrArg (·.nodes) own).trans rfl
  have same : (enter left).dialects = left.dialects := (congrArg (·.dialects) own).trans rfl
  exact ⟨dialects, by rw [blind, nodes], by rwa [same]⟩

end Compile

namespace KeywordSite

variable (place : KeywordSite)

theorem parallel_takeId (id : Url) : Parallel change knows (place.takeId id) (place.takeId id) := by
  refine couples_get.bind ?_
  rintro left _ ⟨dialects, rfl, known⟩
  dsimp only
  split
  · exact Couples.bind (couples_throw _ _ : Couples _ _ Eq _ _) fun _ _ _ _ _ _ => ⟨rfl, dialects, rfl, known⟩
  · exact fun _ _ _ => ⟨rfl, dialects, rfl, known⟩

theorem parallel_renameDocument (registered : Bool) (id : Url) :
    Parallel change knows (place.renameDocument registered id) (place.renameDocument registered id) := by
  refine couples_get.bind ?_
  rintro left _ ⟨dialects, rfl, known⟩
  dsimp only
  split
  · exact (place.parallel_takeId id).bind fun _ => parallel_modify fun _ _ _ => rfl
  · exact parallel_pure _

theorem parallel_startResource (id : Url) :
    Parallel change knows (place.startResource id) (place.startResource id) := by
  refine (place.parallel_takeId id).bind fun _ => couples_get.bind ?_
  rintro left _ ⟨dialects, rfl, known⟩
  exact (parallel_modify fun _ _ _ => by rfl).bind fun _ => parallel_pure _

theorem parallel_declareId (registered : Bool) (value : Json) :
    Parallel change knows (place.declareId registered value) (place.declareId registered value) := by
  refine (parallel_read _).bind fun id => ?_
  split
  · exact (place.parallel_renameDocument registered id).bind fun _ => parallel_pure _
  · exact (place.parallel_startResource id).bind fun _ => parallel_pure _

/-- A keyword is compiled to the same if the sub-schemas in it are. -/
theorem parallel_compile (registered : Bool) {sub other : Site → Json → Compile Nat} {value : Json}
    (below : ∀ site inner, Json.Part inner value → Parallel change knows (sub site inner) (other site inner))
    (meaning : StandardKeyword) :
    Parallel change knows (place.compile registered sub meaning value)
      (place.compile registered other meaning value) := by
  have alike : Couples False (Assembly.Parallel change knows) (LeavesAlike Eq id)
      (place.compile registered sub meaning value) (place.compile registered other meaning value) :=
    couples_compile rfl rfl rfl (fun _ => place.parallel_declareId registered value) (fun _ _ => rfl) (fun _ _ => rfl)
      (fun _ _ => rfl) fun tokens inner part => below _ inner part
  refine alike.mono ?_
  rintro ⟨site, rule⟩ ⟨site', rule'⟩ ⟨same, renamed⟩
  simp only [Rule.rename_id, Option.map_id'] at same renamed
  rw [same, renamed]

end KeywordSite

/-- Whether values are compiled in parallel with two options, up to a change of rules: the same dialects are selected,
and the rules of a schema object go together when those for unknown members are added. -/
structure Options.Parallels (change : List Rule → List Rule) (knows : DialectCache → DialectCache → Prop)
    (plain : Json → Prop) (options other : Options) : Prop where
  /-- What is below a plain value is plain. -/
  below : ∀ members, plain (.object members) → ∀ name value, (name, value) ∈ members → ∀ inner, Json.Part inner value →
    plain inner
  selects : ∀ (site : Site) members, plain (.object members) →
    Parallel change knows (site.selectDialect options members) (site.selectDialect other members)
  completes : ∀ (site final : Site) members rules, (∀ rule ∈ rules, rule.standard?.isSome) →
    Couples False (Assembly.Parallel change knows) (fun result result' => result' = Prod.map id change result)
      (match options.unknownKeywords, Site.unknownMembers site.dialect members with
        | .error, (name, _) :: _ => throw (.unknownKeyword site.location name)
        | .annotate, unknown => return (final, Site.withUnknown unknown rules)
        | _, _ => return (final, rules))
      (match other.unknownKeywords, Site.unknownMembers site.dialect members with
        | .error, (name, _) :: _ => throw (.unknownKeyword site.location name)
        | .annotate, unknown => return (final, Site.withUnknown unknown rules)
        | _, _ => return (final, rules))

namespace Site

theorem withoutFragment_of_dialectId {place : KeywordSite} {text : String} {id : Url}
    (parsed : dialectId place text = .ok id) : ∃ url, Url.parse text = .ok url ∧ url.withoutFragment = id := by
  unfold dialectId at parsed
  split at parsed
  · next url parses => exact ⟨url, parses, Except.ok.inj parsed⟩
  · cases parsed

theorem string_eq_ok {place : KeywordSite} {value : Json} {text : String} (read : place.string value = .ok text) :
    value = .string text := by
  cases value <;> cases read
  rfl

variable {options other : Options} (site : Site)

/-- The same dialect is named if the libraries give the same answers and the same schemas are found by the id, should
it be neither that of the site nor that of the options. -/
theorem parallel_namedDialect {value : Json}
    (library : ∀ id, Parallel change knows (libraryDialect? options id) (libraryDialect? other id))
    (dialect : other.dialect = options.dialect) (vocabularies : other.vocabularies = options.vocabularies)
    (schemas : ∀ text url, value = .string text → Url.parse text = .ok url →
      site.dialect.id ≠ url.withoutFragment → options.dialect.id ≠ url.withoutFragment →
        other.schemas.bind (· url.withoutFragment) = options.schemas.bind (· url.withoutFragment)) :
    Parallel change knows (site.namedDialect options value) (site.namedDialect other value) := by
  let place : KeywordSite := ⟨site, StandardKeyword.schema.name⟩
  refine Couples.bind (couples_read (rfl : (place.string value).toOption = _)) ?_
  rintro text _ ⟨rfl, read⟩
  refine Couples.bind (couples_read (rfl : (dialectId place text).toOption = _)) ?_
  rintro id _ ⟨rfl, parsed⟩
  rw [dialect]
  split
  · exact parallel_pure _
  · next own =>
    split
    · exact parallel_pure _
    · next standard =>
      refine (library id).bind fun found => ?_
      have same : other.schemas.bind (· id) = options.schemas.bind (· id) := by
        obtain ⟨url, parses, rfl⟩ := withoutFragment_of_dialectId parsed
        exact schemas text url (string_eq_ok read) parses own standard
      have vocabulary : other.vocabulary? = options.vocabulary? := by
        funext id
        rw [Options.vocabulary?, Options.vocabulary?, vocabularies]
      rw [same, vocabulary]
      split
      · exact parallel_pure _
      · split
        · exact parallel_pure _
        · split
          · split
            · exact parallel_pure _
            · exact couples_throw _ _
          · exact couples_throw _ _

theorem parallel_selectDialect {members : List (String × Json)}
    (named : ∀ value ∈ assoc? StandardKeyword.schema.name members,
      Parallel change knows (site.namedDialect options value) (site.namedDialect other value)) :
    Parallel change knows (site.selectDialect options members) (site.selectDialect other members) := by
  unfold selectDialect
  cases present : assoc? StandardKeyword.schema.name members with
  | none => exact parallel_pure _
  | some value =>
    refine (named value present).bind fun dialect => ?_
    dsimp only
    split
    · exact (parallel_modify fun _ _ _ => by rfl).bind fun _ => parallel_pure _
    · exact parallel_pure _

end Site

namespace Options.Parallels

open Site

variable {options other : Options} {plain : Json → Prop} (parallels : options.Parallels change knows plain other)
  {registered : Bool} {sub subOther : Site → Json → Compile Nat} (site : Site)

theorem mem_of_mem_inOrder {dialect : Dialect} {members : List (String × Json)} {entry : KeywordEntry Json}
    (member : entry ∈ KeywordEntry.inOrder (knownMembers dialect members)) : ∃ name, (name, entry.item) ∈ members := by
  have known := (KeywordEntry.inOrder_perm _).mem_iff.mp member
  obtain ⟨⟨name, value⟩, inside, made⟩ := List.mem_filterMap.mp known
  obtain ⟨⟨position, spec⟩, -, rfl⟩ := Option.map_eq_some_iff.mp made
  exact ⟨name, inside⟩

theorem parallel_compileKeywords {entries : List (KeywordEntry Json)}
    (below : ∀ site, ∀ entry ∈ entries, ∀ inner, Json.Part inner entry.item →
      Parallel change knows (sub site inner) (subOther site inner)) :
    Parallel change knows (compileKeywords registered sub site entries)
      (compileKeywords registered subOther site entries) := by
  induction entries generalizing site with
  | nil => exact parallel_pure _
  | cons entry rest ih =>
    refine (KeywordSite.parallel_compile _ registered (fun site => below site entry List.mem_cons_self) _).bind
      fun result => ?_
    exact (ih result.1 fun site other member => below site other (List.mem_cons_of_mem _ member)).bind fun _ =>
      parallel_pure _

include parallels

theorem couples_compileShape {value : Json} (fits : plain value)
    (below : ∀ site inner, plain inner → Parallel change knows (sub site inner) (subOther site inner)) :
    Couples False (Assembly.Parallel change knows) (fun result result' => result' = Prod.map id (·.mapRules change) result)
      (site.compileShape options registered sub value) (site.compileShape other registered subOther value) := by
  cases value with
  | bool accepts => exact couples_pure rfl
  | object members =>
    refine (?_ : Couples _ _ (fun result result' => result' = Prod.map id change result) _ _).bind ?_
    · refine Couples.bind (parallels.selects site members fits) ?_
      rintro selected _ rfl
      refine Couples.bind (Couples.and_keeps (parallel_compileKeywords selected fun site entry member inner part => ?_)
        (keeps_compileKeywords (fun _ _ _ => keeps_true) _ selected rfl)) ?_
      · obtain ⟨name, inside⟩ := mem_of_mem_inOrder member
        exact below site inner (parallels.below members fits name _ inside inner part)
      · rintro ⟨final, rules⟩ _ ⟨rfl, -, means⟩
        refine parallels.completes selected final members rules fun rule member => ?_
        obtain ⟨entry, -, same⟩ := List.mem_map.mp (means.subset (List.mem_map_of_mem member))
        rw [← same]
        rfl
    · rintro ⟨final, rules⟩ _ rfl
      exact couples_pure rfl
  | _ => exact couples_throw _ _

theorem parallel_compileNode {value : Json} (fits : plain value)
    (below : ∀ site inner, plain inner → Parallel change knows (sub site inner) (subOther site inner)) :
    Parallel change knows (site.compileNode options registered sub value)
      (site.compileNode other registered subOther value) := by
  refine couples_get.bind ?_
  rintro left _ ⟨dialects, rfl, known⟩
  dsimp only
  rw [Array.size_map]
  refine Couples.bind (couples_modify ?_ : Couples _ _ (fun _ _ => True) _ _) fun _ _ _ => ?_
  · rintro left _ ⟨dialects, rfl, known⟩
    exact ⟨dialects, by simp, known⟩
  · refine (parallels.couples_compileShape _ fits below).bind ?_
    rintro ⟨final, shape⟩ _ rfl
    refine Couples.bind (couples_modify ?_ : Couples _ _ (fun _ _ => True) _ _) fun _ _ _ => parallel_pure _
    rintro left _ ⟨dialects, rfl, known⟩
    refine ⟨dialects, ?_, known⟩
    simp [Node.mapRules]

variable (registered) in
/-- Plain values are compiled in parallel. -/
theorem parallel_compileWithin (depth : Nat) {value : Json} (fits : plain value) :
    Parallel change knows (compileWithin options registered depth site value)
      (compileWithin other registered depth site value) := by
  induction depth generalizing site value with
  | zero => exact couples_throw _ _
  | succ depth ih => exact parallels.parallel_compileNode site fits fun site inner plain => ih site plain

end Options.Parallels

/-- The document with other rules. -/
def Document.mapRules (change : List Rule → List Rule) (document : Document) : Document :=
  { document with nodes := document.nodes.map (·.mapRules change) }

theorem Document.node_mapRules (document : Document) (change : List Rule → List Rule) (index : Nat) :
    (document.mapRules change).node index = (document.node index).mapRules change := by
  simp only [Document.node, Document.mapRules, Array.getD_eq_getD_getElem?, Array.getElem?_map]
  cases document.nodes[index]? <;> rfl

/-- The schema in the document with other rules. -/
def Schema.mapRules (change : List Rule → List Rule) (schema : Schema) : Schema :=
  ⟨schema.document.mapRules change, schema.resource⟩

theorem Assembly.document?_mapRules (assembly : Assembly) (dialects : DialectCache) :
    ({ assembly with nodes := assembly.nodes.map (·.map (·.mapRules change)), dialects } : Assembly).document? =
      assembly.document?.map (·.mapRules change) := by
  have slots (list : List (Option Node)) :
      (list.map (·.map (·.mapRules change))).mapM id = (list.mapM id).map (·.map (·.mapRules change)) := by
    induction list with
    | nil => rfl
    | cons slot rest ih =>
      rw [List.map_cons, List.mapM_cons, List.mapM_cons, ih]
      cases slot with
      | none => rfl
      | some node => cases rest.mapM id <;> rfl
  simp only [Assembly.document?, Array.toList_map, slots, Option.map_map]
  congr 1
  funext nodes
  simp [Document.mapRules]

/-- Plain values are compiled to the same document up to its rules. -/
theorem Options.Parallels.compileDocument {options other : Options} {plain : Json → Prop}
    (parallels : options.Parallels change knows plain other) (dialect : Dialect) (base : Url) (registered : Bool)
    {value : Json} (fits : plain value) {first second : DialectCache} (known : knows first second) :
    (Schema.compileDocument other dialect base registered value second).1.toOption =
        (Schema.compileDocument options dialect base registered value first).1.toOption.map (·.mapRules change) ∧
      knows (Schema.compileDocument options dialect base registered value first).2
        (Schema.compileDocument other dialect base registered value second).2 := by
  have matched := parallels.parallel_compileWithin registered (.root dialect base) (value.depth + 1) fits
    (.start dialect base registered first) (.start dialect base registered second)
    ⟨second, by simp [Assembly.start], known⟩
  unfold Schema.compileDocument
  dsimp only
  revert matched
  rcases (Site.compileWithin options registered (value.depth + 1) (.root dialect base) value).run
    (.start dialect base registered first) with ⟨result, left⟩
  rcases (Site.compileWithin other registered (value.depth + 1) (.root dialect base) value).run
    (.start dialect base registered second) with ⟨result', right⟩
  intro matched
  cases result with
  | ok node =>
    cases result' with
    | ok node' =>
      obtain ⟨-, dialects, rfl, knows⟩ := matched
      refine ⟨?_, knows⟩
      simp only [Assembly.document?_mapRules]
      cases left.document? <;> rfl
    | error cause' => exact matched.elim
  | error cause =>
    cases result' with
    | ok node' => exact matched.elim
    | error cause' =>
      obtain impossible | ⟨dialects, rfl, knows⟩ := matched
      · exact impossible.elim
      · exact ⟨rfl, knows⟩

end JsonSchema
