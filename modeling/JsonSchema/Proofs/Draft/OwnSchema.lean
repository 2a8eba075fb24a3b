import JsonSchema.Proofs.Compile.Bundle
import JsonSchema.Proofs.Evaluation.Acceptance
import JsonSchema.Proofs.Report.Verdict

/-! # The draft's own schema

What compiles as a schema of the draft is valid under the schema by which the draft describes schemas
(`Draft.exists_isValid_of_compileWith`). That schema refers to one schema for each vocabulary, and all of them refer
dynamically to what schemas are, which leads back to it: the proof is by induction on the depth within which a value
compiles, and each level takes a fixed number of scopes (`Run.Judges.accepts_home`).
-/

namespace JsonSchema

/-- The root of a schema. -/
def Schema.target (schema : Schema) : Target := ⟨schema.document, schema.rootIndex⟩

theorem firstOf_same (locator : Locator) (id : Url) : firstOf [locator, locator] id = locator id := by
  simp only [firstOf, List.findSome?_cons, List.findSome?_nil]
  cases locator id <;> rfl

namespace Draft

/-- The anchor under which the documents of the draft refer to all schemas. -/
def metaAnchor : String := "meta"

/-- The ids of the schemas that describe the vocabularies. -/
def vocabularyIds : List Url := dialect.vocabularies.map (·.1.schemaId)

/-- How many nodes within each other are looked at in a document of the draft. -/
def nesting : Nat := 8

/-- The schema of a vocabulary accepts truth values and schema objects. -/
theorem accepts_vocabularies : ∀ id ∈ vocabularyIds, (locate id).isSome ∧ ∀ schema ∈ locate id, schema.info?.isSome ∧
    schema.document.accepts metaAnchor [] nesting (.either .flag .keywords) schema.rootIndex := by
  decide +kernel

/-- The schema of the draft accepts truth values and schema objects if those of the vocabularies do, and it declares
the anchor of all schemas. -/
theorem accepts_schema : (locate schemaId).isSome ∧ ∀ schema ∈ locate schemaId, schema.info?.isSome ∧
    schema.document.accepts metaAnchor vocabularyIds nesting (.either .flag .keywords) schema.rootIndex ∧
      (schema.target.active.dynamicAnchor? metaAnchor).any (·.node = schema.rootIndex) := by
  decide +kernel

/-- The ids of the draft are no references to parts of a document, and none is the default base. -/
theorem isForeign_ids : ∀ id ∈ schemaId :: vocabularyIds,
    id.withoutFragment = id ∧ id.fragmentText = "" ∧ id ≠ Url.defaultBase := by
  decide +kernel

theorem join_schemaText : Url.defaultBase.join schemaText = .ok schemaId := by decide +kernel

end Draft

namespace Run

/-- Whether an evaluation starts from a reference to the schema of the draft, with the documents of the draft at hand. -/
structure Judges (run : Run) : Prop where
  refers : run.root.document.Refers Url.defaultBase Draft.schemaId
  ids_eq : run.root.document.ids = [(Url.defaultBase, 0)]
  resource_eq : run.root.resource = 0
  annotates : run.options.formatMode = .annotate
  locates : ∀ id, firstOf run.locators id = Draft.locate id

variable {run : Run} (judges : run.Judges) {home : Schema} (own : Draft.locate Draft.schemaId = some home)

namespace Judges

section

include judges

theorem find?_eq_none {id : Url} (foreign : id ≠ Url.defaultBase) : run.root.document.find? id = none := by
  rw [Document.find?, judges.ids_eq, assoc?, if_neg foreign]
  rfl

/-- A reference to a schema of the draft leads to its root. -/
theorem resolve_eq {id : Url} (listed : id ∈ Draft.schemaId :: Draft.vocabularyIds) {schema : Schema}
    (found : Draft.locate id = some schema) (known : schema.info?.isSome = true) {document : Document}
    (foreign : document.find? id = none) (memory : Memory) :
    ((run.resolve document id).run memory).1 = some schema.target := by
  obtain ⟨whole, plain, apart⟩ := Draft.isForeign_ids id listed
  obtain ⟨info, known⟩ := Option.isSome_iff_exists.mp known
  have resource : run.resource? document id.withoutFragment = some schema := by
    rw [whole, resource?, foreign, judges.find?_eq_none apart, judges.locates, found]
    rfl
  have root : schema.nodeOfFragment? id.fragmentText .standardAndDynamic = some schema.rootIndex := by
    rw [Schema.nodeOfFragment?, Schema.rootIndex, known, plain]
    rfl
  rw [resolve, resource]
  simp only [root]
  rfl

/-- The schema of a vocabulary accepts truth values and schema objects wherever schemas are accepted. -/
theorem accepts_vocabulary {isSchema : Json → Prop} {scopes : Nat}
    (schemas : ∀ value, isSchema value → run.Accepts Draft.metaAnchor home.target scopes home.target value) {id : Url}
    (listed : id ∈ Draft.vocabularyIds) {schema : Schema} (located : Draft.locate id = some schema) {value : Json}
    (describes : (Form.either .flag .keywords).Describes isSchema value) :
    run.Accepts Draft.metaAnchor home.target (scopes + 2 * Draft.nesting) schema.target value := by
  have accepts := ((Draft.accepts_vocabularies id listed).2 schema located).2
  have hosts : run.Hosts Draft.metaAnchor home.target schema.document [] isSchema scopes :=
    ⟨judges.annotates, schemas, fun url none => absurd none List.not_mem_nil⟩
  exact hosts.accepts_sound accepts describes

include own

/-- The schema of the draft accepts truth values and schema objects wherever schemas are accepted. -/
theorem accepts_draft {isSchema : Json → Prop} {scopes : Nat}
    (schemas : ∀ value, isSchema value → run.Accepts Draft.metaAnchor home.target scopes home.target value) {value : Json}
    (describes : (Form.either .flag .keywords).Describes isSchema value) :
    run.Accepts Draft.metaAnchor home.target (scopes + 4 * Draft.nesting) home.target value := by
  have accepts := (Draft.accepts_schema.2 home own).2.1
  have hosts : run.Hosts Draft.metaAnchor home.target home.document Draft.vocabularyIds isSchema
      (scopes + 2 * Draft.nesting) := by
    refine ⟨judges.annotates, fun value holds => (schemas value holds).mono (Nat.le_add_right _ _), ?_⟩
    intro id listed foreign memory
    obtain ⟨schema, located⟩ := Option.isSome_iff_exists.mp (Draft.accepts_vocabularies id listed).1
    have known := ((Draft.accepts_vocabularies id listed).2 schema located).1
    have member := List.mem_cons_of_mem Draft.schemaId listed
    rw [(Draft.isForeign_ids id member).1] at foreign
    refine ⟨schema.target, judges.resolve_eq member located known foreign memory, ?_⟩
    intro form isRoot value describes
    refine judges.accepts_vocabulary schemas listed located ?_
    rcases isRoot with rfl | rfl
    · exact .inl describes
    · exact .inr describes
  exact (hosts.accepts_sound accepts describes).mono (by omega)

/-- The schema of the draft accepts what compiles within some depth. -/
theorem accepts_home {options : Options} (depth : Nat) : ∀ value, Site.IsSchemaWithin options depth value →
    run.Accepts Draft.metaAnchor home.target (4 * Draft.nesting * depth) home.target value := by
  induction depth with
  | zero =>
    intro value isSchema
    obtain ⟨-, registered, site, before, number, after, -, yields⟩ := isSchema
    exact absurd yields Compile.yields_throw
  | succ depth ih =>
    intro value isSchema
    exact judges.accepts_draft own ih (Site.fits_of_isSchemaWithin isSchema)

/-- The document around the reference declares no anchor, so the schema of the draft is the outermost one that does. -/
theorem dynamicTarget?_eq : dynamicTarget? [home.target.active, (Target.mk run.root.document 0).active] Draft.metaAnchor =
    some home.target := by
  obtain ⟨target, declared, isRoot⟩ := (Option.any_eq_true _ _).mp (Draft.accepts_schema.2 home own).2.2
  obtain ⟨node, -, rfl⟩ := Option.map_eq_some_iff.mp declared
  obtain rfl := of_decide_eq_true isRoot
  replace declared : home.target.active.dynamicAnchor? Draft.metaAnchor = some home.target := declared
  obtain ⟨locations, outermost⟩ := judges.refers.outermost
  have none : (Target.mk run.root.document 0).active.dynamicAnchor? Draft.metaAnchor = none := by
    rw [ActiveResource.dynamicAnchor?, Target.active, judges.refers.resource_eq, outermost]
    rfl
  simp only [dynamicTarget?, List.reverse_cons, List.reverse_nil, List.nil_append, List.singleton_append,
    List.findSome?_cons, none, declared]

/-- What the schema of the draft accepts is valid. -/
theorem isValid_evaluate {scopes : Nat} {value : Json}
    (accepts : run.Accepts Draft.metaAnchor home.target scopes home.target value)
    (enough : scopes + 2 ≤ run.options.maxDepth) (memory : Memory) :
    ((run.evaluate value).run memory).1.outcome.isValid = true := by
  have isForeign := Draft.isForeign_ids Draft.schemaId List.mem_cons_self
  have resolved := judges.resolve_eq List.mem_cons_self own (Draft.accepts_schema.2 home own).1
    (judges.find?_eq_none isForeign.2.2)
  obtain ⟨rules, shape, applied⟩ := judges.refers.shape
  obtain ⟨locations, outermost⟩ := judges.refers.outermost
  have root : run.root.rootIndex = 0 := by
    rw [Schema.rootIndex, Schema.info?, judges.resource_eq, outermost]
    rfl
  have yields := run.yields_evaluate value memory
  rw [root] at yields
  refine yields.isValid_of_succeeds (Nat.lt_of_lt_of_le (Nat.succ_pos _) enough) shape
    (fun inner => inner.target = home.target ∧ inner.value = value) ?_ ?_
  · intro rule member facts memory _ _
    rw [applied] at member
    obtain rfl := List.mem_singleton.mp member
    show ((Rule.ref Draft.schemaId).plan facts ((run.resolve run.root.document _).run memory).1 value).Succeeds _
    rw [resolved]
    exact Plan.succeeds_follow ⟨rfl, rfl⟩
  · intro rule inner result isHome yields
    refine accepts _ inner result isHome.1 isHome.2 (judges.dynamicTarget?_eq own) ?_ yields
    rw [depth_pathBelow]
    exact (Nat.add_comm ..).trans_le enough

end

end Judges

end Run

namespace Draft

open Schema

/-- A schema that refers to the schema of the draft. -/
def reference : Json := .object [(StandardKeyword.ref.name, .string schemaText)]

theorem exists_reference : ∃ schema, Schema.compile .standard Url.defaultBase reference = .ok schema := by
  have compiles : (Schema.compile .standard Url.defaultBase reference).toOption.isSome = true := by decide +kernel
  obtain ⟨schema, compiled⟩ := Option.isSome_iff_exists.mp compiles
  exact ⟨schema, Except.eq_ok_of_toOption compiled⟩

/-- The reference leads to the schema of the draft, whatever the depth is. -/
theorem judges_of_compile {judge : Schema} (compiled : Schema.compile .standard Url.defaultBase reference = .ok judge)
    (depth : Nat) : (Run.mk { Options.standard with maxDepth := depth } judge).Judges := by
  have compiledIn := compileDocument_of_compile Options.knowsOnlyDraft_standard
    (congrArg Except.toOption compiled)
  rw [show Url.defaultBase.withoutFragment = Url.defaultBase by decide] at compiledIn
  obtain ⟨refers, ids⟩ := refers_of_compileDocument Options.knowsOnlyDraft_standard rfl join_schemaText compiledIn
  obtain ⟨-, -, -, -, resource⟩ := exists_assembly_of_compileDocument compiledIn
  obtain ⟨locations, outermost⟩ := refers.outermost
  have home : dialect.home.locate = locate := rfl
  refine ⟨refers, ids, resource, rfl, fun id => ?_⟩
  rw [Run.locators, Schema.info?, resource, outermost]
  show firstOf [dialect.home.locate, dialect.home.locate] id = _
  rw [home, firstOf_same]

/-- What compiles as a schema of the draft is valid under the schema of the draft, wherever the limit leaves enough
depth. -/
theorem exists_isValid_of_compileWith {url : Url} {value : Json} (lacks : value.Lacks barredNames)
    {dialects : DialectCache} {schema : Schema}
    (compiles : (Schema.compileWith .standard url value dialects).1 = .ok schema) :
    ∃ judge, Schema.compile .standard Url.defaultBase reference = .ok judge ∧
      ∃ least, ∀ depth, least ≤ depth → ∀ format known,
        (judge.validate { Options.standard with maxDepth := depth } format value known).1.isValid = true := by
  obtain ⟨judge, compiled⟩ := exists_reference
  obtain ⟨home, own⟩ := Option.isSome_iff_exists.mp accepts_schema.1
  rw [Schema.compileWith] at compiles
  obtain ⟨root, final, yields, -, -⟩ := exists_assembly_of_compileDocument compiles
  have isSchema : Site.IsSchemaWithin .standard (value.depth + 1) value := ⟨lacks, true, _, _, _, _, rfl, yields⟩
  refine ⟨judge, compiled, 4 * nesting * (value.depth + 1) + 2, fun depth enough format known => ?_⟩
  have judges := judges_of_compile compiled depth
  have valid := judges.isValid_evaluate own (judges.accepts_home own _ value isSchema) enough ⟨[], known⟩
  rw [Schema.isValid_validate]
  exact Bool.or_eq_true_iff.mpr (.inl valid)

/-- A schema with a schema for its items is valid under the schema of the draft. -/
theorem exists_isValid_of_compileWith_items :
    let value : Json := .object [("items", .object [("type", .string "string")]), ("minItems", .number (.integer 1))]
    value.Lacks barredNames ∧
      ∃ schema, (Schema.compileWith .standard Url.defaultBase value []).1 = .ok schema ∧
        ∃ judge, Schema.compile .standard Url.defaultBase reference = .ok judge ∧
          ∃ least, ∀ depth, least ≤ depth → ∀ format known,
            (judge.validate { Options.standard with maxDepth := depth } format value known).1.isValid = true := by
  intro value
  have lacks : value.Lacks barredNames := by
    intro members inside
    have within : .object members ∈ [value, .object [("type", .string "string")], .string "string",
        .number (.integer 1)] := inside
    simp only [List.mem_cons, List.not_mem_nil, reduceCtorEq, or_false] at within
    rcases within with same | same <;> obtain rfl := Json.object.inj same <;> decide
  have compiles : (Schema.compileWith .standard Url.defaultBase value []).1.toOption.isSome = true := by
    dsimp only [value]
    decide +kernel
  obtain ⟨schema, compiled⟩ := Option.isSome_iff_exists.mp compiles
  replace compiled := Except.eq_ok_of_toOption compiled
  exact ⟨lacks, schema, compiled, exists_isValid_of_compileWith lacks compiled⟩

end Draft

end JsonSchema
