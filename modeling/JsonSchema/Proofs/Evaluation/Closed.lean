import JsonSchema.Proofs.Evaluation.Evaluated

/-! # Closed documents

A document is closed if every reference in it leads to a node of its own. An evaluation of a closed document applies
nodes of this document only, whatever the options offer besides (`Run.Yields.document_eq`).
-/

namespace JsonSchema

namespace Document

variable {document : Document}

/-- Whether a reference leads to a node of the document. -/
def resolves (document : Document) (url : Url) : Bool :=
  ((document.find? url.withoutFragment).bind (·.nodeOfFragment? url.fragmentText .standardAndDynamic)).isSome

/-- Whether a rule does not lead out of the document. -/
def encloses (document : Document) : Rule → Bool
  | .ref url | .dynamicRef url _ => document.resolves url
  | _ => true

/-- Whether no rule leads out of the document. -/
def isClosed (document : Document) : Bool := document.nodes.all (·.rules.all document.encloses)

theorem encloses_of_isClosed (closed : document.isClosed = true) (index : Nat) :
    ∀ rule ∈ (document.node index).rules, document.encloses rule = true := by
  rcases document.node_mem_or_beyond index with inside | beyond
  · exact List.all_eq_true.mp (Array.all_eq_true_iff_forall_mem.mp closed _ inside)
  · rw [beyond]
    exact fun rule impossible => absurd impossible List.not_mem_nil

/-- Whether the nodes of the document are schemas of the draft. -/
def IsDrafted (document : Document) : Prop := ∀ index, (document.node index).IsDrafted

/-- Whether no schema of the document has two members of one name. -/
def hasDistinctNames (document : Document) : Bool := document.nodes.all (decide <| ·.value.HasDistinctNames)

end Document

namespace Run

variable {run : Run} {document : Document}

theorem document_of_find? {id : Url} {schema : Schema} (found : document.find? id = some schema) :
    schema.document = document := by
  obtain ⟨resource, -, rfl⟩ := Option.map_eq_some_iff.mp found
  rfl

/-- A reference that leads to a node of the document is resolved to it. -/
theorem resolve_of_resolves (run : Run) {url : Url} (resolves : document.resolves url = true) (memory : Memory) :
    ∃ node, ((run.resolve document url).run memory).1 = some ⟨document, node⟩ := by
  obtain ⟨node, named⟩ := Option.isSome_iff_exists.mp resolves
  obtain ⟨schema, found, named⟩ := Option.bind_eq_some_iff.mp named
  have resource : run.resource? document url.withoutFragment = some schema := by rw [resource?, found]; rfl
  refine ⟨node, ?_⟩
  rw [resolve, resource]
  simp only [named, document_of_find? found]
  rfl

/-- A dynamic anchor is declared by an active resource. -/
theorem exists_active_of_dynamicTarget? {active : List ActiveResource} {name : String} {found : Target}
    (leads : dynamicTarget? active name = some found) : ∃ resource ∈ active, found.document = resource.document := by
  obtain ⟨resource, member, leads⟩ := List.exists_of_findSome?_eq_some leads
  obtain ⟨node, -, rfl⟩ := Option.map_eq_some_iff.mp leads
  exact ⟨resource, List.mem_reverse.mp member, rfl⟩

theorem document_of_dynamicTarget? {active : List ActiveResource}
    (own : ∀ resource ∈ active, resource.document = document) {name : String} {found : Target}
    (leads : dynamicTarget? active name = some found) : found.document = document := by
  obtain ⟨resource, member, same⟩ := exists_active_of_dynamicTarget? leads
  exact same.trans (own resource member)

/-- A rule that does not lead out of the document has its target there. -/
theorem document_of_target {active : List ActiveResource} (own : ∀ resource ∈ active, resource.document = document)
    {rule : Rule} (encloses : document.encloses rule = true) {memory : Memory} {found : Target}
    (leads : ((run.target document active rule).run memory).1 = some found) : found.document = document := by
  cases rule with
  | ref url =>
    obtain ⟨node, resolved⟩ := resolve_of_resolves run encloses memory
    exact Option.some.inj (leads.symm.trans resolved) ▸ rfl
  | dynamicRef url anchor =>
    obtain ⟨node, resolved⟩ := resolve_of_resolves run encloses memory
    simp only [target, Evaluation.run_bind, Evaluation.run_pure, resolved, Option.map_some, Option.some.injEq] at leads
    subst leads
    cases anchor with
    | none => rfl
    | some name =>
      dsimp only
      split
      · cases outermost : dynamicTarget? active name with
        | none => rfl
        | some found => exact document_of_dynamicTarget? own outermost
      · rfl
  | _ => injection leads

/-- Whatever is applied in the evaluation of a closed document is a node of this document. -/
theorem Yields.document_eq (closed : document.isClosed = true) {path : Path} {application : Application}
    {applied : Applied} (yields : run.Yields path application applied) (root : application.target.document = document)
    (own : ∀ resource ∈ path.active, resource.document = document) :
    ∀ part ∈ applied.trace.parts, ∀ inner, part.subject = .application inner → inner.target.document = document := by
  induction yields with
  | cutOff exhausted =>
    intro part member inner subject
    obtain rfl : part = _ := by simpa [Run.cutOff, Trace.parts] using member
    exact Subject.application.inj subject ▸ root
  | boolean shallow shape =>
    intro part member inner subject
    obtain rfl : part = _ := by simpa [Trace.parts, Trace.partsOf] using member
    exact Subject.application.inj subject ▸ root
  | @object path application rules steps shallow shape carried yields ih =>
    have active : ∀ resource ∈ application.target.active :: path.active, resource.document = document := by
      intro resource member
      rcases List.mem_cons.mp member with rfl | member
      · exact root
      · exact own resource member
    intro part member inner subject
    rcases Trace.mem_parts.mp member with rfl | ⟨child, childMember, member⟩
    · exact Subject.application.inj subject ▸ root
    · obtain ⟨step, stepMember, rfl⟩ := List.mem_map.mp childMember
      obtain ⟨before, after, -, performs⟩ := carried.performs_of_mem stepMember
      rcases Trace.mem_parts.mp member with rfl | ⟨grandchild, grandchildMember, member⟩
      · exact Subject.noConfusion ((step.subject_trace _).symm.trans subject)
      · rw [performs.children_trace] at grandchildMember
        obtain ⟨result, resultMember, rfl⟩ := List.mem_map.mp grandchildMember
        refine ih step stepMember result resultMember ?_ active part member inner subject
        have applied := Node.applied_subset shape (carried.rule_mem stepMember)
        rcases (Rule.plans_of_mem_plan (performs.mem_applications resultMember)).leads with same | leads
        · rw [same, performs.facts_eq, root]
        · obtain ⟨memory, target⟩ := performs.target_eq
          rw [leads, root] at target
          refine document_of_target active ?_ target.symm
          rw [Application.node, root] at applied
          exact Document.encloses_of_isClosed closed _ _ applied

end Run

namespace Schema

/-- A document is one of the draft if it is compiled where no other dialect is known. -/
theorem isDrafted_of_compile {options : Options} (only : options.KnowsOnlyDraft) {url : Url} {value : Json}
    {schema : Schema} (compiled : (compile options url value).toOption = some schema)
    (distinct : schema.document.hasDistinctNames = true) : schema.document.IsDrafted := by
  intro index
  constructor
  · rcases schema.document.node_mem_or_beyond index with inside | beyond
    · exact of_decide_eq_true (Array.all_eq_true_iff_forall_mem.mp distinct _ inside)
    · rw [beyond]
      trivial
  · rw [compile, compileWith, only.dialect_eq] at compiled
    cases result : (compileDocument options Draft.dialect url.withoutFragment true value []).1 with
    | error cause =>
      rw [result] at compiled
      injection compiled
    | ok found =>
      rw [result] at compiled
      obtain rfl := Option.some.inj compiled
      exact compiledUnder_of_compileDocument only result index

/-- The trace of an evaluation is that of the root. -/
theorem subject_trace (schema : Schema) (options : Options) (value : Json) (dialects : DialectCache) :
    (schema.trace options value dialects).1.subject =
      .application (.inPlace ⟨schema.document, schema.rootIndex⟩ value none) :=
  (Run.yields_evaluate ⟨options, schema⟩ value ⟨[], dialects⟩).subject_trace

/-- An evaluation of a closed document under the draft applies only schemas of the draft. -/
theorem isDrafted_trace (schema : Schema) (drafted : schema.document.IsDrafted)
    (closed : schema.document.isClosed = true) (options : Options) (value : Json) (dialects : DialectCache) :
    (schema.trace options value dialects).1.IsDrafted := by
  intro part member application subject
  have yields := Run.yields_evaluate ⟨options, schema⟩ value ⟨[], dialects⟩
  rw [Application.node, yields.document_eq closed rfl (by simp [Path.root]) part member application subject]
  exact drafted _

end Schema

/-! ## Evaluations that can be computed -/

/-- The steps from the instance to the parts that a rule reached. -/
def Trace.reached (step : Trace) : List String :=
  step.children.filterMap fun child =>
    match child.subject with
    | .application application => application.step
    | .rule _ => none

theorem Trace.reached_eq {α : Type} {step : Trace} {values : List α} {apply : α → Application} {name : α → String}
    (applied : step.children.map (·.subject) = values.map fun value => .application (apply value))
    (named : ∀ value, (apply value).step = some (name value)) : step.reached = values.map name := by
  have subjects : step.reached = (step.children.map (·.subject)).filterMap fun subject =>
      match subject with
      | .application application => application.step
      | .rule _ => none := by
    rw [List.filterMap_map]
    rfl
  rw [subjects, applied, List.filterMap_map, ← List.filterMap_eq_map]
  exact List.filterMap_congr fun value _ => named value

namespace Schema

/-- Whether a closed document is valid for an instance and its rule of a keyword reaches certain parts. -/
def reaches (schema : Schema) (options : Options) (value : Json) (keyword : StandardKeyword) (steps : List String) :
    Bool :=
  let object := (schema.trace options value []).1
  schema.document.isClosed && schema.document.hasDistinctNames && object.isBranch &&
    object.children.all (·.isValid) && (schema.root.rule? keyword.name).isSome &&
    object.children.all fun step =>
      match step.subject with
      | .rule rule => rule.standard? ≠ some keyword || step.reached = steps
      | .application _ => true

theorem of_reaches {options : Options} (only : options.KnowsOnlyDraft) {url : Url} {source value : Json}
    {schema : Schema} (compiled : (compile options url source).toOption = some schema) {keyword : StandardKeyword}
    (registered : .standard keyword ∈ Draft.dialect.keywords) {steps : List String}
    (reaches : schema.reaches options value keyword steps = true) :
    let object := (schema.trace options value []).1
    object.IsDrafted ∧ object.isBranch = true ∧ (∀ step ∈ object.children, step.isValid = true) ∧
      ∃ rule ∈ schema.root.rules, rule.standard? = some keyword ∧
        ∀ step ∈ object.children, step.subject = .rule rule → step.reached = steps := by
  simp only [Schema.reaches, Bool.and_eq_true] at reaches
  obtain ⟨⟨⟨⟨⟨closed, distinct⟩, branch⟩, valid⟩, ruled⟩, reached⟩ := reaches
  have drafted := isDrafted_of_compile only compiled distinct
  obtain ⟨rule, found⟩ := Option.isSome_iff_exists.mp ruled
  obtain ⟨member, means⟩ := ((drafted schema.rootIndex).rule?_eq_some_iff registered).mp found
  refine ⟨isDrafted_trace schema drafted closed options value [], branch, List.all_eq_true.mp valid, rule, member,
    means, ?_⟩
  intro step inside subject
  have known := List.all_eq_true.mp reached step inside
  rw [subject] at known
  simpa [means] using known

end Schema

end JsonSchema
