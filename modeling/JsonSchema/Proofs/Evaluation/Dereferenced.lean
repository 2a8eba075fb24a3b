import JsonSchema.Proofs.Compile.Locations
import JsonSchema.Proofs.Evaluation.Confined
import JsonSchema.Proofs.Evaluation.Fragments
import JsonSchema.Proofs.Evaluation.OnDemand
import JsonSchema.Proofs.Report.Places

/-! # Locations of what is reported

The scope of a schema object or keyword in a trace names a resource and a location in it. Where the evaluation looks up
the resource, it finds one in whose source the location leads to the schema or keyword that is reported on
(`Schema.dereferences_trace`). This does not hold in the root resource of what was compiled on demand, whose locations
start at the fragment though the resource that is named starts elsewhere (`Schema.locations_in_fragments_dangle`).
-/

namespace JsonSchema

/-! ## Documents of the draft -/

/-- Whether a document is what a value is compiled to with all of its nodes under the draft; unless registered it cannot
be found by its base. -/
def Document.IsMade (registered : Bool) (document : Document) : Prop :=
  ∃ options own base value dialects, value.NamesOnce ∧ value.IsCountable ∧
    Schema.CompilesUnder Draft.dialect options own base registered value dialects ∧
      (Schema.compileDocument options own base registered value dialects).1 = .ok ⟨document, 0⟩

namespace Document

variable {document : Document} {registered : Bool} {whole : Json}

namespace IsMade

variable (made : document.IsMade registered)
include made

theorem exists_unfolds : ∃ whole, whole.NamesOnce ∧ whole.IsCountable ∧ document.Unfolds whole := by
  obtain ⟨options, own, base, value, dialects, names, countable, compiles, compiled⟩ := made
  obtain ⟨other, assembly, same, finishes, chain⟩ := Schema.exists_document_of_compilesUnder names compiles
  obtain rfl : other = document := congrArg Schema.document (Except.ok.inj (same.symm.trans compiled))
  exact ⟨value, names, countable, chain.unfolds finishes⟩

/-- A resource is found by its id in its document, unless it is the root of one that is not registered. -/
theorem find?_eq {index : Nat} {resource : Resource} (found : document.resources[index]? = some resource)
    (own : index = 0 → registered = true) : document.find? resource.id = some ⟨document, index⟩ := by
  obtain ⟨options, dialect, base, value, dialects, names, -, compiles, compiled⟩ := made
  obtain ⟨other, assembly, same, finishes, chain⟩ := Schema.exists_document_of_compilesUnder names compiles
  obtain rfl : other = document := congrArg Schema.document (Except.ok.inj (same.symm.trans compiled))
  obtain ⟨resources, ids⟩ := Assembly.resources_of_document? finishes
  have registers := chain.registers (Schema.registers_start _ _ _ _) Nat.zero_lt_one
  rw [find?, ids, registers.found index resource (resources ▸ found) own]
  rfl

end IsMade

variable (unfolds : document.Unfolds whole)
include unfolds

theorem Unfolds.pos : 0 < document.nodes.size := by
  obtain ⟨outer, found, isRoot⟩ := unfolds.outermost
  have bound := unfolds.rooted 0 outer found
  rwa [isRoot] at bound

theorem Unfolds.rootIndex_lt (index : Nat) : (⟨document, index⟩ : Schema).rootIndex < document.nodes.size := by
  unfold Schema.rootIndex Schema.info?
  cases found : document.resources[index]? with
  | none => exact unfolds.pos
  | some resource => exact unfolds.rooted index resource found

/-- What a fragment names is a node. -/
theorem Unfolds.lt_of_nodeOfFragment? {index number : Nat} {fragment : String}
    (names : (⟨document, index⟩ : Schema).nodeOfFragment? fragment .standardAndDynamic = some number) :
    number < document.nodes.size := by
  obtain ⟨resource, found, named⟩ := Option.bind_eq_some_iff.mp names
  change document.resources[index]? = some resource at found
  have root := unfolds.rooted index resource found
  simp only [Resource.nodeOfFragment?, FragmentKinds.allowsStandard, FragmentKinds.allowsDynamic, if_true] at named
  split at named
  · exact Option.some.inj named ▸ root
  · split at named
    · split at named
      · exact (unfolds.entered index resource found _ (mem_of_assoc? named)).lt_size unfolds.descends root
      · cases named
    · rcases Option.or_eq_some_iff.mp (Option.orElse_eq_or.symm.trans named) with anchored | ⟨-, declared⟩
      · exact (unfolds.named index resource found _ _ anchored).1
      · exact unfolds.dynamic index resource found _ _ declared

/-- The location of a node leads to it in the source of its resource. -/
theorem Unfolds.resolve?_location (names : whole.NamesOnce) (countable : whole.IsCountable) {index : Nat}
    (bound : index < document.nodes.size) :
    (document.node index).location.resolve? (⟨document, (document.node index).resource⟩ : Schema).value =
      some (document.node index).value := by
  obtain ⟨resource, found, -, leads⟩ := unfolds.placed index bound
  have root : (⟨document, (document.node index).resource⟩ : Schema).rootIndex = resource.node := by
    rw [Schema.rootIndex, Schema.info?, found]
    rfl
  rw [Schema.value, Schema.root, root]
  exact leads.follow? unfolds.descends unfolds.reflects names countable (unfolds.rooted _ resource found)

end Document

namespace Run

/-! ## Documents that an evaluation comes to -/

/-- The documents that an evaluation can come to. Those that were compiled on demand are not registered. -/
inductive Visits (run : Run) : Bool → Document → Prop
  | root : Visits run true run.root.document
  | located {locator : Locator} {id : Url} {schema : Schema} (asked : locator ∈ run.locators)
      (found : locator id = some schema) : Visits run true schema.document
  | compiled {registered : Bool} {schema : Schema} {fragment : String} {memory : Memory} {target : Target}
      (visits : Visits run registered schema.document)
      (compiles : ((run.compilePointer schema fragment).run memory).1 = some target) : Visits run false target.document

/-- Whether all that a run starts from, locates or compiles on demand is compiled under the draft. -/
structure IsDrafted (run : Run) : Prop where
  root : run.root.document.IsMade true
  located : ∀ locator ∈ run.locators, ∀ id schema, locator id = some schema → schema.document.IsMade true
  fragments : ∀ (registered : Bool) (schema : Schema) (resource : Resource) (pointer : Pointer) (value : Json)
    (dialects : DialectCache), run.Visits registered schema.document → schema.info? = some resource →
      pointer.resolve? schema.value = some value →
        (Schema.compileFragment run.options resource value dialects).1.toOption.isSome = true →
          Schema.CompilesUnder Draft.dialect run.options resource.dialect resource.id false value dialects

variable {run : Run}

/-- A resource is found in a document that the evaluation came to. -/
theorem visits_of_resource? {registered : Bool} {document : Document} (visits : run.Visits registered document)
    {id : Url} {schema : Schema} (found : run.resource? document id = some schema) :
    ∃ registered, run.Visits registered schema.document := by
  unfold resource? at found
  rcases Option.or_eq_some_iff.mp (Option.orElse_eq_or.symm.trans found) with own | ⟨-, found⟩
  · obtain ⟨number, -, rfl⟩ := Option.map_eq_some_iff.mp own
    exact ⟨_, visits⟩
  rcases Option.or_eq_some_iff.mp (Option.orElse_eq_or.symm.trans found) with root | ⟨-, found⟩
  · obtain ⟨number, -, rfl⟩ := Option.map_eq_some_iff.mp root
    exact ⟨_, .root⟩
  · obtain ⟨locator, asked, answer⟩ := List.exists_of_findSome?_eq_some found
    exact ⟨_, .located asked answer⟩

/-- What is compiled on demand is a value that a pointer finds in a resource. -/
theorem exists_of_compilePointer {schema : Schema} {fragment : String} {memory : Memory} {target : Target}
    (compiles : ((run.compilePointer schema fragment).run memory).1 = some target) :
    ∃ (pointer : Pointer) (resource : Resource) (value : Json) (found : Schema), schema.info? = some resource ∧
      pointer.resolve? schema.value = some value ∧
        (Schema.compileFragment run.options resource value memory.dialects).1 = .ok found ∧
          target = ⟨found.document, found.rootIndex⟩ := by
  cases parsed : Pointer.parse fragment with
  | error cause =>
    rw [compilePointer, parsed] at compiles
    cases compiles
  | ok pointer =>
    cases info : schema.info? with
    | none =>
      rw [compilePointer, parsed, info] at compiles
      cases compiles
    | some resource =>
      cases resolved : pointer.resolve? schema.value with
      | none =>
        rw [compilePointer, parsed, info] at compiles
        dsimp only at compiles
        rw [resolved] at compiles
        cases compiles
      | some value =>
        rw [Schema.run_compilePointer info parsed resolved] at compiles
        obtain ⟨found, compiled, rfl⟩ := Option.map_eq_some_iff.mp compiles
        refine ⟨pointer, resource, value, found, rfl, resolved, ?_, rfl⟩
        cases result : (Schema.compileFragment run.options resource value memory.dialects).1 with
        | error cause =>
          rw [result] at compiled
          cases compiled
        | ok other =>
          rw [result] at compiled
          rw [Option.some.inj compiled]

theorem fragments_compilePointer (schema : Schema) (fragment : String) (memory : Memory) :
    ((run.compilePointer schema fragment).run memory).2.fragments = memory.fragments := by
  unfold compilePointer
  split
  · split <;> rfl
  · rfl

/-- What is compiled on demand is a document of the draft, if the value that the pointer finds compiles as one. -/
theorem isMade_of_compilePointer {registered : Bool} {schema : Schema} (made : schema.document.IsMade registered)
    {fragment : String} {memory : Memory} {target : Target}
    (compiles : ((run.compilePointer schema fragment).run memory).1 = some target)
    (under : ∀ (resource : Resource) (pointer : Pointer) (value : Json), schema.info? = some resource →
      pointer.resolve? schema.value = some value →
        (Schema.compileFragment run.options resource value memory.dialects).1.toOption.isSome = true →
          Schema.CompilesUnder Draft.dialect run.options resource.dialect resource.id false value memory.dialects) :
    target.document.IsMade false := by
  obtain ⟨whole, names, countable, unfolds⟩ := made.exists_unfolds
  obtain ⟨pointer, resource, value, found, info, resolved, compiled, rfl⟩ := exists_of_compilePointer compiles
  have part : value.values ⊆ whole.values := List.Subset.trans (Pointer.values_subset_of_resolve? resolved)
    (unfolds.reflects _ (unfolds.rootIndex_lt schema.resource)).inside
  have compilesUnder := under resource pointer value info resolved (by rw [compiled]; rfl)
  obtain ⟨document, assembly, same, -⟩ := Schema.exists_document_of_compilesUnder (names.mono part) compilesUnder
  obtain rfl : found = ⟨document, 0⟩ := Except.ok.inj (compiled.symm.trans same)
  exact ⟨_, _, _, value, _, names.mono part, countable.mono part, compilesUnder, same⟩

/-- Whether a target is a node of a document that the evaluation can come to. -/
structure Enters (run : Run) (target : Target) : Prop where
  visits : ∃ registered, run.Visits registered target.document
  inside : target.node < target.document.nodes.size

/-- Whether all that is remembered of references are nodes that the evaluation can come to. -/
def RemembersWithin (run : Run) (memory : Memory) : Prop := ∀ entry ∈ memory.fragments, ∀ found ∈ entry.2, run.Enters found

namespace IsDrafted

variable (drafted : run.IsDrafted)
include drafted

/-- All documents that the evaluation comes to are compiled under the draft. -/
theorem isMade {registered : Bool} {document : Document} (visits : run.Visits registered document) :
    document.IsMade registered := by
  induction visits with
  | root => exact drafted.root
  | located asked found => exact drafted.located _ asked _ _ found
  | @compiled registered schema fragment memory target visits compiles ih =>
    exact isMade_of_compilePointer ih compiles fun resource pointer value =>
      drafted.fragments registered schema resource pointer value memory.dialects visits

theorem enters_of_compilePointer {registered : Bool} {schema : Schema} (visits : run.Visits registered schema.document)
    {fragment : String} {memory : Memory} {target : Target}
    (compiles : ((run.compilePointer schema fragment).run memory).1 = some target) : run.Enters target := by
  have own : run.Visits false target.document := .compiled visits compiles
  refine ⟨⟨false, own⟩, ?_⟩
  obtain ⟨whole, -, -, unfolds⟩ := (drafted.isMade own).exists_unfolds
  obtain ⟨pointer, resource, value, found, -, -, -, rfl⟩ := exists_of_compilePointer compiles
  exact unfolds.rootIndex_lt found.resource

/-- A reference leads to a node that the evaluation can come to, and so does what is remembered of it. -/
theorem enters_resolve {registered : Bool} {document : Document} (visits : run.Visits registered document)
    (reference : Url) {memory : Memory} (remembers : run.RemembersWithin memory) :
    run.RemembersWithin ((run.resolve document reference).run memory).2 ∧
      ∀ found ∈ ((run.resolve document reference).run memory).1, run.Enters found := by
  have nowhere (result : Option Target × Memory) (none : result = (Option.none, memory)) :
      run.RemembersWithin result.2 ∧ ∀ found ∈ result.1, run.Enters found := by
    rw [none]
    refine ⟨remembers, fun found leads => ?_⟩
    cases leads
  cases located : run.resource? document reference.withoutFragment with
  | none =>
    apply nowhere
    rw [resolve, located]
    rfl
  | some schema =>
    obtain ⟨known, visitsOther⟩ := visits_of_resource? visits located
    cases named : schema.nodeOfFragment? reference.fragmentText .standardAndDynamic with
    | some node =>
      rw [resolve, located]
      dsimp only
      rw [named]
      refine ⟨remembers, fun found leads => ?_⟩
      obtain rfl := Option.some.inj leads
      obtain ⟨whole, -, -, unfolds⟩ := (drafted.isMade visitsOther).exists_unfolds
      exact ⟨⟨known, visitsOther⟩, unfolds.lt_of_nodeOfFragment? named⟩
    | none =>
      by_cases pointer : "/".isPrefixOf reference.fragmentText = true
      · rw [run_resolve_of_compilesOnDemand located ⟨pointer, named⟩]
        cases remembered : assoc? reference memory.fragments with
        | some before => exact ⟨remembers, remembers _ (mem_of_assoc? remembered)⟩
        | none =>
          have enters : ∀ found ∈ ((run.compilePointer schema reference.fragmentText).run memory).1, run.Enters found :=
            fun found compiles => drafted.enters_of_compilePointer visitsOther compiles
          refine ⟨fun entry member => ?_, enters⟩
          dsimp only at member
          rw [fragments_compilePointer] at member
          rcases List.mem_append.mp member with before | own
          · exact remembers entry before
          · rw [List.mem_singleton.mp own]
            exact enters
      · apply nowhere
        rw [resolve, located]
        dsimp only
        rw [named, if_neg pointer]
        rfl

/-- An evaluation under the draft stays in the documents that it can come to. -/
theorem confines : run.Confines run.Enters run.RemembersWithin where
  inside target enters child member := by
    obtain ⟨⟨registered, visits⟩, bound⟩ := enters
    obtain ⟨whole, -, -, unfolds⟩ := (drafted.isMade visits).exists_unfolds
    exact ⟨⟨registered, visits⟩, (unfolds.descends _ bound child member).2⟩
  leads target active memory enters within remembers rule member := by
    obtain ⟨⟨registered, visits⟩, -⟩ := enters
    cases rule with
    | ref url => exact drafted.enters_resolve visits url remembers
    | dynamicRef url anchor =>
      obtain ⟨remembersAfter, lexical⟩ := drafted.enters_resolve visits url remembers
      refine ⟨remembersAfter, fun found leads => ?_⟩
      obtain ⟨first, resolved, rfl⟩ := Option.map_eq_some_iff.mp leads
      have enters := lexical first resolved
      cases anchor with
      | none => exact enters
      | some name =>
        dsimp only
        split
        · cases outermost : dynamicTarget? active name with
          | none => exact enters
          | some declared =>
            obtain ⟨resource, activeResource, anchored⟩ := List.exists_of_findSome?_eq_some outermost
            obtain ⟨around, aroundEnters, rfl⟩ := within resource (List.mem_reverse.mp activeResource)
            obtain ⟨number, declares, rfl⟩ := Option.map_eq_some_iff.mp anchored
            obtain ⟨own, found, there⟩ := Option.bind_eq_some_iff.mp declares
            obtain ⟨known, visitsAround⟩ := aroundEnters.visits
            obtain ⟨whole, -, -, unfolds⟩ := (drafted.isMade visitsAround).exists_unfolds
            exact ⟨⟨known, visitsAround⟩, unfolds.dynamic _ own found name number there⟩
        · exact enters
    | _ =>
      refine ⟨remembers, fun found leads => ?_⟩
      cases leads

end IsDrafted

end Run

/-! ## What is reported on -/

/-- The value on which a part of a trace reports, and the application that it belongs to. The application of a
sub-schema reports on the sub-schema, and a rule on what the schema object around it has under the keyword. -/
inductive Trace.ReportsOn (trace : Trace) : Trace → Application → Json → Prop
  | application {part : Trace} {application : Application} (member : part ∈ trace.parts)
      (subject : part.subject = .application application) : ReportsOn trace part application application.node.value
  | rule {object part : Trace} {application : Application} {rule : Rule} {value : Json} (member : object ∈ trace.parts)
      (subject : object.subject = .application application) (child : part ∈ object.children)
      (carried : part.subject = .rule rule) (found : application.node.value.member? rule.keyword = some value) :
      ReportsOn trace part application value

theorem Trace.ReportsOn.of_mem_parts {trace inner part : Trace} {application : Application} {value : Json}
    (inside : inner ∈ trace.parts) (reports : inner.ReportsOn part application value) :
    trace.ReportsOn part application value := by
  cases reports with
  | application member subject => exact .application (parts_trans member inside) subject
  | rule member subject child carried found => exact .rule (parts_trans member inside) subject child carried found

theorem Trace.ReportsOn.exists_part {trace part : Trace} {application : Application} {value : Json}
    (reports : trace.ReportsOn part application value) :
    ∃ object ∈ trace.parts, object.subject = .application application := by
  cases reports with
  | application member subject => exact ⟨_, member, subject⟩
  | rule member subject => exact ⟨_, member, subject⟩

theorem Pointer.step?_of_member? {name : String} {value found : Json} (member : value.member? name = some found) :
    step? name value = some found := by
  cases value with
  | object members => exact member
  | _ => cases member

namespace Run

variable {run : Run} {path : Path} {application : Application} {applied : Applied}

theorem Yields.scope_trace (yields : run.Yields path application applied) :
    applied.trace.scope = path.scope run application := by
  cases yields <;> rfl

/-- Below an application stand the steps of its node. -/
theorem Yields.exists_step_of_mem_children (yields : run.Yields path application applied) {child : Trace}
    (member : child ∈ applied.trace.children) : ∃ before step, child = step.trace (path.scope run application) ∧
      step.rule ∈ application.node.rules ∧
        run.Performs (application.target.active :: path.active) application before step ∧
          ∀ result ∈ step.results, run.Yields (run.pathBelow path application step.rule) result.1 result.2 := by
  cases yields with
  | cutOff => exact absurd member List.not_mem_nil
  | boolean => exact absurd member List.not_mem_nil
  | @object _ _ rules steps shallow shape carried yields =>
    obtain ⟨step, inside, rfl⟩ := List.mem_map.mp member
    obtain ⟨before, after, -, performs⟩ := carried.performs_of_mem inside
    exact ⟨before, step, rfl, Node.applied_subset shape (carried.rule_mem inside), performs, yields step inside⟩

/-- Below an application stand rules of its node, in the scopes of their keywords. -/
theorem Yields.exists_rule_of_mem_children (yields : run.Yields path application applied) {child : Trace}
    (member : child ∈ applied.trace.children) : ∃ rule ∈ application.node.rules, child.subject = .rule rule ∧
      child.scope = (path.scope run application).keyword rule.keyword := by
  obtain ⟨before, step, rfl, inside, -⟩ := yields.exists_step_of_mem_children member
  exact ⟨step.rule, inside, step.subject_trace _, step.scope_trace _⟩

/-- Each part of what an application yields reports on something, if the keywords of its rules are found. -/
theorem Yields.exists_reportsOn (yields : run.Yields path application applied)
    (keywords : ∀ part ∈ applied.trace.parts, ∀ inner, part.subject = .application inner →
      ∀ rule ∈ inner.node.rules, (inner.node.value.member? rule.keyword).isSome) :
    ∀ part ∈ applied.trace.parts, ∃ inner value, applied.trace.ReportsOn part inner value := by
  induction yields with
  | @cutOff path application exhausted =>
    intro part member
    obtain rfl : part = _ := by simpa [Run.cutOff, Trace.parts] using member
    exact ⟨application, _, .application member rfl⟩
  | @boolean path application accepts shallow shape =>
    intro part member
    obtain rfl : part = _ := by simpa [Trace.parts, Trace.partsOf] using member
    exact ⟨application, _, .application member rfl⟩
  | @object path application rules steps shallow shape carried yields ih =>
    intro part member
    rcases Trace.mem_parts.mp member with rfl | ⟨child, childMember, below⟩
    · exact ⟨application, _, .application member rfl⟩
    · let object := application.traceOf (path.scope run application) steps
      have own : object ∈ object.parts := Trace.self_mem_parts _
      have children : object.children = steps.map (·.trace (path.scope run application)) := rfl
      obtain ⟨step, stepMember, rfl⟩ := List.mem_map.mp childMember
      obtain ⟨before, after, -, performs⟩ := carried.performs_of_mem stepMember
      rcases Trace.mem_parts.mp below with rfl | ⟨grandchild, grandchildMember, below⟩
      · have applies := Node.applied_subset shape (carried.rule_mem stepMember)
        obtain ⟨value, found⟩ := Option.isSome_iff_exists.mp (keywords _ own application rfl _ applies)
        exact ⟨application, value, .rule own rfl childMember (step.subject_trace _) found⟩
      · rw [performs.children_trace] at grandchildMember
        obtain ⟨result, resultMember, rfl⟩ := List.mem_map.mp grandchildMember
        have inside := carried.mem_parts children stepMember resultMember (Trace.self_mem_parts _)
        obtain ⟨inner, value, reports⟩ := ih step stepMember result resultMember
          (fun part member => keywords part (Trace.parts_trans member inside)) part below
        exact ⟨inner, value, reports.of_mem_parts inside⟩

/-- Whether the location of a scope leads to a value in the resource that a document finds by the base. -/
def Dereferences (run : Run) (document : Document) (scope : Scope) (value : Json) : Prop :=
  ∃ located, run.resource? document scope.base = some located ∧
    scope.schemaLocation.resolve? located.value = some value

/-- What is reported on stands at the location of the scope in the resource that holds the schema. -/
theorem IsDrafted.resolve?_of_reportsOn (drafted : run.IsDrafted) (yields : run.Yields path application applied)
    (stays : applied.trace.StaysIn run.Enters) {part : Trace} {inner : Application} {value : Json}
    (reports : applied.trace.ReportsOn part inner value) :
    let holder : Schema := ⟨inner.target.document, inner.node.resource⟩
    part.scope.base = holder.id ∧ part.scope.schemaLocation.resolve? holder.value = some value := by
  have placed {object : Trace} (member : object ∈ applied.trace.parts) (subject : object.subject = .application inner) :
      inner.node.location.resolve? (⟨inner.target.document, inner.node.resource⟩ : Schema).value =
        some inner.node.value := by
    obtain ⟨⟨registered, visits⟩, bound⟩ := stays object member inner subject
    obtain ⟨whole, names, countable, unfolds⟩ := (drafted.isMade visits).exists_unfolds
    exact unfolds.resolve?_location names countable bound
  cases reports with
  | application member subject =>
    obtain ⟨path, own, yields, rfl⟩ := yields.part member subject
    rw [yields.scope_trace]
    exact ⟨rfl, placed member subject⟩
  | @rule object part application rule value member subject child carried found =>
    obtain ⟨path, own, yields, rfl⟩ := yields.part member subject
    obtain ⟨other, -, same, scope⟩ := yields.exists_rule_of_mem_children child
    obtain rfl : rule = other := Subject.rule.inj (carried.symm.trans same)
    rw [scope]
    refine ⟨rfl, ?_⟩
    show (inner.node.location.push rule.keyword).resolve? _ = _
    rw [Pointer.resolve?_push, placed member subject]
    exact Pointer.step?_of_member? found

end Run

/-! ## Evaluations under the draft -/

theorem Schema.isMade_of_compile {options : Options} (only : options.KnowsOnlyDraft) {url : Url} {value : Json}
    {schema : Schema} (names : value.NamesOnce) (countable : value.IsCountable)
    (compiled : (compile options url value).toOption = some schema) : schema.document.IsMade true := by
  have succeeds := compileDocument_of_compile only compiled
  have under := compilesUnder_of_compileDocument only (Option.isSome_iff_exists.mpr ⟨schema, by rw [succeeds]; rfl⟩)
  obtain ⟨document, assembly, same, -⟩ := exists_document_of_compilesUnder names under
  obtain rfl : schema = ⟨document, 0⟩ := Except.ok.inj (succeeds.symm.trans same)
  exact ⟨options, Draft.dialect, url.withoutFragment, value, [], names, countable, under, same⟩

namespace Draft

theorem namesOnce_documents : ∀ value ∈ documents, value.NamesOnce ∧ value.IsCountable := by decide +kernel

/-- The documents of the draft are compiled under the draft. -/
theorem isMade_of_locate {id : Url} {schema : Schema} (found : locate id = some schema) :
    schema.document.IsMade true := by
  obtain ⟨other, member, same⟩ := List.mem_map.mp (mem_of_assoc? found)
  obtain rfl : other = schema := congrArg Prod.snd same
  obtain ⟨value, inside, compiles⟩ := List.mem_filterMap.mp member
  obtain ⟨text, -, compiles⟩ := Option.bind_eq_some_iff.mp compiles
  obtain ⟨names, countable⟩ := namesOnce_documents value inside
  cases read : Url.parse text with
  | error cause =>
    rw [read] at compiles
    cases compiles
  | ok url =>
    rw [read] at compiles
    exact Schema.isMade_of_compile Options.knowsOnlyDraft_standard names countable compiles

end Draft

namespace Schema

/-- What is compiled on demand in a document of the draft is compiled under the draft, if no other dialect is known. -/
theorem compilesUnder_of_compileFragment {options : Options} (only : options.KnowsOnlyDraft) {registered : Bool}
    {schema : Schema} (made : schema.document.IsMade registered) {resource : Resource}
    (info : schema.info? = some resource) {value : Json} {dialects : DialectCache}
    (succeeds : (compileFragment options resource value dialects).1.toOption.isSome = true) :
    CompilesUnder Draft.dialect options resource.dialect resource.id false value dialects := by
  obtain ⟨whole, -, -, unfolds⟩ := made.exists_unfolds
  have drafted := unfolds.drafted _ resource info
  rw [compileFragment, drafted] at succeeds
  rw [drafted]
  exact compilesUnder_of_compileDocument only succeeds

/-- An evaluation that knows only the draft is compiled under the draft wherever it comes to. -/
theorem isDrafted_run {options : Options} (only : options.KnowsOnlyDraft) {url : Url} {value : Json} {schema : Schema}
    (names : value.NamesOnce) (countable : value.IsCountable)
    (compiled : (compile options url value).toOption = some schema) : (Run.mk options schema).IsDrafted := by
  have root := isMade_of_compile only names countable compiled
  have located : ∀ locator ∈ (Run.mk options schema).locators, ∀ id found, locator id = some found →
      found.document.IsMade true := by
    intro locator asked id found answer
    obtain rfl : locator = Draft.locate := by
      unfold Run.locators at asked
      rw [only.schemas_eq, only.dialect_eq] at asked
      rcases List.mem_append.mp asked with home | fallback
      · obtain ⟨resource, info, rfl⟩ := Option.map_eq_some_iff.mp (Option.mem_toList.mp home)
        obtain ⟨whole, -, -, unfolds⟩ := root.exists_unfolds
        rw [unfolds.drafted _ resource info]
        rfl
      · exact List.mem_singleton.mp fallback
    exact Draft.isMade_of_locate answer
  have made {registered : Bool} {document : Document}
      (visits : (Run.mk options schema).Visits registered document) : document.IsMade registered := by
    induction visits with
    | root => exact root
    | located asked found => exact located _ asked _ _ found
    | compiled visits compiles ih =>
      exact Run.isMade_of_compilePointer ih compiles fun resource pointer value info resolved succeeds =>
        compilesUnder_of_compileFragment only ih info succeeds
  refine ⟨root, located, ?_⟩
  intro registered other resource pointer value dialects visits info resolved succeeds
  exact compilesUnder_of_compileFragment only (made visits) info succeeds

/-- Each place that a report tells to be elsewhere than the path of evaluation is the scope of a part of the trace that
reports on a sub-schema or a keyword. The location of the scope leads to it in the source of the resource that holds it,
and this is the resource that the evaluation finds by the base of the scope, unless it is the root of what was compiled
on demand. -/
theorem dereferences_trace (schema : Schema) (options : Options) (value : Json) (dialects : DialectCache)
    (drafted : (Run.mk options schema).IsDrafted) :
    let run := Run.mk options schema
    let trace := (schema.trace options value dialects).1
    (∀ format, ∀ place ∈ (schema.validate options format value dialects).1.places,
      place.absoluteLocation.isSome = true →
        ∃ part application found, trace.ReportsOn part application found ∧ place = .ofScope part.scope) ∧
      ∀ part application found, trace.ReportsOn part application found →
        let holder : Schema := ⟨application.target.document, application.node.resource⟩
        part.scope.base = holder.id ∧ part.scope.schemaLocation.resolve? holder.value = some found ∧
          ((application.node.resource = 0 → ¬ run.Visits false application.target.document) →
            run.Dereferences application.target.document part.scope found) := by
  intro run trace
  have yields := Run.yields_evaluate run value ⟨[], dialects⟩
  obtain ⟨whole, -, -, unfolds⟩ := drafted.root.exists_unfolds
  have start : run.Enters ⟨schema.document, schema.rootIndex⟩ :=
    ⟨⟨true, .root⟩, unfolds.rootIndex_lt schema.resource⟩
  have forgets : run.RemembersWithin ⟨[], dialects⟩ := fun entry member => absurd member List.not_mem_nil
  have stays : trace.StaysIn run.Enters := (drafted.confines.applyWithin options.maxDepth .root _ _ start
    (fun resource member => absurd member List.not_mem_nil) forgets).2
  constructor
  · intro format place member relocated
    obtain ⟨part, inside, same⟩ := exists_part_of_mem_places schema options value dialects format member relocated
    obtain ⟨application, found, reports⟩ := yields.exists_reportsOn (fun part member inner subject rule applied => by
      obtain ⟨⟨registered, visits⟩, bound⟩ := stays part member inner subject
      obtain ⟨whole, -, -, unfolds⟩ := (drafted.isMade visits).exists_unfolds
      exact (unfolds.reflects _ bound).keywords rule applied) part inside
    exact ⟨part, application, found, reports, same⟩
  · intro part application found reports holder
    obtain ⟨base, leads⟩ := drafted.resolve?_of_reportsOn yields stays reports
    refine ⟨base, leads, fun registers => ⟨holder, ?_, leads⟩⟩
    obtain ⟨object, member, subject⟩ := reports.exists_part
    obtain ⟨⟨registered, visits⟩, bound⟩ := stays object member application subject
    have made := drafted.isMade visits
    obtain ⟨whole, -, -, unfolds⟩ := made.exists_unfolds
    obtain ⟨resource, located, -⟩ := unfolds.placed _ bound
    have own (first : application.node.resource = 0) : registered = true := by
      refine Bool.of_not_eq_false fun excerpt => ?_
      rw [excerpt] at visits
      exact registers first visits
    have info : holder.info? = some resource := located
    have id : holder.id = resource.id := by
      rw [Schema.id, info]
      rfl
    rw [base, id, Run.resource?, made.find?_eq located own]
    rfl

/-- A reference leads to a schema with an id of its own inside a fragment that is compiled on demand. -/
theorem dereferences_trace_embedded :
    let source : Json := .object [("$ref", .string "#/x-s"), ("x-s", .object [("allOf", .array [
      .object [("$id", .string "k"), ("type", .string "string")]])])]
    source.NamesOnce ∧ source.IsCountable ∧
      ∃ schema, (compile .standard (Draft.url "example") source).toOption = some schema ∧
        let run := Run.mk .standard schema
        let trace := (schema.trace .standard (.ofNat 1) []).1
        run.IsDrafted ∧
          (∀ format, ∀ place ∈ (schema.validate .standard format (.ofNat 1) []).1.places,
            place.absoluteLocation.isSome = true →
              ∃ part application found, trace.ReportsOn part application found ∧ place = .ofScope part.scope) ∧
            ∀ part application found, trace.ReportsOn part application found →
              let holder : Schema := ⟨application.target.document, application.node.resource⟩
              part.scope.base = holder.id ∧ part.scope.schemaLocation.resolve? holder.value = some found ∧
                ((application.node.resource = 0 → ¬ run.Visits false application.target.document) →
                  run.Dereferences application.target.document part.scope found) := by
  intro source
  have names : source.NamesOnce := by decide
  have countable : source.IsCountable := by decide +kernel
  obtain ⟨schema, compiled⟩ : ∃ schema, (compile .standard (Draft.url "example") source).toOption = some schema :=
    Option.isSome_iff_exists.mp (by decide +kernel)
  have drafted := isDrafted_run Options.knowsOnlyDraft_standard names countable compiled
  exact ⟨names, countable, schema, compiled, drafted, dereferences_trace schema .standard (.ofNat 1) [] drafted⟩

/-- In the root resource of what was compiled on demand a location starts at the fragment, and leads nowhere in the
resource that is found by the base. -/
theorem locations_in_fragments_dangle :
    ∃ schema, (compile .standard (Draft.url "example") (.object [("$ref", .string "#/x-s"),
        ("x-s", .object [("type", .string "string")])])).toOption = some schema ∧
      (Run.mk .standard schema).IsDrafted ∧
      ∃ part application found, (schema.trace .standard (.ofNat 1) []).1.ReportsOn part application found ∧
        part.scope.absoluteLocation? = some "https://json-schema.org/draft/2020-12/example#/type" ∧
          ¬ (Run.mk .standard schema).Dereferences application.target.document part.scope found := by
  let source : Json := .object [("$ref", .string "#/x-s"), ("x-s", .object [("type", .string "string")])]
  let dangles (schema : Schema) (application : Application) (part : Trace) (rule : Rule) : Bool :=
    (application.node.value.member? rule.keyword).isSome &&
      part.scope.absoluteLocation? = some "https://json-schema.org/draft/2020-12/example#/type" &&
      ((Run.mk .standard schema).resource? application.target.document part.scope.base).all fun located =>
        (part.scope.schemaLocation.resolve? located.value).isNone
  let check (schema : Schema) : Bool :=
    (schema.trace .standard (.ofNat 1) []).1.parts.any fun object =>
      object.subject.application?.any fun application =>
        object.children.any fun part => part.subject.rule?.any fun rule => dangles schema application part rule
  have computed : (compile .standard (Draft.url "example") source).toOption.map check = some true := by
    decide +kernel
  obtain ⟨schema, compiled, checked⟩ := Option.map_eq_some_iff.mp computed
  have names : source.NamesOnce := by decide
  have countable : source.IsCountable := by decide +kernel
  refine ⟨schema, compiled, isDrafted_run Options.knowsOnlyDraft_standard names countable compiled, ?_⟩
  obtain ⟨object, member, checked⟩ := List.any_eq_true.mp checked
  obtain ⟨application, applied, checked⟩ := (Option.any_eq_true _ _).mp checked
  obtain ⟨part, child, checked⟩ := List.any_eq_true.mp checked
  obtain ⟨rule, carried, checked⟩ := (Option.any_eq_true _ _).mp checked
  simp only [dangles, Bool.and_eq_true, decide_eq_true_eq, Option.all_eq_true] at checked
  obtain ⟨⟨keyword, absolute⟩, nowhere⟩ := checked
  obtain ⟨found, present⟩ := Option.isSome_iff_exists.mp keyword
  refine ⟨part, application, found, .rule member ?_ child ?_ present, absolute, ?_⟩
  · exact Subject.eq_of_application? applied
  · exact Subject.eq_of_rule? carried
  · rintro ⟨located, asked, leads⟩
    have none := nowhere located asked
    rw [leads] at none
    cases none

end Schema

end JsonSchema
