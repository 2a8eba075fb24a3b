import JsonSchema.Proofs.Evaluation.Dereferenced

/-! # Locations of what was evaluated

The trace of an evaluation gives each sub-schema and rule a location in the instance and a path from the schema that the
evaluation started from. The location leads to the value that was evaluated, or to the member whose name was; and until
the path passes a reference it leads to the sub-schema or keyword that was applied (`Schema.resolves_trace`). Both
are extended by a plan: by the step to the value of an application and by the tokens of its sub-schema
(`Rule.Descends`).
-/

namespace JsonSchema

/-! ## Places in a trace -/

/-- What stands in a trace, place by place: the sub-schemas that are applied and the rules of a schema object, each with
the application that it belongs to. A place is `named` if a rule for names leads to it. -/
inductive Trace.Holds : Trace → Bool → Application → Trace → Prop
  | application {object : Trace} {application : Application} (subject : object.subject = .application application) :
      Holds object false application object
  | rule {object part : Trace} {application : Application} {rule : Rule}
      (subject : object.subject = .application application) (child : part ∈ object.children)
      (carried : part.subject = .rule rule) : Holds object false application part
  | descend {object part inner found : Trace} {named : Bool} {rule : Rule} {application : Application}
      (child : part ∈ object.children) (carried : part.subject = .rule rule) (grandchild : inner ∈ part.children)
      (holds : Holds inner named application found) : Holds object (rule.checksNames || named) application found

/-- The sub-schema or the value of the keyword that a part of a trace is about. -/
def Application.reported? (application : Application) : Subject → Option Json
  | .application _ => some application.node.value
  | .rule rule => application.node.value.member? rule.keyword

namespace Run

variable {run : Run} {path : Path} {application : Application} {applied : Applied}

/-- Each part of what an application yields has a place in its trace. -/
theorem Yields.exists_holds (yields : run.Yields path application applied) :
    ∀ part ∈ applied.trace.parts, ∃ named inner, applied.trace.Holds named inner part := by
  induction yields with
  | @cutOff path application exhausted =>
    intro part member
    obtain rfl : part = _ := by simpa [Run.cutOff, Trace.parts] using member
    exact ⟨false, application, .application rfl⟩
  | @boolean path application accepts shallow shape =>
    intro part member
    obtain rfl : part = _ := by simpa [Trace.parts, Trace.partsOf] using member
    exact ⟨false, application, .application rfl⟩
  | @object path application rules steps shallow shape carried yields ih =>
    intro part member
    rcases Trace.mem_parts.mp member with rfl | ⟨child, childMember, below⟩
    · exact ⟨false, application, .application rfl⟩
    · obtain ⟨step, stepMember, rfl⟩ := List.mem_map.mp childMember
      obtain ⟨before, after, -, performs⟩ := carried.performs_of_mem stepMember
      rcases Trace.mem_parts.mp below with rfl | ⟨grandchild, grandchildMember, below⟩
      · exact ⟨false, application, .rule rfl childMember (step.subject_trace _)⟩
      · have inside := grandchildMember
        rw [performs.children_trace] at inside
        obtain ⟨result, resultMember, rfl⟩ := List.mem_map.mp inside
        obtain ⟨named, inner, holds⟩ := ih step stepMember result resultMember part below
        exact ⟨_, inner, .descend childMember (step.subject_trace _) grandchildMember holds⟩

end Run

/-! ## What plans extend the locations by -/

/-- How an application that a rule plans lies below the instance and the node of the rule. A value that is not the
instance itself is found by the step, unless the step finds the member of a name. A sub-schema is found by the token,
unless the rule is a reference. -/
structure Rule.Descends (rule : Rule) (facts : Facts) (value : Json) (application : Application) : Prop where
  stays : application.step = none → application.value = value
  moves : ∀ step, application.step = some step → ∃ found, Pointer.step? step value = some found ∧
    (rule.checksNames = false → found = application.value)
  names : rule.checksNames = true → application.step.isSome = true ∧ ∃ name, application.value = .string name
  branches : rule.keyword = StandardKeyword.ref.name ∨ rule.keyword = StandardKeyword.dynamicRef.name ∨
    application.target.document = facts.document ∧ (application.token.toList, application.target.node) ∈ rule.twigs

namespace Rule.Descends

variable {rule : Rule} {facts : Facts} {value : Json} {node : Nat} {token : Option String}

theorem inPlace {application : Application} (step : application.step = none) (same : application.value = value)
    (other : rule.checksNames = false)
    (branches : rule.keyword = StandardKeyword.ref.name ∨ rule.keyword = StandardKeyword.dynamicRef.name ∨
      application.target.document = facts.document ∧
        (application.token.toList, application.target.node) ∈ rule.twigs) :
    rule.Descends facts value application where
  stays _ := same
  moves token moved := by
    rw [step] at moved
    cases moved
  names checks := absurd (other.symm.trans checks) Bool.false_ne_true
  branches := branches

theorem inside {step : String} {found : Json} (leads : Pointer.step? step value = some found)
    (other : rule.checksNames = false) (twig : (token.toList, node) ∈ rule.twigs) :
    rule.Descends facts value (facts.apply node found (some step) token) where
  stays moved := absurd moved (Option.some_ne_none step)
  moves token moved := by
    obtain rfl := Option.some.inj moved
    exact ⟨found, leads, fun _ => rfl⟩
  names checks := absurd (other.symm.trans checks) Bool.false_ne_true
  branches := .inr (.inr ⟨rfl, twig⟩)

theorem name {text : String} {found : Json} (leads : Pointer.step? text value = some found)
    (checks : rule.checksNames = true) (twig : ([], node) ∈ rule.twigs) :
    rule.Descends facts value (facts.applyIsolated node (.string text) (some text)) where
  stays moved := absurd moved (Option.some_ne_none text)
  moves step moved := by
    obtain rfl := Option.some.inj moved
    exact ⟨found, leads, fun other => absurd (other.symm.trans checks) Bool.false_ne_true⟩
  names _ := ⟨rfl, text, rfl⟩
  branches := .inr (.inr ⟨rfl, twig⟩)

variable {items : List Json} {members : List (String × Json)}

theorem item (fits : (Json.array items).FitsWord) {entry : Json × Nat} (member : entry ∈ items.zipIdx)
    (other : rule.checksNames = false) (twig : (token.toList, node) ∈ rule.twigs) :
    rule.Descends facts (.array items) (facts.applyToItem node entry token) :=
  inside (Pointer.step?_toString fits (List.mem_zipIdx_iff_getElem?.mp member)) other twig

theorem member (names : (Json.object members).HasDistinctNames) {entry : String × Json} (member : entry ∈ members)
    (other : rule.checksNames = false) (twig : (token.toList, node) ∈ rule.twigs) :
    rule.Descends facts (.object members) (facts.applyToMember node entry token) :=
  inside (assoc?_of_mem names member) other twig

end Rule.Descends

/-- What a rule plans descends, unless it is the content of a string. -/
theorem Rule.descends_of_mem_plan {rule : Rule} {facts : Facts} {target : Option Target} {value : Json}
    {application : Application} (names : value.HasDistinctNames) (fits : value.FitsWord)
    (ignores : facts.options.assertContent = false)
    (member : application ∈ (rule.plan facts target value).applications) : rule.Descends facts value application := by
  cases applies_of_mem_plan member with
  | reference refers leads =>
    cases rule with
    | ref url | dynamicRef url anchor => exact .inPlace rfl rfl rfl (by simp [keyword, standard?])
    | _ => cases refers
  | inPlace applies twig => exact .inPlace rfl rfl (checksNames_of_isInPlace applies) (.inr (.inr ⟨rfl, twig⟩))
  | negation negates =>
    subst negates
    exact .inPlace rfl rfl rfl (.inr (.inr ⟨rfl, List.mem_singleton_self _⟩))
  | item _ values inside twig => exact .item fits inside values twig
  | member _ values inside twig => exact .member names inside values twig
  | name checks inside =>
    subst checks
    exact .name (assoc?_of_mem names inside) rfl (List.mem_singleton_self _)
  | content _ asserted => exact absurd (ignores.symm.trans asserted) Bool.false_ne_true

/-! ## The locations in a trace -/

namespace Run

/-- How the scope of an application follows an instance and the schema that the evaluation started from. -/
structure Follows (run : Run) (value : Json) (named : Bool) (scope : Scope) (application : Application) : Prop where
  finds : ∃ found, scope.instanceLocation.resolve? value = some found ∧ (named = false → found = application.value)
  names : named = true → ∃ name, application.value = .string name
  leads : scope.relocated = false → application.target.document = run.root.document ∧
    run.root.document.Leads run.root.rootIndex scope.keywordLocation.tokens application.target.node

variable {run : Run} {path : Path} {application : Application} {value : Json} {named : Bool}

theorem follows_root (run : Run) (value : Json) :
    let application : Application := .inPlace ⟨run.root.document, run.root.rootIndex⟩ value none
    run.Follows value false (Path.root.scope run application) application where
  finds := ⟨value, rfl, fun _ => rfl⟩
  names named := nomatch named
  leads _ := ⟨rfl, .self _⟩

namespace Follows

variable (follows : run.Follows value named (path.scope run application) application)
include follows

/-- A value that is evaluated is a part of the instance or the name of a member. -/
theorem wellFormed (names : value.NamesOnce) (countable : value.IsCountable) :
    application.value.HasDistinctNames ∧ application.value.FitsWord := by
  cases named with
  | true =>
    obtain ⟨name, same⟩ := follows.names rfl
    rw [same]
    exact ⟨trivial, trivial⟩
  | false =>
    obtain ⟨found, resolves, same⟩ := follows.finds
    obtain rfl := same rfl
    have inside := Pointer.values_subset_of_resolve? resolves (Json.self_mem_values _)
    exact ⟨names _ inside, countable _ inside⟩

variable {rule : Rule} {facts : Facts} {inner : Application} (descends : rule.Descends facts application.value inner)
include descends

/-- A name has no parts. -/
theorem step_eq_none (isName : named = true) : inner.step = none := by
  obtain ⟨name, same⟩ := follows.names isName
  cases moved : inner.step with
  | none => rfl
  | some step =>
    obtain ⟨found, leads, -⟩ := descends.moves step moved
    rw [same] at leads
    cases leads

theorem finds_descend : ∃ found,
    ((run.pathBelow path application rule).scope run inner).instanceLocation.resolve? value = some found ∧
      ((rule.checksNames || named) = false → found = inner.value) := by
  have location : ((run.pathBelow path application rule).scope run inner).instanceLocation =
      (path.scope run application).instanceLocation.append inner.step.toList := rfl
  obtain ⟨found, resolves, same⟩ := follows.finds
  rw [location]
  cases moved : inner.step with
  | none =>
    rw [Option.toList_none, Pointer.append_nil, descends.stays moved]
    exact ⟨found, resolves, fun outside => same (Bool.or_eq_false_iff.mp outside).2⟩
  | some step =>
    obtain ⟨next, leads, reached⟩ := descends.moves step moved
    have unnamed : named = false := Bool.of_not_eq_true fun isName => by
      rw [follows.step_eq_none descends isName] at moved
      cases moved
    refine ⟨next, ?_, fun outside => reached (Bool.or_eq_false_iff.mp outside).1⟩
    exact (Pointer.resolve?_push _ step value).trans (by rw [resolves, same unnamed, Option.bind_some, leads])

theorem names_descend (isName : (rule.checksNames || named) = true) : ∃ name, inner.value = .string name := by
  rcases Bool.or_eq_true_iff.mp isName with checks | isName
  · exact (descends.names checks).2
  · rw [descends.stays (follows.step_eq_none descends isName)]
    exact follows.names isName

variable (ruled : rule ∈ application.node.rules) (own : facts.document = application.target.document)
include ruled own

theorem leads_descend (here : ((run.pathBelow path application rule).scope run inner).relocated = false) :
    inner.target.document = run.root.document ∧ run.root.document.Leads run.root.rootIndex
      ((run.pathBelow path application rule).scope run inner).keywordLocation.tokens inner.target.node := by
  have location : ((run.pathBelow path application rule).scope run inner).keywordLocation.tokens =
      (path.scope run application).keywordLocation.tokens ++ ([rule.keyword] ++ inner.token.toList) :=
    List.append_assoc _ _ _
  have within := (Bool.or_eq_false_iff.mp here).1
  change ((path.scope run application).relocated || rule.keyword == StandardKeyword.ref.name ||
    rule.keyword == StandardKeyword.dynamicRef.name) = false at within
  simp only [Bool.or_eq_false_iff, beq_eq_false_iff_ne] at within
  obtain ⟨⟨around, notRef⟩, notDynamicRef⟩ := within
  obtain ⟨home, leads⟩ := follows.leads around
  rcases descends.branches with ref | dynamicRef | ⟨same, twig⟩
  · exact absurd ref notRef
  · exact absurd dynamicRef notDynamicRef
  · refine ⟨same.trans (own.trans home), ?_⟩
    have slot : (rule.keyword :: inner.token.toList, inner.target.node) ∈ application.node.slots :=
      List.mem_flatMap.mpr ⟨rule, ruled, List.mem_map_of_mem twig⟩
    rw [Application.node, home] at slot
    rw [location]
    exact leads.snoc slot

/-- What a rule applies follows the instance and the schema if the schema object of the rule does. -/
theorem descend : run.Follows value (rule.checksNames || named)
    ((run.pathBelow path application rule).scope run inner) inner where
  finds := follows.finds_descend descends
  names := follows.names_descend descends
  leads := follows.leads_descend descends ruled own

end Follows

variable {applied : Applied}

/-- Where a derivation follows the instance and the schema, so does all that stands in its trace. -/
theorem Yields.follows_of_holds (yields : run.Yields path application applied)
    (ignores : run.options.assertContent = false) (names : value.NamesOnce) (countable : value.IsCountable)
    (follows : run.Follows value named (path.scope run application) application) {below : Bool} {inner : Application}
    {part : Trace} (holds : applied.trace.Holds below inner part) :
    ∃ path : Path, run.Follows value (below || named) (path.scope run inner) inner ∧
      (part.subject = .application inner ∧ part.scope = path.scope run inner ∨
        ∃ rule ∈ inner.node.rules, part.subject = .rule rule ∧
          part.scope = (path.scope run inner).keyword rule.keyword) := by
  generalize whole : applied.trace = object at holds
  induction holds generalizing path application applied named with
  | @application object inner subject =>
    obtain rfl := whole
    obtain rfl : application = inner := Subject.application.inj (yields.subject_trace.symm.trans subject)
    exact ⟨path, follows, .inl ⟨subject, yields.scope_trace⟩⟩
  | @rule object part inner rule subject child carried =>
    obtain rfl := whole
    obtain rfl : application = inner := Subject.application.inj (yields.subject_trace.symm.trans subject)
    obtain ⟨other, ruled, same, scope⟩ := yields.exists_rule_of_mem_children child
    exact ⟨path, follows, .inr ⟨other, ruled, same, scope⟩⟩
  | @descend object part next found below rule inner child carried grandchild holds ih =>
    obtain rfl := whole
    obtain ⟨before, step, rfl, ruled, performs, yieldsBelow⟩ := yields.exists_step_of_mem_children child
    obtain rfl : step.rule = rule := Subject.rule.inj ((step.subject_trace _).symm.trans carried)
    rw [performs.children_trace] at grandchild
    obtain ⟨result, member, rfl⟩ := List.mem_map.mp grandchild
    have planned : result.1 ∈ (step.rule.plan step.facts step.target application.value).applications := by
      rw [← performs.value_eq]
      exact performs.applications_eq ▸ List.mem_map_of_mem member
    obtain ⟨distinct, fits⟩ := follows.wellFormed names countable
    have descends := Rule.descends_of_mem_plan distinct fits (by rw [performs.facts_eq]; exact ignores) planned
    have goesOn := follows.descend descends ruled (by rw [performs.facts_eq])
    obtain ⟨place, further, about⟩ := ih (yieldsBelow result member) goesOn rfl
    refine ⟨place, ?_, about⟩
    rwa [Bool.or_left_comm, ← Bool.or_assoc] at further

end Run

/-- Until a reference is passed the path leads to the node that is applied, whose rules have their keywords there. -/
theorem Run.Follows.resolve?_value {run : Run} {path : Path} {application : Application} {value : Json} {named : Bool}
    (follows : run.Follows value named (path.scope run application) application) {registered : Bool}
    (made : run.root.document.IsMade registered) (here : (path.scope run application).relocated = false) :
    (path.scope run application).keywordLocation.resolve? run.root.value = some application.node.value ∧
      ∀ rule ∈ application.node.rules, (application.node.value.member? rule.keyword).isSome = true := by
  obtain ⟨home, leads⟩ := follows.leads here
  obtain ⟨whole, names, countable, unfolds⟩ := made.exists_unfolds
  have bound := unfolds.rootIndex_lt run.root.resource
  rw [Application.node, home]
  exact ⟨leads.follow? unfolds.descends unfolds.reflects names countable bound,
    (unfolds.reflects _ (leads.lt_size unfolds.descends bound)).keywords⟩

namespace Schema

/-- Every result of a verbose report is about what stands somewhere in the trace. Wherever something stands, its
location in the instance leads to a value, which is the one that is evaluated unless a rule for names leads there. Where
no absolute location is told, the path leads to the sub-schema or keyword in the source of the schema that the
evaluation started from. -/
theorem resolves_trace (schema : Schema) (options : Options) (value : Json) (dialects : DialectCache)
    {registered : Bool} (made : schema.document.IsMade registered) (ignores : options.assertContent = false)
    (names : value.NamesOnce) (countable : value.IsCountable) :
    let trace := (schema.trace options value dialects).1
    (∀ place ∈ (schema.validate options .verbose value dialects).1.places,
      ∃ named application part, trace.Holds named application part ∧ place = .ofScope part.scope) ∧
      ∀ named application part, trace.Holds named application part →
        let place := ResultPlace.ofScope part.scope
        (∃ found, place.instanceLocation.resolve? value = some found ∧ (named = false → found = application.value)) ∧
          (place.absoluteLocation = none → ∃ reported, application.reported? part.subject = some reported ∧
            place.keywordLocation.resolve? schema.value = some reported) := by
  intro trace
  have yields := Run.yields_evaluate ⟨options, schema⟩ value ⟨[], dialects⟩
  constructor
  · intro place member
    rw [validate_verbose] at member
    obtain ⟨node, inside, rfl⟩ := List.mem_map.mp member
    obtain ⟨part, partMember, rfl⟩ := Trace.mem_nodes_results _ inside
    obtain ⟨named, application, holds⟩ := yields.exists_holds part partMember
    refine ⟨named, application, part, holds, ?_⟩
    rw [Trace.result_results]
    rfl
  · intro named application part holds
    obtain ⟨path, follows, about⟩ :=
      yields.follows_of_holds ignores names countable (Run.follows_root ⟨options, schema⟩ value) holds
    rw [Bool.or_false] at follows
    have unmoved {scope : Scope} (silent : (ResultPlace.ofScope scope).absoluteLocation = none) :
        scope.relocated = false := Bool.of_not_eq_true fun relocated => by
      change scope.absoluteLocation? = none at silent
      rw [Scope.absoluteLocation?, if_pos relocated] at silent
      cases silent
    rcases about with ⟨subject, scope⟩ | ⟨rule, ruled, subject, scope⟩
    · rw [scope, subject]
      exact ⟨follows.finds, fun silent => ⟨_, rfl, (follows.resolve?_value made (unmoved silent)).1⟩⟩
    · rw [scope, subject]
      refine ⟨follows.finds, fun silent => ?_⟩
      have around := (Bool.or_eq_false_iff.mp (Bool.or_eq_false_iff.mp (unmoved silent)).1).1
      obtain ⟨leads, keywords⟩ := follows.resolve?_value made around
      obtain ⟨found, member⟩ := Option.isSome_iff_exists.mp (keywords rule ruled)
      refine ⟨found, member, ?_⟩
      show (Pointer.push _ rule.keyword).resolve? _ = _
      rw [Pointer.resolve?_push, leads]
      exact Pointer.step?_of_member? member

/-- Names, members and items of an instance are evaluated beside a reference. -/
theorem resolves_trace_applicators :
    let source : Json := .object [("$ref", .string "#/$defs/a"), ("$defs", .object [("a", .object
      [("minProperties", .ofNat 1)])]), ("propertyNames", .object [("maxLength", .ofNat 3)]), ("properties", .object
        [("b", .object [("prefixItems", .array [.object [("type", .string "string")]])])])]
    let value : Json := .object [("b", .array [.ofNat 1])]
    source.NamesOnce ∧ source.IsCountable ∧ value.NamesOnce ∧ value.IsCountable ∧
      ∃ schema, (compile .standard (Draft.url "example") source).toOption = some schema ∧
        schema.document.IsMade true ∧ Options.standard.assertContent = false ∧
          let trace := (schema.trace .standard value []).1
          (∀ place ∈ (schema.validate .standard .verbose value []).1.places,
            ∃ named application part, trace.Holds named application part ∧ place = .ofScope part.scope) ∧
            ∀ named application part, trace.Holds named application part →
              let place := ResultPlace.ofScope part.scope
              (∃ found, place.instanceLocation.resolve? value = some found ∧
                (named = false → found = application.value)) ∧
                (place.absoluteLocation = none → ∃ reported, application.reported? part.subject = some reported ∧
                  place.keywordLocation.resolve? schema.value = some reported) := by
  intro source value
  have names : source.NamesOnce := by decide
  have countable : source.IsCountable := by decide +kernel
  have namesValue : value.NamesOnce := by decide
  have countableValue : value.IsCountable := by decide +kernel
  obtain ⟨schema, compiled⟩ : ∃ schema, (compile .standard (Draft.url "example") source).toOption = some schema :=
    Option.isSome_iff_exists.mp (by decide +kernel)
  have made := isMade_of_compile Options.knowsOnlyDraft_standard names countable compiled
  exact ⟨names, countable, namesValue, countableValue, schema, compiled, made, rfl,
    resolves_trace schema .standard value [] made rfl namesValue countableValue⟩

end Schema

end JsonSchema
