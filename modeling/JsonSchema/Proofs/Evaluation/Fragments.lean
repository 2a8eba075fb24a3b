import JsonSchema.Proofs.Compile.Dialects
import JsonSchema.Proofs.Evaluation.Afresh
import JsonSchema.Proofs.Evaluation.Closed

/-! # Fragments compiled on demand

An evaluation remembers what it compiled for a reference by the reference alone, though what the reference leads to
depends on the document that refers. As long as all documents within reach that mention a reference find the same
source under its id (`Run.IsUnambiguous`), what is remembered is what would be compiled anew: every lookup, and with it
the evaluation, is the one without memory (`Schema.lookups_forget`). A document that declares an id which another one
declares too breaks this (`Schema.lookups_remember_foreign_resource`).
-/

namespace JsonSchema

/-- The reference of a rule that has one. -/
def Rule.reference? : Rule → Option Url
  | .ref url => some url
  | .dynamicRef url _ => some url
  | _ => none

/-- All references in a document. -/
def Document.references (document : Document) : List Url :=
  document.nodes.toList.flatMap fun node => node.rules.filterMap (·.reference?)

theorem Document.mem_references {document : Document} {index : Nat} {rule : Rule}
    (member : rule ∈ (document.node index).rules) {reference : Url} (refers : rule.reference? = some reference) :
    reference ∈ document.references := by
  rcases document.node_mem_or_beyond index with inside | beyond
  · exact List.mem_flatMap.mpr
      ⟨_, Array.mem_toList_iff.mpr inside, List.mem_filterMap.mpr ⟨rule, member, refers⟩⟩
  · rw [beyond] at member
    exact absurd member List.not_mem_nil

/-- Whether two resources were compiled from the same value, under the same id and in the same dialect. -/
structure Schema.SameSource (first second : Schema) : Prop where
  value_eq : first.value = second.value
  origin_eq : first.info?.map (fun info => (info.id, info.dialect)) =
    second.info?.map fun info => (info.id, info.dialect)

/-- Whether a fragment is a pointer to what is no node of the resource. -/
structure Schema.CompilesOnDemand (schema : Schema) (fragment : String) : Prop where
  pointer : "/".isPrefixOf fragment = true
  unknown : schema.nodeOfFragment? fragment .standardAndDynamic = none

namespace Run

variable (run : Run) (dialects : DialectCache)

/-- Where a reference leads for who remembers no fragment. -/
def resolveAfresh (document : Document) (reference : Url) : Option Target :=
  ((run.resolve document reference).run ⟨[], dialects⟩).1

/-- Where a rule leads for who remembers no fragment. -/
def targetAfresh : Lookup := fun document active rule => ((run.target document active rule).run ⟨[], dialects⟩).1

/-- The documents that an evaluation can come to, reference by reference. -/
inductive Reaches : Document → Prop
  | root : Reaches run.root.document
  | resolve {document : Document} {reference : Url} {found : Target} (reaches : Reaches document)
      (mentioned : reference ∈ document.references) (leads : run.resolveAfresh dialects document reference = some found) :
      Reaches found.document

/-- What an evaluation can remember, lookup by lookup and in any order. -/
inductive Recalls : Memory → Prop
  | start : Recalls ⟨[], dialects⟩
  | resolve {memory : Memory} {document : Document} {reference : Url} (recalls : Recalls memory)
      (reaches : run.Reaches dialects document) (mentioned : reference ∈ document.references) :
      Recalls ((run.resolve document reference).run memory).2

/-- Whether all documents within reach that mention a reference find the same source for it, if it is one that has to
be compiled on demand. -/
def IsUnambiguous : Prop :=
  ∀ first second reference, run.Reaches dialects first → run.Reaches dialects second →
    reference ∈ first.references → reference ∈ second.references →
      ∀ schema other, run.resource? first reference.withoutFragment = some schema →
        run.resource? second reference.withoutFragment = some other →
          schema.CompilesOnDemand reference.fragmentText → other.CompilesOnDemand reference.fragmentText →
            schema.SameSource other

variable {run dialects}

/-- What a pointer is compiled to depends on the source alone. -/
theorem compilePointer_of_sameSource {answers : Url → Option Dialect} {first second : Schema}
    (same : first.SameSource second) (fragment : String) {memory other : Memory}
    (knows : run.options.Knows answers memory.dialects) (knowsOther : run.options.Knows answers other.dialects) :
    let result := (run.compilePointer first fragment).run memory
    result.1 = ((run.compilePointer second fragment).run other).1 ∧ run.options.Knows answers result.2.dialects ∧
      result.2.fragments = memory.fragments := by
  unfold compilePointer
  rw [← same.value_eq]
  have origin := same.origin_eq
  cases Pointer.parse fragment with
  | error cause => exact ⟨rfl, knows, rfl⟩
  | ok pointer =>
    cases infoFirst : first.info? with
    | none =>
      rw [infoFirst, Option.map_none, eq_comm, Option.map_eq_none_iff] at origin
      rw [origin]
      exact ⟨rfl, knows, rfl⟩
    | some info =>
      rw [infoFirst, Option.map_some, eq_comm, Option.map_eq_some_iff] at origin
      obtain ⟨infoSecond, named, alike⟩ := origin
      obtain ⟨id, dialect⟩ := Prod.mk.inj alike
      rw [named]
      dsimp only
      cases pointer.resolve? first.value with
      | none => exact ⟨rfl, knows, rfl⟩
      | some value =>
        obtain ⟨compiled, knowsAfter⟩ :=
          @Schema.compileDocument_of_knows _ _ info.dialect info.id false value _ _ knows knowsOther
        refine ⟨?_, knowsAfter, rfl⟩
        show Option.map _ (Schema.compileFragment _ _ _ _).1.toOption =
          Option.map _ (Schema.compileFragment _ _ _ _).1.toOption
        unfold Schema.compileFragment
        rw [compiled, id, dialect]

theorem run_resolve_of_compilesOnDemand {document : Document} {reference : Url} {schema : Schema}
    (found : run.resource? document reference.withoutFragment = some schema)
    (onDemand : schema.CompilesOnDemand reference.fragmentText) (memory : Memory) :
    (run.resolve document reference).run memory =
      match assoc? reference memory.fragments with
      | some known => (known, memory)
      | none =>
        let result := (run.compilePointer schema reference.fragmentText).run memory
        (result.1, { result.2 with fragments := result.2.fragments ++ [(reference, result.1)] }) := by
  unfold resolve
  rw [found]
  dsimp only
  rw [onDemand.unknown, if_pos onDemand.pointer]
  rw [Evaluation.run_bind, Evaluation.run_get]
  cases known : assoc? reference memory.fragments <;> rfl

/-- A lookup for which nothing is compiled on demand takes nothing from the memory and adds nothing to it. -/
theorem run_resolve_of_not_compilesOnDemand {document : Document} {reference : Url}
    (compiled : ∀ schema, run.resource? document reference.withoutFragment = some schema →
      ¬ schema.CompilesOnDemand reference.fragmentText) :
    ∃ found, ∀ memory, (run.resolve document reference).run memory = (found, memory) := by
  unfold resolve
  cases found : run.resource? document reference.withoutFragment with
  | none => exact ⟨none, fun _ => rfl⟩
  | some schema =>
    dsimp only
    cases named : schema.nodeOfFragment? reference.fragmentText .standardAndDynamic with
    | some node => exact ⟨_, fun _ => rfl⟩
    | none =>
      have noPointer : ¬ "/".isPrefixOf reference.fragmentText = true :=
        fun pointer => compiled schema found ⟨pointer, named⟩
      dsimp only
      rw [if_neg noPointer]
      exact ⟨none, fun _ => rfl⟩

/-- Whether everything in a memory is what would be found anew. -/
structure Coherent (run : Run) (dialects : DialectCache) (memory : Memory) : Prop where
  knows : run.options.Knows (run.options.answers dialects) memory.dialects
  fragments : ∀ document reference schema known, run.Reaches dialects document → reference ∈ document.references →
    run.resource? document reference.withoutFragment = some schema → schema.CompilesOnDemand reference.fragmentText →
      assoc? reference memory.fragments = some known → known = run.resolveAfresh dialects document reference

theorem coherent_start (run : Run) (dialects : DialectCache) : run.Coherent dialects ⟨[], dialects⟩ := by
  refine ⟨run.options.knows_answers dialects, ?_⟩
  intro document reference schema known reaches mentioned found onDemand remembered
  simp [assoc?] at remembered

/-- With a coherent memory a lookup finds what it would find anew, and leaves the memory coherent. -/
theorem Coherent.run_resolve (unambiguous : run.IsUnambiguous dialects) {memory : Memory}
    (coherent : run.Coherent dialects memory) {document : Document} (reaches : run.Reaches dialects document)
    {reference : Url} (mentioned : reference ∈ document.references) :
    let result := (run.resolve document reference).run memory
    result.1 = run.resolveAfresh dialects document reference ∧ run.Coherent dialects result.2 := by
  by_cases compiled : ∀ schema, run.resource? document reference.withoutFragment = some schema →
      ¬ schema.CompilesOnDemand reference.fragmentText
  · obtain ⟨found, same⟩ := run_resolve_of_not_compilesOnDemand compiled
    rw [resolveAfresh, same, same]
    exact ⟨rfl, coherent⟩
  · push Not at compiled
    obtain ⟨schema, found, onDemand⟩ := compiled
    rw [run_resolve_of_compilesOnDemand found onDemand]
    cases remembered : assoc? reference memory.fragments with
    | some known => exact ⟨coherent.fragments _ _ _ _ reaches mentioned found onDemand remembered, coherent⟩
    | none =>
      have afresh {other : Document} {source : Schema} (found : run.resource? other reference.withoutFragment = some source)
          (onDemand : source.CompilesOnDemand reference.fragmentText) (same : schema.SameSource source) :
          ((run.compilePointer schema reference.fragmentText).run memory).1 =
            run.resolveAfresh dialects other reference := by
        rw [resolveAfresh, run_resolve_of_compilesOnDemand found onDemand]
        exact (compilePointer_of_sameSource same _ coherent.knows (run.options.knows_answers dialects)).1
      have same : schema.SameSource schema := ⟨rfl, rfl⟩
      obtain ⟨-, knows, kept⟩ := compilePointer_of_sameSource same reference.fragmentText coherent.knows coherent.knows
      refine ⟨afresh found onDemand same, knows, ?_⟩
      intro other asked source known reachesOther mentionedOther foundOther onDemandOther inside
      dsimp only at inside
      rw [kept, assoc?_append, Option.or_eq_some_iff] at inside
      rcases inside with before | ⟨-, added⟩
      · exact coherent.fragments other asked source known reachesOther mentionedOther foundOther onDemandOther before
      · simp only [assoc?] at added
        split at added
        · next named =>
          subst named
          rw [← Option.some.inj added]
          exact afresh foundOther onDemandOther (unambiguous _ _ _ reaches reachesOther mentioned mentionedOther _ _
            found foundOther onDemand onDemandOther)
        · cases added

/-- Everything that an evaluation can remember is what it would find anew. -/
theorem Recalls.coherent (unambiguous : run.IsUnambiguous dialects) {memory : Memory}
    (recalls : run.Recalls dialects memory) : run.Coherent dialects memory := by
  induction recalls with
  | start => exact coherent_start run dialects
  | resolve recalls reaches mentioned ih => exact (ih.run_resolve unambiguous reaches mentioned).2

/-- Where a dynamic reference leads is decided by where the reference leads and by the active resources. -/
theorem leadsBy_targetAfresh (unambiguous : run.IsUnambiguous dialects) :
    run.LeadsBy (run.targetAfresh dialects) (run.Reaches dialects) (run.Recalls dialects) where
  target_eq document index active memory rule member reaches recalls := by
    have lookup (reference : Url) (refers : rule.reference? = some reference) :
        ((run.resolve document reference).run memory).1 = run.resolveAfresh dialects document reference :=
      ((recalls.coherent unambiguous).run_resolve unambiguous reaches (Document.mem_references member refers)).1
    cases rule with
    | ref url => exact lookup url rfl
    | dynamicRef url anchor =>
      simp only [targetAfresh, target, Evaluation.run_bind, Evaluation.run_pure, lookup url rfl]
      rfl
    | _ => rfl
  keeps document index active memory rule member reaches recalls := by
    cases rule with
    | ref url => exact recalls.resolve reaches (Document.mem_references member rfl)
    | dynamicRef url anchor => exact recalls.resolve reaches (Document.mem_references member rfl)
    | _ => exact recalls
  reaches document index active rule member reaches within found leads := by
    have through {reference : Url} {lexical : Target} (refers : rule.reference? = some reference)
        (leads : run.resolveAfresh dialects document reference = some lexical) :
        run.Reaches dialects lexical.document :=
      reaches.resolve (Document.mem_references member refers) leads
    cases rule with
    | ref url => exact through rfl leads
    | dynamicRef url anchor =>
      simp only [targetAfresh, target, Evaluation.run_bind, Evaluation.run_pure, Option.mem_def,
        Option.map_eq_some_iff] at leads
      obtain ⟨lexical, resolved, rfl⟩ := leads
      cases anchor with
      | none => exact through rfl resolved
      | some name =>
        dsimp only
        split
        · cases outermost : dynamicTarget? active name with
          | none => exact through rfl resolved
          | some declared =>
            obtain ⟨resource, inside, same⟩ := exists_active_of_dynamicTarget? outermost
            exact same ▸ within resource inside
        · exact through rfl resolved
    | _ => injection leads

/-- Nothing is ambiguous if what the root document refers to does not refer any further. -/
theorem isUnambiguous_of_references_eq_nil (last : ∀ reference ∈ run.root.document.references,
      ∀ found ∈ run.resolveAfresh dialects run.root.document reference, found.document.references = []) :
    run.IsUnambiguous dialects := by
  intro first second reference reaches reachesOther mentioned mentionedOther schema other found foundOther _ _
  have near {document : Document} (reaches : run.Reaches dialects document) :
      document = run.root.document ∨ document.references = [] := by
    induction reaches with
    | root => exact .inl rfl
    | resolve reaches mentioned leads before =>
      rcases before with rfl | none
      · exact .inr (last _ mentioned _ leads)
      · rw [none] at mentioned
        exact absurd mentioned List.not_mem_nil
  have own {document : Document} (reaches : run.Reaches dialects document)
      (mentioned : reference ∈ document.references) : document = run.root.document := by
    refine (near reaches).resolve_right fun none => ?_
    rw [none] at mentioned
    exact absurd mentioned List.not_mem_nil
  rw [own reaches mentioned] at found
  rw [own reachesOther mentionedOther, found] at foundOther
  obtain rfl := Option.some.inj foundOther
  exact ⟨rfl, rfl⟩

end Run

namespace Schema

/-- Whatever was looked up before, in an unambiguous evaluation each lookup finds what it would find without remembered
fragments, and the whole evaluation is the one that remembers nothing. -/
theorem lookups_forget (schema : Schema) (options : Options) (dialects : DialectCache)
    (unambiguous : (Run.mk options schema).IsUnambiguous dialects) {memory : Memory}
    (recalls : (Run.mk options schema).Recalls dialects memory) :
    let run := Run.mk options schema
    (∀ document reference, run.Reaches dialects document → reference ∈ document.references →
      ((run.resolve document reference).run memory).1 =
        ((run.resolve document reference).run { memory with fragments := [] }).1) ∧
      ∀ value, ((run.evaluate value).run memory).1 = run.judge (run.targetAfresh dialects) value ∧
        run.Recalls dialects ((run.evaluate value).run memory).2 := by
  intro run
  have coherent := recalls.coherent unambiguous
  refine ⟨fun document reference reaches mentioned => ?_, fun value => ?_⟩
  · have forgotten : run.Coherent dialects { memory with fragments := [] } :=
      ⟨coherent.knows, (Run.coherent_start run dialects).fragments⟩
    exact (coherent.run_resolve unambiguous reaches mentioned).1.trans
      (forgotten.run_resolve unambiguous reaches mentioned).1.symm
  · exact (Run.leadsBy_targetAfresh unambiguous).remembers options.maxDepth .root _ memory .root
      (fun resource member => absurd member List.not_mem_nil) recalls

/-- Two members share a fragment; a second evaluation, which remembers it from the first, comes to the same. -/
theorem lookups_forget_shared_fragment :
    ∃ schema, (compile .standard (Draft.url "example") (.object [
        ("properties", .object [("a", .object [("$ref", .string "#/x-s")]), ("b", .object [("$ref", .string "#/x-s")])]),
        ("x-s", .object [("type", .string "string")])])).toOption = some schema ∧
      let run := Run.mk .standard schema
      let value : Json := .object [("a", .string "s"), ("b", .ofNat 1)]
      let first := (run.evaluate value).run ⟨[], []⟩
      run.IsUnambiguous [] ∧ run.Recalls [] first.2 ∧ first.2.fragments.length = 1 ∧
        ((run.evaluate value).run first.2).1 = run.judge (run.targetAfresh []) value ∧
        first.1.outcome.isValid = false := by
  let value : Json := .object [("a", .string "s"), ("b", .ofNat 1)]
  let check (schema : Schema) : Bool :=
    let run := Run.mk .standard schema
    let first := (run.evaluate value).run ⟨[], []⟩
    schema.document.references.all (fun reference =>
      (run.resolveAfresh [] schema.document reference).all (·.document.references.isEmpty)) &&
      first.2.fragments.length = 1 && !first.1.outcome.isValid
  refine (Option.map_eq_some_iff.mp (?_ : Option.map check _ = some true)).imp fun schema ⟨compiled, checked⟩ =>
    ⟨compiled, ?_⟩
  · decide +kernel
  simp only [check, Bool.and_eq_true, decide_eq_true_eq, Bool.not_eq_true', List.all_eq_true, Option.all_eq_true,
    List.isEmpty_iff] at checked
  obtain ⟨⟨last, single⟩, invalid⟩ := checked
  have unambiguous : (Run.mk .standard schema).IsUnambiguous [] := Run.isUnambiguous_of_references_eq_nil last
  have recalls := ((lookups_forget schema .standard [] unambiguous .start).2 value).2
  exact ⟨unambiguous, recalls, single, ((lookups_forget schema .standard [] unambiguous recalls).2 value).1, invalid⟩

/-- The verdict with the standard options of an evaluation that remembers no fragments. -/
def isValidAfresh (schema : Schema) (value : Json) : Bool :=
  let run := Run.mk .standard schema
  (run.judge (run.targetAfresh []) value).outcome.isValid

/-- A reference from a fragment is taken to what the same reference was compiled to before, although the fragment
declares the id itself. Either member alone is valid, and both together are for who remembers nothing. -/
theorem lookups_remember_foreign_resource :
    (compile .standard (Draft.url "example") (.object [
        ("properties", .object [("p", .object [("$ref", .string "r#/x-foo")]),
          ("q", .object [("$ref", .string "#/x-frag")])]),
        ("$defs", .object [("a", .object [("$id", .string "r"), ("x-foo", .object [("type", .string "string")])])]),
        ("x-frag", .object [("$ref", .string "r#/x-foo"),
          ("$defs", .object [("b", .object [("$id", .string "r"),
            ("x-foo", .object [("type", .string "integer")])])])])])).toOption.map (fun schema =>
      (schema.isValid (.object [("p", .string "s")]), schema.isValid (.object [("q", .ofNat 1)]),
        schema.isValid (.object [("p", .string "s"), ("q", .ofNat 1)]),
        schema.isValidAfresh (.object [("p", .string "s"), ("q", .ofNat 1)]))) = some (true, true, false, true) := by
  decide +kernel

end Schema

end JsonSchema
