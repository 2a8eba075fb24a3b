import JsonSchema.Proofs.Compile.UnknownKeywords

/-! # Compilation without unknown keywords

A step of compilation `Erases` to another one if that one does the same in the assembly without the rules for unknown
keywords, and comes to the same end there, with the same fault if it fails. Compiling a value with unknown keywords
annotated erases to compiling it with unknown keywords left out (`Schema.compileDocument_erased`).
-/

namespace JsonSchema

open Compile

/-- The assembly without the rules for unknown keywords. -/
def Assembly.erased (assembly : Assembly) : Assembly :=
  { assembly with nodes := assembly.nodes.map (·.map (·.mapRules knownRules)) }

namespace Compile

variable {α β γ δ : Type}

/-- Whether a step does what another one does in the assembly without the rules for unknown keywords. -/
def Erases (result : α → β) (step : Compile α) (other : Compile β) : Prop :=
  ∀ before, other.run before.erased = ((step.run before).1.map result, (step.run before).2.erased)

theorem erases_pure {result : α → β} {value : α} : Erases result (pure value) (pure (result value)) :=
  fun _ => rfl

theorem erases_throw {result : α → β} (cause : CompileError) :
    Erases result (throw cause : Compile α) (throw cause : Compile β) :=
  fun _ => rfl

theorem erases_read (reading : Except CompileError α) : Erases id (liftM reading : Compile α) (liftM reading) := by
  intro before
  cases reading <;> rfl

theorem erases_set (assembly : Assembly) : Erases id (set assembly : Compile PUnit) (set assembly.erased) :=
  fun _ => rfl

theorem erases_modify {change other : Assembly → Assembly}
    (same : ∀ assembly, other assembly.erased = (change assembly).erased) :
    Erases id (modify change : Compile PUnit) (modify other) :=
  fun before => Prod.ext rfl (same before)

theorem erases_get_bind {result : α → β} {next : Assembly → Compile α} {other : Assembly → Compile β}
    (erases : ∀ assembly, Erases result (next assembly) (other assembly.erased)) :
    Erases result (get >>= next) (get >>= other) :=
  fun before => erases before before

theorem Erases.bind {result : α → β} {resultNext : γ → δ} {step : Compile α} {other : Compile β} {next : α → Compile γ}
    {nextOther : β → Compile δ} (first : Erases result step other)
    (second : ∀ value before, (step.run before).1 = .ok value →
      Erases resultNext (next value) (nextOther (result value))) :
    Erases resultNext (step >>= next) (other >>= nextOther) := by
  intro before
  have run : (step >>= next).run before = ExceptT.bindCont next (step.run before).1 (step.run before).2 := rfl
  have runOther : (other >>= nextOther).run before.erased =
      ExceptT.bindCont nextOther (other.run before.erased).1 (other.run before.erased).2 := rfl
  rw [run, runOther, first before]
  cases ends : (step.run before).1 with
  | ok value => exact second value before ends _
  | error cause => rfl

theorem erases_mapM {list : List α} {step other : α → Compile β} (each : ∀ item, Erases id (step item) (other item)) :
    Erases id (list.mapM step) (list.mapM other) := by
  induction list with
  | nil => exact erases_pure
  | cons first rest ih =>
    rw [List.mapM_cons, List.mapM_cons]
    exact (each first).bind fun _ _ _ => ih.bind fun _ _ _ => erases_pure

end Compile

namespace KeywordSite

variable {α : Type} {place : KeywordSite} {sub other : Site → Json → Compile Nat} {value : Json}

/-! ## Keywords -/

theorem erases_takeId (url : Url) : Erases id (place.takeId url) (place.takeId url) := by
  refine erases_get_bind fun assembly => ?_
  dsimp only [Assembly.erased]
  split
  · exact (erases_throw _ : Erases id _ _).bind fun _ _ _ => erases_set _
  · exact erases_set _

theorem erases_renameDocument (registered : Bool) (url : Url) :
    Erases id (place.renameDocument registered url) (place.renameDocument registered url) := by
  refine erases_get_bind fun assembly => ?_
  dsimp only [Assembly.erased]
  split
  · exact (erases_takeId url).bind fun _ _ _ => erases_modify fun _ => rfl
  · exact erases_pure

theorem erases_startResource (url : Url) : Erases id (place.startResource url) (place.startResource url) := by
  refine (erases_takeId url).bind fun _ _ _ => erases_get_bind fun assembly => ?_
  exact Erases.bind (fun _ => rfl : Erases id _ _) fun _ _ _ => erases_pure

theorem erases_declareId (registered : Bool) :
    Erases id (place.declareId registered value) (place.declareId registered value) := by
  refine (erases_read _).bind fun url _ _ => ?_
  dsimp only [id]
  split
  · exact (erases_renameDocument registered url).bind fun _ _ _ => erases_pure
  · exact (erases_startResource url).bind fun _ _ _ => erases_pure

/-- A rule is left alike if what goes into it is made alike. -/
theorem erases_leaves {step step' : Compile α} {rule : α → Rule} (erases : Erases id step step') :
    Erases id (do return place.leaves (rule (← step))) (do return place.leaves (rule (← step'))) :=
  erases.bind fun _ _ _ => erases_pure

variable (below : ∀ site inner, Erases id (sub site inner) (other site inner))
include below

theorem erases_subschemaAt (tokens : List String) (inner : Json) :
    Erases id (place.subschemaAt sub tokens inner) (place.subschemaAt other tokens inner) :=
  below _ inner

theorem erases_subschemas : Erases id (place.subschemas sub value) (place.subschemas other value) :=
  (erases_read _).bind fun _ _ _ => erases_mapM fun item => erases_subschemaAt below [toString item.2] item.1

theorem erases_someSubschemas : Erases id (place.someSubschemas sub value) (place.someSubschemas other value) := by
  unfold someSubschemas
  split
  · exact erases_read _
  · exact erases_subschemas below

theorem erases_subschemasBy {κ : Type} (key : String → Except CompileError κ) :
    Erases id (place.subschemasBy sub key value) (place.subschemasBy other key value) :=
  (erases_read _).bind fun _ _ _ => erases_mapM fun member => (erases_read _).bind fun _ _ _ =>
    (erases_subschemaAt below [member.1] member.2).bind fun _ _ _ => erases_pure

/-- A keyword is compiled alike if its sub-schemas are. -/
theorem erases_compile (registered : Bool) (meaning : StandardKeyword) :
    Erases id (place.compile registered sub meaning value) (place.compile registered other meaning value) := by
  cases meaning with
  | id => exact (erases_declareId registered).bind fun _ _ _ => erases_pure
  | schema | anchor | dynamicAnchor | vocabulary =>
    refine Erases.bind (?_ : Erases id _ _) fun _ _ _ => erases_pure
    first
    | exact erases_read _
    | exact (erases_read _).bind fun _ _ _ => erases_pure
  | ref | dynamicRef | comment | type | enum | multipleOf | limit kind | count bound | uniqueItems | required =>
    exact erases_leaves (erases_read _)
  | format | formatAssertion | contentEncoding | contentMediaType => exact erases_leaves (erases_read _)
  | const => exact erases_pure
  | pattern => exact (erases_read _).bind fun _ _ _ => erases_leaves (erases_read _)
  | dependentRequired =>
    refine (erases_read _).bind fun _ _ _ => erases_leaves (erases_mapM fun member => ?_)
    exact (erases_read _).bind fun _ _ _ => erases_pure
  | description kind => exact (erases_read _).bind fun _ _ _ => erases_pure
  | items | contains | additionalProperties | propertyNames | condition | consequence | alternative | not =>
    exact erases_leaves (erases_subschemaAt below [] value)
  | unevaluatedItems | unevaluatedProperties | contentSchema => exact erases_leaves (erases_subschemaAt below [] value)
  | prefixItems | combination kind => exact erases_leaves (erases_someSubschemas below)
  | defs | properties | patternProperties | dependentSchemas => exact erases_leaves (erases_subschemasBy below _)

end KeywordSite

/-! ## Schemas -/

namespace Site

variable {options : Options} {registered : Bool} {sub other : Site → Json → Compile Nat} {site : Site} {value : Json}
  {members : List (String × Json)}

theorem erases_libraryDialect? (url : Url) : Erases id (libraryDialect? options url) (libraryDialect? options url) := by
  unfold libraryDialect?
  split
  · exact erases_pure
  · exact erases_get_bind fun _ => (erases_set _).bind fun _ _ _ => erases_pure

theorem erases_namedDialect : Erases id (site.namedDialect options value) (site.namedDialect options value) := by
  refine (erases_read _).bind fun text _ _ => (erases_read _).bind fun url _ _ => ?_
  dsimp only [id]
  split
  · exact erases_pure
  · split
    · exact erases_pure
    · refine (erases_libraryDialect? url).bind fun found _ _ => ?_
      dsimp only [id]
      split
      · exact erases_pure
      · split
        · exact erases_pure
        · split
          · split
            · exact erases_pure
            · exact erases_throw _
          · exact erases_throw _

theorem erases_selectDialect : Erases id (site.selectDialect options members) (site.selectDialect options members) := by
  unfold selectDialect
  split
  · exact erases_pure
  · refine erases_namedDialect.bind fun dialect _ _ => ?_
    dsimp only [id]
    split
    · exact Erases.bind (fun _ => rfl : Erases id _ _) fun _ _ _ => erases_pure
    · exact erases_pure

variable (below : ∀ site inner, Erases id (sub site inner) (other site inner))
include below

theorem erases_compileKeywords (entries : List (KeywordEntry Json)) :
    Erases id (compileKeywords registered sub site entries) (compileKeywords registered other site entries) := by
  induction entries generalizing site with
  | nil => exact erases_pure
  | cons entry rest ih =>
    exact (KeywordSite.erases_compile below registered _).bind fun _ _ _ => ih.bind fun _ _ _ => erases_pure

theorem erases_compileMembers :
    Erases (Prod.map id knownRules) (site.compileMembers (options.treating .annotate) registered sub members)
      (site.compileMembers (options.treating .ignore) registered other members) := by
  refine (erases_selectDialect : Erases id (site.selectDialect options members) _).bind fun selected _ _ => ?_
  refine (erases_compileKeywords below _).bind fun result before ends => ?_
  have known := isSome_standard?_of_compileKeywords ends
  intro assembly
  refine Prod.ext (congrArg Except.ok (Prod.ext rfl ?_)) rfl
  exact (knownRules_withUnknown _ known).symm

theorem erases_compileShape :
    Erases (Prod.map id (Shape.mapRules knownRules))
      (site.compileShape (options.treating .annotate) registered sub value)
      (site.compileShape (options.treating .ignore) registered other value) := by
  unfold compileShape
  split
  · exact erases_pure
  · exact (erases_compileMembers below).bind fun _ _ _ => erases_pure
  · exact erases_throw _

theorem erases_compileNode :
    Erases id (site.compileNode (options.treating .annotate) registered sub value)
      (site.compileNode (options.treating .ignore) registered other value) := by
  refine erases_get_bind fun assembly => ?_
  dsimp only [Assembly.erased]
  rw [Array.size_map]
  refine (erases_modify fun started => ?_).bind fun _ _ _ => ?_
  · simp [Assembly.erased]
  · refine (erases_compileShape below).bind fun result _ _ => ?_
    refine (erases_modify fun finished => ?_).bind fun _ _ _ => erases_pure
    simp [Assembly.erased, Node.mapRules]

omit below

variable (options registered) in
theorem erases_compileWithin (depth : Nat) (site : Site) (value : Json) :
    Erases id (compileWithin (options.treating .annotate) registered depth site value)
      (compileWithin (options.treating .ignore) registered depth site value) := by
  induction depth generalizing site value with
  | zero => exact erases_throw _
  | succ depth ih => exact erases_compileNode ih

end Site

/-- Leaving unknown keywords out comes to the same end as annotating them: to the same fault, or to the document without
the rules for unknown keywords. -/
theorem Schema.compileDocument_erased (options : Options) (dialect : Dialect) (base : Url) (registered : Bool)
    (value : Json) (dialects : DialectCache) :
    (compileDocument (options.treating .ignore) dialect base registered value dialects).1 =
      (compileDocument (options.treating .annotate) dialect base registered value dialects).1.map
        (·.mapRules knownRules) := by
  have erases := Site.erases_compileWithin options registered (value.depth + 1) (.root dialect base) value
    (.start dialect base registered dialects)
  have start : (Assembly.start dialect base registered dialects).erased = .start dialect base registered dialects := by
    simp [Assembly.erased, Assembly.start]
  rw [start] at erases
  unfold compileDocument
  dsimp only
  rw [erases]
  rcases (Site.compileWithin (options.treating .annotate) registered (value.depth + 1) (.root dialect base) value).run
    (.start dialect base registered dialects) with ⟨result, assembly⟩
  cases result with
  | error cause => rfl
  | ok node =>
    have finished : assembly.erased.document? = assembly.document?.map (·.mapRules knownRules) :=
      assembly.document?_mapRules assembly.dialects
    dsimp only [bind, Except.bind, Except.map]
    rw [finished]
    cases assembly.document? <;> rfl

end JsonSchema
