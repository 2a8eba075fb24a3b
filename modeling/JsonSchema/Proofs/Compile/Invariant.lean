import JsonSchema.Compile

/-! # What compilation keeps

A step of compilation `Keeps` a property of the nodes if it leaves the property in force, whether it succeeds
or not, and says what holds of the value it yields. Steps are composed with the rules for binding and for
lists. The main case is the compilation of a keyword: it changes no node by itself, stays in the dialect, and
leaves a rule of the keyword's meaning if any.
-/

namespace JsonSchema

namespace Compile

variable {α β : Type} {nodes : Array (Option Node) → Prop} {yields : α → Prop} {yieldsNext : β → Prop}

/-- Whether a step keeps a property of the nodes, and the value it yields has another. -/
def Keeps (nodes : Array (Option Node) → Prop) (yields : α → Prop) (step : Compile α) : Prop :=
  ∀ before, nodes before.nodes →
    nodes (step.run before).2.nodes ∧ ∀ value, (step.run before).1 = .ok value → yields value

theorem keeps_pure {value : α} (holds : yields value) : Keeps nodes yields (pure value) := by
  intro before kept
  refine ⟨kept, ?_⟩
  intro other same
  obtain rfl : value = other := Except.ok.inj same
  exact holds

theorem keeps_throw {cause : CompileError} : Keeps nodes yields (throw cause) :=
  fun _ kept => ⟨kept, fun _ same => nomatch same⟩

theorem keeps_lift {value : Except CompileError α} (holds : ∀ result, value = .ok result → yields result) :
    Keeps nodes yields (liftM value) :=
  fun _ kept => ⟨kept, holds⟩

theorem keeps_get : Keeps nodes (fun assembly : Assembly => nodes assembly.nodes) get := by
  intro before kept
  refine ⟨kept, ?_⟩
  intro assembly same
  obtain rfl : before = assembly := Except.ok.inj same
  exact kept

theorem keeps_set {assembly : Assembly} (kept : nodes assembly.nodes) :
    Keeps nodes (fun _ : PUnit => True) (set assembly) :=
  fun _ _ => ⟨kept, fun _ _ => trivial⟩

theorem keeps_modify {change : Assembly → Assembly}
    (keeps : ∀ assembly, nodes assembly.nodes → nodes (change assembly).nodes) :
    Keeps nodes (fun _ : PUnit => True) (modify change) :=
  fun before kept => ⟨keeps before kept, fun _ _ => trivial⟩

theorem keeps_bind {step : Compile α} {next : α → Compile β} (first : Keeps nodes yields step)
    (second : ∀ value, yields value → Keeps nodes yieldsNext (next value)) :
    Keeps nodes yieldsNext (step >>= next) := by
  intro before kept
  obtain ⟨keptBetween, holds⟩ := first before kept
  have run : (step >>= next).run before = ExceptT.bindCont next (step.run before).1 (step.run before).2 := rfl
  rw [run]
  cases result : (step.run before).1 with
  | ok value => exact second value (holds value result) _ keptBetween
  | error cause => exact ⟨keptBetween, fun _ same => nomatch same⟩

/-- The value that a step yields is that of some run. -/
theorem Keeps.and_run {step : Compile α} (keeps : Keeps nodes yields step) :
    Keeps nodes (fun value => yields value ∧ ∃ before after, step.run before = (.ok value, after)) step :=
  fun before kept => ⟨(keeps before kept).1, fun value same =>
    ⟨(keeps before kept).2 value same, before, _, Prod.ext same rfl⟩⟩

theorem keeps_mapM {list : List α} {step : α → Compile β} (each : ∀ item, Keeps nodes (fun _ => True) (step item)) :
    Keeps nodes (fun _ => True) (list.mapM step) := by
  induction list with
  | nil => exact keeps_pure trivial
  | cons first rest ih =>
    rw [List.mapM_cons]
    exact keeps_bind (each first) fun value _ => keeps_bind ih fun values _ => keeps_pure trivial

end Compile

namespace KeywordSite

open Compile

variable {nodes : Array (Option Node) → Prop} {dialect : Dialect} {sub : Site → Json → Compile Nat}
  {place : KeywordSite}

/-- Whether compiling sub-schemas in a dialect keeps a property of the nodes. -/
def KeepsBelow (nodes : Array (Option Node) → Prop) (dialect : Dialect) (sub : Site → Json → Compile Nat) : Prop :=
  ∀ site value, site.dialect = dialect → Keeps nodes (fun _ => True) (sub site value)

theorem keeps_subschemaAt (below : KeepsBelow nodes dialect sub) (stays : place.site.dialect = dialect)
    (tokens : List String) (value : Json) : Keeps nodes (fun _ => True) (place.subschemaAt sub tokens value) :=
  below _ value stays

theorem keeps_subschemas (below : KeepsBelow nodes dialect sub) (stays : place.site.dialect = dialect)
    (value : Json) : Keeps nodes (fun _ => True) (place.subschemas sub value) :=
  keeps_bind (keeps_lift fun _ _ => trivial) fun _ _ => keeps_mapM fun item =>
    keeps_subschemaAt below stays [toString item.2] item.1

theorem keeps_someSubschemas (below : KeepsBelow nodes dialect sub) (stays : place.site.dialect = dialect)
    (value : Json) : Keeps nodes (fun _ => True) (place.someSubschemas sub value) := by
  unfold someSubschemas
  split
  · exact keeps_lift fun _ _ => trivial
  · exact keeps_subschemas below stays value

theorem keeps_subschemasBy {κ : Type} (below : KeepsBelow nodes dialect sub) (stays : place.site.dialect = dialect)
    (key : String → Except CompileError κ) (value : Json) :
    Keeps nodes (fun _ => True) (place.subschemasBy sub key value) :=
  keeps_bind (keeps_lift fun _ _ => trivial) fun _ _ => keeps_mapM fun member =>
    keeps_bind (keeps_lift fun _ _ => trivial) fun _ _ =>
      keeps_bind (keeps_subschemaAt below stays [member.1] member.2) fun _ _ => keeps_pure trivial

theorem keeps_takeId (id : Url) : Keeps nodes (fun _ => True) (place.takeId id) := by
  refine keeps_bind keeps_get fun assembly kept => ?_
  split
  · exact keeps_bind (keeps_throw : Keeps nodes (fun _ => True) _) fun _ _ => keeps_set kept
  · exact keeps_set kept

theorem keeps_renameDocument (registered : Bool) (id : Url) :
    Keeps nodes (fun _ => True) (place.renameDocument registered id) := by
  refine keeps_bind keeps_get fun assembly kept => ?_
  split
  · exact keeps_bind (keeps_takeId id) fun _ _ => keeps_modify fun _ kept => kept
  · exact keeps_pure trivial

theorem keeps_startResource (stays : place.site.dialect = dialect) (id : Url) :
    Keeps nodes (fun site => site.dialect = dialect) (place.startResource id) :=
  keeps_bind (keeps_takeId id) fun _ _ => keeps_bind keeps_get fun _ _ =>
    keeps_bind (keeps_modify fun _ kept => kept) fun _ _ => keeps_pure stays

theorem keeps_declareId (stays : place.site.dialect = dialect) (registered : Bool) (value : Json) :
    Keeps nodes (fun site => site.dialect = dialect) (place.declareId registered value) := by
  refine keeps_bind (keeps_lift fun _ _ => trivial : Keeps nodes (fun _ => True) _) fun id _ => ?_
  split
  · exact keeps_bind (keeps_renameDocument registered id) fun _ _ => keeps_pure stays
  · exact keeps_bind (keeps_startResource stays id) fun _ same => keeps_pure same

/-- What the compilation of a keyword yields: the site stays in its dialect, and the rule has the meaning. -/
def Leaves (dialect : Dialect) (meaning : StandardKeyword) (result : Site × Option Rule) : Prop :=
  result.1.dialect = dialect ∧ ∀ rule ∈ result.2, rule.standard? = some meaning

theorem keeps_leaves {α : Type} {meaning : StandardKeyword} {step : Compile α} {rule : α → Rule}
    (stays : place.site.dialect = dialect) (keeps : Keeps nodes (fun _ => True) step)
    (means : ∀ value, (rule value).standard? = some meaning) :
    Keeps nodes (Leaves dialect meaning) (do return place.leaves (rule (← step))) := by
  refine keeps_bind keeps fun value _ => keeps_pure ⟨stays, ?_⟩
  intro other same
  obtain rfl : rule value = other := Option.some.inj same
  exact means value

theorem keeps_read {α : Type} {value : Except CompileError α} : Keeps nodes (fun _ => True) (liftM value) :=
  keeps_lift fun _ _ => trivial

theorem keeps_discard {α : Type} {value : Except CompileError α} :
    Keeps nodes (fun _ => True) (discard (liftM value)) := by
  intro before kept
  cases value <;> exact ⟨kept, fun _ _ => trivial⟩

theorem standard?_description {kind : Description} {value : Json} {rule : Rule}
    (described : place.description kind value = .ok rule) : rule.standard? = some (.description kind) := by
  cases kind <;> cases value <;> cases described <;> rfl

/-- A keyword keeps what its sub-schemas keep, stays in the dialect and leaves a rule of its meaning if any. -/
theorem keeps_compile (below : KeepsBelow nodes dialect sub) (stays : place.site.dialect = dialect) (registered : Bool)
    (meaning : StandardKeyword) (value : Json) :
    Keeps nodes (Leaves dialect meaning) (place.compile registered sub meaning value) := by
  have silent {site : Site} (same : site.dialect = dialect) : Leaves dialect meaning (site, none) :=
    ⟨same, fun _ impossible => nomatch impossible⟩
  have leaves {rule : Rule} (means : rule.standard? = some meaning) : Leaves dialect meaning (place.leaves rule) :=
    ⟨stays, fun other same => Option.some.inj same ▸ means⟩
  cases meaning with
  | id => exact keeps_bind (keeps_declareId stays registered value) fun _ same => keeps_pure (silent same)
  | schema => exact keeps_bind keeps_discard fun _ _ => keeps_pure (silent stays)
  | anchor | dynamicAnchor | vocabulary => exact keeps_bind keeps_read fun _ _ => keeps_pure (silent stays)
  | ref | comment | type | enum | multipleOf | limit kind | count bound | uniqueItems | required =>
    exact keeps_leaves stays keeps_read fun _ => rfl
  | format | formatAssertion | contentEncoding | contentMediaType =>
    exact keeps_leaves stays keeps_read fun _ => rfl
  | dynamicRef => exact keeps_leaves stays keeps_read fun _ => rfl
  | const => exact keeps_pure (leaves rfl)
  | pattern =>
    exact keeps_bind keeps_read fun text _ => keeps_leaves stays keeps_read fun _ => rfl
  | dependentRequired =>
    refine keeps_bind keeps_read fun members _ => keeps_leaves stays (keeps_mapM fun member => ?_) fun _ => rfl
    exact keeps_bind keeps_read fun _ _ => keeps_pure trivial
  | description kind =>
    exact keeps_bind (keeps_lift fun _ => standard?_description) fun _ means => keeps_pure (leaves means)
  | items | contains | additionalProperties | propertyNames | condition | consequence | alternative | not =>
    exact keeps_leaves stays (keeps_subschemaAt below stays [] value) fun _ => rfl
  | unevaluatedItems | unevaluatedProperties | contentSchema =>
    exact keeps_leaves stays (keeps_subschemaAt below stays [] value) fun _ => rfl
  | prefixItems | combination kind => exact keeps_leaves stays (keeps_someSubschemas below stays value) fun _ => rfl
  | defs | properties | patternProperties | dependentSchemas =>
    exact keeps_leaves stays (keeps_subschemasBy below stays _ value) fun _ => rfl

end KeywordSite

end JsonSchema
