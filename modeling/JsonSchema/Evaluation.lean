import JsonSchema.Evaluation.Reference
import JsonSchema.Evaluation.Trace

/-! # Evaluation

A schema is evaluated against an instance by applying its root node. The rules of a schema object are
applied in order, each by carrying out its plan. The values that rules attach are seen by the later
rules of the same object; a valid sub-schema that was applied to the same instance contributes its
values to the object around it.

Scopes are nested: one for each sub-schema and one for each keyword that applies sub-schemas. Where the
limit of the options is reached a sub-schema is not applied but counts as invalid.
-/

namespace JsonSchema

/-- The path of evaluation. -/
structure Path where
  /-- The scope of the keyword that applies a sub-schema; none at the root. -/
  keyword : Option Scope
  /-- The resources that take part, the innermost first. -/
  active : List ActiveResource

namespace Path

/-- The path at the root. -/
def root : Path := ⟨none, []⟩

/-- The number of scopes on the path. -/
def depth (path : Path) : Nat := (path.keyword.map (·.depth + 1)).getD 0

/-- The location of a node further down the path. -/
def extend (location : Pointer) (token : Option String) : Pointer := location.append token.toList

/-- The scope of an application. -/
def scope (path : Path) (run : Run) (application : Application) : Scope :=
  let node := application.node
  let base := ((application.target.document.resources[node.resource]?).map (·.id)).getD default
  { base
    schemaLocation := node.location
    keywordLocation := extend ((path.keyword.map (·.keywordLocation)).getD .root)
      (if path.keyword.isSome then application.token else none)
    instanceLocation := extend ((path.keyword.map (·.instanceLocation)).getD .root)
      (if path.keyword.isSome then application.step else none)
    relocated := path.keyword.any (·.relocated) || base != run.root.id
    depth := path.depth }

end Path

/-- The scope of a keyword inside that of its schema object. -/
def Scope.keyword (scope : Scope) (name : String) : Scope :=
  { base := scope.base
    schemaLocation := scope.schemaLocation.push name
    keywordLocation := scope.keywordLocation.push name
    instanceLocation := scope.instanceLocation
    relocated := scope.relocated || name == StandardKeyword.ref.name || name == StandardKeyword.dynamicRef.name
    depth := scope.depth + 1 }

/-- The result of applying a sub-schema. -/
structure Applied where
  trace : Trace
  /-- The values attached to the value it was applied to, by keyword. -/
  attached : List (String × Json)

namespace Applied

/-- The outcome of the sub-schema. -/
def outcome (applied : Applied) : Outcome := applied.trace.outcome

/-- The values that an application contributes to the schema object around it. -/
def contribution (applied : Applied) (application : Application) : List (String × Json) :=
  if applied.outcome.isValid && application.contributes then applied.attached else []

end Applied

/-- What the rules of a schema object have done so far. -/
structure Progress where
  /-- The outcomes of the rules, by keyword. -/
  siblings : List (String × Outcome)
  /-- The values attached to the instance, by keyword. -/
  attached : List (String × Json)
  traces : List Trace

namespace Progress

/-- Before the first rule. -/
def start : Progress := ⟨[], [], []⟩

/-- Whether all rules so far are valid. -/
def isValid (progress : Progress) : Bool := progress.siblings.all (·.2.isValid)

/-- After one more rule, given what the rule's applications contributed. -/
def record (progress : Progress) (keyword : String) (trace : Trace) (contributed : List (String × Json)) : Progress :=
  { siblings := progress.siblings ++ [(keyword, trace.outcome)]
    attached := progress.attached ++ contributed ++ (trace.outcome.value?.map (keyword, ·)).toList
    traces := progress.traces ++ [trace] }

end Progress

namespace Run

/-- How sub-schemas are applied further down a path. -/
abbrev Applier := Path → Application → Evaluation Applied

/-- Carries out the applications of a plan in order. -/
def applyAll (apply : Applier) (path : Path) : List Application → Evaluation (List (Application × Applied))
  | [] => return []
  | application :: rest => do
    let applied ← apply path application
    return (application, applied) :: (← applyAll apply path rest)

/-- Applies a rule of a schema object at a scope. -/
def applyRule (run : Run) (apply : Applier) (active : List ActiveResource) (document : Document) (node : Node)
    (scope : Scope) (value : Json) (progress : Progress) (rule : Rule) : Evaluation Progress := do
  let target ← run.target document active rule
  let facts : Facts := ⟨run.options, document, node, progress.siblings, progress.attached⟩
  let plan := rule.plan facts target value
  let inner := scope.keyword rule.keyword
  let results ← applyAll apply ⟨some inner, active⟩ plan.applications
  let outcome := plan.conclude (results.map (·.2.outcome))
  let trace : Trace :=
    if rule.isLeaf then .leaf (.rule rule) inner outcome
    else .branch (.rule rule) inner outcome (results.map (·.2.trace))
  return progress.record rule.keyword trace (results.flatMap fun (application, applied) =>
    applied.contribution application)

/-- Applies the rules of a schema object in order. -/
def applyRules (run : Run) (apply : Applier) (active : List ActiveResource) (document : Document) (node : Node)
    (scope : Scope) (value : Json) (progress : Progress) : List Rule → Evaluation Progress
  | [] => return progress
  | rule :: rest => do
    let progress ← run.applyRule apply active document node scope value progress rule
    run.applyRules apply active document node scope value progress rest

/-- The result of an application that is cut off. -/
def cutOff (run : Run) (path : Path) (application : Application) : Applied :=
  ⟨.leaf (.application application) (path.scope run application) (.fail "Maximum evaluation depth exceeded"), []⟩

/-- Applies a sub-schema, given how those further down are applied. -/
def applyNode (run : Run) (apply : Applier) (path : Path) (application : Application) : Evaluation Applied := do
  let document := application.target.document
  let node := application.node
  let scope := path.scope run application
  match node.shape with
  | .boolean accepts =>
    return ⟨.branch (.application application) scope (.require accepts "Value not allowed by schema") [], []⟩
  | .object rules =>
    let active := application.target.active :: path.active
    let progress ← run.applyRules apply active document node scope application.value .start
      (rules.filter (·.isApplied))
    return ⟨.branch (.application application) scope (.ofBool progress.isValid) progress.traces, progress.attached⟩

/-- Applies a sub-schema inside a number of further scopes. A sub-schema takes one, and a keyword that
applies sub-schemas another. -/
def applyWithin (run : Run) : Nat → Applier
  | 0 => fun path application => return run.cutOff path application
  | 1 => run.applyNode fun path application => return run.cutOff path application
  | scopes + 2 => run.applyNode (run.applyWithin scopes)

/-- Evaluates the root schema against an instance. -/
def evaluate (run : Run) (value : Json) : Evaluation Applied :=
  run.applyWithin run.options.maxDepth .root (.inPlace ⟨run.root.document, run.root.rootIndex⟩ value none)

end Run

namespace Schema

/-- The trace of an evaluation, and the dialects found on the way. -/
def trace (schema : Schema) (options : Options) (value : Json) (dialects : DialectCache) : Trace × DialectCache :=
  let (applied, memory) := ((Run.mk options schema).evaluate value).run ⟨[], dialects⟩
  (applied.trace, memory.dialects)

/-- Whether an instance is valid with the standard options. -/
def isValid (schema : Schema) (value : Json) : Bool := (schema.trace .standard value []).1.isValid

end Schema

end JsonSchema
