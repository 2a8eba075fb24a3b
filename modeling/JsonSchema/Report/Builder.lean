import JsonSchema.Report.Result

/-! # Builders of reports

While an evaluation goes on a builder is told when something that applies sub-schemas starts and ends,
and what ends without applying any. Each builder keeps what it needs for its shape of report.

`VerdictBuilder` keeps the verdict of what ended last. `ErrorBuilder` keeps a list of errors for each
thing that goes on, and drops the list of what turns out valid. `TreeBuilder` keeps a list of trees
instead; where it condenses, a valid result that says nothing is dropped, as are the invalid branches of
a valid result, and a result that says nothing itself gives way to its only child of the same validity.
-/

namespace JsonSchema

/-- What a builder is told. -/
inductive Event where
  /-- Something that applies sub-schemas starts. -/
  | start
  /-- Something ended that applied no sub-schema. -/
  | leaf (scope : Scope) (outcome : Outcome)
  /-- The last of what goes on ended. -/
  | finish (scope : Scope) (outcome : Outcome)

namespace Trace

mutual

/-- What builders are told about a trace. -/
def events : Trace → List Event
  | .leaf _ scope outcome => [.leaf scope outcome]
  | .branch _ scope outcome children => .start :: eventsOf children ++ [.finish scope outcome]

/-- What builders are told about several traces. -/
def eventsOf : List Trace → List Event
  | [] => []
  | trace :: rest => trace.events ++ eventsOf rest

end

end Trace

/-- The verdict so far. -/
structure VerdictBuilder where
  valid : Bool

namespace VerdictBuilder

/-- The builder before an evaluation. -/
def initial : VerdictBuilder := ⟨false⟩

/-- The builder after an event. -/
def step (builder : VerdictBuilder) : Event → VerdictBuilder
  | .start => builder
  | .leaf _ _ => builder
  | .finish _ outcome => ⟨outcome.isValid⟩

end VerdictBuilder

/-- The errors so far. -/
structure ErrorBuilder where
  /-- The errors of everything that goes on, the innermost first. -/
  stack : List (List ErrorUnit)
  valid : Bool

namespace ErrorBuilder

/-- The builder before an evaluation. -/
def initial : ErrorBuilder := ⟨[[]], true⟩

/-- Adds errors to those of the innermost thing that goes on, and lets the stack have one if it is empty. -/
def addTo (units : List ErrorUnit) : List (List ErrorUnit) → List (List ErrorUnit)
  | [] => [units]
  | current :: rest => (current ++ units) :: rest

/-- The builder after an event. -/
def step (builder : ErrorBuilder) : Event → ErrorBuilder
  | .start => { builder with stack := [] :: builder.stack }
  | .leaf scope outcome =>
    match builder.stack with
    | [] => builder
    | current :: rest => { builder with stack := (current ++ (ErrorUnit.ofOutcome? scope outcome).toList) :: rest }
  | .finish scope outcome =>
    let nested := builder.stack.head?.getD []
    if outcome.isValid then ⟨builder.stack.tail, true⟩
    else ⟨addTo ((ErrorUnit.ofOutcome? scope outcome).toList ++ nested) builder.stack.tail, false⟩

/-- The errors in the end, the outermost first. -/
def errors (builder : ErrorBuilder) : List ErrorUnit := if builder.valid then [] else builder.stack.reverse.flatten

end ErrorBuilder

/-- The trees so far. -/
structure TreeBuilder where
  /-- The trees of everything that goes on, the innermost first. -/
  stack : List (List ResultTree)
  root : Option ResultTree

namespace TreeBuilder

/-- The builder before an evaluation. -/
def initial : TreeBuilder := ⟨[], none⟩

/-- The results below a result that are kept. -/
def keptBelow (condensed : Bool) (result : Result) (children : List ResultTree) : List ResultTree :=
  if condensed && result.valid then children.filter (·.result.valid) else children

/-- What is kept of a tree. -/
def kept? (condensed : Bool) (tree : ResultTree) : Option ResultTree :=
  match condensed, tree with
  | true, .node result [] => if result.valid && result.attached.isNone then none else some tree
  | true, .node result [child] =>
    if result.isSilent && child.result.valid == result.valid then some child else some tree
  | _, _ => some tree

/-- Puts a tree below the innermost thing that goes on, or at the root. -/
def place (builder : TreeBuilder) (tree : ResultTree) : TreeBuilder :=
  match builder.stack with
  | [] => { builder with root := some tree }
  | current :: rest => { builder with stack := (current ++ [tree]) :: rest }

/-- Puts a tree in its place, if there is one. -/
def place? (builder : TreeBuilder) (tree : Option ResultTree) : TreeBuilder := (tree.map builder.place).getD builder

/-- The builder after an event. -/
def step (condensed : Bool) (collect : CollectAnnotations) (builder : TreeBuilder) : Event → TreeBuilder
  | .start => { builder with stack := [] :: builder.stack }
  | .leaf scope outcome => builder.place? (kept? condensed (.node (.ofOutcome collect scope outcome) []))
  | .finish scope outcome =>
    let result := Result.ofOutcome collect scope outcome
    let children := keptBelow condensed result (builder.stack.head?.getD [])
    { builder with stack := builder.stack.tail }.place? (kept? condensed (.node result children))

/-- The tree in the end; where nothing was kept it says valid. -/
def tree (builder : TreeBuilder) : ResultTree := builder.root.getD (.node .blank [])

end TreeBuilder

end JsonSchema
