import JsonSchema.Evaluation.Plan

/-! # Traces

The trace of an evaluation is the tree of the sub-schemas and rules that were applied, each with its
outcome and the scope in which it was applied. A rule that applies no sub-schema is a leaf, and so is a
sub-schema that is cut off.
-/

namespace JsonSchema

/-- Where a keyword or a sub-schema is applied. -/
structure Scope where
  /-- The id of the resource that holds the keyword. -/
  base : Url
  /-- The location in that resource. -/
  schemaLocation : Pointer
  /-- The path of evaluation from the root schema, through references. -/
  keywordLocation : Pointer
  instanceLocation : Pointer
  /-- Whether the path of evaluation has left the root resource or passed a reference. -/
  relocated : Bool
  /-- The number of scopes around this one. -/
  depth : Nat

/-- The location of the keyword as a URL, when the path of evaluation does not give it. -/
def Scope.absoluteLocation? (scope : Scope) : Option String :=
  if scope.relocated then some (scope.base.withFragment scope.schemaLocation.text).text else none

/-- What is applied in a scope. -/
inductive Subject where
  /-- A sub-schema, to a value. -/
  | application (application : Application)
  /-- A rule of the schema object around it, to the value of that schema object. -/
  | rule (rule : Rule)

namespace Subject

/-- The sub-schema that is applied, with its value. -/
def application? : Subject → Option Application
  | .application subschema => some subschema
  | .rule _ => none

/-- The rule that is applied. -/
def rule? : Subject → Option Rule
  | .application _ => none
  | .rule keyword => some keyword

theorem eq_of_application? {subject : Subject} {application : Application}
    (applied : subject.application? = some application) : subject = .application application := by
  cases subject with
  | application other => rw [Option.some.inj applied]
  | rule rule => cases applied

theorem eq_of_rule? {subject : Subject} {rule : Rule} (carried : subject.rule? = some rule) : subject = .rule rule := by
  cases subject with
  | application application => cases carried
  | rule other => rw [Option.some.inj carried]

end Subject

/-- What was applied, in order. -/
inductive Trace where
  /-- Something that applied no sub-schema. -/
  | leaf (subject : Subject) (scope : Scope) (outcome : Outcome)
  /-- Something with everything that it applied. -/
  | branch (subject : Subject) (scope : Scope) (outcome : Outcome) (children : List Trace)

namespace Trace

/-- What the root of a trace is about. -/
def subject : Trace → Subject
  | .leaf subject _ _ => subject
  | .branch subject _ _ _ => subject

/-- The outcome at the root of a trace. -/
def outcome : Trace → Outcome
  | .leaf _ _ outcome => outcome
  | .branch _ _ outcome _ => outcome

/-- The scope of the root of a trace. -/
def scope : Trace → Scope
  | .leaf _ scope _ => scope
  | .branch _ scope _ _ => scope

/-- What the root of a trace applied. -/
def children : Trace → List Trace
  | .leaf _ _ _ => []
  | .branch _ _ _ children => children

/-- Whether the root of a trace is valid. -/
def isValid (trace : Trace) : Bool := trace.outcome.isValid

/-- What holds of leaves, and of a branch if it holds of all its children, holds of every trace. -/
@[elab_as_elim]
theorem children_induction {motive : Trace → Prop}
    (leaf : ∀ subject scope outcome, motive (.leaf subject scope outcome))
    (branch : ∀ subject scope outcome children, (∀ child ∈ children, motive child) →
      motive (.branch subject scope outcome children)) :
    ∀ trace, motive trace
  | .leaf subject scope outcome => leaf subject scope outcome
  | .branch subject scope outcome children =>
    branch subject scope outcome children fun child _ => children_induction leaf branch child

end Trace

end JsonSchema
