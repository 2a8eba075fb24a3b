import JsonSchema.Json
import JsonSchema.Keyword

/-! # Outcomes

What a keyword or a sub-schema says about an instance: that it is valid, possibly with a value
attached to it, or that it is invalid, possibly with a message.
-/

namespace JsonSchema

/-- The outcome of applying a keyword or a sub-schema. -/
inductive Outcome where
  | valid
  | annotated (value : Json)
  | invalid (message : Option String)
  deriving Inhabited

namespace Outcome

/-- An invalid outcome with a message. -/
def fail (message : String) : Outcome := .invalid (some message)

/-- The outcome of a check that has nothing to say. -/
def ofBool (valid : Bool) : Outcome := if valid then .valid else .invalid none

/-- The outcome of a check that explains its failure. -/
def require (valid : Bool) (message : String) : Outcome := if valid then .valid else .fail message

/-- Whether the instance is valid. -/
def isValid : Outcome → Bool
  | .invalid _ => false
  | _ => true

/-- The value attached to the instance. -/
def value? : Outcome → Option Json
  | .annotated value => some value
  | _ => none

/-- Why the instance is invalid. -/
def message? : Outcome → Option String
  | .invalid message => message
  | _ => none

@[simp] theorem isValid_ofBool (valid : Bool) : (ofBool valid).isValid = valid := by
  cases valid <;> rfl

@[simp] theorem isValid_require (valid : Bool) (message : String) : (require valid message).isValid = valid := by
  cases valid <;> rfl

end Outcome

namespace Combination

/-- Whether the verdicts of the sub-schemas satisfy a combination. -/
def holds (kind : Combination) (verdicts : List Bool) : Bool :=
  match kind with
  | .allOf => verdicts.all id
  | .anyOf => verdicts.any id
  | .oneOf => verdicts.count true == 1

/-- Why the verdicts do not satisfy a combination. -/
def message (kind : Combination) (verdicts : List Bool) : String :=
  match kind with
  | .allOf =>
    "Must match all of the subschemas, " ++ toString (verdicts.count false) ++ " did not match"
  | .anyOf => "Must match at least one of the subschemas, none matched"
  | .oneOf =>
    "Must match exactly one of the subschemas, " ++ toString (verdicts.count true) ++ " matched"

/-- The outcome of a combination of verdicts. -/
def combine (kind : Combination) (verdicts : List Bool) : Outcome :=
  .require (kind.holds verdicts) (kind.message verdicts)

theorem isValid_combine (kind : Combination) (verdicts : List Bool) :
    (kind.combine verdicts).isValid = kind.holds verdicts := by
  simp [combine]

end Combination

end JsonSchema
