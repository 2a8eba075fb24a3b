import JsonSchema.Evaluation
import JsonSchema.OutputFormat

/-! # Results

The result of a keyword or a sub-schema tells its verdict, where it belongs, and the error or the value
that its outcome carries. Results form a tree as what they are about was applied. An error on its own is
an `ErrorUnit`.
-/

namespace JsonSchema

/-- Where a result belongs. -/
structure ResultPlace where
  keywordLocation : Pointer
  absoluteLocation : Option String
  instanceLocation : Pointer

namespace ResultPlace

/-- The place of what is applied in a scope. -/
def ofScope (scope : Scope) : ResultPlace :=
  ⟨scope.keywordLocation, scope.absoluteLocation?, scope.instanceLocation⟩

/-- The place of the root schema. -/
def root : ResultPlace := ⟨.root, none, .root⟩

/-- The members that tell a place. -/
def members (place : ResultPlace) : List (String × Json) :=
  ("keywordLocation", .string place.keywordLocation.text) ::
    ("instanceLocation", .string place.instanceLocation.text) ::
    (place.absoluteLocation.map fun location => ("absoluteKeywordLocation", Json.string location)).toList

end ResultPlace

/-- An error with the place of the keyword or the sub-schema that failed. -/
structure ErrorUnit where
  place : ResultPlace
  error : String

namespace ErrorUnit

/-- The error of an outcome at a scope, if it has a message. -/
def ofOutcome? (scope : Scope) (outcome : Outcome) : Option ErrorUnit :=
  outcome.message?.map fun message => ⟨.ofScope scope, message⟩

/-- An error as JSON. -/
def toJson (unit : ErrorUnit) : Json := .ofMembers (unit.place.members ++ [("error", .string unit.error)])

/-- An error as one line. -/
def line (unit : ErrorUnit) : String :=
  unit.error ++ " at " ++ quoted unit.place.instanceLocation.text ++ " (keyword " ++
    quoted unit.place.keywordLocation.text ++ ")"

end ErrorUnit

/-- The result of a keyword or a sub-schema. -/
structure Result where
  valid : Bool
  place : ResultPlace
  error : Option String
  attached : Option Json

namespace Result

/-- The result of an outcome at a scope; attached values are told only on demand. -/
def ofOutcome (collect : CollectAnnotations) (scope : Scope) (outcome : Outcome) : Result :=
  { valid := outcome.isValid
    place := .ofScope scope
    error := outcome.message?
    attached := match collect with
      | .all => outcome.value?
      | .none => none }

/-- A valid result at the root that says nothing. -/
def blank : Result := ⟨true, .root, none, none⟩

/-- Whether a result tells neither an error nor a value. -/
def isSilent (result : Result) : Bool := result.error.isNone && result.attached.isNone

/-- A result as one line. -/
def line (result : Result) : String :=
  (if result.valid then "valid " else "invalid ") ++ quoted result.place.keywordLocation.text ++ " at " ++
    quoted result.place.instanceLocation.text ++
    (match result.error with | some error => ": " ++ error | none => "")

end Result

/-- A result with those of what it applied. -/
inductive ResultTree where
  | node (result : Result) (children : List ResultTree)

namespace ResultTree

/-- The result at the root. -/
def result : ResultTree → Result
  | .node result _ => result

/-- The results below the root. -/
def children : ResultTree → List ResultTree
  | .node _ children => children

mutual

/-- A tree as JSON; the results below a valid root count as annotations and others as errors. -/
def toJson : ResultTree → Json
  | .node result children =>
    .ofMembers (("valid", .bool result.valid) :: result.place.members ++
      (result.error.map fun error => ("error", Json.string error)).toList ++
      (result.attached.map fun value => ("annotation", value)).toList ++
      match children with
      | [] => []
      | child :: rest => [(if result.valid then "annotations" else "errors", .array (toJson child :: toJsons rest))])

/-- Trees as JSON. -/
def toJsons : List ResultTree → List Json
  | [] => []
  | tree :: rest => toJson tree :: toJsons rest

end

mutual

/-- A tree as lines, one for each result, indented by its level. -/
def lines (level : Nat) : ResultTree → List String
  | .node result children =>
    (String.ofList (List.replicate (2 * level) ' ') ++ result.line) :: linesOf (level + 1) children

/-- Trees as lines. -/
def linesOf (level : Nat) : List ResultTree → List String
  | [] => []
  | tree :: rest => lines level tree ++ linesOf level rest

end

end ResultTree

end JsonSchema
