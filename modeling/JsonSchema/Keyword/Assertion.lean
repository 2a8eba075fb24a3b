import JsonSchema.InstanceType
import JsonSchema.Json.Printer
import JsonSchema.Outcome
import JsonSchema.Pattern

/-! # Assertions

Keywords that look at the instance alone and apply no sub-schema. An assertion about one type of
values holds of all values of other types. The bounds on matches also need the number of items
that `contains` matched; without that number they hold.
-/

namespace JsonSchema

/-- A compiled assertion. -/
inductive Assertion where
  | type (types : List InstanceType)
  | const (value : Json)
  | enum (values : List Json)
  | multipleOf (divisor : Number)
  | limit (kind : Limit) (bound : Number)
  | count (kind : CountBound) (bound : Nat)
  | pattern (pattern : Pattern)
  | uniqueItems (demanded : Bool)
  | required (names : List String)
  | dependentRequired (requirements : List (String × List String))

/-- Whether a number that compares so with the bound is within the limit. -/
def Limit.admits : Limit → Ordering → Bool
  | .minimum, ordering => ordering != .lt
  | .exclusiveMinimum, ordering => ordering == .gt
  | .maximum, ordering => ordering != .gt
  | .exclusiveMaximum, ordering => ordering == .lt

/-- What a number within the limit is, compared with the bound. -/
def Limit.relation : Limit → String
  | .minimum => "greater than or equal to"
  | .exclusiveMinimum => "greater than"
  | .maximum => "less than or equal to"
  | .exclusiveMaximum => "less than"

/-- The count of a measure in an instance, given the number of items that `contains` matched. -/
def Measure.count? (matched : Option Nat) : Measure → Json → Option Nat
  | .length, .string text => some text.length
  | .items, .array values => some values.length
  | .matches, .array _ => matched
  | .properties, .object members => some members.length
  | _, _ => none

/-- Whether a count is within a bound. -/
def CountBound.admits : CountBound → Nat → Nat → Bool
  | .max _, bound, count => count ≤ bound
  | .min _, bound, count => bound ≤ count

/-- The measure of a bound. -/
def CountBound.measure : CountBound → Measure
  | .max measure => measure
  | .min measure => measure

/-- What a bound demands. -/
def CountBound.message (kind : CountBound) (bound : Nat) : String :=
  let n := toString bound
  match kind with
  | .max .length => "Must be at most " ++ n ++ " characters long"
  | .min .length => "Must be at least " ++ n ++ " characters long"
  | .max .items => "Must contain a maximum of " ++ n ++ " items"
  | .min .items => "Must contain a minimum of " ++ n ++ " items"
  | .max .matches => "Must contain a maximum of " ++ n ++ " items matching 'contains'"
  | .min .matches => "Must contain a minimum of " ++ n ++ " items matching 'contains'"
  | .max .properties => "Must have at most " ++ n ++ " properties"
  | .min .properties => "Must have at least " ++ n ++ " properties"

/-- A name in quotes. -/
def quoted (name : String) : String := "'" ++ name ++ "'"

/-- Names in quotes, between commas. -/
def quotedNames (names : List String) : String := ", ".intercalate (names.map quoted)

namespace Assertion

/-- The keyword of an assertion. -/
def keyword : Assertion → StandardKeyword
  | .type _ => .type
  | .const _ => .const
  | .enum _ => .enum
  | .multipleOf _ => .multipleOf
  | .limit kind _ => .limit kind
  | .count kind _ => .count kind
  | .pattern _ => .pattern
  | .uniqueItems _ => .uniqueItems
  | .required _ => .required
  | .dependentRequired _ => .dependentRequired

/-- The names that have no member. -/
def missing (names : List String) (members : List (String × Json)) : List String :=
  names.filter fun name => (assoc? name members).isNone

/-- The requirements of present members that are not met, each with the missing names. -/
def unmet (requirements : List (String × List String)) (members : List (String × Json)) :
    List (String × List String) :=
  (requirements.filter fun (name, _) => (assoc? name members).isSome).filterMap fun (name, names) =>
    match missing names members with
    | [] => none
    | absent => some (name, absent)

/-- Whether the instance satisfies an assertion. -/
def holds (matched : Option Nat) : Assertion → Json → Bool
  | .type types, value => types.any (·.admits value)
  | .const expected, value => value.equivalent expected
  | .enum values, value => values.any value.equivalent
  | .multipleOf divisor, .number n => n.isMultipleOf divisor
  | .limit kind bound, .number n => kind.admits (n.compare bound)
  | .count kind bound, value => (kind.measure.count? matched value).all (kind.admits bound)
  | .pattern source, .string text => source.isMatch text
  | .uniqueItems demanded, .array items => !demanded || Json.allDistinct items
  | .required names, .object members => (missing names members).isEmpty
  | .dependentRequired requirements, .object members => (unmet requirements members).isEmpty
  | _, _ => true

/-- What an instance that does not satisfy an assertion is told. -/
def message : Assertion → Json → String
  | .type [single], _ => "Must be of type " ++ quoted single.name
  | .type types, _ => "Must be one of the types " ++ quotedNames (types.map (·.name))
  | .const expected, _ => "Must be the constant value " ++ expected.compact
  | .enum _, _ => "Must be one of the enumerated values"
  | .multipleOf divisor, _ => "Must be a multiple of " ++ divisor.text
  | .limit kind bound, _ => "Must be " ++ kind.relation ++ " " ++ bound.text
  | .count kind bound, _ => kind.message bound
  | .pattern expected, _ => "Must match pattern " ++ quoted expected.source
  | .uniqueItems _, _ => "Must contain unique items"
  | .required names, value =>
    match missing names (value.members?.getD []) with
    | [name] => "Missing required property " ++ quoted name
    | absent => "Missing required properties " ++ quotedNames absent
  | .dependentRequired requirements, value =>
    "; ".intercalate ((unmet requirements (value.members?.getD [])).map fun (name, absent) =>
      "Property " ++ quoted name ++ " requires properties " ++ quotedNames absent ++ " to be present")

/-- The outcome of an assertion. -/
def check (assertion : Assertion) (matched : Option Nat) (value : Json) : Outcome :=
  .require (assertion.holds matched value) (assertion.message value)

theorem isValid_check (assertion : Assertion) (matched : Option Nat) (value : Json) :
    (assertion.check matched value).isValid = assertion.holds matched value := by
  simp [check]

end Assertion

end JsonSchema
