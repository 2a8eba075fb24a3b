import JsonSchema.Json.Comparison

/-! # The types of instances

The seven type names of the `type` keyword. Every integer is also a number, and a number without
fractional part is an integer in either form.
-/

namespace JsonSchema

/-- A type name of JSON Schema. -/
inductive InstanceType where
  | null
  | boolean
  | integer
  | number
  | string
  | array
  | object
  deriving DecidableEq, Repr

namespace InstanceType

/-- All types, in the order of their declaration. -/
def all : List InstanceType := [.null, .boolean, .integer, .number, .string, .array, .object]

/-- The name of a type. -/
def name : InstanceType → String
  | .null => "null"
  | .boolean => "boolean"
  | .integer => "integer"
  | .number => "number"
  | .string => "string"
  | .array => "array"
  | .object => "object"

/-- The type of a name. -/
def ofName? (text : String) : Option InstanceType := all.find? (·.name == text)

/-- Whether a value is an instance of a type. -/
def admits : InstanceType → Json → Bool
  | .null, .null => true
  | .boolean, .bool _ => true
  | .integer, .number n => n.isIntegral
  | .number, .number _ => true
  | .string, .string _ => true
  | .array, .array _ => true
  | .object, .object _ => true
  | _, _ => false

/-- The most specific type of a value. -/
def ofJson : Json → InstanceType
  | .null => .null
  | .bool _ => .boolean
  | .number n => if n.isIntegral then .integer else .number
  | .string _ => .string
  | .array _ => .array
  | .object _ => .object

theorem admits_ofJson (value : Json) : (ofJson value).admits value = true := by
  cases value with
  | number n => by_cases h : n.isIntegral = true <;> simp [ofJson, admits, h]
  | _ => simp [ofJson, admits]

theorem ofName?_name (type : InstanceType) : ofName? type.name = some type := by
  cases type <;> rfl

end InstanceType

end JsonSchema
