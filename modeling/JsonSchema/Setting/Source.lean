import JsonSchema.Json.Reader
import JsonSchema.Setting.Number
import JsonSchema.Toml.Document

/-! # Sources of settings

Settings come from TOML documents, JSON documents and environment variables. The value of a variable is
read as a boolean, an integer or a floating-point number if it is one, and is a text otherwise.
-/

namespace JsonSchema.Setting

mutual

/-- A setting whose parts come from a place. -/
def located (origin : String) : Setting → Setting
  | .scalar _ value => .scalar (some origin) value
  | .list _ items => .list (some origin) (locatedItems origin items)
  | .table _ members => .table (some origin) (locatedMembers origin members)

/-- Items that come from a place. -/
def locatedItems (origin : String) : List Setting → List Setting
  | [] => []
  | item :: rest => located origin item :: locatedItems origin rest

/-- Members that come from a place. -/
def locatedMembers (origin : String) : List (String × Setting) → List (String × Setting)
  | [] => []
  | (key, value) :: rest => (key, located origin value) :: locatedMembers origin rest

end

mutual

/-- The setting of a TOML value; dates and times are texts. -/
def ofToml : Toml → Setting
  | .string text => .scalar none (.text text)
  | .integer value => .scalar none (.integer value)
  | .float value => .scalar none (.float value)
  | .boolean value => .scalar none (.boolean value)
  | .dateTime text => .scalar none (.text text)
  | .array items => .list none (itemsOfToml items)
  | .table members => .table none (membersOfToml members)

/-- The settings of items. -/
def itemsOfToml : List Toml → List Setting
  | [] => []
  | item :: rest => ofToml item :: itemsOfToml rest

/-- The settings of members. -/
def membersOfToml : List (String × Toml) → List (String × Setting)
  | [] => []
  | (key, value) :: rest => (key, ofToml value) :: membersOfToml rest

end

/-- The value of a JSON number; integers beyond 64 bits with sign are doubles. -/
def ofNumber : Number → Scalar
  | .integer value => if value < Word.half then .integer value else .float (.finite (.ofInt value))
  | .double value => .float (.finite value)

mutual

/-- The setting of a JSON value. -/
def ofJson : Json → Setting
  | .null => .scalar none .absent
  | .bool value => .scalar none (.boolean value)
  | .number value => .scalar none (ofNumber value)
  | .string text => .scalar none (.text text)
  | .array items => .list none (itemsOfJson items)
  | .object members => .table none (membersOfJson members)

/-- The settings of items. -/
def itemsOfJson : List Json → List Setting
  | [] => []
  | item :: rest => ofJson item :: itemsOfJson rest

/-- The settings of members. -/
def membersOfJson : List (String × Json) → List (String × Setting)
  | [] => []
  | (key, value) :: rest => (key, ofJson value) :: membersOfJson rest

end

/-! ## Environment variables -/

/-- The value that the text of a variable denotes. -/
def ofText (text : String) : Scalar :=
  if text.toLower = "true" then .boolean true
  else if text.toLower = "false" then .boolean false
  else
    match integer? text.toList, float? text.toList with
    | some value, _ => .integer value
    | none, some value => .float value
    | none, none => .text text

/-- The name of a setting from environment variables. -/
def environmentOrigin : String := "the environment"

/-- The key of the setting in a variable whose name starts with some text in any case; two underscores
lead into a table. -/
def keyOfVariable? (start name : String) : Option String :=
  let name := name.toLower
  if start.toLower.isPrefixOf name then some (((name.drop start.length).toString).replace "__" ".") else none

/-- The settings in variables whose names start with some text. -/
def ofVariables (start : String) (environment : List (String × String)) : List (String × Setting) :=
  environment.filterMap fun (name, text) =>
    (keyOfVariable? start name).map fun key => (key, .scalar (some environmentOrigin) (ofText text))

end JsonSchema.Setting
