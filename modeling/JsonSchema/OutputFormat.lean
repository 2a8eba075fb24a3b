/-! # Output formats

The four shapes in which the result of an evaluation can be reported, by name.
-/

namespace JsonSchema

/-- The shape of a report. -/
inductive OutputFormat where
  /-- The verdict alone. -/
  | flag
  /-- The verdict and the list of errors. -/
  | basic
  /-- The results that explain the verdict, as a condensed tree. -/
  | detailed
  /-- All results, as a tree. -/
  | verbose
  deriving DecidableEq

namespace OutputFormat

/-- All formats. -/
def all : List OutputFormat := [.flag, .basic, .detailed, .verbose]

/-- The name of a format. -/
def name : OutputFormat → String
  | .flag => "flag"
  | .basic => "basic"
  | .detailed => "detailed"
  | .verbose => "verbose"

/-- The format of a name. -/
def ofName? (text : String) : Option OutputFormat := all.find? (·.name == text)

/-- The format of a name in any mixture of cases, or what is wrong with the name. -/
def parse (text : String) : Except String OutputFormat :=
  match ofName? text.toLower with
  | some format => .ok format
  | none => .error ("Unknown output format: " ++ text.toLower)

theorem ofName?_name (format : OutputFormat) : ofName? format.name = some format := by
  cases format <;> rfl

end OutputFormat

end JsonSchema
