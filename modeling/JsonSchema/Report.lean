import JsonSchema.Report.Builder

/-! # Reports

A report tells the result of an evaluation in one of four shapes. The flag is the verdict. The basic
report lists the errors of invalid keywords, entering only what is invalid. The verbose report is the
tree of all results, and the detailed report condenses this tree. Each is what the builder of its shape
makes of the events of the evaluation.
-/

namespace JsonSchema

/-- The result of an evaluation in some shape. -/
inductive Report where
  | flag (valid : Bool)
  | basic (valid : Bool) (errors : List ErrorUnit)
  | tree (root : ResultTree)

namespace Report

/-- The report of an evaluation with the given events. -/
def ofEvents (format : OutputFormat) (collect : CollectAnnotations) (events : List Event) : Report :=
  match format with
  | .flag => .flag (events.foldl VerdictBuilder.step .initial).valid
  | .basic =>
    let builder := events.foldl ErrorBuilder.step .initial
    .basic builder.valid builder.errors
  | .detailed => .tree (events.foldl (TreeBuilder.step true collect) .initial).tree
  | .verbose => .tree (events.foldl (TreeBuilder.step false collect) .initial).tree

/-- The verdict that a report tells. -/
def isValid : Report → Bool
  | .flag valid => valid
  | .basic valid _ => valid
  | .tree root => root.result.valid

/-- A report as JSON. -/
def toJson : Report → Json
  | .flag valid => .ofMembers [("valid", .bool valid)]
  | .basic valid [] => .ofMembers [("valid", .bool valid)]
  | .basic valid errors => .ofMembers [("valid", .bool valid), ("errors", .array (errors.map (·.toJson)))]
  | .tree root => root.toJson

/-- A report as text. -/
def text : Report → String
  | .flag valid => "valid: " ++ toString valid
  | .basic valid errors => "\n  ".intercalate (("valid: " ++ toString valid) :: errors.map (·.line))
  | .tree root => "\n".intercalate (root.lines 0)

end Report

namespace Schema

/-- The report on an instance, and the dialects found on the way. -/
def validate (schema : Schema) (options : Options) (format : OutputFormat) (value : Json) (dialects : DialectCache) :
    Report × DialectCache :=
  let (trace, dialects) := schema.trace options value dialects
  (.ofEvents format options.collectAnnotations trace.events, dialects)

end Schema

end JsonSchema
