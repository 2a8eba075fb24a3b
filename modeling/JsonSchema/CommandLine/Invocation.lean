import JsonSchema.CommandLine.Form
import JsonSchema.OutputFormat

/-! # Invocations

The commands of the program and what their arguments ask for.
-/

namespace JsonSchema.CommandLine

/-- What can be asked for. -/
inductive Task where
  /-- To validate instances against a schema. -/
  | validate (schema : String) (instances : List String) (output : Option OutputFormat)
  /-- To compile a schema. -/
  | compile (schema : String)
  /-- To show the configuration, or to write it to a file. -/
  | configuration (file : Option String)
  deriving DecidableEq

/-- A task and the file with the configuration for it. -/
structure Invocation where
  configuration : Option String
  task : Task
  deriving DecidableEq

/-- The name of the program. -/
def program : String := "schema-validator"

/-- Whether a text can be the path of a file. -/
def isPath (text : String) : Bool := !text.isEmpty

/-- The form of `validate`. -/
def validateForm : CommandForm where
  call := program ++ " validate"
  summary := "Validate instance documents against a schema"
  options := [⟨some 's', "schema", "Schema file", true, isPath⟩,
    ⟨some 'o', "output", "Output format: flag, basic, detailed or verbose", false,
      fun text => (OutputFormat.parse text).toBool⟩]
  operand := some ⟨"INSTANCES", "Instance files", true⟩
  commands := []

/-- The form of `compile`. -/
def compileForm : CommandForm where
  call := program ++ " compile"
  summary := "Compile a schema and report build errors"
  options := []
  operand := some ⟨"SCHEMA", "Schema file", false⟩
  commands := []

/-- The form of `config`. -/
def configForm : CommandForm where
  call := program ++ " config"
  summary := "Print the effective configuration"
  options := [⟨none, "save", "Write it to this file instead", false, fun _ => true⟩]
  operand := none
  commands := []

/-- The summaries of all commands by their names. -/
def commandSummaries : List (String × String) :=
  [("validate", validateForm.summary), ("compile", compileForm.summary), ("config", configForm.summary),
    ("help", "Print this message or the help of the given subcommand(s)")]

/-- The form of the program. -/
def programForm : CommandForm where
  call := program
  summary := "Compile JSON Schemas and validate instances"
  options := [⟨some 'c', "config", "Configuration file (defaults to schema-validator.toml)", false, fun _ => true⟩]
  operand := none
  commands := commandSummaries

/-- The help text of `help`. -/
def helpOfHelp : String :=
  "Print this message or the help of the given subcommand(s)\n\nUsage: " ++ program ++ " help [COMMAND]...\n\n" ++
    String.join (helpTable "Arguments" [("[COMMAND]...", "Print help for the subcommand(s)")])

/-- What `help` answers. -/
def helpOn : List String → Refusal
  | [] => .help programForm.help
  | ["validate"] => .help validateForm.help
  | ["compile"] => .help compileForm.help
  | ["config"] => .help configForm.help
  | ["help"] => .help helpOfHelp
  | _ => .misuse

namespace Task

/-- The task of `validate`. -/
def ofValidate (reading : Reading) : Task :=
  .validate ((assoc? "schema" reading.values).getD "") reading.operands
    ((assoc? "output" reading.values).bind fun text => (OutputFormat.parse text).toOption)

/-- The task of a command with its arguments. -/
def ofArguments (command : String) (arguments : List String) : Except Refusal Task :=
  match command with
  | "validate" => (validateForm.read arguments).map ofValidate
  | "compile" => (compileForm.read arguments).map fun reading => .compile (reading.operands.headD "")
  | "config" => (configForm.read arguments).map fun reading => .configuration (assoc? "save" reading.values)
  | _ => .error (helpOn arguments)

end Task

/-- What the arguments of the program ask for. -/
def Invocation.ofArguments (arguments : List String) : Except Refusal Invocation := do
  let (reading, command) ← programForm.readArguments arguments {}
  match command with
  | some (command, arguments) =>
    let task ← Task.ofArguments command arguments
    let reading ← reading.settle
    return ⟨assoc? "config" reading.values, task⟩
  | none => throw .misuse

end JsonSchema.CommandLine
