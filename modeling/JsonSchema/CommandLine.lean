import JsonSchema.CommandLine.Invocation
import JsonSchema.Configuration.Loading
import JsonSchema.Report

/-! # Command line

What each command does in a workspace. A command prints lines and ends with whether everything was in
order; a fault ends it early, and what was printed until then stays.
-/

namespace JsonSchema.CommandLine

/-- Why a command ends early. -/
inductive Fault where
  | configuration (cause : ConfigurationError)
  | schemas (cause : LocateError)
  | reading (path : String) (cause : FileFault)
  | parsing (path : String) (cause : JsonError)
  | resolving (path : String) (cause : FileFault)
  | writing (path : String) (cause : FileFault)
  /-- The configuration has no written form; the path is that of the file it was meant for. -/
  | unwritable (path : Option String)

/-- The wording of a fault, from its context to its last cause. -/
def Fault.message : Fault → String
  | .configuration cause => "loading configuration: " ++ cause.message
  | .schemas cause => ": ".intercalate ("loading configured schemas" :: cause.message :: cause.causes)
  | .reading path cause => "reading " ++ path ++ ": " ++ cause.message
  | .parsing path cause => "parsing " ++ path ++ ": " ++ cause.message
  | .resolving path cause => "resolving " ++ path ++ ": " ++ cause.message
  | .writing path cause => "writing " ++ path ++ ": " ++ cause.message
  | .unwritable none => "out-of-range value for u64 type"
  | .unwritable (some path) => "writing " ++ path ++ ": out-of-range value for u64 type"

/-- Work that prints and may end early. -/
abbrev Session (m : Type → Type) := ExceptT Fault (StateT String m)

variable {m : Type → Type} [Monad m]

/-- Prints a line. -/
def printLine (line : String) : Session m Unit := modify (· ++ line ++ "\n")

/-- Work in a workspace as part of a session. -/
def inWorkspace {α : Type} (work : m α) : Session m α := liftM (liftM work : StateT String m α)

/-- A result, or the fault that its failure is. -/
def orFault {α ε : Type} (fault : ε → Fault) (result : Except ε α) : Session m α :=
  match result with
  | .ok value => pure value
  | .error cause => throw (fault cause)

/-- The JSON value in a file. -/
def readJson (workspace : Workspace m) (path : String) : Session m Json := do
  let text ← orFault (.reading path) (← inWorkspace (workspace.readText path))
  orFault (.parsing path) (Json.read text)

/-- The options of a configuration. -/
def optionsOf (workspace : Workspace m) (configuration : Configuration) : Session m (Options × DialectCache) := do
  let (options, dialects) ← inWorkspace (configuration.options workspace [])
  return (← orFault .schemas options, dialects)

/-- Compiles the schema in a file, which is retrieved from the URL of the file. -/
def compileFile (workspace : Workspace m) (options : Options) (path : String) (dialects : DialectCache) :
    Session m (Except CompileError Schema × DialectCache) := do
  let value ← readJson workspace path
  let url ← orFault (.resolving path) (← inWorkspace (Directory.fileUrl workspace path))
  return Schema.compileWith options url value dialects

/-- The line about a schema that does not compile. -/
def rejection (path : String) (cause : CompileError) : String := "❌ " ++ path ++ " - " ++ cause.message

/-- Validates the instances in files, and tells whether all are valid. -/
def validateFiles (workspace : Workspace m) (options : Options) (format : OutputFormat) (schema : Schema) :
    List String → DialectCache → Session m Bool
  | [], _ => return true
  | path :: rest, dialects => do
    let value ← readJson workspace path
    let (report, dialects) := schema.validate options format value dialects
    printLine (if report.isValid then "  ✅ " ++ path ++ " - valid" else "  ❌ " ++ path ++ " - INVALID")
    if format ≠ .flag then printLine report.toJson.indented
    return (← validateFiles workspace options format schema rest dialects) && report.isValid

/-- Runs a task, and tells whether everything was in order. -/
def perform (workspace : Workspace m) (configuration : Configuration) : Task → Session m Bool
  | .validate path instances output => do
    let (options, dialects) ← optionsOf workspace configuration
    let (compiled, dialects) ← compileFile workspace options path dialects
    match compiled with
    | .error cause =>
      printLine (rejection path cause)
      return false
    | .ok schema =>
      printLine ("🔍 Validating " ++ decimalText instances.length ++ " instance(s) against " ++ path)
      validateFiles workspace options (output.getD configuration.output) schema instances dialects
  | .compile path => do
    let (options, dialects) ← optionsOf workspace configuration
    let (compiled, _) ← compileFile workspace options path dialects
    match compiled with
    | .error cause =>
      printLine (rejection path cause)
      printLine ("   └─ at '" ++ cause.location.text ++ "'")
      return false
    | .ok schema =>
      printLine ("✅ " ++ path ++ " compiled")
      printLine ("   id: " ++ schema.id.text)
      printLine ("   meta-schema: " ++ (schema.info?.map (·.dialect.id.text)).getD "")
      printLine ("   embedded resources: " ++ decimalText (schema.document.resources.size - 1))
      return true
  | .configuration none => do
    match configuration.toToml? with
    | some text => modify (· ++ text)
    | none => throw (.unwritable none)
    return true
  | .configuration (some path) => do
    match configuration.toToml? with
    | some text => orFault (.writing path) (← inWorkspace (workspace.writeText path text))
    | none => throw (.unwritable (some path))
    printLine ("✅ Configuration written to " ++ path)
    return true

/-- Loads the configuration and runs the task. -/
def session (workspace : Workspace m) (invocation : Invocation) : Session m Bool := do
  let configuration ← orFault .configuration (← inWorkspace (Configuration.load workspace invocation.configuration))
  perform workspace configuration invocation.task

/-- What a run of the program leaves behind. -/
structure Outcome where
  code : Nat
  output : String
  errors : String
  deriving DecidableEq

/-- Runs the program with arguments. -/
def run (workspace : Workspace m) (arguments : List String) : m Outcome := do
  match Invocation.ofArguments arguments with
  | .error (.help text) => return ⟨0, text, ""⟩
  | .error .misuse => return ⟨2, "", "error: unexpected arguments\n\nFor more information, try '--help'.\n"⟩
  | .ok invocation =>
    match ← (session workspace invocation).run.run "" with
    | (.ok true, output) => return ⟨0, output, ""⟩
    | (.ok false, output) => return ⟨1, output, ""⟩
    | (.error fault, output) => return ⟨1, output, "Error: " ++ fault.message ++ "\n"⟩

end JsonSchema.CommandLine
