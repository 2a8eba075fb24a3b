import JsonSchema.Configuration
import JsonSchema.Configuration.Format

/-! # Loading configurations

Settings come from files in standard places, from a file of the user's choice and from environment
variables, each source laid over those before it. Files in standard places need not exist; the chosen
file must. Behind any of these names an extension may be left out.
-/

namespace JsonSchema

/-- Why no configuration can be loaded. -/
inductive ConfigurationError where
  | missingFile (name : String)
  | unknownFormat (path : String)
  | unreadable (cause : FileFault)
  | document (origin : String) (cause : DocumentFault)
  | setting (cause : SettingError)

/-- The wording of a fault. -/
def ConfigurationError.message : ConfigurationError → String
  | .missingFile name => "configuration file \"" ++ name ++ "\" not found"
  | .unknownFormat path => "configuration file \"" ++ path ++ "\" is not of a registered file format"
  | .unreadable cause => cause.message
  | .document origin cause => cause.message origin ++ " in " ++ origin
  | .setting cause => cause.message

namespace Configuration

/-- The names of configuration files in the working directory, the weakest first. -/
def standardNames : List String :=
  ["schema-validator.toml", ".schema-validator.toml", "config/schema-validator.toml"]

/-- The start of the names of environment variables that hold settings. -/
def variableStart : String := "SCHEMA_VALIDATOR__"

/-- The path of the user's configuration file, if the user has a place for such files. -/
def userFile? (environment : List (String × String)) : Option String :=
  let homes := (assoc? "XDG_CONFIG_HOME" environment).filter fun path => "/".isPrefixOf path
  let home := (assoc? "HOME" environment).filter fun path => !path.isEmpty
  (homes <|> home.map (joinPath · [".config"])).map (joinPath · ["schema-validator", "schema-validator.toml"])

variable {m : Type → Type} [Monad m]

/-- The absolute path of the directory that relative paths start from. -/
def workingDirectory (workspace : Workspace m) : m String := do
  return (← workspace.absolutePath ".").toOption.getD ""

/-- The path below a directory that leads to a place. -/
def pathBelow (directory path : String) : String := if "/".isPrefixOf path then path else joinPath directory [path]

/-- The path without what follows its last name; two dots are no name. -/
def upToName? (path : String) : Option String :=
  match (pathNames path).reverse.dropWhile fun name => name.isEmpty || name == "." with
  | [] => none
  | name :: before => if name == ".." then none else some ("/".intercalate (name :: before).reverse)

/-- The names that lead from one place to another. -/
def namesBetween : List String → List String → List String
  | [], there => there
  | here, [] => here.map fun _ => ".."
  | name :: here, other :: there =>
    if name == other then namesBetween here there else (name :: here).map (fun _ => "..") ++ other :: there

/-- The absolute path of a file as it is told, starting from a directory. -/
def originOf (directory path : String) : String :=
  let names (path : String) := (pathNames path).filter fun name => !name.isEmpty && name != "."
  "/".intercalate (namesBetween (names directory) (names path))

/-- The first file at a path with one of some extensions added. -/
def findExtended (workspace : Workspace m) (path : String) :
    List (String × ConfigurationFormat) → m (Option (String × ConfigurationFormat))
  | [] => return none
  | (ending, format) :: rest => do
    let extended := path ++ "." ++ ending
    if ← workspace.isFile extended then return some (extended, format)
    findExtended workspace path rest

/-- The file of a name below a directory, or with an extension added to its name. -/
def findFile (workspace : Workspace m) (directory name : String) :
    m (Except ConfigurationError (String × ConfigurationFormat)) := do
  let path := pathBelow directory name
  if ← workspace.isFile path then
    match ConfigurationFormat.ofFileName? ((pathNames path).getLast?.getD "") with
    | some format => return .ok (path, format)
    | none => return .error (.unknownFormat path)
  else
    let found ← match upToName? path with
      | some path => findExtended workspace path ConfigurationFormat.byExtension
      | none => pure none
    return found.elim (.error (.missingFile name)) .ok

/-- The settings of a file; a file that is not required may be out of reach. -/
def fileSettings (workspace : Workspace m) (required : Bool) (name : String) :
    m (Except ConfigurationError (List (String × Setting))) := do
  let directory ← workingDirectory workspace
  let optional (fault : ConfigurationError) : Except ConfigurationError (List (String × Setting)) :=
    if required then .error fault else .ok []
  match ← findFile workspace directory name with
  | .error fault => return optional fault
  | .ok (path, format) =>
    match ← workspace.readText path with
    | .error fault => return optional (.unreadable fault)
    | .ok text =>
      let origin := originOf directory path
      return (format.read origin text).mapError (.document origin)

/-- The settings of files laid over a setting; each file comes with whether it is required. -/
def overlayFiles (workspace : Workspace m) : List (String × Bool) → Setting → m (Except ConfigurationError Setting)
  | [], settings => return .ok settings
  | (name, required) :: rest, settings => do
    match ← fileSettings workspace required name with
    | .error fault => return .error fault
    | .ok source => overlayFiles workspace rest (Setting.overlay source settings)

/-- The configuration of a place, with a file of the user's choice if there is one. -/
def load (workspace : Workspace m) (chosen : Option String) : m (Except ConfigurationError Configuration) := do
  let environment ← workspace.environment
  let user ← match userFile? environment with
    | some path => do pure (if (← workspace.absolutePath path).toBool then [path] else [])
    | none => pure []
  let files := (standardNames ++ user).map (·, false) ++ (chosen.map (·, true)).toList
  match ← overlayFiles workspace files (.table none []) with
  | .error fault => return .error fault
  | .ok settings =>
    let settings := Setting.overlay (Setting.ofVariables variableStart environment) settings
    return (ofSettings settings).mapError .setting

end Configuration

end JsonSchema
