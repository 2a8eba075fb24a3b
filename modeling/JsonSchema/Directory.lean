import JsonSchema.SchemaStore
import JsonSchema.Workspace

/-! # Directories of schemas

Every file below a directory whose name ends in `.json` is compiled as a schema that was retrieved from
the base URL joined with the file's relative path, or from the URL of the file itself. The first fault
ends the loading.
-/

namespace JsonSchema

/-- Why schemas cannot be loaded. -/
inductive LocateError where
  | compile (id : Url) (cause : CompileError)
  | file (cause : FileFault)
  | json (cause : JsonError)
  | walk (path : String) (cause : FileFault)
  | invalidPath (path : String)
  | invalidBase (uri : String) (cause : Url.ParseError)

namespace LocateError

/-- The wordings of the causes, from the nearest on. -/
def causes : LocateError → List String
  | .compile _ cause => [cause.message]
  | .file cause => [cause.message]
  | .json cause => [cause.message]
  | .walk path cause => ["IO error for operation on " ++ path ++ ": " ++ cause.message, cause.message]
  | .invalidPath _ => []
  | .invalidBase _ cause => [cause.message]

/-- The wording of a fault. -/
def message (error : LocateError) : String :=
  let cause := error.causes.headD ""
  match error with
  | .compile id _ => "Failed to compile schema '" ++ id.text ++ "': " ++ cause
  | .file _ => "IO error: " ++ cause
  | .json _ => "JSON error: " ++ cause
  | .walk _ _ => "Directory walk error: " ++ cause
  | .invalidPath path => "Invalid schema path '" ++ path ++ "'"
  | .invalidBase uri _ => "Invalid base URI '" ++ uri ++ "': " ++ cause

end LocateError

namespace Directory

/-- Whether a file below a directory holds a schema. -/
def isSchemaFile (path : String) (components : List String) : Bool :=
  extension? ((components.getLast? <|> (pathComponents path).getLast?).getD "") == some "json"

/-- The URL that a file is retrieved from when the directory has a base. -/
def retrievalUrl? (base : Url) (components : List String) : Option Url :=
  (base.join ("/".intercalate components)).toOption

variable {m : Type → Type} [Monad m]

/-- The URL of a file at a path. -/
def fileUrl (workspace : Workspace m) (path : String) : m (Except FileFault Url) := do
  return (← workspace.absolutePath path).map fun absolute => .ofFile (pathComponents absolute)

/-- The URL that a file is retrieved from. -/
def urlOf (workspace : Workspace m) (directory : String) (base : Option Url) (components : List String) :
    m (Except LocateError Url) := do
  let path := joinPath directory components
  match base with
  | some base =>
    match retrievalUrl? base components with
    | some url => return .ok url
    | none => return .error (.invalidPath path)
  | none => return (← fileUrl workspace path).mapError .file

/-- Compiles and registers the text of one schema. -/
def registerText (options : Options) (url : Url) (text : String) (store : SchemaStore) (dialects : DialectCache) :
    Except LocateError SchemaStore × DialectCache :=
  match Json.read text with
  | .error cause => (.error (.json cause), dialects)
  | .ok value =>
    let (registered, dialects) := store.registerValue options url value dialects
    (match registered with
      | .ok (_, store) => .ok store
      | .error cause => .error (.compile url cause), dialects)

/-- Loads schema files one after the other. -/
def loadFiles (workspace : Workspace m) (options : Options) (directory : String) (base : Option Url) :
    List (List String) → SchemaStore → DialectCache → m (Except LocateError SchemaStore × DialectCache)
  | [], store, dialects => return (.ok store, dialects)
  | components :: rest, store, dialects => do
    match ← urlOf workspace directory base components with
    | .error fault => return (.error fault, dialects)
    | .ok url =>
      match ← workspace.readText (joinPath directory components) with
      | .error fault => return (.error (.file fault), dialects)
      | .ok text =>
        match registerText options url text store dialects with
        | (.error fault, dialects) => return (.error fault, dialects)
        | (.ok store, dialects) => loadFiles workspace options directory base rest store dialects

/-- Loads all schemas below a directory. -/
def load (workspace : Workspace m) (options : Options) (directory : String) (base : Option Url)
    (dialects : DialectCache) : m (Except LocateError SchemaStore × DialectCache) := do
  match ← workspace.filesBelow directory with
  | .error fault => return (.error (.walk directory fault), dialects)
  | .ok files =>
    loadFiles workspace options directory base (files.filter (isSchemaFile directory)) .empty dialects

end Directory

end JsonSchema
